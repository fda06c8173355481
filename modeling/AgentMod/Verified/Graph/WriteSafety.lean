import AgentMod.Verified.Graph.Build
import AgentMod.Verified.Graph.SingleEntry
import AgentMod.Verified.Graph.Region

/-! Nodes of different branches write no common scope, and share only variables that are merged. -/

namespace AgentMod

section Accepted

variable [GraphCodec] [SerdeJson] {definition : GraphDefinition} {inputs : GraphCacheInputs}
  {limits : CompilerLimits} {nodes : StringMap NodeDefinition}
  {variableMap : StringMap VariableDeclaration} {parallel : NodeDefinition}
  {configuration : ParallelBranch}

section Ownership

variable (valid : Validated definition inputs limits nodes variableMap)
include valid

theorem Validated.separates_iff {owner : ParallelRegions}
    (isOwner : IsOwner definition nodes variableMap limits owner) (writers : StringSet) :
    owner.separates writers = true ↔
      definition.SeparatesWriters owner.parallel owner.configuration writers := by
  rw [AgentMod.separates_iff isOwner.disjoint]
  obtain ⟨_, _, region, topology, _, regions⟩ := isOwner
  have inRegion : ∀ branch ∈ definition.branches owner.parallel, ∀ node,
      definition.InRegion owner.parallel owner.configuration branch node ↔ node ∈ region branch := by
    intro branch branches node
    rw [GraphDefinition.InRegion, valid.nodeMap_eq, topology.regions branch branches]
    simp
  simp only [ParallelRegions.Separates, regions, List.mem_map, exists_exists_and_eq_and,
    forall_exists_index, and_imp, forall_apply_eq_imp_iff₂, GraphDefinition.SeparatesWriters]
  refine and_congr (forall₂_congr fun writer _ => exists_congr fun branch =>
    and_congr_right fun branches => (inRegion branch branches writer).symm) ?_
  refine forall₂_congr fun branch branches => forall₄_congr fun first _ second _ => ?_
  rw [inRegion branch branches, inRegion branch branches]

theorem Validated.owners : ∃ owners : List ParallelRegions,
    (∀ owner ∈ owners, IsOwner definition nodes variableMap limits owner ∧
      definition.IsParallel owner.parallel owner.configuration) ∧
    (∀ parallel configuration, definition.IsParallel parallel configuration →
      ∃ owner ∈ owners, owner.parallel = parallel ∧ owner.configuration = configuration) ∧
    ∀ declaration ∈ definition.variables, declaration.mergeContributors.isEmpty = false →
      ∃ owner, owners.filter (fun owner => owner.separates declaration.writers) = [owner] ∧
        owner.configuration.variableMergePolicies[declaration.name]? = declaration.mergePolicy := by
  obtain ⟨owners, same, isOwner, owned⟩ := validateParallelWrites_eq_ok.mp valid.parallels
  have listed : ∀ node, node ∈ owners.map ParallelRegions.parallel ↔
      node ∈ definition.nodes ∧ node.kind = .parallelBranch := by
    intro node
    rw [same, parallelNodes, List.mem_filter, mem_values_collectNodes valid.collected, beq_iff_eq]
  refine ⟨owners, fun owner member => ⟨isOwner owner member, ?_⟩, ?_, ?_⟩
  · obtain ⟨_, _, _, topology, _⟩ := isOwner owner member
    obtain ⟨inNodes, kind⟩ := (listed owner.parallel).mp (List.mem_map_of_mem member)
    exact ⟨inNodes, kind, topology.configured⟩
  · intro parallel configuration isParallel
    obtain ⟨owner, member, rfl⟩ :=
      List.mem_map.mp ((listed parallel).mpr ⟨isParallel.member, isParallel.kind⟩)
    obtain ⟨_, _, _, topology, _⟩ := isOwner owner member
    exact ⟨owner, member, rfl, by simpa using topology.configured.symm.trans isParallel.configured⟩
  · intro declaration member contributed
    refine owned declaration (StringMap.mem_values.mpr ⟨declaration.name, ?_⟩) contributed
    exact valid.getElem?_variables.mpr ⟨member, rfl⟩

theorem Validated.merge_owned {declaration : VariableDeclaration}
    (member : declaration ∈ definition.variables)
    (contributed : declaration.mergeContributors.isEmpty = false) :
    ∃ parallel configuration, definition.IsParallel parallel configuration ∧
      definition.SeparatesWriters parallel configuration declaration.writers ∧
      configuration.variableMergePolicies[declaration.name]? = declaration.mergePolicy ∧
      ∀ other otherConfiguration, definition.IsParallel other otherConfiguration →
        definition.SeparatesWriters other otherConfiguration declaration.writers →
          other = parallel := by
  obtain ⟨owners, isOwner, all, owned⟩ := valid.owners
  obtain ⟨owner, unique, policy⟩ := owned declaration member contributed
  obtain ⟨inOwners, separates⟩ := List.mem_filter.mp (unique ▸ List.mem_singleton_self owner)
  refine ⟨owner.parallel, owner.configuration, (isOwner owner inOwners).2,
    (valid.separates_iff (isOwner owner inOwners).1 _).mp separates, policy, ?_⟩
  intro other otherConfiguration isParallel separatesOther
  obtain ⟨found, inOthers, rfl, rfl⟩ := all other otherConfiguration isParallel
  have listed : found ∈ owners.filter fun owner => owner.separates declaration.writers :=
    List.mem_filter.mpr ⟨inOthers,
      (valid.separates_iff (isOwner found inOthers).1 declaration.writers).mpr separatesOther⟩
  rw [unique, List.mem_singleton] at listed
  rw [listed]

end Ownership

/-- In an accepted graph, nodes of different branches of a parallel node without serialization write
no common scope, and the variables that both write are branch-scoped or merged by one owner. -/
theorem parallel_writes_safe [Hashing] {source left right : String} {first second : NodeDefinition}
    (accepted : Accepts source inputs limits definition)
    (isParallel : definition.IsParallel parallel configuration)
    (unserialized : configuration.serializationPolicy = none)
    (leftBranch : left ∈ definition.branches parallel)
    (rightBranch : right ∈ definition.branches parallel) (differ : left ≠ right)
    (firstNode : first ∈ definition.nodes) (secondNode : second ∈ definition.nodes)
    (inLeft : definition.InRegion parallel configuration left first.id)
    (inRight : definition.InRegion parallel configuration right second.id) :
    (∀ scope ∈ first.writeScopes, scope ∉ second.writeScopes) ∧
      ∀ name ∈ first.writeVariables, name ∈ second.writeVariables →
        ∃ declaration ∈ definition.variables, declaration.name = name ∧
          (declaration.scope = .branch ∨ definition.OwnsMerge declaration first.id second.id) := by
  obtain ⟨nodes, variableMap, valid⟩ := accepted.validated
  obtain ⟨_, _, region, topology, safe⟩ := valid.topology isParallel
  have split : InDifferentBranches definition nodes parallel configuration.joinTarget first second :=
    ⟨left, leftBranch, right, rightBranch, differ, first.id, second.id,
      (valid.inRegion_iff isParallel leftBranch).mp inLeft,
      (getElem?_collectNodes valid.collected).mpr ⟨firstNode, rfl⟩,
      (valid.inRegion_iff isParallel rightBranch).mp inRight,
      (getElem?_collectNodes valid.collected).mpr ⟨secondNode, rfl⟩⟩
  refine ⟨safe.scopes unserialized first second split, fun name inFirst inSecond => ?_⟩
  obtain ⟨declaration, found, firstWrites⟩ := (valid.nodeAccesses firstNode).writes name inFirst
  obtain ⟨other, again, secondWrites⟩ := (valid.nodeAccesses secondNode).writes name inSecond
  obtain rfl : declaration = other := Option.some.inj (found.symm.trans again)
  obtain ⟨member, rfl⟩ := valid.getElem?_variables.mp found
  refine ⟨declaration, member, rfl, .inr ?_⟩
  -- Regions are disjoint, so that at most one of the writers is the producer.
  have apart : first.id ≠ second.id := by
    intro same
    have returned := topology.regions
    refine topology.disjoint left leftBranch right rightBranch differ first.id
      ((valid.mem_region (returned left leftBranch) _).mpr
        ((valid.inRegion_iff isParallel leftBranch).mp inLeft))
      ((valid.mem_region (returned right rightBranch) _).mpr ?_)
    rw [same]
    exact (valid.inRegion_iff isParallel rightBranch).mp inRight
  have contributed : declaration.mergeContributors.isEmpty = false := by
    rw [Std.ExtTreeSet.isEmpty_eq_false_iff]
    intro empty
    simp only [empty, Std.ExtTreeSet.not_mem_empty, or_false] at firstWrites secondWrites
    exact apart (firstWrites.symm.trans secondWrites)
  have requirements := validateMergeContributorRequirements_eq_ok.mp
    (valid.mergeRequirements member) contributed
  exact {
    merged := Option.isSome_iff_ne_none.mpr requirements.2.2.2
    firstListed := fun other => firstWrites.resolve_left fun same => other same.symm
    secondListed := fun other => secondWrites.resolve_left fun same => other same.symm
    owned := valid.merge_owned member contributed }

end Accepted

section Sample

attribute [local instance] sampleCodec noLiterals prefixHash

/-- The branches of the sample graph share the findings only, which are merged. -/
theorem parallel_writes_safe_sample :
    (∀ scope ∈ sampleLeft.writeScopes, scope ∉ sampleRight.writeScopes) ∧
      ∀ name ∈ sampleLeft.writeVariables, name ∈ sampleRight.writeVariables →
        ∃ declaration ∈ sampleGraph.variables, declaration.name = name ∧
          (declaration.scope = .branch ∨ sampleGraph.OwnsMerge declaration "left" "right") := by
  obtain ⟨_, _, valid⟩ := accepts_sample.validated
  have leftBranch : "left" ∈ sampleGraph.branches sampleFan := by decide
  have rightBranch : "right" ∈ sampleGraph.branches sampleFan := by decide
  exact parallel_writes_safe accepts_sample isParallel_sampleFan rfl leftBranch rightBranch
    (by decide) (by simp [sampleGraph]) (by simp [sampleGraph])
    (valid.inRegion_branch isParallel_sampleFan leftBranch)
    (valid.inRegion_branch isParallel_sampleFan rightBranch)

end Sample

end AgentMod
