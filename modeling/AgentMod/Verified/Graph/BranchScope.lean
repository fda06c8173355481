import AgentMod.Library.Fan
import AgentMod.Verified.Graph.SingleEntry
import AgentMod.Verified.Graph.Region

/-! Branch-scoped variables stay in their branch exactly up to joins that the scope check mistakes. -/

namespace AgentMod

section CommonJoin

variable {graph : StringMap (List String)} {nodes : StringMap NodeDefinition} {branches : List String}

/-- A join that is reachable from a node. -/
def JoinReachable (graph : StringMap (List String)) (nodes : StringMap NodeDefinition)
    (branch join : String) : Prop :=
  Relation.ReflTransGen (fun source target => target ∈ neighbours graph source) branch join ∧
    nodes[join]?.any fun item => item.kind == .joinResults

theorem reachableJoins_spec (branch : String) : ∃ joins, reachableJoins branch graph nodes = .ok joins ∧
    ∀ join, join ∈ joins ↔ JoinReachable graph nodes branch join := by
  obtain ⟨reached, collects, member⟩ := @reachableFrom_spec graph branch
  refine ⟨reached.filter fun node => nodes[node]?.any fun item => item.kind == .joinResults, ?_, ?_⟩
  · simp only [reachableJoins, collects, bind_eq_ok, pure_eq_ok, Except.ok.injEq, exists_eq_left']
  · intro join
    rw [Std.ExtTreeSet.mem_filter, JoinReachable]
    -- Membership in the filtered set keeps the member and tests its kind.
    constructor
    · intro kept
      obtain ⟨present, kind⟩ := kept
      exact ⟨(member join).mp present, by simpa using kind⟩
    · intro reachable
      exact ⟨(member join).mpr reachable.1, by simpa using reachable.2⟩

theorem narrowJoins_spec (common : Option StringSet) (branch : String) : ∃ joins,
    narrowJoins graph nodes common branch = .ok (some joins) ∧
      ∀ join, join ∈ joins ↔ (∀ earlier ∈ common, join ∈ earlier) ∧
        JoinReachable graph nodes branch join := by
  obtain ⟨joins, collects, members⟩ := @reachableJoins_spec graph nodes branch
  simp only [narrowJoins, collects, bind_eq_ok, Except.ok.injEq, exists_eq_left']
  -- The first branch starts the intersection, later ones narrow it.
  cases common with
  | none => exact ⟨joins, rfl, by simpa using members⟩
  | some current =>
    exact ⟨current ∩ joins, rfl, fun join => by simp [Std.ExtTreeSet.mem_inter_iff, members]⟩

theorem foldlM_narrowJoins {common : Option StringSet} : ∃ result,
    branches.foldlM (narrowJoins graph nodes) common = .ok result ∧
      ∀ joins ∈ result, ∀ join, join ∈ joins ↔ (∀ earlier ∈ common, join ∈ earlier) ∧
        ∀ branch ∈ branches, JoinReachable graph nodes branch join := by
  induction branches generalizing common with
  | nil => exact ⟨common, rfl, fun joins present join => by simp_all⟩
  | cons branch rest ih =>
    obtain ⟨joins, narrows, members⟩ := @narrowJoins_spec graph nodes common branch
    obtain ⟨result, later, spec⟩ := @ih (some joins)
    refine ⟨result, by rw [List.foldlM_cons, narrows]; exact later, fun all present join => ?_⟩
    rw [spec all present join, List.forall_mem_cons]
    simp [members, and_assoc]

theorem commonJoin_spec : ∃ result, commonJoin branches graph nodes = .ok result ∧
    ∀ join ∈ result, (∀ branch ∈ branches, JoinReachable graph nodes branch join) ∧
      ∀ other, (∀ branch ∈ branches, JoinReachable graph nodes branch other) →
        compare join other ≠ .gt := by
  obtain ⟨common, collects, spec⟩ := @foldlM_narrowJoins graph nodes branches none
  refine ⟨common.bind fun joins => joins.toList.head?, ?_, fun join chosen => ?_⟩
  · rw [commonJoin, collects]
    rfl
  · obtain ⟨joins, present, first⟩ := Option.bind_eq_some_iff.mp chosen
    have members := spec joins present
    simp only [Option.mem_def, reduceCtorEq, false_implies, implies_true, true_and] at members
    obtain ⟨rest, listed⟩ := List.head?_eq_some_iff.mp first
    refine ⟨(members join).mp (Std.ExtTreeSet.mem_toList.mp (by simp [listed])), ?_⟩
    intro other reachable
    -- The listed joins are in order, so that the first precedes every other.
    have ordered := joins.ordered_toList
    have present := Std.ExtTreeSet.mem_toList.mpr ((members other).mpr reachable)
    rw [listed] at ordered present
    rcases List.mem_cons.mp present with rfl | later
    · simp
    · simp [List.rel_of_pairwise_cons ordered later]

end CommonJoin

section ScopeRegion

variable {definition : GraphDefinition} {nodes : StringMap NodeDefinition} {producer : String}
  {region : StringSet}

/-- The members of a parallel node's branch up to the common join of its branches. -/
def IsCommonRegion (graph : StringMap (List String)) (nodes : StringMap NodeDefinition)
    (parallel : NodeDefinition) (region : StringSet) : Prop :=
  ∃ join, commonJoin (neighbours graph parallel.id) graph nodes = .ok (some join) ∧
    ∃ branch ∈ neighbours graph parallel.id, branchMembers branch join graph = .ok region

theorem branchesWithProducer_spec (graph : StringMap (List String)) (parallel : NodeDefinition) :
    ∃ regions, branchesWithProducer graph nodes producer parallel = .ok regions ∧
      ∀ region, region ∈ regions ↔ producer ∈ region ∧ IsCommonRegion graph nodes parallel region := by
  obtain ⟨chosen, found, _⟩ := @commonJoin_spec graph nodes (neighbours graph parallel.id)
  simp only [branchesWithProducer, IsCommonRegion, found, bind_eq_ok, Except.ok.injEq,
    exists_eq_left']
  cases chosen with
  | none => exact ⟨[], rfl, by simp⟩
  | some join =>
    -- The members of every branch exist; the ones with the producer are kept.
    obtain ⟨members, collected⟩ := mapM_isOk.mpr
      fun branch (_ : branch ∈ neighbours graph parallel.id) =>
        (@branchMembers_spec graph branch join).imp fun _ spec => spec.1
    refine ⟨members.filter fun region => region.contains producer, ?_, fun region => ?_⟩
    · simp only [bind_eq_ok, pure_eq_ok]
      exact ⟨members, collected, rfl⟩
    · rw [List.mem_filter, mapM_mem collected, Std.ExtTreeSet.mem_iff_contains]
      simp [and_comm]

theorem producerRegions_spec : ∃ regions, producerRegions definition nodes producer = .ok regions ∧
    ∀ region, region ∈ regions ↔ producer ∈ region ∧ ∃ parallel ∈ nodes.values,
      parallel.kind = .parallelBranch ∧
        IsCommonRegion (adjacency definition) nodes parallel region := by
  have each := fun parallel => @branchesWithProducer_spec nodes producer (adjacency definition) parallel
  obtain ⟨regions, collected⟩ := mapM_isOk.mpr
    fun parallel (_ : parallel ∈ nodes.values.filter fun node => node.kind == .parallelBranch) =>
      (each parallel).imp fun _ spec => spec.1
  refine ⟨regions.flatten, ?_, fun region => ?_⟩
  · simp only [producerRegions, bind_eq_ok, pure_eq_ok]
    exact ⟨regions, collected, rfl⟩
  · rw [List.mem_flatten]
    constructor
    · intro found
      -- A collected region comes from the list of one parallel node.
      obtain ⟨own, listed, inside⟩ := found
      obtain ⟨parallel, kept, computed⟩ := (mapM_mem collected own).mp listed
      obtain ⟨isNode, kind⟩ := List.mem_filter.mp kept
      obtain ⟨again, recomputed, spec⟩ := each parallel
      obtain rfl := Except.ok.inj (computed.symm.trans recomputed)
      obtain ⟨holds, common⟩ := (spec region).mp inside
      exact ⟨holds, parallel, isNode, by simpa using kind, common⟩
    · intro found
      obtain ⟨holds, parallel, isNode, kind, common⟩ := found
      obtain ⟨own, computed, spec⟩ := each parallel
      have kept : parallel ∈ nodes.values.filter fun node => node.kind == .parallelBranch :=
        List.mem_filter.mpr ⟨isNode, by simp [kind]⟩
      exact ⟨own, (mapM_mem collected own).mpr ⟨parallel, kept, computed⟩,
        (spec region).mpr ⟨holds, common⟩⟩

theorem scopeRegion_eq_some (chosen : scopeRegion definition nodes producer = .ok (some region)) :
    ∃ regions, producerRegions definition nodes producer = .ok regions ∧ region ∈ regions ∧
      ∀ other ∈ regions, region.size ≤ other.size := by
  simp only [scopeRegion, bind_eq_ok, pure_eq_ok] at chosen
  obtain ⟨regions, collected, first⟩ := chosen
  obtain ⟨rest, sorted⟩ := List.head?_eq_some_iff.mp first
  have same := List.perm_insertionSort (fun left right : StringSet => left.size ≤ right.size) regions
  have total : Std.Total fun left right : StringSet => left.size ≤ right.size :=
    ⟨fun left right => Nat.le_total left.size right.size⟩
  have trans : IsTrans StringSet fun left right => left.size ≤ right.size :=
    ⟨fun _ _ _ => Nat.le_trans⟩
  have ordered := List.pairwise_insertionSort
    (fun left right : StringSet => left.size ≤ right.size) regions
  rw [sorted] at same ordered
  refine ⟨regions, collected, same.subset List.mem_cons_self, fun other member => ?_⟩
  -- In the sorted list, nothing is smaller than the head.
  rcases List.mem_cons.mp (same.symm.subset member) with rfl | later
  · exact Nat.le_refl _
  · exact List.rel_of_pairwise_cons ordered later

theorem validateVariableScope_branch {declaration : VariableDeclaration}
    (isScoped : declaration.scope = .branch)
    (accepted : validateVariableScope definition nodes declaration = .ok ()) :
    ∃ region, scopeRegion definition nodes declaration.producer = .ok (some region) ∧
      ∀ consumer ∈ declaration.consumers, consumer ∈ region := by
  simp only [validateVariableScope, isScoped, bind_eq_ok, exists_unit, rejectIf_eq_ok] at accepted
  obtain ⟨_, smallest, computed, holds⟩ := accepted
  cases smallest with
  | none => simp at holds
  | some region =>
    refine ⟨region, computed, fun consumer member => ?_⟩
    simp only [Option.any_some, Bool.not_eq_true', Bool.not_eq_false, List.all_eq_true] at holds
    exact Std.ExtTreeSet.mem_iff_contains.mpr (holds consumer (Std.ExtTreeSet.mem_toList.mpr member))

end ScopeRegion

section Nesting

theorem exists_other {α : Type} {items : List α} {item : α} (several : 2 ≤ items.length)
    (distinct : items.Nodup) : ∃ other ∈ items, other ≠ item := by
  match items, several with
  | first :: second :: rest, _ =>
    have differ : first ≠ second := by
      have apart := (List.nodup_cons.mp distinct).1
      intro same
      exact apart (by simp [same])
    -- At most one of the first two items can be the given one.
    by_cases same : first = item
    · exact ⟨second, by simp, fun again => differ (same.trans again.symm)⟩
    · exact ⟨first, by simp, same⟩

theorem StringSet.subset_of_size_le {left right : StringSet} (inside : ∀ item ∈ left, item ∈ right)
    (small : right.size ≤ left.size) : ∀ item ∈ right, item ∈ left := by
  have within : left.toList.Subperm right.toList :=
    List.subperm_of_subset StringSet.nodup_toList fun item member =>
      Std.ExtTreeSet.mem_toList.mpr (inside item (Std.ExtTreeSet.mem_toList.mp member))
  have lengths : right.toList.length ≤ left.toList.length := by
    rw [Std.ExtTreeSet.length_toList, Std.ExtTreeSet.length_toList]
    exact small
  -- A sublist that is no shorter is the whole list, up to order.
  have same := within.perm_of_length_le lengths
  intro item member
  exact Std.ExtTreeSet.mem_toList.mp (same.mem_iff.mpr (Std.ExtTreeSet.mem_toList.mpr member))

theorem mem_branches {definition : GraphDefinition} {parallel : NodeDefinition} {branch : String} :
    branch ∈ definition.branches parallel ↔
      branch ∈ neighbours (adjacency definition) parallel.id := by
  rw [mem_neighbours_adjacency, GraphDefinition.branches, List.mem_map, GraphDefinition.Step]
  simp [outgoingEdges, and_assoc]

variable [GraphCodec] [SerdeJson] {definition : GraphDefinition} {inputs : GraphCacheInputs}
  {limits : CompilerLimits} {nodes : StringMap NodeDefinition}
  {variableMap : StringMap VariableDeclaration} {parallel other : NodeDefinition}
  {configuration otherConfiguration : ParallelBranch} {declaration : VariableDeclaration}
  (valid : Validated definition inputs limits nodes variableMap)
include valid

theorem Validated.isFan (isParallel : definition.IsParallel parallel configuration)
    (joins : ∀ branch ∈ definition.branches parallel,
      JoinReachable (adjacency definition) nodes branch configuration.joinTarget) :
    Fan (neighbours (adjacency definition)) parallel.id configuration.joinTarget
      (· ∈ definition.branches parallel) := by
  obtain ⟨_, _, region, topology, _⟩ := valid.topology isParallel
  have member := fun branch isBranch => valid.mem_region (topology.regions branch isBranch)
  exact {
    fanned := fun branch => mem_branches
    apart := fun branch isBranch => (valid.inside_branch isParallel isBranch).kept
    several := fun branch _ =>
      exists_other (by rw [GraphDefinition.branches, List.length_map]; exact topology.several)
        topology.targets
    disjoint := fun left right isLeft isRight differ node inLeft inRight =>
      topology.disjoint left isLeft right isRight differ node ((member left isLeft node).mpr inLeft)
        ((member right isRight node).mpr inRight)
    entered := fun branch isBranch source target step inside =>
      valid.step_into isParallel isBranch (mem_neighbours_adjacency.mp step) inside
    joins := fun branch isBranch => (joins branch isBranch).1 }

theorem Validated.isParallel_of_kind (isNode : parallel ∈ definition.nodes)
    (kind : parallel.kind = .parallelBranch) :
    ∃ configuration, definition.IsParallel parallel configuration := by
  obtain ⟨owners, same, isOwner, _⟩ := validateParallelWrites_eq_ok.mp valid.parallels
  have listed : parallel ∈ parallelNodes nodes := by
    rw [parallelNodes, List.mem_filter, mem_values_collectNodes valid.collected, beq_iff_eq]
    exact ⟨isNode, kind⟩
  rw [← same] at listed
  obtain ⟨owner, member, rfl⟩ := List.mem_map.mp listed
  obtain ⟨_, _, _, topology, _, _⟩ := isOwner owner member
  exact ⟨owner.configuration, isNode, kind, topology.configured⟩

theorem Validated.commonJoin_first (common : definition.JoinsInCommon)
    (isParallel : definition.IsParallel parallel configuration) :
    (∀ branch ∈ definition.branches parallel,
      JoinReachable (adjacency definition) nodes branch configuration.joinTarget) ∧
    ∀ join, (∀ branch ∈ definition.branches parallel,
      JoinReachable (adjacency definition) nodes branch join) →
        compare configuration.joinTarget join ≠ .gt := by
  have found := common parallel configuration isParallel
  rw [valid.nodeMap_eq] at found
  obtain ⟨chosen, again, spec⟩ := @commonJoin_spec (adjacency definition) nodes
    (neighbours (adjacency definition) parallel.id)
  obtain rfl := Except.ok.inj (found.symm.trans again)
  obtain ⟨reachable, first⟩ := spec configuration.joinTarget rfl
  refine ⟨fun branch isBranch => reachable branch (mem_branches.mp isBranch), ?_⟩
  intro join all
  exact first join fun branch isBranch => all branch (mem_branches.mpr isBranch)

/-- Where configured joins are common ones, regions that share a node are nested. -/
theorem Validated.nested (common : definition.JoinsInCommon)
    (isParallel : definition.IsParallel parallel configuration)
    (isOther : definition.IsParallel other otherConfiguration) {branch otherBranch node : String}
    (isBranch : branch ∈ definition.branches parallel)
    (isOtherBranch : otherBranch ∈ definition.branches other)
    (inside : definition.Inside configuration.joinTarget branch node)
    (otherInside : definition.Inside otherConfiguration.joinTarget otherBranch node) :
    (∀ visited, definition.Inside configuration.joinTarget branch visited →
        definition.Inside otherConfiguration.joinTarget otherBranch visited) ∨
      ∀ visited, definition.Inside otherConfiguration.joinTarget otherBranch visited →
        definition.Inside configuration.joinTarget branch visited := by
  obtain ⟨joins, first⟩ := valid.commonJoin_first common isParallel
  obtain ⟨otherJoins, otherFirst⟩ := valid.commonJoin_first common isOther
  have fan := valid.isFan isParallel joins
  have otherFan := valid.isFan isOther otherJoins
  rcases fan.nested_or_mutual otherFan isBranch isOtherBranch inside otherInside with
    within | within | held
  · exact .inl within
  · exact .inr within
  · -- Joins that reach each other are common to both fan-outs, so that both chose the same one.
    have forward := Fan.Mutual.join_reaches fan otherFan isBranch isOtherBranch held
    have backward := Fan.Mutual.join_reaches otherFan fan isOtherBranch isBranch held.symm
    have before := first otherConfiguration.joinTarget fun start isStart =>
      ⟨(joins start isStart).1.trans forward, (otherJoins otherBranch isOtherBranch).2⟩
    have behind := otherFirst configuration.joinTarget fun start isStart =>
      ⟨(otherJoins start isStart).1.trans backward, (joins branch isBranch).2⟩
    have same : configuration.joinTarget = otherConfiguration.joinTarget := by
      have swapped : compare otherConfiguration.joinTarget configuration.joinTarget =
          (compare configuration.joinTarget otherConfiguration.joinTarget).swap :=
        Std.OrientedCmp.eq_swap
      rw [swapped] at behind
      cases order : compare configuration.joinTarget otherConfiguration.joinTarget with
      | lt => simp [order] at behind
      | eq => exact Std.LawfulEqCmp.compare_eq_iff_eq.mp order
      | gt => exact absurd order before
    exact absurd same.symm held.otherJoinInside.kept

theorem Validated.scope_checked (member : declaration ∈ definition.variables)
    (isScoped : declaration.scope = .branch) :
    ∃ region, scopeRegion definition nodes declaration.producer = .ok (some region) ∧
      ∀ consumer ∈ declaration.consumers, consumer ∈ region := by
  have accepted := valid.declaration member
  simp only [validateDeclaration, bind_eq_ok, exists_unit] at accepted
  exact validateVariableScope_branch isScoped (by tauto)

theorem Validated.consumer_of_read (member : declaration ∈ definition.variables)
    {node : NodeDefinition} (isNode : node ∈ definition.nodes)
    (reads : declaration.name ∈ node.readVariables) : node.id ∈ declaration.consumers := by
  obtain ⟨found, present, consumes⟩ := (valid.nodeAccesses isNode).reads declaration.name reads
  have known := valid.getElem?_variables.mpr ⟨member, rfl⟩
  obtain rfl := Option.some.inj (present.symm.trans known)
  exact consumes

theorem Validated.confines_iff (member : declaration ∈ definition.variables)
    (isScoped : declaration.scope = .branch) :
    definition.ConfinesVariable declaration ↔ definition.ConsumesNoExcess declaration := by
  obtain ⟨region, chosen, admitted⟩ := valid.scope_checked member isScoped
  constructor
  · intro confined
    obtain ⟨parallel, configuration, branch, innermost, consumers, _⟩ := confined
    refine ⟨parallel, configuration, branch, innermost, ?_⟩
    intro region chosen node inside outside consumes
    exact outside (consumers node consumes)
  · intro exact
    obtain ⟨parallel, configuration, branch, innermost, excess⟩ := exact
    -- The check admitted every consumer, so that one outside the region would be in the excess.
    have consumers : ∀ consumer ∈ declaration.consumers,
        definition.InRegion parallel configuration branch consumer := by
      intro consumer consumes
      by_contra outside
      rw [valid.nodeMap_eq] at excess
      exact excess region chosen consumer (admitted consumer consumes) outside consumes
    exact ⟨parallel, configuration, branch, innermost, consumers, fun node isNode reads =>
      consumers node.id (valid.consumer_of_read member isNode reads)⟩

/-- Where configured joins are common ones, the scope check uses the producer's innermost region. -/
theorem Validated.scopeRegion_innermost (common : definition.JoinsInCommon) {producer : String}
    {region : StringSet} (chosen : scopeRegion definition nodes producer = .ok (some region)) :
    ∃ parallel configuration branch,
      definition.IsInnermost parallel configuration branch producer ∧
        ∀ node ∈ region, definition.InRegion parallel configuration branch node := by
  obtain ⟨regions, collected, present, smallest⟩ := scopeRegion_eq_some chosen
  obtain ⟨again, recollected, members⟩ := @producerRegions_spec definition nodes producer
  obtain rfl := Except.ok.inj (collected.symm.trans recollected)
  obtain ⟨holds, parallel, isValue, kind, join, found, branch, isTarget, computed⟩ :=
    (members region).mp present
  have isNode := (mem_values_collectNodes valid.collected).mp isValue
  obtain ⟨configuration, isParallel⟩ := valid.isParallel_of_kind isNode kind
  have isBranch := mem_branches.mpr isTarget
  -- The common join is the configured one, so that the region is the branch's own.
  obtain rfl : configuration.joinTarget = join := by
    have configured := common parallel configuration isParallel
    rw [valid.nodeMap_eq] at configured
    simpa using configured.symm.trans found
  obtain ⟨_, recomputed, reached⟩ :=
    @branchMembers_spec (adjacency definition) branch configuration.joinTarget
  obtain rfl := Except.ok.inj (computed.symm.trans recomputed)
  have own : ∀ node, node ∈ region ↔ definition.InRegion parallel configuration branch node :=
    fun node => (reached node).trans (valid.inRegion_iff isParallel isBranch).symm
  refine ⟨parallel, configuration, branch, ?_, fun node => (own node).mp⟩
  refine ⟨isParallel, isBranch, (own producer).mp holds, ?_⟩
  intro other otherConfiguration isOther otherBranch isOtherBranch otherHolds
  -- Another region around the producer is nested with this one, and is no smaller.
  obtain ⟨otherRegion, otherComputed, otherReached⟩ :=
    @branchMembers_spec (adjacency definition) otherBranch otherConfiguration.joinTarget
  have otherOwn : ∀ node, node ∈ otherRegion ↔
      definition.InRegion other otherConfiguration otherBranch node :=
    fun node => (otherReached node).trans (valid.inRegion_iff isOther isOtherBranch).symm
  have listed : otherRegion ∈ regions := by
    have otherFound := common other otherConfiguration isOther
    rw [valid.nodeMap_eq] at otherFound
    exact (members otherRegion).mpr ⟨(otherOwn producer).mpr otherHolds, other,
      (mem_values_collectNodes valid.collected).mpr isOther.member, isOther.kind,
      otherConfiguration.joinTarget, otherFound, otherBranch, mem_branches.mp isOtherBranch,
      otherComputed⟩
  have nested := valid.nested common isParallel isOther isBranch isOtherBranch
    ((valid.inRegion_iff isParallel isBranch).mp ((own producer).mp holds))
    ((valid.inRegion_iff isOther isOtherBranch).mp otherHolds)
  simp only [← valid.inRegion_iff isParallel isBranch, ← valid.inRegion_iff isOther isOtherBranch,
    ← own, ← otherOwn] at nested ⊢
  rcases nested with within | within
  · exact within
  · exact StringSet.subset_of_size_le within (smallest otherRegion listed)

end Nesting

/-- In an accepted graph, a branch-scoped variable stays in the innermost branch of its producer
exactly when no consumer lies in the excess of the scope check's region, as in every graph whose
configured joins are the common ones. -/
theorem branch_scope_confined_iff [GraphCodec] [SerdeJson] [Hashing] {source : String}
    {inputs : GraphCacheInputs} {limits : CompilerLimits} {definition : GraphDefinition}
    (accepted : Accepts source inputs limits definition) :
    (∀ declaration ∈ definition.variables, declaration.scope = .branch →
      (definition.ConfinesVariable declaration ↔ definition.ConsumesNoExcess declaration)) ∧
    (definition.JoinsInCommon → ∀ declaration ∈ definition.variables, declaration.scope = .branch →
      definition.ConfinesVariable declaration) := by
  obtain ⟨nodes, variableMap, valid⟩ := accepted.validated
  refine ⟨fun declaration member isScoped => valid.confines_iff member isScoped, ?_⟩
  intro common declaration member isScoped
  obtain ⟨region, chosen, admitted⟩ := valid.scope_checked member isScoped
  obtain ⟨parallel, configuration, branch, innermost, inside⟩ :=
    valid.scopeRegion_innermost common chosen
  -- The check admitted the consumers to the innermost region itself.
  exact ⟨parallel, configuration, branch, innermost,
    fun consumer consumes => inside consumer (admitted consumer consumes),
    fun node isNode reads =>
      inside node.id (admitted node.id (valid.consumer_of_read member isNode reads))⟩

section Sample

attribute [local instance] sampleCodec noLiterals prefixHash

/-- The sample graph keeps its note in the left branch, up to the excess of the scope check. -/
theorem branch_scope_confined_sample :
    (∀ declaration ∈ sampleGraph.variables, declaration.scope = .branch →
      (sampleGraph.ConfinesVariable declaration ↔ sampleGraph.ConsumesNoExcess declaration)) ∧
    (sampleGraph.JoinsInCommon → ∀ declaration ∈ sampleGraph.variables,
      declaration.scope = .branch → sampleGraph.ConfinesVariable declaration) :=
  branch_scope_confined_iff accepts_sample

end Sample

section Row

attribute [local instance] rowCodec noLiterals prefixHash

/-- The evaluation of the compiler on the row. -/
instance accepted_row : Fact (Accepts rowSource agentInputs .default rowGraph) where
  out := accepts_iff.mpr ⟨parse_tomlText (by decide +kernel)
    (by simp [GraphCodec.definitionFromToml, rowSource, okOr]), by decide +kernel⟩

theorem accepts_row : Accepts rowSource agentInputs .default rowGraph := Fact.out

/-- The branches of the two parallel nodes in a row hold their entries only. -/
theorem inRegion_row {parallel : NodeDefinition} {configuration : ParallelBranch}
    {branch node : String} (isParallel : rowGraph.IsParallel parallel configuration)
    (isBranch : branch ∈ rowGraph.branches parallel)
    (inside : rowGraph.InRegion parallel configuration branch node) : node = branch := by
  obtain ⟨_, _, valid⟩ := accepts_row.validated
  have reached := (valid.inRegion_iff isParallel isBranch).mp inside
  -- Every branch entry leads to the join of its parallel node at once.
  have exits : ∀ target ∈ neighbours (adjacency rowGraph) branch,
      target = configuration.joinTarget := by
    obtain ⟨member, kind, configured⟩ := isParallel
    simp only [rowGraph, List.mem_cons, List.not_mem_nil, or_false] at member
    rcases member with rfl | rfl | rfl | rfl | rfl | rfl | rfl | rfl | rfl
    · obtain rfl : rowFanOut "z_join" = configuration := by
        simpa [rowFan, NodeDefinition.configured] using configured
      clear reached inside
      revert branch
      decide
    · cases kind
    · cases kind
    · cases kind
    · obtain rfl : rowFanOut "a_join" = configuration := by
        simpa [rowFan, NodeDefinition.configured] using configured
      clear reached inside
      revert branch
      decide
    · cases kind
    · cases kind
    · cases kind
    · cases kind
  have stays : ∀ source target, Reaches (· = configuration.joinTarget)
      (fun source => neighbours (adjacency rowGraph) source) branch source → source = branch →
        target ∈ neighbours (adjacency rowGraph) source →
          ¬ target = configuration.joinTarget → target = branch := by
    intro source target _ same step kept
    subst same
    exact absurd (exits target step) kept
  exact @Reaches.induct _ _ _ _ _ (fun node => node = branch) rfl stays reached

/-- An accepted branch-scoped variable can be consumed behind the join of its producer's branch. -/
theorem not_confinesVariable_row :
    Accepts rowSource agentInputs .default rowGraph ∧ rowNote ∈ rowGraph.variables ∧
      rowNote.scope = .branch ∧ ¬ rowGraph.ConfinesVariable rowNote := by
  refine ⟨accepts_row, by simp [rowGraph], rfl, ?_⟩
  intro confined
  obtain ⟨parallel, configuration, branch, innermost, consumers, _⟩ := confined
  have producer := inRegion_row innermost.isParallel innermost.isBranch innermost.inside
  have consumer := inRegion_row innermost.isParallel innermost.isBranch
    (consumers "c" (by simp [rowNote]))
  exact absurd (producer.trans consumer.symm) (by decide)

end Row

end AgentMod
