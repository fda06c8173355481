import AgentMod.Verified.Graph.Build
import AgentMod.Verified.Graph.Parallel

/-! Branch regions are entered through their fan-out and left through the join, up to the entry. -/

namespace AgentMod

section Accepted

variable [GraphCodec] [SerdeJson] {definition : GraphDefinition} {inputs : GraphCacheInputs}
  {limits : CompilerLimits} {nodes : StringMap NodeDefinition}
  {variableMap : StringMap VariableDeclaration} {parallel : NodeDefinition}
  {configuration : ParallelBranch}

section Topology

variable (valid : Validated definition inputs limits nodes variableMap)
include valid

theorem Validated.nodeMap_eq : definition.nodeMap = nodes := by
  rw [GraphDefinition.nodeMap, valid.collected]

theorem Validated.topology (isParallel : definition.IsParallel parallel configuration) :
    ∃ join joined region,
      IsTopology parallel (outgoingEdges definition parallel) (adjacency definition)
        (reverseAdjacency definition) nodes limits configuration join joined region ∧
      IsWriteSafe definition nodes variableMap parallel configuration := by
  obtain ⟨owners, same, isOwner, _⟩ := validateParallelWrites_eq_ok.mp valid.parallels
  have listed : parallel ∈ parallelNodes nodes := by
    rw [parallelNodes, List.mem_filter, mem_values_collectNodes valid.collected, beq_iff_eq]
    exact ⟨isParallel.member, isParallel.kind⟩
  rw [← same] at listed
  obtain ⟨owner, member, rfl⟩ := List.mem_map.mp listed
  obtain ⟨join, joined, region, topology, safe, _⟩ := isOwner owner member
  obtain rfl : owner.configuration = configuration := by
    simpa using topology.configured.symm.trans isParallel.configured
  exact ⟨join, joined, region, topology, safe⟩

theorem Validated.mem_region {branch join : String} {region : StringSet}
    (returned : parallelBranchRegion parallel.id branch join (adjacency definition) nodes = .ok region)
    (node : String) : node ∈ region ↔ definition.Inside join branch node := by
  have final : ∀ node found, nodes[node]? = some found → found.kind = .fail →
      neighbours (adjacency definition) node = [] := by
    intro node found present fails
    obtain ⟨member, rfl⟩ := (getElem?_collectNodes valid.collected).mp present
    refine List.eq_nil_iff_forall_not_mem.mpr fun target step => ?_
    exact valid.terminal_final ⟨found, member, rfl, by simp [fails, NodeKind.isTerminal]⟩
      (mem_neighbours_adjacency.mp step)
  rw [(parallelBranchRegion_eq_ok.mp returned).2 node, regionNeighbours_eq final]
  rfl

theorem Validated.inRegion_iff (isParallel : definition.IsParallel parallel configuration)
    {branch node : String} (branches : branch ∈ definition.branches parallel) :
    definition.InRegion parallel configuration branch node ↔
      definition.Inside configuration.joinTarget branch node := by
  obtain ⟨_, _, region, topology, _⟩ := valid.topology isParallel
  have returned := topology.regions branch branches
  rw [GraphDefinition.InRegion, valid.nodeMap_eq]
  constructor
  · rintro ⟨_, again, member⟩
    exact (valid.mem_region again node).mp member
  · exact fun inside => ⟨_, returned, (valid.mem_region returned node).mpr inside⟩

theorem Validated.inside_branch (isParallel : definition.IsParallel parallel configuration)
    {branch : String} (branches : branch ∈ definition.branches parallel) :
    definition.Inside configuration.joinTarget branch branch := by
  obtain ⟨_, _, _, topology, _⟩ := valid.topology isParallel
  obtain ⟨edge, member, rfl⟩ := List.mem_map.mp branches
  exact .refl (topology.fanouts edge member).apart

theorem Validated.inRegion_branch (isParallel : definition.IsParallel parallel configuration)
    {branch : String} (branches : branch ∈ definition.branches parallel) :
    definition.InRegion parallel configuration branch branch :=
  (valid.inRegion_iff isParallel branches).mpr (valid.inside_branch isParallel branches)

theorem Validated.step_into (isParallel : definition.IsParallel parallel configuration)
    {branch source target : String} (branches : branch ∈ definition.branches parallel)
    (step : definition.Step source target)
    (inside : definition.Inside configuration.joinTarget branch target) :
    target = branch ∧ source = parallel.id ∨
      definition.Inside configuration.joinTarget branch source := by
  obtain ⟨_, _, _, topology, _⟩ := valid.topology isParallel
  have member := valid.mem_region (topology.regions branch branches)
  have entries := topology.entries branch branches target ((member target).mpr inside) source
    (mem_neighbours_reverseAdjacency.mpr step)
  exact entries.imp id (member source).mp

omit [GraphCodec] [SerdeJson] valid in
theorem step_out {join branch source target : String} (step : definition.Step source target)
    (inside : definition.Inside join branch source) :
    definition.Inside join branch target ∨ target = join := by
  by_cases exit : target = join
  · exact .inr exit
  · exact .inl (inside.tail (mem_neighbours_adjacency.mpr step) exit)

theorem Validated.step_join (isParallel : definition.IsParallel parallel configuration)
    {source : String} (step : definition.Step source configuration.joinTarget) :
    ∃ branch ∈ definition.branches parallel,
      definition.Inside configuration.joinTarget branch source := by
  obtain ⟨_, _, _, topology, _⟩ := valid.topology isParallel
  obtain ⟨branch, branches, member⟩ :=
    topology.joinEntries source (mem_neighbours_reverseAdjacency.mpr step)
  exact ⟨branch, branches, (valid.mem_region (topology.regions branch branches) source).mp member⟩

theorem Validated.fail_of_final (isParallel : definition.IsParallel parallel configuration)
    {branch node : String} (branches : branch ∈ definition.branches parallel)
    (inside : definition.Inside configuration.joinTarget branch node)
    (final : ∀ target, ¬ definition.Step node target) : definition.HasKind .fail node := by
  obtain ⟨_, _, _, topology, _⟩ := valid.topology isParallel
  have returned := topology.regions branch branches
  have member := (valid.mem_region returned node).mpr inside
  obtain ⟨continues, reached⟩ := parallelBranchRegion_eq_ok.mp returned
  obtain ⟨found, present, kind⟩ := continues node ((reached node).mp member)
  obtain ⟨listed, rfl⟩ := (getElem?_collectNodes valid.collected).mp present
  rcases kind with fails | ⟨_, _, targets⟩
  · exact ⟨found, listed, rfl, fails⟩
  · exact absurd (List.eq_nil_iff_forall_not_mem.mpr fun target step =>
      final target (mem_neighbours_adjacency.mp step)) targets

/-- A parallel region is single-entry and single-exit unless the graph is entered in front of its
fan-out's join. -/
theorem Validated.singleEntrySingleExit_iff
    (isParallel : definition.IsParallel parallel configuration) :
    definition.SingleEntrySingleExit parallel configuration ↔
      definition.entry ≠ configuration.joinTarget ∧ ∀ branch ∈ definition.branches parallel,
        ¬ definition.Inside configuration.joinTarget branch definition.entry := by
  constructor
  · intro single
    constructor
    · -- The walk that only visits the entry would reach the join without the fan-out.
      intro same
      have early := single.joined [] [] (by simp) (by simp [same])
      simp at early
    · intro branch branches inside
      obtain ⟨earlier, between, same, starts, _⟩ := single.entered [] definition.entry [] (by simp) rfl
        branch branches ((valid.inRegion_iff isParallel branches).mpr inside)
      cases between with
      | nil => simp at starts
      | cons =>
        have lengths := congrArg List.length same
        simp only [List.nil_append, List.length_append, List.length_cons, List.length_nil] at lengths
        omega
  · rintro ⟨apart, outside⟩
    have entered : ∀ before node, (before ++ [node]).IsChain definition.Step →
        (before ++ [node]).head? = some definition.entry → ∀ branch ∈ definition.branches parallel,
          definition.Inside configuration.joinTarget branch node →
          ∃ earlier between, before ++ [node] = earlier ++ parallel.id :: between ∧
            between.head? = some branch ∧
            ∀ visited ∈ between, definition.Inside configuration.joinTarget branch visited := by
      intro before node chain starts branch branches inside
      refine entered_through (fun source target => valid.step_into isParallel branches) chain inside ?_
      intro start first
      obtain rfl := Option.some.inj (starts.symm.trans first)
      exact outside branch branches
    refine ⟨?_, ?_, ?_, ?_⟩
    · intro before node after chain starts branch branches
      simp only [valid.inRegion_iff isParallel branches]
      rw [List.append_cons] at chain starts
      refine entered before node (List.isChain_append.mp chain).1 ?_ branch branches
      simpa using starts
    · intro before after chain starts
      rcases List.eq_nil_or_concat before with rfl | ⟨init, previous, rfl⟩
      · exact absurd (Option.some.inj starts).symm apart
      · -- The node in front of the join lies in a region, which was entered from the fan-out.
        rw [List.concat_eq_append] at chain starts ⊢
        have walk := (List.isChain_append.mp chain).1
        rw [List.append_assoc] at chain
        obtain ⟨branch, branches, inside⟩ :=
          valid.step_join isParallel (List.isChain_append.mp chain).2.1.rel
        obtain ⟨earlier, between, same, _⟩ := entered init previous walk
          (by simpa using starts) branch branches inside
        rw [same]
        simp
    · intro branch branches rest chain
      simp only [valid.inRegion_iff isParallel branches]
      obtain ⟨between, after, same, stays, ends⟩ :=
        left_through (fun source target => step_out) (List.isChain_cons_cons.mp chain).2
          (valid.inside_branch isParallel branches)
      refine ⟨between, after, same, stays, ends.symm.imp_right fun empty => ⟨empty, ?_⟩⟩
      exact fun last listed final => valid.fail_of_final isParallel branches
        (stays last (List.mem_of_mem_getLast? listed)) final
    · intro branch branches run starts steps
      simp only [valid.inRegion_iff isParallel branches]
      refine endless_left_through (fun source target => step_out) steps ?_
      rw [starts]
      exact valid.inside_branch isParallel branches

end Topology

/-- In an accepted graph, a parallel region is single-entry and single-exit exactly when runs start
neither at its join nor at a node that one of its branches reaches in front of the join. -/
theorem singleEntrySingleExit_iff_entry_outside [Hashing] {source : String}
    (accepted : Accepts source inputs limits definition)
    (isParallel : definition.IsParallel parallel configuration) :
    definition.SingleEntrySingleExit parallel configuration ↔
      definition.entry ≠ configuration.joinTarget ∧ ∀ branch ∈ definition.branches parallel,
        ¬ definition.Inside configuration.joinTarget branch definition.entry := by
  obtain ⟨_, _, valid⟩ := accepted.validated
  exact valid.singleEntrySingleExit_iff isParallel

end Accepted

section Sample

attribute [local instance] sampleCodec noLiterals prefixHash

/-- The parallel region of the sample graph is single-entry and single-exit, if entered outside. -/
theorem singleEntrySingleExit_iff_sample :
    sampleGraph.SingleEntrySingleExit sampleFan sampleFanOut ↔
      "start" ≠ "join" ∧ ∀ branch ∈ sampleGraph.branches sampleFan,
        ¬ sampleGraph.Inside "join" branch "start" :=
  singleEntrySingleExit_iff_entry_outside accepts_sample isParallel_sampleFan

end Sample

section Inside

attribute [local instance] insideCodec noLiterals prefixHash

/-- The evaluation of the compiler on that graph. -/
instance accepted_inside : Fact (Accepts insideSource agentInputs .default insideGraph) where
  out := accepts_iff.mpr ⟨parse_tomlText (by decide +kernel)
    (by simp [GraphCodec.definitionFromToml, insideSource, okOr]), by decide +kernel⟩

theorem accepts_inside : Accepts insideSource agentInputs .default insideGraph := Fact.out

/-- A run of an accepted graph can start inside a region, which it did not enter by the fan-out. -/
theorem not_singleEntrySingleExit_inside :
    Accepts insideSource agentInputs .default insideGraph ∧
      insideGraph.IsParallel insideFan insideFanOut ∧
      ¬ insideGraph.SingleEntrySingleExit insideFan insideFanOut := by
  have isParallel : insideGraph.IsParallel insideFan insideFanOut :=
    ⟨by simp [insideGraph], rfl, rfl⟩
  refine ⟨accepts_inside, isParallel, fun single => ?_⟩
  obtain ⟨_, _, valid⟩ := accepts_inside.validated
  have outside := ((valid.singleEntrySingleExit_iff isParallel).mp single).2
  exact outside "left" (by decide) (.refl (by decide))

end Inside

end AgentMod
