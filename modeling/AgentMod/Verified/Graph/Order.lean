import AgentMod.Verified.Graph.Build
import AgentMod.Verified.Graph.Parallel
import Mathlib.Data.List.Find

/-! Compilation does not depend on the order in which a graph is declared. -/

namespace AgentMod

/-- Two definitions that differ only in the order of their nodes, edges and variables. -/
structure SameUpToOrder (left right : GraphDefinition) : Prop where
  formatVersion : left.formatVersion = right.formatVersion
  entry : left.entry = right.entry
  budget : left.budget = right.budget
  declarations : left.declarations = right.declarations
  «variables» : left.variables.Perm right.variables
  nodes : left.nodes.Perm right.nodes
  edges : left.edges.Perm right.edges

theorem SameUpToOrder.symm {left right : GraphDefinition} (same : SameUpToOrder left right) :
    SameUpToOrder right left where
  formatVersion := same.formatVersion.symm
  entry := same.entry.symm
  budget := same.budget.symm
  declarations := same.declarations.symm
  «variables» := same.variables.symm
  nodes := same.nodes.symm
  edges := same.edges.symm

section Lookup

variable {α : Type} {key : α → String} {duplicate : String → GraphError} {left right : List α}
  {collected : StringMap α}

theorem collectBy_perm (same : left.Perm right)
    (collects : collectBy key duplicate left = .ok collected) :
    collectBy key duplicate right = .ok collected := by
  obtain ⟨distinct, found⟩ := collectBy_spec collects
  obtain ⟨others, collectsOthers⟩ :=
    @collectBy_isOk _ key duplicate right ((same.map key).nodup_iff.mp distinct)
  have foundOthers := (collectBy_spec collectsOthers).2
  rw [collectsOthers]
  refine congrArg _ (Std.ExtTreeMap.ext_getElem? fun name => Option.ext fun value => ?_)
  rw [foundOthers, found, same.mem_iff]

theorem find?_perm (same : left.Perm right) (distinct : (left.map key).Nodup) (name : String) :
    left.find? (key · == name) = right.find? (key · == name) := by
  refine List.find?_eq_find?_of_perm same fun first inFirst second inSecond => ?_
  simp only [Set.mem_ofPred_eq, beq_iff_eq] at inFirst inSecond
  exact List.inj_on_of_nodup_map distinct inFirst.1 inSecond.1 (inFirst.2.trans inSecond.2.symm)

end Lookup

section Passes

variable {left right : GraphDefinition} {inputs : GraphCacheInputs}
  {limits : CompilerLimits} {nodes : StringMap NodeDefinition}
  {variableMap : StringMap VariableDeclaration} (same : SameUpToOrder left right)
include same

theorem SameUpToOrder.step_iff {source target : String} :
    left.Step source target ↔ right.Step source target := by
  simp only [GraphDefinition.Step, same.edges.mem_iff]

theorem SameUpToOrder.adjacency_eq : adjacency left = adjacency right := by
  refine Std.ExtTreeMap.ext_getElem? fun node => ?_
  simp only [adjacency, Std.ExtTreeMap.getElem?_map, getElem?_collectNeighbours,
    same.nodes.mem_iff, same.edges.mem_iff]
  split
  · refine congrArg some (congrArg Std.ExtTreeSet.toList (Std.ExtTreeSet.ext_mem fun target => ?_))
    simp only [Std.ExtTreeSet.mem_ofList, List.contains_iff_mem]
    exact ((same.edges.filter _).map _).mem_iff
  · rfl

theorem SameUpToOrder.mem_reverse_iff {source target : String} :
    source ∈ neighbours (reverseAdjacency left) target ↔
      source ∈ neighbours (reverseAdjacency right) target := by
  rw [mem_neighbours_reverseAdjacency, mem_neighbours_reverseAdjacency, same.step_iff]

theorem SameUpToOrder.bounds :
    validateVersionAndBounds left limits = validateVersionAndBounds right limits := by
  simp only [validateVersionAndBounds, same.formatVersion, same.nodes.length_eq,
    same.edges.length_eq, same.budget]

theorem SameUpToOrder.names :
    validateNames left limits = .ok () ↔ validateNames right limits = .ok () := by
  simp only [validateNames, bind_eq_ok, exists_unit, same.entry, same.declarations,
    forM_eq_ok, same.nodes.mem_iff]

theorem SameUpToOrder.validEdges :
    validateEdges left nodes limits = .ok () ↔ validateEdges right nodes limits = .ok () := by
  simp only [validateEdges_eq_ok, same.edges.mem_iff, same.edges.nodup_iff]

theorem SameUpToOrder.entries :
    validateEntryAndReachability left nodes = validateEntryAndReachability right nodes := by
  simp only [validateEntryAndReachability, same.entry, same.adjacency_eq]

theorem SameUpToOrder.configurationVariable_eq
    (distinct : (left.variables.map VariableDeclaration.name).Nodup) (node : NodeDefinition)
    (name : String) : configurationVariable node left name = configurationVariable node right name := by
  rw [configurationVariable, configurationVariable, find?_perm same.variables distinct]

theorem SameUpToOrder.any_edges (accepts : EdgeDefinition → Bool) :
    left.edges.any accepts = right.edges.any accepts :=
  same.edges.any_eq

theorem SameUpToOrder.terminations (collects : collectNodes left = .ok nodes) :
    validateTermination left nodes = .ok () ↔ validateTermination right nodes = .ok () := by
  have terminal : ∀ id, left.IsTerminal id ↔ right.IsTerminal id := by
    simp only [GraphDefinition.IsTerminal, same.nodes.mem_iff, implies_true]
  have steps : left.Step = right.Step := by
    funext source target
    exact propext same.step_iff
  rw [validateTermination_eq_ok collects,
    validateTermination_eq_ok (collectBy_perm same.nodes collects), steps]
  simp only [terminal]

theorem SameUpToOrder.acyclic : validateCycles left nodes = validateCycles right nodes := by
  simp only [validateCycles, same.adjacency_eq]

theorem SameUpToOrder.declaration_eq (declaration : VariableDeclaration) :
    validateDeclaration limits left nodes declaration =
      validateDeclaration limits right nodes declaration := by
  simp only [validateDeclaration, validateVariableScope, scopeRegion, producerRegions,
    same.adjacency_eq]

theorem SameUpToOrder.strictVariableAccess_eq :
    left.strictVariableAccess = right.strictVariableAccess := by
  simp only [GraphDefinition.strictVariableAccess, same.nodes.any_eq, same.variables.isEmpty_eq]

theorem SameUpToOrder.accesses [SerdeJson] :
    validateVariables left nodes variableMap limits = .ok () ↔
      validateVariables right nodes variableMap limits = .ok () := by
  simp only [validateVariables, bind_eq_ok, exists_unit, rejectIf_eq_ok, forM_eq_ok,
    same.variables.length_eq, same.variables.mem_iff, same.nodes.mem_iff, same.edges.mem_iff,
    same.declaration_eq, same.strictVariableAccess_eq]

theorem SameUpToOrder.outgoing (parallel : NodeDefinition) :
    (outgoingEdges left parallel).Perm (outgoingEdges right parallel) :=
  same.edges.filter _

theorem SameUpToOrder.topology {parallel join : NodeDefinition} {configuration : ParallelBranch}
    {joined : JoinResults} {region : String → StringSet}
    (topology : IsTopology parallel (outgoingEdges left parallel) (adjacency left)
      (reverseAdjacency left) nodes limits configuration join joined region) :
    IsTopology parallel (outgoingEdges right parallel) (adjacency right) (reverseAdjacency right)
      nodes limits configuration join joined region := by
  have edges := same.outgoing parallel
  have targets := edges.map EdgeDefinition.target
  obtain ⟨several, configured, capacity, joinNode, joinConfigured, fanouts, labels, distinct, members,
    policy, regions, disjoint, entries, joinEntries⟩ := topology
  simp only [edges.mem_iff, targets.mem_iff, edges.length_eq, same.adjacency_eq,
    same.mem_reverse_iff] at several capacity fanouts members policy regions disjoint entries joinEntries
  exact ⟨several, configured, capacity, joinNode, joinConfigured, fanouts,
    (edges.filterMap _).nodup_iff.mp labels, targets.nodup_iff.mp distinct, members, policy, regions,
    disjoint, entries, joinEntries⟩

theorem SameUpToOrder.writeSafe {parallel : NodeDefinition} {configuration : ParallelBranch}
    (safe : IsWriteSafe left nodes variableMap parallel configuration) :
    IsWriteSafe right nodes variableMap parallel configuration := by
  have branches := (same.outgoing parallel).map EdgeDefinition.target
  have split : ∀ join first second, InDifferentBranches right nodes parallel join first second ↔
      InDifferentBranches left nodes parallel join first second := by
    simp only [InDifferentBranches, GraphDefinition.branches, GraphDefinition.Inside,
      branches.mem_iff, same.adjacency_eq, implies_true]
  obtain ⟨scopes, shared, merged⟩ := safe
  simp only [← split] at scopes shared
  exact ⟨scopes, shared, merged⟩

/-- An owner and its counterpart in another order. -/
def Reordered (right : GraphDefinition) (nodes : StringMap NodeDefinition)
    (variableMap : StringMap VariableDeclaration) (limits : CompilerLimits)
    (owner other : ParallelRegions) : Prop :=
  other.parallel = owner.parallel ∧ other.configuration = owner.configuration ∧
    other.regions.Perm owner.regions ∧ owner.IsDisjoint ∧
    IsOwner right nodes variableMap limits other

theorem SameUpToOrder.exists_reordered {owner : ParallelRegions}
    (isOwner : IsOwner left nodes variableMap limits owner) :
    ∃ other, Reordered right nodes variableMap limits owner other := by
  have disjoint := isOwner.disjoint
  obtain ⟨join, joined, region, topology, safe, regions⟩ := isOwner
  refine ⟨{ owner with regions := (right.branches owner.parallel).map region }, rfl, rfl, ?_, disjoint,
    join, joined, region, same.topology topology, same.writeSafe safe, rfl⟩
  rw [regions]
  exact (((same.outgoing owner.parallel).map EdgeDefinition.target).map region).symm

omit same in
theorem Reordered.separates_iff {owner other : ParallelRegions}
    (reordered : Reordered right nodes variableMap limits owner other) (writers : StringSet) :
    owner.separates writers = true ↔ other.separates writers = true := by
  obtain ⟨_, _, regions, disjoint, isOwner⟩ := reordered
  rw [AgentMod.separates_iff disjoint, AgentMod.separates_iff isOwner.disjoint]
  simp only [ParallelRegions.Separates, regions.mem_iff]

theorem SameUpToOrder.parallels
    (accepted : validateParallelWrites left nodes variableMap limits = .ok ()) :
    validateParallelWrites right nodes variableMap limits = .ok () := by
  obtain ⟨owners, listed, isOwner, owned⟩ := validateParallelWrites_eq_ok.mp accepted
  obtain ⟨others, reordered⟩ :=
    exists_forall₂ fun owner member => same.exists_reordered (isOwner owner member)
  refine validateParallelWrites_eq_ok.mpr ⟨others, ?_, ?_, ?_⟩
  · have parallels : List.Forall₂ Eq (owners.map ParallelRegions.parallel)
        (others.map ParallelRegions.parallel) :=
      List.forall₂_map_left_iff.mpr <| List.forall₂_map_right_iff.mpr <|
        reordered.imp fun _ _ counterpart => counterpart.1.symm
    rw [List.forall₂_eq_eq_eq] at parallels
    rw [← parallels, listed]
  · have owns := reordered.flip.imp fun other owner counterpart =>
      (⟨counterpart.2.2.2.2, trivial⟩ : IsOwner right nodes variableMap limits other ∧ True)
    exact ((List.forall₂_and_left others owners).mp owns).1
  · intro declaration member contributed
    obtain ⟨owner, unique, policy⟩ := owned declaration member contributed
    have filtered := List.rel_filter
      (fun owner other counterpart => counterpart.separates_iff declaration.writers) reordered
    rw [unique, List.forall₂_cons_left_iff] at filtered
    obtain ⟨other, rest, counterpart, nothing, filtered⟩ := filtered
    rw [List.forall₂_nil_left_iff] at nothing
    refine ⟨other, by rw [filtered, nothing], ?_⟩
    rw [counterpart.2.1, policy]

variable [GraphCodec]

theorem SameUpToOrder.configuration_eq
    (distinct : (left.variables.map VariableDeclaration.name).Nodup) (node : NodeDefinition) :
    validateNodeConfiguration node nodes left limits =
      validateNodeConfiguration node nodes right limits := by
  have found := same.configurationVariable_eq distinct
  simp only [validateNodeConfiguration, validateConfigurationByKind, validateModelRequest,
    validateValueSource, validateProviderToolBatch, validateUserApproval, validateSpawnChildAgent,
    validateWaitForAgents, validateReview, validatePersistArtifact, validateSchedule,
    validateEmitEvent, validateCompleteTurn, validatePlugin, validateChildTaskSource,
    validateChildWorkspace, validateArtifacts, validateReviewInput, validateReviewRoutes,
    validateNodeResultVariable, validateConfigurationVariableType, validateConfigurationVariable,
    validateConfigurationOutputVariableType, found, same.any_edges, same.declarations, same.budget]

theorem SameUpToOrder.contracts [SerdeJson]
    (distinct : (left.variables.map VariableDeclaration.name).Nodup) :
    validateNodeContracts left nodes inputs limits = .ok () ↔
      validateNodeContracts right nodes inputs limits = .ok () := by
  have selected : ∀ node, validateSelection left node = validateSelection right node := by
    simp only [validateSelection, same.declarations, implies_true]
  simp only [validateNodeContracts, bind_eq_ok, exists_unit, rejectIf_eq_ok, forM_eq_ok,
    same.nodes.mem_iff, same.edges.mem_iff, same.declarations, selected,
    same.configuration_eq distinct]

end Passes

/-- Edges are ordered transitively. -/
instance : Std.TransCmp EdgeDefinition.order :=
  inferInstanceAs (Std.TransCmp (compareLex _ _))

theorem EdgeDefinition.eq_of_order_eq {first second : EdgeDefinition}
    (equal : EdgeDefinition.order first second = .eq) : first = second := by
  simp only [EdgeDefinition.order, compareLex_eq_eq, compareOn,
    Std.LawfulEqCmp.compare_eq_iff_eq] at equal
  obtain ⟨source, target, label, condition⟩ := equal
  cases first
  cases second
  simp_all

section Compile

variable [GraphCodec] [SerdeJson] {left right : GraphDefinition} {inputs : GraphCacheInputs}
  {limits : CompilerLimits} {nodes : StringMap NodeDefinition}
  {variableMap : StringMap VariableDeclaration} (same : SameUpToOrder left right)
include same

theorem SameUpToOrder.validated (valid : Validated left inputs limits nodes variableMap) :
    Validated right inputs limits nodes variableMap where
  bounds := same.bounds ▸ valid.bounds
  names := same.names.mp valid.names
  collected := collectBy_perm same.nodes valid.collected
  collectedVariables := collectBy_perm same.variables valid.collectedVariables
  edges := same.validEdges.mp valid.edges
  entry := same.entries ▸ valid.entry
  termination := (same.terminations valid.collected).mp valid.termination
  contracts := (same.contracts (collectBy_spec valid.collectedVariables).1).mp valid.contracts
  accesses := same.accesses.mp valid.accesses
  outputs := valid.outputs
  cycles := same.acyclic ▸ valid.cycles
  parallels := same.parallels valid.parallels

theorem SameUpToOrder.build_eq [Hashing] {source other : String}
    (valid : Validated left inputs limits nodes variableMap) :
    right.build other inputs limits =
      (fun executable => { executable with cacheKey := buildCacheKey other inputs }) <$>
        left.build source inputs limits := by
  have sortedNodes : sortBy (compareOn NodeDefinition.id) left.nodes =
      sortBy (compareOn NodeDefinition.id) right.nodes :=
    sortBy_eq same.nodes fun first inFirst second inSecond equal =>
      eq_of_id_eq valid.collected inFirst inSecond (Std.LawfulEqCmp.compare_eq_iff_eq.mp equal)
  have sortedEdges : sortBy EdgeDefinition.order left.edges = sortBy EdgeDefinition.order right.edges :=
    sortBy_eq same.edges fun _ _ _ _ => EdgeDefinition.eq_of_order_eq
  have sortedVariables : sortBy (compareOn VariableDeclaration.name) left.variables =
      sortBy (compareOn VariableDeclaration.name) right.variables :=
    sortBy_eq same.variables fun first inFirst second inSecond equal =>
      List.inj_on_of_nodup_map (collectBy_spec valid.collectedVariables).1 inFirst inSecond
        (Std.LawfulEqCmp.compare_eq_iff_eq.mp equal)
  simp only [GraphDefinition.build, map_bind, map_pure, sortedNodes, sortedEdges, sortedVariables,
    same.entry, same.formatVersion, same.budget, same.declarations]

end Compile

section Accepted

variable [GraphCodec] [SerdeJson] [Hashing]

variable {left right : GraphDefinition} {source other : String} {inputs : GraphCacheInputs}
  {limits : CompilerLimits} {executable : ExecutableGraph}

theorem SameUpToOrder.compile_eq (same : SameUpToOrder left right)
    (spells : GraphDefinition.parse source limits = .ok left)
    (respells : GraphDefinition.parse other limits = .ok right)
    (compiles : compile source inputs limits = .ok executable) :
    compile other inputs limits =
      .ok { executable with cacheKey := buildCacheKey other inputs } := by
  obtain ⟨parsed, again, accepted, built⟩ := compile_eq_ok.mp compiles
  obtain rfl : left = parsed := Except.ok.inj (spells.symm.trans again)
  obtain ⟨nodes, variableMap, valid⟩ := validate_eq_ok.mp accepted
  refine compile_eq_ok.mpr ⟨right, respells,
    validate_eq_ok.mpr ⟨nodes, variableMap, same.validated valid⟩, ?_⟩
  rw [same.build_eq valid, built]
  rfl

/-- Whether and to what a source compiles does not depend on the order of its declarations. -/
theorem compile_order_independent (same : SameUpToOrder left right)
    (spells : GraphDefinition.parse source limits = .ok left)
    (respells : GraphDefinition.parse other limits = .ok right) :
    ((∃ executable, compile source inputs limits = .ok executable) ↔
      ∃ executable, compile other inputs limits = .ok executable) ∧
    ∀ executable reordered, compile source inputs limits = .ok executable →
      compile other inputs limits = .ok reordered →
      reordered = { executable with cacheKey := { executable.cacheKey with
        graphContentHash := reordered.cacheKey.graphContentHash
        combinedHash := reordered.cacheKey.combinedHash } } := by
  refine ⟨⟨fun ⟨_, compiles⟩ => ⟨_, same.compile_eq spells respells compiles⟩,
    fun ⟨_, compiles⟩ => ⟨_, same.symm.compile_eq respells spells compiles⟩⟩, ?_⟩
  intro executable reordered compiles recompiles
  have reorders := same.compile_eq spells respells compiles
  obtain rfl := Except.ok.inj (recompiles.symm.trans reorders)
  obtain ⟨_, _, _, built⟩ := compile_eq_ok.mp compiles
  have key : executable.cacheKey = buildCacheKey source inputs := by
    simp only [GraphDefinition.build, bind_eq_ok, pure_eq_ok] at built
    obtain ⟨_, _, _, _, _, _, rfl⟩ := built
    rfl
  rw [key]
  rfl

end Accepted

section Sample

attribute [local instance] sampleCodec noLiterals prefixHash

/-- Both orders of the sample graph compile to the same executable graph. -/
theorem compile_order_independent_sample :
    ((∃ executable, compile sampleSource agentInputs .default = .ok executable) ↔
      ∃ executable, compile reorderedSource agentInputs .default = .ok executable) ∧
    ∀ executable reordered, compile sampleSource agentInputs .default = .ok executable →
      compile reorderedSource agentInputs .default = .ok reordered →
      reordered = { executable with cacheKey := { executable.cacheKey with
        graphContentHash := reordered.cacheKey.graphContentHash
        combinedHash := reordered.cacheKey.combinedHash } } := by
  have same : SameUpToOrder sampleGraph reorderedGraph :=
    ⟨rfl, rfl, rfl, rfl, (List.reverse_perm _).symm, (List.reverse_perm _).symm,
      (List.reverse_perm _).symm⟩
  exact compile_order_independent same parse_sample parse_reordered

end Sample

end AgentMod
