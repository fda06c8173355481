import AgentMod.Verified.Graph.Structure

/-! What the passes over variables accept, and what the traversals of parallel branches compute. -/

namespace AgentMod

variable {graph : StringMap (List String)} {nodes : StringMap NodeDefinition}
  {parallel branch join : String} {region : StringSet}

/-- The neighbours that a region follows: all of them, but none behind a failure. -/
def regionNeighbours (graph : StringMap (List String)) (nodes : StringMap NodeDefinition)
    (node : String) : List String :=
  if nodes[node]?.any fun definition => definition.kind == .fail then [] else neighbours graph node

/-- A node of a region fails, or continues towards the join. -/
def Continues (graph : StringMap (List String)) (nodes : StringMap NodeDefinition)
    (node : String) : Prop :=
  ∃ definition, nodes[node]? = some definition ∧ (definition.kind = .fail ∨
    definition.kind ≠ .completeTurn ∧ definition.kind ≠ .completeSession ∧
      neighbours graph node ≠ [])

theorem branchTargets_eq_ok {node : String} {targets : List String} :
    branchTargets parallel branch graph nodes node = .ok targets ↔
      Continues graph nodes node ∧ targets = regionNeighbours graph nodes node := by
  unfold branchTargets Continues regionNeighbours
  cases nodes[node]? with
  | none => simp
  | some definition =>
    cases kind : definition.kind <;> by_cases final : neighbours graph node = [] <;>
      simp [kind, final] <;> exact eq_comm

theorem length_regionNeighbours_le (node : String) :
    (regionNeighbours graph nodes node).length ≤ (neighbours graph node).length := by
  unfold regionNeighbours
  split <;> simp

theorem parallelBranchRegion_eq_ok :
    parallelBranchRegion parallel branch join graph nodes = .ok region ↔
      (∀ node, Reaches (· = join) (regionNeighbours graph nodes) branch node →
        Continues graph nodes node) ∧
      ∀ node, node ∈ region ↔ Reaches (· = join) (regionNeighbours graph nodes) branch node := by
  have visits : ∀ node targets, branchTargets parallel branch graph nodes node = .ok targets →
      targets = regionNeighbours graph nodes node := fun _ _ visited => (branchTargets_eq_ok.mp visited).2
  have ends := @traversal_isOk graph _ (· == join) _ branch length_regionNeighbours_le visits
  simp only [beq_iff_eq, branchTargets_eq_ok, and_true] at ends
  simp only [parallelBranchRegion, bind_eq_ok, pure_eq_ok]
  constructor
  · rintro ⟨members, ran, rfl⟩
    refine ⟨ends.mp ⟨members, ran⟩, fun node => ?_⟩
    simp [Worklist.mem_run ran visits]
  · rintro ⟨continues, collected⟩
    obtain ⟨members, ran⟩ := ends.mpr continues
    refine ⟨members, ran, Std.ExtTreeSet.ext_mem fun node => ?_⟩
    simp [Worklist.mem_run ran visits, collected]

theorem branchOrder_spec : ∃ order, branchOrder branch join graph = .ok order ∧
    ∀ node, node ∈ order ↔ Reaches (· = join) (neighbours graph) branch node := by
  have visits : ∀ node returned, (.ok (neighbours graph node) : Compiled (List String)) =
      .ok returned → returned = neighbours graph node := by simp
  obtain ⟨order, ran⟩ : ∃ order, branchOrder branch join graph = .ok order :=
    (traversal_isOk (fun _ => Nat.le_refl _) visits).mpr fun _ _ => rfl
  refine ⟨order, ran, fun node => ?_⟩
  rw [Worklist.mem_run ran visits]
  simp only [beq_iff_eq]

theorem branchMembers_spec : ∃ members, branchMembers branch join graph = .ok members ∧
    ∀ node, node ∈ members ↔ Reaches (· = join) (neighbours graph) branch node := by
  obtain ⟨order, ran, listed⟩ := @branchOrder_spec graph branch join
  exact ⟨.ofList order, by simp [branchMembers, ran], fun node => by simp [listed]⟩

theorem mem_foldl_collectWrites {writes : NodeDefinition → StringSet} {listed : List String}
    {collected : StringSet} {item : String} :
    item ∈ listed.foldl (collectWrites writes nodes) collected ↔ item ∈ collected ∨
      ∃ node ∈ listed, ∃ definition, nodes[node]? = some definition ∧ item ∈ writes definition := by
  induction listed generalizing collected with
  | nil => simp
  | cons node rest ih =>
    rw [List.foldl_cons, ih, List.exists_mem_cons_iff, ← or_assoc, collectWrites]
    cases nodes[node]? with
    | none => simp
    | some definition => simp [Std.ExtTreeSet.mem_union_iff]

theorem branchWrites_spec {writes : NodeDefinition → StringSet} :
    ∃ written, branchWrites writes branch join graph nodes = .ok written ∧
      ∀ item, item ∈ written ↔ ∃ node, Reaches (· = join) (neighbours graph) branch node ∧
        ∃ definition, nodes[node]? = some definition ∧ item ∈ writes definition := by
  obtain ⟨order, ran, listed⟩ := @branchOrder_spec graph branch join
  refine ⟨_, by rw [branchWrites, ran]; rfl, fun item => ?_⟩
  rw [mem_foldl_collectWrites]
  simp [listed]

theorem regionNeighbours_eq (final : ∀ node definition, nodes[node]? = some definition →
      definition.kind = .fail → neighbours graph node = []) :
    regionNeighbours graph nodes = neighbours graph := by
  funext node
  unfold regionNeighbours
  cases found : nodes[node]? with
  | none => simp
  | some definition =>
    by_cases fails : definition.kind = .fail
    · simp [fails, final node definition found fails]
    · simp [fails]

section Accesses

variable {node : NodeDefinition} {variableMap : StringMap VariableDeclaration}

/-- A node reads what it may consume, and writes what it produces or contributes to. -/
structure NodeDefinition.AccessesDeclared (variableMap : StringMap VariableDeclaration)
    (node : NodeDefinition) : Prop where
  reads : ∀ name ∈ node.readVariables, ∃ declaration, variableMap[name]? = some declaration ∧
    node.id ∈ declaration.consumers
  writes : ∀ name ∈ node.writeVariables, ∃ declaration, variableMap[name]? = some declaration ∧
    (declaration.producer = node.id ∨ node.id ∈ declaration.mergeContributors)

theorem validateVariableRead_eq_ok {name : String} :
    validateVariableRead node variableMap name = .ok () ↔
      ∃ declaration, variableMap[name]? = some declaration ∧ node.id ∈ declaration.consumers := by
  unfold validateVariableRead
  cases variableMap[name]? <;> simp

theorem validateVariableWrite_eq_ok {name : String} :
    validateVariableWrite node variableMap name = .ok () ↔
      ∃ declaration, variableMap[name]? = some declaration ∧
        (declaration.producer = node.id ∨ node.id ∈ declaration.mergeContributors) := by
  unfold validateVariableWrite
  cases variableMap[name]? <;> simp [Classical.or_iff_not_imp_left]

theorem validateNodeVariableAccess_eq_ok :
    validateNodeVariableAccess node variableMap = .ok () ↔ node.AccessesDeclared variableMap := by
  simp only [validateNodeVariableAccess, bind_eq_ok, exists_unit, forM_eq_ok,
    Std.ExtTreeSet.mem_toList, validateVariableRead_eq_ok, validateVariableWrite_eq_ok]
  constructor
  · intro accepted
    exact ⟨accepted.1, accepted.2⟩
  · intro declared
    exact ⟨declared.reads, declared.writes⟩

end Accesses

section Declarations

variable {declaration : VariableDeclaration}

theorem validateMergeContributorRequirements_eq_ok :
    validateMergeContributorRequirements declaration = .ok () ↔
      (declaration.mergeContributors.isEmpty = false → declaration.producer ≠ "runtime" ∧
        declaration.mutability = .mutable ∧
        (declaration.scope = .run ∨ declaration.scope = .session) ∧
        declaration.mergePolicy ≠ none) := by
  unfold validateMergeContributorRequirements
  cases declaration.mergeContributors.isEmpty with
  | true => simp
  | false => simp [Classical.or_iff_not_imp_left]

end Declarations

section Accepted

variable [GraphCodec] [SerdeJson] {definition : GraphDefinition} {inputs : GraphCacheInputs}
  {limits : CompilerLimits} {nodes : StringMap NodeDefinition}
  {variableMap : StringMap VariableDeclaration}
  (valid : Validated definition inputs limits nodes variableMap)
include valid

theorem Validated.getElem?_variables {name : String} {declaration : VariableDeclaration} :
    variableMap[name]? = some declaration ↔
      declaration ∈ definition.variables ∧ declaration.name = name :=
  (collectBy_spec valid.collectedVariables).2 name declaration

theorem Validated.declaration {declaration : VariableDeclaration}
    (member : declaration ∈ definition.variables) :
    validateDeclaration limits definition nodes declaration = .ok () := by
  have accesses := valid.accesses
  simp only [validateVariables, bind_eq_ok, exists_unit, forM_eq_ok] at accesses
  exact accesses.2.1 declaration member

theorem Validated.mergeRequirements {declaration : VariableDeclaration}
    (member : declaration ∈ definition.variables) :
    validateMergeContributorRequirements declaration = .ok () := by
  have accepted := valid.declaration member
  simp only [validateDeclaration, bind_eq_ok, exists_unit] at accepted
  tauto

theorem Validated.nodeAccesses {node : NodeDefinition} (member : node ∈ definition.nodes) :
    node.AccessesDeclared variableMap := by
  have accesses := valid.accesses
  simp only [validateVariables, bind_eq_ok, exists_unit, forM_eq_ok] at accesses
  exact validateNodeVariableAccess_eq_ok.mp (accesses.2.2.1 node member).1

end Accepted

end AgentMod
