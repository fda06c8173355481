import AgentMod.Expression.Evaluate
import AgentMod.Verified.Graph.Build
import AgentMod.Verified.Graph.Region

/-! Conditions of accepted graphs depend on nothing but the runtime roots and declared reads. -/

namespace AgentMod

section Roots

variable {roots : StringSet} {left right : List (String × Json)}

/-- Two environments hold the same values under some names. -/
def AgreeOn (names : String → Prop) (left right : List (String × Json)) : Prop :=
  ∀ name, names name → left.lookup name = right.lookup name

theorem subset_collectPathRoot {path : EnvironmentPath} {root : String} (member : root ∈ roots) :
    root ∈ collectPathRoot path roots := by
  unfold collectPathRoot
  split <;> simp [member]

theorem subset_collectOperandRoot {operand : Operand} {root : String} (member : root ∈ roots) :
    root ∈ collectOperandRoot operand roots := by
  cases operand with
  | path => exact subset_collectPathRoot member
  | literal => exact member

theorem subset_collectExpressionRoots {expression : Expression} {root : String}
    (member : root ∈ roots) : root ∈ collectExpressionRoots expression roots := by
  induction expression generalizing roots with
  | value => exact subset_collectOperandRoot member
  | not _ ih => exact ih member
  | and _ _ first second | or _ _ first second => exact second (first member)
  | compare => exact subset_collectOperandRoot (subset_collectOperandRoot member)
  | existsPath => exact subset_collectPathRoot member

theorem lookup_eq_or {path : EnvironmentPath}
    (agree : AgreeOn (· ∈ collectPathRoot path roots) left right) :
    lookup (.object left) path = lookup (.object right) path ∨
      lookup (.object left) path = some (.object left) ∧
        lookup (.object right) path = some (.object right) := by
  obtain ⟨segments⟩ := path
  cases segments with
  | nil => exact .inr ⟨rfl, rfl⟩
  | cons segment rest =>
    refine .inl ?_
    cases segment with
    | index => rfl
    | key root =>
      have same := agree root (by simp [collectPathRoot])
      simp only [lookup, List.foldlM_cons, lookupSegment, same]

theorem resolveOperand_eq {operand : Operand}
    (agree : AgreeOn (· ∈ collectOperandRoot operand roots) left right) :
    resolveOperand operand (.object left) = resolveOperand operand (.object right) := by
  cases operand with
  | literal literal => cases literal <;> rfl
  | path path =>
    -- The whole environment is an object on both sides, which is no scalar.
    rcases lookup_eq_or agree with same | ⟨first, second⟩
    · simp only [resolveOperand, same]
    · simp only [resolveOperand, first, second]

theorem evaluate_eq {expression : Expression}
    (agree : AgreeOn (· ∈ collectExpressionRoots expression roots) left right) :
    expression.evaluate (.object left) = expression.evaluate (.object right) := by
  induction expression generalizing roots with
  | value operand => simp only [Expression.evaluate, resolveOperand_eq agree]
  | not inner ih => simp only [Expression.evaluate, ih agree]
  | and first second ihFirst ihSecond | or first second ihFirst ihSecond =>
    have keeps : ∀ root ∈ collectExpressionRoots first roots,
        root ∈ collectExpressionRoots second (collectExpressionRoots first roots) :=
      fun root => subset_collectExpressionRoots
    have before := ihFirst fun root member => agree root (keeps root member)
    simp only [Expression.evaluate, before, ihSecond agree]
  | compare first operator second =>
    have before := resolveOperand_eq fun root (member : root ∈ collectOperandRoot first roots) =>
      agree root (subset_collectOperandRoot member)
    simp only [Expression.evaluate, before, resolveOperand_eq agree]
  | existsPath path =>
    rcases lookup_eq_or agree with same | ⟨first, second⟩
    · simp only [Expression.evaluate, same]
    · simp only [Expression.evaluate, first, second, Option.isSome_some]

end Roots

section Access

variable [SerdeJson] {source owner : String} {reads : StringSet}
  {variableMap : StringMap VariableDeclaration} {limits : ExpressionLimits}

theorem parseCondition_eq_some {parsed : Expression}
    (parses : parseCondition (some source) owner limits = .ok (some parsed)) :
    Expression.parse source limits = .ok parsed := by
  unfold parseCondition at parses
  cases result : Expression.parse source limits with
  | ok expression => simp_all
  | error halt => cases halt <;> simp_all

theorem exists_of_parseCondition {result : Option Expression}
    (parses : parseCondition (some source) owner limits = .ok result) :
    ∃ parsed, result = some parsed := by
  unfold parseCondition at parses
  cases outcome : Expression.parse source limits with
  | ok expression => exact ⟨expression, by simp_all⟩
  | error halt => cases halt <;> simp_all

theorem roots_of_access
    (accepted : validateExpressionVariableAccess (some source) owner reads variableMap limits true =
      .ok ()) :
    ∃ expression, Expression.parse source limits = .ok expression ∧
      ∀ root ∈ collectExpressionRoots expression ∅, isRuntimeConditionRoot root ∨ root ∈ reads := by
  simp only [validateExpressionVariableAccess, bind_eq_ok] at accepted
  obtain ⟨result, parses, roots⟩ := accepted
  obtain ⟨expression, rfl⟩ := exists_of_parseCondition parses
  refine ⟨expression, parseCondition_eq_some parses, fun root member => ?_⟩
  simp only [if_true, forM_eq_ok, Std.ExtTreeSet.mem_toList] at roots
  by_cases provided : isRuntimeConditionRoot root = true
  · exact .inl provided
  · have declared := roots root member
    simp only [provided] at declared
    simp_all

end Access

section Accepted

variable [GraphCodec] [SerdeJson] {definition : GraphDefinition} {inputs : GraphCacheInputs}
  {limits : CompilerLimits} {nodes : StringMap NodeDefinition}
  {variableMap : StringMap VariableDeclaration}

/-- A condition of a node or an edge, with the node whose reads it may use. -/
inductive GraphDefinition.HasCondition (definition : GraphDefinition) :
    NodeDefinition → String → Prop where
  | node {node : NodeDefinition} {condition : String} (member : node ∈ definition.nodes)
      (written : node.condition = some condition) : definition.HasCondition node condition
  | edge {edge : EdgeDefinition} {node : NodeDefinition} {condition : String}
      (edgeMember : edge ∈ definition.edges) (written : edge.condition = some condition)
      (member : node ∈ definition.nodes) (source : node.id = edge.source) :
      definition.HasCondition node condition

/-- The names whose values a condition of a node may use. -/
def NodeDefinition.MayRead (node : NodeDefinition) (name : String) : Prop :=
  isRuntimeConditionRoot name ∨ name ∈ node.readVariables

theorem Validated.condition_roots (valid : Validated definition inputs limits nodes variableMap)
    (strict : definition.strictVariableAccess) {node : NodeDefinition} {condition : String}
    (has : definition.HasCondition node condition) :
    ∃ expression, Expression.parse condition limits.expression = .ok expression ∧
      ∀ root ∈ collectExpressionRoots expression ∅, node.MayRead root := by
  have accesses := valid.accesses
  simp only [validateVariables, bind_eq_ok, exists_unit, forM_eq_ok, strict] at accesses
  obtain ⟨_, _, nodeAccesses, edgeAccesses⟩ := accesses
  cases has with
  | node member written =>
    have accepted := (nodeAccesses node member).2.2
    rw [written] at accepted
    exact roots_of_access accepted
  | @edge edge _ _ edgeMember written member same =>
    have accepted := edgeAccesses edge edgeMember
    rw [(getElem?_collectNodes valid.collected).mpr ⟨member, same⟩, written] at accepted
    exact roots_of_access accepted

/-- In an accepted graph that uses variables, a condition evaluates alike in environments that agree
on the runtime roots and on the variables its node declares to read. -/
theorem conditions_noninterfering [Hashing] {source condition : String} {node : NodeDefinition}
    {left right : List (String × Json)} (accepted : Accepts source inputs limits definition)
    (uses : definition.variables ≠ [] ∨ ∃ other ∈ definition.nodes,
      other.readVariables ≠ ∅ ∨ other.writeVariables ≠ ∅)
    (has : definition.HasCondition node condition) (agree : AgreeOn node.MayRead left right) :
    ∃ expression, Expression.parse condition limits.expression = .ok expression ∧
      expression.evaluate (.object left) = expression.evaluate (.object right) := by
  obtain ⟨nodes, variableMap, valid⟩ := accepted.validated
  have strict : definition.strictVariableAccess = true := by
    simp only [GraphDefinition.strictVariableAccess, Bool.or_eq_true, List.any_eq_true]
    rcases uses with declared | ⟨other, member, accesses⟩
    · exact .inl (by simpa using declared)
    · refine .inr ⟨other, member, ?_⟩
      simpa [Std.ExtTreeSet.isEmpty_iff] using accesses
  obtain ⟨expression, parses, roots⟩ := valid.condition_roots strict has
  exact ⟨expression, parses, evaluate_eq fun root member => agree root (roots root member)⟩

end Accepted

section Sample

attribute [local instance] sampleCodec noLiterals prefixHash

/-- The exit of the sample graph's loop does not depend on a value that the loop does not read. -/
theorem conditions_noninterfering_sample :
    ∃ expression, Expression.parse "ready" CompilerLimits.default.expression = .ok expression ∧
      expression.evaluate (.object [("note", .null), ("ready", .bool true)]) =
        expression.evaluate (.object [("ready", .bool true)]) := by
  have inEdges : sampleExit ∈ sampleGraph.edges := by simp [sampleGraph]
  have inNodes : sampleLoop ∈ sampleGraph.nodes := by simp [sampleGraph]
  refine conditions_noninterfering accepts_sample (.inl (by simp [sampleGraph]))
    (.edge inEdges rfl inNodes rfl) ?_
  intro name mayRead
  have differ : name ≠ "note" := by
    rintro rfl
    exact mayRead.elim (by decide) (by decide)
  simp [List.lookup_cons, beq_eq_false_iff_ne.mpr differ]

end Sample

end AgentMod
