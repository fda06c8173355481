import AgentMod.Library.Worklist
import AgentMod.Session.StyleState

/-! The checks of execution contracts, and the identities that a style execution derives. -/

namespace AgentMod

/-- The persisted execution plan of a style binding. -/
structure SessionExecutionPlan where
  registryHash : ContentHash
  nodes : List SessionNodeExecutorResolution

/-- What is serialized, parsed or persisted of style executions. -/
class StyleSerde where
  /-- The plan, the budgets and the plan hash that a binding persists. -/
  executionPlan : SessionStyleBinding → SessionExecutionPlan
  budgets : SessionStyleBinding → SessionStyleBudgets
  executionPlanHash : SessionStyleBinding → Option ContentHash
  /-- `serde_json::to_vec` on bindings, plans, compiled nodes and configurations. -/
  bindingToVec : SessionStyleBinding → Option (List UInt8)
  planToVec : SessionExecutionPlan → Option (List UInt8)
  nodeToVec : ExecutableNode → Option (List UInt8)
  configurationToVec : Option NodeConfiguration → Option (List UInt8)
  /-- `serde_json::to_vec` on node work. -/
  workToVec : NodeWorkIdentity → Option (List UInt8)
  regionToVec : NodeWorkIdentity → ParallelMemberBinding → StringSet → Option (List UInt8)
  /-- The material of an effect receipt, without the receipt hash of the outcome. -/
  receiptToVec : ParallelBranchEffectIdentity → ParallelBranchEffectOutcome → List UInt8
  /-- Whether the compiled style of a binding parses, and its graph is the given one. -/
  compilesTo : SessionStyleBinding → ExecutableGraph → Bool
  /-- `serde_json::from_str`. -/
  parseJson : String → Option Json
  /-- `canonical_initial_variables_json`. -/
  canonicalJson : Json → Option String
  /-- `canonical_value_from_json`. -/
  canonicalValue : Json → VariableValueType → VariableCheck CanonicalVariableValue
  /-- `ContentHash::from_str`. -/
  parseHash : String → Option ContentHash

section Contract

variable [StyleSerde] [Hashing]

/-- The sequence number that a text spells, if `u64` parses it. -/
def parseU64 (text : String) : Option Nat :=
  let digits := if text.toList.head? = some '+' then text.toList.tail else text.toList
  if digits = [] ∨ digits.any (fun digit => !digit.isDigit) then none
  else some (digits.foldl (fun value digit => 10 * value + (digit.toNat - '0'.toNat)) 0) |>.filter
    (· < 2 ^ 64)

/-- Whether the options hash of a turn identity, where it has one, is that of the options. -/
def validOptionsHash (optionsHash : Option String) (invocationOptionsJson : Option String) : Bool :=
  match invocationOptionsJson with
  | none => optionsHash.all fun hash => (StyleSerde.parseHash hash).isSome
  | some options =>
    optionsHash.bind StyleSerde.parseHash == some (Hashing.digest (utf8Bytes options.toList))

/-- `valid_style_run_id`. -/
def validStyleRunId (runId : String) (sessionId : SessionId) (bindingHash : ContentHash)
    (invocationOptionsJson : Option String) : Bool :=
  if runId = "style-run:" ++ sessionId then invocationOptionsJson.isNone
  else
    let identity? := (runId.dropPrefix? ("style-turn:" ++ sessionId ++ ":")).bind fun rest =>
      rest.dropSuffix? (":" ++ bindingHash.toHex)
    match identity? with
    | none => false
    | some identity =>
      match (identity.toString.toList.splitOn ':').map String.ofList with
      | [] => false
      | sequence :: rest =>
        (parseU64 sequence).any (· > 0) && validOptionsHash rest.head? invocationOptionsJson &&
          decide (rest.length ≤ 1)

/-- Whether a plan has exactly one selection for a node, which is of its kind and configuration. -/
def validResolution (plan : SessionExecutionPlan) (node : ExecutableNode) : Bool :=
  match plan.nodes.filter (·.nodeId == node.id) with
  | [resolution] =>
    resolution.nodeKind == node.kind.serialized &&
      ((StyleSerde.nodeToVec node).map Hashing.digest).any (resolution.adapterConfigurationReference == ·)
  | _ => false

/-- Compares a contract with the binding and its plan. -/
def validatePlannedContract (sessionId : SessionId) (binding : SessionStyleBinding) (graph : ExecutableGraph)
    (contract : StyleExecutionContract) : Reducing Unit := do
  let invalid := SessionReducerError.invalidStyleExecutionContract
  let plan := StyleSerde.executionPlan binding
  let planHash ← okOr (StyleSerde.executionPlanHash binding) invalid
  let bindingBytes ← okOr (StyleSerde.bindingToVec binding) invalid
  let planBytes ← okOr (StyleSerde.planToVec plan) invalid
  let initialVariables ← okOr (StyleSerde.parseJson contract.initialVariablesJson) invalid
  let canonicalVariables ← okOr (StyleSerde.canonicalJson initialVariables) invalid
  let canonicalOptions ← match contract.invocationOptionsJson with
    | none => pure none
    | some options => do
      let value ← okOr (StyleSerde.parseJson options) invalid
      some <$> okOr (StyleSerde.canonicalJson value) invalid
  refuseIf (Hashing.digest bindingBytes ≠ contract.styleBindingHash ∨ Hashing.digest planBytes ≠ planHash ∨
      contract.executionPlanHash ≠ planHash ∨ contract.registryHash ≠ plan.registryHash ∨
      contract.nodeExecutors ≠ plan.nodes ∨ contract.initialBudgets ≠ StyleSerde.budgets binding ∨
      contract.initialNodeId ≠ graph.entryNodeId ∨
      !validStyleRunId contract.runId sessionId contract.styleBindingHash canonicalOptions ∨
      contract.initialVariablesJson ≠ canonicalVariables ∨
      contract.invocationOptionsJson ≠ canonicalOptions ∨ !StyleSerde.compilesTo binding graph ∨
      plan.nodes.length ≠ graph.nodes.length ∨ !graph.nodes.all (validResolution plan)) invalid

/-- Validates the contract of a run: exactly a session with a persisted plan needs one. -/
def validateStyleExecutionContract {σ : Type} (state : Session σ) (graph : ExecutableGraph)
    (contract : Option StyleExecutionContract) : Reducing Unit :=
  match state.styleBinding.filter (·.hasExecutionPlan), contract with
  | none, none => return ()
  | some binding, some contract => validatePlannedContract state.id binding graph contract
  | _, _ => .error .invalidStyleExecutionContract

/-- The hash of a node's configuration. -/
def nodeConfigurationHash (configuration : Option NodeConfiguration) : Reducing ContentHash := do
  return Hashing.digest (← okOr (StyleSerde.configurationToVec configuration) .invalidParallelExecution)

/-- The key of the parallel execution that a work owns. -/
def nodeWorkKey (work : NodeWorkIdentity) : Reducing String := do
  let bytes ← okOr (StyleSerde.workToVec work) .invalidParallelExecution
  return "work:" ++ (Hashing.digest bytes).toHex

/-- The identity of a branch's region. -/
def expectedParallelRegionId (owner : NodeWorkIdentity) (member : ParallelMemberBinding)
    (nodeIds : StringSet) : Reducing String := do
  let bytes ← okOr (StyleSerde.regionToVec owner member nodeIds) .invalidParallelExecution
  return "parallel-region:" ++ (Hashing.digest bytes).toHex

/-- The nodes that a branch reaches without its join, in whichever order they are visited. -/
def parallelRegionNodes (graph : ExecutableGraph) (entryNodeId joinNodeId : String) : Reducing StringSet :=
  match Worklist.run (· == joinNodeId) graph.regionTargets (graph.edges.length + 2) [entryNodeId] [] with
  | .error _ => .error .invalidParallelExecution
  | .ok members => do
    refuseIf (members = []) .invalidParallelExecution
    return .ofList members

variable [VariableSerde]

/-- The initial values of the declared variables, in the order of the declarations. -/
def initialVariableValues (declarations : List VariableDeclaration) (initial : List (String × Json)) :
    Reducing (List (String × CanonicalVariableValue)) :=
  (declarations.filterMap fun declaration => (initial.lookup declaration.name).map (declaration, ·)).mapM
    fun entry => do
      let value ← (StyleSerde.canonicalValue entry.2 entry.1.valueType).mapError .canonicalVariable
      return (entry.1.name, value)

/-- `initialize_canonical_variables`. -/
def initializeCanonicalVariables (sessionId : SessionId) (graph : ExecutableGraph)
    (contract : Option StyleExecutionContract) : Reducing CanonicalVariableEventReducer := do
  let runId := (contract.map (·.runId)).getD ("style-run:" ++ sessionId)
  let initialJson := (contract.map (·.initialVariablesJson)).getD "\x7b\x7d"
  let initial ← match StyleSerde.parseJson initialJson with
    | some (.object entries) => pure entries
    | _ => .error .invalidCanonicalVariable
  if graph.variables.isEmpty then
    -- Older journals keep their variables in the contract only.
    (CanonicalVariableEventReducer.initializeReducer runId .default [] []).mapError .canonicalVariable
  else do
    refuseIf (initial.any fun entry => !graph.variables.any (·.name == entry.1)) .invalidCanonicalVariable
    let values ← initialVariableValues graph.variables initial
    (CanonicalVariableEventReducer.initializeReducer runId .default graph.variables values).mapError
      .canonicalVariable

end Contract

end AgentMod
