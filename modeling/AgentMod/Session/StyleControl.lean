import AgentMod.Session.StyleContract

/-! How root events move the control of a style execution. -/

namespace AgentMod

/-- The cursor at the entry node, behind the given step. -/
def ExecutableGraph.restartCursor (graph : ExecutableGraph) (step : Nat) : StyleExecutionCursor :=
  ⟨graph.entryNodeId, 1, 0, step⟩

/-- `u64::checked_add(1)`. -/
def checkedStep (step : Nat) : Reducing Nat :=
  if step < maxU64 then .ok (step + 1) else .error .styleStepOverflow

/-- `valid_style_counters`. -/
def validStyleCounters (attempt step : Nat) : Bool := decide (attempt > 0) && decide (step > 0)

/-- `active_node_matches`. -/
def activeNodeMatches (active : Option StyleNodeEnteredEvent) (nodeId : String)
    (attempt loopIteration step : Nat) : Bool :=
  active.any fun entered =>
    entered.nodeId == nodeId && entered.attempt == attempt && entered.loopIteration == loopIteration &&
      entered.step == step

/-- `entry_matches`. -/
def entryMatches (expected : StyleExecutionCursor) (entered : StyleNodeEnteredEvent) : Bool :=
  validStyleCounters entered.attempt entered.step && entered.nodeId == expected.nodeId &&
    entered.attempt == expected.attempt && entered.loopIteration == expected.loopIteration &&
    entered.step == expected.step

namespace StyleExecutionState

/-- The first parallel execution whose owner has the counters of a transition's source. -/
def leftParallelExecution (execution : StyleExecutionState) (selected : StyleTransitionSelectedEvent) :
    Option CanonicalParallelExecutionState :=
  execution.parallelExecutions.values.find? fun parallel =>
    parallel.owner.nodeId == selected.fromNodeId && parallel.owner.attempt == selected.attempt &&
      parallel.owner.loopIteration == selected.loopIteration && parallel.owner.step == selected.step

/-- The step that the entry behind a transition counts on from. -/
def transitionBaseStep (execution : StyleExecutionState) (selected : StyleTransitionSelectedEvent) :
    Reducing Nat :=
  if execution.graph.parallelJoinTransition selected.fromNodeId selected.toNodeId then
    (·.lastAllocatedStep) <$> okOr (execution.leftParallelExecution selected) .invalidParallelExecution
  else return selected.step

/-- The loop iteration of the entry behind a transition. -/
def transitionLoopIteration (graph : ExecutableGraph) (selected : StyleTransitionSelectedEvent) :
    Reducing Nat :=
  if graph.nodeKind selected.fromNodeId = some .loop ∧
      graph.nodeKind selected.toNodeId ≠ some .completeSession then
    if selected.loopIteration < maxU32 then .ok (selected.loopIteration + 1)
    else .error .styleLoopIterationOverflow
  else return selected.loopIteration

/-- The node entry that the control expects next. -/
def expectedEntry (execution : StyleExecutionState) : Reducing StyleExecutionCursor :=
  match execution.control with
  | .readyForEntry expected => return expected
  | .awaitingDestinationEntry selected => do
    let loopIteration ← transitionLoopIteration execution.graph selected
    let base ← execution.transitionBaseStep selected
    let step ← checkedStep base
    return ⟨selected.toNodeId, selected.attempt, loopIteration, step⟩
  | _ => .error .invalidStyleExecutionTransition

/-- `apply_style_node_entered`. -/
def enterNode (execution : StyleExecutionState) (entered : StyleNodeEnteredEvent) (sequence : Sequence) :
    Reducing StyleExecutionState := do
  let expected ← execution.expectedEntry
  refuseIf (execution.activeNode.isSome ∨ execution.terminationReason.isSome ∨
    !entryMatches expected entered) .invalidStyleExecutionTransition
  return { execution with
    activeNode := some entered
    activeNodeEnteredAt := some sequence
    control := .active entered }

/-- The reason for which completing a node of a kind ends the execution. -/
def completionReason : NodeKind → Option String
  | .completeSession => some "complete_session"
  | .fail => some "style_failed"
  | _ => none

/-- `apply_style_node_completed`, where the effects of the node have evidence or not. -/
def completeNode (execution : StyleExecutionState) (completed : StyleNodeCompletedEvent)
    (effectEvidenceComplete : Bool) : Reducing StyleExecutionState := do
  let invalid := SessionReducerError.invalidStyleExecutionTransition
  refuseIf (!effectEvidenceComplete) invalid
  let isActive := fun active => activeNodeMatches active completed.nodeId completed.attempt
    completed.loopIteration completed.step
  refuseIf (!validStyleCounters completed.attempt completed.step ∨ !isActive execution.activeNode ∨
    !(match execution.control with
      | .active active => isActive (some active)
      | _ => false)) invalid
  let kind ← okOr (execution.graph.nodeKind completed.nodeId) invalid
  let left := { execution with
    activeNode := none
    activeNodeEnteredAt := none
    completedNodes := execution.completedNodes ++ [completed] }
  if kind = .completeTurn then do
    let step ← checkedStep completed.step
    return { left with control := .readyForEntry (execution.graph.restartCursor step) }
  else
    match completionReason kind with
    | some reason => return { left with terminationReason := some reason, control := .terminal reason }
    | none => return { left with control := .awaitingTransition completed }

/-- `apply_style_node_failed`. -/
def failNode (execution : StyleExecutionState) (failed : StyleNodeFailedEvent) :
    Reducing StyleExecutionState := do
  refuseIf (isBlank failed.reason ∨ failed.terminationReason.any isBlank ∨
    !validStyleCounters failed.attempt failed.step ∨ !execution.graph.hasNode failed.nodeId ∨
    !activeNodeMatches execution.activeNode failed.nodeId failed.attempt failed.loopIteration failed.step)
    .invalidStyleExecutionTransition
  let left := { execution with
    activeNode := none
    activeNodeEnteredAt := none
    terminationReason := failed.terminationReason
    failedNodes := execution.failedNodes ++ [failed] }
  match failed.terminationReason with
  | some reason => return { left with control := .terminal reason }
  | none => do
    let step ← checkedStep failed.step
    return { left with control := .readyForEntry (execution.graph.restartCursor step) }

/-- `apply_style_transition_selected`, as far as the execution is concerned. -/
def selectTransition (execution : StyleExecutionState) (selected : StyleTransitionSelectedEvent) :
    Reducing StyleExecutionState :=
  match execution.control with
  | .awaitingTransition completed => do
    refuseIf (execution.activeNode.isSome ∨ execution.terminationReason.isSome ∨
      !validStyleCounters selected.attempt selected.step ∨ completed.nodeId ≠ selected.fromNodeId ∨
      completed.attempt ≠ selected.attempt ∨ completed.loopIteration ≠ selected.loopIteration ∨
      completed.step ≠ selected.step ∨
      (!execution.graph.hasTransition selected.fromNodeId selected.toNodeId ∧
        !execution.graph.parallelJoinTransition selected.fromNodeId selected.toNodeId))
      .invalidStyleExecutionTransition
    return { execution with
      transitions := execution.transitions ++ [selected]
      control := .awaitingDestinationEntry selected }
  | _ => .error .invalidStyleExecutionTransition

/-- The node and the step whose entry a termination refuses. -/
def refusedEntry (execution : StyleExecutionState) : Reducing (String × Nat) :=
  match execution.control with
  | .readyForEntry cursor => return (cursor.nodeId, cursor.step)
  | .awaitingDestinationEntry selected => (selected.toNodeId, ·) <$> checkedStep selected.step
  | _ => .error .invalidStyleExecutionTransition

/-- `apply_style_execution_terminated`. -/
def terminate (execution : StyleExecutionState) (terminated : StyleExecutionTerminatedEvent) :
    Reducing StyleExecutionState := do
  refuseIf (isBlank terminated.reason ∨ terminated.refusedNodeId.any (·.isEmpty))
    .invalidStyleExecutionTransition
  let (nodeId, step) ← execution.refusedEntry
  refuseIf (terminated.refusedNodeId ≠ some nodeId ∨ terminated.refusedStep ≠ some step)
    .invalidStyleExecutionTransition
  return { execution with
    terminationReason := some terminated.reason
    control := .terminal terminated.reason }

end StyleExecutionState

/-- Keeps the boundary of a loop iteration whose transition was selected. -/
def completeIteration (completions : List SuccessfulIterationCompletionBoundary) (graph : ExecutableGraph)
    (selected : StyleTransitionSelectedEvent) (sequence : Sequence) (eventChecksum : ContentHash) :
    Reducing (List SuccessfulIterationCompletionBoundary) :=
  if graph.nodeKind selected.fromNodeId = some .loop then do
    let boundary : SuccessfulIterationCompletionBoundary :=
      ⟨selected.fromNodeId, selected.toNodeId, selected.attempt, selected.loopIteration, selected.step,
        sequence, eventChecksum⟩
    refuseIf (completions.getLast?.any (fun previous => decide (previous.sequence ≥ sequence)) ∨
      boundary ∈ completions) .invalidStyleExecutionTransition
    return completions ++ [boundary]
  else return completions

section Root

variable [StyleSerde] [VariableSerde] [Hashing]

/-- `apply_style_execution_initialized`. -/
def initializeStyleExecution {σ : Type} (state : Session σ) (current : Option StyleExecutionState)
    (initialized : StyleExecutionInitializedEvent) : Reducing StyleExecutionState := do
  refuseIf current.isSome .duplicateStyleExecutionInitialization
  refuseIf (!initialized.graph.validCompiled) .invalidCompiledStyleGraph
  validateStyleExecutionContract state initialized.graph initialized.executionContract
  let initialVariables ← initializeCanonicalVariables state.id initialized.graph initialized.executionContract
  return {
    graph := initialized.graph
    inputReference := initialized.inputReference
    executionContract := initialized.executionContract
    completedTurnRuns := []
    canonicalVariables := some initialVariables
    control := .readyForEntry (initialized.graph.restartCursor 1)
    activeNode := none
    activeNodeEnteredAt := none
    completedNodes := []
    failedNodes := []
    transitions := []
    terminationReason := none
    parallelExecutions := ∅ }

/-- The last completed node, where that completes a turn. -/
def StyleExecutionState.completedTurn? (execution : StyleExecutionState) : Option StyleNodeCompletedEvent :=
  execution.completedNodes.getLast?.filter fun completed =>
    execution.graph.nodeKind completed.nodeId == some .completeTurn

/-- The control expects the entry of a restart. -/
def StyleExecutionControlState.isReadyForEntry : StyleExecutionControlState → Bool
  | .readyForEntry _ => true
  | _ => false

/-- `apply_style_turn_initialized`. -/
def initializeStyleTurn {σ : Type} (state : Session σ) (execution : StyleExecutionState)
    (initialized : StyleTurnInitializedEvent) (sequence : Sequence) : Reducing StyleExecutionState := do
  let contract := initialized.executionContract
  validateStyleExecutionContract state execution.graph (some contract)
  let terminal ← okOr execution.completedTurn? .invalidStyleExecutionTransition
  refuseIf (execution.activeNode.isSome ∨ !execution.control.isReadyForEntry ∨
    execution.terminationReason.isSome) .invalidStyleExecutionTransition
  let previous ← okOr execution.executionContract .invalidStyleExecutionContract
  refuseIf (previous.runId = contract.runId ∨
    execution.completedTurnRuns.any (·.executionContract.runId == contract.runId))
    .invalidStyleExecutionContract
  let initialVariables ← initializeCanonicalVariables state.id execution.graph (some contract)
  return { execution with
    completedTurnRuns := execution.completedTurnRuns ++ [⟨previous, terminal.resultReference, sequence⟩]
    inputReference := initialized.inputReference
    executionContract := some contract
    canonicalVariables := some initialVariables
    control := .readyForEntry (execution.graph.restartCursor 1)
    activeNode := none
    activeNodeEnteredAt := none }

/-- What a root event does to the style execution of a session. -/
def applyStyleRoot {σ : Type} (state : Session σ) (part : SessionStyleExecution) (metadata : EventMetadata)
    (eventChecksum : ContentHash) (event : StyleRootEvent) : Reducing SessionStyleExecution := do
  match event with
  | .initialized initialized =>
    let execution ← initializeStyleExecution state part.styleExecution initialized
    return { part with styleExecution := some execution }
  | .turnInitialized initialized =>
    let execution ← okOr part.styleExecution .styleExecutionNotInitialized
    let execution ← initializeStyleTurn state execution initialized metadata.sequence
    return { part with styleExecution := some execution }
  | .nodeEntered entered =>
    let execution ← okOr part.styleExecution .styleExecutionNotInitialized
    let execution ← execution.enterNode entered metadata.sequence
    return { part with styleExecution := some execution }
  | .nodeCompleted completed evidence =>
    let execution ← okOr part.styleExecution .styleExecutionNotInitialized
    let execution ← execution.completeNode completed evidence
    return { part with styleExecution := some execution }
  | .nodeFailed failed =>
    let execution ← okOr part.styleExecution .styleExecutionNotInitialized
    let execution ← execution.failNode failed
    return { part with styleExecution := some execution }
  | .transitionSelected selected =>
    let execution ← okOr part.styleExecution .styleExecutionNotInitialized
    let execution ← execution.selectTransition selected
    let completions ← completeIteration part.successfulIterationCompletions execution.graph selected
      metadata.sequence eventChecksum
    return ⟨some execution, completions⟩
  | .terminated terminated =>
    let execution ← okOr part.styleExecution .styleExecutionNotInitialized
    let execution ← execution.terminate terminated
    return { part with styleExecution := some execution }

end Root

end AgentMod
