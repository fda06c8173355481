import AgentMod.Library.Run
import AgentMod.Verified.Session.Replay
import AgentMod.Session.StyleWalk

/-! What root events do to a style execution: its entries walk through the compiled graph. -/

namespace AgentMod

@[simp] theorem checkedStep_eq_ok {step next : Nat} :
    checkedStep step = .ok next ↔ step < maxU64 ∧ next = step + 1 := by
  rw [checkedStep]
  split <;> simp_all [eq_comm]

theorem activeNodeMatches_iff {active : Option StyleNodeEnteredEvent} {nodeId : String}
    {attempt loopIteration step : Nat} : activeNodeMatches active nodeId attempt loopIteration step ↔
      active = some ⟨nodeId, attempt, loopIteration, step⟩ := by
  cases active with
  | none => simp [activeNodeMatches]
  | some entered =>
    cases entered
    simp [activeNodeMatches, and_assoc]

theorem entryMatches_iff {expected : StyleExecutionCursor} {entered : StyleNodeEnteredEvent} :
    entryMatches expected entered ↔ validStyleCounters expected.attempt expected.step ∧
      entered = ⟨expected.nodeId, expected.attempt, expected.loopIteration, expected.step⟩ := by
  obtain ⟨nodeId, attempt, loopIteration, step⟩ := expected
  obtain ⟨enteredId, enteredAttempt, enteredIteration, enteredStep⟩ := entered
  simp only [entryMatches, Bool.and_eq_true, beq_iff_eq, StyleNodeEnteredEvent.mk.injEq]
  constructor
  · rintro ⟨⟨⟨⟨valid, rfl⟩, rfl⟩, rfl⟩, rfl⟩
    exact ⟨valid, rfl, rfl, rfl, rfl⟩
  · rintro ⟨valid, rfl, rfl, rfl, rfl⟩
    exact ⟨⟨⟨⟨valid, rfl⟩, rfl⟩, rfl⟩, rfl⟩

namespace ExecutableGraph

variable {graph : ExecutableGraph} {fromNodeId toNodeId : String}

theorem hasTransition_iff : graph.hasTransition fromNodeId toNodeId ↔ graph.IsEdge fromNodeId toNodeId := by
  simp only [hasTransition, List.any_eq_true, Bool.and_eq_true, Option.any_eq_true, beq_iff_eq, IsEdge]
  constructor
  · rintro ⟨edge, member, ⟨source, begins, rfl⟩, target, ends, rfl⟩
    exact ⟨edge, member, source, target, begins, ends, rfl, rfl⟩
  · rintro ⟨edge, member, source, target, begins, ends, rfl, rfl⟩
    exact ⟨edge, member, ⟨source, begins, rfl⟩, target, ends, rfl⟩

theorem parallelJoinTransition_iff : graph.parallelJoinTransition fromNodeId toNodeId ↔
    graph.IsConfiguredJoin fromNodeId toNodeId := by
  rw [parallelJoinTransition, IsConfiguredJoin]
  constructor
  · intro joins
    split at joins
    · next parallel configured =>
      obtain ⟨node, found, configuration⟩ := Option.bind_eq_some_iff.mp configured
      exact ⟨node, parallel, found, configuration, beq_iff_eq.mp joins⟩
    · cases joins
  · rintro ⟨node, parallel, found, configuration, rfl⟩
    rw [found, Option.bind_some, configuration]
    exact beq_iff_eq.mpr rfl

end ExecutableGraph

namespace StyleExecutionState

theorem transitionLoopIteration_eq_ok {graph : ExecutableGraph} {selected : StyleTransitionSelectedEvent}
    {loopIteration : Nat} : transitionLoopIteration graph selected = .ok loopIteration ↔
      (graph.LeavesLoop selected ∧ selected.loopIteration < maxU32 ∧
        loopIteration = selected.loopIteration + 1) ∨
      (¬ graph.LeavesLoop selected ∧ loopIteration = selected.loopIteration) := by
  rw [transitionLoopIteration]
  split
  · next leaves =>
    have leaves : graph.LeavesLoop selected := leaves
    split
    · next bounded =>
      constructor
      · rintro ⟨⟩
        exact .inl ⟨leaves, bounded, rfl⟩
      · rintro (⟨-, -, rfl⟩ | ⟨stays, -⟩)
        · rfl
        · exact absurd leaves stays
    · next overflows =>
      constructor
      · rintro ⟨⟩
      · rintro (⟨-, bounded, -⟩ | ⟨stays, -⟩)
        · exact absurd bounded overflows
        · exact absurd leaves stays
  · next stays =>
    constructor
    · rintro ⟨⟩
      exact .inr ⟨stays, rfl⟩
    · rintro (⟨leaves, -⟩ | ⟨-, rfl⟩)
      · exact absurd leaves stays
      · rfl

theorem expectedEntry_eq_ok {execution : StyleExecutionState} {expected : StyleExecutionCursor} :
    execution.expectedEntry = .ok expected ↔ execution.control = .readyForEntry expected ∨
      ∃ selected loopIteration base, execution.control = .awaitingDestinationEntry selected ∧
        transitionLoopIteration execution.graph selected = .ok loopIteration ∧
        execution.transitionBaseStep selected = .ok base ∧ base < maxU64 ∧
        expected = ⟨selected.toNodeId, selected.attempt, loopIteration, base + 1⟩ := by
  rw [expectedEntry]
  cases execution.control with
  | readyForEntry cursor => simp
  | awaitingDestinationEntry selected =>
    simp only [bind_eq_ok, checkedStep_eq_ok, pure_eq_ok, reduceCtorEq, false_or,
      StyleExecutionControlState.awaitingDestinationEntry.injEq, exists_and_left, exists_eq_left']
    constructor
    · rintro ⟨loopIteration, iterates, base, counts, _, ⟨bounded, rfl⟩, rfl⟩
      exact ⟨loopIteration, iterates, base, counts, bounded, rfl⟩
    · rintro ⟨loopIteration, iterates, base, counts, bounded, rfl⟩
      exact ⟨loopIteration, iterates, base, counts, _, ⟨bounded, rfl⟩, rfl⟩
  | _ => simp

/-- What a root event makes of an execution that it accepts. -/
inductive RootMoves (execution : StyleExecutionState) : StyleRootEvent → StyleExecutionState → Prop where
  | turnInitialized {initialized : StyleTurnInitializedEvent} {terminal : StyleNodeCompletedEvent}
      {previous : StyleExecutionContract} {sequence : Sequence}
      {canonicalVariables : Option CanonicalVariableEventReducer}
      (turn : execution.completedTurn? = some terminal) (ready : execution.control.isReadyForEntry)
      (contract : execution.executionContract = some previous)
      (other : previous.runId ≠ initialized.executionContract.runId)
      (unused : ∀ run ∈ execution.completedTurnRuns,
        run.executionContract.runId ≠ initialized.executionContract.runId) :
      RootMoves execution (.turnInitialized initialized) { execution with
        completedTurnRuns :=
          execution.completedTurnRuns ++ [⟨previous, terminal.resultReference, sequence⟩]
        inputReference := initialized.inputReference
        executionContract := some initialized.executionContract
        canonicalVariables
        control := .readyForEntry (execution.graph.restartCursor 1)
        activeNode := none
        activeNodeEnteredAt := none }
  | nodeEntered {expected : StyleExecutionCursor} {sequence : Sequence}
      (expects : execution.expectedEntry = .ok expected)
      (valid : validStyleCounters expected.attempt expected.step) :
      RootMoves execution
        (.nodeEntered ⟨expected.nodeId, expected.attempt, expected.loopIteration, expected.step⟩)
        { execution with
          activeNode := some ⟨expected.nodeId, expected.attempt, expected.loopIteration, expected.step⟩
          activeNodeEnteredAt := some sequence
          control := .active ⟨expected.nodeId, expected.attempt, expected.loopIteration, expected.step⟩ }
  | nodeCompleted {completed : StyleNodeCompletedEvent} {evidence : Bool} {kind : NodeKind}
      {control : StyleExecutionControlState} {terminationReason : Option String}
      (active : execution.control =
        .active ⟨completed.nodeId, completed.attempt, completed.loopIteration, completed.step⟩)
      (found : execution.graph.nodeKind completed.nodeId = some kind)
      (moves : (kind = .completeTurn ∧ terminationReason = execution.terminationReason ∧
          control = .readyForEntry (execution.graph.restartCursor (completed.step + 1))) ∨
        (kind ≠ .completeTurn ∧ ∃ reason, completionReason kind = some reason ∧
          terminationReason = some reason ∧ control = .terminal reason) ∨
        (kind ≠ .completeTurn ∧ completionReason kind = none ∧
          terminationReason = execution.terminationReason ∧ control = .awaitingTransition completed)) :
      RootMoves execution (.nodeCompleted completed evidence) { execution with
        activeNode := none
        activeNodeEnteredAt := none
        completedNodes := execution.completedNodes ++ [completed]
        terminationReason
        control }
  | nodeFailed {failed : StyleNodeFailedEvent} {control : StyleExecutionControlState}
      (active : execution.activeNode =
        some ⟨failed.nodeId, failed.attempt, failed.loopIteration, failed.step⟩)
      (moves : (failed.terminationReason = none ∧
          control = .readyForEntry (execution.graph.restartCursor (failed.step + 1))) ∨
        ∃ reason, failed.terminationReason = some reason ∧ control = .terminal reason) :
      RootMoves execution (.nodeFailed failed) { execution with
        activeNode := none
        activeNodeEnteredAt := none
        terminationReason := failed.terminationReason
        failedNodes := execution.failedNodes ++ [failed]
        control }
  | transitionSelected {selected : StyleTransitionSelectedEvent} {completed : StyleNodeCompletedEvent}
      (awaits : execution.control = .awaitingTransition completed)
      (source : completed.nodeId = selected.fromNodeId ∧ completed.attempt = selected.attempt ∧
        completed.loopIteration = selected.loopIteration ∧ completed.step = selected.step)
      (exists_ : execution.graph.IsEdge selected.fromNodeId selected.toNodeId ∨
        execution.graph.IsConfiguredJoin selected.fromNodeId selected.toNodeId) :
      RootMoves execution (.transitionSelected selected) { execution with
        transitions := execution.transitions ++ [selected]
        control := .awaitingDestinationEntry selected }
  | terminated {terminated : StyleExecutionTerminatedEvent}
      (waits : execution.control.isReadyForEntry ∨
        ∃ selected, execution.control = .awaitingDestinationEntry selected) :
      RootMoves execution (.terminated terminated) { execution with
        terminationReason := some terminated.reason
        control := .terminal terminated.reason }

variable {execution next : StyleExecutionState}

theorem enterNode_moves {entered : StyleNodeEnteredEvent} {sequence : Sequence}
    (enters : execution.enterNode entered sequence = .ok next) :
    RootMoves execution (.nodeEntered entered) next := by
  simp only [enterNode, bind_eq_ok, exists_unit, refuseIf_eq_ok, pure_eq_ok, not_or,
    Bool.not_eq_true', Bool.not_eq_false, entryMatches_iff] at enters
  obtain ⟨expected, expects, ⟨-, -, valid, rfl⟩, rfl⟩ := enters
  exact .nodeEntered expects valid

theorem completeNode_moves {completed : StyleNodeCompletedEvent} {evidence : Bool}
    (completes : execution.completeNode completed evidence = .ok next) :
    RootMoves execution (.nodeCompleted completed evidence) next := by
  simp only [completeNode, bind_eq_ok, exists_unit, refuseIf_eq_ok, okOr_eq_ok, not_or,
    Bool.not_eq_true', Bool.not_eq_false] at completes
  obtain ⟨-, ⟨-, -, active⟩, kind, found, left⟩ := completes
  have active : execution.control =
      .active ⟨completed.nodeId, completed.attempt, completed.loopIteration, completed.step⟩ := by
    split at active
    · next entered same =>
      rw [same, Option.some.inj (activeNodeMatches_iff.mp active)]
    · cases active
  split at left
  · next completesTurn =>
    simp only [bind_eq_ok, checkedStep_eq_ok, pure_eq_ok] at left
    obtain ⟨_, ⟨-, rfl⟩, rfl⟩ := left
    exact .nodeCompleted active found (.inl ⟨completesTurn, rfl, rfl⟩)
  · next others =>
    split at left
    · next reason ends =>
      obtain rfl := pure_eq_ok.mp left
      exact .nodeCompleted active found (.inr (.inl ⟨others, reason, ends, rfl, rfl⟩))
    · next goesOn =>
      obtain rfl := pure_eq_ok.mp left
      exact .nodeCompleted active found (.inr (.inr ⟨others, goesOn, rfl, rfl⟩))

theorem failNode_moves {failed : StyleNodeFailedEvent} (fails : execution.failNode failed = .ok next) :
    RootMoves execution (.nodeFailed failed) next := by
  simp only [failNode, bind_eq_ok, exists_unit, refuseIf_eq_ok, not_or, Bool.not_eq_true',
    Bool.not_eq_false, activeNodeMatches_iff] at fails
  obtain ⟨⟨-, -, -, -, active⟩, left⟩ := fails
  split at left
  · next reason ends =>
    obtain rfl := pure_eq_ok.mp left
    exact ends ▸ .nodeFailed active (.inr ⟨reason, ends, rfl⟩)
  · next goesOn =>
    simp only [bind_eq_ok, checkedStep_eq_ok, pure_eq_ok] at left
    obtain ⟨_, ⟨-, rfl⟩, rfl⟩ := left
    exact .nodeFailed active (.inl ⟨goesOn, rfl⟩)

theorem selectTransition_moves {selected : StyleTransitionSelectedEvent}
    (selects : execution.selectTransition selected = .ok next) :
    RootMoves execution (.transitionSelected selected) next := by
  rw [selectTransition] at selects
  split at selects
  · next completed awaits =>
    simp only [bind_eq_ok, exists_unit, refuseIf_eq_ok, pure_eq_ok, not_or, ne_eq, not_not, not_and,
      Bool.not_eq_true', Bool.not_eq_false] at selects
    obtain ⟨⟨-, -, -, node, attempt, loopIteration, step, leads⟩, rfl⟩ := selects
    refine .transitionSelected awaits ⟨node, attempt, loopIteration, step⟩ ?_
    rw [← ExecutableGraph.hasTransition_iff, ← ExecutableGraph.parallelJoinTransition_iff]
    by_cases edge : execution.graph.hasTransition selected.fromNodeId selected.toNodeId
    · exact .inl edge
    · exact .inr (leads (by simpa using edge))
  · cases selects

theorem terminate_moves {terminated : StyleExecutionTerminatedEvent}
    (terminates : execution.terminate terminated = .ok next) :
    RootMoves execution (.terminated terminated) next := by
  simp only [terminate, bind_eq_ok, exists_unit, refuseIf_eq_ok, pure_eq_ok] at terminates
  obtain ⟨-, ⟨nodeId, step⟩, expected, -, rfl⟩ := terminates
  refine .terminated ?_
  rw [refusedEntry] at expected
  split at expected
  · next waits => exact .inl (by rw [waits]; rfl)
  · next selected waits => exact .inr ⟨selected, waits⟩
  · cases expected

section Root

variable [StyleSerde] [VariableSerde] [Hashing]

theorem initializeStyleTurn_moves {σ : Type} {state : Session σ} {initialized : StyleTurnInitializedEvent}
    {sequence : Sequence} (starts : initializeStyleTurn state execution initialized sequence = .ok next) :
    RootMoves execution (.turnInitialized initialized) next := by
  simp only [initializeStyleTurn, bind_eq_ok, exists_unit, refuseIf_eq_ok, okOr_eq_ok, pure_eq_ok, not_or,
    Bool.not_eq_true', Bool.not_eq_false, List.any_eq_true, not_exists, not_and, beq_iff_eq] at starts
  obtain ⟨-, terminal, turn, ⟨-, ready, -⟩, previous, contract, ⟨other, unused⟩, _, -, rfl⟩ := starts
  exact .turnInitialized turn ready contract other unused

end Root

end StyleExecutionState

end AgentMod
