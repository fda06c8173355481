import AgentMod.Verified.Parallel.Accounting
import AgentMod.Verified.Session.StyleControl
import AgentMod.Verified.Session.StyleParallel
import AgentMod.Session.ParallelReplay

/-! What each parallel event does to the branches of a parallel execution. -/

namespace AgentMod

open CanonicalParallelExecutionState

namespace ParallelBranchControlState

theorem isQueued_iff {control : ParallelBranchControlState} : control.isQueued ↔ control = .queued := by
  cases control <;> simp [isQueued]

theorem isDispatched_iff {control : ParallelBranchControlState} : control.isDispatched ↔ control = .dispatched := by
  cases control <;> simp [isDispatched]

theorem active?_eq_some {control : ParallelBranchControlState} {entered : ParallelBranchNodeEnteredEvent} :
    control.active? = some entered ↔ control = .active entered := by
  cases control <;> simp [active?]

theorem completed?_eq_some {control : ParallelBranchControlState}
    {completed : ParallelBranchNodeCompletedEvent} :
    control.completed? = some completed ↔ control = .awaitingTransition completed := by
  cases control <;> simp [completed?]

theorem phase_of_expected? {control : ParallelBranchControlState} {cursor : ParallelBranchNodeCursor}
    (expects : control.expected? = some cursor) : control.phase = .running := by
  cases control with
  | readyForEntry | awaitingDestinationEntry => rfl
  | _ => cases expects

end ParallelBranchControlState

theorem ParallelBranchState.hasEnded_phase {state : ParallelBranchState} :
    state.phase.hasEnded = !state.isIncomplete := by
  cases state <;> rfl

theorem ParallelBranchState.holdsSlot_phase {state : ParallelBranchState} :
    state.phase.holdsSlot = state.isActive := by
  cases state <;> rfl

/-- The phase that a transition other than a cancellation needs. -/
def ParallelBranchTransition.source? : ParallelBranchTransition → Option ParallelBranchPhase
  | .dispatch .. => some .queued
  | .start .. => some .dispatched
  | .complete .. | .fail .. => some .running
  | .cancel .. => none

/-- The phase to which a transition leads. -/
def ParallelBranchTransition.target : ParallelBranchTransition → ParallelBranchPhase
  | .dispatch .. => .dispatched
  | .start .. => .running
  | .complete .. => .ended .completed
  | .fail .. => .ended .failed
  | .cancel .. => .ended .cancelled

theorem ParallelBranchState.Moves.phases {expected : Option Nat} {before after : ParallelBranchState}
    {transition : ParallelBranchTransition} (moves : before.Moves expected transition after) :
    (∀ phase, transition.source? = some phase → before.phase = phase) ∧ after.phase = transition.target := by
  cases moves with
  | cancel => exact ⟨fun _ absent => absurd absent (Option.some_ne_none _).symm, rfl⟩
  | _ => exact ⟨fun _ same => Option.some.inj same, rfl⟩

theorem ParallelBranchState.Moves.cancelled {expected : Option Nat} {before after : ParallelBranchState}
    {branchId dispatchId code : String} (moves : before.Moves expected (.cancel branchId dispatchId code) after) :
    after = .cancelled code := by
  cases moves
  rfl

/-- What an event does to the control of the branch that it is about. -/
inductive ControlMoves (execution : StyleExecutionState) (parallel : CanonicalParallelExecutionState)
    (region : ParallelBranchRegionBinding) :
    ParallelBranchControlState → StyleParallelEvent → ParallelBranchControlState → Prop where
  | dispatched {event : ParallelBranchDispatchedEvent} :
      ControlMoves execution parallel region .queued (.dispatched event) .dispatched
  | started {event : ParallelBranchStartedEvent} (step : event.firstStep = parallel.lastAllocatedStep + 1) :
      ControlMoves execution parallel region .dispatched (.started event)
        (.readyForEntry ⟨region.member.targetNodeId, 1, parallel.owner.loopIteration, event.firstStep⟩)
  | nodeEntered {control : ParallelBranchControlState} {event : ParallelBranchNodeEnteredEvent}
      (expects : control.expected? =
        some ⟨event.work.nodeId, event.work.attempt, event.work.loopIteration, event.work.step⟩)
      (run : ∃ contract, execution.executionContract = some contract ∧ event.work.runId = contract.runId)
      (path : event.work.branchPath = parallel.owner.branchPath ++ [event.branchId])
      (inside : region.nodeIds.contains event.work.nodeId) :
      ControlMoves execution parallel region control (.nodeEntered event) (.active event)
  | effectDispatched {entered : ParallelBranchNodeEnteredEvent} {identity : ParallelBranchEffectIdentity}
      {inputHashMatches : Bool} :
      ControlMoves execution parallel region (.active entered) (.effectDispatched identity inputHashMatches)
        (.active entered)
  | effectOutcomeRecorded {entered : ParallelBranchNodeEnteredEvent}
      {event : ParallelBranchEffectOutcomeRecordedEvent} :
      ControlMoves execution parallel region (.active entered) (.effectOutcomeRecorded event) (.active entered)
  | nodeCompleted {event : ParallelBranchNodeCompletedEvent} {transitionVariables : Option Json} :
      ControlMoves execution parallel region (.active event.entered) (.nodeCompleted event transitionVariables)
        (.awaitingTransition event)
  | nodeFailed {event : ParallelBranchNodeFailedEvent} :
      ControlMoves execution parallel region (.active event.entered) (.nodeFailed event) (.awaitingFailure event)
  | transitionSelected {completed : ParallelBranchNodeCompletedEvent}
      {event : ParallelBranchTransitionSelectedEvent}
      (source : completed.entered.work.nodeId = event.fromNodeId)
      (edge : execution.graph.IsEdge event.fromNodeId event.toNodeId)
      (step : event.nextStep = parallel.lastAllocatedStep + 1) :
      ControlMoves execution parallel region (.awaitingTransition completed) (.transitionSelected event)
        (.awaitingDestinationEntry event)
  | completed {selected : ParallelBranchTransitionSelectedEvent} {event : ParallelBranchTerminatedEvent}
      {sequence : Sequence} :
      ControlMoves execution parallel region (.awaitingDestinationEntry selected) (.terminated event)
        (.terminal sequence .completed)
  | failed {failed : ParallelBranchNodeFailedEvent} {event : ParallelBranchTerminatedEvent}
      {sequence : Sequence} :
      ControlMoves execution parallel region (.awaitingFailure failed) (.terminated event)
        (.terminal sequence .failed)

theorem ControlMoves.incomplete {execution : StyleExecutionState} {parallel : CanonicalParallelExecutionState}
    {region : ParallelBranchRegionBinding} {before after : ParallelBranchControlState}
    {event : StyleParallelEvent} (moves : ControlMoves execution parallel region before event after) :
    ¬ before.phase.hasEnded := by
  cases moves with
  | nodeEntered expects =>
    rw [ParallelBranchControlState.phase_of_expected? expects]
    exact Bool.false_ne_true
  | _ => exact Bool.false_ne_true

/-- The embedded execution stays, or moves a branch from one phase to another. -/
inductive EmbeddedStepped (before after : ParallelExecutionState) (branchId : String)
    (source target : ParallelBranchPhase) : Prop where
  | kept (same : after = before) (stays : target = source)
  | moved {transition : ParallelBranchTransition} {branch : ParallelBranchRecord} {moved : ParallelBranchState}
      (changes : ParallelExecutionState.Changes before transition after branch moved)
      (named : transition.branchId = branchId) (leaves : branch.state.phase = source)
      (reaches : moved.phase = target)

/-- What an event about one branch does to a parallel execution. -/
structure BranchStepped (execution : StyleExecutionState) (parallel : CanonicalParallelExecutionState)
    (event : StyleParallelEvent) (next : CanonicalParallelExecutionState) (branchId : String)
    (before after : ParallelBranchReplayRecord) : Prop where
  named : event.branchId? = some branchId
  found : parallel.branches[branchId]? = some before
  control : ControlMoves execution parallel before.region before.control event after.control
  embedded : EmbeddedStepped parallel.execution next.execution branchId before.control.phase after.control.phase
  region : after.region = before.region
  suppressed : after.suppressionAt = before.suppressionAt
  uncancelled : event.progresses → parallel.cancellationRequestedAt = none
  updated : next = { parallel with
    execution := next.execution
    branches := parallel.branches.insert branchId after
    lastAllocatedStep := event.allocatedStep?.getD parallel.lastAllocatedStep }

section Branches

variable {execution : StyleExecutionState} {parallel next : CanonicalParallelExecutionState}
  {sequence : Sequence}

@[simp] theorem refuseCancelled_eq_ok : parallel.refuseCancelled = .ok () ↔
    parallel.cancellationRequestedAt = none := by
  simp [refuseCancelled]

@[simp] theorem branch_eq_ok {branchId : String} {branch : ParallelBranchReplayRecord} :
    parallel.branch branchId = .ok branch ↔ parallel.branches[branchId]? = some branch := by
  rw [CanonicalParallelExecutionState.branch, okOr_eq_ok]

theorem isEdge_of_positions {graph : ExecutableGraph} {fromNodeId toNodeId : String} {source target : Nat}
    (fromNode : graph.position? fromNodeId = some source) (toNode : graph.position? toNodeId = some target)
    (joins : graph.edges.any fun edge => edge.source == source && edge.target == target) :
    graph.IsEdge fromNodeId toNodeId := by
  simp only [List.any_eq_true, Bool.and_eq_true, beq_iff_eq] at joins
  obtain ⟨edge, member, rfl, rfl⟩ := joins
  obtain ⟨inFrom, isFrom, -⟩ := List.findIdx?_eq_some_iff_getElem.mp fromNode
  obtain ⟨inTo, isTo, -⟩ := List.findIdx?_eq_some_iff_getElem.mp toNode
  exact ⟨edge, member, _, _, List.getElem?_eq_getElem inFrom, List.getElem?_eq_getElem inTo, beq_iff_eq.mp isFrom,
    beq_iff_eq.mp isTo⟩

section Embedded

variable [ParallelSerde]

theorem complete_of_completionTransition {state : ParallelExecutionState} {branchId : String}
    {result : JoinMemberResult} {transition : ParallelBranchTransition}
    (completes : state.completionTransition branchId result = .ok transition) :
    ∃ dispatchId sequence, transition = .complete branchId dispatchId sequence result := by
  simp only [ParallelExecutionState.completionTransition, bind_eq_ok] at completes
  obtain ⟨_, -, branch, -, completes⟩ := completes
  split at completes
  · simp only [bind_eq_ok, pure_eq_ok] at completes
    obtain ⟨sequence, -, rfl⟩ := completes
    exact ⟨_, _, rfl⟩
  · cases completes

theorem advance_eq_ok {transition : ParallelBranchTransition} (advances : parallel.advance transition = .ok next) :
    (∃ branch moved, ParallelExecutionState.Changes parallel.execution transition next.execution branch moved) ∧
      next = { parallel with execution := next.execution } := by
  rw [advance] at advances
  split at advances
  · next advanced applies =>
    cases advances
    rcases ParallelExecutionState.apply_cases applies with ⟨_, failed, -⟩ | ⟨-, changes⟩
    · cases failed
    · exact ⟨changes, rfl⟩
  · cases advances

theorem embeddedStepped_of_advance {transition : ParallelBranchTransition} {source : ParallelBranchPhase}
    (needs : transition.source? = some source) (advances : parallel.advance transition = .ok next) :
    EmbeddedStepped parallel.execution next.execution transition.branchId source transition.target ∧
      next = { parallel with execution := next.execution } := by
  obtain ⟨⟨branch, moved, changes⟩, same⟩ := advance_eq_ok advances
  obtain ⟨_, -, moves⟩ := changes.moves
  exact ⟨.moved changes rfl (moves.phases.1 source needs) moves.phases.2, same⟩

theorem stepped_of_dispatchBranch {event : ParallelBranchDispatchedEvent}
    (moves : parallel.dispatchBranch event = .ok next) :
    ∃ before after, BranchStepped execution parallel (.dispatched event) next event.branchId before after := by
  simp only [dispatchBranch, bind_eq_ok, exists_unit, refuseCancelled_eq_ok, refuseIf_eq_ok, branch_eq_ok,
    pure_eq_ok, Bool.not_eq_true', Bool.not_eq_false, ParallelBranchControlState.isQueued_iff] at moves
  obtain ⟨uncancelled, -, advanced, advances, before, found, waits, rfl⟩ := moves
  obtain ⟨embedded, same⟩ := embeddedStepped_of_advance rfl advances
  rw [same] at found ⊢
  refine ⟨before, { before with control := .dispatched }, rfl, found, ?_, ?_, rfl, rfl, fun _ => uncancelled, rfl⟩
  · rw [waits]
    exact .dispatched
  · rw [waits]
    exact embedded

theorem stepped_of_startBranch {event : ParallelBranchStartedEvent}
    (moves : parallel.startBranch event = .ok next) :
    ∃ before after, BranchStepped execution parallel (.started event) next event.branchId before after := by
  simp only [startBranch, bind_eq_ok, exists_unit, refuseCancelled_eq_ok, refuseIf_eq_ok, branch_eq_ok,
    pure_eq_ok, Bool.not_eq_true', Bool.not_eq_false, ParallelBranchControlState.isDispatched_iff,
    checkedStep_eq_ok, ne_eq, not_not] at moves
  obtain ⟨uncancelled, before, found, dispatched, _, ⟨-, rfl⟩, step, advanced, advances, rfl⟩ := moves
  obtain ⟨embedded, same⟩ := embeddedStepped_of_advance rfl advances
  rw [same]
  refine ⟨before, { before with control := .readyForEntry _ }, rfl, found, ?_, ?_, rfl, rfl,
    fun _ => uncancelled, rfl⟩
  · rw [dispatched]
    exact .started step
  · rw [dispatched]
    exact embedded

/-- What the end of a branch does. -/
theorem stepped_of_terminateBranch {event : ParallelBranchTerminatedEvent}
    (moves : parallel.terminateBranch event sequence = .ok next) :
    ∃ before after, BranchStepped execution parallel (.terminated event) next event.branchId before after := by
  simp only [terminateBranch, bind_eq_ok, exists_unit, refuseCancelled_eq_ok, branch_eq_ok, pure_eq_ok] at moves
  obtain ⟨uncancelled, before, found, transition, ends, advanced, advances, rfl⟩ := moves
  rw [terminalTransition] at ends
  split at ends
  · next selected disposition heads =>
    simp only [bind_eq_ok, mapError_eq_ok] at ends
    obtain ⟨_, -, result, -, completes⟩ := ends
    obtain ⟨_, _, rfl⟩ := complete_of_completionTransition completes
    obtain ⟨embedded, same⟩ := embeddedStepped_of_advance rfl advances
    rw [same]
    refine ⟨before, { before with control := .terminal sequence _, terminalAt := some sequence }, rfl, found, ?_,
      ?_, rfl, rfl, fun _ => uncancelled, rfl⟩
    · rw [heads, disposition]
      exact .completed
    · rw [heads, disposition]
      exact embedded
  · next failed disposition fails =>
    simp only [bind_eq_ok, pure_eq_ok] at ends
    obtain ⟨code, -, _, -, rfl⟩ := ends
    obtain ⟨embedded, same⟩ := embeddedStepped_of_advance rfl advances
    rw [same]
    refine ⟨before, { before with control := .terminal sequence _, terminalAt := some sequence }, rfl, found, ?_,
      ?_, rfl, rfl, fun _ => uncancelled, rfl⟩
    · rw [fails, disposition]
      exact .failed
    · rw [fails, disposition]
      exact embedded
  · cases ends

end Embedded

section Nested

variable [StyleSerde] [Hashing]

theorem stepped_of_enterBranchNode {event : ParallelBranchNodeEnteredEvent}
    (moves : parallel.enterBranchNode execution event sequence = .ok next) :
    ∃ before after, BranchStepped execution parallel (.nodeEntered event) next event.branchId before after := by
  simp only [enterBranchNode, validateBranchEntry, StyleExecutionState.exactExecutorForWork, bind_eq_ok, exists_unit,
    refuseCancelled_eq_ok, refuseIf_eq_ok, branch_eq_ok, okOr_eq_ok, pure_eq_ok, not_or, ne_eq, not_not,
    Bool.not_eq_true', Bool.not_eq_false] at moves
  obtain ⟨uncancelled, ⟨owner, known, found, embedded, -, node, ⟨contract, planned, _, -, _, -, ⟨run, -⟩, -⟩, hash,
    -, -, path, inside, -⟩, before, again, cursor, expects, ⟨nodeId, attempt, loopIteration, step⟩, rfl⟩ := moves
  obtain rfl : known = before := Option.some.inj (found.symm.trans again)
  refine ⟨known, { known with
    lastResult := none, effect := none, enteredAt := some sequence, control := .active event }, rfl, found, ?_,
      .kept rfl ?_, rfl, rfl, fun _ => uncancelled, rfl⟩
  · refine .nodeEntered ?_ ⟨contract, planned, run⟩ path inside
    rw [expects, ← nodeId, ← attempt, ← loopIteration, ← step]
  · exact (ParallelBranchControlState.phase_of_expected? expects).symm

omit [StyleSerde] [Hashing] in
theorem stepped_of_selectBranchTransition {event : ParallelBranchTransitionSelectedEvent}
    (moves : parallel.selectBranchTransition execution.graph event = .ok next) :
    ∃ before after, BranchStepped execution parallel (.transitionSelected event) next event.branchId before after := by
  simp only [selectBranchTransition, bind_eq_ok, exists_unit, refuseCancelled_eq_ok, refuseIf_eq_ok, branch_eq_ok,
    okOr_eq_ok, pure_eq_ok, not_or, ne_eq, not_not, Bool.not_eq_true', Bool.not_eq_false, checkedStep_eq_ok,
    ParallelBranchControlState.completed?_eq_some] at moves
  obtain ⟨before, found, completed, awaits, source, fromNode, target, toNode, uncancelled, ⟨left, -⟩, _,
    ⟨-, rfl⟩, ⟨step, edge, -⟩, rfl⟩ := moves
  refine ⟨before, { before with control := .awaitingDestinationEntry event }, rfl, found, ?_, .kept rfl ?_, rfl,
    rfl, fun _ => uncancelled, rfl⟩
  · rw [awaits]
    exact .transitionSelected left (isEdge_of_positions fromNode toNode edge) step
  · rw [awaits]
    rfl

end Nested

section Effects

variable [StyleSerde] [ParallelSerde] [Hashing]

omit [StyleSerde] [ParallelSerde] [Hashing] in
theorem stepped_of_dispatchEffect {identity : ParallelBranchEffectIdentity} {inputHashMatches : Bool}
    (moves : parallel.dispatchEffect identity inputHashMatches sequence = .ok next) :
    ∃ before after, BranchStepped execution parallel (.effectDispatched identity inputHashMatches) next
      identity.branchId before after := by
  simp only [dispatchEffect, bind_eq_ok, exists_unit, refuseIf_eq_ok, branch_eq_ok, okOr_eq_ok, pure_eq_ok, not_or,
    ParallelBranchControlState.active?_eq_some, Bool.not_eq_true, Option.isSome_eq_false_iff,
    Option.isNone_iff_eq_none] at moves
  obtain ⟨⟨uncancelled, -⟩, before, found, active, isActive, -, rfl⟩ := moves
  refine ⟨before, { before with effect := some _ }, rfl, found, ?_, .kept rfl rfl, rfl, rfl, fun _ => uncancelled,
    rfl⟩
  rw [isActive]
  exact .effectDispatched

theorem stepped_of_recordEffectOutcome {event : ParallelBranchEffectOutcomeRecordedEvent}
    (moves : parallel.recordEffectOutcome event sequence = .ok next) :
    ∃ before after, BranchStepped execution parallel (.effectOutcomeRecorded event) next event.identity.branchId
      before after := by
  simp only [recordEffectOutcome, bind_eq_ok, exists_unit, refuseIf_eq_ok, branch_eq_ok, okOr_eq_ok, pure_eq_ok,
    ParallelBranchControlState.active?_eq_some] at moves
  obtain ⟨before, found, -, active, isActive, -, effect, -, -, rfl⟩ := moves
  refine ⟨before, { before with effect := some _ }, rfl, found, ?_, .kept rfl rfl, rfl, rfl,
    fun progresses => absurd progresses Bool.false_ne_true, rfl⟩
  rw [isActive]
  exact .effectOutcomeRecorded

omit [StyleSerde] [ParallelSerde] [Hashing] in
theorem stepped_of_completeBranchNode {event : ParallelBranchNodeCompletedEvent} {transitionVariables : Option Json}
    (moves : parallel.completeBranchNode event transitionVariables = .ok next) :
    ∃ before after, BranchStepped execution parallel (.nodeCompleted event transitionVariables) next
      event.entered.branchId before after := by
  simp only [completeBranchNode, bind_eq_ok, exists_unit, refuseCancelled_eq_ok, refuseIf_eq_ok, branch_eq_ok,
    pure_eq_ok, not_or, ne_eq, not_not, ParallelBranchControlState.active?_eq_some] at moves
  obtain ⟨uncancelled, before, found, ⟨isActive, -⟩, rfl⟩ := moves
  refine ⟨before, { before with control := .awaitingTransition event, lastResult := some event.result }, rfl, found,
    ?_, .kept rfl ?_, rfl, rfl, fun _ => uncancelled, rfl⟩
  · rw [isActive]
    exact .nodeCompleted
  · rw [isActive]
    rfl

omit [StyleSerde] [ParallelSerde] [Hashing] in
theorem stepped_of_failBranchNode {event : ParallelBranchNodeFailedEvent}
    (moves : parallel.failBranchNode event = .ok next) :
    ∃ before after, BranchStepped execution parallel (.nodeFailed event) next event.entered.branchId before
      after := by
  simp only [failBranchNode, bind_eq_ok, exists_unit, refuseIf_eq_ok, branch_eq_ok, pure_eq_ok, not_or, ne_eq,
    not_not, ParallelBranchControlState.active?_eq_some, Bool.not_eq_true, Option.isSome_eq_false_iff,
    Option.isNone_iff_eq_none] at moves
  obtain ⟨before, found, ⟨uncancelled, -, isActive, -⟩, rfl⟩ := moves
  refine ⟨before, { before with control := .awaitingFailure event }, rfl, found, ?_, .kept rfl ?_, rfl, rfl,
    fun _ => uncancelled, rfl⟩
  · rw [isActive]
    exact .nodeFailed
  · rw [isActive]
    rfl

end Effects

section Cancellation

/-- What the request of a cancellation does: it marks the branches that have not ended. -/
structure CancellationRequested (parallel : CanonicalParallelExecutionState) (sequence : Sequence)
    (next : CanonicalParallelExecutionState) : Prop where
  uncancelled : parallel.cancellationRequestedAt = none
  requested : next.cancellationRequestedAt = some sequence
  branches : ∀ branchId : String, next.branches[branchId]? = parallel.branches[branchId]?.map fun branch =>
    if parallel.execution.branches[branchId]?.any (·.state.isIncomplete) then
      { branch with cancellationRequestedAt := some sequence }
    else branch
  updated : next = { parallel with
    branches := next.branches
    cancellationCode := next.cancellationCode
    cancellationRequestedAt := next.cancellationRequestedAt }

/-- What the completion of a cancellation does: it ends the branches that have not ended, and suppresses those
that hold a slot. -/
structure CancellationCompleted (parallel : CanonicalParallelExecutionState) (sequence : Sequence)
    (next : CanonicalParallelExecutionState) : Prop where
  requested : parallel.cancellationRequestedAt.isSome
  uncompleted : parallel.cancellationCompletedAt = none
  completed : next.cancellationCompletedAt = some sequence
  branches : ∀ branchId : String, next.branches[branchId]? = parallel.branches[branchId]?.map fun branch =>
    if parallel.execution.branches[branchId]?.any (·.state.isIncomplete) then
      { branch with
        control := .terminal sequence .cancelled
        terminalAt := some sequence
        suppressionAt :=
          if parallel.execution.branches[branchId]?.any (·.state.isActive) then some sequence
          else branch.suppressionAt }
    else branch
  embedded : ∃ code, ∀ branchId : String, next.execution.branches[branchId]? =
    parallel.execution.branches[branchId]?.map fun branch =>
      if branch.state.isIncomplete then { branch with state := .cancelled code } else branch
  updated : next = { parallel with
    execution := next.execution
    branches := next.branches
    cancellationCompletedAt := next.cancellationCompletedAt }

/-- The records of an embedded execution are under their own identities. -/
def Keyed (execution : ParallelExecutionState) : Prop :=
  ∀ (branchId : String) branch, execution.branches[branchId]? = some branch → branch.branchId = branchId

theorem branches_of_requestBranchCancellation {marked : List String}
    (marks : marked.foldlM (requestBranchCancellation sequence) parallel = .ok next) :
    (∀ branchId : String, next.branches[branchId]? = parallel.branches[branchId]?.map fun branch =>
      if branchId ∈ marked then { branch with cancellationRequestedAt := some sequence } else branch) ∧
      next = { parallel with branches := next.branches } := by
  refine foldlM_invariant (fun marked next => (∀ branchId : String, next.branches[branchId]? =
      parallel.branches[branchId]?.map fun branch => if branchId ∈ marked then
        { branch with cancellationRequestedAt := some sequence } else branch) ∧
      next = { parallel with branches := next.branches }) marks ⟨by simp, rfl⟩ ?_
  rintro earlier branchId later before after - ⟨holds, same⟩ adds
  simp only [requestBranchCancellation, bind_eq_ok, branch_eq_ok, pure_eq_ok] at adds
  obtain ⟨branch, found, rfl⟩ := adds
  refine ⟨fun other => ?_, by rw [same]; rfl⟩
  rw [holds] at found
  rw [setBranch, StringMap.getElem?_insert']
  by_cases is : branchId = other
  · subst is
    obtain ⟨original, known, rfl⟩ := Option.map_eq_some_iff.mp found
    rw [if_pos rfl, known, Option.map_some, if_pos (List.mem_append_right _ (List.mem_singleton.mpr rfl))]
    split <;> rfl
  · rw [if_neg is, holds]
    simp [Ne.symm is]

theorem requested_of_requestCancellation {event : ParallelCancellationRequestedEvent}
    (keyed : Keyed parallel.execution) (moves : parallel.requestCancellation event sequence = .ok next) :
    CancellationRequested parallel sequence next := by
  simp only [requestCancellation, bind_eq_ok, exists_unit, refuseCancelled_eq_ok, refuseIf_eq_ok, mapError_eq_ok]
    at moves
  obtain ⟨uncancelled, transitions, cancels, -, marks⟩ := moves
  obtain ⟨branches, same⟩ := branches_of_requestBranchCancellation marks
  refine ⟨uncancelled, by rw [same], fun branchId => ?_, by rw [same]⟩
  rw [branches]
  simp only [ParallelExecutionState.mem_cancellationTransitions keyed cancels]

/-- How far a cancellation has come that has ended some branches. -/
structure Cancelled (parallel : CanonicalParallelExecutionState) (sequence : Sequence) (code : String)
    (suppressed cancelled : List String) (next : CanonicalParallelExecutionState) : Prop where
  branches : ∀ branchId : String, next.branches[branchId]? = parallel.branches[branchId]?.map fun branch =>
    if branchId ∈ cancelled then
      { branch with
        control := .terminal sequence .cancelled
        terminalAt := some sequence
        suppressionAt := if branchId ∈ suppressed then some sequence else branch.suppressionAt }
    else branch
  embedded : ∀ branchId : String, next.execution.branches[branchId]? =
    parallel.execution.branches[branchId]?.map fun branch =>
      if branchId ∈ cancelled then { branch with state := .cancelled code } else branch
  updated : next = { parallel with execution := next.execution, branches := next.branches }

variable [ParallelSerde]

theorem Cancelled.step {code branchId dispatchId : String} {suppressed cancelled : List String}
    {before after : CanonicalParallelExecutionState}
    (earlier : Cancelled parallel sequence code suppressed cancelled before)
    (ends : cancelBranch suppressed sequence before (.cancel branchId dispatchId code) = .ok after) :
    Cancelled parallel sequence code suppressed (cancelled ++ [branchId]) after := by
  simp only [cancelBranch, bind_eq_ok, branch_eq_ok, pure_eq_ok, ParallelBranchTransition.branchId] at ends
  obtain ⟨advanced, advances, branch, found, rfl⟩ := ends
  obtain ⟨⟨embedded, moved, changes⟩, same⟩ := advance_eq_ok advances
  obtain ⟨_, -, moves⟩ := changes.moves
  obtain rfl := moves.cancelled
  rw [same, earlier.branches] at found
  obtain ⟨original, known, rfl⟩ := Option.map_eq_some_iff.mp found
  refine ⟨fun other => ?_, fun other => ?_, by rw [same, earlier.updated]; rfl⟩
  · rw [setBranch, StringMap.getElem?_insert', same]
    by_cases is : branchId = other
    · subst is
      rw [if_pos rfl, known, Option.map_some, if_pos (List.mem_append_right _ (List.mem_singleton.mpr rfl))]
      by_cases done : branchId ∈ cancelled <;> by_cases slot : branchId ∈ suppressed <;> simp [done, slot]
    · rw [if_neg is, earlier.branches]
      simp [Ne.symm is]
  · rw [setBranch, changes.lookup, ParallelBranchTransition.branchId]
    by_cases is : branchId = other
    · subst is
      have present := changes.found
      rw [ParallelBranchTransition.branchId, earlier.embedded] at present
      obtain ⟨first, first_, rfl⟩ := Option.map_eq_some_iff.mp present
      rw [if_pos rfl, first_, Option.map_some, if_pos (List.mem_append_right _ (List.mem_singleton.mpr rfl))]
      split <;> rfl
    · rw [if_neg is, earlier.embedded]
      simp [Ne.symm is]

/-- What the completion of a cancellation does. -/
theorem completed_of_completeCancellation {event : ParallelCancellationCompletedEvent}
    (keyed : Keyed parallel.execution) (moves : parallel.completeCancellation event sequence = .ok next) :
    CancellationCompleted parallel sequence next := by
  simp only [completeCancellation, bind_eq_ok, exists_unit, refuseIf_eq_ok, mapError_eq_ok, pure_eq_ok, not_or,
    Bool.not_eq_true, Option.isSome_eq_false_iff, Option.isNone_iff_eq_none] at moves
  obtain ⟨⟨-, requested, uncompleted⟩, transitions, cancels, -, cancelled, ends, rfl⟩ := moves
  have members (branchId : String) : branchId ∈ transitions.map ParallelBranchTransition.branchId ↔
      parallel.execution.branches[branchId]?.any (·.state.isIncomplete) :=
    ParallelExecutionState.mem_cancellationTransitions keyed cancels
  generalize suppressing : List.filter _ (transitions.map ParallelBranchTransition.branchId) = suppressed at ends
  have result : Cancelled parallel sequence event.code suppressed
      (transitions.map ParallelBranchTransition.branchId) cancelled := by
    refine foldlM_invariant (fun done next => Cancelled parallel sequence event.code suppressed
      (done.map ParallelBranchTransition.branchId) next) ends ⟨by simp, by simp, rfl⟩ ?_
    intro earlier transition later before after same holds step
    obtain ⟨branchId, dispatchId, rfl⟩ := ParallelExecutionState.cancel_of_mem_cancellationTransitions cancels
      (same ▸ List.mem_append_right _ List.mem_cons_self)
    rw [List.map_append]
    exact holds.step step
  have slots : ∀ branchId, parallel.execution.branches[branchId]?.any (·.state.isIncomplete) →
      (branchId ∈ suppressed ↔ parallel.execution.branches[branchId]?.any (·.state.isActive)) := by
    intro branchId incomplete
    rw [← suppressing, List.mem_filter, members]
    exact and_iff_right incomplete
  refine ⟨Option.isSome_iff_ne_none.mpr requested, uncompleted, rfl, fun branchId => ?_, ⟨event.code, fun branchId => ?_⟩, ?_⟩
  · rw [result.branches]
    simp only [members]
    split
    · next incomplete => simp only [slots branchId incomplete]
    · rfl
  · rw [result.embedded]
    simp only [members]
    cases known : parallel.execution.branches[branchId]? with
    | none => rfl
    | some branch => simp
  · rw [result.updated]

end Cancellation

/-- What an event does to a parallel execution: it steps in one branch, or cancels. -/
inductive ParallelMoved (execution : StyleExecutionState) (sequence : Sequence)
    (parallel : CanonicalParallelExecutionState) (event : StyleParallelEvent)
    (next : CanonicalParallelExecutionState) : Prop where
  | branch {branchId : String} {before after : ParallelBranchReplayRecord}
      (stepped : BranchStepped execution parallel event next branchId before after)
  | requested (silent : event.branchId? = none) (progresses : event.progresses = false)
      (requests : event.requestsCancellation) (allocated : event.allocatedStep? = none)
      (done : CancellationRequested parallel sequence next)
  | completed (silent : event.branchId? = none) (progresses : event.progresses = false)
      (requests : event.requestsCancellation = false) (completes : event.completesCancellation)
      (allocated : event.allocatedStep? = none) (done : CancellationCompleted parallel sequence next)

theorem ParallelMoves.moved [StyleSerde] [ParallelSerde] [Hashing] {event : StyleParallelEvent}
    (moves : ParallelMoves execution sequence parallel event next) (keyed : Keyed parallel.execution) :
    ParallelMoved execution sequence parallel event next := by
  cases moves with
  | dispatched moves => exact have ⟨_, _, stepped⟩ := stepped_of_dispatchBranch moves; .branch stepped
  | started moves => exact have ⟨_, _, stepped⟩ := stepped_of_startBranch moves; .branch stepped
  | nodeEntered moves => exact have ⟨_, _, stepped⟩ := stepped_of_enterBranchNode moves; .branch stepped
  | effectDispatched moves => exact have ⟨_, _, stepped⟩ := stepped_of_dispatchEffect moves; .branch stepped
  | effectOutcomeRecorded moves =>
    exact have ⟨_, _, stepped⟩ := stepped_of_recordEffectOutcome moves; .branch stepped
  | nodeCompleted moves => exact have ⟨_, _, stepped⟩ := stepped_of_completeBranchNode moves; .branch stepped
  | nodeFailed moves => exact have ⟨_, _, stepped⟩ := stepped_of_failBranchNode moves; .branch stepped
  | transitionSelected moves =>
    exact have ⟨_, _, stepped⟩ := stepped_of_selectBranchTransition moves; .branch stepped
  | terminated moves => exact have ⟨_, _, stepped⟩ := stepped_of_terminateBranch moves; .branch stepped
  | cancellationRequested moves =>
    exact .requested rfl rfl rfl rfl (requested_of_requestCancellation keyed moves)
  | cancellationCompleted moves =>
    exact .completed rfl rfl rfl rfl rfl (completed_of_completeCancellation keyed moves)

end Branches

end AgentMod
