import AgentMod.Verified.Session.Replay
import AgentMod.Session.ContextBoundary
import AgentMod.Session.StyleSample

/-! Context boundaries: one is open at a time, goes through its phases in order, and stays completed. -/

namespace AgentMod

/-- An open boundary is changed to one that still goes through its phases in order. -/
structure ContextBoundaryExecutionState.Updated [ContextText] (boundary : ContextBoundaryExecutionState)
    (styleBinding : Option SessionStyleBinding) (updated : ContextBoundaryExecutionState) : Prop where
  opened : boundary.completedAt = none
  inOrder : boundary.InOrder styleBinding → updated.InOrder styleBinding

/-- What an accepted event does to the context boundaries of a session. -/
inductive BoundaryMoves [ContextText] (styleBinding : Option SessionStyleBinding) :
    List ContextBoundaryExecutionState → List ContextBoundaryExecutionState → Prop where
  | stays {boundaries : List ContextBoundaryExecutionState} : BoundaryMoves styleBinding boundaries boundaries
  | opens {boundaries : List ContextBoundaryExecutionState} {fresh : ContextBoundaryExecutionState} :
      (∀ boundary ∈ boundaries, boundary.completedAt.isSome) → fresh.InOrder styleBinding →
      BoundaryMoves styleBinding boundaries (boundaries ++ [fresh])
  | updates {settled : List ContextBoundaryExecutionState} {last updated : ContextBoundaryExecutionState} :
      last.Updated styleBinding updated → BoundaryMoves styleBinding (settled ++ [last]) (settled ++ [updated])

section Updates

variable [ContextText] {styleBinding : Option SessionStyleBinding}
variable {boundary updated : ContextBoundaryExecutionState} {phases : List String} {phase : ContextPhaseIdentity}
variable {index : Nat} {sequence : Sequence}

theorem phases_eq (expected : expectedContextPhases styleBinding boundary.identity = .ok phases) :
    boundary.phases styleBinding = phases := by
  rw [ContextBoundaryExecutionState.phases, expected]
  rfl

theorem ContextBoundaryExecutionState.InOrder.noted (order : boundary.InOrder styleBinding)
    (same : updated.identity = boundary.identity) (completed : updated.completedPhases = boundary.completedPhases)
    (started : updated.startedPhases = boundary.startedPhases) (ended : updated.completedAt = boundary.completedAt) :
    updated.InOrder styleBinding := by
  have phases : updated.phases styleBinding = boundary.phases styleBinding := by
    rw [ContextBoundaryExecutionState.phases, ContextBoundaryExecutionState.phases, same]
  constructor
  · rw [completed, phases]
    exact order.completed
  · rw [completed, started, phases]
    exact order.started
  · rw [completed, ended, same]
    exact order.ended

omit [ContextText] in
theorem take_succ_of_findIdx? (found : phases.findIdx? (· = phase.phase) = some index) :
    phases.take (index + 1) = phases.take index ++ [phase.phase] := by
  obtain ⟨bound, same, -⟩ := List.findIdx?_eq_some_iff_getElem.mp found
  rw [List.take_succ_eq_append_getElem bound, of_decide_eq_true same]

theorem updated_of_startPhase (expected : expectedContextPhases styleBinding boundary.identity = .ok phases)
    (found : phases.findIdx? (· = phase.phase) = some index)
    (started : startPhase phases phase index sequence boundary = .ok updated) :
    boundary.Updated styleBinding updated := by
  simp only [startPhase, bind_eq_ok, exists_unit, refuseIf_eq_ok, pure_eq_ok, not_or, ne_eq, not_not,
    Bool.not_eq_true, Option.isSome_eq_false_iff, Option.isNone_iff_eq_none] at started
  obtain ⟨⟨opened, begun, completed⟩, -, rfl⟩ := started
  have known : boundary.phases styleBinding = phases := phases_eq expected
  refine ⟨opened, fun order => ⟨order.completed, .inr ⟨phase.phase, ?_, ?_⟩, order.ended⟩⟩
  · show boundary.startedPhases ++ _ = boundary.completedPhases ++ _
    rw [begun, completed]
  · show boundary.startedPhases ++ _ <+: boundary.phases styleBinding
    rw [begun, known, ← take_succ_of_findIdx? found]
    exact List.take_prefix _ _

theorem updated_of_completePhase (expected : expectedContextPhases styleBinding boundary.identity = .ok phases)
    (found : phases.findIdx? (· = phase.phase) = some index)
    (completed : completePhase phases phase index sequence boundary = .ok updated) :
    boundary.Updated styleBinding updated ∧ updated.completedAt = none := by
  simp only [completePhase, bind_eq_ok, exists_unit, refuseIf_eq_ok, okOr_eq_ok, pure_eq_ok, not_or, ne_eq,
    not_not, Bool.not_eq_true, Option.isSome_eq_false_iff, Option.isNone_iff_eq_none] at completed
  obtain ⟨⟨opened, begun, done⟩, -, -, -, rfl⟩ := completed
  have known : boundary.phases styleBinding = phases := phases_eq expected
  have now : boundary.completedPhases ++ [phase.phase] = phases.take (index + 1) := by
    rw [done, take_succ_of_findIdx? found]
  refine ⟨⟨opened, fun order => ⟨?_, .inl (begun.trans now.symm), fun ended => ?_⟩⟩, opened⟩
  · show boundary.completedPhases ++ _ <+: boundary.phases styleBinding
    rw [now, known]
    exact List.take_prefix _ _
  · exact absurd ended (by simp [opened])

theorem updated_of_completeBoundary {completed : ContextBoundaryCompletedEvent}
    (expected : expectedContextPhases styleBinding boundary.identity = .ok phases)
    (ended : completeBoundary phases completed sequence boundary = .ok updated) :
    boundary.Updated styleBinding updated := by
  simp only [completeBoundary, bind_eq_ok, exists_unit, refuseIf_eq_ok, pure_eq_ok, not_or, ne_eq, not_not,
    Bool.not_eq_true, Option.isSome_eq_false_iff, Option.isNone_iff_eq_none] at ended
  obtain ⟨⟨opened, -, done⟩, -, rfl⟩ := ended
  exact ⟨opened, fun order => ⟨order.completed, order.started, fun _ => done ▸ expected⟩⟩

theorem updated_of_advancePhase {invalid : SessionReducerError}
    (advanced : advancePhase invalid phase sequence boundary = .ok updated) :
    boundary.Updated styleBinding updated := by
  simp only [advancePhase, bind_eq_ok, exists_unit, refuseIf_eq_ok, pure_eq_ok, not_or, Bool.not_eq_true,
    Option.isSome_eq_false_iff, Option.isNone_iff_eq_none] at advanced
  obtain ⟨⟨opened, -⟩, -, rfl⟩ := advanced
  exact ⟨opened, fun order => order.noted rfl rfl rfl rfl⟩

omit [ContextText] in
theorem completedAt_of_compacting (compacts : compacting phases index boundary) : boundary.completedAt = none := by
  simp only [compacting, Bool.and_eq_true, Option.isNone_iff_eq_none] at compacts
  exact compacts.2

theorem updated_of_approveReplacement {approved : ContextProjectionReplacementApprovedEvent}
    (kept : approveReplacement phases index approved sequence boundary = .ok updated) :
    boundary.Updated styleBinding updated := by
  simp only [approveReplacement, bind_eq_ok, exists_unit, refuseIf_eq_ok, pure_eq_ok, not_or,
    Bool.not_eq_true', Bool.not_eq_false] at kept
  obtain ⟨⟨compacts, -⟩, -, rfl⟩ := kept
  exact ⟨completedAt_of_compacting compacts, fun order => order.noted rfl rfl rfl rfl⟩

theorem updated_of_replacement {completed : ContextBoundaryExecutionState} {eventId : EventId}
    (changed : boundary.Updated styleBinding completed) :
    boundary.Updated styleBinding { completed with phaseReplacementEvent := some eventId } :=
  ⟨changed.opened, fun order => (changed.inOrder order).noted rfl rfl rfl rfl⟩

end Updates

section Parts

variable {part next : ContextComposition} {styleBinding : Option SessionStyleBinding}
variable {identity : ContextBoundaryIdentity} {sequence : Sequence}

theorem ContextComposition.exists_of_updateLast {invalid : SessionReducerError}
    {update : ContextBoundaryExecutionState → Reducing ContextBoundaryExecutionState}
    (applied : part.updateLast identity invalid update = .ok next) : ∃ settled last updated,
      part.contextBoundaries = settled ++ [last] ∧ last.identity = identity ∧ update last = .ok updated ∧
        next = { part with contextBoundaries := settled ++ [updated] } := by
  simp only [updateLast, bind_eq_ok, exists_unit, refuseIf_eq_ok, okOr_eq_ok, pure_eq_ok,
    Option.filter_eq_some_iff, decide_eq_true_eq] at applied
  obtain ⟨-, last, ⟨found, same⟩, updated, changes, rfl⟩ := applied
  exact ⟨_, last, updated, (List.dropLast_append_getLast? _ found).symm, same, changes, rfl⟩

theorem exists_of_updateLastBoundary {records left : ContextRecords} {missing : SessionReducerError}
    {update : ContextBoundaryExecutionState → Reducing ContextBoundaryExecutionState}
    (applied : updateLastBoundary records identity missing update = .ok left) : ∃ execution settled last updated,
      records.styleExecution = some execution ∧ execution.contextBoundaries = settled ++ [last] ∧
        last.identity = identity ∧ update last = .ok updated ∧ left = { records with
          styleExecution := some { execution with contextBoundaries := settled ++ [updated] } } := by
  simp only [updateLastBoundary, bind_eq_ok, okOr_eq_ok, pure_eq_ok, Option.filter_eq_some_iff,
    decide_eq_true_eq] at applied
  obtain ⟨execution, found, last, ⟨ends, same⟩, updated, changes, rfl⟩ := applied
  exact ⟨execution, _, last, updated, found, (List.dropLast_append_getLast? _ ends).symm, same, changes, rfl⟩

variable [ContextText]

theorem moves_of_updateLast {invalid : SessionReducerError}
    {update : ContextBoundaryExecutionState → Reducing ContextBoundaryExecutionState}
    (changes : ∀ last updated, last.identity = identity → update last = .ok updated →
      last.Updated styleBinding updated)
    (applied : part.updateLast identity invalid update = .ok next) :
    BoundaryMoves styleBinding part.contextBoundaries next.contextBoundaries := by
  obtain ⟨settled, last, updated, ends, same, changed, rfl⟩ := ContextComposition.exists_of_updateLast applied
  rw [ends]
  exact .updates (changes last updated same changed)

theorem moves_of_contextBoundaryStarted
    (applied : applyContextBoundaryStarted part identity sequence = .ok next) :
    BoundaryMoves styleBinding part.contextBoundaries next.contextBoundaries := by
  simp only [applyContextBoundaryStarted, bind_eq_ok, exists_unit, refuseIf_eq_ok, okOr_eq_ok, pure_eq_ok,
    not_or] at applied
  obtain ⟨-, -, -, -, -, -, -, ⟨-, closed, -⟩, -, rfl⟩ := applied
  refine .opens (fun boundary member => ?_) ⟨List.nil_prefix, .inl rfl, fun listed => by cases listed⟩
  rw [Option.isSome_iff_ne_none]
  exact fun opened => closed (List.any_eq_true.mpr ⟨boundary, member, by rw [opened]; rfl⟩)

theorem moves_of_advanceOpenBoundary (applied : advanceOpenBoundary part sequence = .ok next) :
    BoundaryMoves styleBinding part.contextBoundaries next.contextBoundaries := by
  rw [advanceOpenBoundary] at applied
  split at applied
  · next last _ ends =>
    split at applied
    · next opened =>
      simp only [bind_eq_ok, exists_unit, refuseIf_eq_ok, pure_eq_ok] at applied
      obtain ⟨-, rfl⟩ := applied
      nth_rewrite 1 [← List.dropLast_append_getLast? _ ends]
      exact .updates ⟨Option.isNone_iff_eq_none.mp opened, fun order => order.noted rfl rfl rfl rfl⟩
    · cases applied
      exact .stays
  · cases applied
    exact .stays

theorem exists_of_completeContextPhase {phase : ContextPhaseIdentity}
    (applied : completeContextPhase part styleBinding phase sequence = .ok next) : ∃ settled last updated,
      part.contextBoundaries = settled ++ [last] ∧ last.Updated styleBinding updated ∧
        next = { part with contextBoundaries := settled ++ [updated] } := by
  simp only [completeContextPhase, bind_eq_ok, okOr_eq_ok] at applied
  obtain ⟨phases, expected, index, found, applied⟩ := applied
  obtain ⟨settled, last, updated, ends, same, changed, rfl⟩ := ContextComposition.exists_of_updateLast applied
  rw [← same] at expected
  exact ⟨settled, last, updated, ends, (updated_of_completePhase expected found changed).1, rfl⟩

theorem moves_of_contextPhaseStarted {phase : ContextPhaseIdentity}
    (applied : applyContextPhaseStarted part styleBinding phase sequence = .ok next) :
    BoundaryMoves styleBinding part.contextBoundaries next.contextBoundaries := by
  simp only [applyContextPhaseStarted, bind_eq_ok, okOr_eq_ok] at applied
  obtain ⟨phases, expected, index, found, applied⟩ := applied
  refine moves_of_updateLast (fun last updated same started => ?_) applied
  rw [← same] at expected
  exact updated_of_startPhase expected found started

theorem moves_of_advancePhase {invalid : SessionReducerError} {phase : ContextPhaseIdentity}
    (applied : part.updateLast identity invalid (advancePhase invalid phase sequence) = .ok next) :
    BoundaryMoves styleBinding part.contextBoundaries next.contextBoundaries :=
  moves_of_updateLast (fun _ _ _ advanced => updated_of_advancePhase advanced) applied

section Measured

variable [BoundaryText] [Hashing]

theorem moves_of_contextBoundaryCompleted {completed : ContextBoundaryCompletedEvent}
    (applied : applyContextBoundaryCompleted part styleBinding completed sequence = .ok next) :
    BoundaryMoves styleBinding part.contextBoundaries next.contextBoundaries := by
  simp only [applyContextBoundaryCompleted, bind_eq_ok, exists_unit, okOr_eq_ok] at applied
  obtain ⟨-, -, -, phases, expected, applied⟩ := applied
  refine moves_of_updateLast (fun last updated same ended => ?_) applied
  rw [← same] at expected
  exact updated_of_completeBoundary expected ended

variable {σ : Type} {state : Session σ}

omit [Hashing] in
theorem moves_of_replacementApproved {approved : ContextProjectionReplacementApprovedEvent}
    (applied : applyContextProjectionReplacementApproved part state approved sequence = .ok next) :
    BoundaryMoves styleBinding part.contextBoundaries next.contextBoundaries := by
  simp only [applyContextProjectionReplacementApproved, bind_eq_ok, exists_unit] at applied
  obtain ⟨_, _, _, _, _, _, _, _, _, _, applied⟩ := applied
  exact moves_of_updateLast (fun _ _ _ kept => updated_of_approveReplacement kept) applied

theorem moves_of_advanceContextArtifactPhase {artifact : ContextArtifactIdentity}
    (applied : advanceContextArtifactPhase part state artifact sequence = .ok next) :
    BoundaryMoves styleBinding part.contextBoundaries next.contextBoundaries := by
  simp only [advanceContextArtifactPhase, bind_eq_ok, exists_unit, refuseIf_eq_ok, Bool.not_eq_true',
    Bool.not_eq_false] at applied
  obtain ⟨active, applied⟩ := applied
  obtain ⟨settled, last, updated, ends, -, changed, rfl⟩ := ContextComposition.exists_of_updateLast applied
  simp only [bind_eq_ok, exists_unit, pure_eq_ok] at changed
  obtain ⟨-, rfl⟩ := changed
  -- The artifact is that of the last boundary, which is compacting.
  have opened : last.completedAt = none := by
    simp only [activeArtifactMatches] at active
    split at active
    · split at active
      · simp only [ends, List.getLast?_concat, Option.any_some, Bool.and_eq_true] at active
        exact completedAt_of_compacting active.2.1.2
      · cases active
    · cases active
  rw [ends]
  exact .updates ⟨opened, fun order => order.noted rfl rfl rfl rfl⟩

omit [BoundaryText] in
theorem moves_of_pluginContextOperationApplied {metadata : EventMetadata}
    {operation : PluginContextOperationAppliedEvent}
    (applied : applyPluginContextOperationApplied part state metadata operation = .ok next) :
    BoundaryMoves state.styleBinding part.contextBoundaries next.contextBoundaries := by
  simp only [applyPluginContextOperationApplied, bind_eq_ok, exists_unit, pure_eq_ok] at applied
  obtain ⟨record, -, hash, -, -, conversation, -, completed, completes, replaced, replaces, counted, counts, rfl⟩ :=
    applied
  obtain ⟨settled, last, updated, ends, changed, rfl⟩ := exists_of_completeContextPhase completes
  obtain ⟨settled', last', updated', ends', -, same, rfl⟩ := ContextComposition.exists_of_updateLast replaces
  obtain ⟨rfl, again⟩ := List.append_inj' ends' rfl
  cases again
  cases same
  have kept : counted.contextBoundaries = settled ++ [{ updated with phaseReplacementEvent := some metadata.eventId }] := by
    rw [countCompaction] at counts
    split at counts
    · simp only [bind_eq_ok, exists_unit, pure_eq_ok] at counts
      rw [← counts.2]
    · cases counts
      rfl
  show BoundaryMoves _ part.contextBoundaries counted.contextBoundaries
  rw [kept]
  exact ends ▸ .updates (updated_of_replacement changed)

end Measured

end Parts

section Replacements

variable {records left : ContextRecords}

/-- The boundaries of what conversations keep, the given ones where no style is executed. -/
def ContextRecords.boundaries (records : ContextRecords) (default : List ContextBoundaryExecutionState) :
    List ContextBoundaryExecutionState :=
  (records.styleExecution.map (·.contextBoundaries)).getD default

theorem boundaries_of_countCompactedTokens {method : String}
    (counted : countCompactedTokens records method = .ok left) (default : List ContextBoundaryExecutionState) :
    left.boundaries default = records.boundaries default := by
  rw [countCompactedTokens] at counted
  split at counted
  · next execution found =>
    split at counted
    · simp only [bind_eq_ok, exists_unit, pure_eq_ok] at counted
      rw [← counted.2, ContextRecords.boundaries, ContextRecords.boundaries, found]
      rfl
    · cases counted
      rfl
  · cases counted
    rfl

theorem styleExecution_of_transformApplied {phase : ContextPhaseIdentity} {eventId : EventId} {sequence : Sequence}
    (applied : applyPluginContextTransformReplacement records phase eventId sequence = .ok left) :
    left.styleExecution = records.styleExecution := by
  simp only [applyPluginContextTransformReplacement, bind_eq_ok, pure_eq_ok] at applied
  obtain ⟨_, -, rfl⟩ := applied
  rfl

variable [ContextText] {styleBinding : Option SessionStyleBinding} {metadata : EventMetadata}

/-- A replacement completes the phase that it has. -/
theorem moves_of_completeReplacement {replaced : ContextProjectionReplacedEvent}
    (completes : completeReplacement records styleBinding metadata replaced = .ok left)
    (default : List ContextBoundaryExecutionState) :
    BoundaryMoves styleBinding (records.boundaries default) (left.boundaries default) := by
  rw [completeReplacement] at completes
  split at completes
  · cases completes
    exact .stays
  · next phase _ =>
    simp only [completeReplacementPhase, applyContextPhaseCompleted, bind_eq_ok, okOr_eq_ok] at completes
    obtain ⟨completed, ⟨phases, expected, index, found, completes⟩, rest⟩ := completes
    -- A transform that is applied on the way leaves the boundaries.
    have notes : ∃ applied : ContextRecords, applied.styleExecution = completed.styleExecution ∧
        updateLastBoundary applied phase.boundary .styleExecutionNotInitialized (fun boundary =>
          .ok { boundary with phaseReplacementEvent := some metadata.eventId }) = .ok left := by
      split at rest
      · obtain ⟨applied, applies, notes⟩ := bind_eq_ok.mp rest
        exact ⟨applied, styleExecution_of_transformApplied applies, notes⟩
      · exact ⟨completed, rfl, rest⟩
    obtain ⟨applied, untouched, notes⟩ := notes
    obtain ⟨execution, settled, last, updated, executes, ends, same, changed, rfl⟩ :=
      exists_of_updateLastBoundary completes
    obtain ⟨again, settled', last', updated', executes', ends', -, noted, rfl⟩ :=
      exists_of_updateLastBoundary notes
    cases executes'.symm.trans untouched
    obtain ⟨rfl, again⟩ := List.append_inj' ends' rfl
    cases again
    cases noted
    rw [ContextRecords.boundaries, executes, Option.map_some, Option.getD_some, ends]
    rw [← same] at expected
    exact .updates (updated_of_replacement (updated_of_completePhase expected found changed).1)

variable [Hashing]

theorem moves_of_contextProjectionReplaced {part : ContextComposition} {state : Session ConversationPart}
    {replaced : ContextProjectionReplacedEvent} {conversation : ConversationPart}
    (kept : state.part = part.conversationPart)
    (applied : contextProjectionReplaced state metadata replaced = .ok conversation) :
    BoundaryMoves state.styleBinding part.contextBoundaries
      (part.withConversationPart conversation).contextBoundaries := by
  simp only [contextProjectionReplaced, bind_eq_ok, exists_unit, pure_eq_ok] at applied
  obtain ⟨-, -, conversation, -, counted, counts, completed, completes, rfl⟩ := applied
  have moves := moves_of_completeReplacement completes part.contextBoundaries
  rw [boundaries_of_countCompactedTokens counts, kept] at moves
  have same : part.conversationPart.records.boundaries part.contextBoundaries = part.contextBoundaries := by
    simp only [ContextRecords.boundaries, ContextComposition.conversationPart]
    cases part.style.styleExecution <;> rfl
  rwa [same] at moves

end Replacements

section Replayed

variable [ContextText] [BoundaryText] [Hashing] [StyleSerde] [ParallelSerde] [VariableSerde]
variable {state next : Session ContextComposition}

/-- What an accepted event of any family does to the context boundaries. -/
theorem moves_of_applyContextEvent {metadata : EventMetadata} {eventChecksum : ContentHash} {event : ContextEvent}
    {part : ContextComposition} (applied : applyContextEvent state metadata eventChecksum event = .ok part) :
    BoundaryMoves state.styleBinding state.part.contextBoundaries part.contextBoundaries := by
  cases event with
  | style event =>
    obtain ⟨_, -, rfl⟩ := by simpa only [applyContextEvent, bind_eq_ok, pure_eq_ok] using applied
    exact .stays
  | conversationEntryCommitted entry =>
    obtain ⟨_, -, rfl⟩ := by simpa only [applyContextEvent, bind_eq_ok, pure_eq_ok] using applied
    exact .stays
  | contextProjectionReplaced replaced =>
    obtain ⟨_, replaces, rfl⟩ := by simpa only [applyContextEvent, bind_eq_ok, pure_eq_ok] using applied
    exact moves_of_contextProjectionReplaced rfl replaces
  | contextProjectionReplacementApproved approved => exact moves_of_replacementApproved applied
  | contextBoundaryStarted identity => exact moves_of_contextBoundaryStarted applied
  | contextPhaseStarted phase => exact moves_of_contextPhaseStarted applied
  | contextPhaseCompleted phase =>
    obtain ⟨settled, last, updated, ends, changed, rfl⟩ := exists_of_completeContextPhase applied
    rw [ends]
    exact .updates changed
  | contextBoundaryCompleted completed => exact moves_of_contextBoundaryCompleted applied
  | pluginContextOperationApplied operation => exact moves_of_pluginContextOperationApplied applied
  | pluginPhaseAdvanced eventType invalid phase left =>
    obtain ⟨advanced, advances, rfl⟩ := by
      simpa only [applyContextEvent, bind_eq_ok, pure_eq_ok] using applied
    have moves : BoundaryMoves state.styleBinding state.part.contextBoundaries advanced.contextBoundaries :=
      moves_of_advancePhase advances
    exact moves
  | artifactPhaseAdvanced eventType identity left =>
    obtain ⟨advanced, advances, rfl⟩ := by
      simpa only [applyContextEvent, bind_eq_ok, pure_eq_ok] using applied
    have moves : BoundaryMoves state.styleBinding state.part.contextBoundaries advanced.contextBoundaries :=
      moves_of_advanceContextArtifactPhase advances
    exact moves
  | summaryAdvanced eventType left =>
    obtain ⟨advanced, advances, rfl⟩ := by
      simpa only [applyContextEvent, bind_eq_ok, pure_eq_ok] using applied
    have moves : BoundaryMoves state.styleBinding state.part.contextBoundaries advanced.contextBoundaries :=
      moves_of_advanceOpenBoundary advances
    exact moves
  | other eventType left =>
    cases applied
    exact .stays

variable [EventChecksum (SessionPayload ContextEvent)] {events : List ContextSessionEvent}
variable {event : ContextSessionEvent}

theorem SessionStep.boundaries (step : SessionStep state event next) :
    next.styleBinding = state.styleBinding ∧
      BoundaryMoves state.styleBinding state.part.contextBoundaries next.part.contextBoundaries := by
  obtain ⟨-, -, -, applied, applies, rfl⟩ := sessionStep_iff.mp step
  generalize event.payload = payload at applies
  cases applies with
  | branched => exact ⟨rfl, .stays⟩
  | lifecycle => exact ⟨rfl, .stays⟩
  | part applied => exact ⟨rfl, moves_of_applyContextEvent applied⟩

omit [BoundaryText] [Hashing] [StyleSerde] [ParallelSerde] [VariableSerde]
  [EventChecksum (SessionPayload ContextEvent)] in
theorem BoundaryMoves.kept {styleBinding : Option SessionStyleBinding}
    {boundaries moved : List ContextBoundaryExecutionState} {boundary : ContextBoundaryExecutionState} {index : Nat}
    (moves : BoundaryMoves styleBinding boundaries moved) (found : boundaries[index]? = some boundary)
    (completed : boundary.completedAt.isSome) : moved[index]? = some boundary := by
  cases moves with
  | stays => exact found
  | opens => rw [List.getElem?_append_left (List.getElem?_eq_some_iff.mp found).1, found]
  | @updates settled last updated changed =>
    -- The last boundary is open, so the completed one is in front of it.
    rcases Nat.lt_or_ge index settled.length with front | behind
    · rw [List.getElem?_append_left front] at found ⊢
      exact found
    · rw [List.getElem?_append_right behind] at found
      obtain ⟨rfl⟩ := List.mem_singleton.mp (List.mem_of_getElem? found)
      rw [changed.opened] at completed
      cases completed

omit [BoundaryText] [Hashing] [StyleSerde] [ParallelSerde] [VariableSerde]
  [EventChecksum (SessionPayload ContextEvent)] in
theorem BoundaryMoves.settled {styleBinding : Option SessionStyleBinding}
    {boundaries moved : List ContextBoundaryExecutionState} (moves : BoundaryMoves styleBinding boundaries moved)
    (settled : ∀ boundary ∈ boundaries.dropLast, boundary.completedAt.isSome) :
    ∀ boundary ∈ moved.dropLast, boundary.completedAt.isSome := by
  cases moves with
  | stays => exact settled
  | opens completed => rwa [List.dropLast_concat]
  | updates => rwa [List.dropLast_concat] at settled ⊢

omit [BoundaryText] [Hashing] [StyleSerde] [ParallelSerde] [VariableSerde]
  [EventChecksum (SessionPayload ContextEvent)] in
theorem BoundaryMoves.inOrder {styleBinding : Option SessionStyleBinding}
    {boundaries moved : List ContextBoundaryExecutionState} (moves : BoundaryMoves styleBinding boundaries moved)
    (order : ∀ boundary ∈ boundaries, boundary.InOrder styleBinding) :
    ∀ boundary ∈ moved, boundary.InOrder styleBinding := by
  cases moves with
  | stays => exact order
  | opens _ fresh => exact List.forall_mem_append.mpr ⟨order, List.forall_mem_singleton.mpr fresh⟩
  | updates changed =>
    obtain ⟨front, last⟩ := List.forall_mem_append.mp order
    exact List.forall_mem_append.mpr
      ⟨front, List.forall_mem_singleton.mpr (changed.inOrder (last _ (List.mem_singleton_self _)))⟩

theorem boundaries_of_replay (replayed : replay events = .ok state) :
    (∀ boundary ∈ state.part.contextBoundaries.dropLast, boundary.completedAt.isSome) ∧
      ∀ boundary ∈ state.part.contextBoundaries, boundary.InOrder state.styleBinding := by
  refine replay_invariant (motive := fun _ state =>
    (∀ boundary ∈ state.part.contextBoundaries.dropLast, boundary.completedAt.isSome) ∧
      ∀ boundary ∈ state.part.contextBoundaries, boundary.InOrder state.styleBinding) replayed ?_ ?_
  · intro first start created
    rw [part_of_reduce_none created]
    exact ⟨fun _ member => (List.not_mem_nil member).elim, fun _ member => (List.not_mem_nil member).elim⟩
  · rintro earlier state event next ⟨settled, order⟩ step
    obtain ⟨same, moves⟩ := step.boundaries
    rw [same]
    exact ⟨moves.settled settled, moves.inOrder order⟩

theorem boundary_kept {earlier later : List ContextSessionEvent} {before : Session ContextComposition}
    {boundary : ContextBoundaryExecutionState} {index : Nat}
    (replayed : replay (earlier ++ later) = .ok state) (begun : replay earlier = .ok before)
    (found : before.part.contextBoundaries[index]? = some boundary) (completed : boundary.completedAt.isSome) :
    state.part.contextBoundaries[index]? = some boundary := by
  -- The induction takes the last event off the later ones.
  induction later using List.reverseRecOn generalizing state with
  | nil =>
    rw [List.append_nil, begun] at replayed
    cases replayed
    exact found
  | append_singleton later event ih =>
    rw [← List.append_assoc, replay_snoc] at replayed
    rcases replayed with ⟨empty, -⟩ | ⟨middle, reached, step⟩
    · rw [(List.append_eq_nil_iff.mp empty).1] at begun
      cases begun
    · exact step.boundaries.2.kept (ih reached) completed

/-- For every replayed session, one context boundary is open at most, each goes through its expected
phases in order, and completed ones do not change. -/
theorem boundary_protocol (replayed : replay events = .ok state) : BoundaryProtocol events state := by
  obtain ⟨settled, order⟩ := boundaries_of_replay replayed
  refine ⟨?_, order, ?_⟩
  · rcases List.eq_nil_or_concat state.part.contextBoundaries with empty | ⟨front, last, ends⟩
    · rw [empty]
      exact Nat.zero_le 1
    · rw [ends, List.concat_eq_append, List.dropLast_concat] at settled
      have front_ : front.countP (·.completedAt.isNone) = 0 :=
        List.countP_eq_zero.mpr fun boundary member => by
        simpa [Option.isSome_iff_ne_none] using settled boundary member
      rw [ends, List.concat_eq_append, List.countP_append, front_, List.countP_singleton]
      split <;> decide
  · intro earlier later before index boundary split begun found completed
    subst split
    exact boundary_kept replayed begun found completed

end Replayed

section Sample

/-- A stand-in for what boundaries are measured, identified and authorized by. -/
abbrev plainBoundary : BoundaryText where
  projectionToVec _ := some []
  providerEntryToVec _ := some []
  phaseToVec _ := some []
  replacementActionDigest _ _ _ _ := some zeroHash

attribute [local instance] plainChecksum plainVariables plainSerde prefixHash turnStyle plainContext
  plainBoundary

/-- An event of the sample session with context boundaries. -/
def contextEvent (sequence : Sequence) (event : ContextEvent) : ContextSessionEvent :=
  sessionEvent sequence event.eventType (.part event) []

/-- The boundary in front of the completion of the sample's turn. -/
def discardBoundary : ContextBoundaryIdentity := ⟨"done", "before_turn_completion", "run", .userTurn, zeroHash, 3⟩

/-- A turn whose context is composed once, in front of its completion. -/
def composedTurn : List ContextSessionEvent :=
  [sessionCreation,
    contextEvent 2 (.style (.root (.initialized
      ⟨turnGraph, none, some (sampleContract turnGraph "style-run:session")⟩))),
    contextEvent 3 (.style (.root (.nodeEntered ⟨"done", 1, 0, 1⟩))),
    contextEvent 4 (.contextBoundaryStarted discardBoundary),
    contextEvent 5 (.contextPhaseStarted ⟨discardBoundary, "discard"⟩),
    contextEvent 6 (.contextPhaseCompleted ⟨discardBoundary, "discard"⟩),
    contextEvent 7 (.contextBoundaryCompleted ⟨discardBoundary, Hashing.digest [], 0, 0⟩)]

/-- The protocol of the sample's boundary. -/
theorem boundary_protocol_composedTurn : ∃ state, replay composedTurn = .ok state ∧
    state.part.contextBoundaries.map (·.completedPhases) = [["discard"]] ∧
    BoundaryProtocol composedTurn state := by
  have accepted : returns (replay composedTurn) (fun state : Session ContextComposition =>
      state.part.contextBoundaries.map (·.completedPhases) = [["discard"]]) := by decide
  obtain ⟨state, replayed, completed⟩ := returns_eq_true.mp accepted
  exact ⟨state, replayed, of_decide_eq_true completed, boundary_protocol replayed⟩

end Sample

end AgentMod
