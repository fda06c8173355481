import AgentMod.Session.Reducer

/-! What the reducer does with an accepted event, and what holds of everything that it replays. -/

namespace AgentMod

section Replay

variable {σ π : Type} [SessionPart σ π]

variable {sessionId : SessionId} {state next : Session σ} {event : EventEnvelope (SessionPayload π)}

theorem initializeSession_eq_ok : initializeSession sessionId event = .ok state ↔
    event.metadata.sequence = firstSequence ∧ ∃ created, event.payload = .sessionCreated created ∧
      ¬ isBlank created.workspace ∧ ¬ isBlank created.style ∧ state = {
        id := sessionId
        workspace := created.workspace
        style := created.style
        styleBinding := created.styleBinding
        ancestry := none
        lifecycle := .active
        lastSequence := event.metadata.sequence
        lastEventChecksum := event.integrityChecksum
        part := SessionPart.initial } := by
  rw [initializeSession]
  cases event.payload with
  | sessionCreated created =>
    simp only [bind_eq_ok, exists_unit, refuseIf_eq_ok, pure_eq_ok, ne_eq, not_not,
      SessionPayload.sessionCreated.injEq, exists_eq_left']
    rw [@eq_comm _ state]
  | _ => simp only [bind_eq_ok, reduceCtorEq, and_false, false_and, exists_false]

/-- What an accepted payload makes of a session. -/
inductive PayloadApplied (state : Session σ) (event : EventEnvelope (SessionPayload π)) :
    SessionPayload π → Session σ → Prop where
  | branched {ancestry : SessionAncestry} (unset : state.ancestry = none) :
      PayloadApplied state event (.sessionBranched ancestry) { state with ancestry := some ancestry }
  | lifecycle {lifecycle : SessionLifecycle}
      (follows : validLifecycleTransition state.lifecycle lifecycle) :
      PayloadApplied state event (.sessionLifecycleChanged lifecycle) { state with lifecycle }
  | part {payload : π} {part : σ}
      (applied : SessionPart.apply state event.metadata event.integrityChecksum payload = .ok part) :
      PayloadApplied state event (.part payload) { state with part }

theorem applyPayload_eq_ok : applyPayload state event = .ok next ↔
    state.lifecycle ≠ .archived ∧ PayloadApplied state event event.payload next := by
  rw [applyPayload]
  cases event.payload with
  | sessionCreated created =>
    simp only [bind_eq_ok, reduceCtorEq, and_false, exists_false, false_iff, not_and]
    rintro _ ⟨⟩
  | sessionBranched ancestry =>
    simp only [bind_eq_ok, exists_unit, refuseIf_eq_ok, pure_eq_ok, Bool.not_eq_true,
      Option.isSome_eq_false_iff, Option.isNone_iff_eq_none]
    refine and_congr_right fun _ => ⟨?_, ?_⟩
    · rintro ⟨unset, rfl⟩
      exact .branched unset
    · rintro ⟨unset⟩
      exact ⟨unset, rfl⟩
  | sessionLifecycleChanged lifecycle =>
    simp only [bind_eq_ok, exists_unit, refuseIf_eq_ok, pure_eq_ok, Bool.not_eq_true', Bool.not_eq_false]
    refine and_congr_right fun _ => ⟨?_, ?_⟩
    · rintro ⟨follows, rfl⟩
      exact .lifecycle follows
    · rintro ⟨⟩
      exact ⟨‹_›, rfl⟩
  | part payload =>
    simp only [bind_eq_ok, exists_unit, refuseIf_eq_ok, pure_eq_ok]
    refine and_congr_right fun _ => ⟨?_, ?_⟩
    · rintro ⟨part, applied, rfl⟩
      exact .part applied
    · rintro ⟨⟩
      exact ⟨_, ‹_›, rfl⟩

variable [EventChecksum (SessionPayload π)]

theorem addressedSession_eq_ok : addressedSession (σ := σ) event = .ok sessionId ↔
    event.verify = .ok () ∧ event.metadata.classification = .committed ∧
      event.metadata.eventType = event.payload.eventType σ ∧
      event.metadata.scope = .session sessionId := by
  simp only [addressedSession, bind_eq_ok, exists_unit, mapError_eq_ok, refuseIf_eq_ok, ne_eq, not_not]
  cases event.metadata.scope <;> simp

theorem sessionStep_iff : SessionStep state event next ↔
    addressedSession (σ := σ) event = .ok state.id ∧
      checkedNext state.lastSequence = some event.metadata.sequence ∧
      state.lifecycle ≠ .archived ∧ ∃ applied, PayloadApplied state event event.payload applied ∧
        next = { applied with
          lastSequence := event.metadata.sequence
          lastEventChecksum := event.integrityChecksum } := by
  simp only [SessionStep, reduce, bind_eq_ok, exists_unit, refuseIf_eq_ok, okOr_eq_ok, ne_eq, not_not,
    pure_eq_ok, applyPayload_eq_ok]
  constructor
  · rintro ⟨id, addressed, rfl, expected, follows, rfl, applied, ⟨open_, applies⟩, rfl⟩
    exact ⟨addressed, follows, open_, applied, applies, rfl⟩
  · rintro ⟨addressed, follows, open_, applied, applies, rfl⟩
    exact ⟨_, addressed, rfl, _, follows, rfl, applied, ⟨open_, applies⟩, rfl⟩

theorem foldlM_reduce_eq_ok {start : Session σ} {events : List (EventEnvelope (SessionPayload π))}
    {reached : Option (Session σ)} :
    events.foldlM (fun state event => some <$> reduce state event) (some start) = .ok reached ↔
      ∃ state, reached = some state ∧ Run SessionStep start events state := by
  -- A run ends with its last event, and so does the loop.
  induction events using List.reverseRecOn generalizing reached with
  | nil =>
    constructor
    · intro same
      cases same
      exact ⟨start, rfl, .nil⟩
    · rintro ⟨state, rfl, run⟩
      rw [Run.nil_iff.mp run]
      rfl
  | append_singleton events event ih =>
    simp only [List.foldlM_append, bind_eq_ok, ih, List.foldlM_cons, List.foldlM_nil, map_eq_ok,
      pure_eq_ok, Run.snoc_iff]
    constructor
    · rintro ⟨_, ⟨state, rfl, run⟩, _, ⟨next, reduced, rfl⟩, rfl⟩
      exact ⟨next, rfl, state, run, reduced⟩
    · rintro ⟨next, rfl, state, run, reduced⟩
      exact ⟨_, ⟨state, rfl, run⟩, _, ⟨next, reduced, rfl⟩, rfl⟩

theorem replay_eq_ok {events : List (EventEnvelope (SessionPayload π))} :
    replay events = .ok state ↔ ∃ first rest start, events = first :: rest ∧
      reduce (none : Option (Session σ)) first = .ok start ∧ Run SessionStep start rest state := by
  cases events with
  | nil => simp [replay, okOr]
  | cons first rest =>
    simp only [replay, List.foldlM_cons, bind_eq_ok, map_eq_ok, okOr_eq_ok]
    constructor
    · rintro ⟨_, ⟨_, ⟨start, created, rfl⟩, reduced⟩, rfl⟩
      obtain ⟨_, same, run⟩ := foldlM_reduce_eq_ok.mp reduced
      cases same
      exact ⟨first, rest, start, rfl, created, run⟩
    · rintro ⟨_, _, start, same, created, run⟩
      cases same
      exact ⟨some state, ⟨some start, ⟨start, created, rfl⟩, foldlM_reduce_eq_ok.mpr ⟨state, rfl, run⟩⟩,
        rfl⟩

theorem replay_snoc {events : List (EventEnvelope (SessionPayload π))} :
    replay (events ++ [event]) = .ok next ↔
      (events = [] ∧ reduce (none : Option (Session σ)) event = .ok next) ∨
        ∃ state, replay events = .ok state ∧ SessionStep state event next := by
  rw [replay_eq_ok]
  cases events with
  | nil =>
    simp only [List.nil_append, List.cons.injEq, true_and, replay, List.foldlM_nil, pure_bind, okOr]
    constructor
    · rintro ⟨_, _, start, ⟨rfl, rfl⟩, created, run⟩
      exact .inl (Run.nil_iff.mp run ▸ created)
    · rintro (created | ⟨_, missing, -⟩)
      · exact ⟨event, [], next, ⟨rfl, rfl⟩, created, .nil⟩
      · cases missing
  | cons first rest =>
    simp only [List.cons_append, List.cons.injEq, reduceCtorEq, false_and, false_or, replay_eq_ok]
    constructor
    · rintro ⟨_, _, start, ⟨rfl, rfl⟩, created, run⟩
      obtain ⟨state, before, taken⟩ := Run.snoc_iff.mp run
      exact ⟨state, ⟨_, _, start, ⟨rfl, rfl⟩, created, before⟩, taken⟩
    · rintro ⟨state, ⟨_, _, start, ⟨rfl, rfl⟩, created, before⟩, taken⟩
      exact ⟨_, _, start, ⟨rfl, rfl⟩, created, before.snoc taken⟩

theorem replay_front {earlier later : List (EventEnvelope (SessionPayload π))} (nonempty : earlier ≠ [])
    (replayed : replay (earlier ++ later) = .ok state) :
    ∃ middle : Session σ, replay earlier = .ok middle := by
  induction later using List.reverseRecOn generalizing state with
  | nil => exact ⟨state, by rwa [List.append_nil] at replayed⟩
  | append_singleton later event ih =>
    rw [← List.append_assoc, replay_snoc] at replayed
    rcases replayed with ⟨empty, -⟩ | ⟨middle, before, -⟩
    · exact absurd (List.append_eq_nil_iff.mp empty).1 nonempty
    · exact ih before

theorem exists_of_reduce_none (created : reduce (none : Option (Session σ)) event = .ok state) :
    ∃ created, event.payload = .sessionCreated created := by
  obtain ⟨_, -, initialized⟩ := bind_eq_ok.mp created
  obtain ⟨-, created, same, -⟩ := initializeSession_eq_ok.mp initialized
  exact ⟨created, same⟩

theorem part_of_reduce_none (created : reduce (none : Option (Session σ)) event = .ok state) :
    state.part = SessionPart.initial := by
  obtain ⟨_, -, initialized⟩ := bind_eq_ok.mp created
  obtain ⟨-, -, -, -, -, rfl⟩ := initializeSession_eq_ok.mp initialized
  rfl

theorem SessionStep.part (step : SessionStep state event next) :
    (next.part = state.part ∧ ∀ payload, event.payload ≠ .part payload) ∨
      ∃ payload, event.payload = .part payload ∧
        SessionPart.apply state event.metadata event.integrityChecksum payload = .ok next.part := by
  obtain ⟨-, -, -, applied, applies, rfl⟩ := sessionStep_iff.mp step
  generalize event.payload = payload at applies
  cases applies with
  | branched => exact .inl ⟨rfl, nofun⟩
  | lifecycle => exact .inl ⟨rfl, nofun⟩
  | part applied => exact .inr ⟨_, rfl, applied⟩

theorem replay_invariant {motive : List (EventEnvelope (SessionPayload π)) → Session σ → Prop}
    {events : List (EventEnvelope (SessionPayload π))} (replayed : replay events = .ok state)
    (initially : ∀ first start, reduce (none : Option (Session σ)) first = .ok start →
      motive [first] start)
    (preserved : ∀ earlier state event next, motive earlier state → SessionStep state event next →
      motive (earlier ++ [event]) next) : motive events state := by
  obtain ⟨first, rest, start, rfl, created, run⟩ := replay_eq_ok.mp replayed
  induction run with
  | nil => exact initially first start created
  | snoc before taken ih =>
    rw [← List.cons_append]
    exact preserved _ _ _ _ (ih (replay_eq_ok.mpr ⟨_, _, start, rfl, created, before⟩)) taken

end Replay

end AgentMod
