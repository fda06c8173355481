import AgentMod.Verified.Primitives.Collections
import AgentMod.Verified.Session.Replay
import AgentMod.Session.GraphSchedule
import AgentMod.Session.StyleSample

/-! Graph schedules: each stage is reached once and in order, and executions have one receipt. -/

namespace AgentMod

/-- What an accepted schedule event does to the record of a schedule. -/
inductive ScheduleMoves (scheduleId : String) :
    ScheduleEvent → Option GraphScheduleRecord → Option GraphScheduleRecord → Prop where
  /-- The event is about another schedule. -/
  | aside {event : ScheduleEvent} {record : Option GraphScheduleRecord} :
      event.isAbout scheduleId = false → ScheduleMoves scheduleId event record record
  | resolved {resolved : GraphScheduleResolvedEvent} {timestamp : Int} {sequence : Sequence} :
      resolved.identity.scheduleId = scheduleId →
      ScheduleMoves scheduleId (.graphScheduleResolved resolved timestamp) none
        (some (.ofResolved resolved sequence))
  | approved {approved : GraphScheduleApprovedEvent} {record : GraphScheduleRecord} {sequence : Sequence} :
      approved.identity.scheduleId = scheduleId → record.identity = approved.identity →
      record.state = .resolved → record.timing.consequential →
      ScheduleMoves scheduleId (.graphScheduleApproved approved) (some record) (some { record with
        state := .approved, actionDigest := some approved.actionDigest, approvedAt := some sequence })
  | dispatched {dispatched : GraphScheduleDispatchedEvent} {record : GraphScheduleRecord} {sequence : Sequence} :
      dispatched.identity.scheduleId = scheduleId → record.identity = dispatched.identity →
      record.state = (if record.timing.consequential then .approved else .resolved) →
      record.actionDigest = dispatched.actionDigest →
      ScheduleMoves scheduleId (.graphScheduleDispatched dispatched) (some record)
        (some { record with state := .dispatched, dispatchedAt := some sequence })
  | stored {stored : GraphScheduleStoredEvent} {record : GraphScheduleRecord} {sequence : Sequence} :
      stored.identity.scheduleId = scheduleId → record.state = .dispatched →
      ScheduleMoves scheduleId (.graphScheduleStored stored) (some record) (some { record with
        state := .stored, storedAt := some sequence, replayed := stored.replayed })
  | triggered {triggered : GraphScheduleTriggeredEvent} {record : GraphScheduleRecord}
      {receipt : GraphScheduleTriggerReceipt} :
      triggered.identity.scheduleId = scheduleId → record.state = .stored →
      record.timing.waitForTrigger = false → receipt.executionId = triggered.executionId →
      ScheduleMoves scheduleId (.graphScheduleTriggered triggered) (some record)
        (some { record with triggerReceipts := record.triggerReceipts ++ [receipt] })
  | cancellationRequested {requested : GraphScheduleCancellationRequestedEvent} {record : GraphScheduleRecord}
      {sequence : Sequence} : requested.identity.scheduleId = scheduleId → record.state = .stored →
      ScheduleMoves scheduleId (.graphScheduleCancellationRequested requested) (some record)
        (some { record with cancellationRequestedAt := some sequence })
  | cancellationCompleted {completed : GraphScheduleCancellationCompletedEvent} {record : GraphScheduleRecord}
      {sequence : Sequence} : completed.identity.scheduleId = scheduleId → record.state = .stored →
      ScheduleMoves scheduleId (.graphScheduleCancellationCompleted completed) (some record)
        (some { record with
          cancellationCompletedAt := some sequence, cancellationTriggerExisted := completed.triggerExisted })
  | waitResolved {resolved : GraphNodeWaitResolvedEvent} {record : GraphScheduleRecord} {sequence : Sequence} :
      resolved.identity.scheduleId = scheduleId → record.state = .stored → record.timing.waitForTrigger →
      ScheduleMoves scheduleId (.graphNodeWaitResolved resolved) (some record)
        (some { record with state := resolved.disposition.state, waitResolvedAt := some sequence })

section Handlers

variable {part next : ScheduledStyle} {scheduleId : String} {identity : GraphScheduleIdentity}
variable {record updated : GraphScheduleRecord} {sequence : Sequence}

theorem ScheduledStyle.exists_of_updateSchedule {update : GraphScheduleRecord → Reducing GraphScheduleRecord}
    (applied : part.updateSchedule identity update = .ok next) : ∃ record updated,
      part.graphSchedules[identity.scheduleId]? = some record ∧ update record = .ok updated ∧
        next = { part with graphSchedules := part.graphSchedules.insert identity.scheduleId updated } := by
  simp only [updateSchedule, bind_eq_ok, exists_unit, refuseIf_eq_ok, okOr_eq_ok, pure_eq_ok] at applied
  obtain ⟨-, record, found, updated, changes, rfl⟩ := applied
  exact ⟨record, updated, found, changes, rfl⟩

theorem moves_of_updateSchedule {event : ScheduleEvent}
    {update : GraphScheduleRecord → Reducing GraphScheduleRecord} (about : event.identity? = some identity)
    (moves : ∀ record updated, update record = .ok updated →
      ScheduleMoves identity.scheduleId event (some record) (some updated))
    (applied : part.updateSchedule identity update = .ok next) :
    ScheduleMoves scheduleId event part.graphSchedules[scheduleId]? next.graphSchedules[scheduleId]? := by
  obtain ⟨record, updated, found, changes, rfl⟩ := ScheduledStyle.exists_of_updateSchedule applied
  rw [StringMap.getElem?_insert']
  split
  · next same =>
    subst same
    rw [found]
    exact moves record updated changes
  · next apart => exact .aside (by simpa [ScheduleEvent.isAbout, about] using apart)

theorem moves_of_dispatch {event : GraphScheduleDispatchedEvent}
    (changes : record.dispatch event sequence = .ok updated) :
    ScheduleMoves event.identity.scheduleId (.graphScheduleDispatched event) (some record) (some updated) := by
  simp only [GraphScheduleRecord.dispatch, bind_eq_ok, exists_unit, refuseIf_eq_ok, pure_eq_ok, not_or, ne_eq,
    not_not] at changes
  obtain ⟨⟨same, waiting, digest⟩, rfl⟩ := changes
  exact .dispatched rfl same waiting digest

theorem moves_of_store {event : GraphScheduleStoredEvent} (changes : record.store event sequence = .ok updated) :
    ScheduleMoves event.identity.scheduleId (.graphScheduleStored event) (some record) (some updated) := by
  simp only [GraphScheduleRecord.store, bind_eq_ok, exists_unit, refuseIf_eq_ok, pure_eq_ok, not_or, ne_eq,
    not_not] at changes
  obtain ⟨⟨-, dispatched, -⟩, rfl⟩ := changes
  exact .stored rfl dispatched

theorem moves_of_requestCancellation {event : GraphScheduleCancellationRequestedEvent}
    (changes : record.requestCancellation event sequence = .ok updated) :
    ScheduleMoves event.identity.scheduleId (.graphScheduleCancellationRequested event) (some record)
      (some updated) := by
  simp only [GraphScheduleRecord.requestCancellation, bind_eq_ok, exists_unit, refuseIf_eq_ok, pure_eq_ok, not_or,
    ne_eq, not_not] at changes
  obtain ⟨⟨-, stored, -⟩, rfl⟩ := changes
  exact .cancellationRequested rfl stored

theorem moves_of_completeCancellation {event : GraphScheduleCancellationCompletedEvent}
    (changes : record.completeCancellation event sequence = .ok updated) :
    ScheduleMoves event.identity.scheduleId (.graphScheduleCancellationCompleted event) (some record)
      (some updated) := by
  simp only [GraphScheduleRecord.completeCancellation, bind_eq_ok, exists_unit, refuseIf_eq_ok, pure_eq_ok, not_or,
    ne_eq, not_not] at changes
  obtain ⟨⟨-, stored, -⟩, rfl⟩ := changes
  exact .cancellationCompleted rfl stored

theorem moves_of_resolveWait {event : GraphNodeWaitResolvedEvent}
    (changes : record.resolveWait event sequence = .ok updated) :
    ScheduleMoves event.identity.scheduleId (.graphNodeWaitResolved event) (some record) (some updated) := by
  simp only [GraphScheduleRecord.resolveWait, bind_eq_ok, exists_unit, refuseIf_eq_ok, pure_eq_ok, not_or, ne_eq,
    not_not, Bool.not_eq_true', Bool.not_eq_false] at changes
  obtain ⟨⟨-, stored, waits, -⟩, rfl⟩ := changes
  exact .waitResolved rfl stored waits

theorem exists_of_trigger {sessionId : SessionId} {event : GraphScheduleTriggeredEvent}
    (changes : part.trigger sessionId event sequence record = .ok updated) :
    record.state = .stored ∧ record.timing.waitForTrigger = false ∧ part.hasExecution event.executionId = false ∧
      ∃ receipt : GraphScheduleTriggerReceipt, receipt.executionId = event.executionId ∧
        updated = { record with triggerReceipts := record.triggerReceipts ++ [receipt] } := by
  simp only [ScheduledStyle.trigger, bind_eq_ok, exists_unit, refuseIf_eq_ok, pure_eq_ok, not_or, ne_eq, not_not,
    Bool.not_eq_true] at changes
  obtain ⟨⟨-, -, stored, waits, -, -, -, -, -, fresh, -⟩, rfl⟩ := changes
  exact ⟨stored, waits, fresh, _, rfl, rfl⟩

section Texts

variable [ScheduleText]

theorem moves_of_approve {style workspace : String} {event : GraphScheduleApprovedEvent}
    (changes : record.approve style workspace event sequence = .ok updated) :
    ScheduleMoves event.identity.scheduleId (.graphScheduleApproved event) (some record) (some updated) := by
  simp only [GraphScheduleRecord.approve, bind_eq_ok, exists_unit, refuseIf_eq_ok, pure_eq_ok, not_or, ne_eq,
    not_not, Bool.not_eq_true', Bool.not_eq_false] at changes
  obtain ⟨_, -, _, -, ⟨same, resolved, consequential, -⟩, rfl⟩ := changes
  exact .approved rfl same resolved consequential

variable [Hashing]

theorem moves_of_graphScheduleResolved {sessionId : SessionId} {event : GraphScheduleResolvedEvent} {timestamp : Int}
    (applied : applyGraphScheduleResolved part sessionId event sequence timestamp = .ok next) :
    ScheduleMoves scheduleId (.graphScheduleResolved event timestamp) part.graphSchedules[scheduleId]?
      next.graphSchedules[scheduleId]? := by
  simp only [applyGraphScheduleResolved, bind_eq_ok, exists_unit, refuseIf_eq_ok, pure_eq_ok, not_or] at applied
  obtain ⟨_, _, _, _, _, _, _, _, _, _, ⟨-, -, fresh⟩, rfl⟩ := applied
  rw [StringMap.getElem?_insert']
  split
  · next same =>
    subst same
    have absent : part.graphSchedules[event.identity.scheduleId]? = none := by
      rw [Option.eq_none_iff_forall_ne_some]
      exact fun record found => fresh (StringMap.contains_iff.mpr ⟨record, found⟩)
    rw [absent]
    exact .resolved rfl
  · next apart => exact .aside (by simpa [ScheduleEvent.isAbout, ScheduleEvent.identity?] using apart)

variable [StyleSerde] [ParallelSerde] [VariableSerde]

theorem moves_of_applyScheduleEvent (scheduleId : String) {state : Session ScheduledStyle}
    {metadata : EventMetadata} {eventChecksum : ContentHash} {event : ScheduleEvent}
    (applied : applyScheduleEvent state metadata eventChecksum event = .ok next) :
    ScheduleMoves scheduleId event state.part.graphSchedules[scheduleId]? next.graphSchedules[scheduleId]? := by
  cases event with
  | style event =>
    obtain ⟨_, -, rfl⟩ := by simpa only [applyScheduleEvent, bind_eq_ok, pure_eq_ok] using applied
    exact .aside rfl
  | graphScheduleResolved resolved timestamp => exact moves_of_graphScheduleResolved applied
  | graphScheduleApproved approved =>
    exact moves_of_updateSchedule rfl (fun _ _ changes => moves_of_approve changes) applied
  | graphScheduleDispatched dispatched =>
    exact moves_of_updateSchedule rfl (fun _ _ changes => moves_of_dispatch changes) applied
  | graphScheduleStored stored =>
    exact moves_of_updateSchedule rfl (fun _ _ changes => moves_of_store changes) applied
  | graphScheduleTriggered triggered =>
    refine moves_of_updateSchedule rfl (fun record updated changes => ?_) applied
    obtain ⟨stored, waits, -, receipt, named, rfl⟩ := exists_of_trigger changes
    exact .triggered rfl stored waits named
  | graphScheduleCancellationRequested requested =>
    exact moves_of_updateSchedule rfl (fun _ _ changes => moves_of_requestCancellation changes) applied
  | graphScheduleCancellationCompleted completed =>
    exact moves_of_updateSchedule rfl (fun _ _ changes => moves_of_completeCancellation changes) applied
  | graphNodeWaitResolved resolved =>
    exact moves_of_updateSchedule rfl (fun _ _ changes => moves_of_resolveWait changes) applied
  | other eventType =>
    cases applied
    exact .aside rfl

end Texts

end Handlers

/-- The place of a stage in the order of stages. -/
def ScheduleStage.rank : ScheduleStage → Nat
  | resolved => 1
  | approved => 2
  | dispatched => 3
  | stored => 4
  | ended => 5

/-- The last stage that a schedule in a state got to. -/
def GraphScheduleState.stage : GraphScheduleState → ScheduleStage
  | resolved => .resolved
  | approved => .approved
  | dispatched => .dispatched
  | stored => .stored
  | resumed | cancelled | expired => .ended

/-- The place of the last stage that a record got to, zero where there is none. -/
def recordRank (record : Option GraphScheduleRecord) : Nat :=
  (record.map (·.state.stage.rank)).getD 0

/-- What the events about a schedule so far say about its record. -/
structure ScheduleAccounted (scheduleId : String) (events : List ScheduleEvent)
    (record : Option GraphScheduleRecord) : Prop where
  outbox : ScheduleOutbox scheduleId events
  /-- Stages that the record did not get to come in no event. -/
  ahead : ∀ stage : ScheduleStage, recordRank record < stage.rank →
    events.countP (·.reaches scheduleId stage) = 0
  consequential : ∀ current, record = some current →
    events.any (·.resolvesConsequential scheduleId) = current.timing.consequential
  unknown : record = none → events.any (·.resolvesConsequential scheduleId) = false
  /-- A digest is that of an approval, and a schedule in front of its approval has none. -/
  approved : ∀ current actionDigest, record = some current → current.actionDigest = some actionDigest →
    ∃ approved, .graphScheduleApproved approved ∈ events ∧ approved.identity = current.identity ∧
      approved.actionDigest = actionDigest
  unapproved : ∀ current, record = some current → current.state = .resolved → current.actionDigest = none
  pending : ∀ current, record = some current → current.state = .approved → current.actionDigest.isSome

section Steps

variable {scheduleId : String} {events : List ScheduleEvent} {event : ScheduleEvent}
variable {before after : Option GraphScheduleRecord}

theorem ScheduleEvent.reaches_of_aside (aside : event.isAbout scheduleId = false) (stage : ScheduleStage) :
    event.reaches scheduleId stage = false := by
  rw [ScheduleEvent.reaches, aside, Bool.false_and]

theorem ScheduleEvent.resolvesConsequential_of_aside (aside : event.isAbout scheduleId = false) :
    event.resolvesConsequential scheduleId = false := by
  cases event with
  | graphScheduleResolved resolved timestamp =>
    have apart : (resolved.identity.scheduleId == scheduleId) = false := aside
    rw [ScheduleEvent.resolvesConsequential, apart, Bool.false_and]
  | _ => rfl

theorem countP_reaches_snoc (stage : ScheduleStage) : (events ++ [event]).countP (·.reaches scheduleId stage) =
    events.countP (·.reaches scheduleId stage) + if event.reaches scheduleId stage then 1 else 0 := by
  rw [List.countP_append, List.countP_singleton]

theorem any_resolvesConsequential_snoc : (events ++ [event]).any (·.resolvesConsequential scheduleId) =
    (events.any (·.resolvesConsequential scheduleId) || event.resolvesConsequential scheduleId) := by
  rw [List.any_append, List.any_cons, List.any_nil, Bool.or_false]

theorem ScheduleMoves.ranked (moves : ScheduleMoves scheduleId event before after) :
    (recordRank after = recordRank before ∧ ∀ stage, event.reaches scheduleId stage = false) ∨
      ∃ stage, recordRank after = stage.rank ∧ recordRank before < stage.rank ∧
        ∀ other, event.reaches scheduleId other = decide (other = stage) := by
  have reaches : ∀ {identity : GraphScheduleIdentity} {event : ScheduleEvent} {stage : ScheduleStage},
      identity.scheduleId = scheduleId → event.identity? = some identity → event.stage? = some stage →
      ∀ other, event.reaches scheduleId other = decide (other = stage) := by
    intro identity event stage about named staged other
    rw [ScheduleEvent.reaches, ScheduleEvent.isAbout, named, staged, Option.any_some, about, beq_self_eq_true,
      Bool.true_and]
    rw [Bool.eq_iff_iff, beq_iff_eq, decide_eq_true_eq, Option.some.injEq, eq_comm]
  cases moves with
  | aside apart => exact .inl ⟨rfl, ScheduleEvent.reaches_of_aside apart⟩
  | resolved about => exact .inr ⟨.resolved, rfl, Nat.zero_lt_one, reaches about rfl rfl⟩
  | approved about _ resolved =>
    exact .inr ⟨.approved, rfl, by simp [recordRank, resolved]; decide, reaches about rfl rfl⟩
  | dispatched about _ waiting =>
    refine .inr ⟨.dispatched, rfl, ?_, reaches about rfl rfl⟩
    rw [recordRank, Option.map_some, waiting]
    split <;> decide
  | stored about dispatched =>
    exact .inr ⟨.stored, rfl, by simp [recordRank, dispatched]; decide, reaches about rfl rfl⟩
  | triggered => exact .inl ⟨rfl, fun _ => Bool.and_false _⟩
  | cancellationRequested => exact .inl ⟨rfl, fun _ => Bool.and_false _⟩
  | cancellationCompleted => exact .inl ⟨rfl, fun _ => Bool.and_false _⟩
  | @waitResolved resolved _ _ about stored =>
    refine .inr ⟨.ended, ?_, by simp [recordRank, stored]; decide, reaches about rfl rfl⟩
    rw [recordRank, Option.map_some]
    cases resolved.disposition <;> rfl

theorem ScheduleAccounted.nil : ScheduleAccounted scheduleId [] none where
  outbox := ⟨fun _ => Nat.zero_le 1, .nil, .nil⟩
  ahead _ _ := rfl
  consequential _ found := (Option.some_ne_none _ found.symm).elim
  unknown _ := rfl
  approved _ _ found := (Option.some_ne_none _ found.symm).elim
  unapproved _ found := (Option.some_ne_none _ found.symm).elim
  pending _ found := (Option.some_ne_none _ found.symm).elim

theorem ScheduleMoves.counted (moves : ScheduleMoves scheduleId event before after)
    (once : ∀ stage, events.countP (·.reaches scheduleId stage) ≤ 1)
    (ahead : ∀ stage : ScheduleStage, recordRank before < stage.rank →
      events.countP (·.reaches scheduleId stage) = 0) :
    (∀ stage, (events ++ [event]).countP (·.reaches scheduleId stage) ≤ 1) ∧
      ∀ stage : ScheduleStage, recordRank after < stage.rank →
        (events ++ [event]).countP (·.reaches scheduleId stage) = 0 := by
  simp only [countP_reaches_snoc]
  rcases moves.ranked with ⟨same, silent⟩ | ⟨reached, now, forward, reaches⟩
  · simp only [silent, same, Bool.false_eq_true, if_false, Nat.add_zero]
    exact ⟨once, ahead⟩
  · simp only [reaches, decide_eq_true_eq]
    constructor
    · intro stage
      split
      · next same => rw [same, ahead reached forward]
      · exact once stage
    · intro stage beyond
      have apart : stage ≠ reached := fun same => by rw [now, same] at beyond; exact Nat.lt_irrefl _ beyond
      rw [if_neg apart, ahead stage (forward.trans (now ▸ beyond))]

theorem ScheduleMoves.approves (moves : ScheduleMoves scheduleId event before after)
    (accounted : ScheduleAccounted scheduleId events before) (reaches : event.reaches scheduleId .approved) :
    events.any (·.resolvesConsequential scheduleId) ∧ events.all (!·.reaches scheduleId .dispatched) := by
  cases moves with
  | aside apart =>
    rw [ScheduleEvent.reaches_of_aside apart] at reaches
    cases reaches
  | @approved _ record _ _ _ resolved consequential =>
    refine ⟨(accounted.consequential record rfl).trans consequential, ?_⟩
    have none_ := accounted.ahead .dispatched (by simp [recordRank, resolved]; decide)
    simpa [List.countP_eq_zero] using none_
  | _ => simp [ScheduleEvent.reaches, ScheduleEvent.stage?] at reaches

theorem ScheduleMoves.dispatches {dispatched : GraphScheduleDispatchedEvent}
    (moves : ScheduleMoves scheduleId (.graphScheduleDispatched dispatched) before after)
    (accounted : ScheduleAccounted scheduleId events before) (about : dispatched.identity.scheduleId = scheduleId) :
    if events.any (·.resolvesConsequential scheduleId) then
      ∃ approved, .graphScheduleApproved approved ∈ events ∧ approved.identity = dispatched.identity ∧
        dispatched.actionDigest = some approved.actionDigest
    else dispatched.actionDigest = none := by
  cases moves with
  | aside apart => simp [ScheduleEvent.isAbout, ScheduleEvent.identity?, about] at apart
  | @dispatched _ record _ _ same waiting digest =>
    rw [accounted.consequential record rfl, ← digest, ← same]
    cases consequential : record.timing.consequential with
    | true =>
      rw [consequential, if_pos rfl] at waiting
      obtain ⟨actionDigest, found⟩ := Option.isSome_iff_exists.mp (accounted.pending record rfl waiting)
      obtain ⟨approved, earlier, named, kept⟩ := accounted.approved record actionDigest rfl found
      exact ⟨approved, earlier, named, by rw [found, kept]⟩
    | false =>
      rw [consequential, if_neg Bool.false_ne_true] at waiting
      exact accounted.unapproved record rfl waiting

theorem ScheduleMoves.outbox (moves : ScheduleMoves scheduleId event before after)
    (accounted : ScheduleAccounted scheduleId events before) : ScheduleOutbox scheduleId (events ++ [event]) where
  once := (moves.counted accounted.outbox.once accounted.ahead).1
  approvals := eachFollows_snoc.mpr ⟨accounted.outbox.approvals, moves.approves accounted⟩
  digests := eachFollows_snoc.mpr ⟨accounted.outbox.digests, by
    rintro dispatched rfl about
    exact moves.dispatches accounted about⟩

theorem ScheduleAccounted.dispatched {record current : GraphScheduleRecord}
    (accounted : ScheduleAccounted scheduleId events (some record))
    (moves : ScheduleMoves scheduleId event (some record) (some current))
    (quiet : event.resolvesConsequential scheduleId = false) (identity : current.identity = record.identity)
    (timing : current.timing = record.timing) (digest : current.actionDigest = record.actionDigest)
    (behind : ScheduleStage.approved.rank < current.state.stage.rank) :
    ScheduleAccounted scheduleId (events ++ [event]) (some current) where
  outbox := moves.outbox accounted
  ahead := (moves.counted accounted.outbox.once accounted.ahead).2
  consequential := by
    rintro _ ⟨⟩
    rw [any_resolvesConsequential_snoc, quiet, Bool.or_false, timing]
    exact accounted.consequential record rfl
  unknown := nofun
  approved := by
    rintro _ actionDigest ⟨⟩ found
    rw [digest] at found
    rw [identity]
    obtain ⟨approved, earlier, rest⟩ := accounted.approved record actionDigest rfl found
    exact ⟨approved, List.mem_append_left _ earlier, rest⟩
  unapproved := by
    rintro _ ⟨⟩ resolved
    rw [resolved] at behind
    exact absurd behind (by decide)
  pending := by
    rintro _ ⟨⟩ approved
    rw [approved] at behind
    exact absurd behind (by decide)

/-- A record that an event leaves still accounts for the events. -/
theorem ScheduleAccounted.moved (accounted : ScheduleAccounted scheduleId events before)
    (moves : ScheduleMoves scheduleId event before after) :
    ScheduleAccounted scheduleId (events ++ [event]) after := by
  have outbox := moves.outbox accounted
  have ahead := (moves.counted accounted.outbox.once accounted.ahead).2
  have silent : event.resolvesConsequential scheduleId = false →
      (events ++ [event]).any (·.resolvesConsequential scheduleId) =
        events.any (·.resolvesConsequential scheduleId) := by
    intro quiet
    rw [any_resolvesConsequential_snoc, quiet, Bool.or_false]
  have made := moves
  cases moves with
  | aside apart =>
    have quiet := silent (ScheduleEvent.resolvesConsequential_of_aside apart)
    refine ⟨outbox, ahead, fun current found => quiet.trans (accounted.consequential current found),
      fun absent => quiet.trans (accounted.unknown absent), fun current digest found kept => ?_,
      accounted.unapproved, accounted.pending⟩
    obtain ⟨approved, earlier, rest⟩ := accounted.approved current digest found kept
    exact ⟨approved, List.mem_append_left _ earlier, rest⟩
  | resolved about =>
    refine ⟨outbox, ahead, ?_, nofun, ?_, ?_, ?_⟩
    · rintro current ⟨⟩
      rw [any_resolvesConsequential_snoc, accounted.unknown rfl, Bool.false_or, ScheduleEvent.resolvesConsequential,
        about, beq_self_eq_true, Bool.true_and]
      rfl
    all_goals rintro current ⟨⟩
    exacts [nofun, fun _ => rfl, nofun]
  | @approved approved record _ _ same =>
    refine ⟨outbox, ahead, ?_, nofun, ?_, ?_, ?_⟩
    · rintro current ⟨⟩
      exact (silent rfl).trans (accounted.consequential record rfl)
    · rintro current actionDigest ⟨⟩ ⟨⟩
      exact ⟨approved, List.mem_append_right _ (List.mem_singleton_self _), same.symm, rfl⟩
    all_goals rintro current ⟨⟩
    exacts [nofun, fun _ => rfl]
  | dispatched => exact accounted.dispatched made rfl rfl rfl rfl (show 2 < 3 by decide)
  | stored => exact accounted.dispatched made rfl rfl rfl rfl (show 2 < 4 by decide)
  | triggered _ stored => exact accounted.dispatched made rfl rfl rfl rfl (stored ▸ show 2 < 4 by decide)
  | cancellationRequested _ stored =>
    exact accounted.dispatched made rfl rfl rfl rfl (stored ▸ show 2 < 4 by decide)
  | cancellationCompleted _ stored =>
    exact accounted.dispatched made rfl rfl rfl rfl (stored ▸ show 2 < 4 by decide)
  | @waitResolved resolved =>
    refine accounted.dispatched made rfl rfl rfl rfl ?_
    dsimp only
    cases resolved.disposition <;> decide

theorem ScheduleMoves.kept {record : GraphScheduleRecord} (moves : ScheduleMoves scheduleId event (some record) after)
    (ended : record.state.stage = .ended) : after = some record := by
  cases moves with
  | aside => rfl
  | approved _ _ resolved => rw [resolved] at ended; cases ended
  | dispatched _ _ waiting => rw [waiting] at ended; split at ended <;> cases ended
  | stored _ dispatched => rw [dispatched] at ended; cases ended
  | triggered _ stored => rw [stored] at ended; cases ended
  | cancellationRequested _ stored => rw [stored] at ended; cases ended
  | cancellationCompleted _ stored => rw [stored] at ended; cases ended
  | waitResolved _ stored => rw [stored] at ended; cases ended

/-- Receipts are those of stored schedules that are not waited for. -/
theorem ScheduleMoves.receipts (moves : ScheduleMoves scheduleId event before after)
    (receipts : ∀ record, before = some record → record.triggerReceipts ≠ [] →
      record.state = .stored ∧ record.timing.waitForTrigger = false) :
    ∀ record, after = some record → record.triggerReceipts ≠ [] →
      record.state = .stored ∧ record.timing.waitForTrigger = false := by
  have unstored : ∀ {record : GraphScheduleRecord}, before = some record → record.state ≠ .stored →
      record.triggerReceipts = [] := fun found apart =>
    Decidable.byContradiction fun some_ => apart (receipts _ found some_).1
  cases moves with
  | aside => exact receipts
  | resolved =>
    rintro _ ⟨⟩ some_
    exact absurd rfl some_
  | approved _ _ resolved =>
    rintro _ ⟨⟩ some_
    exact absurd (unstored rfl (by rw [resolved]; decide)) some_
  | dispatched _ _ waiting =>
    rintro _ ⟨⟩ some_
    exact absurd (unstored rfl (by rw [waiting]; split <;> decide)) some_
  | stored _ dispatched =>
    rintro _ ⟨⟩ some_
    exact absurd (unstored rfl (by rw [dispatched]; decide)) some_
  | triggered _ stored waits =>
    rintro _ ⟨⟩ -
    exact ⟨stored, waits⟩
  | @cancellationRequested _ record =>
    rintro _ ⟨⟩ some_
    exact receipts record rfl some_
  | @cancellationCompleted _ record =>
    rintro _ ⟨⟩ some_
    exact receipts record rfl some_
  | waitResolved _ _ waits =>
    rintro _ ⟨⟩ some_
    rw [(receipts _ rfl some_).2] at waits
    cases waits

theorem ScheduleMoves.cancelled (moves : ScheduleMoves scheduleId event before after)
    (cancelled : ∀ record, before = some record → record.timing.waitForTrigger →
      record.cancellationCompletedAt.isSome → record.state ≠ .resumed ∧ record.state ≠ .expired)
    (resolves : ∀ resolved record, event = .graphNodeWaitResolved resolved →
      resolved.identity.scheduleId = scheduleId → before = some record → record.cancellationCompletedAt.isSome →
        resolved.disposition = .cancelled) :
    ∀ record, after = some record → record.timing.waitForTrigger → record.cancellationCompletedAt.isSome →
      record.state ≠ .resumed ∧ record.state ≠ .expired := by
  cases moves with
  | aside => exact cancelled
  | resolved =>
    rintro _ ⟨⟩ - completed
    cases completed
  | triggered _ stored | cancellationRequested _ stored | cancellationCompleted _ stored =>
    rintro _ ⟨⟩ - -
    rw [stored]
    decide
  | @waitResolved resolved record _ about =>
    rintro _ ⟨⟩ - completed
    have disposition := resolves resolved record rfl about rfl completed
    dsimp only
    rw [disposition]
    decide
  | approved | dispatched | stored =>
    rintro _ ⟨⟩ - -
    exact ⟨nofun, nofun⟩

theorem ScheduleMoves.receipt_cases {record : GraphScheduleRecord} {place : Nat} {receipt : GraphScheduleTriggerReceipt}
    (moves : ScheduleMoves scheduleId event before (some record)) (found : record.triggerReceipts[place]? = some receipt) :
    (∃ earlier, before = some earlier ∧ earlier.triggerReceipts[place]? = some receipt) ∨
      ∃ triggered earlier, event = .graphScheduleTriggered triggered ∧
        triggered.identity.scheduleId = scheduleId ∧ receipt.executionId = triggered.executionId ∧
          before = some earlier ∧ place = earlier.triggerReceipts.length := by
  cases moves with
  | resolved => cases found
  | @triggered triggered earlier newest about _ _ named =>
    rcases Nat.lt_or_ge place earlier.triggerReceipts.length with front | behind
    · rw [List.getElem?_append_left front] at found
      exact .inl ⟨earlier, rfl, found⟩
    · rw [List.getElem?_append_right behind, List.getElem?_singleton] at found
      split at found
      · next last =>
        cases found
        exact .inr ⟨triggered, earlier, rfl, about, named, rfl, by omega⟩
      · cases found
  | aside | approved | dispatched | stored | cancellationRequested | cancellationCompleted | waitResolved =>
    exact .inl ⟨_, rfl, found⟩

end Steps

/-- An execution has one receipt over all schedules. -/
def UniqueExecutions (part : ScheduledStyle) : Prop :=
  ∀ (first second : String) (one two : GraphScheduleRecord) (here there : Nat)
    (receipt other : GraphScheduleTriggerReceipt),
    part.graphSchedules[first]? = some one → part.graphSchedules[second]? = some two →
    one.triggerReceipts[here]? = some receipt → two.triggerReceipts[there]? = some other →
    receipt.executionId = other.executionId → first = second ∧ here = there

section Replayed

variable [ScheduleText] [Hashing] [StyleSerde] [ParallelSerde] [VariableSerde]
variable {state next : Session ScheduledStyle}

omit [ScheduleText] [Hashing] [StyleSerde] [ParallelSerde] [VariableSerde] in
theorem executionId_ne_of_hasExecution {part : ScheduledStyle} {executionId scheduleId : String}
    {record : GraphScheduleRecord} {place : Nat} {receipt : GraphScheduleTriggerReceipt}
    (fresh : part.hasExecution executionId = false) (found : part.graphSchedules[scheduleId]? = some record)
    (inside : record.triggerReceipts[place]? = some receipt) : receipt.executionId ≠ executionId := by
  intro same
  rw [ScheduledStyle.hasExecution, List.any_eq_false] at fresh
  refine fresh record (StringMap.mem_values.mpr ⟨scheduleId, found⟩) (List.any_eq_true.mpr ⟨receipt, ?_, ?_⟩)
  · exact List.mem_of_getElem? inside
  · exact decide_eq_true same

theorem uniqueExecutions_of_applyScheduleEvent {metadata : EventMetadata} {eventChecksum : ContentHash}
    {event : ScheduleEvent} {part : ScheduledStyle} (unique : UniqueExecutions state.part)
    (applied : applyScheduleEvent state metadata eventChecksum event = .ok part) : UniqueExecutions part := by
  have fresh : ∀ triggered, event = .graphScheduleTriggered triggered →
      state.part.hasExecution triggered.executionId = false := by
    rintro triggered rfl
    obtain ⟨record, updated, -, changes, -⟩ := ScheduledStyle.exists_of_updateSchedule applied
    exact (exists_of_trigger changes).2.2.1
  intro first second one two here there receipt other found foundToo inside insideToo same
  have moves := moves_of_applyScheduleEvent first applied
  have movesToo := moves_of_applyScheduleEvent second applied
  rw [found] at moves
  rw [foundToo] at movesToo
  rcases moves.receipt_cases inside with ⟨earlier, was, old⟩ | ⟨triggered, earlier, rfl, about, named, was, last⟩
  · rcases movesToo.receipt_cases insideToo with
      ⟨earlierToo, wasToo, oldToo⟩ | ⟨triggered, -, rfl, -, named, -, -⟩
    · exact unique first second earlier earlierToo here there receipt other was wasToo old oldToo same
    · exact absurd (same.trans named) (executionId_ne_of_hasExecution (fresh triggered rfl) was old)
  · rcases movesToo.receipt_cases insideToo with
      ⟨earlierToo, wasToo, oldToo⟩ | ⟨again, earlierToo, repeats, aboutToo, -, wasToo, lastToo⟩
    · exact absurd (same.symm.trans named) (executionId_ne_of_hasExecution (fresh triggered rfl) wasToo oldToo)
    · cases repeats
      obtain rfl := about.symm.trans aboutToo
      cases was.symm.trans wasToo
      exact ⟨rfl, last.trans lastToo.symm⟩

variable [EventChecksum (SessionPayload ScheduleEvent)] {events : List ScheduleSessionEvent}
variable {event : ScheduleSessionEvent} {scheduleId : String}

omit [ScheduleText] [Hashing] [StyleSerde] [ParallelSerde] [VariableSerde]
  [EventChecksum (SessionPayload ScheduleEvent)] in
theorem scheduleEvents_snoc :
    scheduleEvents (events ++ [event]) = scheduleEvents events ++ (scheduleEvent? event).toList := by
  rw [scheduleEvents, List.filterMap_append]
  cases found : scheduleEvent? event <;> simp [scheduleEvents, found]

theorem SessionStep.schedules (step : SessionStep state event next) :
    (scheduleEvent? event = none ∧ next.part = state.part) ∨ ∃ schedule, scheduleEvent? event = some schedule ∧
      applyScheduleEvent state event.metadata event.integrityChecksum schedule = .ok next.part := by
  rcases step.part with ⟨same, outside⟩ | ⟨schedule, carried, applied⟩
  · refine .inl ⟨?_, same⟩
    rw [scheduleEvent?]
    split
    · next inside => exact absurd inside (outside _)
    · rfl
  · exact .inr ⟨schedule, by rw [scheduleEvent?, carried], applied⟩

theorem SessionStep.scheduleMoves (step : SessionStep state event next) (scheduleId : String) :
    (scheduleEvent? event = none ∧ next.part.graphSchedules[scheduleId]? = state.part.graphSchedules[scheduleId]?) ∨
      ∃ schedule, scheduleEvent? event = some schedule ∧ ScheduleMoves scheduleId schedule
        state.part.graphSchedules[scheduleId]? next.part.graphSchedules[scheduleId]? := by
  rcases step.schedules with ⟨silent, same⟩ | ⟨schedule, carried, applied⟩
  · exact .inl ⟨silent, by rw [same]⟩
  · exact .inr ⟨schedule, carried, moves_of_applyScheduleEvent _ applied⟩

theorem schedules_of_reduce_none (created : reduce (none : Option (Session ScheduledStyle)) event = .ok state) :
    scheduleEvent? event = none ∧ state.part.graphSchedules = ∅ := by
  obtain ⟨creation, carries⟩ := exists_of_reduce_none created
  exact ⟨by rw [scheduleEvent?, carries], by rw [part_of_reduce_none created]; rfl⟩

theorem scheduleAccounted_of_replay (replayed : replay events = .ok state) (scheduleId : String) :
    ScheduleAccounted scheduleId (scheduleEvents events) state.part.graphSchedules[scheduleId]? := by
  refine replay_invariant (motive := fun events state => ScheduleAccounted scheduleId (scheduleEvents events)
    state.part.graphSchedules[scheduleId]?) replayed ?_ ?_
  · intro first start created
    obtain ⟨silent, empty⟩ := schedules_of_reduce_none created
    have nothing : scheduleEvents [first] = [] := by simp [scheduleEvents, silent]
    rw [nothing, empty, Std.ExtTreeMap.getElem?_empty]
    exact .nil
  · intro earlier state event next accounted step
    rw [scheduleEvents_snoc]
    rcases step.scheduleMoves scheduleId with ⟨silent, same⟩ | ⟨schedule, carried, moves⟩
    · rw [silent, same, Option.toList_none, List.append_nil]
      exact accounted
    · rw [carried]
      exact accounted.moved moves

theorem uniqueExecutions_of_replay (replayed : replay events = .ok state) : UniqueExecutions state.part := by
  refine replay_invariant (motive := fun _ state => UniqueExecutions state.part) replayed ?_ ?_
  · intro first start created _ _ _ _ _ _ _ _ found
    rw [(schedules_of_reduce_none created).2, Std.ExtTreeMap.getElem?_empty] at found
    cases found
  · intro earlier state event next unique step
    rcases step.schedules with ⟨-, same⟩ | ⟨schedule, -, applied⟩
    · rw [same]
      exact unique
    · exact uniqueExecutions_of_applyScheduleEvent unique applied

theorem receipts_of_replay (replayed : replay events = .ok state) :
    ∀ record, state.part.graphSchedules[scheduleId]? = some record → record.triggerReceipts ≠ [] →
      record.state = .stored ∧ record.timing.waitForTrigger = false := by
  refine replay_invariant (motive := fun _ state => ∀ record, state.part.graphSchedules[scheduleId]? = some record →
    record.triggerReceipts ≠ [] → record.state = .stored ∧ record.timing.waitForTrigger = false) replayed ?_ ?_
  · intro first start created record found
    rw [(schedules_of_reduce_none created).2, Std.ExtTreeMap.getElem?_empty] at found
    cases found
  · intro earlier state event next receipts step
    rcases step.scheduleMoves scheduleId with ⟨-, same⟩ | ⟨schedule, -, moves⟩
    · rw [same]
      exact receipts
    · exact moves.receipts receipts

theorem cancelled_of_replay (replayed : replay events = .ok state) (waits : CancelledWaits events) :
    ∀ record, state.part.graphSchedules[scheduleId]? = some record → record.timing.waitForTrigger →
      record.cancellationCompletedAt.isSome → record.state ≠ .resumed ∧ record.state ≠ .expired := by
  -- The invariant carries the replay so far, as the condition is about the sessions in front of resolutions.
  have invariant := replay_invariant (motive := fun events state => replay events = .ok state ∧
    (CancelledWaits events → ∀ record, state.part.graphSchedules[scheduleId]? = some record →
      record.timing.waitForTrigger → record.cancellationCompletedAt.isSome →
        record.state ≠ .resumed ∧ record.state ≠ .expired)) replayed ?_ ?_
  · exact invariant.2 waits
  · intro first start created
    refine ⟨replay_eq_ok.mpr ⟨first, [], start, rfl, created, .nil⟩, fun _ record found => ?_⟩
    rw [(schedules_of_reduce_none created).2, Std.ExtTreeMap.getElem?_empty] at found
    cases found
  · rintro earlier state event next ⟨reached, cancelled⟩ step
    refine ⟨replay_snoc.mpr (.inr ⟨state, reached, step⟩), fun waits => ?_⟩
    obtain ⟨waitsBefore, here⟩ := eachFollows_snoc.mp waits
    rcases step.scheduleMoves scheduleId with ⟨-, same⟩ | ⟨schedule, carried, moves⟩
    · rw [same]
      exact cancelled waitsBefore
    · refine moves.cancelled (cancelled waitsBefore) ?_
      rintro resolved record rfl about found completed
      exact here resolved state record carried reached (about ▸ found) completed

theorem ended_kept {earlier later : List ScheduleSessionEvent} {before : Session ScheduledStyle}
    {record : GraphScheduleRecord} (replayed : replay (earlier ++ later) = .ok state)
    (begun : replay earlier = .ok before) (found : before.part.graphSchedules[scheduleId]? = some record)
    (ended : record.state.stage = .ended) : state.part.graphSchedules[scheduleId]? = some record := by
  -- The induction takes the last event off the later ones.
  induction later using List.reverseRecOn generalizing state with
  | nil =>
    rw [List.append_nil, begun] at replayed
    cases replayed
    exact found
  | append_singleton later event ih =>
    rw [← List.append_assoc, replay_snoc] at replayed
    rcases replayed with ⟨empty, -⟩ | ⟨middle, reached, step⟩
    · rw [(List.append_eq_nil_iff.mp empty).1] at begun
      cases begun
    · rcases step.scheduleMoves scheduleId with ⟨-, same⟩ | ⟨schedule, -, moves⟩
      · rw [same, ih reached]
      · rw [ih reached] at moves
        exact moves.kept ended

/-- Where schedules with a completed cancellation do not end resumed or expired, their waits are resolved as
cancelled. -/
theorem cancelledWaits_of_lifecycle (replayed : replay events = .ok state)
    (lifecycle : ScheduleLifecycle events state) : CancelledWaits events := by
  rintro earlier event later rfl resolved before record carried begun found completed
  rw [List.append_cons] at replayed
  obtain ⟨after, reached⟩ := replay_front (List.append_ne_nil_of_right_ne_nil _ (List.cons_ne_nil _ _)) replayed
  rcases replay_snoc.mp reached with ⟨rfl, -⟩ | ⟨middle, begun', step⟩
  · cases begun
  · cases begun.symm.trans begun'
    rcases step.scheduleMoves resolved.identity.scheduleId with ⟨silent, -⟩ | ⟨schedule, carries, moves⟩
    · cases carried.symm.trans silent
    · cases carried.symm.trans carries
      rw [found] at moves
      generalize finds : after.part.graphSchedules[resolved.identity.scheduleId]? = left at moves
      cases moves with
      | aside apart => simp [ScheduleEvent.isAbout, ScheduleEvent.identity?] at apart
      | waitResolved _ _ waits =>
        -- The ended record stays, so the lifecycle is about it in the end.
        have last := ended_kept replayed reached finds (by
          dsimp only
          cases resolved.disposition <;> rfl)
        obtain ⟨resumed, expired⟩ := lifecycle.cancelled _ _ last waits completed
        cases same : resolved.disposition with
        | cancelled => rfl
        | resumed => exact absurd (congrArg GraphNodeWaitDisposition.state same) resumed
        | expired => exact absurd (congrArg GraphNodeWaitDisposition.state same) expired

/-- For every replayed session, the lifecycle of the graph schedules is kept exactly where no wait whose
cancellation is completed is resolved as resumed or expired. -/
theorem schedule_lifecycle (replayed : replay events = .ok state) :
    ScheduleLifecycle events state ↔ CancelledWaits events :=
  ⟨cancelledWaits_of_lifecycle replayed, fun waits => {
    outbox := fun scheduleId => (scheduleAccounted_of_replay replayed scheduleId).outbox
    executions := uniqueExecutions_of_replay replayed
    receipts := fun _ => receipts_of_replay replayed
    cancelled := fun _ => cancelled_of_replay replayed waits }⟩

end Replayed

section Sample

/-- A graph that pauses at its entry. -/
def pauseGraph : ExecutableGraph :=
  sampleExecutable
    [sampleNode 0 "pause" .delay (some (.delay (.duration 5) none .suppressEffects)),
      sampleNode 1 "done" .completeTurn none] [(0, 1)]

/-- The executors of the graph that pauses. -/
def pauseExecutors : List SessionNodeExecutorResolution :=
  pauseGraph.nodes.map fun node =>
    if node.kind = .delay then { sampleResolution node with executorId := "runtime.delay" }
    else sampleResolution node

/-- The stand-in for what is persisted and serialized of the graph that pauses. -/
abbrev pauseStyle : StyleSerde := { plainStyle pauseGraph with executionPlan := fun _ => ⟨zeroHash, pauseExecutors⟩ }

/-- A stand-in for what schedules are parsed, identified and authorized by. -/
abbrev plainSchedules : ScheduleText where
  parseRfc3339 _ := none
  identityToVec _ work _ _ _ _ _ := some (utf8Bytes work.nodeId.toList)
  triggerToString _ := some ""
  continuationId _ := "continuation"
  proposalDigest _ := some zeroHash

attribute [local instance] plainChecksum plainVariables plainSerde prefixHash pauseStyle plainSchedules

/-- The identity of the delay of the sample. -/
def pauseIdentity : GraphScheduleIdentity where
  work := ⟨"style-run:session", "pause", [], 1, 0, 1⟩
  executionPlanHash := zeroHash
  configurationHash := zeroHash
  scheduleId := "graph-schedule:" ++ (Hashing.digest (utf8Bytes "pause".toList)).toHex
  continuationId := some "continuation"
  idempotencyId := (Hashing.digest (utf8Bytes "pause".toList)).toHex

/-- An event of the sample session with graph schedules. -/
def scheduleEvent (sequence : Sequence) (event : ScheduleEvent) : ScheduleSessionEvent :=
  sessionEvent sequence event.eventType (.part event) []

/-- A delay whose cancellation is completed, and whose wait is then resolved. -/
def cancelledPause (disposition : GraphNodeWaitDisposition) : List ScheduleSessionEvent :=
  [sessionCreation,
    scheduleEvent 2 (.style (.root (.initialized ⟨pauseGraph, none,
      some { sampleContract pauseGraph "style-run:session" with nodeExecutors := pauseExecutors }⟩))),
    scheduleEvent 3 (.style (.root (.nodeEntered ⟨"pause", 1, 0, 1⟩))),
    scheduleEvent 4 (.graphScheduleResolved
      ⟨pauseIdentity, some 10, ⟨.atMillis 15, some 5, none, true, false, .suppressEffects⟩⟩ 10),
    scheduleEvent 5 (.graphScheduleDispatched ⟨pauseIdentity, none⟩),
    scheduleEvent 6 (.graphScheduleStored ⟨pauseIdentity, none, false⟩),
    scheduleEvent 7 (.graphScheduleCancellationRequested ⟨pauseIdentity, .suppressEffects, "stopped"⟩),
    scheduleEvent 8 (.graphScheduleCancellationCompleted ⟨pauseIdentity, .suppressEffects, none⟩),
    scheduleEvent 9 (.graphNodeWaitResolved ⟨pauseIdentity, disposition⟩)]

/-- A delay is resumed behind the completion of its cancellation. -/
theorem not_schedule_lifecycle : ∃ state, replay (cancelledPause .resumed) = .ok state ∧
    ¬ ScheduleLifecycle (cancelledPause .resumed) state := by
  have accepted : returns (replay (cancelledPause .resumed)) (fun state : Session ScheduledStyle =>
      state.part.graphSchedules[pauseIdentity.scheduleId]?.any fun record =>
        record.timing.waitForTrigger && record.cancellationCompletedAt.isSome &&
          decide (record.state = .resumed)) := by decide
  obtain ⟨state, replayed, ended⟩ := returns_eq_true.mp accepted
  refine ⟨state, replayed, fun lifecycle => ?_⟩
  cases found : state.part.graphSchedules[pauseIdentity.scheduleId]? with
  | none =>
    rw [found] at ended
    cases ended
  | some record =>
    simp only [found, Option.any_some, Bool.and_eq_true, decide_eq_true_eq] at ended
    exact (lifecycle.cancelled _ record found ended.1.1 ended.1.2).1 ended.2

/-- The lifecycle of the sample's delay, where its wait is resolved as cancelled. -/
theorem schedule_lifecycle_cancelledPause : ∃ state, replay (cancelledPause .cancelled) = .ok state ∧
    ScheduleLifecycle (cancelledPause .cancelled) state := by
  have accepted : returns (replay (cancelledPause .cancelled)) (fun _ : Session ScheduledStyle => true) := by
    decide
  obtain ⟨state, replayed, -⟩ := returns_eq_true.mp accepted
  refine ⟨state, replayed, (schedule_lifecycle replayed).mpr ?_⟩
  intro earlier event later split resolved _ _ carried _ _ _
  have inside : event ∈ cancelledPause .cancelled := split ▸ List.mem_append_right _ List.mem_cons_self
  simp only [cancelledPause, List.mem_cons, List.not_mem_nil, or_false] at inside
  rcases inside with rfl | rfl | rfl | rfl | rfl | rfl | rfl | rfl | rfl <;> cases carried
  rfl

end Sample

end AgentMod
