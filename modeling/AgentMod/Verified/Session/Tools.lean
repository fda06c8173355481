import AgentMod.Verified.Primitives.Collections
import AgentMod.Verified.Session.Replay
import AgentMod.Session.StyleSample
import AgentMod.Session.Tools

/-! Tool executions: a call is dispatched once, started once and ended once. -/

namespace AgentMod

/-- What an accepted tool event does to the record of a call. -/
inductive ToolMoves (callId : String) :
    ToolEvent → Option ToolExecutionRecord → Option ToolExecutionRecord → Prop where
  /-- The event is about another call. -/
  | aside {event : ToolEvent} {record : Option ToolExecutionRecord} :
      event.callId? ≠ some callId → ToolMoves callId event record record
  | dispatched {event : ToolEvent} {record : ToolExecutionRecord} :
      event.dispatches callId → event.terminates callId = false → record.state = .dispatched →
      ToolMoves callId event none (some record)
  /-- A start or an output of an unknown call leaves nothing. -/
  | unknown {event : ToolEvent} :
      event.dispatches callId = false → event.terminates callId = false → ToolMoves callId event none none
  | started {event : ToolEvent} {record : ToolExecutionRecord} {observedEventCount : Nat} :
      event.dispatches callId = false → event.terminates callId = false → record.state = .dispatched →
      ToolMoves callId event (some record) (some { record with state := .started, observedEventCount })
  | observed {event : ToolEvent} {record : ToolExecutionRecord} {observedEventCount : Nat} :
      event.dispatches callId = false → event.terminates callId = false → record.state ≠ .terminal →
      ToolMoves callId event (some record) (some { record with observedEventCount })
  | unannounced {event : ToolEvent} {record : ToolExecutionRecord} :
      event.dispatches callId = false → event.terminates callId → record.state = .terminal →
      ToolMoves callId event none (some record)
  | ended {event : ToolEvent} {record ended : ToolExecutionRecord} :
      event.dispatches callId = false → event.terminates callId → record.state ≠ .terminal →
      ended.state = .terminal →
      (∀ actionDigest, record.actionDigest = some actionDigest → ended.actionDigest = some actionDigest) →
      ToolMoves callId event (some record) (some ended)

namespace ToolExecutions

variable {tools next : ToolExecutions} {callId updated : String} {sequence : Sequence}

theorem records_set {record : ToolExecutionRecord} : (tools.set updated record).records[callId]? =
    if updated = callId then some record else tools.records[callId]? :=
  StringMap.getElem?_insert'

theorem terminalDigest_eq_ok {existing actionDigest result : Option ContentHash}
    (kept : terminalDigest existing actionDigest = .ok result) {digest : ContentHash}
    (recorded : existing = some digest) : result = some digest := by
  subst recorded
  cases actionDigest with
  | none => exact (Except.ok.inj kept).symm
  | some actionDigest =>
    simp only [terminalDigest, bind_eq_ok, refuseIf_eq_ok, exists_unit, pure_eq_ok] at kept
    obtain ⟨same, rfl⟩ := kept
    rw [Option.any_some, decide_eq_true_eq, ne_eq, not_not] at same
    exact congrArg some same.symm

theorem moves_of_set {event : ToolEvent} {record : ToolExecutionRecord}
    (about : event.callId? = some updated)
    (moves : ToolMoves updated event tools.records[updated]? (some record)) :
    ToolMoves callId event tools.records[callId]? (tools.set updated record).records[callId]? := by
  rw [records_set]
  split
  · next same => exact same ▸ moves
  · next apart => exact .aside fun same => apart (Option.some.inj (about.symm.trans same))

theorem moves_of_toolDispatch {dispatched : ToolExecutionDispatchedEvent}
    (applied : tools.toolDispatch dispatched sequence = .ok next) :
    ToolMoves callId (.toolExecutionDispatched dispatched) tools.records[callId]? next.records[callId]? := by
  simp only [toolDispatch, bind_eq_ok, refuseIf_eq_ok, exists_unit, pure_eq_ok] at applied
  obtain ⟨fresh, rfl⟩ := applied
  refine moves_of_set rfl ?_
  have absent : tools.records[dispatched.callId]? = none := by
    rw [Option.eq_none_iff_forall_ne_some]
    exact fun record found => fresh (StringMap.contains_iff.mpr ⟨record, found⟩)
  rw [absent]
  exact .dispatched (beq_self_eq_true _) rfl rfl

theorem moves_of_unknown {event : ToolEvent} (about : event.callId? = some updated)
    (silent : ∀ callId, event.dispatches callId = false ∧ event.terminates callId = false)
    (absent : tools.records[updated]? = none) :
    ToolMoves callId event tools.records[callId]? tools.records[callId]? := by
  by_cases same : updated = callId
  · rw [← same, absent]
    exact .unknown (silent _).1 (silent _).2
  · exact .aside fun found => same (Option.some.inj (about.symm.trans found))

theorem moves_of_toolStarted (applied : tools.toolStarted updated = .ok next) :
    ToolMoves callId (.toolExecutionStarted updated) tools.records[callId]? next.records[callId]? := by
  rw [toolStarted] at applied
  split at applied
  · next record found =>
    simp only [bind_eq_ok, refuseIf_eq_ok, exists_unit, pure_eq_ok, ne_eq, not_not] at applied
    obtain ⟨waiting, count, -, rfl⟩ := applied
    refine moves_of_set rfl ?_
    rw [found]
    exact .started rfl rfl waiting
  · next absent =>
    cases applied
    exact moves_of_unknown rfl (fun _ => ⟨rfl, rfl⟩) absent

theorem moves_of_incrementEventCount (applied : tools.incrementEventCount updated = .ok next) :
    ToolMoves callId (.toolOutputObserved updated) tools.records[callId]? next.records[callId]? := by
  rw [incrementEventCount] at applied
  split at applied
  · next record found =>
    simp only [bind_eq_ok, refuseIf_eq_ok, exists_unit, pure_eq_ok] at applied
    obtain ⟨running, count, -, rfl⟩ := applied
    refine moves_of_set rfl ?_
    rw [found]
    exact .observed rfl rfl running
  · next absent =>
    cases applied
    exact moves_of_unknown rfl (fun _ => ⟨rfl, rfl⟩) absent

theorem moves_of_markTerminal {event : ToolEvent} {actionDigest : Option ContentHash}
    {outcome : ToolExecutionTerminalOutcome} (about : event.callId? = some updated)
    (ends : event.terminates updated) (silent : event.dispatches updated = false)
    (applied : tools.markTerminal updated sequence actionDigest outcome = .ok next) :
    ToolMoves callId event tools.records[callId]? next.records[callId]? := by
  rw [markTerminal] at applied
  split at applied
  · next record found =>
    simp only [bind_eq_ok, refuseIf_eq_ok, exists_unit, pure_eq_ok] at applied
    obtain ⟨running, digest, kept, count, -, rfl⟩ := applied
    refine moves_of_set about ?_
    rw [found]
    exact .ended silent ends running rfl fun _ recorded => terminalDigest_eq_ok kept recorded
  · next absent =>
    cases applied
    refine moves_of_set about ?_
    rw [absent]
    exact .unannounced silent ends rfl

theorem moves_of_applyEvent {event : ToolEvent} (applied : tools.applyEvent sequence event = .ok next) :
    ToolMoves callId event tools.records[callId]? next.records[callId]? := by
  cases event with
  | toolExecutionDispatched dispatched => exact moves_of_toolDispatch applied
  | toolExecutionStarted started => exact moves_of_toolStarted applied
  | toolOutputObserved observed => exact moves_of_incrementEventCount applied
  | toolExecutionCompleted completed =>
    exact moves_of_markTerminal rfl (beq_self_eq_true _) rfl applied
  | toolExecutionFailed failed => exact moves_of_markTerminal rfl (beq_self_eq_true _) rfl applied
  | other eventType =>
    cases applied
    exact .aside (Option.some_ne_none _).symm

end ToolExecutions

/-- What the events about a call so far say about its record. -/
structure ToolAccounted (callId : String) (events : List ToolEvent) (record : Option ToolExecutionRecord) :
    Prop where
  dispatched : events.countP (·.dispatches callId) ≤ 1
  unknown : record = none → events.countP (·.dispatches callId) = 0
  /-- The record has ended exactly where a terminal event came. -/
  ended : (∃ current, record = some current ∧ current.state = .terminal) ↔ events.any (·.terminates callId)
  settled : EachFollows (fun earlier event =>
    event.callId? = some callId → earlier.all (!·.terminates callId)) events

section Steps

variable {callId : String} {events : List ToolEvent} {event : ToolEvent} {before after : Option ToolExecutionRecord}

theorem ToolEvent.about_of_terminates (ends : event.terminates callId) : event.callId? = some callId := by
  cases event with
  | toolExecutionCompleted completed => exact congrArg some (beq_iff_eq.mp ends)
  | toolExecutionFailed failed => exact congrArg some (beq_iff_eq.mp ends)
  | _ => cases ends

theorem ToolEvent.about_of_dispatches (dispatches : event.dispatches callId) :
    event.callId? = some callId := by
  cases event with
  | toolExecutionDispatched dispatched => exact congrArg some (beq_iff_eq.mp dispatches)
  | _ => cases dispatches

/-- A record that an event leaves still accounts for the events. -/
theorem ToolAccounted.moved (accounted : ToolAccounted callId events before)
    (moves : ToolMoves callId event before after) : ToolAccounted callId (events ++ [event]) after := by
  have silent : event.callId? ≠ some callId →
      event.dispatches callId = false ∧ event.terminates callId = false := fun apart =>
    ⟨Bool.eq_false_of_not_eq_true fun dispatches => apart (ToolEvent.about_of_dispatches dispatches),
      Bool.eq_false_of_not_eq_true fun ends => apart (ToolEvent.about_of_terminates ends)⟩
  -- Nothing about a call is accepted behind its terminal event, as its record has ended then.
  have settled : event.callId? = some callId → events.all (!·.terminates callId) := by
    intro about
    rw [List.all_eq_not_any_not]
    simp only [Bool.not_not]
    rw [Bool.not_eq_true', Bool.eq_false_iff, ne_eq, ← accounted.ended]
    rintro ⟨current, rfl, ended⟩
    cases moves with
    | aside apart => exact apart about
    | started _ _ waiting => rw [ended] at waiting; cases waiting
    | observed _ _ running => exact running ended
    | ended _ _ running => exact running ended
  have follows := eachFollows_snoc.mpr ⟨accounted.settled, settled⟩
  have count : (events ++ [event]).countP (·.dispatches callId) =
      events.countP (·.dispatches callId) + if event.dispatches callId then 1 else 0 := by
    rw [List.countP_append, List.countP_singleton]
  have any : (events ++ [event]).any (·.terminates callId) =
      (events.any (·.terminates callId) || event.terminates callId) := by
    rw [List.any_append, List.any_cons, List.any_nil, Bool.or_false]
  have counted := accounted.dispatched
  have terminal := accounted.ended
  cases moves with
  | aside apart =>
    obtain ⟨quiet, open_⟩ := silent apart
    exact ⟨by simp [count, quiet, counted], fun absent => by simp [count, quiet, accounted.unknown absent],
      by rw [any, open_, Bool.or_false, terminal], follows⟩
  | dispatched dispatches open_ waiting =>
    refine ⟨by simp [count, dispatches, accounted.unknown rfl], fun absent => (Option.some_ne_none _ absent).elim,
      ?_, follows⟩
    rw [any, open_, Bool.or_false, ← terminal]
    simp [waiting]
  | unknown quiet open_ =>
    exact ⟨by simp [count, quiet, counted], fun absent => by simp [count, quiet, accounted.unknown absent],
      by rw [any, open_, Bool.or_false, terminal], follows⟩
  | started quiet open_ waiting =>
    refine ⟨by simp [count, quiet, counted], fun absent => (Option.some_ne_none _ absent).elim, ?_, follows⟩
    rw [any, open_, Bool.or_false, ← terminal]
    simp [waiting]
  | observed quiet open_ running =>
    refine ⟨by simp [count, quiet, counted], fun absent => (Option.some_ne_none _ absent).elim, ?_, follows⟩
    rw [any, open_, Bool.or_false, ← terminal]
    simp [running]
  | unannounced quiet ends ended =>
    exact ⟨by simp [count, quiet, counted], fun absent => (Option.some_ne_none _ absent).elim,
      by simp [any, ends, ended], follows⟩
  | ended quiet ends _ ended =>
    exact ⟨by simp [count, quiet, counted], fun absent => (Option.some_ne_none _ absent).elim,
      by simp [any, ends, ended], follows⟩

theorem ToolExecutionRecord.Continues.trans {first second third : ToolExecutionRecord}
    (earlier : first.Continues second) (later : second.Continues third) : first.Continues third where
  forward := earlier.forward.trans later.forward
  digest actionDigest recorded := later.digest actionDigest (earlier.digest actionDigest recorded)
  ended terminal := by
    have same := earlier.ended terminal
    subst same
    exact later.ended terminal

theorem ToolMoves.continues {record : ToolExecutionRecord} (moves : ToolMoves callId event (some record) after) :
    ∃ current, after = some current ∧ record.Continues current := by
  cases moves with
  | aside => exact ⟨record, rfl, le_rfl, fun _ recorded => recorded, fun _ => rfl⟩
  | started _ _ waiting =>
    exact ⟨_, rfl, waiting ▸ Nat.zero_le 1, fun _ recorded => recorded,
      fun ended => absurd (waiting.symm.trans ended) nofun⟩
  | observed _ _ running => exact ⟨_, rfl, le_rfl, fun _ recorded => recorded, fun ended => absurd ended running⟩
  | ended _ _ running ended kept =>
    refine ⟨_, rfl, ?_, kept, fun terminal => absurd terminal running⟩
    rw [ended]
    cases record.state <;> decide

theorem ToolMoves.started_of {record : ToolExecutionRecord} (moves : ToolMoves callId event before (some record))
    (now : record.state = .started) (newly : before.map (·.state) ≠ some .started) :
    before.map (·.state) = some .dispatched := by
  cases moves with
  | aside => exact absurd (congrArg some now) newly
  | dispatched _ _ waiting => exact absurd (waiting.symm.trans now) nofun
  | started _ _ waiting => exact congrArg some waiting
  | observed => exact absurd (congrArg some now) newly
  | unannounced _ _ ended => exact absurd (ended.symm.trans now) nofun
  | ended _ _ _ ended => exact absurd (ended.symm.trans now) nofun

end Steps

section Replayed

variable [EventChecksum (SessionPayload ToolEvent)]
variable {state next : Session ToolExecutions} {event : ToolSessionEvent} {events : List ToolSessionEvent}
variable {callId : String}

omit [EventChecksum (SessionPayload ToolEvent)] in
theorem toolEvents_snoc : toolEvents (events ++ [event]) = toolEvents events ++ (toolEvent? event).toList := by
  rw [toolEvents, List.filterMap_append]
  cases found : toolEvent? event <;> simp [toolEvents, found]

theorem SessionStep.tools (step : SessionStep state event next) :
    (toolEvent? event = none ∧ next.part = state.part) ∨ ∃ tool, toolEvent? event = some tool ∧
      ∀ callId, ToolMoves callId tool state.part.records[callId]? next.part.records[callId]? := by
  rcases step.part with ⟨same, outside⟩ | ⟨tool, carried, applied⟩
  · refine .inl ⟨?_, same⟩
    rw [toolEvent?]
    split
    · next inside => exact absurd inside (outside _)
    · rfl
  · exact .inr ⟨tool, by rw [toolEvent?, carried], fun _ => ToolExecutions.moves_of_applyEvent applied⟩

theorem toolAccounted_of_replay (replayed : replay events = .ok state) (callId : String) :
    ToolAccounted callId (toolEvents events) state.part.records[callId]? := by
  refine replay_invariant (motive := fun events state =>
    ToolAccounted callId (toolEvents events) state.part.records[callId]?) replayed ?_ ?_
  · intro first start created
    obtain ⟨created_, carries⟩ := exists_of_reduce_none created
    have none_ : toolEvents [first] = [] := by simp [toolEvents, toolEvent?, carries]
    rw [part_of_reduce_none created, none_]
    exact ⟨Nat.zero_le 1, fun _ => rfl, by simp [SessionPart.initial], .nil⟩
  · intro earlier state event next accounted step
    rw [toolEvents_snoc]
    rcases step.tools with ⟨silent, same⟩ | ⟨tool, carried, moves⟩
    · rw [silent, same, Option.toList_none, List.append_nil]
      exact accounted
    · rw [carried]
      exact accounted.moved (moves callId)

theorem records_kept {earlier later : List ToolSessionEvent} {before : Session ToolExecutions}
    {record : ToolExecutionRecord} (replayed : replay (earlier ++ later) = .ok state)
    (begun : replay earlier = .ok before) (recorded : before.part.records[callId]? = some record) :
    ∃ current, state.part.records[callId]? = some current ∧ record.Continues current := by
  -- The induction takes the last event off the later ones.
  induction later using List.reverseRecOn generalizing state with
  | nil =>
    rw [List.append_nil, begun] at replayed
    cases replayed
    exact ⟨record, recorded, le_rfl, fun _ same => same, fun _ => rfl⟩
  | append_singleton later event ih =>
    rw [← List.append_assoc, replay_snoc] at replayed
    rcases replayed with ⟨empty, -⟩ | ⟨middle, reached, step⟩
    · rw [(List.append_eq_nil_iff.mp empty).1] at begun
      cases begun
    · obtain ⟨current, found, continues⟩ := ih reached
      rcases step.tools with ⟨-, same⟩ | ⟨tool, -, moves⟩
      · exact ⟨current, by rw [same, found], continues⟩
      · have moved := moves callId
        rw [found] at moved
        obtain ⟨last, finds, goes⟩ := moved.continues
        exact ⟨last, finds, continues.trans goes⟩

theorem started_of_becomesStarted {earlier : List ToolSessionEvent} {before : Session ToolExecutions}
    (becomes : BecomesStarted callId earlier event) (begun : replay earlier = .ok before) :
    before.toolState? callId = some .dispatched := by
  obtain ⟨_, after, begun', reached, newly, now⟩ := becomes
  cases begun.symm.trans begun'
  rcases replay_snoc.mp reached with ⟨rfl, -⟩ | ⟨middle, before', step⟩
  · cases begun
  · cases begun.symm.trans before'
    obtain ⟨record, found, started⟩ := Option.map_eq_some_iff.mp now
    rcases step.tools with ⟨-, same⟩ | ⟨tool, -, moves⟩
    · rw [Session.toolState?, same] at now
      exact absurd now newly
    · have moved := moves callId
      rw [found] at moved
      exact moved.started_of started newly

/-- For every replayed session, the outbox of each tool call is kept: it is dispatched, started and ended
at most once. -/
theorem tool_outbox (replayed : replay events = .ok state) (callId : String) :
    ToolOutbox callId events state := by
  have accounted := toolAccounted_of_replay replayed callId
  refine ⟨accounted.dispatched, fun earlier event later before split becomes begun =>
    started_of_becomesStarted becomes begun, ?_, accounted.settled, ?_⟩
  · intro first event between second later split starts again
    -- Behind its start, the record stands at started or ended, so it is not dispatched any more.
    obtain ⟨-, after, -, reached, -, now⟩ := starts
    obtain ⟨record, found, started⟩ := Option.map_eq_some_iff.mp now
    obtain ⟨middle, -, begun, -⟩ := id again
    have waiting := started_of_becomesStarted again begun
    have middles : replay (first ++ [event] ++ between) = .ok middle := by
      rwa [List.append_assoc, List.singleton_append]
    obtain ⟨current, finds, continues⟩ := records_kept middles reached found
    obtain ⟨other, same, dispatched⟩ := Option.map_eq_some_iff.mp waiting
    cases finds.symm.trans same
    have forward := continues.forward
    rw [started, dispatched] at forward
    exact absurd forward (by decide)
  · intro earlier later before record split begun recorded
    subst split
    exact records_kept replayed begun recorded

end Replayed

section Sample

attribute [local instance] plainChecksum

/-- A tool event of the sample session. -/
def toolEvent (sequence : Sequence) (event : ToolEvent) : ToolSessionEvent :=
  sessionEvent sequence event.eventType (.part event) []

/-- A tool that is dispatched, started and completed, next to a call that was denied. -/
def executedTool : List ToolSessionEvent :=
  [sessionCreation,
    toolEvent 2 (.toolExecutionDispatched ⟨"execution", "call", zeroHash⟩),
    toolEvent 3 (.toolExecutionFailed ⟨"denied", some zeroHash, "denied", "", false⟩),
    toolEvent 4 (.toolExecutionStarted "call"),
    toolEvent 5 (.toolOutputObserved "call"),
    toolEvent 6 (.toolExecutionCompleted ⟨"call", .null, none, false⟩)]

/-- The outbox of the sample's call. -/
theorem tool_outbox_executedTool : ∃ state : Session ToolExecutions, replay executedTool = .ok state ∧
    state.toolState? "call" = some .terminal ∧ ToolOutbox "call" executedTool state := by
  have accepted : returns (replay executedTool) (fun state : Session ToolExecutions =>
      state.toolState? "call" = some .terminal) := by decide
  obtain ⟨state, replayed, ended⟩ := returns_eq_true.mp accepted
  exact ⟨state, replayed, of_decide_eq_true ended, tool_outbox replayed "call"⟩

end Sample

end AgentMod
