import AgentMod.Library.Run
import AgentMod.Session.Reducer

/-! The tool executions of a session: what is dispatched, observed and ended. -/

namespace AgentMod

/-- Durable tool-dispatch reconciliation state. -/
inductive ToolExecutionState where
  | dispatched
  | started
  | terminal
  deriving DecidableEq

/-- Canonical terminal tool outcome retained for projection repair. -/
inductive ToolExecutionTerminalOutcome where
  | completed (result : Json) (artifact : Option String) (truncated : Bool)
  | failed (code message : String) (retryable : Bool)

/-- Reducer-owned tool execution outbox record. -/
structure ToolExecutionRecord where
  executionId : Option String
  callId : String
  actionDigest : Option ContentHash
  state : ToolExecutionState
  dispatchedAt : Option Sequence
  terminalAt : Option Sequence
  observedEventCount : Nat
  terminalOutcome : Option ToolExecutionTerminalOutcome

/-- Durable dispatch outbox record committed before calling a tool host. -/
structure ToolExecutionDispatchedEvent where
  executionId : String
  callId : String
  actionDigest : ContentHash

/-- Isolated tool execution completed. -/
structure ToolExecutionCompletedEvent where
  callId : String
  result : Json
  artifact : Option String
  truncated : Bool

/-- Isolated tool execution failed or was cancelled. -/
structure ToolExecutionFailedEvent where
  callId : String
  actionDigest : Option ContentHash
  code : String
  message : String
  retryable : Bool

/-- The events about tool executions. -/
inductive ToolEvent where
  | toolExecutionDispatched (dispatched : ToolExecutionDispatchedEvent)
  | toolExecutionStarted (callId : String)
  | toolOutputObserved (callId : String)
  | toolExecutionCompleted (completed : ToolExecutionCompletedEvent)
  | toolExecutionFailed (failed : ToolExecutionFailedEvent)
  | other (eventType : String)

namespace ToolEvent

/-- The stable name of an event. -/
def eventType : ToolEvent → String
  | toolExecutionDispatched _ => "tool.execution_dispatched"
  | toolExecutionStarted _ => "tool.execution_started"
  | toolOutputObserved _ => "tool.output_observed"
  | toolExecutionCompleted _ => "tool.execution_completed"
  | toolExecutionFailed _ => "tool.execution_failed"
  | other eventType => eventType

/-- The tool call that an event is about. -/
def callId? : ToolEvent → Option String
  | toolExecutionDispatched event => some event.callId
  | toolExecutionStarted callId | toolOutputObserved callId => some callId
  | toolExecutionCompleted event => some event.callId
  | toolExecutionFailed event => some event.callId
  | other _ => none

/-- The event dispatches a tool call. -/
def dispatches (callId : String) : ToolEvent → Bool
  | toolExecutionDispatched event => event.callId == callId
  | _ => false

/-- The event starts a tool call. -/
def starts (callId : String) : ToolEvent → Bool
  | toolExecutionStarted started => started == callId
  | _ => false

/-- The event ends a tool call. -/
def terminates (callId : String) : ToolEvent → Bool
  | toolExecutionCompleted event => event.callId == callId
  | toolExecutionFailed event => event.callId == callId
  | _ => false

end ToolEvent

/-- The tool executions of a session by their call. -/
structure ToolExecutions where
  records : StringMap ToolExecutionRecord

namespace ToolExecutions

variable (tools : ToolExecutions)

/-- Puts back the record of a call. -/
def set (callId : String) (record : ToolExecutionRecord) : ToolExecutions :=
  ⟨tools.records.insert callId record⟩

/-- `checked_add` on the number of observed events. -/
def countEvent (count : Nat) : Reducing Nat :=
  if count < 2 ^ 64 - 1 then .ok (count + 1) else .error .toolEventCountOverflow

/-- `apply_tool_dispatch`. -/
def toolDispatch (dispatched : ToolExecutionDispatchedEvent) (sequence : Sequence) :
    Reducing ToolExecutions := do
  refuseIf (tools.records.contains dispatched.callId) .duplicateToolExecution
  return tools.set dispatched.callId {
    executionId := some dispatched.executionId
    callId := dispatched.callId
    actionDigest := some dispatched.actionDigest
    state := .dispatched
    dispatchedAt := some sequence
    terminalAt := none
    observedEventCount := 0
    terminalOutcome := none }

/-- The digest that a terminal event leaves: its own one, which must not differ from the recorded one. -/
def terminalDigest (existing actionDigest : Option ContentHash) : Reducing (Option ContentHash) :=
  match actionDigest with
  | none => .ok existing
  | some actionDigest => do
    refuseIf (existing.any (· ≠ actionDigest)) .invalidToolExecutionTransition
    return some actionDigest

/-- `mark_tool_terminal`. -/
def markTerminal (callId : String) (sequence : Sequence) (actionDigest : Option ContentHash)
    (outcome : ToolExecutionTerminalOutcome) : Reducing ToolExecutions :=
  match tools.records[callId]? with
  | some record => do
    refuseIf (record.state = .terminal) .invalidToolExecutionTransition
    let actionDigest ← terminalDigest record.actionDigest actionDigest
    let observedEventCount ← countEvent record.observedEventCount
    return tools.set callId { record with
      actionDigest
      state := .terminal
      terminalAt := some sequence
      terminalOutcome := some outcome
      observedEventCount }
  | none => .ok <| tools.set callId {
      executionId := none
      callId
      actionDigest
      state := .terminal
      dispatchedAt := none
      terminalAt := some sequence
      observedEventCount := 1
      terminalOutcome := some outcome }

/-- What the start of a tool call does, where it is known. -/
def toolStarted (callId : String) : Reducing ToolExecutions :=
  match tools.records[callId]? with
  | some record => do
    refuseIf (record.state ≠ .dispatched) .invalidToolExecutionTransition
    let observedEventCount ← countEvent record.observedEventCount
    return tools.set callId { record with state := .started, observedEventCount }
  | none => .ok tools

/-- `increment_tool_event_count`. -/
def incrementEventCount (callId : String) : Reducing ToolExecutions :=
  match tools.records[callId]? with
  | some record => do
    refuseIf (record.state = .terminal) .invalidToolExecutionTransition
    let observedEventCount ← countEvent record.observedEventCount
    return tools.set callId { record with observedEventCount }
  | none => .ok tools

/-- What an event does to the tool executions. -/
def applyEvent (sequence : Sequence) : ToolEvent → Reducing ToolExecutions
  | .toolExecutionDispatched dispatched => tools.toolDispatch dispatched sequence
  | .toolExecutionStarted callId => tools.toolStarted callId
  | .toolOutputObserved callId => tools.incrementEventCount callId
  | .toolExecutionCompleted completed =>
    tools.markTerminal completed.callId sequence none
      (.completed completed.result completed.artifact completed.truncated)
  | .toolExecutionFailed failed =>
    tools.markTerminal failed.callId sequence failed.actionDigest
      (.failed failed.code failed.message failed.retryable)
  | .other _ => .ok tools

/-- Tool executions as the part of a session that tool events change. -/
instance : SessionPart ToolExecutions ToolEvent where
  eventType := ToolEvent.eventType
  initial := ⟨∅⟩
  apply state metadata _ event := state.part.applyEvent metadata.sequence event

end ToolExecutions

/-- An event of a session with tool executions. -/
abbrev ToolSessionEvent := EventEnvelope (SessionPayload ToolEvent)

/-- The tool event that an event of a session carries. -/
def toolEvent? (event : ToolSessionEvent) : Option ToolEvent :=
  match event.payload with
  | .part event => some event
  | _ => none

/-- The tool events of a session, in their order. -/
def toolEvents (events : List ToolSessionEvent) : List ToolEvent :=
  events.filterMap toolEvent?

/-- How far a tool execution has come. -/
def ToolExecutionState.rank : ToolExecutionState → Nat
  | .dispatched => 0
  | .started => 1
  | .terminal => 2

/-- What stays of a record while the session goes on. -/
structure ToolExecutionRecord.Continues (record current : ToolExecutionRecord) : Prop where
  forward : record.state.rank ≤ current.state.rank
  digest : ∀ actionDigest, record.actionDigest = some actionDigest → current.actionDigest = some actionDigest
  /-- A record that has ended does not change at all. -/
  ended : record.state = .terminal → current = record

/-- The state of the record of a call. -/
def Session.toolState? (state : Session ToolExecutions) (callId : String) : Option ToolExecutionState :=
  state.part.records[callId]?.map (·.state)

section Outbox

variable [EventChecksum (SessionPayload ToolEvent)]

/-- The record of a call becomes started with an event behind earlier ones. -/
def BecomesStarted (callId : String) (earlier : List ToolSessionEvent) (event : ToolSessionEvent) : Prop :=
  ∃ before after : Session ToolExecutions, replay earlier = .ok before ∧
    replay (earlier ++ [event]) = .ok after ∧
    before.toolState? callId ≠ some .started ∧ after.toolState? callId = some .started

/-- The outbox of a tool call over the events of a session. -/
structure ToolOutbox (callId : String) (events : List ToolSessionEvent) (state : Session ToolExecutions) :
    Prop where
  /-- The call is dispatched at most once. -/
  dispatched : (toolEvents events).countP (·.dispatches callId) ≤ 1
  /-- Its record becomes started from dispatched only. -/
  started : ∀ earlier event later (before : Session ToolExecutions), events = earlier ++ event :: later →
    BecomesStarted callId earlier event → replay earlier = .ok before →
      before.toolState? callId = some .dispatched
  /-- Its record becomes started at most once. -/
  once : ∀ first event between second later, events = first ++ event :: between ++ second :: later →
    BecomesStarted callId first event → ¬ BecomesStarted callId (first ++ event :: between) second
  /-- It has at most one terminal outcome, and nothing about it is accepted behind that. -/
  settled : EachFollows (fun earlier event =>
    event.callId? = some callId → earlier.all (!·.terminates callId)) (toolEvents events)
  /-- Its record only goes forward, keeps its action digest and does not change once it has ended. -/
  kept : ∀ earlier later (before : Session ToolExecutions) record, events = earlier ++ later →
    replay earlier = .ok before → before.part.records[callId]? = some record →
      ∃ current, state.part.records[callId]? = some current ∧ record.Continues current

end Outbox

end AgentMod
