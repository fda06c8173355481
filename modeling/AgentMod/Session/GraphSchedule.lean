import AgentMod.Library.Run
import AgentMod.Pipeline.Execution
import AgentMod.PluginSchema.Tree
import AgentMod.Session.Style

/-! Graph schedules: how they are resolved, approved, dispatched, stored, triggered, cancelled and waited for. -/

namespace AgentMod

/-- Immutable trigger retained in canonical graph-schedule events. -/
inductive CanonicalGraphScheduleTrigger where
  | atMillis (timestampMs : Int)
  | interval (startsAtMs : Int) (everyMs : Nat)
  | runtimeEvent (eventType : String)
  | processOutput (processId contains : String)
  deriving DecidableEq

/-- Immutable cancellation behavior selected by the compiled graph node. -/
inductive GraphScheduleCancellationPolicy where
  | cancelContinuation
  | suppressEffects
  | cancelTrigger
  | cancelWaitOnly
  deriving DecidableEq

/-- Failure to resolve a schedule. -/
inductive GraphScheduleError where
  | invalidExecutor
  | invalidConfiguration
  | recurringWaitUnsupported
  deriving DecidableEq

/-- Immutable identity of one delay or schedule outbox operation. -/
structure GraphScheduleIdentity where
  work : NodeWorkIdentity
  executionPlanHash : ContentHash
  configurationHash : ContentHash
  scheduleId : String
  continuationId : Option ContinuationId
  idempotencyId : String
  deriving DecidableEq

/-- When a schedule triggers, and how it is waited for, approved and cancelled. -/
structure ScheduleTiming where
  trigger : CanonicalGraphScheduleTrigger
  resolvedDurationMs : Option Nat
  expiresAtMs : Option Int
  waitForTrigger : Bool
  consequential : Bool
  cancellation : GraphScheduleCancellationPolicy
  deriving DecidableEq

/-- Fully resolved immutable graph schedule identity and trigger. -/
structure ResolvedGraphSchedule where
  identity : GraphScheduleIdentity
  resolutionTimestampMs : Option Int
  timing : ScheduleTiming

/-- The action that creates a schedule. -/
structure ScheduleCreationProposal where
  id : String
  schedule : String
  style : String
  workspace : String
  origin : String

/-- What schedules are parsed, identified and authorized by. -/
class ScheduleText where
  /-- `OffsetDateTime::parse` with RFC 3339, as the nanoseconds since the epoch. -/
  parseRfc3339 : String → Option Int
  /-- `serde_json::to_vec` of what a schedule is identified by, the resolution left out of legacy identities. -/
  identityToVec : SessionId → NodeWorkIdentity → ContentHash → ContentHash → CanonicalGraphScheduleTrigger →
    Option (Int × Option Nat) → GraphScheduleCancellationPolicy → Option (List UInt8)
  /-- `serde_json::to_string` of a trigger. -/
  triggerToString : CanonicalGraphScheduleTrigger → Option String
  /-- `ContinuationId::from_uuid` of `Uuid::from_bytes`. -/
  continuationId : List UInt8 → ContinuationId
  proposalDigest : ScheduleCreationProposal → Option ContentHash

/-- The milliseconds until an instant, where it is not over. -/
def durationUntil (timestampMs now : Int) : Option Nat :=
  (checkedI64 (timestampMs - now)).bind fun duration => if 0 ≤ duration then some duration.toNat else none

section Resolution

variable [ScheduleText]

/-- `parse_timestamp`. -/
def parseTimestamp (value : String) : Except GraphScheduleError Int := do
  let nanos ← okOr (ScheduleText.parseRfc3339 value) .invalidConfiguration
  okOr (checkedI64 (nanos.tdiv 1000000)) .invalidConfiguration

/-- The instant of a text that may be missing. -/
def parseOptionalTimestamp : Option String → Except GraphScheduleError (Option Int)
  | none => return none
  | some value => some <$> parseTimestamp value

/-- The trigger of a delay, and how long it takes. -/
def delayTrigger (now : Int) :
    DelayResolution → Except GraphScheduleError (CanonicalGraphScheduleTrigger × Option Nat)
  | .duration durationMs => do
    let duration ← okOr (checkedI64 durationMs) .invalidConfiguration
    let timestampMs ← okOr (checkedI64 (now + duration)) .invalidConfiguration
    return (.atMillis timestampMs, some durationMs)
  | .wakeTimestamp timestamp => do
    let timestampMs ← parseTimestamp timestamp
    return (.atMillis timestampMs, durationUntil timestampMs now)

/-- The trigger of a schedule, and how long it takes. -/
def scheduleTrigger (now : Int) (waitForTrigger : Bool) :
    ScheduleTrigger → Except GraphScheduleError (CanonicalGraphScheduleTrigger × Option Nat)
  | .at timestamp => do
    let timestampMs ← parseTimestamp timestamp
    return (.atMillis timestampMs, durationUntil timestampMs now)
  | .interval intervalMs startTimestamp => do
    refuseIf (waitForTrigger = true) .recurringWaitUnsupported
    let start ← parseOptionalTimestamp startTimestamp
    return (.interval (start.getD now) intervalMs, some intervalMs)
  | .runtimeEvent eventType => return (.runtimeEvent eventType, none)
  | .processOutput processReference pattern => return (.processOutput processReference pattern, none)

/-- The cancellation policy of a delay. -/
def DelayCancellation.policy : DelayCancellation → GraphScheduleCancellationPolicy
  | cancelContinuation => .cancelContinuation
  | suppressEffects => .suppressEffects

/-- The cancellation policy of a schedule. -/
def ScheduleCancellation.policy : ScheduleCancellation → GraphScheduleCancellationPolicy
  | cancelTrigger => .cancelTrigger
  | cancelWaitOnly => .cancelWaitOnly

/-- The timing that a node is configured with, for its executor. -/
def resolveTiming (executor : SessionNodeExecutorResolution) (configuration : Option NodeConfiguration)
    (now : Int) : Except GraphScheduleError ScheduleTiming :=
  match configuration with
  | some (.delay resolution expirationTimestamp cancellation) => do
    refuseIf (executor.nativeExecutorKey ≠ some .delay) .invalidConfiguration
    let (trigger, resolvedDurationMs) ← delayTrigger now resolution
    let expiresAtMs ← parseOptionalTimestamp expirationTimestamp
    return ⟨trigger, resolvedDurationMs, expiresAtMs, true, false, cancellation.policy⟩
  | some (.schedule trigger waitForTrigger cancellation) => do
    refuseIf (executor.nativeExecutorKey ≠ some .schedule) .invalidConfiguration
    let (trigger, resolvedDurationMs) ← scheduleTrigger now waitForTrigger trigger
    return ⟨trigger, resolvedDurationMs, none, waitForTrigger, true, cancellation.policy⟩
  | _ => .error .invalidConfiguration

/-- The trigger of a timing comes behind its expiration. -/
def ScheduleTiming.expiresBefore (timing : ScheduleTiming) : Bool :=
  match timing.trigger, timing.expiresAtMs with
  | .atMillis timestampMs, some expiresAtMs => decide (timestampMs > expiresAtMs)
  | _, _ => false

variable [Hashing]

/-- `resolve_graph_schedule_with_identity_version`. -/
def resolveGraphSchedule (sessionId : SessionId) (work : NodeWorkIdentity)
    (executor : SessionNodeExecutorResolution) (executionPlanHash : ContentHash)
    (configuration : Option NodeConfiguration) (now : Int) (bindRuntimeResolution : Bool) :
    Except GraphScheduleError ResolvedGraphSchedule := do
  refuseIf (executor.nodeId ≠ work.nodeId ∨ executor.source ≠ .runtime ∨
    (executor.nativeExecutorKey ≠ some .delay ∧ executor.nativeExecutorKey ≠ some .schedule)) .invalidExecutor
  let timing ← resolveTiming executor configuration now
  refuseIf (timing.expiresBefore = true) .invalidConfiguration
  let material ← okOr (ScheduleText.identityToVec sessionId work executionPlanHash
    executor.adapterConfigurationReference timing.trigger
    (if bindRuntimeResolution then some (now, timing.resolvedDurationMs) else none) timing.cancellation)
    .invalidConfiguration
  let digest := Hashing.digest material
  let continuationDigest := Hashing.digest (material ++ utf8Bytes ":continuation".toList)
  return {
    identity := {
      work
      executionPlanHash
      configurationHash := executor.adapterConfigurationReference
      scheduleId := "graph-schedule:" ++ digest.toHex
      continuationId := if timing.waitForTrigger then
          some (ScheduleText.continuationId (continuationDigest.bytes.toList.take 16))
        else none
      idempotencyId := digest.toHex }
    resolutionTimestampMs := some now
    timing }

end Resolution

/-- Canonical resolution of one graph-owned delay or schedule. -/
structure GraphScheduleResolvedEvent where
  identity : GraphScheduleIdentity
  resolutionTimestampMs : Option Int
  timing : ScheduleTiming

/-- Final intercepted schedule action approved before durable dispatch. -/
structure GraphScheduleApprovedEvent where
  identity : GraphScheduleIdentity
  actionDigest : ContentHash

/-- Durable outbox intent committed before scheduler storage. -/
structure GraphScheduleDispatchedEvent where
  identity : GraphScheduleIdentity
  actionDigest : Option ContentHash

/-- Terminal scheduler storage receipt for one exact graph schedule request. -/
structure GraphScheduleStoredEvent where
  identity : GraphScheduleIdentity
  actionDigest : Option ContentHash
  replayed : Bool

/-- What a scheduler observed as the trigger of a schedule. -/
inductive SchedulerTriggerObservation where
  | runtimeEvent (eventId : String)
  | processOutput (outputId : String)
  deriving DecidableEq

/-- Canonical delivery receipt for one nonwaiting graph-schedule occurrence. -/
structure GraphScheduleTriggeredEvent where
  sessionId : SessionId
  identity : GraphScheduleIdentity
  executionId : String
  scheduledForMs : Int
  claimedAtMs : Int
  observation : Option SchedulerTriggerObservation

/-- Canonical intent to apply the compiled cancellation behavior for a graph wait. -/
structure GraphScheduleCancellationRequestedEvent where
  identity : GraphScheduleIdentity
  cancellation : GraphScheduleCancellationPolicy
  reason : String

/-- Canonical terminal receipt for cancellation-side scheduler handling. -/
structure GraphScheduleCancellationCompletedEvent where
  identity : GraphScheduleIdentity
  cancellation : GraphScheduleCancellationPolicy
  triggerExisted : Option Bool

/-- Canonical resume-once disposition of a waiting graph node. -/
inductive GraphNodeWaitDisposition where
  | resumed
  | cancelled
  | expired
  deriving DecidableEq

/-- Records the terminal wait state observed before node completion or failure. -/
structure GraphNodeWaitResolvedEvent where
  identity : GraphScheduleIdentity
  disposition : GraphNodeWaitDisposition

/-- Replay-owned graph schedule outbox phase. -/
inductive GraphScheduleState where
  | resolved
  | approved
  | dispatched
  | stored
  | resumed
  | cancelled
  | expired
  deriving DecidableEq

/-- Replay-owned receipt for one nonwaiting graph-schedule occurrence. -/
structure GraphScheduleTriggerReceipt where
  executionId : String
  scheduledForMs : Int
  claimedAtMs : Int
  observation : Option SchedulerTriggerObservation
  triggeredAt : Sequence

/-- Canonical graph schedule record reconstructed without querying the scheduler. -/
structure GraphScheduleRecord where
  identity : GraphScheduleIdentity
  resolutionTimestampMs : Option Int
  timing : ScheduleTiming
  state : GraphScheduleState
  actionDigest : Option ContentHash
  resolvedAt : Sequence
  approvedAt : Option Sequence
  dispatchedAt : Option Sequence
  storedAt : Option Sequence
  replayed : Bool
  waitResolvedAt : Option Sequence
  triggerReceipts : List GraphScheduleTriggerReceipt
  cancellationRequestedAt : Option Sequence
  cancellationCompletedAt : Option Sequence
  cancellationTriggerExisted : Option Bool

/-- The events of graph schedules, and those of other families. -/
inductive ScheduleEvent where
  | style (event : StyleEvent)
  | graphScheduleResolved (resolved : GraphScheduleResolvedEvent) (timestamp : Int)
  | graphScheduleApproved (approved : GraphScheduleApprovedEvent)
  | graphScheduleDispatched (dispatched : GraphScheduleDispatchedEvent)
  | graphScheduleStored (stored : GraphScheduleStoredEvent)
  | graphScheduleTriggered (triggered : GraphScheduleTriggeredEvent)
  | graphScheduleCancellationRequested (requested : GraphScheduleCancellationRequestedEvent)
  | graphScheduleCancellationCompleted (completed : GraphScheduleCancellationCompletedEvent)
  | graphNodeWaitResolved (resolved : GraphNodeWaitResolvedEvent)
  | other (eventType : String)

namespace ScheduleEvent

/-- The stable name of an event. -/
def eventType : ScheduleEvent → String
  | style event => event.eventType
  | graphScheduleResolved .. => "graph.schedule_resolved"
  | graphScheduleApproved _ => "graph.schedule_approved"
  | graphScheduleDispatched _ => "graph.schedule_dispatched"
  | graphScheduleStored _ => "graph.schedule_stored"
  | graphScheduleTriggered _ => "graph.schedule_triggered"
  | graphScheduleCancellationRequested _ => "graph.schedule_cancellation_requested"
  | graphScheduleCancellationCompleted _ => "graph.schedule_cancellation_completed"
  | graphNodeWaitResolved _ => "graph.node_wait_resolved"
  | other eventType => eventType

/-- The identity of the schedule that an event is about. -/
def identity? : ScheduleEvent → Option GraphScheduleIdentity
  | style _ | other _ => none
  | graphScheduleResolved resolved _ => some resolved.identity
  | graphScheduleApproved approved => some approved.identity
  | graphScheduleDispatched dispatched => some dispatched.identity
  | graphScheduleStored stored => some stored.identity
  | graphScheduleTriggered triggered => some triggered.identity
  | graphScheduleCancellationRequested requested => some requested.identity
  | graphScheduleCancellationCompleted completed => some completed.identity
  | graphNodeWaitResolved resolved => some resolved.identity

end ScheduleEvent

/-- The style execution of a session with its graph schedules. -/
structure ScheduledStyle where
  style : SessionStyleExecution
  graphSchedules : StringMap GraphScheduleRecord

/-- `MAX_GRAPH_SCHEDULE_TRIGGER_RECEIPTS`. -/
def maxGraphScheduleTriggerReceipts : Nat := 4096

/-- `valid_trigger_observation_id`. -/
def validTriggerObservationId (value : String) : Bool :=
  !value.isEmpty && decide (value.utf8ByteSize ≤ 256) && value.toList.all fun character =>
    isAsciiAlphanumeric character || ['-', '_', '.', ':'].contains character

/-- `u8::is_ascii_hexdigit`, on characters. -/
def isAsciiHexdigit (character : Char) : Bool :=
  isAsciiDigit character || (65 ≤ character.toNat && character.toNat ≤ 70) ||
    (97 ≤ character.toNat && character.toNat ≤ 102)

/-- What is observed of a trigger is of its kind. -/
def CanonicalGraphScheduleTrigger.observes (trigger : CanonicalGraphScheduleTrigger)
    (observation : Option SchedulerTriggerObservation) : Bool :=
  match trigger, observation with
  | .atMillis _, none | .interval .., none => true
  | .runtimeEvent _, some (.runtimeEvent eventId) => validTriggerObservationId eventId
  | .processOutput .., some (.processOutput outputId) => validTriggerObservationId outputId
  | _, _ => false

/-- The state of a schedule whose wait is resolved. -/
def GraphNodeWaitDisposition.state : GraphNodeWaitDisposition → GraphScheduleState
  | resumed => .resumed
  | cancelled => .cancelled
  | expired => .expired

namespace GraphScheduleRecord

/-- The record of a resolved schedule. -/
def ofResolved (event : GraphScheduleResolvedEvent) (sequence : Sequence) : GraphScheduleRecord where
  identity := event.identity
  resolutionTimestampMs := event.resolutionTimestampMs
  timing := event.timing
  state := .resolved
  actionDigest := none
  resolvedAt := sequence
  approvedAt := none
  dispatchedAt := none
  storedAt := none
  replayed := false
  waitResolvedAt := none
  triggerReceipts := []
  cancellationRequestedAt := none
  cancellationCompletedAt := none
  cancellationTriggerExisted := none

/-- `apply_graph_schedule_dispatched`, on the record of the schedule. -/
def dispatch (record : GraphScheduleRecord) (event : GraphScheduleDispatchedEvent) (sequence : Sequence) :
    Reducing GraphScheduleRecord := do
  let expectedState := if record.timing.consequential then GraphScheduleState.approved else .resolved
  refuseIf (record.identity ≠ event.identity ∨ record.state ≠ expectedState ∨
    record.actionDigest ≠ event.actionDigest) .invalidGraphSchedule
  return { record with state := .dispatched, dispatchedAt := some sequence }

/-- `apply_graph_schedule_stored`, on the record of the schedule. -/
def store (record : GraphScheduleRecord) (event : GraphScheduleStoredEvent) (sequence : Sequence) :
    Reducing GraphScheduleRecord := do
  refuseIf (record.identity ≠ event.identity ∨ record.state ≠ .dispatched ∨
    record.actionDigest ≠ event.actionDigest) .invalidGraphSchedule
  return { record with state := .stored, storedAt := some sequence, replayed := event.replayed }

/-- `apply_graph_schedule_cancellation_requested`, on the record of the schedule. -/
def requestCancellation (record : GraphScheduleRecord) (event : GraphScheduleCancellationRequestedEvent)
    (sequence : Sequence) : Reducing GraphScheduleRecord := do
  refuseIf (record.identity ≠ event.identity ∨ record.state ≠ .stored ∨ !record.timing.waitForTrigger ∨
    record.timing.cancellation ≠ event.cancellation ∨ isBlank event.reason ∨ event.reason.utf8ByteSize > 1024 ∨
    record.cancellationRequestedAt.isSome ∨ record.cancellationCompletedAt.isSome) .invalidGraphSchedule
  return { record with cancellationRequestedAt := some sequence }

/-- `apply_graph_schedule_cancellation_completed`, on the record of the schedule. -/
def completeCancellation (record : GraphScheduleRecord) (event : GraphScheduleCancellationCompletedEvent)
    (sequence : Sequence) : Reducing GraphScheduleRecord := do
  let expectedRemovalReceipt := decide (record.timing.cancellation = .cancelTrigger)
  refuseIf (record.identity ≠ event.identity ∨ record.state ≠ .stored ∨
    record.timing.cancellation ≠ event.cancellation ∨ record.cancellationRequestedAt.isNone ∨
    record.cancellationCompletedAt.isSome ∨ event.triggerExisted.isSome ≠ expectedRemovalReceipt)
    .invalidGraphSchedule
  return { record with
    cancellationCompletedAt := some sequence
    cancellationTriggerExisted := event.triggerExisted }

/-- `apply_graph_node_wait_resolved`, on the record of the schedule. -/
def resolveWait (record : GraphScheduleRecord) (event : GraphNodeWaitResolvedEvent) (sequence : Sequence) :
    Reducing GraphScheduleRecord := do
  refuseIf (record.identity ≠ event.identity ∨ record.state ≠ .stored ∨ !record.timing.waitForTrigger ∨
    record.identity.continuationId.isNone ∨
    (event.disposition = .cancelled ∧ record.cancellationCompletedAt.isNone)) .invalidGraphSchedule
  return { record with state := event.disposition.state, waitResolvedAt := some sequence }

end GraphScheduleRecord

namespace ScheduledStyle

/-- Changes the record of a schedule. -/
def updateSchedule (part : ScheduledStyle) (identity : GraphScheduleIdentity)
    (update : GraphScheduleRecord → Reducing GraphScheduleRecord) : Reducing ScheduledStyle := do
  refuseIf part.style.styleExecution.isNone .styleExecutionNotInitialized
  let record ← okOr part.graphSchedules[identity.scheduleId]? .invalidGraphSchedule
  let updated ← update record
  return { part with graphSchedules := part.graphSchedules.insert identity.scheduleId updated }

/-- An execution has a trigger receipt of some schedule. -/
def hasExecution (part : ScheduledStyle) (executionId : String) : Bool :=
  part.graphSchedules.values.any fun candidate =>
    candidate.triggerReceipts.any fun receipt => receipt.executionId = executionId

/-- `apply_graph_schedule_triggered`, on the record of the schedule. -/
def trigger (part : ScheduledStyle) (sessionId : SessionId) (event : GraphScheduleTriggeredEvent)
    (sequence : Sequence) (record : GraphScheduleRecord) : Reducing GraphScheduleRecord := do
  let executionIdValid := event.executionId.utf8ByteSize == 64 && event.executionId.toList.all isAsciiHexdigit
  refuseIf (event.sessionId ≠ sessionId ∨ record.identity ≠ event.identity ∨ record.state ≠ .stored ∨
    record.timing.waitForTrigger ∨ record.identity.continuationId.isSome ∨ !executionIdValid ∨
    event.scheduledForMs < 0 ∨ event.claimedAtMs < event.scheduledForMs ∨
    !record.timing.trigger.observes event.observation ∨ part.hasExecution event.executionId ∨
    record.triggerReceipts.length ≥ maxGraphScheduleTriggerReceipts) .invalidGraphSchedule
  return { record with triggerReceipts := record.triggerReceipts ++ [{
    executionId := event.executionId
    scheduledForMs := event.scheduledForMs
    claimedAtMs := event.claimedAtMs
    observation := event.observation
    triggeredAt := sequence }] }

end ScheduledStyle

section Schedules

variable [ScheduleText]

/-- `graph_schedule_action_proposal`, on the record of a schedule. -/
def graphScheduleActionProposal (record : GraphScheduleRecord) (style workspace : String) :
    Except GraphScheduleError ScheduleCreationProposal := do
  refuseIf (!record.timing.consequential ∨ isBlank style ∨ isBlank workspace) .invalidConfiguration
  let schedule ← okOr (ScheduleText.triggerToString record.timing.trigger) .invalidConfiguration
  return ⟨"graph-schedule:" ++ record.identity.idempotencyId, schedule, style, workspace, "runtime.node-executor"⟩

/-- `apply_graph_schedule_approved`, on the record of the schedule. -/
def GraphScheduleRecord.approve (record : GraphScheduleRecord) (style workspace : String)
    (event : GraphScheduleApprovedEvent) (sequence : Sequence) : Reducing GraphScheduleRecord := do
  let proposal ← (graphScheduleActionProposal record style workspace).mapError fun _ => .invalidGraphSchedule
  let digest ← okOr (ScheduleText.proposalDigest proposal) .invalidGraphSchedule
  refuseIf (record.identity ≠ event.identity ∨ record.state ≠ .resolved ∨ !record.timing.consequential ∨
    digest ≠ event.actionDigest) .invalidGraphSchedule
  return { record with
    state := .approved
    actionDigest := some event.actionDigest
    approvedAt := some sequence }

variable [Hashing]

/-- A resolution states what is resolved from the configuration of its node. -/
def GraphScheduleResolvedEvent.matches (event : GraphScheduleResolvedEvent) (expected : ResolvedGraphSchedule) :
    Bool :=
  let legacyResolution := event.resolutionTimestampMs.isNone
  decide (event.identity = expected.identity) && decide (event.timing.trigger = expected.timing.trigger) &&
    (if legacyResolution then event.timing.resolvedDurationMs.isNone
      else decide (event.resolutionTimestampMs = expected.resolutionTimestampMs) &&
        decide (event.timing.resolvedDurationMs = expected.timing.resolvedDurationMs)) &&
    decide (event.timing.expiresAtMs = expected.timing.expiresAtMs) &&
    event.timing.waitForTrigger == expected.timing.waitForTrigger &&
    event.timing.consequential == expected.timing.consequential &&
    decide (event.timing.cancellation = expected.timing.cancellation)

/-- `apply_graph_schedule_resolved`. -/
def applyGraphScheduleResolved (part : ScheduledStyle) (sessionId : SessionId) (event : GraphScheduleResolvedEvent)
    (sequence : Sequence) (timestamp : Int) : Reducing ScheduledStyle := do
  let invalid := SessionReducerError.invalidGraphSchedule
  let execution ← okOr part.style.styleExecution .styleExecutionNotInitialized
  let contract ← okOr execution.executionContract invalid
  let node ← okOr (execution.graph.node? event.identity.work.nodeId) invalid
  let resolution ← okOr (contract.nodeExecutors.find? (·.nodeId == event.identity.work.nodeId)) invalid
  let expected ← (resolveGraphSchedule sessionId event.identity.work resolution contract.executionPlanHash
    node.configuration timestamp event.resolutionTimestampMs.isSome).mapError fun _ => invalid
  refuseIf (!event.matches expected ∨ !execution.nodeWorkIsActive event.identity.work ∨
    part.graphSchedules.contains event.identity.scheduleId) invalid
  return { part with
    graphSchedules := part.graphSchedules.insert event.identity.scheduleId (.ofResolved event sequence) }

variable [StyleSerde] [ParallelSerde] [VariableSerde]

/-- What an event does to the graph schedules of a session. -/
def applyScheduleEvent (state : Session ScheduledStyle) (metadata : EventMetadata)
    (eventChecksum : ContentHash) : ScheduleEvent → Reducing ScheduledStyle
  | .style event => do
    let style ← state.part.style.applyEvent state metadata eventChecksum event
    return { state.part with style }
  | .graphScheduleResolved resolved timestamp =>
    applyGraphScheduleResolved state.part state.id resolved metadata.sequence timestamp
  | .graphScheduleApproved approved =>
    state.part.updateSchedule approved.identity (·.approve state.style state.workspace approved metadata.sequence)
  | .graphScheduleDispatched dispatched =>
    state.part.updateSchedule dispatched.identity (·.dispatch dispatched metadata.sequence)
  | .graphScheduleStored stored => state.part.updateSchedule stored.identity (·.store stored metadata.sequence)
  | .graphScheduleTriggered triggered =>
    state.part.updateSchedule triggered.identity (state.part.trigger state.id triggered metadata.sequence)
  | .graphScheduleCancellationRequested requested =>
    state.part.updateSchedule requested.identity (·.requestCancellation requested metadata.sequence)
  | .graphScheduleCancellationCompleted completed =>
    state.part.updateSchedule completed.identity (·.completeCancellation completed metadata.sequence)
  | .graphNodeWaitResolved resolved =>
    state.part.updateSchedule resolved.identity (·.resolveWait resolved metadata.sequence)
  | .other _ => .ok state.part

/-- Graph schedules as the part of a session that schedule events change. -/
instance : SessionPart ScheduledStyle ScheduleEvent where
  eventType := ScheduleEvent.eventType
  initial := ⟨⟨none, []⟩, ∅⟩
  apply := applyScheduleEvent

end Schedules

/-- An event of a session with graph schedules. -/
abbrev ScheduleSessionEvent := EventEnvelope (SessionPayload ScheduleEvent)

/-- The schedule event of a session event, where it is one. -/
def scheduleEvent? (event : ScheduleSessionEvent) : Option ScheduleEvent :=
  match event.payload with
  | .part event => some event
  | _ => none

/-- The schedule events of a session, in their order. -/
def scheduleEvents (events : List ScheduleSessionEvent) : List ScheduleEvent :=
  events.filterMap scheduleEvent?

/-- What a schedule gets to at most once. -/
inductive ScheduleStage where
  | resolved
  | approved
  | dispatched
  | stored
  | ended
  deriving DecidableEq

namespace ScheduleEvent

/-- The event is about a schedule. -/
def isAbout (scheduleId : String) (event : ScheduleEvent) : Bool :=
  event.identity?.any (·.scheduleId == scheduleId)

/-- The stage that an event takes its schedule to. -/
def stage? : ScheduleEvent → Option ScheduleStage
  | graphScheduleResolved .. => some .resolved
  | graphScheduleApproved _ => some .approved
  | graphScheduleDispatched _ => some .dispatched
  | graphScheduleStored _ => some .stored
  | graphNodeWaitResolved _ => some .ended
  | _ => none

/-- The event takes a schedule to a stage. -/
def reaches (scheduleId : String) (stage : ScheduleStage) (event : ScheduleEvent) : Bool :=
  event.isAbout scheduleId && event.stage? == some stage

/-- The event resolves a schedule that is consequential. -/
def resolvesConsequential (scheduleId : String) : ScheduleEvent → Bool
  | graphScheduleResolved resolved _ => resolved.identity.scheduleId == scheduleId && resolved.timing.consequential
  | _ => false

end ScheduleEvent

/-- The outbox of a schedule over the schedule events of a session. -/
structure ScheduleOutbox (scheduleId : String) (events : List ScheduleEvent) : Prop where
  /-- The schedule is resolved, approved, dispatched, stored and waited for at most once. -/
  once : ∀ stage, events.countP (·.reaches scheduleId stage) ≤ 1
  /-- It is approved where it is consequential, and before its dispatch. -/
  approvals : EachFollows (fun earlier event => event.reaches scheduleId .approved →
    earlier.any (·.resolvesConsequential scheduleId) ∧ earlier.all (!·.reaches scheduleId .dispatched)) events
  /-- It is dispatched with the approved digest, or without one where it is not consequential. -/
  digests : EachFollows (fun earlier event => ∀ dispatched, event = .graphScheduleDispatched dispatched →
    dispatched.identity.scheduleId = scheduleId →
      if earlier.any (·.resolvesConsequential scheduleId) then
        ∃ approved, .graphScheduleApproved approved ∈ earlier ∧ approved.identity = dispatched.identity ∧
          dispatched.actionDigest = some approved.actionDigest
      else dispatched.actionDigest = none) events

/-- The graph schedules of a session over its events. -/
structure ScheduleLifecycle (events : List ScheduleSessionEvent) (state : Session ScheduledStyle) : Prop where
  outbox : ∀ scheduleId, ScheduleOutbox scheduleId (scheduleEvents events)
  /-- An execution has one receipt over all schedules. -/
  executions : ∀ (first second : String) (one two : GraphScheduleRecord) (here there : Nat)
      (receipt other : GraphScheduleTriggerReceipt),
    state.part.graphSchedules[first]? = some one → state.part.graphSchedules[second]? = some two →
    one.triggerReceipts[here]? = some receipt → two.triggerReceipts[there]? = some other →
    receipt.executionId = other.executionId → first = second ∧ here = there
  /-- Only stored schedules that are not waited for have receipts. -/
  receipts : ∀ (scheduleId : String) record, state.part.graphSchedules[scheduleId]? = some record →
    record.triggerReceipts ≠ [] → record.state = .stored ∧ record.timing.waitForTrigger = false
  /-- A waiting schedule whose cancellation is completed does not end resumed or expired. -/
  cancelled : ∀ (scheduleId : String) record, state.part.graphSchedules[scheduleId]? = some record →
    record.timing.waitForTrigger → record.cancellationCompletedAt.isSome →
      record.state ≠ .resumed ∧ record.state ≠ .expired

/-- Waits whose cancellation is completed are resolved as cancelled. -/
def CancelledWaits [ScheduleText] [Hashing] [StyleSerde] [ParallelSerde] [VariableSerde]
    [EventChecksum (SessionPayload ScheduleEvent)] (events : List ScheduleSessionEvent) : Prop :=
  EachFollows (fun earlier event => ∀ resolved (before : Session ScheduledStyle) record,
    scheduleEvent? event = some (.graphNodeWaitResolved resolved) → replay earlier = .ok before →
    before.part.graphSchedules[resolved.identity.scheduleId]? = some record →
    record.cancellationCompletedAt.isSome → resolved.disposition = .cancelled) events

end AgentMod
