import AgentMod.Graph.Compile
import AgentMod.Scheduler.Store
import AgentMod.Session.GraphSchedule

/-! The storage of graph schedules: what is stored of a resolved one, and what the runtime and the scheduler accept. -/

namespace AgentMod

/-- An invalid request, for the runtime or for the scheduler. -/
inductive ScheduleLogicError where
  | invalid
  deriving DecidableEq

/-- A bounded identifier of ASCII letters, digits and some other characters. -/
def isScheduleId (maximum : Nat) (others : List Char) (value : String) : Bool :=
  !value.isEmpty && decide (value.utf8ByteSize ≤ maximum) &&
    value.toList.all fun character => isAsciiAlphanumeric character || others.contains character

/-- A bounded text that is not blank and has no NUL. -/
def isScheduleText (maximum : Nat) (value : String) : Bool :=
  !isBlank value && decide (value.utf8ByteSize ≤ maximum) && !value.toList.contains '\x00'

/-- What the runtime stores, and passes on to the scheduler. -/
structure UpsertScheduleCommand where
  scheduleId : String
  sessionId : SessionId
  idempotencyId : String
  style : String
  workspace : String
  permissionPolicy : String
  provider : String
  model : String
  tokenBudget : UInt64
  costBudgetMicros : UInt64
  trigger : CanonicalGraphScheduleTrigger
  payload : DependencyPayload
  active : Bool

/-- `validate_id` of the runtime. -/
def runtimeValidateId (value : String) : Except ScheduleLogicError Unit :=
  refuseIf (!isScheduleId 256 ['-', '_', '.', ':'] value) .invalid

/-- `validate_id` of the scheduler's logic. -/
def schedulerValidateId (value : String) : Except ScheduleLogicError Unit :=
  refuseIf (!isScheduleId 128 ['-', '_', ':'] value) .invalid

/-- `validate_text` of either. -/
def validateScheduleText (value : String) (maximum : Nat) : Except ScheduleLogicError Unit :=
  refuseIf (!isScheduleText maximum value) .invalid

/-- What either checks of a trigger, beside its instants. -/
def validateTriggerText (validateId : String → Except ScheduleLogicError Unit) :
    CanonicalGraphScheduleTrigger → Except ScheduleLogicError Unit
  | .runtimeEvent eventType => validateScheduleText eventType 256
  | .processOutput processId contains => do
    validateId processId
    validateScheduleText contains 4096
  | .atMillis _ | .interval .. => return

/-- What either checks of a payload. -/
def validateSchedulePayload (validateId : String → Except ScheduleLogicError Unit) :
    DependencyPayload → Except ScheduleLogicError Unit
  | .prompt prompt => validateScheduleText prompt (256 * 1024)
  | .continuation continuationId => validateId continuationId
  | .graphTrigger runId nodeId => do
    validateId runId
    validateId nodeId

/-- What the runtime checks of a trigger. -/
def runtimeValidateTrigger : CanonicalGraphScheduleTrigger → Except ScheduleLogicError Unit
  | .atMillis timestampMs => refuseIf (timestampMs < 0) .invalid
  | .interval startsAtMs everyMs => refuseIf (startsAtMs < 0 ∨ everyMs < 1000) .invalid
  | trigger => validateTriggerText runtimeValidateId trigger

/-- What the logic of the scheduler checks of a trigger. -/
def schedulerValidateTrigger : CanonicalGraphScheduleTrigger → Except ScheduleLogicError Unit
  | .interval _ everyMs => refuseIf (everyMs < 1000) .invalid
  | trigger => validateTriggerText schedulerValidateId trigger

namespace UpsertScheduleCommand

/-- `validate_schedule` of the runtime. -/
def runtimeValidate (value : UpsertScheduleCommand) : Except ScheduleLogicError Unit := do
  runtimeValidateId value.scheduleId
  runtimeValidateId value.idempotencyId
  forM [value.style, value.workspace, value.permissionPolicy, value.provider, value.model] fun text =>
    validateScheduleText text 4096
  runtimeValidateTrigger value.trigger
  validateSchedulePayload runtimeValidateId value.payload

/-- `validate_schedule` of the scheduler's logic. -/
def schedulerValidate (value : UpsertScheduleCommand) : Except ScheduleLogicError Unit := do
  schedulerValidateId value.scheduleId
  schedulerValidateId value.sessionId
  schedulerValidateId value.idempotencyId
  validateScheduleText value.style 128
  validateScheduleText value.workspace (16 * 1024)
  validateScheduleText value.permissionPolicy 128
  validateScheduleText value.provider 128
  validateScheduleText value.model 256
  refuseIf (value.tokenBudget = 0) .invalid
  schedulerValidateTrigger value.trigger
  validateSchedulePayload schedulerValidateId value.payload

/-- The trigger that reaches the scheduler's store. -/
def dependencyTrigger : CanonicalGraphScheduleTrigger → DependencyTrigger
  | .atMillis timestampMs => .atMillis (.ofInt timestampMs)
  | .interval startsAtMs everyMs => .interval (.ofInt startsAtMs) (.ofNat everyMs)
  | .runtimeEvent eventType => .runtimeEvent eventType
  | .processOutput processId contains => .processOutput processId contains

/-- What reaches the scheduler's store, through layers that keep all fields. -/
def toDependency (value : UpsertScheduleCommand) : DependencySchedule where
  scheduleId := value.scheduleId
  sessionId := value.sessionId
  idempotencyId := value.idempotencyId
  style := value.style
  workspace := value.workspace
  permissionPolicy := value.permissionPolicy
  provider := value.provider
  model := value.model
  tokenBudget := value.tokenBudget
  costBudgetMicros := value.costBudgetMicros
  trigger := dependencyTrigger value.trigger
  payload := value.payload
  active := value.active

/-- The runtime, the logic of the scheduler and its store accept a command. -/
def Accepted (value : UpsertScheduleCommand) : Prop :=
  value.runtimeValidate = .ok () ∧ value.schedulerValidate = .ok () ∧
    validateDependencySchedule value.toDependency = .ok ()

end UpsertScheduleCommand

/-- The hyphenated text of a UUID: 36 hexadecimal digits and hyphens. -/
def isUuidText (value : String) : Bool :=
  decide (value.toList.length = 36) && value.toList.all fun character => isAsciiHexdigit character || character == '-'

/-- What a schedule is stored with, for a session. -/
structure ScheduleContext where
  sessionId : SessionId
  style : String
  workspace : String
  permissionPolicy : String
  provider : String
  model : String
  tokenBudget : UInt64
  costBudgetMicros : UInt64
  uuid : isUuidText sessionId

/-- The command by which the driver stores a dispatched schedule. -/
def ResolvedGraphSchedule.upsertCommand (resolved : ResolvedGraphSchedule) (context : ScheduleContext) :
    UpsertScheduleCommand where
  scheduleId := resolved.identity.scheduleId
  sessionId := context.sessionId
  idempotencyId := resolved.identity.idempotencyId
  style := context.style
  workspace := context.workspace
  permissionPolicy := context.permissionPolicy
  provider := context.provider
  model := context.model
  tokenBudget := context.tokenBudget
  costBudgetMicros := context.costBudgetMicros
  trigger := resolved.timing.trigger
  payload := match resolved.identity.continuationId with
    | some continuationId => .continuation continuationId
    | none => .graphTrigger resolved.identity.work.runId resolved.identity.work.nodeId
  active := true

/-- The node is one that the executor executes as a delay or as a schedule. -/
structure SessionNodeExecutorResolution.Schedules (executor : SessionNodeExecutorResolution) (node : ExecutableNode) :
    Prop where
  nodeId : executor.nodeId = node.id
  source : executor.source = .runtime
  kind : node.kind = .delay ∧ executor.nativeExecutorKey = some .delay ∨
    node.kind = .schedule ∧ executor.nativeExecutorKey = some .schedule

/-- What the resolution of schedules relies on: every timestamp that the compiler accepts is parsed, instants are
those of four-digit years, what identifies a schedule is written, and continuations are identified by UUIDs. -/
structure LawfulScheduleText [ScheduleText] : Prop where
  parses : ∀ value, isRfc3339Timestamp value → (ScheduleText.parseRfc3339 value).isSome
  bounded : ∀ value nanos, ScheduleText.parseRfc3339 value = some nanos →
    -377705116800000000000 ≤ nanos ∧ nanos ≤ 253402300799999999999
  writes : ∀ session work plan configuration trigger resolution cancellation,
    (ScheduleText.identityToVec session work plan configuration trigger resolution cancellation).isSome
  uuids : ∀ bytes, isUuidText (ScheduleText.continuationId bytes)

section Conditions

variable [ScheduleText]

/-- The instant of a timestamp lies in a range. -/
def InstantWithin (range : Int → Prop) (timestamp : String) : Prop :=
  ∀ instant, parseTimestamp timestamp = .ok instant → range instant

/-- An instant is not before the epoch, and not behind an expiration. -/
def WakesInTime (expirationTimestamp : Option String) (instant : Int) : Prop :=
  0 ≤ instant ∧ ∀ timestamp, expirationTimestamp = some timestamp → InstantWithin (instant ≤ ·) timestamp

/-- A resolved trigger that the runtime and the scheduler can store. -/
def CanonicalGraphScheduleTrigger.Storable : CanonicalGraphScheduleTrigger → Prop
  | .atMillis timestampMs => 0 ≤ timestampMs
  | .interval startsAtMs everyMs => 0 ≤ startsAtMs ∧ 1000 ≤ everyMs
  | .runtimeEvent eventType => isScheduleText 256 eventType
  | .processOutput processId contains => isScheduleId 128 ['-', '_', ':'] processId ∧ isScheduleText 4096 contains

/-- A trigger that the runtime and the scheduler can store once it is resolved, for a node that may wait for it. -/
def ScheduleTrigger.Storable (now : Int) (waitForTrigger : Bool) : ScheduleTrigger → Prop
  | .at timestamp => InstantWithin (0 ≤ ·) timestamp
  | .interval intervalMs startTimestamp => waitForTrigger = false ∧ 1000 ≤ intervalMs ∧
    match startTimestamp with
    | some timestamp => InstantWithin (0 ≤ ·) timestamp
    | none => 0 ≤ now
  | .runtimeEvent eventType => eventType.utf8ByteSize ≤ 256
  | .processOutput processReference pattern =>
    isScheduleId 128 ['-', '_', ':'] processReference ∧ isScheduleText 4096 pattern

/-- A node whose delay or schedule can be executed and stored at a time. -/
def ExecutableNode.Storable (node : ExecutableNode) (runId : String) (now : Int) : Prop :=
  match node.configuration with
  | some (.delay (.duration durationMs) expirationTimestamp _) =>
    (checkedI64 durationMs).isSome ∧ WakesInTime expirationTimestamp (now + durationMs)
  | some (.delay (.wakeTimestamp timestamp) expirationTimestamp _) =>
    InstantWithin (WakesInTime expirationTimestamp) timestamp
  | some (.schedule trigger waitForTrigger _) => trigger.Storable now waitForTrigger ∧
    (waitForTrigger = false → isScheduleId 128 ['-', '_', ':'] runId ∧ isScheduleId 128 ['-', '_', ':'] node.id)
  | _ => False

/-- What a schedule is stored with fits into the bounds of the runtime and of the scheduler. -/
structure ScheduleContext.Storable (context : ScheduleContext) : Prop where
  style : isScheduleText 128 context.style
  workspace : isScheduleText 4096 context.workspace
  permissionPolicy : isScheduleText 128 context.permissionPolicy
  provider : isScheduleText 128 context.provider
  model : isScheduleText 256 context.model
  tokenBudget : context.tokenBudget ≠ 0

/-- The configured duration can be added to the current time within `i64`, and the interval is a `u64`. -/
def ExecutableNode.Timed (node : ExecutableNode) (now : Int) : Prop :=
  match node.configuration with
  | some (.delay (.duration durationMs) ..) => (checkedI64 (now + durationMs)).isSome
  | some (.schedule (.interval intervalMs _) ..) => intervalMs < 2 ^ 64
  | _ => True

end Conditions

end AgentMod
