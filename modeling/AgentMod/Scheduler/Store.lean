import AgentMod.Primitives.Text
import AgentMod.Scheduler.Replacement

/-! The schedules of a scheduler, the claims of their occurrences, and the operations on both. -/

namespace AgentMod

/-- Dependency trigger. -/
inductive DependencyTrigger where
  | atMillis (value : Int64)
  | interval (startsAtMs : Int64) (everyMs : UInt64)
  | runtimeEvent (eventType : String)
  | processOutput (processId contains : String)
  deriving DecidableEq

/-- Dependency payload. -/
inductive DependencyPayload where
  | prompt (prompt : String)
  | continuation (continuationId : String)
  | graphTrigger (runId nodeId : String)
  deriving DecidableEq

/-- Dependency-owned persisted schedule. -/
structure DependencySchedule where
  scheduleId : String
  sessionId : String
  idempotencyId : String
  style : String
  workspace : String
  permissionPolicy : String
  provider : String
  model : String
  tokenBudget : UInt64
  costBudgetMicros : UInt64
  trigger : DependencyTrigger
  payload : DependencyPayload
  active : Bool
  deriving DecidableEq

/-- What fired an event occurrence. -/
inductive DependencyObservation where
  | runtimeEvent (eventId : String)
  | processOutput (outputId : String)
  deriving DecidableEq

/-- Claimed occurrence. -/
structure DependencyExecution where
  executionId : String
  scheduledForMs : Int64
  claimedAtMs : Int64
  observation : Option DependencyObservation
  schedule : DependencySchedule
  deriving DecidableEq

/-- Store result. -/
structure DependencyStoreResult where
  scheduleId : String
  replayed : Bool
  deriving DecidableEq

/-- A schedule, and how far it has been claimed. -/
structure ScheduleState where
  schedule : DependencySchedule
  nextDueMs : Option Int64
  completed : Bool
  deriving DecidableEq

/-- What a schedule file holds. -/
structure StoredSchedule where
  checksum : String
  state : ScheduleState
  deriving DecidableEq

/-- State of an execution. -/
inductive ExecutionStatus where
  | claimed
  deriving DecidableEq

/-- An execution as it is stored. -/
structure ExecutionRecord where
  executionId : String
  scheduledForMs : Int64
  claimedAtMs : Int64
  observation : Option DependencyObservation
  schedule : DependencySchedule
  status : ExecutionStatus
  deriving DecidableEq

/-- What a claim file holds. -/
structure StoredExecution where
  checksum : String
  record : ExecutionRecord
  deriving DecidableEq

/-- `serde_json` on schedules and executions. -/
class SchedulerSerde where
  scheduleToVec : StoredSchedule → Except String (List UInt8)
  scheduleFromSlice : List UInt8 → Except String StoredSchedule
  stateToVec : ScheduleState → Except String (List UInt8)
  executionToVec : StoredExecution → Except String (List UInt8)
  executionFromSlice : List UInt8 → Except String StoredExecution
  recordToVec : ExecutionRecord → Except String (List UInt8)

/-- The stored form of an execution. -/
def executionRecord (value : DependencyExecution) (status : ExecutionStatus) : ExecutionRecord :=
  ⟨value.executionId, value.scheduledForMs, value.claimedAtMs, value.observation, value.schedule,
    status⟩

/-- Whether a byte may occur in an identifier. -/
def isSchedulerIdByte (byte : UInt8) : Bool :=
  let character := Char.ofNat byte.toNat
  isAsciiAlphanumeric character || character == '-' || character == '_' || character == ':'

/-- Validates an identifier. -/
def validateId (value : String) : Fallible SchedulerDependencyError Unit :=
  refuseIf (value.isEmpty ∨ 128 < value.utf8ByteSize ∨
    ¬ (utf8Bytes value.toList).all isSchedulerIdByte) (.error .invalid)

/-- Validates a schedule. -/
def validateDependencySchedule (value : DependencySchedule) : Fallible SchedulerDependencyError Unit := do
  forM [value.scheduleId, value.sessionId, value.idempotencyId] validateId
  refuseIf (isBlank value.style ∨ isBlank value.workspace ∨ isBlank value.permissionPolicy ∨
    isBlank value.provider ∨ isBlank value.model ∨ value.tokenBudget = 0) (.error .invalid)
  match value.trigger with
  | .interval _ everyMs => refuseIf (everyMs = 0) (.error .invalid)
  | .runtimeEvent eventType => refuseIf (isBlank eventType) (.error .invalid)
  | .processOutput processId contains =>
    refuseIf (isBlank processId ∨ contains.isEmpty) (.error .invalid)
  | .atMillis _ => return

/-- Whether a byte is a hexadecimal digit. -/
def isHexByte (byte : UInt8) : Bool :=
  let character := Char.ofNat byte.toNat
  isAsciiDigit character || (97 ≤ character.toNat && character.toNat ≤ 102) ||
    (65 ≤ character.toNat && character.toNat ≤ 70)

/-- Validates the hexadecimal digits of a hash. -/
def validateHash (value : String) : Fallible SchedulerDependencyError Unit :=
  refuseIf (¬ (value.utf8ByteSize = 64 ∧ (utf8Bytes value.toList).all isHexByte)) (.error .invalid)

/-- The time of a clock, by the milliseconds since the epoch where the clock is not before it. -/
def nowMillis (reading : Option Nat) : Fallible SchedulerDependencyError Int64 := do
  let millis ← okOr reading (.error .clock)
  refuseIf (2 ^ 63 ≤ millis) (.error .clock)
  return .ofNat millis

/-- The file stem of a schedule, without colons. -/
def portableScheduleFileStem (value : String) : String :=
  .ofList (value.toList.flatMap fun character =>
    if character = ':' then ['%', '3', 'A'] else [character])

/-- `i64::checked_add`. -/
def checkedAddMillis (left : Int64) (right : Int) : Option Int64 :=
  if -2 ^ 63 ≤ left.toInt + right ∧ left.toInt + right < 2 ^ 63 then some (.ofInt (left.toInt + right))
  else none

/-- The file of an execution. -/
def executionFile (executionId : String) : String := executionId ++ ".json"

/-- The marker of an execution that has ended. -/
def markerFile (executionId : String) (succeeded : Bool) : String :=
  executionId ++ if succeeded then ".succeeded" else ".failed"

section Store

variable [SchedulerSerde] [Hashing]

/-- The checksum of a serialized value. -/
def checksum (serialized : Except String (List UInt8)) : Fallible SchedulerDependencyError String := do
  let bytes ← serialized.mapError fun _ => .error .storage
  return (Hashing.digest bytes).toHex

/-- The schedule state that a file holds. -/
def decodeState (bytes : List UInt8) : Fallible SchedulerDependencyError ScheduleState := do
  let stored ← (SchedulerSerde.scheduleFromSlice bytes).mapError fun _ => .error .corrupt
  let expected ← checksum (SchedulerSerde.stateToVec stored.state)
  refuseIf (expected ≠ stored.checksum) (.error .corrupt)
  return stored.state

/-- The bytes of a schedule file. -/
def encodeState (state : ScheduleState) : Fallible SchedulerDependencyError (List UInt8) := do
  let sum ← checksum (SchedulerSerde.stateToVec state)
  (SchedulerSerde.scheduleToVec ⟨sum, state⟩).mapError fun _ => .error .storage

/-- The bytes of a claim file. -/
def encodeExecution (execution : DependencyExecution) :
    Fallible SchedulerDependencyError (List UInt8) := do
  let record := executionRecord execution .claimed
  let sum ← checksum (SchedulerSerde.recordToVec record)
  (SchedulerSerde.executionToVec ⟨sum, record⟩).mapError fun _ => .error .storage

/-- The file of a schedule, which is the legacy one where that exists. -/
def schedulePath (id : String) : SchedulerFiling String := do
  .ofExcept (validateId id)
  let legacy := id ++ ".json"
  let disk ← .read
  if (disk .schedules).contains legacy then return legacy
  else return portableScheduleFileStem id ++ ".json"

/-- Loads the state of a schedule. -/
def loadState (path : String) : SchedulerFiling ScheduleState := do
  let disk ← .read
  let bytes ← .ofExcept (okOr (disk .schedules)[path]? (.error .storage))
  .ofExcept (decodeState bytes)

/-- Writes the state of a schedule. -/
def writeState (path nonce : String) (state : ScheduleState) : SchedulerFiling Unit := do
  let bytes ← .ofExcept (encodeState state)
  writeJsonAtomic none path nonce bytes

/-- The identifier of an occurrence. -/
def occurrenceId (scheduleId source occurrence : String) : String :=
  (Hashing.digest (utf8Bytes
    (scheduleId ++ "\x00" ++ source ++ "\x00" ++ occurrence).toList)).toHex

/-- Claims an occurrence, unless it is claimed already. -/
def claim (schedule : DependencySchedule) (source : String) (scheduledForMs claimedAtMs : Int64)
    (observation : Option DependencyObservation) : SchedulerFiling (Option DependencyExecution) := do
  let occurrence := if source = "time" then scheduledForMs.toInt.repr else source
  let digest := occurrenceId schedule.scheduleId source occurrence
  let execution : DependencyExecution := ⟨digest, scheduledForMs, claimedAtMs, observation, schedule⟩
  let bytes ← .ofExcept (encodeExecution execution)
  let disk ← .read
  if (disk .executions).contains (executionFile digest) then return none
  else do
    .perform (.save .executions (executionFile digest) bytes)
    return some execution

/-- Loads the schedules of some files. -/
def loadSchedules : List String → SchedulerFiling (List DependencySchedule)
  | [] => return []
  | path :: rest => do
    let state ← loadState path
    let schedules ← loadSchedules rest
    return state.schedule :: schedules

/-- The first schedules, in the order of their files. -/
def listUnlocked (limit : Nat) : SchedulerFiling (List DependencySchedule) := do
  let disk ← .read
  loadSchedules (((disk .schedules).listing "json").take limit)

/-- Claims the occurrence of every schedule that an observation matches. -/
def claimMatches (sourceId sourceSessionId : String) (scheduledForMs : Int64)
    (observation : DependencyObservation) (predicate : DependencyTrigger → Bool) :
    List DependencySchedule → SchedulerFiling (List DependencyExecution)
  | [] => return []
  | schedule :: rest => do
    if schedule.active ∧ schedule.sessionId = sourceSessionId ∧ predicate schedule.trigger then
      let claimed ← claim schedule sourceId scheduledForMs scheduledForMs (some observation)
      let later ← claimMatches sourceId sourceSessionId scheduledForMs observation predicate rest
      return claimed.toList ++ later
    else claimMatches sourceId sourceSessionId scheduledForMs observation predicate rest

/-- Claims the occurrences of an observation. -/
def eventMatches (sourceId sourceSessionId : String) (scheduledForMs : Int64)
    (observation : DependencyObservation) (predicate : DependencyTrigger → Bool) :
    SchedulerFiling (List DependencyExecution) := do
  let schedules ← listUnlocked 10000
  claimMatches sourceId sourceSessionId scheduledForMs observation predicate schedules

/-- When a schedule is due first. -/
def DependencyTrigger.firstDue : DependencyTrigger → Option Int64
  | .atMillis value => some value
  | .interval startsAtMs _ => some startsAtMs
  | .runtimeEvent _ => none
  | .processOutput _ _ => none

/-- Creates or replaces a schedule, unless that was done already. -/
def upsert (schedule : DependencySchedule) (nonce : String) :
    SchedulerFiling DependencyStoreResult := do
  .ofExcept (validateDependencySchedule schedule)
  let path ← schedulePath schedule.scheduleId
  let disk ← .read
  if (disk .schedules).contains path then
    let current ← loadState path
    if current.schedule.idempotencyId = schedule.idempotencyId then
      .ofExcept (refuseIf (current.schedule ≠ schedule) (.error .idempotencyConflict))
      return ⟨schedule.scheduleId, true⟩
    else do
      writeState path nonce ⟨schedule, schedule.trigger.firstDue, false⟩
      return ⟨schedule.scheduleId, false⟩
  else do
    writeState path nonce ⟨schedule, schedule.trigger.firstDue, false⟩
    return ⟨schedule.scheduleId, false⟩

/-- Removes a schedule. -/
def remove (scheduleId : String) : SchedulerFiling Bool := do
  let path ← schedulePath scheduleId
  let disk ← .read
  if (disk .schedules).contains path then
    .perform (.remove .schedules path)
    return true
  else return false

/-- The state of a schedule behind a due time. -/
def ScheduleState.advance (state : ScheduleState) (due : Int64) :
    Fallible SchedulerDependencyError ScheduleState :=
  match state.schedule.trigger with
  | .atMillis _ => .ok { state with completed := true, nextDueMs := none }
  | .interval _ everyMs => do
    refuseIf (2 ^ 63 ≤ everyMs.toNat) (.error .invalid)
    return { state with nextDueMs := checkedAddMillis due everyMs.toNat }
  | .runtimeEvent _ => reject .corrupt
  | .processOutput _ _ => reject .corrupt

/-- The number of iterations that the occurrences of a schedule take at most. -/
def ScheduleState.backlog (state : ScheduleState) (now : Int64) : Nat :=
  match state.nextDueMs with
  | some due => (now.toInt - due.toInt).toNat + 2
  | none => 1

/-- Claims the due occurrences of a schedule, until the limit is reached. -/
def claimOccurrences (limit : Nat) (now : Int64) : Nat → ScheduleState → List DependencyExecution →
    SchedulerFiling (ScheduleState × List DependencyExecution)
  | 0, _, _ => .ofExcept (.error .fuel)
  | fuel + 1, state, result =>
    if result.length < limit then
      match state.nextDueMs.filter (· ≤ now) with
      | none => return (state, result)
      | some due => do
        let claimed ← claim state.schedule "time" due now none
        let state ← .ofExcept (state.advance due)
        claimOccurrences limit now fuel state (result ++ claimed.toList)
    else return (state, result)

/-- Claims the due occurrences of the schedules in some files, until the limit is reached. -/
def claimFiles (limit : Nat) (now : Int64) (nonces : String → String) :
    List String → List DependencyExecution → SchedulerFiling (List DependencyExecution)
  | [], result => return result
  | path :: rest, result =>
    if limit ≤ result.length then return result
    else do
      let state ← loadState path
      if ¬ state.schedule.active ∨ state.completed then claimFiles limit now nonces rest result
      else do
        let (state, result) ← claimOccurrences limit now (state.backlog now) state result
        writeState path (nonces path) state
        claimFiles limit now nonces rest result

/-- Claims the due occurrences of all schedules, until the limit is reached. -/
def claimDue (limit : Nat) (reading : Option Nat) (nonces : String → String) :
    SchedulerFiling (List DependencyExecution) := do
  let now ← .ofExcept (nowMillis reading)
  let disk ← .read
  claimFiles limit now nonces ((disk .schedules).listing "json") []

/-- The execution that a claim file holds. -/
def decodeExecution (executionId : String) (bytes : List UInt8) :
    Fallible SchedulerDependencyError DependencyExecution := do
  let stored ← (SchedulerSerde.executionFromSlice bytes).mapError fun _ => .error .corrupt
  let sum ← checksum (SchedulerSerde.recordToVec stored.record)
  refuseIf (sum ≠ stored.checksum ∨ stored.record.status ≠ .claimed ∨
    executionId ≠ stored.record.executionId) (.error .corrupt)
  return ⟨stored.record.executionId, stored.record.scheduledForMs, stored.record.claimedAtMs,
    stored.record.observation, stored.record.schedule⟩

/-- The pending executions of some files, until the limit is reached. -/
def listPendingFiles (limit : Nat) (directory : Directory) :
    List String → List DependencyExecution →
      Fallible SchedulerDependencyError (List DependencyExecution)
  | [], pending => return pending
  | path :: rest, pending => do
    let executionId := fileStem path
    let succeeded := directory.contains (markerFile executionId true)
    let failed := directory.contains (markerFile executionId false)
    refuseIf (succeeded ∧ failed) (.error .corrupt)
    if succeeded ∨ failed then listPendingFiles limit directory rest pending
    else do
      let bytes ← okOr directory[path]? (.error .storage)
      let execution ← decodeExecution executionId bytes
      let pending := pending ++ [execution]
      if pending.length = limit then return pending
      else listPendingFiles limit directory rest pending

/-- The claimed executions that have not ended. -/
def listPendingExecutions (limit : Nat) : SchedulerFiling (List DependencyExecution) := do
  .ofExcept (refuseIf (limit = 0 ∨ 1000 < limit) (.error .invalid))
  let disk ← .read
  .ofExcept (listPendingFiles limit (disk .executions) ((disk .executions).listing "json") [])

/-- Whether a runtime event triggers a schedule. -/
def DependencyTrigger.matchesEvent (eventType : String) : DependencyTrigger → Bool
  | .runtimeEvent expected => expected == eventType
  | _ => false

/-- Whether an output contains a text. -/
def containsText (output text : String) : Bool :=
  output.toList.tails.any fun tail => text.toList.isPrefixOf tail

/-- Whether an output of a process triggers a schedule. -/
def DependencyTrigger.matchesOutput (processId output : String) : DependencyTrigger → Bool
  | .processOutput expected contains => expected == processId && containsText output contains
  | _ => false

/-- Claims the occurrences of a runtime event. -/
def fireRuntimeEvent (sourceSessionId eventId eventType : String) (reading : Option Nat) :
    SchedulerFiling (List DependencyExecution) := do
  .ofExcept (validateId eventId)
  .ofExcept (validateId sourceSessionId)
  let now ← .ofExcept (nowMillis reading)
  eventMatches eventId sourceSessionId now (.runtimeEvent eventId)
    (DependencyTrigger.matchesEvent eventType)

/-- Claims the occurrences of an output of a process. -/
def fireProcessOutput (sourceSessionId outputId processId output : String) (reading : Option Nat) :
    SchedulerFiling (List DependencyExecution) := do
  .ofExcept (validateId outputId)
  .ofExcept (validateId sourceSessionId)
  let now ← .ofExcept (nowMillis reading)
  eventMatches outputId sourceSessionId now (.processOutput outputId)
    (DependencyTrigger.matchesOutput processId output)

/-- The bytes of a marker. -/
def markerBytes : List UInt8 := utf8Bytes "complete\n".toList

/-- Marks an execution as ended. -/
def completeExecution (executionId : String) (succeeded : Bool) : SchedulerFiling Bool := do
  .ofExcept (validateHash executionId)
  let disk ← .read
  let bytes ← .ofExcept (okOr (disk .executions)[executionFile executionId]? (.error .notFound))
  let stored ← .ofExcept ((SchedulerSerde.executionFromSlice bytes).mapError fun _ => .error .corrupt)
  let sum ← .ofExcept (checksum (SchedulerSerde.recordToVec stored.record))
  .ofExcept (refuseIf (sum ≠ stored.checksum) (.error .corrupt))
  let desired := markerFile executionId succeeded
  .ofExcept (refuseIf ((disk .executions).contains (markerFile executionId (!succeeded)))
    (.error .terminalConflict))
  if (disk .executions).contains desired then return false
  else do
    .perform (.save .executions desired [])
    .ofExcept (refuseIf (stored.record.status ≠ .claimed) (.error .corrupt))
    .perform (.save .executions desired markerBytes)
    return true

end Store

end AgentMod
