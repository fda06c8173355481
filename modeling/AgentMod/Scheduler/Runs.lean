import AgentMod.Graph.Sample
import AgentMod.Library.Segments
import AgentMod.Scheduler.Store

/-! What the scheduler is for: every due occurrence of a schedule is claimed, and once only. -/

namespace AgentMod

/-- What the scheduler relies on: schedules and executions print, a printed one is read back, and no
proper beginning of a printed execution is read as one. -/
structure LawfulScheduler [SchedulerSerde] : Prop where
  states : ∀ state, ∃ bytes, SchedulerSerde.stateToVec state = .ok bytes
  schedules : ∀ stored, ∃ bytes, SchedulerSerde.scheduleToVec stored = .ok bytes
  readsSchedule : ∀ stored bytes, SchedulerSerde.scheduleToVec stored = .ok bytes →
    SchedulerSerde.scheduleFromSlice bytes = .ok stored
  records : ∀ record, ∃ bytes, SchedulerSerde.recordToVec record = .ok bytes
  executions : ∀ stored, ∃ bytes, SchedulerSerde.executionToVec stored = .ok bytes
  readsExecution : ∀ stored bytes, SchedulerSerde.executionToVec stored = .ok bytes →
    SchedulerSerde.executionFromSlice bytes = .ok stored
  torn : ∀ stored bytes part, SchedulerSerde.executionToVec stored = .ok bytes → part <+: bytes →
    part ≠ bytes → ∃ detail, SchedulerSerde.executionFromSlice part = .error detail

/-- The instants of a trigger, one behind the other, within the range of the clock. -/
def DependencyTrigger.occurrence : DependencyTrigger → Nat → Option Int64
  | .atMillis value, 0 => some value
  | .atMillis _, _ + 1 => none
  | .interval startsAtMs everyMs, index => checkedAddMillis startsAtMs (index * everyMs.toNat)
  | .runtimeEvent _, _ => none
  | .processOutput _ _, _ => none

/-- The instants of a schedule, from one occurrence on. -/
def instantsFrom (schedule : DependencySchedule) (index count : Nat) : List Int64 :=
  (List.range' index count).filterMap schedule.trigger.occurrence

/-- The state of a schedule behind its first occurrences. -/
def ScheduleState.behind (schedule : DependencySchedule) (count : Nat) : ScheduleState where
  schedule := schedule
  nextDueMs := schedule.trigger.occurrence count
  completed := match schedule.trigger with
    | .atMillis _ => 0 < count
    | _ => false

/-- A trigger whose interval fits into the range of the clock. -/
def DependencyTrigger.Narrow : DependencyTrigger → Prop
  | .interval _ everyMs => everyMs.toNat < 2 ^ 63
  | _ => True

/-- A request to the scheduler, with the nonces of the replacements that it makes. -/
inductive SchedulerRequest where
  | upsert (schedule : DependencySchedule) (nonce : String)
  | remove (scheduleId : String)
  | list (limit : Nat)
  | claimDue (limit : Nat) (reading : Option Nat) (nonces : String → String)
  | listPendingExecutions (limit : Nat)
  | fireRuntimeEvent (sourceSessionId eventId eventType : String) (reading : Option Nat)
  | fireProcessOutput (sourceSessionId outputId processId output : String) (reading : Option Nat)
  | completeExecution (executionId : String) (succeeded : Bool)

/-- What the scheduler answers to a request. -/
inductive SchedulerAnswer where
  | stored (result : DependencyStoreResult)
  | removed (found : Bool)
  | listed (schedules : List DependencySchedule)
  | claimed (executions : List DependencyExecution)
  | pending (executions : List DependencyExecution)
  | completed (marked : Bool)
  | rejected (failure : Halt SchedulerDependencyError)

/-- A request with its answer. -/
abbrev Scheduled := SchedulerRequest × SchedulerAnswer

/-- A request that stores no active schedule with an interval beyond the range of the clock. -/
def StoresNarrow : Scheduled → Prop
  | (.upsert schedule _, .stored _) => schedule.active → schedule.trigger.Narrow
  | _ => True

/-- The answer of an operation, and the disk that it leaves. -/
def schedulerAnswer {α : Type} (accept : α → SchedulerAnswer) :
    Fallible SchedulerDependencyError α × SchedulerDisk → SchedulerAnswer × SchedulerDisk
  | (.ok value, disk) => (accept value, disk)
  | (.error failure, disk) => (.rejected failure, disk)

/-- An observation that is offered to the schedules of a session. -/
structure Firing where
  sourceId : String
  sessionId : String
  reading : Option Nat
  observation : DependencyObservation
  predicate : DependencyTrigger → Bool

/-- The observation that a request offers. -/
def SchedulerRequest.firing : SchedulerRequest → Option Firing
  | .fireRuntimeEvent session event kind reading =>
    some ⟨event, session, reading, .runtimeEvent event, DependencyTrigger.matchesEvent kind⟩
  | .fireProcessOutput session output process text reading =>
    some ⟨output, session, reading, .processOutput output,
      DependencyTrigger.matchesOutput process text⟩
  | _ => none

/-- The file of a schedule. -/
def scheduleFile (id : String) : String := portableScheduleFileStem id ++ ".json"

/-- A nonce that names no file. -/
structure FreshNonce (disk : SchedulerDisk) (nonce : String) : Prop where
  undotted : '.' ∉ nonce.toList
  temporary : ∀ name, (disk .schedules)[temporaryFile name nonce]? = none
  backup : ∀ name, (disk .schedules)[backupFile name nonce]? = none

/-- The nonces of a request name no files. -/
def SchedulerRequest.Fresh (disk : SchedulerDisk) : SchedulerRequest → Prop
  | .upsert _ nonce => FreshNonce disk nonce
  | .claimDue _ _ nonces => ∀ path, FreshNonce disk (nonces path)
  | _ => True

/-- The executions that an answer hands out. -/
def SchedulerAnswer.claims : SchedulerAnswer → List DependencyExecution
  | .claimed executions => executions
  | _ => []

/-- The executions that the scheduler has handed out. -/
def handedOut (run : List Scheduled) : List DependencyExecution :=
  run.flatMap fun scheduled => scheduled.2.claims

/-- The instants of a schedule that have been handed out. -/
def claimedInstants (scheduleId : String) (run : List Scheduled) : List Int64 :=
  ((handedOut run).filter fun execution => execution.observation = none ∧
    execution.schedule.scheduleId = scheduleId).map DependencyExecution.scheduledForMs

/-- The reading of the clock at which due occurrences are claimed. -/
def clockReading : Scheduled → Option Nat
  | (.claimDue _ reading _, .claimed _) => reading
  | _ => none

/-- A request that leaves a schedule as it is stored, and succeeds where it claims due occurrences. -/
def Spares (scheduleId : String) : Scheduled → Prop
  | (.upsert schedule _, .stored result) => schedule.scheduleId = scheduleId → result.replayed
  | (.remove id, .removed found) => id = scheduleId → found = false
  | (.claimDue _ _ _, answer) => ∃ claims, answer = .claimed claims
  | _ => True

/-- What claimed an execution: the time, or the identifier of an event or an output. -/
def DependencyExecution.source (execution : DependencyExecution) : String :=
  match execution.observation with
  | none => "time"
  | some (.runtimeEvent eventId) => eventId
  | some (.processOutput outputId) => outputId

/-- The occurrence that an execution claims. -/
def DependencyExecution.occurrence (execution : DependencyExecution) : String :=
  if execution.source = "time" then execution.scheduledForMs.toInt.repr else execution.source

/-- What the identifier of an occurrence is the hash of. -/
def occurrenceKey (scheduleId source occurrence : String) : String :=
  scheduleId ++ "\x00" ++ source ++ "\x00" ++ occurrence

/-- What the identifier of an execution is the hash of. -/
def DependencyExecution.key (execution : DependencyExecution) : String :=
  occurrenceKey execution.schedule.scheduleId execution.source execution.occurrence

section Runs

variable [SchedulerSerde] [Hashing]

/-- Claims the occurrences of an observation. -/
def Firing.offer (firing : Firing) : SchedulerFiling (List DependencyExecution) := do
  .ofExcept (validateId firing.sourceId)
  .ofExcept (validateId firing.sessionId)
  let now ← .ofExcept (nowMillis firing.reading)
  eventMatches firing.sourceId firing.sessionId now firing.observation firing.predicate

/-- The scheduler serves a request. -/
def serveScheduler : SchedulerRequest → SchedulerDisk → SchedulerAnswer × SchedulerDisk
  | .upsert schedule nonce, disk => schedulerAnswer .stored ((upsert schedule nonce).run disk)
  | .remove scheduleId, disk => schedulerAnswer .removed ((remove scheduleId).run disk)
  | .list limit, disk => schedulerAnswer .listed ((listUnlocked limit).run disk)
  | .claimDue limit reading nonces, disk =>
    schedulerAnswer .claimed ((claimDue limit reading nonces).run disk)
  | .listPendingExecutions limit, disk =>
    schedulerAnswer .pending ((listPendingExecutions limit).run disk)
  | .fireRuntimeEvent session event kind reading, disk =>
    schedulerAnswer .claimed ((fireRuntimeEvent session event kind reading).run disk)
  | .fireProcessOutput session output process text reading, disk =>
    schedulerAnswer .claimed ((fireProcessOutput session output process text reading).run disk)
  | .completeExecution executionId succeeded, disk =>
    schedulerAnswer .completed ((completeExecution executionId succeeded).run disk)

/-- The scheduler serves a request, and this leads from one disk to the next. -/
def Schedules (disk : SchedulerDisk) (scheduled : Scheduled) (next : SchedulerDisk) : Prop :=
  scheduled.1.Fresh disk ∧ serveScheduler scheduled.1 disk = (scheduled.2, next)

/-- What happens to a scheduler. -/
inductive SchedulerEvent where
  | served (scheduled : Scheduled)
  | crashed (request : SchedulerRequest) (left : SchedulerDisk)

/-- A request that claims occurrences is interrupted. -/
def Interrupts (disk : SchedulerDisk) : SchedulerRequest → SchedulerDisk → Prop
  | .claimDue limit reading nonces, left => (claimDue limit reading nonces).Crashes disk left
  | .fireRuntimeEvent session event kind reading, left =>
    (fireRuntimeEvent session event kind reading).Crashes disk left
  | .fireProcessOutput session output process text reading, left =>
    (fireProcessOutput session output process text reading).Crashes disk left
  | _, _ => False

/-- An event leads from one disk to the next. -/
def Happens (disk : SchedulerDisk) : SchedulerEvent → SchedulerDisk → Prop
  | .served scheduled, next => Schedules disk scheduled next
  | .crashed request left, next =>
    request.Fresh disk ∧ Interrupts disk request left ∧ RecoversFiles left next

/-- The claim of an instant of a schedule. -/
def timeExecution (schedule : DependencySchedule) (now instant : Int64) : DependencyExecution where
  executionId := occurrenceId schedule.scheduleId "time" instant.toInt.repr
  scheduledForMs := instant
  claimedAtMs := now
  observation := none
  schedule := schedule

/-- A claim file records an execution. -/
def RecordedIn (directory : Directory) (execution : DependencyExecution) : Prop :=
  extension (executionFile execution.executionId) = some "json" ∧
    ∃ content, directory[executionFile execution.executionId]? = some content ∧
      encodeExecution execution = .ok content

/-- A schedule file holds a valid schedule, behind some of its occurrences. -/
structure StoresSchedule (name : String) (content : List UInt8) (schedule : DependencySchedule)
    (index : Nat) : Prop where
  encodes : encodeState (.behind schedule index) = .ok content
  valid : validateDependencySchedule schedule = .ok ()
  name : name = scheduleFile schedule.scheduleId

/-- A schedule is stored in a file. -/
def StoredIn (disk : SchedulerDisk) (name : String) (schedule : DependencySchedule) : Prop :=
  ∃ content index, (disk .schedules)[name]? = some content ∧ StoresSchedule name content schedule index

/-- A claim file is torn. -/
def TornClaim (directory : Directory) : Prop :=
  ∃ name content, directory[name]? = some content ∧ extension name = some "json" ∧
    ∀ execution, encodeExecution execution ≠ .ok content

/-- An execution is recorded, and has not ended. -/
structure Pending (directory : Directory) (execution : DependencyExecution) : Prop where
  recorded : RecordedIn directory execution
  unmarked : ∀ succeeded, ¬ directory.contains (markerFile execution.executionId succeeded)

/-- No other occurrence that is recorded has the same hash. -/
def Uncollided (directory : Directory) (key : String) : Prop :=
  ∀ execution, RecordedIn directory execution →
    Hashing.digest (utf8Bytes execution.key.toList) = Hashing.digest (utf8Bytes key.toList) →
    execution.key = key

/-- An event that stores no interval beyond the range of the clock, and leaves no torn claim file. -/
def SchedulerEvent.Harmless : SchedulerEvent → Prop
  | .served scheduled => StoresNarrow scheduled
  | .crashed _ left => ¬ TornClaim (left .executions)

/-- The claim file of an instant of a schedule. -/
def timeFile (scheduleId : String) (instant : Int64) : String :=
  executionFile (occurrenceId scheduleId "time" instant.toInt.repr)

end Runs

section Sample

attribute [local instance] prefixHash

/-- A trigger as three byte strings. -/
def triggerSegments : DependencyTrigger → List (List UInt8)
  | .atMillis value => [[0], instantSegment (some value), []]
  | .interval startsAtMs everyMs => [[1], instantSegment (some startsAtMs), countSegment everyMs.toNat]
  | .runtimeEvent eventType => [[2], textSegment eventType, []]
  | .processOutput processId contains => [[3], textSegment processId, textSegment contains]

/-- The trigger of three byte strings. -/
def parseTrigger (kind first second : List UInt8) : DependencyTrigger :=
  if kind = [0] then .atMillis ((parseInstant first).getD 0)
  else if kind = [1] then .interval ((parseInstant first).getD 0) (.ofNat second.length)
  else if kind = [2] then .runtimeEvent (parseText first)
  else .processOutput (parseText first) (parseText second)

/-- A payload as three byte strings. -/
def payloadSegments : DependencyPayload → List (List UInt8)
  | .prompt prompt => [[0], textSegment prompt, []]
  | .continuation continuationId => [[1], textSegment continuationId, []]
  | .graphTrigger runId nodeId => [[2], textSegment runId, textSegment nodeId]

/-- The payload of three byte strings. -/
def parsePayload (kind first second : List UInt8) : DependencyPayload :=
  if kind = [0] then .prompt (parseText first)
  else if kind = [1] then .continuation (parseText first)
  else .graphTrigger (parseText first) (parseText second)

/-- An observation as two byte strings. -/
def observationSegments : Option DependencyObservation → List (List UInt8)
  | none => [[0], []]
  | some (.runtimeEvent eventId) => [[1], textSegment eventId]
  | some (.processOutput outputId) => [[2], textSegment outputId]

/-- The observation of two byte strings. -/
def parseObservation (kind id : List UInt8) : Option DependencyObservation :=
  if kind = [0] then none
  else if kind = [1] then some (.runtimeEvent (parseText id))
  else some (.processOutput (parseText id))

/-- A schedule as byte strings. -/
def scheduleSegments (schedule : DependencySchedule) : List (List UInt8) :=
  [textSegment schedule.scheduleId, textSegment schedule.sessionId, textSegment schedule.idempotencyId,
    textSegment schedule.style, textSegment schedule.workspace, textSegment schedule.permissionPolicy,
    textSegment schedule.provider, textSegment schedule.model,
    countSegment schedule.tokenBudget.toNat, countSegment schedule.costBudgetMicros.toNat,
    if schedule.active then [1] else [0]] ++
    triggerSegments schedule.trigger ++ payloadSegments schedule.payload

/-- The schedule of some byte strings. -/
def parseSchedule : List (List UInt8) → Option DependencySchedule
  | [id, session, idempotency, style, workspace, policy, provider, model, tokens, cost, active,
      trigger, triggerFirst, triggerSecond, payload, payloadFirst, payloadSecond] =>
    some ⟨parseText id, parseText session, parseText idempotency, parseText style,
      parseText workspace, parseText policy, parseText provider, parseText model,
      .ofNat tokens.length, .ofNat cost.length, parseTrigger trigger triggerFirst triggerSecond,
      parsePayload payload payloadFirst payloadSecond, active = [1]⟩
  | _ => none

theorem parseTrigger_segments (trigger : DependencyTrigger) : ∃ kind first second,
    triggerSegments trigger = [kind, first, second] ∧ parseTrigger kind first second = trigger := by
  cases trigger with
  | atMillis value => exact ⟨_, _, _, rfl, by simp [parseTrigger]⟩
  | interval startsAtMs everyMs => exact ⟨_, _, _, rfl, by simp [parseTrigger, countSegment]⟩
  | runtimeEvent eventType => exact ⟨_, _, _, rfl, by simp [parseTrigger]⟩
  | processOutput processId contains => exact ⟨_, _, _, rfl, by simp [parseTrigger]⟩

theorem parsePayload_segments (payload : DependencyPayload) : ∃ kind first second,
    payloadSegments payload = [kind, first, second] ∧ parsePayload kind first second = payload := by
  cases payload with
  | prompt prompt => exact ⟨_, _, _, rfl, by simp [parsePayload]⟩
  | continuation continuationId => exact ⟨_, _, _, rfl, by simp [parsePayload]⟩
  | graphTrigger runId nodeId => exact ⟨_, _, _, rfl, by simp [parsePayload]⟩

theorem parseObservation_segments (observation : Option DependencyObservation) : ∃ kind id,
    observationSegments observation = [kind, id] ∧ parseObservation kind id = observation := by
  rcases observation with _ | ⟨eventId⟩ | ⟨outputId⟩
  · exact ⟨_, _, rfl, rfl⟩
  · exact ⟨_, _, rfl, by simp [parseObservation]⟩
  · exact ⟨_, _, rfl, by simp [parseObservation]⟩

@[simp] theorem parseSchedule_scheduleSegments (schedule : DependencySchedule) :
    parseSchedule (scheduleSegments schedule) = some schedule := by
  obtain ⟨kind, first, second, written, reads⟩ := parseTrigger_segments schedule.trigger
  obtain ⟨payload, payloadFirst, payloadSecond, isWritten, isRead⟩ :=
    parsePayload_segments schedule.payload
  rw [scheduleSegments, written, isWritten]
  simp only [List.cons_append, List.nil_append, parseSchedule, parseText_textSegment, reads, isRead,
    countSegment, List.length_replicate, UInt64.ofNat_toNat]
  cases schedule with
  | mk scheduleId sessionId idempotencyId style workspace permissionPolicy provider model tokenBudget
      costBudgetMicros trigger payload active =>
    cases active
    · rfl
    · rfl

theorem length_scheduleSegments (schedule : DependencySchedule) :
    (scheduleSegments schedule).length = 17 := by
  rw [scheduleSegments]
  cases schedule.trigger <;> cases schedule.payload <;> rfl

/-- How the sample writes schedules. -/
def scheduleCodec : SegmentCodec StoredSchedule where
  count := 20
  segments stored := [textSegment stored.checksum, instantSegment stored.state.nextDueMs,
    if stored.state.completed then [1] else [0]] ++ scheduleSegments stored.state.schedule
  parse
    | checksum :: due :: completed :: rest => (parseSchedule rest).map fun schedule =>
      ⟨parseText checksum, schedule, parseInstant due, completed = [1]⟩
    | _ => none
  length stored := by rw [List.length_append, length_scheduleSegments]; rfl
  parses stored := by
    rcases stored with ⟨checksum, schedule, due, completed⟩
    cases completed <;> simp

/-- How the sample writes executions. -/
def executionCodec : SegmentCodec StoredExecution where
  count := 23
  segments stored := [textSegment stored.checksum, textSegment stored.record.executionId,
    instantSegment (some stored.record.scheduledForMs), instantSegment (some stored.record.claimedAtMs)] ++
    observationSegments stored.record.observation ++ scheduleSegments stored.record.schedule
  parse
    | checksum :: id :: due :: claimed :: kind :: source :: rest => (parseSchedule rest).map fun schedule =>
      ⟨parseText checksum, parseText id, (parseInstant due).getD 0, (parseInstant claimed).getD 0,
        parseObservation kind source, schedule, .claimed⟩
    | _ => none
  length stored := by
    obtain ⟨kind, id, written, -⟩ := parseObservation_segments stored.record.observation
    rw [List.length_append, List.length_append, length_scheduleSegments, written]
    rfl
  parses stored := by
    obtain ⟨kind, id, written, reads⟩ := parseObservation_segments stored.record.observation
    rcases stored with ⟨checksum, id, due, claimed, observation, schedule, ⟨⟩⟩
    rw [written]
    simpa using reads

/-- A serializer for schedules and executions. -/
abbrev segmentedScheduler : SchedulerSerde where
  scheduleToVec := scheduleCodec.toVec
  scheduleFromSlice := scheduleCodec.fromSlice
  stateToVec _ := .ok []
  executionToVec := executionCodec.toVec
  executionFromSlice := executionCodec.fromSlice
  recordToVec _ := .ok []

/-- An active schedule of one trigger. -/
def sampleSchedule (trigger : DependencyTrigger) : DependencySchedule where
  scheduleId := "s"
  sessionId := "session"
  idempotencyId := "once"
  style := "style"
  workspace := "workspace"
  permissionPolicy := "policy"
  provider := "provider"
  model := "model"
  tokenBudget := 1
  costBudgetMicros := 0
  trigger := trigger
  payload := .prompt "prompt"
  active := true

end Sample

end AgentMod
