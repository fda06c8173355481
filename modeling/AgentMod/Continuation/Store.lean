import AgentMod.Graph.Sample
import AgentMod.Library.Files
import AgentMod.Library.Run
import AgentMod.Library.Segments
import AgentMod.Primitives.Text

/-! The durable store of resume-once continuations, the gate that resumes one in memory, and what both are for. -/

namespace AgentMod

/-- The version of the stored records. -/
def continuationSchemaVersion : Nat := 2

/-- The longest record that is loaded: one mebibyte. -/
def maxRecordBytes : Nat := 1024 * 1024

/-- Durable continuation state. -/
inductive DependencyContinuationState where
  | pending
  | resumed
  | cancelled
  | expired
  deriving DecidableEq, Repr

/-- Durable continuation record. -/
structure DependencyContinuationRecord where
  sessionId : String
  id : String
  state : DependencyContinuationState
  wakeConditionJson : List UInt8
  payloadJson : List UInt8
  expiresAtMillis : Option Int64
  deriving DecidableEq

/-- Durable continuation adapter failure. -/
inductive ContinuationDependencyError where
  | invalidId
  | invalidInitialState
  | invalidTransition
  | alreadyExists (id : String)
  | notFound (id : String)
  | stateConflict (current requested : DependencyContinuationState)
  | recordTooLarge (length : Nat)
  | unsupportedSchema (version : Nat)
  | integrity
  | serialization (detail : String)
  deriving DecidableEq, Repr

/-- Atomic transition request. -/
structure DependencyTransitionContinuationRequest where
  sessionId : String
  id : String
  expected : DependencyContinuationState
  target : DependencyContinuationState
  deriving DecidableEq

/-- Result of an idempotent transition. -/
structure DependencyTransitionContinuationResponse where
  transitioned : Bool
  current : DependencyContinuationState
  payloadJson : List UInt8
  deriving DecidableEq

/-- What a record file holds beside the checksum. -/
structure ChecksumBody where
  schemaVersion : Nat
  sessionId : String
  id : String
  state : DependencyContinuationState
  wakeConditionJson : List UInt8
  payloadJson : List UInt8
  expiresAtMillis : Option Int64
  deriving DecidableEq

/-- What a record file holds. -/
structure StoredContinuation extends ChecksumBody where
  checksum : String
  deriving DecidableEq

/-- `serde_json` on stored continuations. -/
class ContinuationSerde where
  /-- `to_vec` of a stored continuation. -/
  storedToVec : StoredContinuation → Except String (List UInt8)
  /-- `from_slice` to a stored continuation. -/
  storedFromSlice : List UInt8 → Except String StoredContinuation
  /-- `to_vec` of a checksum body. -/
  bodyToVec : ChecksumBody → Except String (List UInt8)

/-- Whether a byte may occur in a portable identifier. -/
def isIdByte (byte : UInt8) : Bool :=
  let character := Char.ofNat byte.toNat
  isAsciiAlphanumeric character || character == '-' || character == '_'

/-- Whether an identifier is a safe file name. -/
def isContinuationId (id : String) : Bool :=
  !id.isEmpty && id.utf8ByteSize ≤ 128 && (utf8Bytes id.toList).all isIdByte

/-- Validates an identifier. -/
def validateContinuationId (id : String) : Except ContinuationDependencyError Unit :=
  refuseIf (¬ isContinuationId id) .invalidId

/-- The file of a continuation. -/
def recordName (id : String) : String := id ++ ".json"

/-- The file that a new version of a continuation is written to. -/
def temporaryName (id : String) : String := id ++ ".tmp"

/-- An operation on the continuation directories of the sessions. -/
abbrev ContinuationFiling (α : Type) := Filing String ContinuationDependencyError α

section Store

variable [ContinuationSerde] [Hashing]

/-- The checksum of a record file. -/
def ChecksumBody.calculateChecksum (body : ChecksumBody) :
    Except ContinuationDependencyError String := do
  let bytes ← (ContinuationSerde.bodyToVec body).mapError .serialization
  return (Hashing.digest bytes).toHex

/-- What the file of a record holds. -/
def StoredContinuation.fromRecord (record : DependencyContinuationRecord) :
    Except ContinuationDependencyError StoredContinuation := do
  validateContinuationId record.id
  validateContinuationId record.sessionId
  let body : ChecksumBody := ⟨continuationSchemaVersion, record.sessionId, record.id, record.state,
    record.wakeConditionJson, record.payloadJson, record.expiresAtMillis⟩
  let checksum ← body.calculateChecksum
  return ⟨body, checksum⟩

/-- The bytes of a record file. -/
def StoredContinuation.encode (stored : StoredContinuation) :
    Except ContinuationDependencyError (List UInt8) :=
  (ContinuationSerde.storedToVec stored).mapError .serialization

/-- The record that a file holds, where it is the expected one. -/
def StoredContinuation.verify (stored : StoredContinuation) (expectedSessionId expectedId : String) :
    Except ContinuationDependencyError DependencyContinuationRecord := do
  refuseIf (stored.schemaVersion ≠ continuationSchemaVersion)
    (.unsupportedSchema stored.schemaVersion)
  refuseIf (stored.sessionId ≠ expectedSessionId ∨ stored.id ≠ expectedId) .integrity
  let checksum ← stored.calculateChecksum
  refuseIf (stored.checksum ≠ checksum) .integrity
  return ⟨stored.sessionId, stored.id, stored.state, stored.wakeConditionJson, stored.payloadJson,
    stored.expiresAtMillis⟩

/-- The bytes that a record is stored as. -/
def encodeRecord (record : DependencyContinuationRecord) :
    Except ContinuationDependencyError (List UInt8) := do
  let stored ← StoredContinuation.fromRecord record
  stored.encode

/-- The record that the bytes of a file hold. -/
def decodeRecord (sessionId id : String) (bytes : List UInt8) :
    Except ContinuationDependencyError DependencyContinuationRecord := do
  refuseIf (maxRecordBytes < bytes.length) (.recordTooLarge bytes.length)
  let stored ← (ContinuationSerde.storedFromSlice bytes).mapError .serialization
  stored.verify sessionId id

/-- Validates the identifiers in front of an operation on one continuation, which is locked. -/
def withLock {α : Type} (sessionId id : String) (operation : ContinuationFiling α) :
    ContinuationFiling α := do
  .ofExcept (validateContinuationId sessionId)
  .ofExcept (validateContinuationId id)
  operation

/-- Reads and verifies the record of a continuation. -/
def readRecord (sessionId id : String) : ContinuationFiling DependencyContinuationRecord := do
  .ofExcept (validateContinuationId id)
  .ofExcept (validateContinuationId sessionId)
  let disk ← .read
  let bytes ← .ofExcept (okOr (disk sessionId)[recordName id]? (.notFound id))
  .ofExcept (decodeRecord sessionId id bytes)

/-- Creates the file of a record, which must not exist. -/
def writeNew (record : DependencyContinuationRecord) : ContinuationFiling Unit := do
  let bytes ← .ofExcept (encodeRecord record)
  let disk ← .read
  .ofExcept (refuseIf ((disk record.sessionId).contains (recordName record.id))
    (.alreadyExists record.id))
  .perform (.save record.sessionId (recordName record.id) bytes)

/-- Replaces the file of a record by a temporary one that holds the new version. -/
def replaceRecord (record : DependencyContinuationRecord) : ContinuationFiling Unit := do
  let bytes ← .ofExcept (encodeRecord record)
  .perform (.save record.sessionId (temporaryName record.id) bytes)
  .perform (.rename record.sessionId (temporaryName record.id) (recordName record.id))

/-- Creates a new pending continuation without overwriting an existing one. -/
def createContinuation (record : DependencyContinuationRecord) : ContinuationFiling Unit := do
  .ofExcept (refuseIf (record.state ≠ .pending) .invalidInitialState)
  .ofExcept (validateContinuationId record.sessionId)
  withLock record.sessionId record.id do
    let disk ← .read
    if (disk record.sessionId).contains (recordName record.id) then
      let existing ← readRecord record.sessionId record.id
      .ofExcept (refuseIf (existing ≠ record) (.alreadyExists record.id))
    else writeNew record

/-- Loads a continuation. -/
def loadContinuation (sessionId id : String) : ContinuationFiling DependencyContinuationRecord :=
  withLock sessionId id (readRecord sessionId id)

/-- Transitions a continuation if it still has the expected state. -/
def transitionContinuation (request : DependencyTransitionContinuationRequest) :
    ContinuationFiling DependencyTransitionContinuationResponse := do
  .ofExcept (refuseIf (request.expected ≠ .pending ∨ request.target = .pending) .invalidTransition)
  .ofExcept (validateContinuationId request.sessionId)
  withLock request.sessionId request.id do
    let record ← readRecord request.sessionId request.id
    if record.state = request.target then
      return ⟨false, record.state, record.payloadJson⟩
    else do
      .ofExcept (refuseIf (record.state ≠ request.expected)
        (.stateConflict record.state request.target))
      replaceRecord { record with state := request.target }
      return ⟨true, request.target, record.payloadJson⟩

end Store

/-- State of a continuation in memory. -/
inductive ContinuationState where
  | pending
  | resumed
  | cancelled
  | expired
  deriving DecidableEq, Repr

/-- The raw value of a state. -/
def ContinuationState.asRaw : ContinuationState → UInt8
  | .pending => 0
  | .resumed => 1
  | .cancelled => 2
  | .expired => 3

/-- The state of a raw value. -/
def ContinuationState.fromRaw (value : UInt8) : ContinuationState :=
  if value = 1 then .resumed else if value = 2 then .cancelled else if value = 3 then .expired
  else .pending

/-- Shared atomic resume-once gate. -/
structure ResumeOnce where
  state : UInt8
  deriving DecidableEq

/-- Invalid transition of a gate. -/
inductive ContinuationTransitionError where
  | alreadyTerminal (current requested : ContinuationState)
  deriving DecidableEq, Repr

/-- A gate restored from durable state. -/
def ResumeOnce.fromState (state : ContinuationState) : ResumeOnce := ⟨state.asRaw⟩

/-- Moves a pending gate to the target, by one `compare_exchange`. -/
def ResumeOnce.transition (target : ContinuationState) :
    Updating ResumeOnce ContinuationTransitionError Unit := do
  let gate ← get
  if gate.state = ContinuationState.pending.asRaw then set (⟨target.asRaw⟩ : ResumeOnce)
  else throw (.alreadyTerminal (.fromRaw gate.state) target)

/-- The state in memory of a durable state. -/
def DependencyContinuationState.core : DependencyContinuationState → ContinuationState
  | .pending => .pending
  | .resumed => .resumed
  | .cancelled => .cancelled
  | .expired => .expired

/-- What the store relies on: stored continuations and checksum bodies print, a printed continuation
is read back, and no proper beginning of it is read as one. -/
structure LawfulContinuations [ContinuationSerde] : Prop where
  bodies : ∀ body, ∃ bytes, ContinuationSerde.bodyToVec body = .ok bytes
  prints : ∀ stored, ∃ bytes, ContinuationSerde.storedToVec stored = .ok bytes
  reads : ∀ stored bytes, ContinuationSerde.storedToVec stored = .ok bytes →
    ContinuationSerde.storedFromSlice bytes = .ok stored
  torn : ∀ stored bytes part, ContinuationSerde.storedToVec stored = .ok bytes → part <+: bytes →
    part ≠ bytes → ∃ detail, ContinuationSerde.storedFromSlice part = .error detail

/-- The content of a continuation's file. -/
def recordContent (disk : Disk String) (sessionId id : String) : Option (List UInt8) :=
  (disk sessionId)[recordName id]?

/-- A record that can be created: it is pending, and its identifiers are valid. -/
structure DependencyContinuationRecord.Creatable (record : DependencyContinuationRecord) : Prop where
  pending : record.state = .pending
  sessionId : isContinuationId record.sessionId
  id : isContinuationId record.id

section Runs

variable [ContinuationSerde] [Hashing]

/-- A record is loaded from a disk. -/
def Loads (disk : Disk String) (record : DependencyContinuationRecord) : Prop :=
  (loadContinuation record.sessionId record.id).run disk = (.ok record, disk)

/-- A record is created on a disk, and is loaded from the disk that this leaves. -/
def CreatesLoadable (disk : Disk String) (record : DependencyContinuationRecord) : Prop :=
  ∃ next, (createContinuation record).run disk = (.ok (), next) ∧ Loads next record

/-- A request to the store. -/
inductive ContinuationRequest where
  | create (record : DependencyContinuationRecord)
  | load (sessionId id : String)
  | transition (request : DependencyTransitionContinuationRequest)

/-- What the store answers to a request. -/
inductive ContinuationAnswer where
  | created
  | loaded (record : DependencyContinuationRecord)
  | transitioned (response : DependencyTransitionContinuationResponse)
  | rejected (error : ContinuationDependencyError)
  deriving DecidableEq

/-- The continuation that a request is about. -/
def ContinuationRequest.key : ContinuationRequest → String × String
  | .create record => (record.sessionId, record.id)
  | .load sessionId id => (sessionId, id)
  | .transition request => (request.sessionId, request.id)

/-- The answer of an operation, and the disk that it leaves. -/
def answer {α : Type} (accept : α → ContinuationAnswer) :
    Except ContinuationDependencyError α × Disk String → ContinuationAnswer × Disk String
  | (.ok value, disk) => (accept value, disk)
  | (.error error, disk) => (.rejected error, disk)

/-- The store serves a request. -/
def serve : ContinuationRequest → Disk String → ContinuationAnswer × Disk String
  | .create record, disk => answer (fun _ => .created) ((createContinuation record).run disk)
  | .load sessionId id, disk => answer .loaded ((loadContinuation sessionId id).run disk)
  | .transition request, disk => answer .transitioned ((transitionContinuation request).run disk)

/-- A request with its answer. -/
abbrev Served := ContinuationRequest × ContinuationAnswer

/-- The store serves a request, and this leads from one disk to the next. -/
def Serves (disk : Disk String) (served : Served) (next : Disk String) : Prop :=
  serve served.1 disk = (served.2, next)

/-- The record of the first accepted create of a continuation. -/
def firstCreated (key : String × String) : List Served → Option DependencyContinuationRecord
  | [] => none
  | (.create record, .created) :: rest =>
    if (record.sessionId, record.id) = key then some record else firstCreated key rest
  | _ :: rest => firstCreated key rest

/-- Whether a request changed the state of a continuation. -/
def transitions (key : String × String) : Served → Bool
  | (.transition request, .transitioned response) =>
    (request.sessionId, request.id) == key && response.transitioned
  | _ => false

end Runs

section Sample

attribute [local instance] prefixHash

/-- A state as a byte. -/
def stateByte (state : DependencyContinuationState) : UInt8 := state.core.asRaw

/-- The state of a byte. -/
def parseState (byte : UInt8) : DependencyContinuationState :=
  if byte = 1 then .resumed else if byte = 2 then .cancelled else if byte = 3 then .expired
  else .pending

theorem parseState_stateByte (state : DependencyContinuationState) :
    parseState (stateByte state) = state := by
  cases state <;> rfl

/-- How the sample writes stored continuations. -/
def storedCodec : SegmentCodec StoredContinuation where
  count := 8
  segments stored := [countSegment stored.schemaVersion, textSegment stored.sessionId,
    textSegment stored.id, [stateByte stored.state], stored.wakeConditionJson, stored.payloadJson,
    instantSegment stored.expiresAtMillis, textSegment stored.checksum]
  parse
    | [version, sessionId, id, [state], wake, payload, expires, checksum] =>
      some ⟨⟨version.length, parseText sessionId, parseText id, parseState state, wake, payload,
        parseInstant expires⟩, parseText checksum⟩
    | _ => none
  length _ := rfl
  parses stored := by simp [countSegment, parseState_stateByte]

/-- A serializer for stored continuations. -/
abbrev segmentedContinuations : ContinuationSerde where
  storedToVec := storedCodec.toVec
  storedFromSlice := storedCodec.fromSlice
  bodyToVec _ := .ok []

attribute [local instance] segmentedContinuations

/-- A pending continuation. -/
def sampleContinuation : DependencyContinuationRecord where
  sessionId := "session_1"
  id := "approval_1"
  state := .pending
  wakeConditionJson := [123, 125]
  payloadJson := [123, 125]
  expiresAtMillis := none

/-- The same continuation behind its resumption. -/
def resumedContinuation : DependencyContinuationRecord :=
  { sampleContinuation with state := .resumed }

/-- The bytes that a record of the sample is stored as. -/
def sampleRecordBytes (record : DependencyContinuationRecord) : List UInt8 :=
  encodeSegments (storedCodec.segments ⟨⟨continuationSchemaVersion, record.sessionId, record.id,
    record.state, record.wakeConditionJson, record.payloadJson, record.expiresAtMillis⟩,
    (Hashing.digest []).toHex⟩)

/-- A disk without continuations. -/
def emptyDisk : Disk String := fun _ => ∅

end Sample

end AgentMod
