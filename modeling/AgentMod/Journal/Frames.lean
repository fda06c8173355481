import AgentMod.Expression.Syntax
import AgentMod.Graph.Sample
import AgentMod.Library.Lines
import AgentMod.Library.Run
import AgentMod.Primitives.Collections
import AgentMod.Primitives.Text

/-! The checksummed JSONL journal: its frames, its scan, its appends, its tail recovery, and what it is for. -/

namespace AgentMod

/-- The byte that ends a frame. -/
def newline : UInt8 := 10

/-- The largest value of the counters, which are 64 bits wide. -/
def maxCounter : Nat := 2 ^ 64 - 1

/-- Journal adapter failure. -/
inductive JournalDependencyError where
  | io (detail : String)
  | json (detail : String)
  | invalidEventJson (detail : String)
  | sequenceMismatch (expected actual : Nat)
  | headEventIdMismatch (expected : String) (actual : Option String)
  | duplicateEventId (eventId : String)
  | invalidTrailingRecord (offset : Nat)
  | corruptRecord (offset : Nat) (reason : String)
  | interiorCorruption (offset : Nat)
  | invalidQuarantineLabel
  | sequenceOverflow
  | lengthOverflow
  deriving DecidableEq, Repr

/-- A journal operation that touches no file. -/
abbrev Journaling (α : Type) := Except JournalDependencyError α

/-- One line of the journal. -/
structure StoredFrame where
  sequence : Nat
  eventId : String
  previousChecksum : Option String
  checksum : String
  payloadBytes : Nat
  event : Json

/-- Verified record returned from a scan. -/
structure DependencyJournalRecord where
  sequence : Nat
  eventId : String
  checksum : String
  previousChecksum : Option String
  eventJson : List UInt8
  offset : Nat
  deriving DecidableEq

/-- Verified scan result. -/
structure DependencyScanJournalResponse where
  records : List DependencyJournalRecord
  validBytes : Nat
  deriving DecidableEq

/-- `serde_json` on frames, event values and checksum material. -/
class JournalSerde where
  /-- `from_slice` to a frame. -/
  frameFromSlice : List UInt8 → Except String StoredFrame
  /-- `to_vec` of a frame. -/
  frameToVec : StoredFrame → Except String (List UInt8)
  /-- `from_slice` to a value. -/
  valueFromSlice : List UInt8 → Except String Json
  /-- `to_vec` of a value. -/
  valueToVec : Json → Except String (List UInt8)
  /-- `to_vec` of the checksum material. -/
  materialToVec : Nat → String → Option String → Json → Except String (List UInt8)

section Frames

variable [JournalSerde] [Hashing]

/-- The checksum of a logical record. -/
def checksumRecord (sequence : Nat) (eventId : String) (previousChecksum : Option String)
    (event : Json) : Journaling String := do
  let bytes ← (JournalSerde.materialToVec sequence eventId previousChecksum event).mapError .json
  return (Hashing.digest bytes).toHex

/-- Validates a frame against the valid prefix in front of it. -/
def validateStoredFrame (stored : StoredFrame) (expectedSequence : Nat)
    (expectedPrevious : Option String) (offset : Nat) : Journaling Unit := do
  refuseIf (stored.sequence ≠ expectedSequence) (.corruptRecord offset
    ("expected sequence " ++ toString expectedSequence ++ ", found " ++ toString stored.sequence))
  refuseIf (stored.previousChecksum ≠ expectedPrevious)
    (.corruptRecord offset "previous checksum does not match the valid prefix")
  let expected ← checksumRecord stored.sequence stored.eventId stored.previousChecksum stored.event
  refuseIf (stored.checksum ≠ expected) (.corruptRecord offset "record checksum mismatch")

/-- `u64::checked_add` and `usize::checked_add`. -/
def checkedAdd (left right : Nat) (overflow : JournalDependencyError) : Journaling Nat :=
  if left + right ≤ maxCounter then .ok (left + right) else .error overflow

/-- What a scan has read so far. -/
structure ScanState where
  records : List DependencyJournalRecord
  validBytes : Nat
  expectedSequence : Nat
  previousChecksum : Option String
  eventIds : StringSet

/-- The scan before its first line. -/
def ScanState.initial : ScanState := ⟨[], 0, 1, none, ∅⟩

/-- Reads one line of a scan. -/
def scanLine (state : ScanState) (line : List UInt8) : Journaling ScanState := do
  let lineStart := state.validBytes
  refuseIf (line.getLast? ≠ some newline) (.invalidTrailingRecord lineStart)
  let stored ← (JournalSerde.frameFromSlice line.dropLast).mapError (.corruptRecord lineStart)
  validateStoredFrame stored state.expectedSequence state.previousChecksum lineStart
  refuseIf (state.eventIds.contains stored.eventId) (.duplicateEventId stored.eventId)
  let eventJson ← (JournalSerde.valueToVec stored.event).mapError .json
  let expectedSequence ← checkedAdd state.expectedSequence 1 .sequenceOverflow
  let validBytes ← checkedAdd state.validBytes line.length .lengthOverflow
  return {
    records := state.records ++ [⟨stored.sequence, stored.eventId, stored.checksum,
      stored.previousChecksum, eventJson, lineStart⟩]
    validBytes
    expectedSequence
    previousChecksum := some stored.checksum
    eventIds := state.eventIds.insert stored.eventId }

/-- Reads lines up to the end of the bytes; `line` is what `read_until` has buffered. -/
def scanFrom (state : ScanState) (line : List UInt8) : List UInt8 → Journaling ScanState
  | [] => if line = [] then .ok state else scanLine state line
  | byte :: rest =>
    if byte = newline then do
      let next ← scanLine state (line ++ [byte])
      scanFrom next [] rest
    else scanFrom state (line ++ [byte]) rest

/-- Reads and validates a complete journal. -/
def scanReader (bytes : List UInt8) : Journaling DependencyScanJournalResponse := do
  let state ← scanFrom .initial [] bytes
  refuseIf (state.validBytes ≠ bytes.length) (.invalidTrailingRecord state.validBytes)
  return ⟨state.records, state.validBytes⟩

/-- What the location of an invalid tail has passed so far. -/
structure TailState where
  offset : Nat
  expectedSequence : Nat
  previousChecksum : Option String
  eventIds : StringSet

/-- The location before its first line. -/
def TailState.initial : TailState := ⟨0, 1, none, ∅⟩

/-- The frame of a line, where it is valid behind the lines before. -/
def TailState.valid (state : TailState) (content : List UInt8) : Option StoredFrame :=
  match JournalSerde.frameFromSlice content with
  | .error _ => none
  | .ok stored =>
    if (validateStoredFrame stored state.expectedSequence state.previousChecksum
        (min state.offset maxCounter)).isOk ∧ ¬ state.eventIds.contains stored.eventId then
      some stored
    else none

/-- The content of a line: all but its newline, where it has one. -/
def lineContent (line : List UInt8) : List UInt8 :=
  if line.getLast? = some newline then line.dropLast else line

/-- Goes through the lines up to the first that is not terminated or not valid. -/
def locateFrom (state : TailState) : List (List UInt8) → Journaling (Option Nat)
  | [] => .ok none
  | line :: rest =>
    match if line.getLast? = some newline then state.valid (lineContent line) else none with
    | none =>
      if rest = [] then .ok (some state.offset)
      else if state.offset ≤ maxCounter then .error (.interiorCorruption state.offset)
      else .error .lengthOverflow
    | some stored => do
      let expectedSequence ← checkedAdd state.expectedSequence 1 .sequenceOverflow
      let offset ← checkedAdd state.offset line.length .lengthOverflow
      locateFrom ⟨offset, expectedSequence, some stored.checksum,
        state.eventIds.insert stored.eventId⟩ rest

/-- The offset of an invalid final line; an invalid line in front of others is corruption. -/
def locateInvalidTail (bytes : List UInt8) : Journaling (Option Nat) :=
  locateFrom .initial (splitInclusive newline bytes)

end Frames

/-- The files of one session that the journal uses. -/
structure SessionDirectory where
  /-- The bytes of `events.jsonl`, where it exists. -/
  journal : Option (List UInt8)
  /-- The files under `quarantine`, by their name. -/
  quarantine : StringMap (List UInt8)

/-- A journal operation on the files of a session. -/
abbrev JournalOperation (α : Type) := Updating SessionDirectory JournalDependencyError α

/-- Append request; its lengths and its sequence are 64-bit values. -/
structure DependencyAppendJournalRequest where
  sequence : Nat
  expectedHeadEventId : Option String
  eventId : String
  eventJson : List UInt8
  sequenceFits : sequence ≤ maxCounter
  lengthFits : eventJson.length ≤ maxCounter

/-- Successful append response. -/
structure DependencyAppendJournalResponse where
  offset : Nat
  checksum : String
  journalBytes : Nat
  deriving DecidableEq

/-- Tail recovery result. -/
structure DependencyRecoverJournalResponse where
  repaired : Bool
  validBytes : Nat
  quarantinePath : Option String
  deriving DecidableEq

/-- Opens the journal for writing and returns its bytes; an absent journal is created empty. -/
def openJournal : JournalOperation (List UInt8) := do
  let directory ← get
  let bytes := directory.journal.getD []
  set { directory with journal := some bytes }
  return bytes

/-- Writes data over the bytes at an offset. -/
def writeAt (bytes : List UInt8) (offset : Nat) (data : List UInt8) : List UInt8 :=
  bytes.take offset ++ data ++ bytes.drop (offset + data.length)

/-- Creates a quarantine file, which must not exist. -/
def writeNewFile (name : String) (content : List UInt8) : JournalOperation Unit := do
  let directory ← get
  if directory.quarantine.contains name then throw (.io "file exists")
  set { directory with quarantine := directory.quarantine.insert name content }

section Operations

variable [JournalSerde] [Hashing]

/-- The frame that an append adds behind the scanned records, with its encoding. -/
def nextFrame (request : DependencyAppendJournalRequest) (scan : DependencyScanJournalResponse) :
    Journaling (StoredFrame × List UInt8) := do
  let last := scan.records.getLast?
  let expected := (last.map fun record => min (record.sequence + 1) maxCounter).getD 1
  refuseIf (request.sequence ≠ expected) (.sequenceMismatch expected request.sequence)
  forM request.expectedHeadEventId.toList fun expectedHead =>
    refuseIf (last.map DependencyJournalRecord.eventId ≠ some expectedHead)
      (.headEventIdMismatch expectedHead (last.map DependencyJournalRecord.eventId))
  refuseIf (scan.records.any fun record => record.eventId == request.eventId)
    (.duplicateEventId request.eventId)
  let event ← (JournalSerde.valueFromSlice request.eventJson).mapError .invalidEventJson
  let previousChecksum := last.map DependencyJournalRecord.checksum
  let checksum ← checksumRecord request.sequence request.eventId previousChecksum event
  let frame := ⟨request.sequence, request.eventId, previousChecksum, checksum,
    request.eventJson.length, event⟩
  let encoded ← (JournalSerde.frameToVec frame).mapError .json
  return (frame, encoded ++ [newline])

/-- Appends a complete checksummed frame. -/
def append (request : DependencyAppendJournalRequest) :
    JournalOperation DependencyAppendJournalResponse := do
  if request.sequence = 0 then throw (.sequenceMismatch 1 0)
  let bytes ← openJournal
  let scan ← .ofExcept (scanReader bytes)
  let (frame, encoded) ← .ofExcept (nextFrame request scan)
  let offset := scan.validBytes
  modify fun directory => { directory with journal := some (writeAt bytes offset encoded) }
  let journalBytes ← .ofExcept (checkedAdd offset encoded.length .lengthOverflow)
  return ⟨offset, frame.checksum, journalBytes⟩

/-- Reads and validates the journal of a session without modifying it. -/
def SessionDirectory.scan (directory : SessionDirectory) :
    Journaling DependencyScanJournalResponse :=
  match directory.journal with
  | none => .ok ⟨[], 0⟩
  | some bytes => scanReader bytes

/-- The labels that quarantine files may carry. -/
def isQuarantineLabel (label : String) : Bool :=
  !label.isEmpty && (utf8Bytes label.toList).all fun byte =>
    let character := Char.ofNat byte.toNat
    isAsciiAlphanumeric character || character == '-' || character == '_'

/-- The name of the quarantine file for a label. -/
def quarantineName (label : String) : String :=
  "events-tail-" ++ label ++ ".bin"

/-- Quarantines and truncates an invalid final record only. -/
def recoverTail (quarantineLabel : String) : JournalOperation DependencyRecoverJournalResponse := do
  if !isQuarantineLabel quarantineLabel then throw .invalidQuarantineLabel
  let directory ← get
  match directory.journal with
  | none => return ⟨false, 0, none⟩
  | some bytes =>
    match ← .ofExcept (locateInvalidTail bytes) with
    | none =>
      let validBytes ← .ofExcept (checkedAdd bytes.length 0 .lengthOverflow)
      return ⟨false, validBytes, none⟩
    | some validLength =>
      writeNewFile (quarantineName quarantineLabel) (bytes.drop validLength)
      let kept ← .ofExcept (checkedAdd validLength 0 .lengthOverflow)
      modify fun directory => { directory with journal := some (bytes.take kept) }
      return ⟨true, kept, some (quarantineName quarantineLabel)⟩

end Operations

/-- A record holds what a line of the journal stores. -/
def Decodes [JournalSerde] (line : List UInt8) (record : DependencyJournalRecord) : Prop :=
  ∃ stored eventJson, JournalSerde.frameFromSlice line.dropLast = .ok stored ∧
    JournalSerde.valueToVec stored.event = .ok eventJson ∧
    record = ⟨stored.sequence, stored.eventId, stored.checksum, stored.previousChecksum, eventJson,
      record.offset⟩

/-- Whether printing a value always succeeds. -/
def PrintsValues [JournalSerde] : Prop :=
  ∀ value, ∃ bytes, JournalSerde.valueToVec value = .ok bytes

/-- What the journal relies on: values and checksum material print, a printed frame is some text on
one line, and parsing it gives the frame back. -/
structure LawfulJournal [JournalSerde] : Prop where
  values : PrintsValues
  materials : ∀ sequence eventId previousChecksum event, ∃ bytes,
    JournalSerde.materialToVec sequence eventId previousChecksum event = .ok bytes
  frames : ∀ (frame : StoredFrame) (bytes : List UInt8), frame.sequence ≤ maxCounter →
    frame.payloadBytes ≤ maxCounter → JournalSerde.frameToVec frame = .ok bytes →
      bytes ≠ [] ∧ newline ∉ bytes ∧ JournalSerde.frameFromSlice bytes = .ok frame

/-- The bytes of the journal, where an absent journal has none. -/
def SessionDirectory.bytes (directory : SessionDirectory) : List UInt8 :=
  directory.journal.getD []

section Runs

variable [JournalSerde] [Hashing]

/-- A successful append with its response. -/
abbrev Appended := DependencyAppendJournalRequest × DependencyAppendJournalResponse

/-- An append succeeds and leads from one directory to the next. -/
def Appends (directory : SessionDirectory) (appended : Appended) (next : SessionDirectory) : Prop :=
  (append appended.1).apply directory = (.ok appended.2, next)

/-- What identifies an appended event. -/
def Appended.key (appended : Appended) : Nat × String := (appended.1.sequence, appended.1.eventId)

/-- What identifies a recorded event. -/
def DependencyJournalRecord.key (record : DependencyJournalRecord) : Nat × String :=
  (record.sequence, record.eventId)

/-- A crash while an append writes its frame leaves some first bytes of the frame in the journal. -/
structure CrashesDuring (directory finished crashed : SessionDirectory)
    (encoded cut : List UInt8) : Prop where
  writes : finished.bytes = directory.bytes ++ encoded
  isCut : cut <+: encoded
  left : crashed = { directory with journal := some (directory.bytes ++ cut) }

/-- The next append is admissible behind the given ones: it follows their sequence, repeats no event,
expects the head that is there, carries JSON, and its frame prints and fits into the file. -/
structure Follows (appended : List Appended) (scan : DependencyScanJournalResponse)
    (request : DependencyAppendJournalRequest) : Prop where
  sequence : request.sequence = appended.length + 1
  fresh : ∀ earlier ∈ appended, earlier.1.eventId ≠ request.eventId
  head : ∀ expected, request.expectedHeadEventId = some expected →
    appended.getLast?.map (fun last => last.1.eventId) = some expected
  json : ∃ event, JournalSerde.valueFromSlice request.eventJson = .ok event
  prints : ∀ frame : StoredFrame, frame.sequence = request.sequence →
    frame.eventId = request.eventId → ∃ bytes, JournalSerde.frameToVec frame = .ok bytes
  fits : ∀ frame encoded, nextFrame request scan = .ok (frame, encoded) →
    scan.validBytes + encoded.length ≤ maxCounter

/-- What recovery achieves behind a crash: the journal holds the frames that were fully written, a
torn one is in quarantine, a scan returns the written events, and further events can be appended. -/
structure Recovers (crashed recovered : SessionDirectory) (label : String)
    (written torn : List UInt8) (appended : List Appended)
    (outcome : DependencyRecoverJournalResponse) : Prop where
  kept : recovered.journal = some written
  reported : outcome.repaired = decide (torn ≠ []) ∧ outcome.validBytes = written.length
  quarantined : recovered.quarantine = if torn = [] then crashed.quarantine
    else crashed.quarantine.insert (quarantineName label) torn
  scans : ∃ scan, recovered.scan = .ok scan ∧ scan.validBytes = written.length ∧
    scan.records.map DependencyJournalRecord.key = appended.map Appended.key ∧
    ∀ request, Follows appended scan request →
      ∃ response next, Appends recovered (request, response) next

end Runs

section Sample

attribute [local instance] prefixHash

/-- The checksum of every frame of the sample. -/
def sampleChecksum : String := (Hashing.digest []).toHex

/-- The event of the sample with a sequence number. -/
def sampleEventId (sequence : Nat) : String := .ofList (List.replicate sequence 'e')

/-- The checksum that the sample expects in front of a frame. -/
def samplePrevious (sequence : Nat) : Option String :=
  if sequence = 1 then none else some sampleChecksum

/-- The frame of the sample with a sequence number. -/
def sampleFrame (sequence : Nat) : StoredFrame :=
  ⟨sequence, sampleEventId sequence, samplePrevious sequence, sampleChecksum, 4, .null⟩

/-- A serializer for the sample's frames, which prints a frame as its sequence number in unary. -/
abbrev plainJournal : JournalSerde where
  frameFromSlice bytes := .ok (sampleFrame bytes.length)
  frameToVec frame :=
    match frame.event with
    | .null =>
      if frame.sequence ≠ 0 ∧ frame.eventId = sampleEventId frame.sequence ∧
          frame.previousChecksum = samplePrevious frame.sequence ∧
          frame.checksum = sampleChecksum ∧ frame.payloadBytes = 4 then
        .ok (List.replicate frame.sequence 49)
      else .error "unknown frame"
    | _ => .error "unknown event"
  valueFromSlice _ := .ok .null
  valueToVec _ := .ok [110, 117, 108, 108]
  materialToVec _ _ _ _ := .ok []

attribute [local instance] plainJournal

/-- The request that appends an event of the sample. -/
def sampleRequest (sequence : Nat) (fits : sequence ≤ maxCounter) :
    DependencyAppendJournalRequest where
  sequence
  expectedHeadEventId := none
  eventId := sampleEventId sequence
  eventJson := [110, 117, 108, 108]
  sequenceFits := fits
  lengthFits := by decide

/-- A session without a journal. -/
def sampleEmpty : SessionDirectory := ⟨none, ∅⟩

/-- The sample's journal with one frame. -/
def sampleOne : SessionDirectory := ⟨some [49, newline], ∅⟩

/-- The sample's journal with two frames. -/
def sampleTwo : SessionDirectory := ⟨some [49, newline, 49, 49, newline], ∅⟩

/-- The sample's journal behind a crash in the middle of its second frame. -/
def sampleCrashed : SessionDirectory := ⟨some [49, newline, 49], ∅⟩

end Sample

end AgentMod
