import AgentMod.Library.Files
import AgentMod.Library.Lines
import AgentMod.Library.Run
import AgentMod.Primitives.Text
import Mathlib.Data.List.Infix

/-! The file memory store: appended records, the repair of a torn tail, and crashes within both. -/

namespace AgentMod

/-- Failures of the memory store. -/
inductive MemoryDependencyError where
  | invalidInput
  | invalidLimit
  | contentTooLarge
  | corruptRecord
  deriving DecidableEq, Repr

/-- `DependencyMemoryWriteRequest`. -/
structure DependencyMemoryWriteRequest where
  scope : String
  source : String
  content : String
  createdAtMillis : Int64
  deriving DecidableEq

/-- `StoredFileRecord`. -/
structure StoredFileRecord where
  schemaVersion : Nat
  id : String
  scope : String
  source : String
  content : String
  createdAtMillis : Int64
  checksum : String
  deriving DecidableEq

/-- `DependencyMemoryWriteResponse`. -/
structure DependencyMemoryWriteResponse where
  id : String
  retained : Bool
  deriving DecidableEq

/-- `DependencyMemoryQueryRequest`. -/
structure DependencyMemoryQueryRequest where
  scope : String
  query : String
  limit : Nat

/-- `DependencyMemoryItem`; all scores of a query are hits among equally many terms. -/
structure DependencyMemoryItem where
  id : String
  scope : String
  source : String
  content : String
  hits : Nat
  terms : Nat
  createdAtMillis : Int64
  deriving DecidableEq

/-- How records are written and read, and what is computed of them. -/
class MemoryLibrary where
  /-- `serde_json::to_vec` of a record. -/
  encode : StoredFileRecord → List UInt8
  /-- `serde_json::from_slice` to a record. -/
  decode : List UInt8 → Option StoredFileRecord
  /-- The bytes that the checksum of a record is computed of: all of its fields but the checksum. -/
  checksumBytes : Nat → String → String → String → String → Int64 → List UInt8
  /-- The bytes that the identifier of a record is computed of. -/
  identityBytes : DependencyMemoryWriteRequest → List UInt8
  /-- `blake3::hash`, in hexadecimal digits. -/
  digest : List UInt8 → String
  /-- The UUID of the first sixteen bytes of a hash. -/
  uuidOf : List UInt8 → String
  isUuid : String → Bool
  isAlphanumeric : Char → Bool
  toLowercase : String → String

section Records

variable [MemoryLibrary]

/-- `RECORD_LIMIT`. -/
def recordLimit : Nat := 1024 * 1024

/-- `StoredFileRecord::expected_checksum`. -/
def StoredFileRecord.expectedChecksum (record : StoredFileRecord) : String :=
  MemoryLibrary.digest (MemoryLibrary.checksumBytes record.schemaVersion record.id record.scope record.source
    record.content record.createdAtMillis)

/-- `StoredFileRecord::seal`. -/
def StoredFileRecord.seal (record : StoredFileRecord) : StoredFileRecord :=
  { record with checksum := record.expectedChecksum }

/-- `StoredFileRecord::verify`. -/
def StoredFileRecord.verify (record : StoredFileRecord) : Bool :=
  record.schemaVersion == 1 && MemoryLibrary.isUuid record.id && record.checksum == record.expectedChecksum

/-- `memory_record_id`. -/
def memoryRecordId (request : DependencyMemoryWriteRequest) : String :=
  MemoryLibrary.uuidOf (MemoryLibrary.identityBytes request)

/-- The record that a request is stored as. -/
def DependencyMemoryWriteRequest.record (request : DependencyMemoryWriteRequest) : StoredFileRecord :=
  StoredFileRecord.seal ⟨1, memoryRecordId request, request.scope, request.source, request.content,
    request.createdAtMillis, ""⟩

/-- `validate_write`. -/
def validateWrite (request : DependencyMemoryWriteRequest) : Except MemoryDependencyError Unit := do
  refuseIf (request.scope.isEmpty ∨ request.source.isEmpty ∨ isBlank request.content) .invalidInput
  refuseIf (request.content.utf8ByteSize > recordLimit) .contentTooLarge

/-- `validate_query`. -/
def validateQuery (request : DependencyMemoryQueryRequest) : Except MemoryDependencyError Unit := do
  refuseIf (request.scope.isEmpty ∨ isBlank request.query ∨ request.query.utf8ByteSize > 1024 * 1024) .invalidInput
  refuseIf (request.limit = 0 ∨ request.limit > 100) .invalidLimit

/-- `query_terms`. -/
def queryTerms (query : String) : List String :=
  ((query.toList.splitOnP fun character => !MemoryLibrary.isAlphanumeric character).filter (!·.isEmpty)).map fun term =>
    MemoryLibrary.toLowercase (.ofList term)

/-- What a line holds in front of its end: a line feed, and a carriage return before that or in its place. -/
def payload (line : List UInt8) : List UInt8 :=
  let content := if line.getLast? = some 10 then line.dropLast else line
  if content.getLast? = some 13 then content.dropLast else content

/-- A line as `BufRead::lines` returns it: a carriage return stays unless a line feed follows. -/
def lineText (line : List UInt8) : List UInt8 := if line.getLast? = some 10 then payload line else line

/-- A line of the journal as a query and a write read it. -/
def readMemoryRecord (line : List UInt8) : Except MemoryDependencyError StoredFileRecord := do
  refuseIf ((lineText line).length > recordLimit) .corruptRecord
  let record ← okOr (MemoryLibrary.decode (lineText line)) .corruptRecord
  refuseIf (record.verify = false) .corruptRecord
  return record

end Records

section Repairs

/-- What the tail of a journal needs. -/
inductive FileTailRepair where
  | none
  | appendTerminator
  | truncate (validLength : Nat) (invalid : List UInt8)

/-- The journal, if it is there, and the quarantined tails by the names of their files. -/
structure MemoryDisk where
  journal : Option (List UInt8)
  quarantine : Directory

/-- A step on the disk. -/
inductive MemoryStep where
  | openJournal
  | terminate
  | append (record : StoredFileRecord)
  | quarantine (name : String) (invalid : List UInt8)
  | truncate (length : Nat)

variable [MemoryLibrary]

/-- The bytes that a record is appended as. -/
def recordLine (record : StoredFileRecord) : List UInt8 := MemoryLibrary.encode record ++ [10]

/-- The disk with more bytes at the end of the journal. -/
def MemoryDisk.extend (disk : MemoryDisk) (bytes : List UInt8) : MemoryDisk :=
  { disk with journal := some (disk.journal.getD [] ++ bytes) }

/-- The disk behind a step. -/
def MemoryStep.apply (disk : MemoryDisk) : MemoryStep → MemoryDisk
  | openJournal => disk.extend []
  | terminate => disk.extend [10]
  | append record => disk.extend (recordLine record)
  | quarantine name invalid => { disk with quarantine := disk.quarantine.insert name invalid }
  | truncate length => { disk with journal := some ((disk.journal.getD []).take length) }

/-- The disk behind some steps. -/
def applyMemorySteps (steps : List MemoryStep) (disk : MemoryDisk) : MemoryDisk := steps.foldl MemoryStep.apply disk

/-- The loop of `repair_file_tail` over the lines of a journal of some length, behind some valid bytes. -/
def scanTail (length : Nat) : Nat → List (List UInt8) → Except MemoryDependencyError FileTailRepair
  | _, [] => .ok .none
  | validLength, line :: lines =>
    let lineEnd := validLength + line.length
    let terminated := line.getLast? = some 10
    if (payload line).length ≤ recordLimit ∧ (MemoryLibrary.decode (payload line)).any (·.verify) then
      if terminated then scanTail length lineEnd lines
      else if lineEnd ≠ length then .error .corruptRecord
      else .ok .appendTerminator
    else if terminated ∨ lineEnd ≠ length then .error .corruptRecord
    else .ok (.truncate validLength line)

/-- The file that a tail is quarantined in. -/
def memoryTailName (invalid : List UInt8) : String := "memory-tail-" ++ MemoryLibrary.digest invalid ++ ".bin"

/-- `quarantine_memory_tail`: a file that is there has to hold the tail. -/
def quarantineMemoryTail (disk : MemoryDisk) (invalid : List UInt8) : Except MemoryDependencyError (List MemoryStep) :=
  match disk.quarantine[memoryTailName invalid]? with
  | none => .ok [.quarantine (memoryTailName invalid) invalid]
  | some content => if content = invalid then .ok [] else .error .corruptRecord

/-- `repair_file_tail`: the steps that it takes. -/
def repairFileTail (disk : MemoryDisk) : Except MemoryDependencyError (List MemoryStep) := do
  let journal := disk.journal.getD []
  match ← scanTail journal.length 0 (splitInclusive 10 journal) with
  | .none => return []
  | .appendTerminator => return [.terminate]
  | .truncate validLength invalid =>
    let steps ← quarantineMemoryTail disk invalid
    return steps ++ [.truncate validLength]

end Repairs

section Operations

variable [MemoryLibrary]

/-- Whether a record with an identifier is among some lines, up to the first one; it has to be the one of the request. -/
def findExisting (request : DependencyMemoryWriteRequest) : List (List UInt8) → Except MemoryDependencyError Bool
  | [] => .ok false
  | line :: lines => do
    let existing ← readMemoryRecord line
    if existing.id = memoryRecordId request then
      refuseIf (existing.scope ≠ request.scope ∨ existing.source ≠ request.source ∨
        existing.content ≠ request.content ∨ existing.createdAtMillis ≠ request.createdAtMillis) .corruptRecord
      return true
    else findExisting request lines

/-- The records of a journal. -/
def readMemoryRecords (disk : MemoryDisk) : Except MemoryDependencyError (List StoredFileRecord) :=
  (splitInclusive 10 (disk.journal.getD [])).mapM readMemoryRecord

/-- `FileMemoryDependency::write`: what it returns, and the steps that it takes. -/
def FileMemoryDependency.write (request : DependencyMemoryWriteRequest) (disk : MemoryDisk) :
    Except MemoryDependencyError DependencyMemoryWriteResponse × List MemoryStep :=
  match validateWrite request with
  | .error error => (.error error, [])
  | .ok _ =>
    let opened := [MemoryStep.openJournal]
    match repairFileTail (applyMemorySteps opened disk) with
    | .error error => (.error error, opened)
    | .ok repairs =>
      let repaired := opened ++ repairs
      let journal := (applyMemorySteps repaired disk).journal.getD []
      match findExisting request (splitInclusive 10 journal) with
      | .error error => (.error error, repaired)
      | .ok true => (.ok ⟨memoryRecordId request, true⟩, repaired)
      | .ok false =>
        if (MemoryLibrary.encode request.record).length > recordLimit then (.error .contentTooLarge, repaired)
        else (.ok ⟨memoryRecordId request, true⟩, repaired ++ [.append request.record])

/-- The item that a record is for a query, if it matches. -/
def matchRecord (request : DependencyMemoryQueryRequest) (record : StoredFileRecord) : Option DependencyMemoryItem :=
  let terms := queryTerms request.query
  let lowercase := (MemoryLibrary.toLowercase record.content).toList
  let hits := terms.countP fun term => term.toList <:+: lowercase
  if record.scope = request.scope ∧ hits ≠ 0 then
    some ⟨record.id, record.scope, record.source, record.content, hits, terms.length, record.createdAtMillis⟩
  else none

/-- The order of matches: by their scores, then the latest first, then by identifier. -/
def matchesBefore (left right : DependencyMemoryItem) : Bool :=
  left.hits > right.hits || left.hits == right.hits &&
    (left.createdAtMillis > right.createdAtMillis || left.createdAtMillis == right.createdAtMillis &&
      decide (left.id ≤ right.id))

/-- What a query returns of the records of a journal. -/
def matchRecords (request : DependencyMemoryQueryRequest) (records : List StoredFileRecord) : List DependencyMemoryItem :=
  ((records.filterMap (matchRecord request)).mergeSort matchesBefore).take request.limit

/-- `FileMemoryDependency::query`: what it returns, and the steps that it takes. -/
def FileMemoryDependency.query (request : DependencyMemoryQueryRequest) (disk : MemoryDisk) :
    Except MemoryDependencyError (List DependencyMemoryItem) × List MemoryStep :=
  match validateQuery request with
  | .error error => (.error error, [])
  | .ok _ =>
    if disk.journal = none then (.ok [], [])
    else
      match repairFileTail disk with
      | .error error => (.error error, [])
      | .ok repairs => (matchRecords request <$> readMemoryRecords (applyMemorySteps repairs disk), repairs)

end Operations

section Crashes

variable [MemoryLibrary]

/-- What a crash leaves of some steps: the disk, the records whose append was complete, and whether the file of a
quarantined tail was torn. The append of a record is complete once its last byte but the terminator is there. -/
inductive MemoryCut : List MemoryStep → MemoryDisk → MemoryDisk → List StoredFileRecord → Bool → Prop where
  | stopped {steps : List MemoryStep} {disk : MemoryDisk} : MemoryCut steps disk disk [] false
  | appended {record : StoredFileRecord} {part : List UInt8} {rest : List MemoryStep} {disk : MemoryDisk} :
      part <+: recordLine record →
      MemoryCut (.append record :: rest) disk (disk.extend part)
        (if MemoryLibrary.encode record <+: part then [record] else []) false
  | torn {name : String} {invalid part : List UInt8} {rest : List MemoryStep} {disk : MemoryDisk} :
      part <+: invalid → part ≠ invalid →
      MemoryCut (.quarantine name invalid :: rest) disk
        { disk with quarantine := disk.quarantine.insert name part } [] true
  | passed {step : MemoryStep} {rest : List MemoryStep} {disk crashed : MemoryDisk} {records : List StoredFileRecord}
      {torn : Bool} : (∀ record, step ≠ .append record) → MemoryCut rest (step.apply disk) crashed records torn →
      MemoryCut (step :: rest) disk crashed records torn

/-- The records that some steps append. -/
def appendedRecords (steps : List MemoryStep) : List StoredFileRecord :=
  steps.filterMap fun
    | .append record => some record
    | _ => none

/-- What happens to the store: an operation, which returns or is cut by a crash. -/
inductive MemoryEvent where
  | wrote (request : DependencyMemoryWriteRequest) (result : Except MemoryDependencyError DependencyMemoryWriteResponse)
  | queried (request : DependencyMemoryQueryRequest) (result : Except MemoryDependencyError (List DependencyMemoryItem))
  | writeCut (request : DependencyMemoryWriteRequest)
  | queryCut (request : DependencyMemoryQueryRequest)

/-- A step of a run: what happens, the records whose append is complete with it, and whether it leaves a torn file. -/
structure MemoryLabel where
  event : MemoryEvent
  appended : List StoredFileRecord
  torn : Bool

/-- What happens to the disk. -/
def MemoryTransition (disk : MemoryDisk) (label : MemoryLabel) (next : MemoryDisk) : Prop :=
  match label.event with
  | .wrote request result =>
    ∃ steps, FileMemoryDependency.write request disk = (result, steps) ∧ next = applyMemorySteps steps disk ∧
      label.appended = appendedRecords steps ∧ label.torn = false
  | .queried request result =>
    ∃ steps, FileMemoryDependency.query request disk = (result, steps) ∧ next = applyMemorySteps steps disk ∧
      label.appended = [] ∧ label.torn = false
  | .writeCut request =>
    MemoryCut (FileMemoryDependency.write request disk).2 disk next label.appended label.torn
  | .queryCut request =>
    MemoryCut (FileMemoryDependency.query request disk).2 disk next label.appended label.torn

/-- The records whose append was complete in a run. -/
def completeRecords (labels : List MemoryLabel) : List StoredFileRecord := labels.flatMap (·.appended)

/-- Every write and query repairs the journal, sees exactly the records whose append was complete, and a request that was
written has exactly one record. -/
structure MemoryRecovers (labels : List MemoryLabel) (disk : MemoryDisk) : Prop where
  repairs : ∃ steps, repairFileTail disk = .ok steps ∧
    readMemoryRecords (applyMemorySteps steps disk) = .ok (completeRecords labels)
  queries : ∀ request, (FileMemoryDependency.query request disk).1 =
    (fun _ => matchRecords request (completeRecords labels)) <$> validateQuery request
  writes : ∀ request, validateWrite request = .ok () →
    (MemoryLibrary.encode request.record).length ≤ recordLimit →
    (FileMemoryDependency.write request disk).1 = .ok ⟨memoryRecordId request, true⟩
  once : ∀ label ∈ labels, ∀ request response, label.event = .wrote request (.ok response) →
    (completeRecords labels).countP (fun record => record.id = memoryRecordId request) = 1

end Crashes

/-- What is documented of the libraries: JSON objects are read back, have no line breaks and no proper prefix that is
one, hashes tell apart what they are computed of, and the first bytes of a hash make a UUID. -/
class LawfulMemoryLibrary [MemoryLibrary] : Prop where
  decode_encode : ∀ record, MemoryLibrary.decode (MemoryLibrary.encode record) = some record
  decode_prefix : ∀ record part, part <+: MemoryLibrary.encode record → part ≠ MemoryLibrary.encode record →
    MemoryLibrary.decode part = none
  encode_line : ∀ record, MemoryLibrary.encode record ≠ [] ∧ 10 ∉ MemoryLibrary.encode record ∧
    13 ∉ MemoryLibrary.encode record
  digest_injective : Function.Injective MemoryLibrary.digest
  identity_injective : Function.Injective memoryRecordId
  uuid : ∀ request, MemoryLibrary.isUuid (memoryRecordId request)

end AgentMod
