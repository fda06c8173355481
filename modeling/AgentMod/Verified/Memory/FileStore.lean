import AgentMod.Library.Segments
import AgentMod.Memory.FileStore
import AgentMod.Verified.Primitives.Collections
import Mathlib.Data.Nat.Digits.Lemmas

/-! Laws of the file memory store: what repairs and cut operations leave of the appended records. -/

namespace AgentMod

section Lines

theorem payload_of_free {line : List UInt8} (feed : 10 ∉ line) (carriage : 13 ∉ line) : payload line = line := by
  have notFeed : line.getLast? ≠ some 10 := fun last => feed (List.mem_of_getLast? last)
  have notCarriage : line.getLast? ≠ some 13 := fun last => carriage (List.mem_of_getLast? last)
  simp only [payload, if_neg notFeed, if_neg notCarriage]

theorem payload_terminated {line : List UInt8} (carriage : 13 ∉ line) : payload (line ++ [10]) = line := by
  have notCarriage : line.getLast? ≠ some 13 := fun last => carriage (List.mem_of_getLast? last)
  simp only [payload, List.getLast?_concat, if_pos, List.dropLast_concat, if_neg notCarriage]

variable [MemoryLibrary]

theorem verify_record [LawfulMemoryLibrary] (request : DependencyMemoryWriteRequest) : request.record.verify = true := by
  have uuid := LawfulMemoryLibrary.uuid request
  simp only [DependencyMemoryWriteRequest.record, StoredFileRecord.seal, StoredFileRecord.verify,
    StoredFileRecord.expectedChecksum, beq_self_eq_true, uuid, Bool.and_self]

/-- A record that a write appends. -/
def IsWritten (record : StoredFileRecord) : Prop :=
  (MemoryLibrary.encode record).length ≤ recordLimit ∧ ∃ request : DependencyMemoryWriteRequest, record = request.record

/-- The journal of some records. -/
def journalOf (records : List StoredFileRecord) : List UInt8 := (records.map recordLine).flatten

theorem journalOf_concat (records : List StoredFileRecord) (record : StoredFileRecord) :
    journalOf (records ++ [record]) = journalOf records ++ MemoryLibrary.encode record ++ [10] := by
  simp [journalOf, recordLine]

variable [LawfulMemoryLibrary] {record : StoredFileRecord} {records : List StoredFileRecord}

theorem payload_encode (record : StoredFileRecord) : payload (MemoryLibrary.encode record) = MemoryLibrary.encode record :=
  payload_of_free (LawfulMemoryLibrary.encode_line record).2.1 (LawfulMemoryLibrary.encode_line record).2.2

theorem payload_recordLine (record : StoredFileRecord) : payload (recordLine record) = MemoryLibrary.encode record :=
  payload_terminated (LawfulMemoryLibrary.encode_line record).2.2

theorem readMemoryRecord_recordLine (written : IsWritten record) : readMemoryRecord (recordLine record) = .ok record := by
  obtain ⟨short, request, rfl⟩ := written
  have text : lineText (recordLine request.record) = MemoryLibrary.encode request.record := by
    rw [lineText, recordLine, List.getLast?_concat, if_pos rfl]
    exact payload_recordLine request.record
  have fits : ¬ (MemoryLibrary.encode request.record).length > recordLimit := Nat.not_lt.mpr short
  have verifies : ¬ request.record.verify = false := by simp [verify_record]
  unfold readMemoryRecord
  rw [text, refuseIf, if_neg fits, LawfulMemoryLibrary.decode_encode]
  change (do refuseIf (request.record.verify = false) MemoryDependencyError.corruptRecord; pure request.record) = _
  rw [refuseIf, if_neg verifies]
  rfl

theorem splitInclusive_journalOf (records : List StoredFileRecord) (tail : List UInt8) :
    splitInclusive 10 (journalOf records ++ tail) = records.map recordLine ++ splitInclusive 10 tail := by
  induction records with
  | nil => rfl
  | cons record records ih =>
    have free := (LawfulMemoryLibrary.encode_line record).2.1
    have line : journalOf (record :: records) ++ tail =
        MemoryLibrary.encode record ++ 10 :: (journalOf records ++ tail) := by
      simp [journalOf, recordLine]
    rw [line, splitInclusive_line free, ih]
    rfl

theorem readMemoryRecords_journalOf {disk : MemoryDisk} (written : ∀ record ∈ records, IsWritten record)
    (holds : disk.journal.getD [] = journalOf records) : readMemoryRecords disk = .ok records := by
  have lines : splitInclusive 10 (journalOf records) = records.map recordLine := by
    simpa [splitInclusive_nil] using splitInclusive_journalOf records []
  rw [readMemoryRecords, holds, lines]
  clear holds lines
  induction records with
  | nil => rfl
  | cons record records ih =>
    rw [List.forall_mem_cons] at written
    rw [List.map_cons, List.mapM_cons, readMemoryRecord_recordLine written.1, ih written.2]
    rfl

end Lines

section Repairs

variable [MemoryLibrary] {record : StoredFileRecord} {records : List StoredFileRecord} {disk : MemoryDisk}

/-- A proper part of the front of a record, with something in it. -/
def IsPart (part : List UInt8) : Prop :=
  part ≠ [] ∧ ∃ record, part <+: MemoryLibrary.encode record ∧ part ≠ MemoryLibrary.encode record

/-- What a journal with some complete records consists of: the last one may lack its terminator, and a part of one may
stand behind them. -/
inductive JournalHolds : List StoredFileRecord → List UInt8 → Prop where
  | whole {records : List StoredFileRecord} : JournalHolds records (journalOf records)
  | unterminated {records : List StoredFileRecord} {record : StoredFileRecord} :
      JournalHolds (records ++ [record]) (journalOf records ++ MemoryLibrary.encode record)
  | partly {records : List StoredFileRecord} {part : List UInt8} :
      IsPart part → JournalHolds records (journalOf records ++ part)

/-- The disk of a store with some complete records and whole quarantined tails. -/
structure MemoryIntact (records : List StoredFileRecord) (disk : MemoryDisk) : Prop where
  written : ∀ record ∈ records, IsWritten record
  distinct : (records.map (·.id)).Nodup
  journal : JournalHolds records (disk.journal.getD [])
  quarantined : ∀ name content, disk.quarantine[name]? = some content → name = memoryTailName content

/-- Some steps repair the journal, and a crash among them keeps the records, unless it tears a quarantined tail: then no
repair succeeds any more. -/
structure Repairing (records : List StoredFileRecord) (disk : MemoryDisk) (steps : List MemoryStep) : Prop where
  quiet : ∀ step ∈ steps, ∀ record, step ≠ .append record
  intact : MemoryIntact records (applyMemorySteps steps disk)
  whole : (applyMemorySteps steps disk).journal.getD [] = journalOf records
  cut : ∀ crashed appended torn, MemoryCut steps disk crashed appended torn → appended = [] ∧
    (torn = false → MemoryIntact records crashed) ∧ (torn = true → repairFileTail crashed = .error .corruptRecord)

theorem MemoryIntact.rewrite (intact : MemoryIntact records disk) {bytes : List UInt8}
    (holds : JournalHolds records bytes) : MemoryIntact records { disk with journal := some bytes } :=
  ⟨intact.written, intact.distinct, holds, intact.quarantined⟩

theorem MemoryIntact.quarantine (intact : MemoryIntact records disk) (invalid : List UInt8) :
    MemoryIntact records { disk with quarantine := disk.quarantine.insert (memoryTailName invalid) invalid } := by
  refine ⟨intact.written, intact.distinct, intact.journal, ?_⟩
  intro name content found
  rw [StringMap.getElem?_insert'] at found
  by_cases same : memoryTailName invalid = name
  · rw [if_pos same] at found
    rw [← same, Option.some.inj found]
  · rw [if_neg same] at found
    exact intact.quarantined name content found

theorem memoryCut_nil {crashed : MemoryDisk} {appended : List StoredFileRecord} {torn : Bool}
    (cut : MemoryCut [] disk crashed appended torn) : crashed = disk ∧ appended = [] ∧ torn = false := by
  cases cut
  exact ⟨rfl, rfl, rfl⟩

theorem memoryCut_single {step : MemoryStep} {crashed : MemoryDisk} {appended : List StoredFileRecord} {torn : Bool}
    (noAppend : ∀ record, step ≠ .append record) (noTail : ∀ name invalid, step ≠ .quarantine name invalid)
    (cut : MemoryCut [step] disk crashed appended torn) :
    (crashed = disk ∨ crashed = step.apply disk) ∧ appended = [] ∧ torn = false := by
  cases cut with
  | stopped => exact ⟨.inl rfl, rfl, rfl⟩
  | appended => exact absurd rfl (noAppend _)
  | torn => exact absurd rfl (noTail _ _)
  | passed _ later =>
    obtain ⟨rfl, rfl, rfl⟩ := memoryCut_nil later
    exact ⟨.inr rfl, rfl, rfl⟩

theorem applyMemorySteps_truncate {part : List UInt8} (intact : MemoryIntact records disk)
    (holds : disk.journal.getD [] = journalOf records ++ part) :
    MemoryIntact records (MemoryStep.apply disk (.truncate (journalOf records).length)) ∧
      (MemoryStep.apply disk (.truncate (journalOf records).length)).journal.getD [] = journalOf records := by
  rw [MemoryStep.apply, holds, List.take_left]
  exact ⟨intact.rewrite .whole, rfl⟩

variable [LawfulMemoryLibrary]

theorem memoryTailName_injective : Function.Injective memoryTailName := by
  intro first second same
  refine LawfulMemoryLibrary.digest_injective ?_
  simpa [memoryTailName] using same

theorem scanTail_records (written : ∀ record ∈ records, IsWritten record) (length valid : Nat)
    (lines : List (List UInt8)) : scanTail length valid (records.map recordLine ++ lines) =
      scanTail length (valid + (journalOf records).length) lines := by
  induction records generalizing valid with
  | nil => rfl
  | cons record records ih =>
    rw [List.forall_mem_cons] at written
    obtain ⟨⟨short, request, rfl⟩, others⟩ := written
    have ends : (recordLine request.record).getLast? = some 10 := List.getLast?_concat
    have here : (MemoryLibrary.decode (MemoryLibrary.encode request.record)).any (·.verify) = true := by
      rw [LawfulMemoryLibrary.decode_encode, Option.any_some, verify_record]
    have size : valid + (recordLine request.record).length + (journalOf records).length =
        valid + (journalOf (request.record :: records)).length := by
      simp [journalOf, Nat.add_assoc]
    rw [List.map_cons, List.cons_append, scanTail]
    simp only [payload_recordLine, here, and_true, if_pos short, ends, if_true]
    rw [ih others, size]

theorem repairFileTail_whole (written : ∀ record ∈ records, IsWritten record)
    (holds : disk.journal.getD [] = journalOf records) : repairFileTail disk = .ok [] := by
  have lines := splitInclusive_journalOf records []
  rw [List.append_nil, splitInclusive_nil] at lines
  rw [repairFileTail, holds, lines, scanTail_records written, scanTail]
  rfl

theorem repairFileTail_unterminated (written : ∀ record ∈ records, IsWritten record) (last : IsWritten record)
    (holds : disk.journal.getD [] = journalOf records ++ MemoryLibrary.encode record) :
    repairFileTail disk = .ok [.terminate] := by
  obtain ⟨short, request, rfl⟩ := last
  obtain ⟨nonempty, free, -⟩ := LawfulMemoryLibrary.encode_line request.record
  have here : (MemoryLibrary.decode (MemoryLibrary.encode request.record)).any (·.verify) = true := by
    rw [LawfulMemoryLibrary.decode_encode, Option.any_some, verify_record]
  have open_ : (MemoryLibrary.encode request.record).getLast? ≠ some 10 := fun ends => free (List.mem_of_getLast? ends)
  have scans : scanTail (journalOf records ++ MemoryLibrary.encode request.record).length 0
      (splitInclusive 10 (journalOf records ++ MemoryLibrary.encode request.record)) = .ok .appendTerminator := by
    rw [splitInclusive_journalOf, splitInclusive_of_not_mem nonempty free, scanTail_records written, scanTail]
    simp [payload_encode, here, short, open_]
  rw [repairFileTail, holds, scans]
  rfl

theorem repairFileTail_partly {part : List UInt8} (written : ∀ record ∈ records, IsWritten record) (isPart : IsPart part)
    (holds : disk.journal.getD [] = journalOf records ++ part) :
    repairFileTail disk = (· ++ [.truncate (journalOf records).length]) <$> quarantineMemoryTail disk part := by
  obtain ⟨nonempty, record, front, proper⟩ := isPart
  obtain ⟨-, noFeed, noCarriage⟩ := LawfulMemoryLibrary.encode_line record
  have free : 10 ∉ part := fun member => noFeed (front.subset member)
  have clean : 13 ∉ part := fun member => noCarriage (front.subset member)
  have open_ : part.getLast? ≠ some 10 := fun ends => free (List.mem_of_getLast? ends)
  have scans : scanTail (journalOf records ++ part).length 0 (splitInclusive 10 (journalOf records ++ part)) =
      .ok (.truncate (journalOf records).length part) := by
    rw [splitInclusive_journalOf, splitInclusive_of_not_mem nonempty free, scanTail_records written, scanTail]
    simp [payload_of_free free clean, LawfulMemoryLibrary.decode_prefix record part front proper, open_]
  rw [repairFileTail, holds, scans]
  rfl

theorem repairFileTail_torn {part content : List UInt8} (written : ∀ record ∈ records, IsWritten record)
    (isPart : IsPart part) (holds : disk.journal.getD [] = journalOf records ++ part)
    (found : disk.quarantine[memoryTailName part]? = some content) (other : content ≠ part) :
    repairFileTail disk = .error .corruptRecord := by
  have refuses : quarantineMemoryTail disk part = .error .corruptRecord := by
    simp only [quarantineMemoryTail, found, if_neg other]
  rw [repairFileTail_partly written isPart holds, refuses]
  rfl

/-- An intact store is repaired. -/
theorem MemoryIntact.repairing (intact : MemoryIntact records disk) :
    ∃ steps, repairFileTail disk = .ok steps ∧ Repairing records disk steps := by
  generalize bytes : disk.journal.getD [] = journal
  have holds := intact.journal
  rw [bytes] at holds
  have written := intact.written
  cases holds with
  | whole =>
    refine ⟨[], repairFileTail_whole written bytes, by simp, intact, bytes, ?_⟩
    intro crashed appended torn cut
    obtain ⟨rfl, rfl, rfl⟩ := memoryCut_nil cut
    exact ⟨rfl, fun _ => intact, by simp⟩
  | @unterminated records record =>
    have ends : MemoryIntact (records ++ [record]) (MemoryStep.apply disk .terminate) ∧
        (MemoryStep.apply disk .terminate).journal.getD [] = journalOf (records ++ [record]) := by
      rw [MemoryStep.apply, MemoryDisk.extend, bytes, ← journalOf_concat]
      exact ⟨intact.rewrite .whole, rfl⟩
    have front : ∀ other ∈ records, IsWritten other := fun other member => written other (by simp [member])
    refine ⟨[.terminate], repairFileTail_unterminated front (written record (by simp)) bytes, by simp, ends.1, ends.2, ?_⟩
    intro crashed appended torn cut
    obtain ⟨rfl | rfl, rfl, rfl⟩ := memoryCut_single (by simp) (by simp) cut
    · exact ⟨rfl, fun _ => intact, by simp⟩
    · exact ⟨rfl, fun _ => ends.1, by simp⟩
  | @partly _ part isPart =>
    have repairs := repairFileTail_partly written isPart bytes
    cases found : disk.quarantine[memoryTailName part]? with
    | some content =>
      have same : content = part := (memoryTailName_injective (intact.quarantined _ _ found)).symm
      have passes : quarantineMemoryTail disk part = .ok [] := by
        simp only [quarantineMemoryTail, found, if_pos same]
      have ends := applyMemorySteps_truncate intact bytes
      rw [passes] at repairs
      refine ⟨_, repairs, by simp, ends.1, ends.2, ?_⟩
      intro crashed appended torn cut
      obtain ⟨rfl | rfl, rfl, rfl⟩ := memoryCut_single (by simp) (by simp) cut
      · exact ⟨rfl, fun _ => intact, by simp⟩
      · exact ⟨rfl, fun _ => ends.1, by simp⟩
    | none =>
      have passes : quarantineMemoryTail disk part = .ok [.quarantine (memoryTailName part) part] := by
        simp only [quarantineMemoryTail, found]
      have kept := intact.quarantine part
      have ends := applyMemorySteps_truncate kept bytes
      rw [passes] at repairs
      refine ⟨_, repairs, by simp, ends.1, ends.2, ?_⟩
      -- The write of the tail is not begun, cut, or complete; the journal is truncated or not.
      intro crashed appended torn cut
      cases cut with
      | stopped => exact ⟨rfl, fun _ => intact, by simp⟩
      | @torn _ _ cut _ _ front proper =>
        refine ⟨rfl, by simp, fun _ => ?_⟩
        exact repairFileTail_torn written isPart bytes (by rw [StringMap.getElem?_insert', if_pos rfl]) proper
      | passed _ later =>
        obtain ⟨rfl | rfl, rfl, rfl⟩ := memoryCut_single (by simp) (by simp) later
        · exact ⟨rfl, fun _ => kept, by simp⟩
        · exact ⟨rfl, fun _ => ends.1, by simp⟩

end Repairs

section Operations

theorem appendedRecords_quiet {steps rest : List MemoryStep} (quiet : ∀ step ∈ steps, ∀ record, step ≠ .append record) :
    appendedRecords (steps ++ rest) = appendedRecords rest := by
  induction steps with
  | nil => rfl
  | cons step steps ih =>
    rw [List.forall_mem_cons] at quiet
    rw [← ih quiet.2]
    cases step with
    | append record => exact absurd rfl (quiet.1 record)
    | _ => rfl

variable [MemoryLibrary] {record : StoredFileRecord} {records : List StoredFileRecord} {disk : MemoryDisk}
  {request : DependencyMemoryWriteRequest}

theorem applyMemorySteps_append (first second : List MemoryStep) (disk : MemoryDisk) :
    applyMemorySteps (first ++ second) disk = applyMemorySteps second (applyMemorySteps first disk) :=
  List.foldl_append

theorem memoryCut_append {first second : List MemoryStep} {crashed : MemoryDisk} {appended : List StoredFileRecord}
    {torn : Bool} (quiet : ∀ step ∈ first, ∀ record, step ≠ .append record)
    (cut : MemoryCut (first ++ second) disk crashed appended torn) :
    MemoryCut first disk crashed appended torn ∨
      MemoryCut second (applyMemorySteps first disk) crashed appended torn := by
  induction first generalizing disk with
  | nil => exact .inr cut
  | cons step rest ih =>
    rw [List.forall_mem_cons] at quiet
    cases cut with
    | stopped => exact .inl .stopped
    | appended => exact absurd rfl (quiet.1 _)
    | torn front proper => exact .inl (.torn front proper)
    | passed noAppend later => exact (ih quiet.2 later).imp_left (.passed noAppend)

theorem MemoryIntact.opening [LawfulMemoryLibrary] (intact : MemoryIntact records disk) :
    ∃ repairs, repairFileTail (applyMemorySteps [.openJournal] disk) = .ok repairs ∧
      Repairing records disk (.openJournal :: repairs) := by
  have opened : MemoryIntact records (MemoryStep.apply disk .openJournal) := by
    rw [MemoryStep.apply, MemoryDisk.extend, List.append_nil]
    exact intact.rewrite intact.journal
  obtain ⟨repairs, returns, repairing⟩ := opened.repairing
  refine ⟨repairs, returns, ?_, repairing.intact, repairing.whole, ?_⟩
  · rw [List.forall_mem_cons]
    exact ⟨by simp, repairing.quiet⟩
  · intro crashed appended torn cut
    cases cut with
    | stopped => exact ⟨rfl, fun _ => intact, by simp⟩
    | passed _ later => exact repairing.cut _ _ _ later

/-- What a cut append leaves: a record whose encoding is there is complete. -/
theorem MemoryIntact.extend {part : List UInt8} (intact : MemoryIntact records disk)
    (whole : disk.journal.getD [] = journalOf records) (written : IsWritten record)
    (fresh : record.id ∉ records.map (·.id)) (front : part <+: recordLine record) :
    MemoryIntact (records ++ if MemoryLibrary.encode record <+: part then [record] else []) (disk.extend part) := by
  rw [MemoryDisk.extend, whole]
  have more : MemoryIntact records { disk with journal := some (journalOf records) } := intact.rewrite .whole
  by_cases complete : MemoryLibrary.encode record <+: part
  · rw [if_pos complete]
    have all : ∀ other ∈ records ++ [record], IsWritten other := by
      intro other member
      rcases List.mem_append.mp member with earlier | last
      · exact intact.written other earlier
      · rwa [List.mem_singleton.mp last]
    have distinct : ((records ++ [record]).map (·.id)).Nodup := by
      rw [List.map_append, List.nodup_append]
      refine ⟨intact.distinct, by simp, ?_⟩
      intro id member other last same
      rw [List.map_singleton, List.mem_singleton] at last
      exact fresh (last ▸ same ▸ member)
    -- The terminator is there, or is not.
    obtain ⟨rest, rfl⟩ := complete
    have ends : rest <+: [10] := by
      rwa [recordLine, List.prefix_append_right_inj] at front
    rcases List.prefix_cons_iff.mp ends with rfl | ⟨others, rfl, nothing⟩
    · refine ⟨all, distinct, ?_, intact.quarantined⟩
      simpa using JournalHolds.unterminated
    · refine ⟨all, distinct, ?_, intact.quarantined⟩
      rw [List.prefix_nil.mp nothing, Option.getD_some, ← List.append_assoc, ← journalOf_concat]
      exact .whole
  · rw [if_neg complete, List.append_nil]
    refine ⟨intact.written, intact.distinct, ?_, intact.quarantined⟩
    rw [Option.getD_some]
    rcases List.prefix_concat_iff.mp front with rfl | inside
    · exact absurd (List.prefix_append _ _) complete
    · by_cases nothing : part = []
      · rw [nothing, List.append_nil]
        exact .whole
      · exact .partly ⟨nothing, record, inside, fun same => complete (same ▸ List.prefix_rfl)⟩

variable [LawfulMemoryLibrary]

theorem JournalHolds.eq_nil (holds : JournalHolds records []) : records = [] := by
  generalize bytes : ([] : List UInt8) = journal at holds
  cases holds with
  | whole =>
    cases records with
    | nil => rfl
    | cons record records => simp [journalOf, recordLine] at bytes
  | unterminated =>
    have nonempty := (LawfulMemoryLibrary.encode_line ‹StoredFileRecord›).1
    simp [nonempty] at bytes
  | partly isPart => simp [isPart.1] at bytes

theorem findExisting_records (written : ∀ record ∈ records, IsWritten record) :
    findExisting request (records.map recordLine) = .ok (decide (memoryRecordId request ∈ records.map (·.id))) := by
  induction records with
  | nil => rfl
  | cons record records ih =>
    rw [List.forall_mem_cons] at written
    obtain ⟨-, other, rfl⟩ := written.1
    have identity : other.record.id = memoryRecordId other := rfl
    rw [List.map_cons, findExisting, readMemoryRecord_recordLine written.1]
    change (if other.record.id = memoryRecordId request then _ else _) = _
    by_cases same : other.record.id = memoryRecordId request
    · -- The same identifier is the one of the same request.
      cases LawfulMemoryLibrary.identity_injective (identity ▸ same)
      rw [if_pos same]
      simp [DependencyMemoryWriteRequest.record, StoredFileRecord.seal, refuseIf]
    · rw [if_neg same, ih written.2]
      have apart : ¬ memoryRecordId request = other.record.id := fun equal => same equal.symm
      simp [apart]

theorem write_intact (intact : MemoryIntact records disk) (valid : validateWrite request = .ok ()) :
    ∃ repaired, Repairing records disk repaired ∧
      (memoryRecordId request ∈ records.map (·.id) ∧
          FileMemoryDependency.write request disk = (.ok ⟨memoryRecordId request, true⟩, repaired) ∨
        memoryRecordId request ∉ records.map (·.id) ∧
          ¬ (MemoryLibrary.encode request.record).length ≤ recordLimit ∧
          FileMemoryDependency.write request disk = (.error .contentTooLarge, repaired) ∨
        memoryRecordId request ∉ records.map (·.id) ∧ IsWritten request.record ∧
          FileMemoryDependency.write request disk =
            (.ok ⟨memoryRecordId request, true⟩, repaired ++ [.append request.record])) := by
  obtain ⟨repairs, returns, repairing⟩ := intact.opening
  have whole : (applyMemorySteps ([.openJournal] ++ repairs) disk).journal.getD [] = journalOf records := repairing.whole
  have lines : splitInclusive 10 (journalOf records) = records.map recordLine := by
    simpa [splitInclusive_nil] using splitInclusive_journalOf records []
  have finds : findExisting request (records.map recordLine) = .ok (decide (memoryRecordId request ∈ records.map (·.id))) :=
    findExisting_records intact.written
  refine ⟨_, repairing, ?_⟩
  rw [FileMemoryDependency.write, valid]
  simp only [returns, whole, lines, finds]
  by_cases there : memoryRecordId request ∈ records.map (·.id)
  · exact .inl ⟨there, by rw [decide_eq_true there]; rfl⟩
  · rw [decide_eq_false there]
    by_cases short : (MemoryLibrary.encode request.record).length ≤ recordLimit
    · refine .inr (.inr ⟨there, ⟨short, request, rfl⟩, ?_⟩)
      simp [short]
    · refine .inr (.inl ⟨there, short, ?_⟩)
      simp [Nat.not_le.mp short]

theorem query_intact (intact : MemoryIntact records disk) (request : DependencyMemoryQueryRequest) :
    (FileMemoryDependency.query request disk).1 = (fun _ => matchRecords request records) <$> validateQuery request ∧
      (Repairing records disk (FileMemoryDependency.query request disk).2 ∨
        (FileMemoryDependency.query request disk).2 = []) := by
  rw [FileMemoryDependency.query]
  cases validateQuery request with
  | error error => exact ⟨rfl, .inr (by simp)⟩
  | ok _ =>
    by_cases absent : disk.journal = none
    · have holds := intact.journal
      rw [absent, Option.getD_none] at holds
      rw [holds.eq_nil]
      simp [absent, matchRecords]
    · obtain ⟨steps, returns, repairing⟩ := intact.repairing
      simp only [if_neg absent, returns, readMemoryRecords_journalOf intact.written repairing.whole]
      exact ⟨rfl, .inl repairing⟩

end Operations

section Runs

variable [MemoryLibrary] [LawfulMemoryLibrary] {records : List StoredFileRecord} {disk next : MemoryDisk}
  {label : MemoryLabel}

theorem MemoryIntact.writeCut {request : DependencyMemoryWriteRequest} {appended : List StoredFileRecord} {torn : Bool}
    (intact : MemoryIntact records disk)
    (cut : MemoryCut (FileMemoryDependency.write request disk).2 disk next appended torn) :
    (torn = false → MemoryIntact (records ++ appended) next) ∧
      (torn = true → repairFileTail next = .error .corruptRecord) := by
  cases valid : validateWrite request with
  | error error =>
    have untouched : (FileMemoryDependency.write request disk).2 = [] := by
      rw [FileMemoryDependency.write, valid]
    rw [untouched] at cut
    obtain ⟨rfl, rfl, rfl⟩ := memoryCut_nil cut
    exact ⟨fun _ => by rwa [List.append_nil], by simp⟩
  | ok _ =>
    obtain ⟨repaired, repairing, ⟨-, writes⟩ | ⟨-, -, writes⟩ | ⟨fresh, written, writes⟩⟩ := write_intact intact valid
    · rw [writes] at cut
      obtain ⟨rfl, kept⟩ := repairing.cut _ _ _ cut
      rwa [List.append_nil]
    · rw [writes] at cut
      obtain ⟨rfl, kept⟩ := repairing.cut _ _ _ cut
      rwa [List.append_nil]
    · rw [writes] at cut
      -- The crash comes among the repairs, or behind them in the append.
      rcases memoryCut_append repairing.quiet cut with early | late
      · obtain ⟨rfl, kept⟩ := repairing.cut _ _ _ early
        rwa [List.append_nil]
      · cases late with
        | stopped => exact ⟨fun _ => by rw [List.append_nil]; exact repairing.intact, by simp⟩
        | appended front => exact ⟨fun _ => repairing.intact.extend repairing.whole written fresh front, by simp⟩
        | passed noAppend => exact absurd rfl (noAppend _)

theorem MemoryIntact.wrote {request : DependencyMemoryWriteRequest} {steps : List MemoryStep}
    {result : Except MemoryDependencyError DependencyMemoryWriteResponse} (intact : MemoryIntact records disk)
    (writes : FileMemoryDependency.write request disk = (result, steps)) :
    MemoryIntact (records ++ appendedRecords steps) (applyMemorySteps steps disk) ∧
      ∀ response, result = .ok response →
        memoryRecordId request ∈ (records ++ appendedRecords steps).map (·.id) := by
  cases valid : validateWrite request with
  | error error =>
    rw [FileMemoryDependency.write, valid] at writes
    cases writes
    exact ⟨by rwa [appendedRecords, List.filterMap_nil, List.append_nil], by simp⟩
  | ok _ =>
    obtain ⟨repaired, repairing, cases_⟩ := write_intact intact valid
    have quiet : appendedRecords repaired = [] := by
      have alone : appendedRecords (repaired ++ []) = appendedRecords [] := appendedRecords_quiet repairing.quiet
      rwa [List.append_nil] at alone
    rcases cases_ with ⟨there, returns⟩ | ⟨-, -, returns⟩ | ⟨fresh, written, returns⟩
    · cases writes.symm.trans returns
      rw [quiet, List.append_nil]
      exact ⟨repairing.intact, fun _ _ => there⟩
    · cases writes.symm.trans returns
      rw [quiet, List.append_nil]
      exact ⟨repairing.intact, by simp⟩
    · cases writes.symm.trans returns
      rw [appendedRecords_quiet repairing.quiet, applyMemorySteps_append]
      have complete : MemoryLibrary.encode request.record <+: recordLine request.record := List.prefix_append _ _
      have extended := repairing.intact.extend repairing.whole written fresh List.prefix_rfl
      rw [if_pos complete] at extended
      exact ⟨extended, fun _ _ => by simp [appendedRecords, DependencyMemoryWriteRequest.record, StoredFileRecord.seal]⟩

/-- A step keeps the complete records and adds those that it completes, unless it tears a quarantined tail: then no
repair succeeds any more. -/
theorem MemoryIntact.step (intact : MemoryIntact records disk) (taken : MemoryTransition disk label next) :
    (label.torn = false → MemoryIntact (records ++ label.appended) next) ∧
      (label.torn = true → repairFileTail next = .error .corruptRecord) ∧
      ∀ request response, label.event = .wrote request (.ok response) →
        memoryRecordId request ∈ (records ++ label.appended).map (·.id) := by
  obtain ⟨event, appended, torn⟩ := label
  cases event with
  | wrote request result =>
    obtain ⟨steps, writes, rfl, rfl, rfl⟩ := taken
    have kept := intact.wrote writes
    refine ⟨fun _ => kept.1, by simp, ?_⟩
    rintro _ response same
    cases same
    exact kept.2 response rfl
  | queried request result =>
    obtain ⟨steps, queries, rfl, rfl, rfl⟩ := taken
    refine ⟨fun _ => ?_, by simp, by simp⟩
    have does := (query_intact intact request).2
    rw [queries] at does
    rw [List.append_nil]
    rcases does with repairing | none_
    · exact repairing.intact
    · obtain rfl : steps = [] := none_
      exact intact
  | writeCut request =>
    have kept := intact.writeCut taken
    exact ⟨kept.1, kept.2, by simp⟩
  | queryCut request =>
    have cut : MemoryCut _ _ _ _ _ := taken
    rcases (query_intact intact request).2 with repairing | none_
    · obtain ⟨none_, kept⟩ := repairing.cut _ _ _ cut
      cases none_
      rw [List.append_nil]
      exact ⟨kept.1, kept.2, by simp⟩
    · rw [none_] at cut
      obtain ⟨rfl, none_, untorn⟩ := memoryCut_nil cut
      cases none_
      cases untorn
      rw [List.append_nil]
      exact ⟨fun _ => intact, by simp, by simp⟩

theorem memoryIntact_run {labels : List MemoryLabel} (run : Run MemoryTransition ⟨none, ∅⟩ labels disk)
    (untorn : ∀ label ∈ labels, label.torn = false) : MemoryIntact (completeRecords labels) disk ∧
      ∀ label ∈ labels, ∀ request response, label.event = .wrote request (.ok response) →
        memoryRecordId request ∈ (completeRecords labels).map (·.id) := by
  induction run with
  | nil =>
    refine ⟨⟨by simp [completeRecords], by simp [completeRecords], .whole, by simp⟩, by simp⟩
  | @snoc labels label state next _ taken ih =>
    rw [List.forall_mem_append] at untorn
    obtain ⟨intact, earlier⟩ := ih untorn.1
    have kept := intact.step taken
    have more : completeRecords (labels ++ [label]) = completeRecords labels ++ label.appended := by
      simp [completeRecords]
    rw [more]
    refine ⟨kept.1 (untorn.2 label (by simp)), ?_⟩
    intro other member request response same
    rcases List.mem_append.mp member with before | last
    · rw [List.map_append, List.mem_append]
      exact .inl (earlier other before request response same)
    · rw [List.mem_singleton.mp last] at same
      exact kept.2.2 request response same

theorem MemoryIntact.recovers {labels : List MemoryLabel} (intact : MemoryIntact (completeRecords labels) disk)
    (stored : ∀ label ∈ labels, ∀ request response, label.event = .wrote request (.ok response) →
      memoryRecordId request ∈ (completeRecords labels).map (·.id)) : MemoryRecovers labels disk := by
  refine ⟨?_, fun request => (query_intact intact request).1, ?_, ?_⟩
  · obtain ⟨steps, returns, repairing⟩ := intact.repairing
    exact ⟨steps, returns, readMemoryRecords_journalOf intact.written repairing.whole⟩
  · intro request valid short
    obtain ⟨repaired, -, ⟨-, writes⟩ | ⟨-, long, -⟩ | ⟨-, -, writes⟩⟩ := write_intact intact valid
    · rw [writes]
    · exact absurd short long
    · rw [writes]
  · intro label member request response same
    have there := stored label member request response same
    have counted := List.count_eq_one_of_mem intact.distinct there
    rw [List.count, List.countP_map] at counted
    rw [← counted]
    refine List.countP_congr fun record _ => ?_
    simp

/-- Every write and query of a run sees exactly the records whose append was complete exactly when no crash comes while
the file of a quarantined tail is written. -/
theorem memory_recovers {labels : List MemoryLabel} (run : Run MemoryTransition ⟨none, ∅⟩ labels disk) :
    (∀ front back reached, labels = front ++ back → Run MemoryTransition ⟨none, ∅⟩ front reached →
      Run MemoryTransition reached back disk → MemoryRecovers front reached) ↔
      ∀ label ∈ labels, label.torn = false := by
  constructor
  · intro recovers
    induction run with
    | nil => simp
    | @snoc labels label state next before taken ih =>
      have untorn : ∀ label ∈ labels, label.torn = false := by
        refine ih fun front back reached same first second => ?_
        refine recovers front (back ++ [label]) reached (by rw [same, List.append_assoc]) first ?_
        exact second.snoc taken
      rw [List.forall_mem_append, List.forall_mem_singleton]
      refine ⟨untorn, Bool.not_eq_true _ ▸ fun torn => ?_⟩
      -- No repair succeeds behind the first torn tail.
      have fails := ((memoryIntact_run before untorn).1.step taken).2.1 torn
      have last := recovers (labels ++ [label]) [] next (by simp) (before.snoc taken) .nil
      obtain ⟨steps, returns, -⟩ := last.repairs
      rw [fails] at returns
      cases returns
  · intro untorn front back reached same first second
    have kept := memoryIntact_run first fun label member => untorn label (by simp [same, member])
    exact kept.1.recovers kept.2

end Runs

section Sample

/-- Bytes as twice as many that break no line. -/
def nibbles (bytes : List UInt8) : List UInt8 := bytes.flatMap fun byte => [byte / 16 + 64, byte % 16 + 64]

/-- The bytes of twice as many. -/
def parseNibbles : List UInt8 → List UInt8
  | high :: low :: rest => ((high - 64) * 16 + (low - 64)) :: parseNibbles rest
  | _ => []

@[simp] theorem parseNibbles_nibbles (bytes : List UInt8) : parseNibbles (nibbles bytes) = bytes := by
  induction bytes with
  | nil => rfl
  | cons byte bytes ih =>
    have same : (byte / 16 + 64 - 64) * 16 + (byte % 16 + 64 - 64) = byte := by
      apply UInt8.toNat_inj.mp
      have small := byte.toNat_lt
      simp only [UInt8.add_sub_cancel, UInt8.toNat_add, UInt8.toNat_mul, UInt8.toNat_div, UInt8.toNat_mod,
        UInt8.reduceToNat]
      omega
    change parseNibbles ([byte / 16 + 64, byte % 16 + 64] ++ nibbles bytes) = _
    rw [List.cons_append, List.cons_append, List.nil_append, parseNibbles, ih, same]

/-- Bytes that break no line. -/
def Unbroken (bytes : List UInt8) : Prop := ∀ byte ∈ bytes, byte ≠ 10 ∧ byte ≠ 13

theorem unbroken_small {bytes : List UInt8} (small : ∀ byte ∈ bytes, byte.toNat < 8) : Unbroken bytes := by
  intro byte member
  have bound := small byte member
  constructor <;> rintro rfl <;> simp at bound

theorem unbroken_nibbles (bytes : List UInt8) : Unbroken (nibbles bytes) := by
  intro byte member
  obtain ⟨source, -, inside⟩ := List.mem_flatMap.mp member
  have high : 64 ≤ byte.toNat := by
    have small := source.toNat_lt
    simp only [List.mem_cons, List.not_mem_nil, or_false] at inside
    rcases inside with rfl | rfl
    · simp only [UInt8.toNat_add, UInt8.toNat_div, UInt8.reduceToNat]
      omega
    · simp only [UInt8.toNat_add, UInt8.toNat_mod, UInt8.reduceToNat]
      omega
  constructor <;> rintro rfl <;> simp at high

theorem unbroken_encodeSegments {segments : List (List UInt8)} (each : ∀ segment ∈ segments, Unbroken segment) :
    Unbroken (encodeSegments segments) := by
  intro byte member
  obtain ⟨segment, inside, found⟩ := List.mem_flatMap.mp member
  rw [encodeSegment, List.mem_append, List.mem_flatMap] at found
  rcases found with ⟨source, at_, found⟩ | zero
  · simp only [List.mem_cons, List.not_mem_nil, or_false] at found
    rcases found with rfl | rfl
    · decide
    · exact each segment inside byte at_
  · rw [List.mem_singleton.mp zero]
    decide

/-- A time stamp as its sign and its digits. -/
def stampSegments (value : Int64) : List (List UInt8) :=
  [if value.toInt < 0 then [1] else [], (Nat.digits 8 value.toInt.natAbs).map UInt8.ofNat]

/-- The time stamp of a sign and digits. -/
def parseStamp (sign digits : List UInt8) : Int64 :=
  let size : Nat := Nat.ofDigits 8 (digits.map (·.toNat))
  .ofInt (if sign = [] then size else -size)

theorem parseStamp_stampSegments (value : Int64) :
    parseStamp (if value.toInt < 0 then [1] else []) ((Nat.digits 8 value.toInt.natAbs).map UInt8.ofNat) = value := by
  have digits : ((Nat.digits 8 value.toInt.natAbs).map UInt8.ofNat).map (·.toNat) = Nat.digits 8 value.toInt.natAbs := by
    rw [List.map_map]
    refine (List.map_congr_left fun digit member => ?_).trans (List.map_id _)
    have small := Nat.digits_lt_base (by decide) member
    rw [Function.comp_apply, UInt8.toNat_ofNat', Nat.mod_eq_of_lt (by omega), id]
  have magnitude : (if (if value.toInt < 0 then [(1 : UInt8)] else []) = [] then (value.toInt.natAbs : Int)
      else -(value.toInt.natAbs : Int)) = value.toInt := by
    by_cases negative : value.toInt < 0
    · simp only [if_pos negative, List.cons_ne_nil, if_false]
      omega
    · simp only [if_neg negative, if_true]
      omega
  rw [parseStamp, digits, Nat.ofDigits_digits, magnitude, Int64.ofInt_toInt]

/-- A text as bytes that break no line. -/
def lineSegment (text : String) : List UInt8 := nibbles (textSegment text)

/-- The text of some bytes. -/
def parseLineText (bytes : List UInt8) : String := parseText (parseNibbles bytes)

/-- How the sample writes records. -/
def fileRecordCodec : SegmentCodec StoredFileRecord where
  count := 8
  segments record := [countSegment record.schemaVersion, lineSegment record.id, lineSegment record.scope,
    lineSegment record.source, lineSegment record.content, lineSegment record.checksum] ++
    stampSegments record.createdAtMillis
  parse
    | [version, id, scope, source, content, checksum, sign, digits] =>
      some ⟨version.length, parseLineText id, parseLineText scope, parseLineText source, parseLineText content,
        parseStamp sign digits, parseLineText checksum⟩
    | _ => none
  length _ := rfl
  parses record := by simp [countSegment, stampSegments, lineSegment, parseLineText, parseStamp_stampSegments]

/-- Bytes as a text. -/
def byteText (bytes : List UInt8) : String := .ofList (bytes.map Char.ofUInt8)

theorem byteText_injective : Function.Injective byteText := by
  intro first second same
  refine List.map_injective_iff.mpr (fun left right equal => ?_) (String.ofList_injective same)
  exact UInt8.toUInt32_inj.mp (congrArg Char.val equal)

/-- How the sample writes what the identifier of a record is computed of. -/
def identityCodec : SegmentCodec DependencyMemoryWriteRequest where
  count := 5
  segments request := [lineSegment request.scope, lineSegment request.source, lineSegment request.content] ++
    stampSegments request.createdAtMillis
  parse
    | [scope, source, content, sign, digits] =>
      some ⟨parseLineText scope, parseLineText source, parseLineText content, parseStamp sign digits⟩
    | _ => none
  length _ := rfl
  parses record := by simp [stampSegments, lineSegment, parseLineText, parseStamp_stampSegments]

/-- Libraries of the memory store. -/
abbrev sampleMemoryLibrary : MemoryLibrary where
  encode record := encodeSegments (fileRecordCodec.segments record)
  decode bytes := (fileRecordCodec.fromSlice bytes).toOption
  checksumBytes version id scope source content created := encodeSegments (fileRecordCodec.segments
    ⟨version, id, scope, source, content, created, ""⟩)
  identityBytes request := encodeSegments (identityCodec.segments request)
  digest := byteText
  uuidOf := byteText
  isUuid _ := true
  isAlphanumeric := Char.isAlphanum
  toLowercase := String.toLower

attribute [local instance] sampleMemoryLibrary

/-- The libraries do what is documented of them. -/
theorem sampleMemoryLibrary_lawful : LawfulMemoryLibrary where
  decode_encode record := by
    have reads : fileRecordCodec.fromSlice (encodeSegments (fileRecordCodec.segments record)) = .ok record :=
      fileRecordCodec.reads rfl
    simp only [MemoryLibrary.decode, MemoryLibrary.encode]
    rw [reads]
    rfl
  decode_prefix record part front proper := by
    have written : fileRecordCodec.toVec record = .ok (MemoryLibrary.encode record) := rfl
    obtain ⟨detail, fails⟩ := fileRecordCodec.torn written front proper
    simp only [MemoryLibrary.decode]
    rw [fails]
    rfl
  encode_line record := by
    have unbroken : Unbroken (MemoryLibrary.encode record) := by
      refine unbroken_encodeSegments fun segment member => ?_
      simp only [fileRecordCodec, stampSegments, List.cons_append, List.nil_append, List.mem_cons, List.not_mem_nil,
        or_false] at member
      rcases member with rfl | rfl | rfl | rfl | rfl | rfl | rfl | rfl
      · exact unbroken_small fun byte member => by simp [List.eq_of_mem_replicate member]
      · exact unbroken_nibbles _
      · exact unbroken_nibbles _
      · exact unbroken_nibbles _
      · exact unbroken_nibbles _
      · exact unbroken_nibbles _
      · refine unbroken_small fun byte member => ?_
        split at member <;> simp_all
      · refine unbroken_small fun byte member => ?_
        obtain ⟨digit, inside, rfl⟩ := List.mem_map.mp member
        have small := Nat.digits_lt_base (by decide) inside
        rw [UInt8.toNat_ofNat', Nat.mod_eq_of_lt (by omega)]
        exact small
    refine ⟨?_, fun member => (unbroken 10 member).1 rfl, fun member => (unbroken 13 member).2 rfl⟩
    simp [MemoryLibrary.encode, encodeSegments, fileRecordCodec, encodeSegment]
  digest_injective := byteText_injective
  identity_injective := by
    intro first second same
    have bytes : encodeSegments (identityCodec.segments first) = encodeSegments (identityCodec.segments second) :=
      byteText_injective same
    have left : identityCodec.fromSlice (encodeSegments (identityCodec.segments first)) = .ok first :=
      identityCodec.reads rfl
    have right : identityCodec.fromSlice (encodeSegments (identityCodec.segments second)) = .ok second :=
      identityCodec.reads rfl
    rw [bytes, right] at left
    exact (Except.ok.inj left).symm
  uuid _ := rfl

/-- A request of a small record. -/
def sampleMemoryWrite : DependencyMemoryWriteRequest := ⟨"scope", "source", "content", 0⟩

/-- The disk behind the first byte of a cut append. -/
def cutMemoryDisk : MemoryDisk := ⟨some [1], ∅⟩

/-- The disk behind a cut quarantine of that byte. -/
def tornMemoryDisk : MemoryDisk := ⟨some [1], (∅ : Directory).insert (memoryTailName [1]) []⟩

/-- A write that is cut behind the first byte of its record. -/
def cutMemoryWrite : MemoryLabel := ⟨.writeCut sampleMemoryWrite, [], false⟩

/-- A query that is cut behind the creation of the file of the quarantined tail. -/
def tornMemoryQuery : MemoryLabel := ⟨.queryCut ⟨"scope", "content", 1⟩, [], true⟩

theorem length_encodeSegments (segments : List (List UInt8)) :
    (encodeSegments segments).length = (segments.map fun segment => 2 * segment.length + 1).sum := by
  have one : ∀ segment : List UInt8, (encodeSegment segment).length = 2 * segment.length + 1 := by
    intro segment
    simp [encodeSegment, List.length_flatMap, Nat.mul_comm]
  simp [encodeSegments, List.length_flatMap, one]

theorem length_lineSegment (text : String) : (lineSegment text).length = 6 * text.length := by
  have bytes : ∀ bytes : List UInt8, (nibbles bytes).length = 2 * bytes.length := by
    intro bytes
    simp [nibbles, List.length_flatMap, Nat.mul_comm]
  have characters : (textSegment text).length = 3 * text.length := by
    simp [textSegment, charSegment, List.length_flatMap, Nat.mul_comm, String.length_toList]
  rw [lineSegment, bytes, characters]
  omega

theorem length_byteText (bytes : List UInt8) : (byteText bytes).length = bytes.length := by
  simp [byteText]

theorem sampleMemoryWrite_small : (MemoryLibrary.encode sampleMemoryWrite.record).length ≤ recordLimit := by
  simp [MemoryLibrary.encode, sampleMemoryWrite, DependencyMemoryWriteRequest.record, StoredFileRecord.seal,
    StoredFileRecord.expectedChecksum, memoryRecordId, MemoryLibrary.digest, MemoryLibrary.uuidOf,
    MemoryLibrary.checksumBytes, MemoryLibrary.identityBytes, fileRecordCodec, identityCodec, stampSegments,
    length_encodeSegments, length_lineSegment, length_byteText, countSegment, recordLimit]
  decide

theorem length_encode (record : StoredFileRecord) : 1 < (MemoryLibrary.encode record).length := by
  simp only [MemoryLibrary.encode, length_encodeSegments, fileRecordCodec, List.cons_append, List.map_cons,
    List.sum_cons]
  omega

theorem prefix_encode {record : StoredFileRecord} (version : record.schemaVersion = 1) :
    [1] <+: MemoryLibrary.encode record := by
  have front : MemoryLibrary.encode record = encodeSegment (countSegment record.schemaVersion) ++
      encodeSegments (fileRecordCodec.segments record).tail := rfl
  rw [front, version]
  exact ⟨1 :: 0 :: _, rfl⟩

theorem cutMemory_run : Run MemoryTransition ⟨none, ∅⟩ [cutMemoryWrite] cutMemoryDisk := by
  have valid : validateWrite sampleMemoryWrite = .ok () := by decide
  have writes : FileMemoryDependency.write sampleMemoryWrite ⟨none, ∅⟩ =
      (.ok ⟨memoryRecordId sampleMemoryWrite, true⟩, [.openJournal, .append sampleMemoryWrite.record]) := by
    have fits : ¬ (MemoryLibrary.encode sampleMemoryWrite.record).length > recordLimit :=
      Nat.not_lt.mpr sampleMemoryWrite_small
    rw [FileMemoryDependency.write, valid]
    change (if (MemoryLibrary.encode sampleMemoryWrite.record).length > recordLimit then _ else _) = _
    rw [if_neg fits]
    rfl
  have cut : MemoryTransition ⟨none, ∅⟩ cutMemoryWrite cutMemoryDisk := by
    change MemoryCut (FileMemoryDependency.write sampleMemoryWrite ⟨none, ∅⟩).2 _ _ _ _
    rw [writes]
    refine .passed (by simp) ?_
    have front : [1] <+: recordLine sampleMemoryWrite.record := List.prefix_append_of_prefix (prefix_encode rfl)
    have open_ : ¬ MemoryLibrary.encode sampleMemoryWrite.record <+: [1] := fun inside =>
      absurd (length_encode sampleMemoryWrite.record) (Nat.not_lt.mpr inside.length_le)
    have cut : MemoryCut [.append sampleMemoryWrite.record] (MemoryStep.apply ⟨none, ∅⟩ .openJournal) _ _ _ :=
      .appended front
    rwa [if_neg open_] at cut
  exact Run.nil.snoc cut

theorem cutMemory_part : IsPart [1] :=
  ⟨by simp, sampleMemoryWrite.record, prefix_encode rfl, fun same =>
    absurd (length_encode sampleMemoryWrite.record) (Nat.not_lt.mpr (congrArg List.length same).ge)⟩

theorem tornMemory_run : Run MemoryTransition ⟨none, ∅⟩ [cutMemoryWrite, tornMemoryQuery] tornMemoryDisk := by
  have lawful := sampleMemoryLibrary_lawful
  have repairs : repairFileTail cutMemoryDisk = .ok [.quarantine (memoryTailName [1]) [1], .truncate 0] := by
    have holds : cutMemoryDisk.journal.getD [] = journalOf [] ++ [1] := rfl
    rw [repairFileTail_partly (by simp) cutMemory_part holds]
    simp [quarantineMemoryTail, cutMemoryDisk, journalOf]
  have queries : (FileMemoryDependency.query ⟨"scope", "content", 1⟩ cutMemoryDisk).2 =
      [.quarantine (memoryTailName [1]) [1], .truncate 0] := by
    have valid : validateQuery ⟨"scope", "content", 1⟩ = .ok () := by decide
    rw [FileMemoryDependency.query, valid]
    simp [cutMemoryDisk] at repairs ⊢
    rw [repairs]
  have cut : MemoryTransition cutMemoryDisk tornMemoryQuery tornMemoryDisk := by
    change MemoryCut (FileMemoryDependency.query ⟨"scope", "content", 1⟩ cutMemoryDisk).2 _ _ _ _
    rw [queries]
    exact .torn List.nil_prefix (by simp)
  exact cutMemory_run.snoc cut

/-- Behind a query that is cut while the tail is quarantined, no write or query recovers. -/
theorem memory_torn : Run MemoryTransition ⟨none, ∅⟩ [cutMemoryWrite, tornMemoryQuery] tornMemoryDisk ∧
    repairFileTail tornMemoryDisk = .error .corruptRecord ∧
    ¬ MemoryRecovers [cutMemoryWrite, tornMemoryQuery] tornMemoryDisk := by
  have lawful := sampleMemoryLibrary_lawful
  have fails : repairFileTail tornMemoryDisk = .error .corruptRecord := by
    have holds : tornMemoryDisk.journal.getD [] = journalOf [] ++ [1] := rfl
    have empty : tornMemoryDisk.quarantine[memoryTailName [1]]? = some [] := by
      rw [tornMemoryDisk, StringMap.getElem?_insert', if_pos rfl]
    exact repairFileTail_torn (by simp) cutMemory_part holds empty (by simp)
  refine ⟨tornMemory_run, fails, fun recovers => ?_⟩
  obtain ⟨steps, returns, -⟩ := recovers.repairs
  rw [fails] at returns
  cases returns

/-- Behind the cut write, every write and query recovers. -/
theorem memory_recovers_cut : MemoryRecovers [cutMemoryWrite] cutMemoryDisk := by
  have lawful := sampleMemoryLibrary_lawful
  exact (memory_recovers cutMemory_run).mpr (by simp [cutMemoryWrite]) [cutMemoryWrite] [] cutMemoryDisk rfl cutMemory_run .nil

end Sample

end AgentMod
