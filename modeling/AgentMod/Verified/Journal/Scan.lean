import AgentMod.Journal.Frames

/-! A scan goes through the lines one by one, and agrees with the location of an invalid tail. -/

namespace AgentMod

@[simp] theorem checkedAdd_eq_ok {left right sum : Nat} {overflow : JournalDependencyError} :
    checkedAdd left right overflow = .ok sum ↔ left + right ≤ maxCounter ∧ left + right = sum := by
  unfold checkedAdd
  split <;> simp_all

section Journal

variable [JournalSerde] [Hashing]

theorem scanFrom_eq {state : ScanState} {line bytes : List UInt8} (free : newline ∉ line) :
    scanFrom state line bytes = (splitInclusive newline (line ++ bytes)).foldlM scanLine state := by
  -- The buffered line grows until its newline is read.
  induction bytes generalizing state line with
  | nil =>
    rw [scanFrom, List.append_nil]
    by_cases empty : line = []
    · rw [if_pos empty, empty]
      rfl
    · rw [if_neg empty, splitInclusive_of_not_mem empty free, List.foldlM_cons]
      simp
  | cons byte rest ih =>
    rw [scanFrom]
    split
    · next ends =>
      subst ends
      rw [splitInclusive_line free, List.foldlM_cons]
      congr 1
      funext next
      exact ih List.not_mem_nil
    · next other =>
      have longer : newline ∉ line ++ [byte] := by
        rw [List.mem_append, List.mem_singleton, not_or]
        exact ⟨free, fun same => other same.symm⟩
      rw [ih longer, List.append_assoc, List.singleton_append]

theorem scanFrom_initial {bytes : List UInt8} :
    scanFrom .initial [] bytes = (splitInclusive newline bytes).foldlM scanLine .initial :=
  scanFrom_eq List.not_mem_nil

/-- What a line adds to the scan. -/
structure Reads (state : ScanState) (line : List UInt8) (stored : StoredFrame)
    (eventJson : List UInt8) (next : ScanState) : Prop where
  terminated : line.getLast? = some newline
  parses : JournalSerde.frameFromSlice line.dropLast = .ok stored
  valid : validateStoredFrame stored state.expectedSequence state.previousChecksum
    state.validBytes = .ok ()
  fresh : stored.eventId ∉ state.eventIds
  prints : JournalSerde.valueToVec stored.event = .ok eventJson
  sequenceFits : state.expectedSequence + 1 ≤ maxCounter
  lengthFits : state.validBytes + line.length ≤ maxCounter
  next : next = {
    records := state.records ++ [⟨stored.sequence, stored.eventId, stored.checksum,
      stored.previousChecksum, eventJson, state.validBytes⟩]
    validBytes := state.validBytes + line.length
    expectedSequence := state.expectedSequence + 1
    previousChecksum := some stored.checksum
    eventIds := state.eventIds.insert stored.eventId }

theorem scanLine_eq_ok {state next : ScanState} {line : List UInt8} :
    scanLine state line = .ok next ↔ ∃ stored eventJson, Reads state line stored eventJson next := by
  simp only [scanLine, bind_eq_ok, exists_unit, refuseIf_eq_ok, mapError_eq_ok, checkedAdd_eq_ok,
    pure_eq_ok, not_not]
  constructor
  · rintro ⟨terminated, stored, parses, valid, fresh, eventJson, prints, _, ⟨sequenceFits, rfl⟩, _,
      ⟨lengthFits, rfl⟩, rfl⟩
    exact ⟨stored, eventJson, terminated, parses, valid, by simpa using fresh, prints, sequenceFits,
      lengthFits, rfl⟩
  · rintro ⟨stored, eventJson, reads⟩
    exact ⟨reads.terminated, stored, reads.parses, reads.valid, by simpa using reads.fresh,
      eventJson, reads.prints, _, ⟨reads.sequenceFits, rfl⟩, _, ⟨reads.lengthFits, rfl⟩,
      reads.next.symm⟩

theorem validateStoredFrame_isOk {stored : StoredFrame} {expectedSequence offset : Nat}
    {expectedPrevious : Option String} :
    validateStoredFrame stored expectedSequence expectedPrevious offset = .ok () ↔
      stored.sequence = expectedSequence ∧ stored.previousChecksum = expectedPrevious ∧
      checksumRecord stored.sequence stored.eventId stored.previousChecksum stored.event =
        .ok stored.checksum := by
  simp only [validateStoredFrame, bind_eq_ok, exists_unit, refuseIf_eq_ok, not_not]
  constructor
  · rintro ⟨sequence, previous, _, checks, rfl⟩
    exact ⟨sequence, previous, checks⟩
  · rintro ⟨sequence, previous, checks⟩
    exact ⟨sequence, previous, _, checks, rfl⟩

/-- What a successful scan has collected from the lines that it read. -/
structure Coherent (lines : List (List UInt8)) (state : ScanState) : Prop where
  terminated : ∀ line ∈ lines, line.getLast? = some newline
  validBytes : state.validBytes = lines.flatten.length
  fits : state.validBytes ≤ maxCounter
  expectedSequence : state.expectedSequence = state.records.length + 1
  expectedFits : state.expectedSequence ≤ maxCounter
  decoded : List.Forall₂ Decodes lines state.records
  previousChecksum : state.previousChecksum =
    state.records.getLast?.map DependencyJournalRecord.checksum
  eventIds : ∀ eventId, eventId ∈ state.eventIds ↔
    ∃ record ∈ state.records, record.eventId = eventId
  head : ∀ last ∈ state.records.getLast?, last.sequence = state.records.length

theorem Coherent.step {lines : List (List UInt8)} {line : List UInt8} {state next : ScanState}
    (coherent : Coherent lines state) (reads : scanLine state line = .ok next) :
    Coherent (lines ++ [line]) next := by
  obtain ⟨stored, eventJson, reads⟩ := scanLine_eq_ok.mp reads
  obtain ⟨sequence, _, _⟩ := validateStoredFrame_isOk.mp reads.valid
  rw [reads.next]
  constructor
  · intro other member
    rcases List.mem_append.mp member with earlier | last
    · exact coherent.terminated other earlier
    · exact List.mem_singleton.mp last ▸ reads.terminated
  · rw [coherent.validBytes, List.flatten_append, List.length_append, List.flatten_singleton]
  · exact reads.lengthFits
  · rw [coherent.expectedSequence, List.length_append, List.length_singleton]
  · exact reads.sequenceFits
  · refine List.rel_append coherent.decoded (.cons ?_ .nil)
    exact ⟨stored, eventJson, reads.parses, reads.prints, rfl⟩
  · rw [List.getLast?_append, List.getLast?_singleton, Option.some_or, Option.map_some]
  · intro eventId
    rw [Std.ExtTreeSet.mem_insert, Std.LawfulEqCmp.compare_eq_iff_eq, coherent.eventIds]
    simp only [List.mem_append, List.mem_singleton, or_and_right, exists_or, exists_eq_left]
    exact or_comm
  · intro last member
    rw [List.getLast?_append, List.getLast?_singleton, Option.some_or, Option.mem_def,
      Option.some.injEq] at member
    rw [← member, sequence, coherent.expectedSequence, List.length_append, List.length_singleton]

theorem coherent_of_fold {lines : List (List UInt8)} {state : ScanState}
    (folded : lines.foldlM scanLine .initial = .ok state) : Coherent lines state := by
  refine foldlM_invariant Coherent folded ?_ fun _ _ _ _ _ _ coherent reads => coherent.step reads
  constructor <;> simp [ScanState.initial, maxCounter]

theorem scanReader_eq_ok {bytes : List UInt8} {scan : DependencyScanJournalResponse} :
    scanReader bytes = .ok scan ↔ ∃ state,
      (splitInclusive newline bytes).foldlM scanLine .initial = .ok state ∧
        scan = ⟨state.records, bytes.length⟩ := by
  simp only [scanReader, bind_eq_ok, exists_unit, refuseIf_eq_ok, pure_eq_ok, not_not,
    scanFrom_initial]
  constructor
  · rintro ⟨state, folded, complete, rfl⟩
    exact ⟨state, folded, by rw [complete]⟩
  · rintro ⟨state, folded, rfl⟩
    have complete := (coherent_of_fold folded).validBytes
    rw [flatten_splitInclusive] at complete
    exact ⟨state, folded, complete, by rw [complete]⟩

/-- What the location of an invalid tail keeps of a scan. -/
def ScanState.tail (state : ScanState) : TailState :=
  ⟨state.validBytes, state.expectedSequence, state.previousChecksum, state.eventIds⟩

/-- A frame of a line, where the line is complete and valid. -/
def TailState.accepts (state : TailState) (line : List UInt8) : Option StoredFrame :=
  if line.getLast? = some newline then state.valid (lineContent line) else none

theorem accepts_eq_some {state : ScanState} {line : List UInt8} {stored : StoredFrame} :
    state.tail.accepts line = some stored ↔ line.getLast? = some newline ∧
      JournalSerde.frameFromSlice line.dropLast = .ok stored ∧
      validateStoredFrame stored state.expectedSequence state.previousChecksum
        state.validBytes = .ok () ∧ stored.eventId ∉ state.eventIds := by
  unfold TailState.accepts
  by_cases terminated : line.getLast? = some newline
  · rw [if_pos terminated, TailState.valid, lineContent, if_pos terminated]
    cases parsed : JournalSerde.frameFromSlice line.dropLast with
    | error detail => simp
    | ok frame =>
      have isOk : ∀ outcome : Journaling Unit, outcome.isOk ↔ outcome = .ok () := by
        intro outcome
        cases outcome <;> simp [Except.isOk, Except.toBool]
      have same : ∀ offset, validateStoredFrame frame state.expectedSequence
          state.previousChecksum offset = .ok () ↔ validateStoredFrame frame
            state.expectedSequence state.previousChecksum state.validBytes = .ok () := by
        intro offset
        rw [validateStoredFrame_isOk, validateStoredFrame_isOk]
      simp only [ScanState.tail, isOk, same, Option.ite_none_right_eq_some, Option.some.injEq,
        Except.ok.injEq, terminated, true_and, Std.ExtTreeSet.mem_iff_contains]
      constructor
      · rintro ⟨⟨valid, fresh⟩, rfl⟩
        exact ⟨rfl, valid, fresh⟩
      · rintro ⟨rfl, valid, fresh⟩
        exact ⟨⟨valid, fresh⟩, rfl⟩
  · simp [terminated]

theorem scanLine_of_rejects {state next : ScanState} {line : List UInt8}
    (rejects : state.tail.accepts line = none) : scanLine state line ≠ .ok next := by
  intro reads
  obtain ⟨stored, eventJson, reads⟩ := scanLine_eq_ok.mp reads
  have accepted := accepts_eq_some.mpr
    ⟨reads.terminated, reads.parses, reads.valid, reads.fresh⟩
  rw [rejects] at accepted
  cases accepted

/-- Behind an accepted line both traversals continue in the same state, or both overflow. -/
theorem locateFrom_of_accepts (prints : PrintsValues) {state : ScanState} {line : List UInt8}
    {stored : StoredFrame} (accepts : state.tail.accepts line = some stored)
    (rest : List (List UInt8)) :
    (∃ next, scanLine state line = .ok next ∧
      locateFrom state.tail (line :: rest) = locateFrom next.tail rest) ∨
    (∀ next, scanLine state line ≠ .ok next) ∧
      ∃ error, locateFrom state.tail (line :: rest) = .error error := by
  obtain ⟨terminated, parses, valid, fresh⟩ := accepts_eq_some.mp accepts
  obtain ⟨eventJson, printed⟩ := prints stored.event
  have continues : locateFrom state.tail (line :: rest) = (do
      let expectedSequence ← checkedAdd state.expectedSequence 1 .sequenceOverflow
      let offset ← checkedAdd state.validBytes line.length .lengthOverflow
      locateFrom ⟨offset, expectedSequence, some stored.checksum,
        state.eventIds.insert stored.eventId⟩ rest) := by
    unfold TailState.accepts at accepts
    rw [locateFrom, accepts]
    rfl
  rw [continues]
  by_cases sequenceFits : state.expectedSequence + 1 ≤ maxCounter
  · by_cases lengthFits : state.validBytes + line.length ≤ maxCounter
    · refine .inl ⟨_, scanLine_eq_ok.mpr ⟨stored, eventJson, terminated, parses, valid, fresh,
        printed, sequenceFits, lengthFits, rfl⟩, ?_⟩
      rw [checkedAdd, if_pos sequenceFits, checkedAdd, if_pos lengthFits]
      rfl
    · refine .inr ⟨fun next reads => ?_, .lengthOverflow, ?_⟩
      · obtain ⟨_, _, reads⟩ := scanLine_eq_ok.mp reads
        exact lengthFits reads.lengthFits
      · rw [checkedAdd, if_pos sequenceFits, checkedAdd, if_neg lengthFits]
        rfl
  · refine .inr ⟨fun next reads => ?_, .sequenceOverflow, ?_⟩
    · obtain ⟨_, _, reads⟩ := scanLine_eq_ok.mp reads
      exact sequenceFits reads.sequenceFits
    · rw [checkedAdd, if_neg sequenceFits]
      rfl

/-- The ways the location of an invalid tail can end, in terms of a scan of the same lines. -/
inductive Locates (state : ScanState) (lines : List (List UInt8)) :
    Journaling (Option Nat) → Prop where
  | clean {finish : ScanState} (reads : lines.foldlM scanLine state = .ok finish) :
      Locates state lines (.ok none)
  | torn {finish : ScanState} (init : List (List UInt8)) (last : List UInt8)
      (cut : lines = init ++ [last]) (reads : init.foldlM scanLine state = .ok finish)
      (stops : ∀ next, scanLine finish last ≠ .ok next) :
      Locates state lines (.ok (some finish.validBytes))
  | failed {error : JournalDependencyError}
      (fails : ∀ finish, lines.foldlM scanLine state ≠ .ok finish) :
      Locates state lines (.error error)

theorem foldlM_scanLine_cons {state next : ScanState} {line : List UInt8}
    {rest : List (List UInt8)} (reads : scanLine state line = .ok next) :
    (line :: rest).foldlM scanLine state = rest.foldlM scanLine next := by
  rw [List.foldlM_cons, reads]
  rfl

theorem foldlM_scanLine_of_stops {state : ScanState} {line : List UInt8} {rest : List (List UInt8)}
    (stops : ∀ next, scanLine state line ≠ .ok next) (finish : ScanState) :
    (line :: rest).foldlM scanLine state ≠ .ok finish := by
  intro reads
  rw [List.foldlM_cons, bind_eq_ok] at reads
  obtain ⟨next, reads, _⟩ := reads
  exact stops next reads

theorem Locates.cons {state next : ScanState} {line : List UInt8} {rest : List (List UInt8)}
    {outcome : Journaling (Option Nat)} (reads : scanLine state line = .ok next)
    (ends : Locates next rest outcome) : Locates state (line :: rest) outcome := by
  cases ends with
  | clean before => exact .clean ((foldlM_scanLine_cons reads).trans before)
  | torn init last cut before stops =>
    subst cut
    exact .torn (line :: init) last rfl ((foldlM_scanLine_cons reads).trans before) stops
  | failed fails =>
    refine .failed fun finish before => fails finish ?_
    rw [← foldlM_scanLine_cons reads]
    exact before

theorem locates (prints : PrintsValues) (lines : List (List UInt8)) (state : ScanState) :
    Locates state lines (locateFrom state.tail lines) := by
  induction lines generalizing state with
  | nil => exact .clean rfl
  | cons line rest ih =>
    cases accepts : state.tail.accepts line with
    | none =>
      -- The line that is not accepted is the torn tail, or lies in front of other lines.
      have stops := fun next => @scanLine_of_rejects _ _ state next line accepts
      have fails := @foldlM_scanLine_of_stops _ _ state line rest stops
      unfold TailState.accepts at accepts
      rw [locateFrom, accepts]
      by_cases last : rest = []
      · subst last
        exact .torn [] line rfl rfl stops
      · simp only [if_neg last]
        split
        · exact .failed fails
        · exact .failed fails
    | some stored =>
      rcases locateFrom_of_accepts prints accepts rest with
        ⟨next, reads, continues⟩ | ⟨stops, error, overflows⟩
      · rw [continues]
        exact (ih next).cons reads
      · rw [overflows]
        exact .failed (foldlM_scanLine_of_stops stops)

theorem locates_journal (prints : PrintsValues) (bytes : List UInt8) :
    Locates .initial (splitInclusive newline bytes) (locateInvalidTail bytes) :=
  locates prints _ _

theorem Locates.tail_eq {state : ScanState} {lines : List (List UInt8)} {offset : Nat}
    (ends : Locates state lines (.ok (some offset))) : ∃ init last finish,
      lines = init ++ [last] ∧ init.foldlM scanLine state = .ok finish ∧
      finish.validBytes = offset ∧ ∀ next, scanLine finish last ≠ .ok next := by
  cases ends with
  | torn init last cut reads stops => exact ⟨init, last, _, cut, reads, rfl, stops⟩

theorem Locates.fails {state : ScanState} {lines : List (List UInt8)}
    {outcome : Journaling (Option Nat)} (ends : Locates state lines outcome)
    (unclean : outcome ≠ .ok none) (finish : ScanState) :
    lines.foldlM scanLine state ≠ .ok finish := by
  cases ends with
  | clean => exact absurd rfl unclean
  | torn init last cut reads stops =>
    -- The last line stops a scan that has read the lines before.
    intro folded
    rw [cut, List.foldlM_append, reads] at folded
    exact foldlM_scanLine_of_stops stops finish folded
  | failed fails => exact fails finish

theorem scan_before_tail (prints : PrintsValues) {bytes : List UInt8} {offset : Nat}
    (located : locateInvalidTail bytes = .ok (some offset)) :
    (∃ scan, scanReader (bytes.take offset) = .ok scan ∧
      List.Forall₂ Decodes (splitInclusive newline bytes).dropLast scan.records) ∧
    bytes.drop offset ≠ [] ∧ newline ∉ (bytes.drop offset).dropLast := by
  have ends := locates_journal prints bytes
  rw [located] at ends
  obtain ⟨init, last, finish, cut, reads, here, _⟩ := ends.tail_eq
  obtain ⟨before, same, _, lines, nonempty, only⟩ := split_last cut
  -- The offset is the length of the lines that were read.
  have length : before.length = offset := by
    rw [← here, (coherent_of_fold reads).validBytes, ← lines, flatten_splitInclusive]
  subst same
  rw [← length, List.take_left, List.drop_left]
  refine ⟨⟨⟨finish.records, before.length⟩, scanReader_eq_ok.mpr ⟨finish, ?_, rfl⟩, ?_⟩, nonempty,
    only⟩
  · rw [lines]
    exact reads
  · rw [cut, List.dropLast_concat]
    exact (coherent_of_fold reads).decoded

theorem recoverTail_of_error {directory : SessionDirectory} {bytes : List UInt8}
    {error : JournalDependencyError} (journal : directory.journal = some bytes)
    (located : locateInvalidTail bytes = .error error) (label : String) :
    ∃ error, (recoverTail label).apply directory = (.error error, directory) := by
  by_cases isLabel : isQuarantineLabel label
  · refine ⟨error, ?_⟩
    simp [recoverTail, Updating.apply_bind, isLabel, journal, located]
  · refine ⟨.invalidQuarantineLabel, ?_⟩
    simp [recoverTail, isLabel]

/-- A scan and the location of an invalid tail classify every journal in the same way. -/
theorem scan_and_recovery_agree (prints : PrintsValues) (bytes : List UInt8) :
    (locateInvalidTail bytes = .ok none ↔ ∃ scan, scanReader bytes = .ok scan) ∧
    (∀ offset, locateInvalidTail bytes = .ok (some offset) →
      (∀ scan, scanReader bytes ≠ .ok scan) ∧
      (∃ scan, scanReader (bytes.take offset) = .ok scan ∧
        List.Forall₂ Decodes (splitInclusive newline bytes).dropLast scan.records) ∧
      bytes.drop offset ≠ [] ∧ newline ∉ (bytes.drop offset).dropLast) ∧
    ∀ offset, locateInvalidTail bytes = .error (.interiorCorruption offset) →
      (∀ scan, scanReader bytes ≠ .ok scan) ∧
      ∀ label directory, directory.journal = some bytes →
        ∃ error, (recoverTail label).apply directory = (.error error, directory) := by
  have ends := locates_journal prints bytes
  have fails : locateInvalidTail bytes ≠ .ok none → ∀ scan, scanReader bytes ≠ .ok scan := by
    intro unclean scan scans
    obtain ⟨state, folded, _⟩ := scanReader_eq_ok.mp scans
    exact ends.fails unclean state folded
  refine ⟨?_, fun offset located => ?_, fun offset located => ?_⟩
  · constructor
    · intro located
      rw [located] at ends
      cases ends with
      | clean reads => exact ⟨_, scanReader_eq_ok.mpr ⟨_, reads, rfl⟩⟩
    · rintro ⟨scan, scans⟩
      by_contra unclean
      exact fails unclean scan scans
  · exact ⟨fails (by rw [located]; simp), scan_before_tail prints located⟩
  · exact ⟨fails (by rw [located]; simp), fun label _ journal =>
      recoverTail_of_error journal located label⟩

end Journal

section Sample

attribute [local instance] plainJournal prefixHash

/-- A journal with a torn line is classified. -/
theorem scan_and_recovery_agree_sample :
    (locateInvalidTail [49, newline, 49] = .ok none ↔
      ∃ scan, scanReader [49, newline, 49] = .ok scan) ∧
    (∀ offset, locateInvalidTail [49, newline, 49] = .ok (some offset) →
      (∀ scan, scanReader [49, newline, 49] ≠ .ok scan) ∧
      (∃ scan, scanReader ([49, newline, 49].take offset) = .ok scan ∧
        List.Forall₂ Decodes (splitInclusive newline [49, newline, 49]).dropLast scan.records) ∧
      [49, newline, 49].drop offset ≠ [] ∧ newline ∉ ([49, newline, 49].drop offset).dropLast) ∧
    ∀ offset, locateInvalidTail [49, newline, 49] = .error (.interiorCorruption offset) →
      (∀ scan, scanReader [49, newline, 49] ≠ .ok scan) ∧
      ∀ label directory, directory.journal = some [49, newline, 49] →
        ∃ error, (recoverTail label).apply directory = (.error error, directory) :=
  scan_and_recovery_agree (fun _ => ⟨_, rfl⟩) _

end Sample

end AgentMod
