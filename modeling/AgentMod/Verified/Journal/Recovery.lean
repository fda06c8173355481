import AgentMod.Verified.Journal.Scan

/-! A journal that was built by appends survives a crash in the middle of another one. -/

namespace AgentMod

theorem writeAt_length (bytes data : List UInt8) :
    writeAt bytes bytes.length data = bytes ++ data := by
  simp [writeAt]

theorem openJournal_apply (directory : SessionDirectory) : openJournal.apply directory =
    (.ok directory.bytes, { directory with journal := some directory.bytes }) := rfl

section Journal

variable [JournalSerde] [Hashing]

/-- The frame of a request behind a previous checksum. -/
def DependencyAppendJournalRequest.frame (request : DependencyAppendJournalRequest)
    (previousChecksum : Option String) (checksum : String) (event : Json) : StoredFrame :=
  ⟨request.sequence, request.eventId, previousChecksum, checksum, request.eventJson.length, event⟩

/-- The frame that an append adds, and how it is encoded. -/
structure Encodes (request : DependencyAppendJournalRequest) (scan : DependencyScanJournalResponse)
    (frame : StoredFrame) (encoded : List UInt8) : Prop where
  sequence : request.sequence =
    (scan.records.getLast?.map fun record => min (record.sequence + 1) maxCounter).getD 1
  head : ∀ expected, request.expectedHeadEventId = some expected →
    scan.records.getLast?.map DependencyJournalRecord.eventId = some expected
  fresh : ∀ record ∈ scan.records, record.eventId ≠ request.eventId
  built : ∃ event checksum, JournalSerde.valueFromSlice request.eventJson = .ok event ∧
    checksumRecord request.sequence request.eventId
      (scan.records.getLast?.map DependencyJournalRecord.checksum) event = .ok checksum ∧
    frame = request.frame (scan.records.getLast?.map DependencyJournalRecord.checksum) checksum event
  encoded : ∃ printed, JournalSerde.frameToVec frame = .ok printed ∧ encoded = printed ++ [newline]

theorem nextFrame_eq_ok {request : DependencyAppendJournalRequest}
    {scan : DependencyScanJournalResponse} {frame : StoredFrame} {encoded : List UInt8} :
    nextFrame request scan = .ok (frame, encoded) ↔ Encodes request scan frame encoded := by
  simp only [nextFrame, bind_eq_ok, exists_unit, refuseIf_eq_ok, forM_eq_ok, mapError_eq_ok,
    pure_eq_ok, not_not, Option.mem_toList, List.any_eq_true, beq_iff_eq,
    not_exists, not_and, Prod.mk.injEq]
  constructor
  · rintro ⟨sequence, head, fresh, event, parsed, checksum, checks, printed, prints, rfl, rfl⟩
    exact ⟨sequence, head, fresh, ⟨event, checksum, parsed, checks, rfl⟩, printed, prints, rfl⟩
  · rintro ⟨sequence, head, fresh, ⟨event, checksum, parsed, checks, rfl⟩, printed, prints, rfl⟩
    exact ⟨sequence, head, fresh, event, parsed, checksum, checks, printed, prints, rfl, rfl⟩

/-- An append succeeds exactly when the journal scans, the request fits and the file does not grow
too long; then the frame is added to the end of the file. -/
theorem append_eq_ok {request : DependencyAppendJournalRequest} {directory next : SessionDirectory}
    {response : DependencyAppendJournalResponse} :
    (append request).apply directory = (.ok response, next) ↔ request.sequence ≠ 0 ∧
      ∃ scan frame encoded, scanReader directory.bytes = .ok scan ∧
        nextFrame request scan = .ok (frame, encoded) ∧
        scan.validBytes + encoded.length ≤ maxCounter ∧
        response = ⟨scan.validBytes, frame.checksum, scan.validBytes + encoded.length⟩ ∧
        next = { directory with
          journal := some (writeAt directory.bytes scan.validBytes encoded) } := by
  by_cases zero : request.sequence = 0
  · simp [append, zero]
  · constructor
    · intro applies
      simp only [append, zero, if_false, Updating.apply_bind_eq_ok, openJournal_apply,
        Updating.apply_pure, Updating.apply_ofExcept, Updating.apply_modify, Prod.mk.injEq,
        Except.ok.injEq, checkedAdd_eq_ok] at applies
      obtain ⟨_, _, ⟨rfl, rfl⟩, scan, _, ⟨scans, rfl⟩, ⟨frame, encoded⟩, _, ⟨framed, rfl⟩,
        _, _, ⟨-, rfl⟩, _, _, ⟨⟨fits, rfl⟩, rfl⟩, rfl, rfl⟩ := applies
      exact ⟨zero, scan, frame, encoded, scans, framed, fits, rfl, rfl⟩
    · rintro ⟨_, scan, frame, encoded, scans, framed, fits, rfl, rfl⟩
      simp only [append, zero, if_false, Updating.apply_bind, openJournal_apply,
        Updating.apply_ofExcept, Updating.apply_modify, Updating.apply_pure, scans, framed,
        checkedAdd, fits, if_true]

/-- A journal that appends have built: its lines scan, and its records are the appended events. -/
structure Built (appended : List Appended) (directory : SessionDirectory) (state : ScanState) :
    Prop where
  scans : (splitInclusive newline directory.bytes).foldlM scanLine .initial = .ok state
  keys : state.records.map DependencyJournalRecord.key = appended.map Appended.key
  spacious : 2 * appended.length ≤ directory.bytes.length

section Built

variable {appended : List Appended} {directory : SessionDirectory} {state : ScanState}
  (built : Built appended directory state)
include built

theorem Built.coherent : Coherent (splitInclusive newline directory.bytes) state :=
  coherent_of_fold built.scans

theorem Built.scanReader : scanReader directory.bytes = .ok ⟨state.records, directory.bytes.length⟩ :=
  scanReader_eq_ok.mpr ⟨state, built.scans, rfl⟩

theorem Built.terminated : Terminated newline directory.bytes :=
  terminated_of_lines built.coherent.terminated

theorem Built.length : state.records.length = appended.length := by
  have lengths := congrArg List.length built.keys
  rwa [List.length_map, List.length_map] at lengths

theorem Built.expected :
    (state.records.getLast?.map fun record => min (record.sequence + 1) maxCounter).getD 1 =
      appended.length + 1 := by
  have fits := built.coherent.expectedFits
  rw [built.coherent.expectedSequence] at fits
  rw [← built.length]
  cases last : state.records.getLast? with
  | none =>
    rw [List.getLast?_eq_none_iff] at last
    rw [last]
    rfl
  | some record =>
    rw [Option.map_some, Option.getD_some, built.coherent.head record last]
    exact Nat.min_eq_left fits

theorem Built.head : state.records.getLast?.map DependencyJournalRecord.eventId =
    appended.getLast?.map fun last => last.1.eventId := by
  have same := congrArg (fun keys => keys.getLast?.map Prod.snd) built.keys
  simpa [List.getLast?_map, Function.comp_def, DependencyJournalRecord.key, Appended.key] using same

theorem Built.mem_eventIds (eventId : String) :
    (∃ record ∈ state.records, record.eventId = eventId) ↔
      ∃ earlier ∈ appended, earlier.1.eventId = eventId := by
  have same := congrArg (fun keys => eventId ∈ keys.map Prod.snd) built.keys
  simpa [DependencyJournalRecord.key, Appended.key] using same

end Built

theorem locateFrom_append (prints : PrintsValues) {init rest : List (List UInt8)}
    {state finish : ScanState} (reads : init.foldlM scanLine state = .ok finish) :
    locateFrom state.tail (init ++ rest) = locateFrom finish.tail rest := by
  induction init generalizing state with
  | nil =>
    rw [List.foldlM_nil, pure_eq_ok] at reads
    rw [reads, List.nil_append]
  | cons line init ih =>
    rw [List.foldlM_cons, bind_eq_ok] at reads
    obtain ⟨next, here, later⟩ := reads
    obtain ⟨stored, _, read⟩ := scanLine_eq_ok.mp here
    have accepts := accepts_eq_some.mpr ⟨read.terminated, read.parses, read.valid, read.fresh⟩
    rcases locateFrom_of_accepts prints accepts (init ++ rest) with
      ⟨other, again, continues⟩ | ⟨stops, _⟩
    · obtain rfl := Except.ok.inj (here.symm.trans again)
      rw [List.cons_append, continues]
      exact ih later
    · exact absurd here (stops next)

theorem recoverTail_clean {directory : SessionDirectory} {label : String} (isLabel : isQuarantineLabel label)
    (journal : directory.journal = some directory.bytes)
    (fits : directory.bytes.length ≤ maxCounter)
    (located : locateInvalidTail directory.bytes = .ok none) :
    (recoverTail label).apply directory = (.ok ⟨false, directory.bytes.length, none⟩, directory) := by
  simp only [recoverTail, isLabel, Bool.not_true, Bool.false_eq_true, if_false,
    Updating.apply_bind, Updating.apply_pure, Updating.apply_get, Updating.apply_ofExcept, journal,
    located, checkedAdd, Nat.add_zero, fits, if_true]

theorem recoverTail_torn {directory : SessionDirectory} {label : String} {offset : Nat} (isLabel : isQuarantineLabel label)
    (journal : directory.journal = some directory.bytes)
    (unused : directory.quarantine.contains (quarantineName label) = false)
    (fits : offset ≤ maxCounter)
    (located : locateInvalidTail directory.bytes = .ok (some offset)) :
    (recoverTail label).apply directory =
      (.ok ⟨true, offset, some (quarantineName label)⟩,
        ⟨some (directory.bytes.take offset), directory.quarantine.insert (quarantineName label)
          (directory.bytes.drop offset)⟩) := by
  simp only [recoverTail, writeNewFile, isLabel, Bool.not_true, Bool.false_eq_true, if_false,
    Updating.apply_bind, Updating.apply_pure, Updating.apply_get, Updating.apply_set,
    Updating.apply_modify, Updating.apply_ofExcept, journal, located, checkedAdd, Nat.add_zero,
    fits, if_true, unused]

section Lawful

variable (lawful : LawfulJournal) {request : DependencyAppendJournalRequest}
  {appended : List Appended} {directory next finished crashed : SessionDirectory}
  {response : DependencyAppendJournalResponse} {state : ScanState} {frame : StoredFrame}
  {encoded : List UInt8}
include lawful

theorem Encodes.line {scan : DependencyScanJournalResponse}
    (encodes : Encodes request scan frame encoded) : ∃ printed, encoded = printed ++ [newline] ∧
      printed ≠ [] ∧ newline ∉ printed ∧ JournalSerde.frameFromSlice printed = .ok frame := by
  obtain ⟨printed, prints, rfl⟩ := encodes.encoded
  obtain ⟨event, checksum, _, _, rfl⟩ := encodes.built
  obtain ⟨nonempty, free, parses⟩ :=
    lawful.frames _ printed request.sequenceFits request.lengthFits prints
  exact ⟨printed, rfl, nonempty, free, parses⟩

/-- The line that an append adds is read by the next scan. -/
theorem Built.reads (built : Built appended directory state)
    (encodes : Encodes request ⟨state.records, directory.bytes.length⟩ frame encoded)
    (fits : directory.bytes.length + encoded.length ≤ maxCounter) :
    ∃ later, scanLine state encoded = .ok later ∧ 2 ≤ encoded.length ∧
      later.records.map DependencyJournalRecord.key =
        state.records.map DependencyJournalRecord.key ++ [(request.sequence, request.eventId)] := by
  obtain ⟨printed, rfl, nonempty, free, parses⟩ := encodes.line lawful
  obtain ⟨event, checksum, _, checks, rfl⟩ := encodes.built
  obtain ⟨eventJson, prints⟩ := lawful.values event
  have coherent := built.coherent
  have sequence := encodes.sequence.trans built.expected
  have wide : 2 ≤ (printed ++ [newline]).length := by
    have := List.length_pos_iff.mpr nonempty
    simp only [List.length_append, List.length_singleton]
    omega
  -- The frame follows the chain of the scanned records.
  have valid : validateStoredFrame (request.frame
      (state.records.getLast?.map DependencyJournalRecord.checksum) checksum event)
      state.expectedSequence state.previousChecksum state.validBytes = .ok () := by
    rw [validateStoredFrame_isOk, coherent.expectedSequence, built.length, coherent.previousChecksum]
    exact ⟨sequence, rfl, checks⟩
  have fresh : request.eventId ∉ state.eventIds := by
    rw [coherent.eventIds]
    rintro ⟨record, member, same⟩
    exact encodes.fresh record member same
  have total : state.validBytes = directory.bytes.length := by
    rw [coherent.validBytes, flatten_splitInclusive]
  -- Every frame takes two bytes at least, so the counters are far from their bound.
  have room : state.expectedSequence + 1 ≤ maxCounter := by
    have spacious := built.spacious
    rw [coherent.expectedSequence, built.length]
    omega
  refine ⟨_, scanLine_eq_ok.mpr ⟨_, eventJson, List.getLast?_concat, ?_, valid, fresh, prints, room,
    ?_, rfl⟩, wide, ?_⟩
  · rw [List.dropLast_concat]
    exact parses
  · rw [total]
    exact fits
  · rw [List.map_append]
    rfl

theorem Built.step (built : Built appended directory state)
    (appends : Appends directory (request, response) next) :
    ∃ later, Built (appended ++ [(request, response)]) next later := by
  obtain ⟨_, scan, frame, encoded, scans, framed, fits, _, rfl⟩ := append_eq_ok.mp appends
  obtain rfl := Except.ok.inj (built.scanReader.symm.trans scans)
  obtain ⟨later, reads, wide, keys⟩ := built.reads lawful (nextFrame_eq_ok.mp framed) fits
  obtain ⟨printed, same, nonempty, free, _⟩ := (nextFrame_eq_ok.mp framed).line lawful
  have written : SessionDirectory.bytes { directory with
      journal := some (writeAt directory.bytes directory.bytes.length encoded) } =
        directory.bytes ++ encoded := by
    rw [SessionDirectory.bytes, Option.getD_some, writeAt_length]
  have line : splitInclusive newline encoded = [encoded] := by
    rw [same, splitInclusive_line free, splitInclusive]
  refine ⟨later, ?_, ?_, ?_⟩
  · rw [written, splitInclusive_append built.terminated, line, List.foldlM_append, built.scans]
    exact (foldlM_scanLine_cons reads).trans rfl
  · rw [keys, built.keys, List.map_append]
    rfl
  · have spacious := built.spacious
    rw [written, List.length_append, List.length_append, List.length_singleton]
    omega

theorem built_of_run {start : SessionDirectory} (fresh : start.journal = none)
    (run : Run Appends start appended directory) : ∃ state, Built appended directory state := by
  induction run with
  | nil =>
    have empty : start.bytes = [] := by rw [SessionDirectory.bytes, fresh]; rfl
    exact ⟨.initial, by rw [empty]; rfl, rfl, Nat.zero_le _⟩
  | snoc _ appends ih =>
    obtain ⟨state, built⟩ := ih
    exact built.step lawful appends

theorem Built.appends (built : Built appended directory state)
    (follows : Follows appended ⟨state.records, directory.bytes.length⟩ request) :
    ∃ response next, Appends directory (request, response) next := by
  obtain ⟨event, parsed⟩ := follows.json
  obtain ⟨material, prints⟩ := lawful.materials request.sequence request.eventId
    (state.records.getLast?.map DependencyJournalRecord.checksum) event
  have checks : checksumRecord request.sequence request.eventId
      (state.records.getLast?.map DependencyJournalRecord.checksum) event =
        .ok (Hashing.digest material).toHex := by
    rw [checksumRecord, prints]
    rfl
  let frame := request.frame (state.records.getLast?.map DependencyJournalRecord.checksum)
    (Hashing.digest material).toHex event
  obtain ⟨printed, printsFrame⟩ := follows.prints frame rfl rfl
  have encodes : Encodes request ⟨state.records, directory.bytes.length⟩ frame
      (printed ++ [newline]) := by
    refine ⟨?_, ?_, ?_, ⟨event, _, parsed, checks, rfl⟩, printed, printsFrame, rfl⟩
    · rw [built.expected, follows.sequence]
    · intro expected expects
      rw [built.head]
      exact follows.head expected expects
    · intro record member same
      obtain ⟨earlier, listed, equal⟩ :=
        (built.mem_eventIds request.eventId).mp ⟨record, member, same⟩
      exact follows.fresh earlier listed equal
  have framed := nextFrame_eq_ok.mpr encodes
  refine ⟨_, _, append_eq_ok.mpr ⟨?_, _, frame, _, built.scanReader, framed, follows.fits _ _ framed,
    rfl, rfl⟩⟩
  rw [follows.sequence]
  exact Nat.succ_ne_zero _

theorem Built.clean (built : Built appended directory state) :
    locateInvalidTail directory.bytes = .ok none :=
  (scan_and_recovery_agree lawful.values directory.bytes).1.mpr ⟨_, built.scanReader⟩

theorem Built.torn (built : Built appended directory state) {torn : List UInt8} (nonempty : torn ≠ [])
    (free : newline ∉ torn) :
    locateInvalidTail (directory.bytes ++ torn) = .ok (some directory.bytes.length) := by
  have lines : splitInclusive newline (directory.bytes ++ torn) =
      splitInclusive newline directory.bytes ++ [torn] := by
    rw [splitInclusive_append built.terminated, splitInclusive_of_not_mem nonempty free]
  have total : state.validBytes = directory.bytes.length := by
    rw [built.coherent.validBytes, flatten_splitInclusive]
  have unterminated : torn.getLast? ≠ some newline := fun last => free (List.mem_of_getLast? last)
  rw [locateInvalidTail, lines]
  refine (locateFrom_append lawful.values built.scans).trans ?_
  rw [locateFrom, if_neg unterminated, ← total]
  rfl

theorem Built.recovers (built : Built appended directory state) {recovered : SessionDirectory}
    {label : String} {torn : List UInt8} {outcome : DependencyRecoverJournalResponse}
    (kept : recovered.journal = some directory.bytes)
    (reported : outcome.repaired = decide (torn ≠ []) ∧
      outcome.validBytes = directory.bytes.length)
    (quarantined : recovered.quarantine = if torn = [] then crashed.quarantine
      else crashed.quarantine.insert (quarantineName label) torn) :
    Recovers crashed recovered label directory.bytes torn appended outcome := by
  have same : recovered.bytes = directory.bytes := by rw [SessionDirectory.bytes, kept]; rfl
  have builtHere : Built appended recovered state :=
    ⟨by rw [same]; exact built.scans, built.keys, by rw [same]; exact built.spacious⟩
  refine ⟨kept, reported, quarantined, ⟨state.records, directory.bytes.length⟩, ?_, rfl,
    built.keys, fun request follows => ?_⟩
  · rw [SessionDirectory.scan, kept]
    exact built.scanReader
  · rw [← same] at follows
    exact builtHere.appends lawful follows

/-- A crash in the middle of an append to a journal that appends have built loses nothing but the
frame that was not fully written. -/
theorem journal_crash_recovery {start : SessionDirectory} {cut : List UInt8} {label : String}
    (fresh : start.journal = none) (run : Run Appends start appended directory)
    (appends : Appends directory (request, response) finished)
    (crashes : CrashesDuring directory finished crashed encoded cut)
    (isLabel : isQuarantineLabel label)
    (unused : crashed.quarantine.contains (quarantineName label) = false) :
    ∃ outcome recovered, (recoverTail label).apply crashed = (.ok outcome, recovered) ∧
      (cut = encoded → Recovers crashed recovered label finished.bytes []
        (appended ++ [(request, response)]) outcome) ∧
      (cut ≠ encoded → Recovers crashed recovered label directory.bytes cut appended outcome) := by
  obtain ⟨state, built⟩ := built_of_run lawful fresh run
  obtain ⟨later, builtLater⟩ := built.step lawful appends
  have journal : crashed.journal = some crashed.bytes := by rw [crashes.left]; rfl
  have bytes : crashed.bytes = directory.bytes ++ cut := by rw [crashes.left]; rfl
  have fits : directory.bytes.length ≤ maxCounter := by
    have := built.coherent.fits
    rwa [built.coherent.validBytes, flatten_splitInclusive] at this
  by_cases complete : cut = encoded
  · -- The frame was written completely, and only the crash came before the response.
    have same : crashed.bytes = finished.bytes := by rw [bytes, complete, crashes.writes]
    have clean := builtLater.clean lawful
    have fitsLater : crashed.bytes.length ≤ maxCounter := by
      have := builtLater.coherent.fits
      rwa [builtLater.coherent.validBytes, flatten_splitInclusive, ← same] at this
    rw [← same] at clean
    refine ⟨_, _, recoverTail_clean isLabel journal fitsLater clean, fun _ => ?_,
      fun torn => absurd complete torn⟩
    refine builtLater.recovers lawful (by rw [journal, same]) ⟨rfl, ?_⟩ rfl
    rw [same]
  · -- A proper prefix of the frame holds no newline, as the frame is one line.
    obtain ⟨_, scan, frame, written, scans, framed, _, _, rfl⟩ := append_eq_ok.mp appends
    obtain rfl := Except.ok.inj (built.scanReader.symm.trans scans)
    obtain ⟨printed, line, _, free, _⟩ := (nextFrame_eq_ok.mp framed).line lawful
    have same : encoded = written := by
      have writes := crashes.writes
      rw [SessionDirectory.bytes, Option.getD_some, writeAt_length] at writes
      exact (List.append_cancel_left writes).symm
    have noNewline : newline ∉ cut := by
      have prefix_ : cut <+: printed ++ [newline] := by
        rw [← line, ← same]
        exact crashes.isCut
      rcases List.prefix_concat_iff.mp prefix_ with whole | within
      · exact absurd (by rw [whole, same, line]) complete
      · exact fun member => free (within.subset member)
    by_cases nothing : cut = []
    · have clean := built.clean lawful
      have equal : crashed.bytes = directory.bytes := by rw [bytes, nothing, List.append_nil]
      rw [← equal] at clean
      refine ⟨_, _, recoverTail_clean isLabel journal (by rwa [equal]) clean,
        fun whole => absurd whole complete, fun _ => ?_⟩
      refine built.recovers lawful (by rw [journal, equal]) ⟨?_, ?_⟩ ?_
      · simp [nothing]
      · rw [equal]
      · rw [if_pos nothing]
    · have torn := built.torn lawful nothing noNewline
      rw [← bytes] at torn
      refine ⟨_, _, recoverTail_torn isLabel journal unused fits torn,
        fun whole => absurd whole complete, fun _ => ?_⟩
      refine built.recovers lawful ?_ ⟨?_, rfl⟩ ?_
      · rw [bytes, List.take_left]
      · simp [nothing]
      · rw [if_neg nothing, bytes, List.drop_left]

end Lawful

end Journal

section Sample

attribute [local instance] plainJournal prefixHash

theorem lawful_plainJournal : LawfulJournal where
  values _ := ⟨_, rfl⟩
  materials _ _ _ _ := ⟨_, rfl⟩
  frames := by
    rintro ⟨sequence, eventId, previousChecksum, checksum, payloadBytes, event⟩ bytes _ _ prints
    -- Only the canonical frame of a positive sequence number prints.
    cases event <;> simp only [JournalSerde.frameToVec, reduceCtorEq] at prints
    split at prints
    · next canonical =>
      cases prints
      obtain ⟨positive, rfl, rfl, rfl, rfl⟩ := canonical
      refine ⟨by simpa [List.replicate_eq_nil_iff] using positive, ?_, ?_⟩
      · intro member
        exact absurd (List.eq_of_mem_replicate member) (by decide)
      · simp only [JournalSerde.frameFromSlice, List.length_replicate]
        rfl
    · cases prints

theorem sampleAppend_first : Appends sampleEmpty
    (sampleRequest 1 (by decide), ⟨0, sampleChecksum, 2⟩) sampleOne := by
  rfl

theorem sampleAppend_second : Appends sampleOne
    (sampleRequest 2 (by decide), ⟨2, sampleChecksum, 5⟩) sampleTwo := by
  rfl

/-- A crash in the middle of the sample's second frame loses that frame alone. -/
theorem journal_crash_recovery_sample : ∃ outcome recovered,
    (recoverTail "label").apply sampleCrashed = (.ok outcome, recovered) ∧
      Recovers sampleCrashed recovered "label" sampleOne.bytes [49]
        [(sampleRequest 1 (by decide), ⟨0, sampleChecksum, 2⟩)] outcome := by
  have crashes : CrashesDuring sampleOne sampleTwo sampleCrashed [49, 49, newline] [49] :=
    ⟨rfl, ⟨[49, newline], rfl⟩, rfl⟩
  obtain ⟨outcome, recovered, recovers, _, torn⟩ :=
    journal_crash_recovery lawful_plainJournal rfl (Run.nil.snoc sampleAppend_first)
      sampleAppend_second crashes (by decide : isQuarantineLabel "label") (by rfl)
  exact ⟨outcome, recovered, recovers, torn (by decide)⟩

end Sample

end AgentMod
