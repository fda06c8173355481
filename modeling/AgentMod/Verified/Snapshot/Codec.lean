import AgentMod.Graph.Sample
import AgentMod.Snapshot.Codec

/-! A snapshot file is read back as what was written, and nothing else is read. -/

namespace AgentMod

section Numbers

variable {bytes rest : List UInt8}

theorem readU16_eq_ok {value : UInt16} :
    readU16.run bytes = .ok (value, rest) ↔ bytes = leBytes 2 value.toNat ++ rest :=
  Reading.number_eq_ok (fun _ small => UInt16.toNat_ofNat_of_lt' small) value.toNat_lt UInt16.ofNat_toNat

theorem readU32_eq_ok {value : UInt32} :
    readU32.run bytes = .ok (value, rest) ↔ bytes = leBytes 4 value.toNat ++ rest :=
  Reading.number_eq_ok (fun _ small => UInt32.toNat_ofNat_of_lt' small) value.toNat_lt UInt32.ofNat_toNat

theorem readU64_eq_ok {value : UInt64} :
    readU64.run bytes = .ok (value, rest) ↔ bytes = leBytes 8 value.toNat ++ rest :=
  Reading.number_eq_ok (fun _ small => UInt64.toNat_ofNat_of_lt' small) value.toNat_lt UInt64.ofNat_toNat

end Numbers

section Texts

variable {bytes rest : List UInt8} {text : String} {length : Nat}

theorem textBytes_of_fromUtf8 (decoded : fromUtf8 bytes = some text) : textBytes text = bytes := by
  rw [fromUtf8] at decoded
  split at decoded
  · next same =>
    cases decoded
    exact same
  · cases decoded

theorem exists_wide_byte {character : Char} (wide : 128 ≤ character.val.toNat) :
    ∃ byte ∈ String.utf8EncodeChar character, 128 ≤ byte.toNat := by
  have last : ∀ low : Nat, 128 ≤ (low % 64 + 128).toUInt8.toNat := by
    intro low
    have value : (low % 64 + 128).toUInt8.toNat = (low % 64 + 128) % 256 := rfl
    omega
  rw [String.utf8EncodeChar, if_neg (by omega)]
  split
  · exact ⟨_, List.mem_cons_of_mem _ List.mem_cons_self, last _⟩
  · split
    · exact ⟨_, List.mem_cons_of_mem _ List.mem_cons_self, last _⟩
    · exact ⟨_, List.mem_cons_of_mem _ List.mem_cons_self, last _⟩

theorem beginScalar_ascii {character : Char} (ascii : character.val.toNat < 128) :
    String.utf8EncodeChar character = [character.val.toNat.toUInt8] ∧
      beginScalar character.val.toNat.toUInt8 = ([character], none) := by
  have value : character.val.toNat.toUInt8.toNat = character.val.toNat := by
    have low : character.val.toNat.toUInt8.toNat = character.val.toNat % 256 := rfl
    omega
  have narrow : character.val.toNat.toUInt8 < 0x80 := by
    rw [UInt8.lt_iff_toNat_lt, value]
    exact ascii
  refine ⟨by rw [String.utf8EncodeChar, if_pos (by omega)], ?_⟩
  rw [beginScalar, utf8Lead, if_pos narrow, value]
  exact congrArg (fun read => ([read], none)) (Char.ofNat_toNat character)

theorem lossyCharacters_ascii {characters : List Char}
    (ascii : ∀ character ∈ characters, character.val.toNat < 128) :
    lossyCharacters none (utf8Bytes characters) = characters := by
  induction characters with
  | nil => rfl
  | cons first others ih =>
    obtain ⟨single, reads⟩ := beginScalar_ascii (ascii first List.mem_cons_self)
    rw [utf8Bytes, List.flatMap_cons, single]
    simp only [List.singleton_append, lossyCharacters, Option.elim_none, reads, List.cons.injEq, true_and]
    exact ih fun character listed => ascii character (List.mem_cons_of_mem _ listed)

theorem fromUtf8_of_isLowerHex (digits : isLowerHex text length) : fromUtf8 (textBytes text) = some text := by
  rw [isLowerHex, Bool.and_eq_true, List.all_eq_true] at digits
  have ascii : ∀ character ∈ text.toList, character.val.toNat < 128 := by
    intro character listed
    by_contra wide
    obtain ⟨byte, inside, large⟩ := exists_wide_byte (not_lt.mp wide)
    have digit := digits.2 byte (List.mem_flatMap.mpr ⟨character, listed, inside⟩)
    simp only [isLowerHexByte, Bool.or_eq_true, Bool.and_eq_true, decide_eq_true_eq, UInt8.le_iff_toNat_le] at digit
    have bounds : byte.toNat ≤ 57 ∨ byte.toNat ≤ 102 := digit.imp And.right And.right
    omega
  have same : fromUtf8Lossy (textBytes text) = text := by
    rw [fromUtf8Lossy, textBytes, lossyCharacters_ascii ascii, String.ofList_toList]
  rw [fromUtf8, same]
  exact if_pos rfl

theorem readAscii_sound (reads : (readAscii length).run bytes = .ok (text, rest)) :
    bytes = textBytes text ++ rest := by
  obtain ⟨read, behind, here, outcome⟩ := Reading.bind_eq_ok.mp reads
  obtain ⟨_, rfl⟩ := Reading.exact_eq_ok.mp here
  obtain ⟨decoded, rfl⟩ := Reading.ofOutcome_eq_ok.mp outcome
  rw [textBytes_of_fromUtf8 (okOr_eq_ok.mp decoded)]

theorem readAscii_complete (digits : isLowerHex text length) :
    (readAscii length).run (textBytes text ++ rest) = .ok (text, rest) := by
  have sized : (textBytes text).length = length := by
    rw [isLowerHex, Bool.and_eq_true, beq_iff_eq] at digits
    exact digits.1
  exact Reading.bind_eq_ok.mpr ⟨_, _, Reading.exact_eq_ok.mpr ⟨sized, rfl⟩,
    Reading.ofOutcome_eq_ok.mpr ⟨okOr_eq_ok.mpr (fromUtf8_of_isLowerHex digits), rfl⟩⟩

end Texts

section States

variable {bytes rest hashed stateBytes : List UInt8} {remaining : Nat} {loadState : Bool}
  {state : List UInt8 × List UInt8}

theorem readState_zero : readState loadState 0 hashed stateBytes = pure (hashed, stateBytes) := by
  rw [readState, if_pos rfl]

theorem readState_of_pos (more : 0 < remaining) : readState loadState remaining hashed stateBytes = (do
    let piece ← readBuffer (min remaining snapshotBufferBytes)
    Reading.ofOutcome (AgentMod.refuseIf (min remaining snapshotBufferBytes > remaining) .panic)
    readState loadState (remaining - min remaining snapshotBufferBytes) (hashed ++ piece)
      (if loadState then stateBytes ++ piece else stateBytes)) := by
  rw [readState, if_neg (by omega)]

theorem readBuffer_eq_ok {count : Nat} {piece : List UInt8} (fits : count ≤ snapshotBufferBytes) :
    (readBuffer count).run bytes = .ok (piece, rest) ↔ piece.length = count ∧ bytes = piece ++ rest := by
  rw [readBuffer, Reading.bind_eq_ok]
  constructor
  · rintro ⟨_, behind, checked, reads⟩
    obtain ⟨_, rfl⟩ := Reading.ofOutcome_eq_ok.mp checked
    exact Reading.exact_eq_ok.mp reads
  · intro reads
    exact ⟨(), _, Reading.ofOutcome_eq_ok.mpr ⟨refuseIf_eq_ok.mpr (not_lt.mpr fits), rfl⟩,
      Reading.exact_eq_ok.mpr reads⟩

/-- Exactly the bytes of the state are hashed and loaded, in however many pieces they are read. -/
theorem readState_eq_ok : (readState loadState remaining hashed stateBytes).run bytes = .ok (state, rest) ↔
    ∃ read, read.length = remaining ∧ bytes = read ++ rest ∧
      state = (hashed ++ read, if loadState then stateBytes ++ read else stateBytes) := by
  induction remaining using Nat.strong_induction_on generalizing bytes hashed stateBytes with
  | _ remaining ih =>
    rcases Nat.eq_zero_or_pos remaining with rfl | more
    · rw [readState_zero, Reading.pure_eq_ok]
      constructor
      · rintro ⟨rfl, rfl⟩
        exact ⟨[], rfl, rfl, by simp⟩
      · rintro ⟨read, empty, rfl, rfl⟩
        rw [List.length_eq_zero_iff] at empty
        simp [empty]
    · have less : remaining - min remaining snapshotBufferBytes < remaining := by
        rw [snapshotBufferBytes]
        omega
      have fits : min remaining snapshotBufferBytes ≤ snapshotBufferBytes := min_le_right _ _
      rw [readState_of_pos more, Reading.bind_eq_ok]
      constructor
      · rintro ⟨piece, behind, reads, others⟩
        obtain ⟨sized, rfl⟩ := (readBuffer_eq_ok fits).mp reads
        obtain ⟨_, _, checked, continued⟩ := Reading.bind_eq_ok.mp others
        obtain ⟨_, rfl⟩ := Reading.ofOutcome_eq_ok.mp checked
        obtain ⟨read, sizedRest, rfl, rfl⟩ := (ih _ less).mp continued
        refine ⟨piece ++ read, by rw [List.length_append]; omega, by rw [List.append_assoc], ?_⟩
        cases loadState <;> simp
      · rintro ⟨read, sized, rfl, rfl⟩
        refine ⟨read.take (min remaining snapshotBufferBytes), read.drop (min remaining snapshotBufferBytes) ++ rest,
          (readBuffer_eq_ok fits).mpr ⟨by rw [List.length_take]; omega, ?_⟩, ?_⟩
        · rw [← List.append_assoc, List.take_append_drop]
        · have checked := not_lt.mpr (min_le_left remaining snapshotBufferBytes)
          refine Reading.bind_eq_ok.mpr ⟨(), _, Reading.ofOutcome_eq_ok.mpr ⟨refuseIf_eq_ok.mpr checked, rfl⟩, ?_⟩
          refine (ih _ less).mpr ⟨read.drop (min remaining snapshotBufferBytes),
            by rw [List.length_drop, sized], rfl, ?_⟩
          cases loadState <;> simp [List.append_assoc]

end States

section Files

variable [Hashing] {limits : DependencySnapshotLimits} {file : SnapshotFile} {name sessionDirectory : String}
  {bytes rest : List UInt8} {fileBytes : Nat} {request : DependencyPersistSnapshotRequest}
  {loaded : DependencySnapshotRecord} {loadState : Bool}

/-- What a valid request satisfies. -/
structure Persistable (request : DependencyPersistSnapshotRequest) (limits : DependencySnapshotLimits) : Prop where
  schema : request.schemaVersion ≠ 0
  reducer : request.reducerVersion ≠ 0
  sequence : request.eventSequence ≠ 0
  anchor : isLowerHex request.terminalEventChecksum snapshotChecksumBytes
  hash : isLowerHex request.stateContentHash snapshotHashBytes
  state : request.stateBytes.length ≤ limits.maxStateBytes.toNat
  word : request.stateBytes.length + snapshotHeaderBytes < 2 ^ 64
  file : request.stateBytes.length + snapshotHeaderBytes ≤ limits.maxFileBytes.toNat
  digest : (Hashing.digest request.stateBytes).toHex = request.stateContentHash

theorem validatePersistRequest_eq_ok : validatePersistRequest request limits = .ok () ↔
    ¬ request.sessionDirectory.isEmpty ∧ Persistable request limits := by
  simp only [validatePersistRequest, bind_eq_ok, exists_unit, refuseIf_eq_ok, not_or, not_not, not_lt, not_le]
  constructor
  · rintro ⟨⟨named, schema, reducer, sequence⟩, anchor, hash, _, ⟨state, word, fits⟩, digest⟩
    exact ⟨named, schema, reducer, sequence, anchor, hash, state, word, fits, digest⟩
  · rintro ⟨named, valid⟩
    have word := valid.word
    exact ⟨⟨named, valid.schema, valid.reducer, valid.sequence⟩, valid.anchor, valid.hash, by omega,
      ⟨valid.state, word, valid.file⟩, valid.digest⟩

omit [Hashing] in
theorem length_snapshotFileBytes (anchor : isLowerHex request.terminalEventChecksum snapshotChecksumBytes)
    (hash : isLowerHex request.stateContentHash snapshotHashBytes) :
    (snapshotFileBytes request).length = request.stateBytes.length + snapshotHeaderBytes := by
  rw [isLowerHex, Bool.and_eq_true, beq_iff_eq, snapshotChecksumBytes] at anchor
  rw [isLowerHex, Bool.and_eq_true, beq_iff_eq, snapshotHashBytes] at hash
  have magic : snapshotMagic.length = 8 := by decide
  simp only [snapshotFileBytes, List.length_append, length_leBytes, magic, anchor.1, hash.1, snapshotHeaderBytes]
  omega

/-- The bytes that are read as a snapshot are those of a valid request under its name. -/
theorem readSnapshotBytes_sound
    (reads : (readSnapshotBytes name fileBytes limits loadState).run bytes = .ok (loaded, rest))
    (small : fileBytes = bytes.length) (fits : fileBytes ≤ limits.maxFileBytes.toNat) :
    ∃ stateBytes, loaded.stateBytes = (if loadState then stateBytes else []) ∧
      Persistable (loaded.requestOf sessionDirectory stateBytes) limits ∧
      bytes = snapshotFileBytes (loaded.requestOf sessionDirectory stateBytes) ∧
      name = snapshotName loaded.metadata.eventSequence loaded.metadata.stateContentHash ∧
      loaded.metadata.snapshotName = name := by
  simp only [readSnapshotBytes, Reading.bind_eq_ok, Reading.exact_eq_ok, Reading.refuseIf_eq_ok,
    Reading.ofOutcome_eq_ok, Reading.pure_eq_ok, refuseIf_eq_ok, readU16_eq_ok, readU32_eq_ok, readU64_eq_ok,
    readState_eq_ok, not_or, not_not, not_le, exists_unit] at reads
  obtain ⟨magic, _, ⟨_, rfl⟩, _, ⟨rfl, rfl⟩, schema, _, rfl, reducer, _, rfl, sequence, _, rfl, anchor, _, inAnchor,
    hash, _, inHash, length, _, rfl, _, ⟨⟨hasSchema, hasReducer, hasSequence, anchorDigits, hashDigits, bounded,
    word, whole⟩, rfl⟩, _, ⟨_, rfl⟩, _, _, ⟨state, sized, rfl, rfl⟩, _, ⟨digest, rfl⟩, _, ⟨named, rfl⟩, rfl, rfl⟩ :=
    reads
  have atAnchor := readAscii_sound inAnchor
  have atHash := readAscii_sound inHash
  subst atAnchor atHash
  rw [List.nil_append] at digest
  have lengths := @length_snapshotFileBytes ⟨sessionDirectory, schema, reducer, sequence, anchor, hash, state⟩
    anchorDigits hashDigits
  -- The length in the header leaves no byte behind the state.
  have complete : rest = [] := by
    simp only [snapshotFileBytes, List.length_append, length_leBytes] at lengths small
    rw [← List.length_eq_zero_iff]
    omega
  subst complete
  refine ⟨state, by simp, ⟨hasSchema, hasReducer, hasSequence, anchorDigits, hashDigits, ?_, ?_, ?_, digest⟩, ?_,
    named, rfl⟩
  · rw [DependencySnapshotRecord.requestOf, sized]
    exact UInt64.le_iff_toNat_le.mp (UInt64.not_lt.mp bounded)
  · rw [DependencySnapshotRecord.requestOf, sized]
    exact word
  · rw [DependencySnapshotRecord.requestOf, sized, whole]
    exact fits
  · rw [snapshotFileBytes, DependencySnapshotRecord.requestOf, sized, List.append_nil]

theorem readSnapshotBytes_complete (valid : Persistable request limits)
    (small : (snapshotFileBytes request).length < 2 ^ 63) :
    (readSnapshotBytes (snapshotName request.eventSequence request.stateContentHash)
      (snapshotFileBytes request).length limits true).run (snapshotFileBytes request) =
        .ok (⟨⟨snapshotName request.eventSequence request.stateContentHash, request.schemaVersion,
          request.reducerVersion, request.eventSequence, request.terminalEventChecksum, request.stateContentHash,
          (snapshotFileBytes request).length⟩, request.stateBytes⟩, []) := by
  have lengths := length_snapshotFileBytes valid.anchor valid.hash
  have word := valid.word
  have length : (UInt64.ofNat request.stateBytes.length).toNat = request.stateBytes.length :=
    UInt64.toNat_ofNat_of_lt' (by rw [UInt64.size]; omega)
  have bounded : ¬ UInt64.ofNat request.stateBytes.length > limits.maxStateBytes := by
    rw [gt_iff_lt, UInt64.not_lt, UInt64.le_iff_toNat_le, length]
    exact valid.state
  have state : request.stateBytes = request.stateBytes ++ [] := (List.append_nil _).symm
  simp only [readSnapshotBytes, Reading.bind_eq_ok, Reading.exact_eq_ok, Reading.refuseIf_eq_ok,
    Reading.ofOutcome_eq_ok, Reading.pure_eq_ok, refuseIf_eq_ok, readU16_eq_ok, readU32_eq_ok, readU64_eq_ok,
    readState_eq_ok, not_or, not_not, not_le, exists_unit]
  refine ⟨_, _, ⟨by decide, rfl⟩, _, ⟨rfl, rfl⟩, _, _, rfl, _, _, rfl, _, _, rfl, _, _,
    readAscii_complete valid.anchor, _, _, readAscii_complete valid.hash,
    .ofNat request.stateBytes.length, request.stateBytes, by rw [length], _,
    ⟨⟨valid.schema, valid.reducer, valid.sequence, valid.anchor, valid.hash, bounded, by rw [length]; exact word,
      by rw [length, lengths]⟩, rfl⟩, _, ⟨by rw [length]; omega, rfl⟩, _, [], ⟨_, length.symm, state, rfl⟩, _,
    ⟨valid.digest, rfl⟩, _, ⟨rfl, rfl⟩, rfl, rfl⟩

omit [Hashing] in
open Reading in
theorem safe_reads (length : Nat) : Safe readU16 ∧ Safe readU32 ∧ Safe readU64 ∧ Safe (readAscii length) := by
  have decoding : ∀ read,
      Safe (ofOutcome (okOr (fromUtf8 read) (.error SnapshotDependencyError.corruptSnapshot))) := by
    refine fun read => Safe.ofOutcome fun halt failed => ?_
    cases decoded : fromUtf8 read with
    | none =>
      rw [decoded] at failed
      cases failed
      exact ⟨_, rfl⟩
    | some text =>
      rw [decoded] at failed
      cases failed
  exact ⟨Safe.exact.bind fun _ _ _ _ => Safe.pure, Safe.exact.bind fun _ _ _ _ => Safe.pure,
    Safe.exact.bind fun _ _ _ _ => Safe.pure, Safe.exact.bind fun read _ _ _ => decoding read⟩

omit [Hashing] in
theorem safe_check {refused : Prop} [Decidable refused] (passes : ¬ refused) :
    Reading.Safe (Reading.ofOutcome (AgentMod.refuseIf refused .panic) : Reading SnapshotDependencyError Unit) := by
  refine Reading.Safe.ofOutcome fun halt failed => ?_
  rw [AgentMod.refuseIf, if_neg passes] at failed
  cases failed

omit [Hashing] in
theorem safe_readState {remaining : Nat} {hashed stateBytes : List UInt8} :
    Reading.Safe (readState loadState remaining hashed stateBytes) := by
  induction remaining using Nat.strong_induction_on generalizing hashed stateBytes with
  | _ remaining ih =>
    rcases Nat.eq_zero_or_pos remaining with rfl | more
    · rw [readState_zero]
      exact Reading.Safe.pure
    · have less : remaining - min remaining snapshotBufferBytes < remaining := by
        rw [snapshotBufferBytes]
        omega
      rw [readState_of_pos more, readBuffer]
      refine Reading.Safe.bind ?_ fun piece _ _ _ => ?_
      · exact (safe_check (not_lt.mpr (min_le_right _ _))).bind fun _ _ _ _ => Reading.Safe.exact
      · exact (safe_check (not_lt.mpr (min_le_left _ _))).bind fun _ _ _ _ => ih _ less

theorem safe_readSnapshotBytes (small : fileBytes < 2 ^ 63) :
    Reading.Safe (readSnapshotBytes name fileBytes limits loadState) := by
  obtain ⟨u16, u32, u64, -⟩ := safe_reads 0
  have text := fun length => (safe_reads length).2.2.2
  rw [readSnapshotBytes]
  refine Reading.Safe.exact.bind fun magic _ _ _ => Reading.Safe.refuseIf.bind fun _ _ _ _ => ?_
  refine u16.bind fun schema _ _ _ => u32.bind fun reducer _ _ _ => u64.bind fun sequence _ _ _ => ?_
  refine (text _).bind fun anchor _ _ _ => (text _).bind fun hash _ _ _ => u64.bind fun length _ _ _ => ?_
  refine Reading.Safe.refuseIf.bind fun _ _ _ checked => ?_
  have whole : length.toNat + snapshotHeaderBytes = fileBytes := by
    simp only [Reading.refuseIf_eq_ok, not_or, not_not] at checked
    exact checked.1.2.2.2.2.2.2.2
  have room : ¬ (loadState ∧ 2 ^ 63 ≤ length.toNat) := by omega
  refine (safe_check room).bind fun _ _ _ _ => safe_readState.bind fun state _ _ _ => ?_
  exact Reading.Safe.refuseIf.bind fun _ _ _ _ => Reading.Safe.refuseIf.bind fun _ _ _ _ => Reading.Safe.pure

theorem readSnapshot_eq_ok : readSnapshot file limits loadState = .ok loaded ↔
    (snapshotHeaderBytes ≤ file.bytes.length ∧ file.bytes.length ≤ limits.maxFileBytes.toNat) ∧
      ∃ rest, (readSnapshotBytes file.name file.bytes.length limits loadState).run file.bytes =
        .ok (loaded, rest) := by
  simp only [readSnapshot, bind_eq_ok, exists_unit, refuseIf_eq_ok, not_or, not_lt, gt_iff_lt, pure_eq_ok]
  refine and_congr_right fun _ => ?_
  constructor
  · rintro ⟨read, reads, rfl⟩
    exact ⟨read.2, reads⟩
  · rintro ⟨rest, reads⟩
    exact ⟨(loaded, rest), reads, rfl⟩

omit [Hashing] in
theorem writeSnapshot_eq_ok (word : request.stateBytes.length < 2 ^ 64) :
    writeSnapshot name request = .ok file ↔ file.name = name ∧ file.bytes = snapshotFileBytes request := by
  obtain ⟨fileName, fileContent, fits⟩ := file
  rw [writeSnapshot, refuseIf, if_neg (by omega)]
  constructor
  · intro writes
    change (if fits : (snapshotFileBytes request).length < 2 ^ 63 then _ else _) = _ at writes
    split at writes
    · cases writes
      exact ⟨rfl, rfl⟩
    · cases writes
  · rintro ⟨rfl, rfl⟩
    exact dif_pos fits

end Files

/-- A snapshot that a valid request writes is read back as it was requested, a file that is read is
exactly what the snapshot in it writes, and no file makes the reader panic. -/
theorem snapshot_codec [Hashing] (limits : DependencySnapshotLimits) :
    (∀ request file, validatePersistRequest request limits = .ok () →
      writeSnapshot (snapshotName request.eventSequence request.stateContentHash) request = .ok file →
      readSnapshot file limits true =
        .ok ⟨⟨snapshotName request.eventSequence request.stateContentHash, request.schemaVersion,
          request.reducerVersion, request.eventSequence, request.terminalEventChecksum, request.stateContentHash,
          request.stateBytes.length + snapshotHeaderBytes⟩, request.stateBytes⟩) ∧
    (∀ file loadState loaded sessionDirectory, readSnapshot file limits loadState = .ok loaded →
      ¬ sessionDirectory.isEmpty → ∃ stateBytes, loaded.stateBytes = (if loadState then stateBytes else []) ∧
        validatePersistRequest (loaded.requestOf sessionDirectory stateBytes) limits = .ok () ∧
        writeSnapshot (snapshotName loaded.metadata.eventSequence loaded.metadata.stateContentHash)
          (loaded.requestOf sessionDirectory stateBytes) = .ok file ∧
        loaded.metadata.snapshotName = file.name) ∧
    ∀ file loadState halt, readSnapshot file limits loadState = .error halt →
      ∃ error, halt = .error error := by
  refine ⟨fun request file valid writes => ?_, fun file loadState loaded sessionDirectory reads named => ?_,
    fun file loadState halt failed => ?_⟩
  · obtain ⟨_, persistable⟩ := validatePersistRequest_eq_ok.mp valid
    have word := persistable.word
    have lengths := length_snapshotFileBytes persistable.anchor persistable.hash
    have small := file.fits
    obtain ⟨fileName, content⟩ := (writeSnapshot_eq_ok (by omega)).mp writes
    rw [content] at small
    refine readSnapshot_eq_ok.mpr ⟨?_, [], ?_⟩
    · rw [content, lengths]
      exact ⟨Nat.le_add_left _ _, persistable.file⟩
    · rw [fileName, content, readSnapshotBytes_complete persistable small, lengths]
  · obtain ⟨⟨_, fits⟩, rest, reads⟩ := readSnapshot_eq_ok.mp reads
    obtain ⟨stateBytes, state, persistable, content, fileName, same⟩ :=
      @readSnapshotBytes_sound _ limits file.name sessionDirectory _ _ _ _ loadState reads rfl fits
    have word := persistable.word
    refine ⟨stateBytes, state, validatePersistRequest_eq_ok.mpr ⟨named, persistable⟩, ?_, same⟩
    exact (writeSnapshot_eq_ok (by omega)).mpr ⟨fileName, content⟩
  · rw [readSnapshot] at failed
    rcases bind_eq_error.mp failed with refused | ⟨_, _, failed⟩
    · rw [refuseIf] at refused
      split at refused
      · cases refused
        exact ⟨_, rfl⟩
      · cases refused
    · rcases bind_eq_error.mp failed with stopped | ⟨_, _, returned⟩
      · exact safe_readSnapshotBytes file.fits _ _ stopped
      · cases returned

section Sample

attribute [local instance] prefixHash

/-- Limits that leave room for small states. -/
def snapshotLimits : DependencySnapshotLimits := ⟨1024, 2048⟩

/-- A request to persist a state of one byte. -/
def snapshotRequest : DependencyPersistSnapshotRequest where
  sessionDirectory := "session"
  schemaVersion := 1
  reducerVersion := 3
  eventSequence := 4
  terminalEventChecksum := (Hashing.digest []).toHex
  stateContentHash := (Hashing.digest [7]).toHex
  stateBytes := [7]

instance snapshotRequest_valid : Fact (validatePersistRequest snapshotRequest snapshotLimits = .ok ()) where
  out := by decide +kernel

instance snapshotRequest_fits : Fact ((snapshotFileBytes snapshotRequest).length < 2 ^ 63) where
  out := by decide +kernel

/-- The file that the request writes. -/
def snapshotSample : SnapshotFile :=
  ⟨snapshotName snapshotRequest.eventSequence snapshotRequest.stateContentHash, snapshotFileBytes snapshotRequest,
    snapshotRequest_fits.out⟩

/-- A state of one byte is read back, and what is read writes the file again. -/
theorem snapshot_codec_sample : ∃ loaded, readSnapshot snapshotSample snapshotLimits true = .ok loaded ∧
    loaded.stateBytes = [7] ∧ loaded.metadata.eventSequence = 4 ∧
    ∃ stateBytes, writeSnapshot snapshotSample.name (loaded.requestOf "session" stateBytes) = .ok snapshotSample := by
  have word : snapshotRequest.stateBytes.length < 2 ^ 64 := by decide
  have reads := (snapshot_codec snapshotLimits).1 snapshotRequest snapshotSample snapshotRequest_valid.out
    ((writeSnapshot_eq_ok word).mpr ⟨rfl, rfl⟩)
  obtain ⟨stateBytes, _, _, writes, _⟩ :=
    (snapshot_codec snapshotLimits).2.1 snapshotSample true _ "session" reads (by decide)
  exact ⟨_, reads, rfl, rfl, stateBytes, writes⟩

end Sample

end AgentMod
