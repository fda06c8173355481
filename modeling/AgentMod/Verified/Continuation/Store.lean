import AgentMod.Continuation.Store

/-! What each operation of the continuation store does to the file of a continuation. -/

namespace AgentMod

theorem recordName_injective : Function.Injective recordName := by
  intro left right same
  have texts := congrArg String.toList same
  rw [recordName, recordName, String.toList_append, String.toList_append,
    List.append_left_inj] at texts
  exact String.toList_inj.mp texts

theorem temporaryName_ne_recordName (id other : String) : temporaryName id ≠ recordName other := by
  intro same
  have texts := congrArg (fun name => name.toList.getLast?) same
  simp [temporaryName, recordName, String.toList_append] at texts

theorem recordContent_save {disk : Disk String} {savedSession savedId sessionId id : String}
    {bytes : List UInt8} :
    recordContent ((FileStep.save savedSession (recordName savedId) bytes).apply disk) sessionId id =
      if sessionId = savedSession ∧ id = savedId then some bytes
      else recordContent disk sessionId id := by
  rw [recordContent, save_at, recordContent]
  congr 1
  rw [eq_comm (a := recordName savedId), recordName_injective.eq_iff]

theorem recordContent_saveTemporary {disk : Disk String}
    {savedSession savedId sessionId id : String} {bytes : List UInt8} :
    recordContent ((FileStep.save savedSession (temporaryName savedId) bytes).apply disk) sessionId id =
      recordContent disk sessionId id := by
  rw [recordContent, save_at, if_neg fun both => temporaryName_ne_recordName _ _ both.2, recordContent]

theorem recordContent_rename {disk : Disk String} {savedSession savedId sessionId id : String}
    {bytes : List UInt8} (found : (disk savedSession)[temporaryName savedId]? = some bytes) :
    recordContent ((FileStep.rename savedSession (temporaryName savedId)
        (recordName savedId)).apply disk) sessionId id =
      if sessionId = savedSession ∧ id = savedId then some bytes
      else recordContent disk sessionId id := by
  rw [recordContent, rename_at found,
    if_neg (c := _ ∧ temporaryName savedId = _) fun both => temporaryName_ne_recordName _ _ both.2,
    recordContent]
  congr 1
  rw [eq_comm (a := recordName savedId), recordName_injective.eq_iff]

section Codec

variable [ContinuationSerde] [Hashing] {record : DependencyContinuationRecord} {bytes : List UInt8}

/-- What the file of a record holds beside the checksum. -/
def DependencyContinuationRecord.body (record : DependencyContinuationRecord) : ChecksumBody :=
  ⟨continuationSchemaVersion, record.sessionId, record.id, record.state, record.wakeConditionJson,
    record.payloadJson, record.expiresAtMillis⟩

theorem encodeRecord_eq_ok : encodeRecord record = .ok bytes ↔ isContinuationId record.id ∧
    isContinuationId record.sessionId ∧ ∃ checksum, record.body.calculateChecksum = .ok checksum ∧
      ContinuationSerde.storedToVec ⟨record.body, checksum⟩ = .ok bytes := by
  simp only [encodeRecord, StoredContinuation.fromRecord, StoredContinuation.encode,
    validateContinuationId, DependencyContinuationRecord.body, bind_eq_ok, exists_unit,
    refuseIf_eq_ok, mapError_eq_ok, pure_eq_ok, not_not]
  constructor
  · rintro ⟨_, ⟨id, session, checksum, checks, rfl⟩, prints⟩
    exact ⟨id, session, checksum, checks, prints⟩
  · rintro ⟨id, session, checksum, checks, prints⟩
    exact ⟨_, ⟨id, session, checksum, checks, rfl⟩, prints⟩

theorem encodeRecord_isOk (lawful : LawfulContinuations) (id : isContinuationId record.id)
    (session : isContinuationId record.sessionId) : ∃ bytes, encodeRecord record = .ok bytes := by
  obtain ⟨body, printsBody⟩ := lawful.bodies record.body
  have checks : record.body.calculateChecksum = .ok (Hashing.digest body).toHex := by
    rw [ChecksumBody.calculateChecksum, printsBody]
    rfl
  obtain ⟨bytes, prints⟩ := lawful.prints ⟨record.body, (Hashing.digest body).toHex⟩
  exact ⟨bytes, encodeRecord_eq_ok.mpr ⟨id, session, _, checks, prints⟩⟩

theorem decodeRecord_of_le (lawful : LawfulContinuations) (encodes : encodeRecord record = .ok bytes)
    (short : bytes.length ≤ maxRecordBytes) :
    decodeRecord record.sessionId record.id bytes = .ok record := by
  obtain ⟨-, -, checksum, checks, prints⟩ := encodeRecord_eq_ok.mp encodes
  simp only [decodeRecord, StoredContinuation.verify, bind_eq_ok, exists_unit, refuseIf_eq_ok,
    mapError_eq_ok, pure_eq_ok, not_lt, not_not]
  refine ⟨short, _, lawful.reads _ _ prints, rfl, ?_, checksum, checks, rfl, rfl⟩
  simp [DependencyContinuationRecord.body]

theorem decodeRecord_of_lt {sessionId id : String} (long : maxRecordBytes < bytes.length) :
    decodeRecord sessionId id bytes = .error (.recordTooLarge bytes.length) := by
  rw [decodeRecord, refuseIf, if_pos long]
  rfl

theorem decodeRecord_torn (lawful : LawfulContinuations) {part : List UInt8} {sessionId id : String}
    (encodes : encodeRecord record = .ok bytes) (front : part <+: bytes) (proper : part ≠ bytes) :
    ∃ error, decodeRecord sessionId id part = .error error := by
  obtain ⟨-, -, checksum, -, prints⟩ := encodeRecord_eq_ok.mp encodes
  obtain ⟨detail, fails⟩ := lawful.torn _ _ part prints front proper
  by_cases long : maxRecordBytes < part.length
  · exact ⟨_, decodeRecord_of_lt long⟩
  · refine ⟨.serialization detail, ?_⟩
    rw [decodeRecord, refuseIf, if_neg long, fails]
    rfl

theorem encodeRecord_inj (lawful : LawfulContinuations) {other : DependencyContinuationRecord}
    (encodes : encodeRecord record = .ok bytes) (again : encodeRecord other = .ok bytes) :
    record = other := by
  obtain ⟨-, -, checksum, -, prints⟩ := encodeRecord_eq_ok.mp encodes
  obtain ⟨-, -, checksum', -, prints'⟩ := encodeRecord_eq_ok.mp again
  have same := (lawful.reads _ _ prints).symm.trans (lawful.reads _ _ prints')
  simp only [Except.ok.injEq, StoredContinuation.mk.injEq, DependencyContinuationRecord.body,
    ChecksumBody.mk.injEq] at same
  obtain ⟨⟨-, session, id, state, wake, payload, expires⟩, -⟩ := same
  cases record
  cases other
  simp_all

end Codec

section Operations

variable {sessionId id : String}

theorem withLock_of_valid {α : Type} {operation : ContinuationFiling α}
    (session : isContinuationId sessionId) (valid : isContinuationId id) :
    withLock sessionId id operation = operation := by
  funext disk
  simp only [withLock, validateContinuationId, refuseIf, session, valid, not_true_eq_false,
    if_false, Filing.ofExcept_bind_apply, Filing.onOk_ok]

theorem withLock_of_invalid {α : Type} {operation : ContinuationFiling α} {disk : Disk String}
    (invalid : ¬ (isContinuationId sessionId ∧ isContinuationId id)) :
    withLock sessionId id operation disk = (.error .invalidId, []) := by
  rw [withLock, validateContinuationId, validateContinuationId, Filing.ofExcept_bind_apply]
  by_cases session : isContinuationId sessionId
  · have other : ¬ isContinuationId id := fun valid => invalid ⟨session, valid⟩
    simp [refuseIf, session, other]
  · simp [refuseIf, session]

variable [ContinuationSerde] [Hashing] {disk : Disk String} {record : DependencyContinuationRecord}
  {bytes : List UInt8} {request : DependencyTransitionContinuationRequest}

/-- The record that the file of a continuation holds. -/
def storedRecord (disk : Disk String) (sessionId id : String) :
    Except ContinuationDependencyError DependencyContinuationRecord := do
  let bytes ← okOr (recordContent disk sessionId id) (.notFound id)
  decodeRecord sessionId id bytes

theorem readRecord_apply (session : isContinuationId sessionId) (valid : isContinuationId id) :
    readRecord sessionId id disk = (storedRecord disk sessionId id, []) := by
  simp only [readRecord, validateContinuationId, refuseIf, session, valid, not_true_eq_false,
    if_false, Filing.ofExcept_bind_apply, Filing.read_bind_apply, Filing.onOk_ok, storedRecord,
    recordContent]
  cases (disk sessionId)[recordName id]? <;> rfl

theorem loadContinuation_apply : loadContinuation sessionId id disk =
    (if isContinuationId sessionId ∧ isContinuationId id then storedRecord disk sessionId id
      else .error .invalidId, []) := by
  rw [loadContinuation]
  split
  · next valid =>
    rw [withLock_of_valid valid.1 valid.2, readRecord_apply valid.1 valid.2]
  · next invalid => exact withLock_of_invalid invalid

theorem createContinuation_new (creatable : record.Creatable)
    (absent : recordContent disk record.sessionId record.id = none)
    (encodes : encodeRecord record = .ok bytes) : createContinuation record disk =
      (.ok (), [.save record.sessionId (recordName record.id) bytes]) := by
  have missing : (disk record.sessionId).contains (recordName record.id) = false := by
    rw [Bool.eq_false_iff, ne_eq, StringMap.contains_iff]
    rintro ⟨content, found⟩
    cases found.symm.trans absent
  simp only [createContinuation, creatable.pending, validateContinuationId, refuseIf,
    creatable.sessionId, withLock_of_valid creatable.sessionId creatable.id, writeNew, encodes,
    missing, Filing.ofExcept_bind_apply, Filing.read_bind_apply, Filing.onOk_ok, ne_eq,
    not_true_eq_false, if_false, Bool.false_eq_true]
  rfl

theorem createContinuation_existing (creatable : record.Creatable)
    (found : recordContent disk record.sessionId record.id = some bytes) :
    createContinuation record disk =
      ((decodeRecord record.sessionId record.id bytes).bind fun existing =>
        refuseIf (existing ≠ record) (.alreadyExists record.id), []) := by
  have present : (disk record.sessionId).contains (recordName record.id) :=
    StringMap.contains_iff.mpr ⟨bytes, found⟩
  have reads : readRecord record.sessionId record.id disk =
      (decodeRecord record.sessionId record.id bytes, []) := by
    rw [readRecord_apply creatable.sessionId creatable.id, storedRecord, found]
    rfl
  simp only [createContinuation, creatable.pending, validateContinuationId, refuseIf,
    creatable.sessionId, withLock_of_valid creatable.sessionId creatable.id, present,
    Filing.ofExcept_bind_apply, Filing.read_bind_apply, Filing.onOk_ok, ne_eq, not_true_eq_false,
    if_false, if_true, Filing.bind_apply_of_quiet reads]
  cases decodeRecord record.sessionId record.id bytes <;> rfl

theorem createContinuation_rejected (rejected : ¬ record.Creatable) :
    ∃ error, createContinuation record disk = (.error error, []) := by
  rw [createContinuation]
  by_cases pending : record.state = .pending
  · have invalid : ¬ (isContinuationId record.sessionId ∧ isContinuationId record.id) :=
      fun valid => rejected ⟨pending, valid.1, valid.2⟩
    refine ⟨.invalidId, ?_⟩
    by_cases session : isContinuationId record.sessionId
    · simp [refuseIf, pending, validateContinuationId, session, withLock_of_invalid invalid]
    · simp [refuseIf, pending, validateContinuationId, session]
  · exact ⟨.invalidInitialState, by simp [refuseIf, pending]⟩

/-- A transition that the store attempts: from pending to another state, of a valid continuation. -/
structure DependencyTransitionContinuationRequest.Attempted
    (request : DependencyTransitionContinuationRequest) : Prop where
  expected : request.expected = .pending
  target : request.target ≠ .pending
  sessionId : isContinuationId request.sessionId
  id : isContinuationId request.id

/-- The steps that replace the file of a record. -/
def replaceSteps (record : DependencyContinuationRecord) (bytes : List UInt8) :
    List (FileStep String) :=
  [.save record.sessionId (temporaryName record.id) bytes,
    .rename record.sessionId (temporaryName record.id) (recordName record.id)]

theorem replaceRecord_apply (encodes : encodeRecord record = .ok bytes) :
    replaceRecord record disk = (.ok (), replaceSteps record bytes) := by
  simp only [replaceRecord, encodes, Filing.ofExcept_bind_apply, Filing.onOk_ok,
    Filing.perform_bind_apply]
  rfl

theorem transitionContinuation_rejected (rejected : ¬ request.Attempted) :
    ∃ error, transitionContinuation request disk = (.error error, []) := by
  rw [transitionContinuation]
  by_cases shape : request.expected ≠ .pending ∨ request.target = .pending
  · exact ⟨.invalidTransition, by simp only [refuseIf, if_pos shape]; rfl⟩
  · have invalid : ¬ (isContinuationId request.sessionId ∧ isContinuationId request.id) := by
      intro valid
      rw [not_or, not_not] at shape
      exact rejected ⟨shape.1, shape.2, valid.1, valid.2⟩
    refine ⟨.invalidId, ?_⟩
    by_cases session : isContinuationId request.sessionId
    · simp [refuseIf, shape, validateContinuationId, session, withLock_of_invalid invalid]
    · simp [refuseIf, shape, validateContinuationId, session]

theorem transitionContinuation_apply (attempted : request.Attempted) :
    transitionContinuation request disk =
      Filing.onOk (storedRecord disk request.sessionId request.id) fun record =>
        if record.state = request.target then (.ok ⟨false, record.state, record.payloadJson⟩, [])
        else if record.state ≠ .pending then
          (.error (.stateConflict record.state request.target), [])
        else (replaceRecord { record with state := request.target } >>= fun _ =>
          pure ⟨true, request.target, record.payloadJson⟩ : ContinuationFiling _) disk := by
  have reads : readRecord request.sessionId request.id disk =
      (storedRecord disk request.sessionId request.id, []) :=
    readRecord_apply attempted.sessionId attempted.id
  simp only [transitionContinuation, attempted.expected, attempted.target, refuseIf,
    validateContinuationId, attempted.sessionId, withLock_of_valid attempted.sessionId attempted.id,
    Filing.ofExcept_bind_apply, Filing.bind_apply_of_quiet reads, Filing.onOk_ok, ne_eq,
    not_true_eq_false, or_self, if_false]
  congr 1
  funext record
  split
  · rfl
  · split <;> rfl

theorem transitionContinuation_pending (attempted : request.Attempted)
    (stored : storedRecord disk request.sessionId request.id = .ok record)
    (pending : record.state = .pending)
    (encodes : encodeRecord { record with state := request.target } = .ok bytes) :
    transitionContinuation request disk = (.ok ⟨true, request.target, record.payloadJson⟩,
      replaceSteps { record with state := request.target } bytes) := by
  have differs : ¬ record.state = request.target := fun same =>
    attempted.target (same.symm.trans pending)
  rw [transitionContinuation_apply attempted, stored, Filing.onOk_ok, if_neg differs,
    if_neg (not_not.mpr pending), Filing.bind_apply_of_ok (replaceRecord_apply encodes)]
  exact Prod.ext rfl (List.append_nil _)

theorem transitionContinuation_ended (attempted : request.Attempted)
    (stored : storedRecord disk request.sessionId request.id = .ok record)
    (ended : record.state ≠ .pending) : transitionContinuation request disk =
      (if record.state = request.target then .ok ⟨false, record.state, record.payloadJson⟩
        else .error (.stateConflict record.state request.target), []) := by
  rw [transitionContinuation_apply attempted, stored, Filing.onOk_ok, if_pos ended]
  split <;> rfl

omit [ContinuationSerde] [Hashing] in
theorem recordContent_replaceSteps : recordContent (applySteps (replaceSteps record bytes) disk)
    sessionId id = if sessionId = record.sessionId ∧ id = record.id then some bytes
      else recordContent disk sessionId id := by
  have found : ((FileStep.save record.sessionId (temporaryName record.id) bytes).apply disk
      record.sessionId)[temporaryName record.id]? = some bytes := by
    rw [save_at, if_pos ⟨rfl, rfl⟩]
  rw [replaceSteps, applySteps_cons, applySteps_cons, applySteps_nil, recordContent_rename found,
    recordContent_saveTemporary]

omit [ContinuationSerde] [Hashing] in
theorem recordContent_of_interrupted {crashed : Disk String}
    (crashes : Interrupted (replaceSteps record bytes) disk crashed) :
    (∀ sessionId id, recordContent crashed sessionId id = recordContent disk sessionId id) ∨
      crashed = applySteps (replaceSteps record bytes) disk := by
  cases crashes with
  | stopped => exact .inl fun _ _ => rfl
  | torn _ => exact .inl fun _ _ => recordContent_saveTemporary
  | passed later =>
    cases later with
    | stopped => exact .inl fun _ _ => recordContent_saveTemporary
    | passed finished =>
      rw [interrupted_nil] at finished
      exact .inr finished

theorem loads_iff : Loads disk record ↔
    (isContinuationId record.sessionId ∧ isContinuationId record.id) ∧
      storedRecord disk record.sessionId record.id = .ok record := by
  rw [Loads, Filing.run, loadContinuation_apply, applySteps_nil]
  split
  · next valid => simp [valid]
  · next invalid => simp [invalid]

theorem storedRecord_of_encodes (lawful : LawfulContinuations) (encodes : encodeRecord record = .ok bytes)
    (found : recordContent disk record.sessionId record.id = some bytes) :
    storedRecord disk record.sessionId record.id =
      if bytes.length ≤ maxRecordBytes then .ok record else .error (.recordTooLarge bytes.length) := by
  have decodes : storedRecord disk record.sessionId record.id =
      decodeRecord record.sessionId record.id bytes := by
    rw [storedRecord, found]
    rfl
  rw [decodes]
  split
  · next short => exact decodeRecord_of_le lawful encodes short
  · next long => exact decodeRecord_of_lt (Nat.lt_of_not_le long)

theorem loads_of_encodes (lawful : LawfulContinuations) (encodes : encodeRecord record = .ok bytes)
    (found : recordContent disk record.sessionId record.id = some bytes) :
    Loads disk record ↔ bytes.length ≤ maxRecordBytes := by
  obtain ⟨id, session, -⟩ := encodeRecord_eq_ok.mp encodes
  rw [loads_iff, storedRecord_of_encodes lawful encodes found]
  split <;> simp [*]

end Operations

section Sample

attribute [local instance] prefixHash segmentedContinuations

theorem lawful_segmentedContinuations : LawfulContinuations where
  bodies _ := ⟨_, rfl⟩
  prints _ := ⟨_, rfl⟩
  reads _ _ prints := storedCodec.reads prints
  torn _ _ _ prints front proper := storedCodec.torn prints front proper

theorem creatable_sampleContinuation : sampleContinuation.Creatable :=
  ⟨rfl, by decide, by decide⟩

theorem encodeRecord_sampleContinuation :
    encodeRecord sampleContinuation = .ok (sampleRecordBytes sampleContinuation) :=
  encodeRecord_eq_ok.mpr ⟨by decide, by decide, _, rfl, rfl⟩

set_option maxRecDepth 8000 in
theorem sampleRecordBytes_short : (sampleRecordBytes sampleContinuation).length ≤ maxRecordBytes := by
  decide

end Sample

end AgentMod
