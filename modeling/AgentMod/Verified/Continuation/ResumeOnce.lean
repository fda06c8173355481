import AgentMod.Verified.Continuation.Store

/-! A continuation is resumed at most once, over all that the store serves. -/

namespace AgentMod

section Gate

variable {gate next : ResumeOnce} {target : ContinuationState}

theorem ResumeOnce.transition_eq_ok : (ResumeOnce.transition target).apply gate = (.ok (), next) ↔
    gate.state = ContinuationState.pending.asRaw ∧ next = ⟨target.asRaw⟩ := by
  rw [ResumeOnce.transition, Updating.get_bind_eq_ok]
  split
  · next pending =>
    simp only [Updating.apply_set, Prod.mk.injEq, true_and, pending]
    exact eq_comm
  · next ended => simp [ended]

theorem ResumeOnce.fromState_passes {state : DependencyContinuationState} :
    (∃ next, (ResumeOnce.transition target).apply (ResumeOnce.fromState state.core) = (.ok (), next)) ↔
      state = .pending := by
  simp only [transition_eq_ok, exists_and_left, exists_eq, and_true]
  cases state <;> decide

end Gate

section Requests

variable [ContinuationSerde] [Hashing] {disk next : Disk String} {request : ContinuationRequest}
  {reply : ContinuationAnswer} {key : String × String}

/-- What the store does when it serves a request. -/
inductive Handled (disk : Disk String) :
    ContinuationRequest → ContinuationAnswer → Disk String → Prop where
  | rejected (request : ContinuationRequest) (error : ContinuationDependencyError) :
      Handled disk request (.rejected error) disk
  | loaded {sessionId id : String} {record : DependencyContinuationRecord} :
      Handled disk (.load sessionId id) (.loaded record) disk
  | created {record : DependencyContinuationRecord} {bytes : List UInt8} : record.Creatable →
      recordContent disk record.sessionId record.id = none → encodeRecord record = .ok bytes →
      Handled disk (.create record) .created
        ((FileStep.save record.sessionId (recordName record.id) bytes).apply disk)
  | replayed {record : DependencyContinuationRecord} {bytes : List UInt8} : record.Creatable →
      recordContent disk record.sessionId record.id = some bytes →
      decodeRecord record.sessionId record.id bytes = .ok record →
      Handled disk (.create record) .created disk
  | transitioned {request : DependencyTransitionContinuationRequest}
      {record : DependencyContinuationRecord} {bytes : List UInt8} : request.Attempted →
      storedRecord disk request.sessionId request.id = .ok record → record.state = .pending →
      encodeRecord { record with state := request.target } = .ok bytes →
      Handled disk (.transition request) (.transitioned ⟨true, request.target, record.payloadJson⟩)
        (applySteps (replaceSteps { record with state := request.target } bytes) disk)
  | repeated {request : DependencyTransitionContinuationRequest}
      {record : DependencyContinuationRecord} : request.Attempted →
      storedRecord disk request.sessionId request.id = .ok record → record.state = request.target →
      Handled disk (.transition request) (.transitioned ⟨false, record.state, record.payloadJson⟩) disk

theorem storedRecord_ids {sessionId id : String} {record : DependencyContinuationRecord}
    (stored : storedRecord disk sessionId id = .ok record) :
    record.sessionId = sessionId ∧ record.id = id := by
  simp only [storedRecord, decodeRecord, StoredContinuation.verify, bind_eq_ok, exists_unit,
    refuseIf_eq_ok, pure_eq_ok, not_or, not_not] at stored
  obtain ⟨_, -, -, _, -, -, ids, _, -, -, rfl⟩ := stored
  exact ids

omit [ContinuationSerde] [Hashing] in
theorem answer_of_quiet {α : Type} {accept : α → ContinuationAnswer} {operation : ContinuationFiling α}
    {outcome : Except ContinuationDependencyError α} (quiet : operation disk = (outcome, [])) :
    answer accept (operation.run disk) = answer accept (outcome, disk) := by
  rw [Filing.run, quiet, applySteps_nil]

variable (lawful : LawfulContinuations)
include lawful

/-- A served create is one of the things that the store does. -/
theorem createContinuation_handled {record : DependencyContinuationRecord}
    (serves : Serves disk (.create record, reply) next) :
    Handled disk (.create record) reply next := by
  rw [Serves, serve] at serves
  by_cases creatable : record.Creatable
  · cases found : recordContent disk record.sessionId record.id with
    | none =>
      obtain ⟨bytes, encodes⟩ := encodeRecord_isOk lawful creatable.id creatable.sessionId
      rw [Filing.run, createContinuation_new creatable found encodes] at serves
      cases serves
      exact .created creatable found encodes
    | some bytes =>
      rw [answer_of_quiet (createContinuation_existing creatable found)] at serves
      cases decodes : decodeRecord record.sessionId record.id bytes with
      | error error =>
        rw [decodes] at serves
        cases serves
        exact .rejected _ _
      | ok existing =>
        rw [decodes, Except.bind, refuseIf] at serves
        split at serves
        · cases serves
          exact .rejected _ _
        · next same =>
          cases serves
          exact .replayed creatable found (by rw [decodes, not_not.mp same])
  · obtain ⟨error, rejects⟩ : ∃ error, createContinuation record disk = (.error error, []) :=
      createContinuation_rejected creatable
    rw [answer_of_quiet rejects] at serves
    cases serves
    exact .rejected _ _

/-- A served transition is one of the things that the store does. -/
theorem transitionContinuation_handled {request : DependencyTransitionContinuationRequest}
    (serves : Serves disk (.transition request, reply) next) :
    Handled disk (.transition request) reply next := by
  rw [Serves, serve] at serves
  by_cases attempted : request.Attempted
  · cases stored : storedRecord disk request.sessionId request.id with
    | error error =>
      have fails : transitionContinuation request disk = (.error error, []) := by
        rw [transitionContinuation_apply attempted, stored, Filing.onOk_error]
      rw [answer_of_quiet fails] at serves
      cases serves
      exact .rejected _ _
    | ok record =>
      by_cases pending : record.state = .pending
      · obtain ⟨session, id⟩ := storedRecord_ids stored
        obtain ⟨bytes, encodes⟩ : ∃ bytes,
            encodeRecord { record with state := request.target } = .ok bytes :=
          encodeRecord_isOk lawful (id ▸ attempted.id) (session ▸ attempted.sessionId)
        rw [Filing.run, transitionContinuation_pending attempted stored pending encodes] at serves
        cases serves
        exact .transitioned attempted stored pending encodes
      · rw [answer_of_quiet (transitionContinuation_ended attempted stored pending)] at serves
        split at serves
        · next same =>
          cases serves
          exact .repeated attempted stored same
        · cases serves
          exact .rejected _ _
  · obtain ⟨error, rejects⟩ : ∃ error, transitionContinuation request disk = (.error error, []) :=
      transitionContinuation_rejected attempted
    rw [answer_of_quiet rejects] at serves
    cases serves
    exact .rejected _ _

theorem serves_handled (serves : Serves disk (request, reply) next) :
    Handled disk request reply next := by
  cases request with
  | create record => exact createContinuation_handled lawful serves
  | transition request => exact transitionContinuation_handled lawful serves
  | load sessionId id =>
    rw [Serves, serve, answer_of_quiet loadContinuation_apply] at serves
    split at serves
    · cases stored : storedRecord disk sessionId id <;> rw [stored] at serves <;> cases serves
      · exact .rejected _ _
      · exact .loaded
    · cases serves
      exact .rejected _ _

end Requests

section Runs

variable [ContinuationSerde] [Hashing] {start disk next : Disk String} {served : List Served}
  {label : Served} {key : String × String}

omit [ContinuationSerde] [Hashing] in
theorem firstCreated_append (earlier later : List Served) :
    firstCreated key (earlier ++ later) = (firstCreated key earlier).or (firstCreated key later) := by
  fun_induction firstCreated key earlier with
  | case1 => rfl
  | case2 rest record own => rw [List.cons_append, firstCreated, if_pos own, Option.some_or]
  | case3 rest record other ih => rw [List.cons_append, firstCreated, if_neg other, ih]
  | case4 head rest other ih =>
    rw [List.cons_append, firstCreated, ih]
    exact other

/-- What the store holds of a continuation: nothing before the first accepted create, and from there
on the created record, in the state that the served transitions have left. -/
inductive Kept (served : List Served) (disk : Disk String) (key : String × String) : Prop where
  | absent : firstCreated key served = none → recordContent disk key.1 key.2 = none →
      served.countP (transitions key) = 0 → Kept served disk key
  | present {record : DependencyContinuationRecord} {state : DependencyContinuationState}
      {bytes : List UInt8} : firstCreated key served = some record → record.Creatable →
      (record.sessionId, record.id) = key →
      encodeRecord { record with state := state } = .ok bytes →
      recordContent disk key.1 key.2 = some bytes →
      served.countP (transitions key) = (if state = .pending then 0 else 1) → Kept served disk key

omit [Hashing] [ContinuationSerde] in
theorem countP_transitions_append (quiet : transitions key label = false) :
    (served ++ [label]).countP (transitions key) = served.countP (transitions key) := by
  rw [List.countP_append, List.countP_singleton, quiet]
  rfl

theorem Kept.of_unchanged (kept : Kept served disk key)
    (unchanged : recordContent next key.1 key.2 = recordContent disk key.1 key.2)
    (known : firstCreated key [label] = none ∨ recordContent disk key.1 key.2 ≠ none)
    (quiet : transitions key label = false) : Kept (served ++ [label]) next key := by
  cases kept with
  | absent uncreated gone uncounted =>
    refine .absent ?_ (unchanged.trans gone) ((countP_transitions_append quiet).trans uncounted)
    rw [firstCreated_append, uncreated, known.resolve_right (not_not.mpr gone)]
    rfl
  | present first creatable own encodes found counted =>
    refine .present ?_ creatable own encodes (unchanged.trans found)
      ((countP_transitions_append quiet).trans counted)
    rw [firstCreated_append, first, Option.some_or]

omit [ContinuationSerde] [Hashing] in
theorem firstCreated_of_ne {request : ContinuationRequest} {reply : ContinuationAnswer}
    (other : reply ≠ .created) : firstCreated key [(request, reply)] = none := by
  rw [firstCreated, firstCreated]
  intro record same
  cases same
  exact other rfl

variable (lawful : LawfulContinuations)
include lawful

omit lawful in
theorem Kept.created (kept : Kept served disk key) {record : DependencyContinuationRecord}
    {bytes : List UInt8} (creatable : record.Creatable)
    (gone : recordContent disk record.sessionId record.id = none)
    (encodes : encodeRecord record = .ok bytes) :
    Kept (served ++ [(.create record, .created)])
      ((FileStep.save record.sessionId (recordName record.id) bytes).apply disk) key := by
  by_cases own : (record.sessionId, record.id) = key
  · subst own
    cases kept with
    | absent uncreated _ uncounted =>
      have initially : encodeRecord { record with state := .pending } = .ok bytes := by
        rwa [← creatable.pending]
      refine .present ?_ creatable rfl initially ?_ ?_
      · rw [firstCreated_append, uncreated, firstCreated, if_pos rfl, Option.none_or]
      · rw [recordContent_save, if_pos ⟨rfl, rfl⟩]
      · rw [countP_transitions_append rfl, uncounted, if_pos rfl]
    | present _ _ _ _ found _ => cases gone.symm.trans found
  · refine kept.of_unchanged ?_ (.inl ?_) rfl
    · rw [recordContent_save, if_neg fun same => own (Prod.ext same.1.symm same.2.symm)]
    · rw [firstCreated, if_neg own, firstCreated]

/-- A continuation that is transitioned is held in its new state. -/
theorem Kept.transitioned (kept : Kept served disk key)
    {request : DependencyTransitionContinuationRequest} {record : DependencyContinuationRecord}
    {bytes : List UInt8} (attempted : request.Attempted)
    (stored : storedRecord disk request.sessionId request.id = .ok record)
    (pending : record.state = .pending)
    (encodes : encodeRecord { record with state := request.target } = .ok bytes) :
    Kept (served ++ [(.transition request, .transitioned ⟨true, request.target, record.payloadJson⟩)])
      (applySteps (replaceSteps { record with state := request.target } bytes) disk) key := by
  obtain ⟨session, id⟩ := storedRecord_ids stored
  by_cases own : (request.sessionId, request.id) = key
  · subst own
    cases kept with
    | absent _ gone _ =>
      rw [storedRecord, gone] at stored
      cases stored
    | @present first state before created creatable own encoded found counted =>
      -- The file holds the first record, so that this is what was read.
      obtain ⟨session', id'⟩ := Prod.mk.inj own
      have here : recordContent disk first.sessionId first.id = some before := by
        rw [session', id']
        exact found
      have read : storedRecord disk first.sessionId first.id = .ok record := by
        rw [session', id']
        exact stored
      have reads := storedRecord_of_encodes lawful encoded here
      rw [read] at reads
      split at reads
      · cases reads
        have now : encodeRecord { first with state := request.target } = .ok bytes := encodes
        refine .present ?_ creatable own now ?_ ?_
        · rw [firstCreated_append, created, Option.some_or]
        · rw [recordContent_replaceSteps, if_pos ⟨session.symm, id.symm⟩]
        · rw [List.countP_append, counted, if_pos pending, if_neg attempted.target]
          simp [transitions]
      · cases reads
  · refine kept.of_unchanged ?_ (.inl (firstCreated_of_ne fun same => by cases same)) ?_
    · rw [recordContent_replaceSteps, if_neg]
      rintro ⟨sameSession, sameId⟩
      exact own (Prod.ext (session.symm.trans sameSession.symm) (id.symm.trans sameId.symm))
    · simp [transitions, own]

theorem Kept.serves (kept : Kept served disk key) (serves : Serves disk label next) :
    Kept (served ++ [label]) next key := by
  obtain ⟨request, reply⟩ := label
  cases serves_handled lawful serves with
  | rejected request error =>
    exact kept.of_unchanged rfl (.inl (firstCreated_of_ne nofun)) (by cases request <;> rfl)
  | loaded => exact kept.of_unchanged rfl (.inl (firstCreated_of_ne nofun)) rfl
  | created creatable gone encodes => exact kept.created creatable gone encodes
  | @replayed record bytes creatable found decodes =>
    refine kept.of_unchanged rfl ?_ rfl
    by_cases own : (record.sessionId, record.id) = key
    · subst own
      exact .inr (found ▸ nofun)
    · exact .inl (by rw [firstCreated, if_neg own, firstCreated])
  | transitioned attempted stored pending encodes =>
    exact kept.transitioned lawful attempted stored pending encodes
  | repeated _ _ _ =>
    exact kept.of_unchanged rfl (.inl (firstCreated_of_ne nofun)) (by simp [transitions])

theorem Kept.of_run (fresh : ∀ sessionId id, recordContent start sessionId id = none)
    (run : Run Serves start served disk) : Kept served disk key := by
  induction run with
  | nil => exact .absent rfl (fresh _ _) rfl
  | snoc _ serves ih => exact ih.serves lawful serves

theorem recordContent_of_ended {record : DependencyContinuationRecord} {bytes : List UInt8}
    (encodes : encodeRecord record = .ok bytes) (ended : record.state ≠ .pending)
    (found : recordContent disk record.sessionId record.id = some bytes)
    (run : Run Serves disk served next) :
    recordContent next record.sessionId record.id = some bytes := by
  induction run with
  | nil => exact found
  | @snoc _ label _ _ _ serves held =>
    obtain ⟨request, reply⟩ := label
    cases serves_handled lawful serves with
    | rejected | loaded | replayed | repeated => exact held
    | created _ gone _ =>
      rw [recordContent_save, if_neg, held]
      rintro ⟨session, id⟩
      rw [session, id, gone] at held
      cases held
    | transitioned _ stored pending _ =>
      rw [recordContent_replaceSteps, if_neg, held]
      rintro ⟨session, id⟩
      obtain ⟨session', id'⟩ := storedRecord_ids stored
      have reads := storedRecord_of_encodes lawful encodes held
      rw [session, id, session', id', stored] at reads
      split at reads
      · cases reads
        exact ended pending
      · cases reads

/-- A continuation that is held is created again exactly by the first record, while it is pending and
not too long. -/
theorem created_iff {first record : DependencyContinuationRecord}
    {state : DependencyContinuationState} {bytes : List UInt8} {reply : ContinuationAnswer}
    (creatable : first.Creatable) (ids : (first.sessionId, first.id) = (record.sessionId, record.id))
    (encodes : encodeRecord { first with state := state } = .ok bytes)
    (found : recordContent disk record.sessionId record.id = some bytes)
    (serves : Serves disk (.create record, reply) next) :
    reply = .created ↔ record = first ∧ state = .pending ∧ bytes.length ≤ maxRecordBytes := by
  obtain ⟨session, id⟩ := Prod.mk.inj ids
  constructor
  · rintro rfl
    cases serves_handled lawful serves with
    | created _ gone _ => cases gone.symm.trans found
    | replayed again here decodes =>
      cases here.symm.trans found
      rw [← session, ← id] at decodes
      by_cases short : bytes.length ≤ maxRecordBytes
      · rw [decodeRecord_of_le lawful encodes short] at decodes
        cases decodes
        have pending : state = .pending := again.pending
        refine ⟨?_, pending, short⟩
        rw [pending, ← creatable.pending]
      · rw [decodeRecord_of_lt (Nat.lt_of_not_le short)] at decodes
        cases decodes
  · rintro ⟨rfl, rfl, short⟩
    have same : { record with state := .pending } = record := by rw [← creatable.pending]
    rw [same] at encodes
    have decodes := decodeRecord_of_le lawful encodes short
    rw [Serves, serve, answer_of_quiet (createContinuation_existing creatable found), decodes] at serves
    simp only [Except.bind, refuseIf, ne_eq, not_true_eq_false, if_false] at serves
    cases serves
    rfl

theorem transitioned_iff {request : DependencyTransitionContinuationRequest}
    {record : DependencyContinuationRecord} {reply : ContinuationAnswer} (attempted : request.Attempted)
    (stored : storedRecord disk request.sessionId request.id = .ok record)
    (serves : Serves disk (.transition request, reply) next) :
    reply = .transitioned ⟨true, request.target, record.payloadJson⟩ ↔ record.state = .pending := by
  constructor
  · intro passes
    cases serves_handled lawful serves with
    | rejected => cases passes
    | transitioned _ read pending _ =>
      cases read.symm.trans stored
      exact pending
    | repeated => cases passes
  · intro pending
    obtain ⟨session, id⟩ := storedRecord_ids stored
    obtain ⟨bytes, encodes⟩ : ∃ bytes,
        encodeRecord { record with state := request.target } = .ok bytes :=
      encodeRecord_isOk lawful (id ▸ attempted.id) (session ▸ attempted.sessionId)
    rw [Serves, serve, Filing.run, transitionContinuation_pending attempted stored pending
      encodes] at serves
    cases serves
    rfl

/-- Over every run, each continuation is transitioned once at most; its file holds the record of the
first accepted create, in a state that no longer changes when it is terminal; a rejected request
leaves all files; a transition passes where the gate of the stored state lets it pass; and a second
create is accepted exactly where it is the first one, except behind a transition or where the record
is too long. -/
theorem resume_once_iff (fresh : ∀ sessionId id, recordContent start sessionId id = none)
    (run : Run Serves start served disk) :
    (∀ key, served.countP (transitions key) ≤ 1) ∧
    (∀ key first, firstCreated key served = some first → ∃ state bytes,
      encodeRecord { first with state := state } = .ok bytes ∧
      recordContent disk key.1 key.2 = some bytes ∧
      (state ≠ .pending → ∀ later next, Run Serves disk later next →
        recordContent next key.1 key.2 = some bytes)) ∧
    (∀ request error next, Serves disk (request, .rejected error) next → next = disk) ∧
    (∀ request record reply next, request.Attempted →
      storedRecord disk request.sessionId request.id = .ok record →
      Serves disk (.transition request, reply) next →
      (reply = .transitioned ⟨true, request.target, record.payloadJson⟩ ↔ ∃ gate,
        (ResumeOnce.transition request.target.core).apply (.fromState record.state.core) =
          (.ok (), gate))) ∧
    ∀ record first bytes reply next, firstCreated (record.sessionId, record.id) served = some first →
      encodeRecord first = .ok bytes → Serves disk (.create record, reply) next →
      ((reply = .created ↔ record = first) ↔ (record = first →
        recordContent disk record.sessionId record.id = some bytes ∧
          bytes.length ≤ maxRecordBytes)) := by
  refine ⟨fun key => ?_, fun key first created => ?_, fun request error next serves => ?_,
    fun request record reply next attempted stored serves => ?_,
    fun record first bytes reply next created encodes serves => ?_⟩
  · cases Kept.of_run lawful fresh run with
    | absent _ _ uncounted => exact uncounted.trans_le (Nat.zero_le 1)
    | present _ _ _ _ _ counted =>
      rw [counted]
      split <;> simp
  · cases Kept.of_run lawful fresh run with
    | absent uncreated _ _ => cases uncreated.symm.trans created
    | present held _ own encodes found _ =>
      cases held.symm.trans created
      subst own
      refine ⟨_, _, encodes, found, fun ended later next continues => ?_⟩
      have stays := recordContent_of_ended lawful encodes ended found continues
      exact stays
  · cases serves_handled lawful serves
    rfl
  · rw [ResumeOnce.fromState_passes]
    exact transitioned_iff lawful attempted stored serves
  · cases Kept.of_run lawful fresh run with
    | absent uncreated _ _ => cases uncreated.symm.trans created
    | @present held state content first' creatable own written found _ =>
      cases first'.symm.trans created
      rw [created_iff lawful creatable own written found serves, found, Option.some_inj]
      -- The file holds the bytes of the first record exactly while the record is pending.
      have whole : content = bytes ↔ state = .pending := by
        constructor
        · rintro rfl
          have same := encodeRecord_inj lawful written encodes
          exact (congrArg DependencyContinuationRecord.state same).trans creatable.pending
        · rintro rfl
          rw [← creatable.pending] at written
          cases written.symm.trans encodes
          rfl
      constructor
      · intro accepts same
        obtain ⟨-, pending, short⟩ := accepts.mpr same
        have held := whole.mpr pending
        exact ⟨held, held ▸ short⟩
      · intro holds
        refine ⟨And.left, fun same => ?_⟩
        obtain ⟨held, short⟩ := holds same
        exact ⟨same, whole.mp held, held ▸ short⟩

end Runs

section Sample

attribute [local instance] prefixHash segmentedContinuations

theorem recordContent_emptyDisk (sessionId id : String) : recordContent emptyDisk sessionId id = none :=
  Std.ExtTreeMap.getElem?_empty

/-- The disk behind the creation of the sample's continuation. -/
def createdDisk : Disk String :=
  (FileStep.save sampleContinuation.sessionId (recordName sampleContinuation.id)
    (sampleRecordBytes sampleContinuation)).apply emptyDisk

theorem recordContent_createdDisk :
    recordContent createdDisk sampleContinuation.sessionId sampleContinuation.id =
      some (sampleRecordBytes sampleContinuation) := by
  rw [createdDisk, recordContent_save, if_pos ⟨rfl, rfl⟩]

theorem serves_sampleContinuation :
    Serves emptyDisk (.create sampleContinuation, .created) createdDisk := by
  rw [Serves, serve, Filing.run, createContinuation_new creatable_sampleContinuation
    (recordContent_emptyDisk _ _) encodeRecord_sampleContinuation]
  rfl

theorem serves_answer (request : ContinuationRequest) (disk : Disk String) :
    Serves disk (request, (serve request disk).1) (serve request disk).2 := by
  rw [Serves]

/-- The created continuation accepts the same create again. -/
theorem resume_once_iff_sample : (serve (.create sampleContinuation) createdDisk).1 = .created := by
  have run : Run Serves emptyDisk [(.create sampleContinuation, .created)] createdDisk :=
    Run.nil.snoc serves_sampleContinuation
  have serves := serves_answer (.create sampleContinuation) createdDisk
  obtain ⟨-, -, -, -, replays⟩ := resume_once_iff lawful_segmentedContinuations
    recordContent_emptyDisk run
  exact ((replays sampleContinuation sampleContinuation _ _ _ (if_pos rfl)
    encodeRecord_sampleContinuation serves).mpr fun _ =>
      ⟨recordContent_createdDisk, sampleRecordBytes_short⟩).mpr rfl

theorem encodeRecord_resumedContinuation :
    encodeRecord resumedContinuation = .ok (sampleRecordBytes resumedContinuation) :=
  encodeRecord_eq_ok.mpr ⟨by decide, by decide, _, rfl, rfl⟩

/-- The disk behind the resumption of the sample's continuation. -/
def resumedDisk : Disk String :=
  applySteps (replaceSteps resumedContinuation (sampleRecordBytes resumedContinuation)) createdDisk

/-- The resumption of the sample's continuation. -/
def sampleResumption : DependencyTransitionContinuationRequest where
  sessionId := sampleContinuation.sessionId
  id := sampleContinuation.id
  expected := .pending
  target := .resumed

theorem serves_sampleResumption : Serves createdDisk
    (.transition sampleResumption, .transitioned ⟨true, .resumed, sampleContinuation.payloadJson⟩)
    resumedDisk := by
  have stored : storedRecord createdDisk sampleResumption.sessionId sampleResumption.id =
      .ok sampleContinuation := by
    have reads := storedRecord_of_encodes lawful_segmentedContinuations
      encodeRecord_sampleContinuation recordContent_createdDisk
    rwa [if_pos sampleRecordBytes_short] at reads
  rw [Serves, serve, Filing.run, transitionContinuation_pending ⟨rfl, by decide, by decide, by decide⟩
    stored rfl encodeRecord_resumedContinuation]
  rfl

set_option maxRecDepth 8000 in
/-- A retry of the create that was accepted is rejected behind the resumption. -/
theorem not_resume_once : ∃ served disk, Run Serves emptyDisk served disk ∧
    firstCreated (sampleContinuation.sessionId, sampleContinuation.id) served =
      some sampleContinuation ∧
    Serves disk (.create sampleContinuation, .rejected (.alreadyExists sampleContinuation.id)) disk := by
  refine ⟨_, resumedDisk, (Run.nil.snoc serves_sampleContinuation).snoc serves_sampleResumption,
    if_pos rfl, ?_⟩
  have found : recordContent resumedDisk sampleContinuation.sessionId sampleContinuation.id =
      some (sampleRecordBytes resumedContinuation) := by
    rw [resumedDisk, recordContent_replaceSteps, if_pos ⟨rfl, rfl⟩]
  have decodes : decodeRecord sampleContinuation.sessionId sampleContinuation.id
      (sampleRecordBytes resumedContinuation) = .ok resumedContinuation :=
    decodeRecord_of_le lawful_segmentedContinuations encodeRecord_resumedContinuation (by decide)
  have other : resumedContinuation ≠ sampleContinuation := by decide
  rw [Serves, serve, answer_of_quiet (createContinuation_existing creatable_sampleContinuation found),
    decodes, Except.bind, refuseIf, if_pos other]
  rfl

end Sample

end AgentMod
