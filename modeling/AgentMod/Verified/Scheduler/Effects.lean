import AgentMod.Verified.Scheduler.ClaimDue

/-! What each request does to a sound store. -/

namespace AgentMod

section Grows

variable [SchedulerSerde] [Hashing] {before middle after : Directory}
  {news others : List DependencyExecution} {execution : DependencyExecution} {name : String}
  {content : List UInt8}

/-- Claim files are never changed, and each new one holds a new execution under its name. -/
structure Grows (before : Directory) (news : List DependencyExecution) (after : Directory) : Prop where
  keeps : ∀ name content, extension name = some "json" → before[name]? = some content →
    after[name]? = some content
  origin : ∀ name content, extension name = some "json" → after[name]? = some content →
    before[name]? = some content ∨ ∃ execution ∈ news,
      name = executionFile execution.executionId ∧ encodeExecution execution = .ok content
  new : ∀ execution ∈ news, before[executionFile execution.executionId]? = none ∧ ∃ bytes,
    encodeExecution execution = .ok bytes ∧ after[executionFile execution.executionId]? = some bytes
  nodup : (news.map DependencyExecution.executionId).Nodup
  named : ∀ new ∈ news, new.SelfNamed

omit [SchedulerSerde] in
theorem DependencyExecution.SelfNamed.extension_file (named : execution.SelfNamed) :
    extension (executionFile execution.executionId) = some "json" := by
  refine extension_executionFile ?_
  rw [named.named]
  exact occurrenceId_ne_empty

theorem Grows.refl (same : ∀ name, extension name = some "json" → after[name]? = before[name]?) :
    Grows before [] after where
  keeps name content kind found := by rwa [same name kind]
  origin name content kind found := .inl (by rwa [← same name kind])
  new _ member := absurd member List.not_mem_nil
  nodup := List.nodup_nil
  named _ member := absurd member List.not_mem_nil

theorem RecordsNew.grows (records : RecordsNew before news after)
    (named : ∀ new ∈ news, new.SelfNamed) : Grows before news after where
  keeps _ _ _ found := records.keeps found
  origin _ _ _ found := records.origin found
  new _ member := records.new member
  nodup := records.nodup
  named := named

theorem Grows.contains (grows : Grows before news after) (kind : extension name = some "json")
    (present : before.contains name) : after.contains name := by
  obtain ⟨content, found⟩ := StringMap.contains_iff.mp present
  exact StringMap.contains_iff.mpr ⟨content, grows.keeps name content kind found⟩

/-- What is new behind each other is new. -/
theorem Grows.append (first : Grows before news middle) (second : Grows middle others after) :
    Grows before (news ++ others) after where
  keeps name content kind found := second.keeps name content kind (first.keeps name content kind found)
  origin name content kind found := by
    rcases second.origin name content kind found with old | ⟨execution, member, isNew⟩
    · refine (first.origin name content kind old).imp_right ?_
      rintro ⟨execution, member, isNew⟩
      exact ⟨execution, List.mem_append_left others member, isNew⟩
    · exact .inr ⟨execution, List.mem_append_right news member, isNew⟩
  new execution member := by
    rcases List.mem_append.mp member with early | late
    · obtain ⟨absent, bytes, encodes, found⟩ := first.new execution early
      exact ⟨absent, bytes, encodes,
        second.keeps _ bytes (first.named execution early).extension_file found⟩
    · obtain ⟨absent, holds⟩ := second.new execution late
      refine ⟨?_, holds⟩
      cases found : before[executionFile execution.executionId]? with
      | none => rfl
      | some content =>
        have kept := first.keeps _ content (second.named execution late).extension_file found
        cases absent.symm.trans kept
  nodup := by
    rw [List.map_append, List.nodup_append]
    refine ⟨first.nodup, second.nodup, ?_⟩
    -- The claim file of an earlier execution is there already when a later one is recorded.
    rintro id early _ late rfl
    obtain ⟨older, isOlder, rfl⟩ := List.mem_map.mp early
    obtain ⟨newer, isNewer, same⟩ := List.mem_map.mp late
    obtain ⟨-, bytes, -, found⟩ := first.new older isOlder
    rw [← same, (second.new newer isNewer).1] at found
    cases found
  named new member := (List.mem_append.mp member).elim (first.named new) (second.named new)

end Grows

section Effects

variable [SchedulerSerde] [Hashing] {disk next : SchedulerDisk} {request : SchedulerRequest}
  {answer : SchedulerAnswer} {news : List DependencyExecution} {schedule : DependencySchedule}
  {nonce id executionId : String} {succeeded : Bool} {limit : Nat} {reading : Option Nat}
  {nonces : String → String}

/-- An answer that says that nothing has changed. -/
def SchedulerAnswer.quiet : SchedulerAnswer → Bool
  | .stored result => result.replayed
  | .removed found => !found
  | .claimed _ => false
  | .completed marked => !marked
  | .listed _ | .pending _ | .rejected _ => true

/-- What a request does to a sound store, with the executions that it records. -/
inductive Effect (disk : SchedulerDisk) :
    SchedulerRequest → SchedulerAnswer → List DependencyExecution → SchedulerDisk → Prop where
  /-- The request is rejected, or only reads. -/
  | quiet {request : SchedulerRequest} {answer : SchedulerAnswer} :
      answer.quiet → Effect disk request answer [] disk
  | stored {schedule : DependencySchedule} {nonce : String} {bytes : List UInt8}
      {next : SchedulerDisk} : validateDependencySchedule schedule = .ok () →
      encodeState (.behind schedule 0) = .ok bytes →
      Written disk (scheduleFile schedule.scheduleId) nonce bytes next →
      Effect disk (.upsert schedule nonce) (.stored ⟨schedule.scheduleId, false⟩) [] next
  | removed {id : String} {next : SchedulerDisk} : validateId id = .ok () →
      next = (FileStep.remove .schedules (scheduleFile id)).apply disk →
      Effect disk (.remove id) (.removed true) [] next
  /-- The due occurrences of all schedules are claimed. -/
  | claimed {limit : Nat} {reading : Option Nat} {nonces : String → String} {now : Int64}
      {news : List DependencyExecution} {next : SchedulerDisk}
      {outcome : Fallible SchedulerDependencyError (List DependencyExecution)} :
      nowMillis reading = .ok now →
      FilesClaimed limit now nonces ((disk .schedules).listing "json") disk [] news outcome next →
      Effect disk (.claimDue limit reading nonces) (schedulerAnswer .claimed (outcome, next)).1 news next
  /-- The occurrences of an observation are claimed. -/
  | fired {request : SchedulerRequest} {firing : Firing} {now : Int64}
      {schedules : List DependencySchedule} {news : List DependencyExecution} {next : SchedulerDisk} :
      request.firing = some firing → validateId firing.sourceId = .ok () →
      nowMillis firing.reading = .ok now →
      List.Forall₂ (StoredIn disk) (((disk .schedules).listing "json").take 10000) schedules →
      MatchesClaimed firing.sourceId firing.sessionId now firing.observation firing.predicate schedules
        disk news next →
      Effect disk request (.claimed news) news next
  /-- An execution is marked as ended. -/
  | marked {executionId : String} {succeeded : Bool} {next : SchedulerDisk} :
      next .schedules = disk .schedules →
      ¬ (disk .executions).contains (markerFile executionId (!succeeded)) →
      (∀ name, (next .executions)[name]? = if name = markerFile executionId succeeded
        then some markerBytes else (disk .executions)[name]?) →
      Effect disk (.completeExecution executionId succeeded) (.completed true) [] next

omit [SchedulerSerde] [Hashing] in
theorem claims_of_quiet (silent : answer.quiet) : answer.claims = [] := by
  cases answer with
  | claimed executions => cases silent
  | _ => rfl

omit [SchedulerSerde] [Hashing] in
theorem answer_check {α β : Type} {accept : β → SchedulerAnswer}
    {outcome : Fallible SchedulerDependencyError α} {rest : α → SchedulerFiling β}
    (serves : schedulerAnswer accept ((Filing.ofExcept outcome >>= rest).run disk) = (answer, next)) :
    (answer.quiet ∧ next = disk) ∨ ∃ value, outcome = .ok value ∧
      schedulerAnswer accept ((rest value).run disk) = (answer, next) := by
  rw [Filing.run_bind, Filing.run_ofExcept] at serves
  cases outcome with
  | error failure =>
    cases serves
    exact .inl ⟨rfl, rfl⟩
  | ok value => exact .inr ⟨value, rfl, serves⟩

variable (lawful : LawfulScheduler) (sound : Sound disk)
include lawful sound

omit sound in
theorem store_run (valid : validateDependencySchedule schedule = .ok ()) (fresh : FreshNonce disk nonce) :
    ∃ bytes written, (do
        writeState (scheduleFile schedule.scheduleId) nonce ⟨schedule, schedule.trigger.firstDue, false⟩
        return (⟨schedule.scheduleId, false⟩ : DependencyStoreResult)).run disk =
      (.ok ⟨schedule.scheduleId, false⟩, written) ∧
      encodeState (.behind schedule 0) = .ok bytes ∧
      Written disk (scheduleFile schedule.scheduleId) nonce bytes written := by
  obtain ⟨bytes, encodes⟩ := encodeState_isOk lawful (.behind schedule 0)
  obtain ⟨written, writes, wrote⟩ := writeState_run encodes
    (fresh.writable (extension_scheduleFile (validateId_of_schedule valid)))
  refine ⟨bytes, written, ?_, encodes, wrote⟩
  rw [← behind_zero, Filing.run_bind, writes]
  rfl

omit lawful in
theorem schedulePath_run (valid : validateId id = .ok ()) :
    (schedulePath id).run disk = (.ok (scheduleFile id), disk) := by
  rw [Filing.run, schedulePath_apply sound valid, applySteps_nil]

theorem upsert_new (valid : validateDependencySchedule schedule = .ok ()) (fresh : FreshNonce disk nonce)
    (absent : (disk .schedules)[scheduleFile schedule.scheduleId]? = none) : ∃ bytes written,
      serveScheduler (.upsert schedule nonce) disk = (.stored ⟨schedule.scheduleId, false⟩, written) ∧
      encodeState (.behind schedule 0) = .ok bytes ∧
      Written disk (scheduleFile schedule.scheduleId) nonce bytes written := by
  obtain ⟨bytes, written, stores, encodes, wrote⟩ := store_run lawful valid fresh
  have missing : ¬ (disk .schedules).contains (scheduleFile schedule.scheduleId) := by
    rw [StringMap.contains_iff, absent]
    simp
  refine ⟨bytes, written, ?_, encodes, wrote⟩
  rw [serveScheduler, upsert, Filing.run_bind, Filing.run_ofExcept, valid]
  dsimp only
  rw [Filing.run_bind, schedulePath_run sound (validateId_of_schedule valid)]
  dsimp only
  rw [Filing.run_read_bind, if_neg missing, stores]
  rfl

/-- Storing a schedule is refused, or writes its file. -/
theorem upsert_effect (fresh : FreshNonce disk nonce)
    (serves : schedulerAnswer .stored ((upsert schedule nonce).run disk) = (answer, next)) :
    Effect disk (.upsert schedule nonce) answer [] next := by
  rw [upsert] at serves
  rcases answer_check serves with ⟨silent, rfl⟩ | ⟨_, valid, serves⟩
  · exact .quiet silent
  have validId := validateId_of_schedule valid
  obtain ⟨bytes, written, stores, encodes, wrote⟩ := store_run lawful valid fresh
  rw [Filing.run_bind, schedulePath_run sound validId] at serves
  dsimp only at serves
  rw [Filing.run_read_bind] at serves
  split at serves
  · next present =>
    -- The file holds a schedule: one of the same idempotency identifier, or another.
    obtain ⟨content, found⟩ := StringMap.contains_iff.mp present
    obtain ⟨held, index, holds⟩ := sound.schedules _ content found (extension_scheduleFile validId)
    have loads : (loadState (scheduleFile schedule.scheduleId)).run disk =
        (.ok (.behind held index), disk) := by
      rw [Filing.run, loadState_apply lawful found holds.encodes, applySteps_nil]
    rw [Filing.run_bind, loads] at serves
    dsimp only at serves
    split at serves
    · rcases answer_check serves with ⟨silent, rfl⟩ | ⟨_, -, serves⟩
      · exact .quiet silent
      · cases serves
        exact .quiet rfl
    · rw [stores] at serves
      cases serves
      exact .stored valid encodes wrote
  · rw [stores] at serves
    cases serves
    exact .stored valid encodes wrote

omit lawful in
theorem remove_effect (serves : schedulerAnswer .removed ((remove id).run disk) = (answer, next)) :
    Effect disk (.remove id) answer [] next := by
  rw [remove, Filing.run_bind] at serves
  cases valid : validateId id with
  | error failure =>
    rw [Filing.run, schedulePath_invalid valid] at serves
    cases serves
    exact .quiet rfl
  | ok _ =>
    rw [Filing.run, schedulePath_apply sound valid, applySteps_nil] at serves
    dsimp only at serves
    rw [Filing.run_read_bind] at serves
    split at serves
    · cases serves
      exact .removed valid rfl
    · cases serves
      exact .quiet rfl

theorem list_effect (serves : schedulerAnswer .listed ((listUnlocked limit).run disk) = (answer, next)) :
    Effect disk (.list limit) answer [] next := by
  obtain ⟨schedules, lists, -⟩ := listUnlocked_apply lawful sound limit
  rw [Filing.run, lists] at serves
  cases serves
  exact .quiet rfl

omit lawful sound in
theorem listPendingExecutions_effect (serves : schedulerAnswer .pending
      ((listPendingExecutions limit).run disk) = (answer, next)) :
    Effect disk (.listPendingExecutions limit) answer [] next := by
  rw [listPendingExecutions] at serves
  rcases answer_check serves with ⟨silent, rfl⟩ | ⟨_, -, serves⟩
  · exact .quiet silent
  · rw [Filing.run_read_bind, Filing.run_ofExcept] at serves
    generalize listPendingFiles _ _ _ _ = outcome at serves
    cases outcome with
    | error failure =>
      cases serves
      exact .quiet rfl
    | ok pending =>
      cases serves
      exact .quiet rfl

theorem claimDue_run {now : Int64} (fresh : ∀ path, FreshNonce disk (nonces path))
    (clock : nowMillis reading = .ok now) : ∃ outcome news next,
      (claimDue limit reading nonces).run disk = (outcome, next) ∧
      FilesClaimed limit now nonces ((disk .schedules).listing "json") disk [] news outcome next := by
  have listed : ∀ name ∈ (disk .schedules).listing "json", extension name = some "json" ∧
      ∃ content, (disk .schedules)[name]? = some content := fun name member =>
    ⟨(Directory.mem_listing.mp member).2, (Directory.mem_listing.mp member).1⟩
  obtain ⟨outcome, news, reached, runs, claimed⟩ : ∃ outcome news reached,
      (claimFiles limit now nonces ((disk .schedules).listing "json") []).run disk =
        (outcome, reached) ∧
      FilesClaimed limit now nonces ((disk .schedules).listing "json") disk [] news outcome reached :=
    claimFiles_run lawful sound fresh listed Directory.nodup_listing
  refine ⟨outcome, news, reached, ?_, claimed⟩
  rw [claimDue, Filing.run_bind, Filing.run_ofExcept, clock]
  dsimp only
  rw [Filing.run_read_bind, runs]

theorem claimDue_effect (fresh : ∀ path, FreshNonce disk (nonces path))
    (serves : schedulerAnswer .claimed ((claimDue limit reading nonces).run disk) = (answer, next)) :
    ∃ news, Effect disk (.claimDue limit reading nonces) answer news next := by
  cases clock : nowMillis reading with
  | error failure =>
    rw [claimDue, Filing.run_bind, Filing.run_ofExcept, clock] at serves
    cases serves
    exact ⟨[], .quiet rfl⟩
  | ok now =>
    obtain ⟨outcome, news, reached, runs, claimed⟩ : ∃ outcome news reached,
        (claimDue limit reading nonces).run disk = (outcome, reached) ∧
        FilesClaimed limit now nonces ((disk .schedules).listing "json") disk [] news outcome
          reached := claimDue_run lawful sound fresh clock
    rw [runs] at serves
    have same : next = reached := by
      cases outcome with
      | error failure =>
        cases serves
        rfl
      | ok executions =>
        cases serves
        rfl
    have said : answer = (schedulerAnswer .claimed (outcome, reached)).1 := by rw [serves]
    rw [same, said]
    exact ⟨news, .claimed clock claimed⟩

/-- Where the identifiers are valid and the clock is in range, the occurrences of an observation are
claimed. -/
theorem offer_run {firing : Firing} {now : Int64} (source : validateId firing.sourceId = .ok ())
    (session : validateId firing.sessionId = .ok ()) (clock : nowMillis firing.reading = .ok now) :
    ∃ schedules news next, firing.offer.run disk = (.ok news, next) ∧
      (listUnlocked 10000).run disk = (.ok schedules, disk) ∧
      List.Forall₂ (StoredIn disk) (((disk .schedules).listing "json").take 10000) schedules ∧
      MatchesClaimed firing.sourceId firing.sessionId now firing.observation firing.predicate schedules
        disk news next := by
  obtain ⟨schedules, lists, all⟩ := listUnlocked_apply lawful sound 10000
  obtain ⟨news, reached, claims, claimed⟩ : ∃ news reached,
      (claimMatches firing.sourceId firing.sessionId now firing.observation firing.predicate
        schedules).run disk = (.ok news, reached) ∧
      MatchesClaimed firing.sourceId firing.sessionId now firing.observation firing.predicate
        schedules disk news reached := claimMatches_run lawful
  have here : (listUnlocked 10000).run disk = (.ok schedules, disk) := by
    rw [Filing.run, lists, applySteps_nil]
  refine ⟨schedules, news, reached, ?_, here, all, claimed⟩
  simp only [Firing.offer, source, session, clock, Filing.run_bind, Filing.run_ofExcept, eventMatches,
    here, claims]

theorem fire_effect {firing : Firing} (fires : request.firing = some firing)
    (serves : schedulerAnswer .claimed (firing.offer.run disk) = (answer, next)) :
    ∃ news, Effect disk request answer news next := by
  rw [Firing.offer] at serves
  rcases answer_check serves with ⟨silent, rfl⟩ | ⟨_, source, rest⟩
  · exact ⟨[], .quiet silent⟩
  rcases answer_check rest with ⟨silent, rfl⟩ | ⟨_, session, rest⟩
  · exact ⟨[], .quiet silent⟩
  rcases answer_check rest with ⟨silent, rfl⟩ | ⟨now, clock, -⟩
  · exact ⟨[], .quiet silent⟩
  obtain ⟨schedules, news, reached, offers, -, all, claimed⟩ :=
    offer_run lawful sound source session clock
  rw [← Firing.offer, offers] at serves
  cases serves
  exact ⟨news, .fired fires source clock all claimed⟩

omit lawful sound in
/-- Marking an execution is refused, or writes its marker. -/
theorem completeExecution_effect (serves : schedulerAnswer .completed
      ((completeExecution executionId succeeded).run disk) = (answer, next)) :
    Effect disk (.completeExecution executionId succeeded) answer [] next := by
  rw [completeExecution] at serves
  rcases answer_check serves with ⟨silent, rfl⟩ | ⟨_, -, serves⟩
  · exact .quiet silent
  rw [Filing.run_read_bind] at serves
  rcases answer_check serves with ⟨silent, rfl⟩ | ⟨bytes, -, serves⟩
  · exact .quiet silent
  rcases answer_check serves with ⟨silent, rfl⟩ | ⟨stored, -, serves⟩
  · exact .quiet silent
  rcases answer_check serves with ⟨silent, rfl⟩ | ⟨sum, -, serves⟩
  · exact .quiet silent
  rcases answer_check serves with ⟨silent, rfl⟩ | ⟨_, -, serves⟩
  · exact .quiet silent
  rcases answer_check serves with ⟨silent, rfl⟩ | ⟨_, unopposed, serves⟩
  · exact .quiet silent
  rw [refuseIf_eq_ok] at unopposed
  split at serves
  · cases serves
    exact .quiet rfl
  · -- There is one status only, so that the second check never fails.
    have claimed : stored.record.status = .claimed := by cases stored.record.status with | claimed => rfl
    have marks : ∀ marked : SchedulerDisk, answer = .completed true ∧ next = marked →
        (∀ directory name, (marked directory)[name]? =
          if directory = .executions ∧ markerFile executionId succeeded = name then some markerBytes
          else (disk directory)[name]?) → marked .schedules = disk .schedules →
        Effect disk (.completeExecution executionId succeeded) answer [] next := by
      rintro marked ⟨rfl, rfl⟩ holds same
      refine .marked same unopposed fun name => ?_
      rw [holds]
      simp only [true_and, eq_comm]
    simp only [Filing.run_bind, Filing.run_perform, Filing.run_ofExcept, Filing.run_pure, claimed, ne_eq,
      not_true_eq_false, refuseIf, if_false, schedulerAnswer, Prod.mk.injEq] at serves
    refine marks _ ⟨serves.1.symm, serves.2.symm⟩ (fun directory name => ?_) ?_
    · rw [save_at, save_at]
      split
      · rfl
      · rfl
    · rw [FileStep.apply_other (by simp [FileStep.directory]),
        FileStep.apply_other (by simp [FileStep.directory])]

theorem serve_effect (fresh : request.Fresh disk)
    (serves : serveScheduler request disk = (answer, next)) :
    ∃ news, Effect disk request answer news next := by
  cases request with
  | upsert schedule nonce => exact ⟨[], upsert_effect lawful sound fresh serves⟩
  | remove id => exact ⟨[], remove_effect sound serves⟩
  | list limit => exact ⟨[], list_effect lawful sound serves⟩
  | claimDue limit reading nonces => exact claimDue_effect lawful sound fresh serves
  | listPendingExecutions limit => exact ⟨[], listPendingExecutions_effect serves⟩
  | fireRuntimeEvent session event kind reading => exact fire_effect lawful sound rfl serves
  | fireProcessOutput session output process text reading => exact fire_effect lawful sound rfl serves
  | completeExecution executionId succeeded => exact ⟨[], completeExecution_effect serves⟩

end Effects

section Consequences

variable [SchedulerSerde] [Hashing] {disk next : SchedulerDisk} {request : SchedulerRequest}
  {answer : SchedulerAnswer} {news : List DependencyExecution} {id other executionId name : String}
  {succeeded : Bool}

omit [SchedulerSerde] [Hashing] in
theorem markerFile_ne : markerFile id true ≠ markerFile other false := by
  intro same
  have texts := congrArg (fun text => text.toList.reverse.take 7) same
  simp [markerFile, String.toList_append] at texts

omit [SchedulerSerde] [Hashing] in
theorem markerFile_inj (same : markerFile id succeeded = markerFile other succeeded) : id = other :=
  append_right_inj same

omit [SchedulerSerde] [Hashing] in
theorem extension_markerFile : extension (markerFile id succeeded) ≠ some "json" := by
  have split : ∀ ending : String, '.' ∉ ending.toList → ending ≠ "json" →
      extension (id ++ "." ++ ending) ≠ some "json" := by
    intro ending undotted differs
    rw [extension, rsplitOnce_append id undotted]
    dsimp only
    split
    · exact (Option.some_ne_none _).symm
    · exact fun same => differs (Option.some_inj.mp same)
  have parts : markerFile id succeeded = id ++ "." ++ if succeeded then "succeeded" else "failed" := by
    rw [markerFile, String.append_assoc]
    cases succeeded
    · rfl
    · rfl
  rw [parts]
  cases succeeded
  · exact split _ (by decide) (by decide)
  · exact split _ (by decide) (by decide)

theorem Sound.removed (sound : Sound disk) :
    Sound ((FileStep.remove .schedules name).apply disk) := by
  have same : (FileStep.remove .schedules name).apply disk .executions = disk .executions :=
    FileStep.apply_other (by simp [FileStep.directory])
  have older : ∀ (other : String) (content : List UInt8),
      ((FileStep.remove .schedules name).apply disk .schedules)[other]? = some content →
        (disk .schedules)[other]? = some content := by
    intro other content found
    rw [remove_at] at found
    split at found
    · cases found
    · exact found
  refine ⟨fun other content found kind => ?_, fun other content found => ?_, ?_, ?_⟩
  · rw [same]
    exact sound.schedules other content (older other content found) kind
  · exact sound.unbacked other content (older other content found)
  · rw [same]
    exact sound.executions
  · rw [same]
    exact sound.markers

/-- Marking an execution keeps a store sound. -/
theorem Sound.marked (sound : Sound disk) (same : next .schedules = disk .schedules)
    (unopposed : ¬ (disk .executions).contains (markerFile executionId (!succeeded)))
    (marks : ∀ name, (next .executions)[name]? = if name = markerFile executionId succeeded
      then some markerBytes else (disk .executions)[name]?) : Sound next where
  schedules name content found kind := by
    rw [same] at found
    obtain ⟨schedule, index, holds⟩ := sound.schedules name content found kind
    refine ⟨schedule, index, holds.mono fun file present => ?_⟩
    rw [StringMap.contains_iff, marks]
    split
    · exact ⟨_, rfl⟩
    · exact StringMap.contains_iff.mp present
  unbacked := same ▸ sound.unbacked
  executions name content found kind := by
    rw [marks, if_neg fun isMarker => extension_markerFile (isMarker ▸ kind)] at found
    exact sound.executions name content found kind
  markers id both := by
    have origin : ∀ state, (next .executions).contains (markerFile id state) →
        (state = succeeded ∧ id = executionId) ∨ (disk .executions).contains (markerFile id state) := by
      intro state present
      rw [StringMap.contains_iff, marks] at present
      split at present
      · next isMarked =>
        cases state with
        | true =>
          cases succeeded with
          | true => exact .inl ⟨rfl, markerFile_inj isMarked⟩
          | false => exact absurd isMarked markerFile_ne
        | false =>
          cases succeeded with
          | true => exact absurd isMarked.symm markerFile_ne
          | false => exact .inl ⟨rfl, markerFile_inj isMarked⟩
      · exact .inr (StringMap.contains_iff.mpr present)
    -- Of two opposite markers at most one is new, and an opposite one was not there before.
    rcases origin true both.1 with ⟨rfl, rfl⟩ | success
    · exact unopposed ((origin false both.2).resolve_left fun new => nomatch new.1)
    · rcases origin false both.2 with ⟨rfl, rfl⟩ | failure
      · exact unopposed success
      · exact sound.markers id ⟨success, failure⟩

omit [SchedulerSerde] in
theorem selfNamed_eventExecution {firing : Firing} {now : Int64} {schedule : DependencySchedule}
    (fires : request.firing = some firing) (source : validateId firing.sourceId = .ok ())
    (valid : validateDependencySchedule schedule = .ok ()) :
    (eventExecution firing.sourceId now firing.observation schedule).SelfNamed ∧
      (eventExecution firing.sourceId now firing.observation schedule).source = firing.sourceId := by
  have same : (eventExecution firing.sourceId now firing.observation schedule).source =
      firing.sourceId := by
    cases request with
    | fireRuntimeEvent _ _ _ _ | fireProcessOutput _ _ _ _ _ =>
      cases fires
      rfl
    | upsert _ _ | remove _ | list _ | claimDue _ _ _ | listPendingExecutions _ | completeExecution _ _ =>
      cases fires
  refine ⟨⟨?_, validateId_of_schedule valid, same ▸ source⟩, same⟩
  rw [DependencyExecution.occurrence, same]
  rfl

theorem MatchesClaimed.named {firing : Firing} {now : Int64} {names : List String}
    {schedules : List DependencySchedule} (fires : request.firing = some firing)
    (source : validateId firing.sourceId = .ok ())
    (stored : List.Forall₂ (StoredIn disk) names schedules)
    (claimed : MatchesClaimed firing.sourceId firing.sessionId now firing.observation firing.predicate
      schedules disk news next) {new : DependencyExecution} (member : new ∈ news) :
    ∃ schedule ∈ schedules, Matches firing.sessionId firing.predicate schedule ∧
      new = eventExecution firing.sourceId now firing.observation schedule ∧ new.SelfNamed := by
  obtain ⟨schedule, listed, rfl⟩ := List.mem_map.mp (claimed.handed.subset member)
  obtain ⟨isListed, isMatch⟩ := List.mem_filter.mp listed
  obtain ⟨name, -, content, index, -, stores⟩ := exists_of_forall₂_right stored isListed
  exact ⟨schedule, isListed, isMatch, rfl, (selfNamed_eventExecution fires source stores.valid).1⟩

theorem Effect.sound (effect : Effect disk request answer news next) (sound : Sound disk) :
    Sound next := by
  cases effect with
  | quiet _ => exact sound
  | stored valid encodes wrote =>
    exact sound.written wrote ⟨⟨encodes, valid, rfl⟩, fun _ below => absurd below (Nat.not_lt_zero _)⟩
  | removed _ isRemoved =>
    subst isRemoved
    exact sound.removed
  | claimed _ claimed => exact claimed.sound
  | fired fires valid _ all claimed =>
    refine sound.recorded claimed.records claimed.unchanged fun new member => ?_
    obtain ⟨_, -, -, -, named⟩ := claimed.named fires valid all member
    exact named
  | marked same unopposed marks => exact sound.marked same unopposed marks

theorem Effect.grows (effect : Effect disk request answer news next) :
    Grows (disk .executions) news (next .executions) := by
  cases effect with
  | quiet _ => exact .refl fun _ _ => rfl
  | stored _ _ wrote => exact .refl fun _ _ => by rw [wrote.executions]
  | removed _ isRemoved =>
    subst isRemoved
    exact .refl fun _ _ => by rw [FileStep.apply_other (by simp [FileStep.directory])]
  | claimed _ claimed =>
    refine claimed.records.grows fun new member => ?_
    obtain ⟨_, _, -, named, -⟩ := claimed.named new member
    exact named
  | fired fires valid _ all claimed =>
    refine claimed.records.grows fun new member => ?_
    obtain ⟨_, -, -, -, named⟩ := claimed.named fires valid all member
    exact named
  | marked _ _ marks =>
    refine .refl fun name kind => ?_
    rw [marks, if_neg fun isMarker => extension_markerFile (isMarker ▸ kind)]

theorem Effect.handed (effect : Effect disk request answer news next) : answer.claims = news ∨
    answer.claims = [] ∧ answer = .rejected (.error .invalid) ∧
      ∀ new ∈ news, new.observation = none := by
  cases effect with
  | quiet silent =>
    exact .inl (claims_of_quiet silent)
  | stored _ _ _ => exact .inl rfl
  | removed _ _ => exact .inl rfl
  | claimed _ claimed =>
    rcases claimed.returns with ⟨rfl, -⟩ | ⟨rfl, -⟩
    · exact .inl (List.nil_append _)
    · refine .inr ⟨rfl, rfl, fun new member => ?_⟩
      obtain ⟨_, _, rfl, -⟩ := claimed.named new member
      rfl
  | fired _ _ _ _ _ => exact .inl rfl
  | marked _ _ _ => exact .inl rfl

end Consequences

end AgentMod
