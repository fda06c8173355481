import AgentMod.Verified.Scheduler.Once

/-! What interrupted claims and their recovery leave. -/

namespace AgentMod

section Recovery

variable [SchedulerSerde] [Hashing] {disk middle next left : SchedulerDisk} {name nonce : String}
  {bytes : List UInt8} {schedule : DependencySchedule} {index : Nat} {news : List DependencyExecution}

/-- The same schedules are stored in the same files. -/
def SameSchedules (disk next : SchedulerDisk) : Prop :=
  ∀ name schedule, StoredIn disk name schedule ↔ StoredIn next name schedule

theorem sameSchedules_of_eq (same : ∀ other, extension other = some "json" →
    (next .schedules)[other]? = (disk .schedules)[other]?) : SameSchedules disk next := by
  intro name schedule
  have kind : ∀ content index, StoresSchedule name content schedule index →
      extension name = some "json" := by
    intro content index stores
    rw [stores.name]
    exact extension_scheduleFile (validateId_of_schedule stores.valid)
  constructor
  · rintro ⟨content, index, found, stores⟩
    exact ⟨content, index, (same name (kind content index stores)).trans found, stores⟩
  · rintro ⟨content, index, found, stores⟩
    exact ⟨content, index, (same name (kind content index stores)).symm.trans found, stores⟩

theorem sameSchedules_of_moved (lawful : LawfulScheduler) (kind : extension name = some "json")
    (stored : StoredIn disk name schedule) (moved : StoredIn next name schedule)
    (same : ∀ other, extension other = some "json" → other ≠ name →
      (next .schedules)[other]? = (disk .schedules)[other]?) : SameSchedules disk next := by
  intro other held
  by_cases own : other = name
  · subst own
    constructor
    · intro here
      exact here.unique lawful stored ▸ moved
    · intro here
      exact here.unique lawful moved ▸ stored
  · have agree : ∀ content index, StoresSchedule other content held index →
        (next .schedules)[other]? = (disk .schedules)[other]? := by
      intro content index stores
      refine same other ?_ own
      rw [stores.name]
      exact extension_scheduleFile (validateId_of_schedule stores.valid)
    constructor
    · rintro ⟨content, index, found, stores⟩
      exact ⟨content, index, (agree content index stores).trans found, stores⟩
    · rintro ⟨content, index, found, stores⟩
      exact ⟨content, index, (agree content index stores).symm.trans found, stores⟩

theorem Sound.recovered (sound : Sound disk) (recovers : RecoversFiles disk next) :
    Sound next ∧ next .executions = disk .executions ∧ SameSchedules disk next := by
  have intact := intact_of_no_backup sound.unbacked
  obtain ⟨recovering, gone⟩ := recovers.recovering intact.named
  have same := fun other (kind : extension other = some "json") => recovers.of_intact intact kind
  have executions := recovering.executions
  refine ⟨⟨?_, gone, executions ▸ sound.executions, executions ▸ sound.markers⟩, executions,
    sameSchedules_of_eq same⟩
  intro name content found kind
  rw [executions]
  rw [same name kind] at found
  exact sound.schedules name content found kind

/-- A schedule that moves on behind claimed occurrences is old or new after an interruption. -/
theorem Sound.rewritten (lawful : LawfulScheduler) (sound : Sound disk)
    (writable : Writable disk name nonce) (stored : StoredIn disk name schedule)
    (holds : HoldsSchedule (disk .executions) name bytes schedule index)
    (crashes : (writeJsonAtomic none name nonce bytes).Crashes disk left)
    (recovers : RecoversFiles left next) :
    Sound next ∧ next .executions = disk .executions ∧ SameSchedules disk next := by
  have intact := intact_of_no_backup sound.unbacked
  obtain ⟨progress, unchanged⟩ := writeJsonAtomic_crashes writable crashes
  have named := progress.named writable.schedule writable.undotted intact.named
  obtain ⟨recovering, gone⟩ := recovers.recovering named
  have executions : next .executions = disk .executions := recovering.executions.trans unchanged
  have replaces : Replaces disk (.interrupted name nonce bytes left) next :=
    ⟨writable, crashes, recovers⟩
  -- There are no older backups, so that the first one is that of the interrupted write.
  have first : ∀ held backup kept, (left .schedules)[backupFile name nonce]? = some held →
      Backs (left .schedules) name backup kept → kept = held := by
    intro held backup kept own backs
    rcases progress.backups writable.schedule backs.found backs.kind with older | rfl
    · exact absurd backs.kind (sound.unbacked backup kept older)
    · exact Option.some_inj.mp (backs.found.symm.trans own)
  have others : ∀ other, extension other = some "json" → other ≠ name →
      (next .schedules)[other]? = (disk .schedules)[other]? := by
    intro other kind differs
    exact Replaces.interrupted (· = (disk .schedules)[other]?) replaces intact kind rfl
      (fun same => absurd same differs) fun same => absurd same differs
  obtain ⟨old, position, found, stores⟩ := stored
  have here : ∃ content index, (next .schedules)[name]? = some content ∧
      HoldsSchedule (disk .executions) name content schedule index := by
    obtain ⟨held, count, holdsOld⟩ := sound.schedules name old found writable.schedule
    have same := congrArg ScheduleState.schedule
      (encodeState_inj lawful holdsOld.encodes stores.encodes)
    have same : held = schedule := same
    subst same
    refine Replaces.interrupted (fun content => ∃ held' index, content = some held' ∧
      HoldsSchedule (disk .executions) name held' held index) replaces intact writable.schedule
      ⟨old, count, found, holdsOld⟩ (fun _ => ⟨bytes, index, rfl, holds⟩) ?_
    intro _ held' backup kept present _ own backs _
    rw [first held' backup kept own backs]
    exact ⟨held', count, rfl, by
      rw [found] at present
      cases present
      exact holdsOld⟩
  obtain ⟨content, count, isHere, holdsNext⟩ := here
  refine ⟨⟨?_, gone, executions ▸ sound.executions, executions ▸ sound.markers⟩, executions, ?_⟩
  · intro other content' found' kind
    rw [executions]
    by_cases own : other = name
    · subst own
      cases isHere.symm.trans found'
      exact ⟨schedule, count, holdsNext⟩
    · rw [others other kind own] at found'
      exact sound.schedules other content' found' kind
  · exact sameSchedules_of_moved lawful writable.schedule ⟨old, position, found, stores⟩
      ⟨content, count, isHere, holdsNext.toStoresSchedule⟩ others

/-- A sound store with the same schedules, in which further executions are recorded. -/
structure Survives (disk next : SchedulerDisk) : Prop where
  sound : Sound next
  schedules : SameSchedules disk next
  records : ∃ news, RecordsNew (disk .executions) news (next .executions)

theorem SameSchedules.trans (first : SameSchedules disk middle)
    (second : SameSchedules middle next) : SameSchedules disk next :=
  fun name schedule => (first name schedule).trans (second name schedule)

theorem Survives.after (records : RecordsNew (disk .executions) news (middle .executions))
    (same : SameSchedules disk middle) (survives : Survives middle next) : Survives disk next where
  sound := survives.sound
  schedules := same.trans survives.schedules
  records := by
    obtain ⟨others, further⟩ := survives.records
    exact ⟨news ++ others, records.append further⟩

theorem Survives.recovered (sound : Sound left)
    (records : RecordsNew (disk .executions) news (left .executions)) (same : SameSchedules disk left)
    (recovers : RecoversFiles left next) : Survives disk next := by
  obtain ⟨soundNext, executions, schedules⟩ := sound.recovered recovers
  exact ⟨soundNext, same.trans schedules, news, executions ▸ records⟩

theorem Survives.unchanged (sound : Sound disk) (same : left = disk)
    (recovers : RecoversFiles left next) : Survives disk next := by
  subst same
  exact .recovered sound .nil (fun _ _ => Iff.rfl) recovers

/-- Claims that are interrupted have torn a claim file, or the store survives. -/
theorem claimFiles_crashes (lawful : LawfulScheduler) {limit : Nat} {now : Int64}
    {nonces : String → String} {names : List String} {result : List DependencyExecution}
    (sound : Sound disk) (fresh : ∀ path, FreshNonce disk (nonces path))
    (listed : ∀ name ∈ names, extension name = some "json" ∧
      ∃ content, (disk .schedules)[name]? = some content) (distinct : names.Nodup)
    (crashes : (claimFiles limit now nonces names result).Crashes disk left)
    (recovers : RecoversFiles left next) : TornClaim (left .executions) ∨ Survives disk next := by
  induction names generalizing disk result with
  | nil => exact .inr (.unchanged sound (Filing.crashes_pure.mp crashes) recovers)
  | cons name rest ih =>
    obtain ⟨kind, content, found⟩ := listed name List.mem_cons_self
    obtain ⟨absent, distinct⟩ := List.nodup_cons.mp distinct
    obtain ⟨schedule, index, holds⟩ := sound.schedules name content found kind
    have loads := loadState_apply lawful found holds.encodes
    have listedRest := fun other member => listed other (List.mem_cons_of_mem name member)
    rw [claimFiles] at crashes
    split at crashes
    · exact .inr (.unchanged sound (Filing.crashes_pure.mp crashes) recovers)
    rw [Filing.crashes_bind] at crashes
    rcases crashes with loading | ⟨state, reached, loaded, crashes⟩
    · exact .inr (.unchanged sound (Filing.crashes_of_quiet loads loading) recovers)
    rw [Filing.run, loads, applySteps_nil] at loaded
    cases loaded
    split at crashes
    · exact ih sound fresh listedRest distinct crashes
    rw [Filing.crashes_bind] at crashes
    rcases crashes with claiming | ⟨⟨state, claims⟩, middle, claimed, crashes⟩
    · -- The crash comes while the occurrences of the schedule are claimed.
      rcases claimOccurrences_crashes lawful claiming with torn | ⟨same, news, records, made⟩
      · exact .inl torn
      · have named : ∀ new ∈ news, new.SelfNamed := by
          intro new member
          obtain ⟨instant, rfl⟩ := made new member
          exact selfNamed_timeExecution holds.valid
        exact .inr (.recovered (sound.recorded records same named) records
          (sameSchedules_of_eq fun _ _ => by rw [same]) recovers)
    obtain ⟨outcome, count, head, middle', runs, dues, ends, soundMiddle, movesOn⟩ :
        ∃ outcome count head middle,
          (claimOccurrences limit now ((ScheduleState.behind schedule index).backlog now)
            (.behind schedule index) result).run disk = (outcome, middle) ∧
          ClaimsDue schedule now index count disk head middle ∧ _ ∧ Sound middle ∧ _ :=
      claimBacklog_run lawful sound holds
    cases claimed.symm.trans runs
    rcases ends with ⟨returns, -⟩ | ⟨fails, -⟩
    · cases returns
      have same : SameSchedules disk middle := sameSchedules_of_eq fun _ _ => by rw [dues.schedules]
      have stored : StoredIn middle name schedule :=
        (same name schedule).mp ⟨content, index, found, holds.toStoresSchedule⟩
      have freshMiddle := fun path => (fresh path).of_schedules dues.schedules
      have writable := (freshMiddle name).writable kind
      obtain ⟨bytes, encodes⟩ := encodeState_isOk lawful (.behind schedule (index + count))
      have moved := movesOn bytes encodes
      have writing : writeState name (nonces name) (.behind schedule (index + count)) middle =
          writeJsonAtomic none name (nonces name) bytes middle := by
        rw [writeState, encodes, Filing.ofExcept_bind_apply, Filing.onOk_ok]
      rw [Filing.crashes_bind] at crashes
      rcases crashes with early | ⟨_, written, writes, crashes⟩
      · -- The crash comes while the schedule moves on.
        have early : (writeJsonAtomic none name (nonces name) bytes).Crashes middle left := by
          rwa [Filing.Crashes, writing] at early
        obtain ⟨soundNext, executions, schedules⟩ :=
          soundMiddle.rewritten lawful writable stored moved early recovers
        exact .inr (.after dues.records same ⟨soundNext, schedules, [], executions ▸ .nil⟩)
      · -- The crash comes behind that, with the schedules of other files.
        obtain ⟨written', writes', wrote⟩ := writeState_run encodes writable
        cases writes.symm.trans writes'
        have sameWritten : SameSchedules middle written := by
          refine sameSchedules_of_moved lawful kind stored
            ⟨bytes, _, ?_, moved.toStoresSchedule⟩ fun other otherKind differs => ?_
          · rw [wrote.other (by rw [kind]; decide), if_pos rfl]
          · rw [wrote.other (by rw [otherKind]; decide), if_neg differs]
        have stillListed : ∀ other ∈ rest, extension other = some "json" ∧
            ∃ content, (written .schedules)[other]? = some content := by
          intro other member
          obtain ⟨otherKind, held, here⟩ := listedRest other member
          have differs : other ≠ name := fun same => absent (same ▸ member)
          rw [wrote.other (by rw [otherKind]; decide), if_neg differs, dues.schedules]
          exact ⟨otherKind, held, here⟩
        refine (ih (soundMiddle.written wrote moved)
          (fun path => (freshMiddle path).written wrote kind) stillListed distinct crashes).imp_right
            fun survives => .after dues.records same ?_
        have quiet : RecordsNew (middle .executions) [] (written .executions) := by
          rw [wrote.executions]
          exact .nil
        exact .after quiet sameWritten survives
    · cases fails

/-- Claims of an observation that are interrupted have torn a claim file, or recorded some of its
occurrences. -/
theorem claimMatches_crashes (lawful : LawfulScheduler) {sourceId session : String} {now : Int64}
    {observation : DependencyObservation} {predicate : DependencyTrigger → Bool}
    {schedules : List DependencySchedule}
    (crashes : (claimMatches sourceId session now observation predicate schedules).Crashes disk left) :
    TornClaim (left .executions) ∨ left .schedules = disk .schedules ∧
      ∃ news, RecordsNew (disk .executions) news (left .executions) ∧
        ∀ new ∈ news, ∃ schedule ∈ schedules, new = eventExecution sourceId now observation schedule := by
  induction schedules generalizing disk with
  | nil =>
    rw [claimMatches, Filing.crashes_pure] at crashes
    exact .inr ⟨by rw [crashes], [], crashes ▸ .nil, fun _ member => absurd member List.not_mem_nil⟩
  | cons schedule rest ih =>
    have weaken : ∀ {disk : SchedulerDisk}, (TornClaim (left .executions) ∨ left .schedules = disk .schedules ∧
        ∃ news, RecordsNew (disk .executions) news (left .executions) ∧
          ∀ new ∈ news, ∃ schedule ∈ rest, new = eventExecution sourceId now observation schedule) →
        TornClaim (left .executions) ∨ left .schedules = disk .schedules ∧
        ∃ news, RecordsNew (disk .executions) news (left .executions) ∧
          ∀ new ∈ news, ∃ other ∈ schedule :: rest,
            new = eventExecution sourceId now observation other := by
      rintro disk (torn | ⟨same, news, records, made⟩)
      · exact .inl torn
      · refine .inr ⟨same, news, records, fun new member => ?_⟩
        obtain ⟨other, listed, isOther⟩ := made new member
        exact ⟨other, List.mem_cons_of_mem schedule listed, isOther⟩
    rw [claimMatches] at crashes
    split at crashes
    · rw [Filing.crashes_bind] at crashes
      rcases crashes with early | ⟨claimed, middle, claims, crashes⟩
      · rcases claim_crashes lawful rfl early with torn | ⟨same, news, records, made⟩
        · exact .inl torn
        · exact .inr ⟨same, news, records, fun new member => ⟨schedule, List.mem_cons_self, made new member⟩⟩
      · -- The first occurrence is claimed, and the crash comes behind that.
        obtain ⟨claimed', middle', claims', first⟩ : ∃ claimed middle,
            (claim schedule sourceId now now (some observation)).run disk = (.ok claimed, middle) ∧
              ClaimRun disk (eventExecution sourceId now observation schedule) claimed middle :=
          claim_run lawful rfl
        cases claims.symm.trans claims'
        rw [Filing.crashes_bind_pure] at crashes
        rcases weaken (ih crashes) with torn | ⟨same, news, records, made⟩
        · exact .inl torn
        · refine .inr ⟨same.trans first.schedules, _, first.records.append records, ?_⟩
          intro new member
          rcases List.mem_append.mp member with own | others
          · rcases first.handed with rfl | rfl
            · cases own
            · exact ⟨schedule, List.mem_cons_self, List.mem_singleton.mp own⟩
          · exact made new others
    · exact weaken (ih crashes)

theorem offer_crashes (lawful : LawfulScheduler) {request : SchedulerRequest} {firing : Firing}
    (sound : Sound disk) (fires : request.firing = some firing)
    (crashes : firing.offer.Crashes disk left) (recovers : RecoversFiles left next) :
    TornClaim (left .executions) ∨ Survives disk next := by
  rw [Firing.offer] at crashes
  rcases Filing.crashes_ofExcept_bind crashes with same | ⟨_, source, crashes⟩
  · exact .inr (.unchanged sound same recovers)
  rcases Filing.crashes_ofExcept_bind crashes with same | ⟨_, -, crashes⟩
  · exact .inr (.unchanged sound same recovers)
  rcases Filing.crashes_ofExcept_bind crashes with same | ⟨now, -, crashes⟩
  · exact .inr (.unchanged sound same recovers)
  obtain ⟨schedules, lists, all⟩ := listUnlocked_apply lawful sound 10000
  rw [eventMatches, Filing.crashes_bind] at crashes
  rcases crashes with listing | ⟨listed, reached, runs, crashes⟩
  · exact .inr (.unchanged sound (Filing.crashes_of_quiet lists listing) recovers)
  rw [Filing.run, lists, applySteps_nil] at runs
  cases runs
  refine (claimMatches_crashes lawful crashes).imp_right ?_
  rintro ⟨same, news, records, made⟩
  have named : ∀ new ∈ news, new.SelfNamed := by
    intro new member
    obtain ⟨schedule, isListed, rfl⟩ := made new member
    obtain ⟨name, -, content, index, -, stores⟩ := exists_of_forall₂_right all isListed
    exact (selfNamed_eventExecution fires source stores.valid).1
  exact .recovered (sound.recorded records same named) records
    (sameSchedules_of_eq fun _ _ => by rw [same]) recovers

theorem Interrupts.survives (lawful : LawfulScheduler) {request : SchedulerRequest}
    (interrupts : Interrupts disk request left) (sound : Sound disk) (fresh : request.Fresh disk)
    (recovers : RecoversFiles left next) : TornClaim (left .executions) ∨ Survives disk next := by
  cases request with
  | claimDue limit reading nonces =>
    have crashes : (claimDue limit reading nonces).Crashes disk left := interrupts
    rw [claimDue] at crashes
    rcases Filing.crashes_ofExcept_bind crashes with same | ⟨now, -, crashes⟩
    · exact .inr (.unchanged sound same recovers)
    rw [Filing.crashes_bind] at crashes
    rcases crashes with reading | ⟨_, reached, runs, crashes⟩
    · exact .inr (.unchanged sound (Filing.crashes_read.mp reading) recovers)
    cases runs
    exact claimFiles_crashes lawful sound fresh
      (fun name member => ⟨(Directory.mem_listing.mp member).2, (Directory.mem_listing.mp member).1⟩)
      Directory.nodup_listing crashes recovers
  | fireRuntimeEvent session event kind reading =>
    have fires : (SchedulerRequest.fireRuntimeEvent session event kind reading).firing = some _ := rfl
    exact offer_crashes lawful sound fires interrupts recovers
  | fireProcessOutput session output process text reading =>
    have fires : (SchedulerRequest.fireProcessOutput session output process text reading).firing =
      some _ := rfl
    exact offer_crashes lawful sound fires interrupts recovers
  | upsert _ _ | remove _ | list _ | listPendingExecutions _ | completeExecution _ _ =>
    exact absurd interrupts id

end Recovery

end AgentMod
