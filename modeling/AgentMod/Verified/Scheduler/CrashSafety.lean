import AgentMod.Verified.Scheduler.Crashes
import AgentMod.Verified.Scheduler.Instants

/-! While no claim file is torn, a crash loses no occurrence, and nothing blocks the store. -/

namespace AgentMod

section Listing

variable [SchedulerSerde] [Hashing] {disk next left : SchedulerDisk} {directory : Directory}
  {names : List String} {limit : Nat} {pending : List DependencyExecution}
  {execution : DependencyExecution}

omit [SchedulerSerde] [Hashing] in
theorem fileStem_executionFile {executionId : String} (named : executionId ≠ "") :
    fileStem (executionFile executionId) = executionId := by
  have split : executionFile executionId = executionId ++ "." ++ "json" := by
    rw [executionFile, String.append_assoc]
    rfl
  rw [split, fileStem, rsplitOnce_append executionId (by decide)]
  exact if_neg named

theorem RecordedIn.unique (lawful : LawfulScheduler) {other : DependencyExecution}
    (recorded : RecordedIn directory execution) (again : RecordedIn directory other)
    (same : execution.executionId = other.executionId) : execution = other := by
  obtain ⟨-, content, found, encodes⟩ := recorded
  obtain ⟨-, content', found', encodes'⟩ := again
  rw [same] at found
  cases found.symm.trans found'
  exact encodeExecution_inj lawful encodes encodes'

theorem listPendingFiles_ended {name : String} {succeeded : Bool}
    (marked : directory.contains (markerFile (fileStem name) succeeded))
    (single : ¬ (directory.contains (markerFile (fileStem name) true) ∧
      directory.contains (markerFile (fileStem name) false))) :
    listPendingFiles limit directory (name :: names) pending =
      listPendingFiles limit directory names pending := by
  have either : directory.contains (markerFile (fileStem name) true) ∨
      directory.contains (markerFile (fileStem name) false) := by
    cases succeeded with
    | true => exact .inl marked
    | false => exact .inr marked
  rw [listPendingFiles]
  simp only [refuseIf, if_neg single, if_pos either]
  rfl

theorem listPendingFiles_unmarked {name : String} {content : List UInt8}
    (unmarked : ∀ succeeded, ¬ directory.contains (markerFile (fileStem name) succeeded))
    (found : directory[name]? = some content) :
    listPendingFiles limit directory (name :: names) pending =
      (decodeExecution (fileStem name) content).bind fun execution =>
        if (pending ++ [execution]).length = limit then .ok (pending ++ [execution])
        else listPendingFiles limit directory names (pending ++ [execution]) := by
  have single : ¬ (directory.contains (markerFile (fileStem name) true) ∧
      directory.contains (markerFile (fileStem name) false)) := fun both => unmarked true both.1
  have neither : ¬ (directory.contains (markerFile (fileStem name) true) ∨
      directory.contains (markerFile (fileStem name) false)) :=
    fun either => either.elim (unmarked true) (unmarked false)
  rw [listPendingFiles]
  simp only [refuseIf, if_neg single, if_neg neither, found]
  rfl

/-- The pending executions of whole claim files are listed, until the limit is reached. -/
theorem listPendingFiles_eq (lawful : LawfulScheduler)
    (whole : ∀ name ∈ names, ∃ execution, RecordedIn directory execution ∧
      name = executionFile execution.executionId)
    (markers : ∀ executionId, ¬ (directory.contains (markerFile executionId true) ∧
      directory.contains (markerFile executionId false)))
    (below : pending.length < limit) : ∃ more,
      listPendingFiles limit directory names pending = .ok (pending ++ more) ∧
      (∀ execution ∈ more, Pending directory execution) ∧
      ((pending ++ more).length < limit → ∀ execution, Pending directory execution →
        executionFile execution.executionId ∈ names → execution ∈ more) := by
  induction names generalizing pending with
  | nil => exact ⟨[], by rw [listPendingFiles, List.append_nil]; rfl, nofun, fun _ _ _ => nofun⟩
  | cons name rest ih =>
    obtain ⟨⟨execution, recorded, isFile⟩, others⟩ := List.forall_mem_cons.mp whole
    have ⟨kind, content, found, encodes⟩ := recorded
    have stem : fileStem name = execution.executionId := by
      rw [isFile]
      refine fileStem_executionFile ?_
      intro empty
      rw [empty] at kind
      exact absurd kind (by decide)
    -- A pending execution in this file is the one that the file records.
    have own : ∀ other, Pending directory other → executionFile other.executionId = name →
        other = execution := fun other isPending same =>
      isPending.recorded.unique lawful recorded (executionFile_inj (same.trans isFile))
    by_cases ended : ∃ succeeded, directory.contains (markerFile execution.executionId succeeded)
    · obtain ⟨succeeded, marked⟩ := ended
      obtain ⟨more, lists, pendings, complete⟩ := ih others below
      refine ⟨more, ?_, pendings, fun short other isPending listed => ?_⟩
      · rw [listPendingFiles_ended (stem ▸ marked) (markers _), lists]
      · rcases List.mem_cons.mp listed with here | later
        · obtain rfl := own other isPending here
          exact absurd marked (isPending.unmarked succeeded)
        · exact complete short other isPending later
    · have unmarked : ∀ succeeded, ¬ directory.contains (markerFile execution.executionId succeeded) :=
        fun succeeded marked => ended ⟨succeeded, marked⟩
      have isPending : Pending directory execution := ⟨recorded, unmarked⟩
      have decodes := decodeExecution_encodeExecution lawful encodes
      rw [← isFile] at found
      rw [listPendingFiles_unmarked (stem ▸ unmarked) found, stem, decodes, Except.bind]
      split
      · next full =>
        refine ⟨[execution], rfl, fun other member => List.mem_singleton.mp member ▸ isPending, ?_⟩
        exact fun short => absurd full (Nat.ne_of_lt short)
      · next further =>
        have below : (pending ++ [execution]).length < limit := by
          rw [List.length_append] at further ⊢
          simp only [List.length_singleton] at further ⊢
          omega
        obtain ⟨more, lists, pendings, complete⟩ := ih others below
        rw [List.append_assoc] at lists complete
        refine ⟨execution :: more, lists, List.forall_mem_cons.mpr ⟨isPending, pendings⟩, ?_⟩
        intro short other otherPending listed
        rcases List.mem_cons.mp listed with here | later
        · exact own other otherPending here ▸ List.mem_cons_self
        · exact List.mem_cons_of_mem execution (complete short other otherPending later)

end Listing

section CrashSafety

variable [SchedulerSerde] [Hashing] {disk next left : SchedulerDisk} {events : List SchedulerEvent}
  {limit : Nat} {execution : DependencyExecution} {request : SchedulerRequest}

theorem listPendingExecutions_run (lawful : LawfulScheduler) (sound : Sound disk) (some_ : 0 < limit)
    (small : limit ≤ 1000) : ∃ pending,
      serveScheduler (.listPendingExecutions limit) disk = (.pending pending, disk) ∧
      (∀ execution ∈ pending, Pending (disk .executions) execution) ∧
      (pending.length < limit → ∀ execution, Pending (disk .executions) execution →
        execution ∈ pending) := by
  have whole : ∀ name ∈ (disk .executions).listing "json", ∃ execution,
      RecordedIn (disk .executions) execution ∧ name = executionFile execution.executionId := by
    intro name member
    obtain ⟨⟨content, found⟩, kind⟩ := Directory.mem_listing.mp member
    obtain ⟨execution, encodes, isFile, -⟩ := sound.executions name content found kind
    exact ⟨execution, ⟨isFile ▸ kind, content, isFile ▸ found, encodes⟩, isFile⟩
  obtain ⟨pending, lists, pendings, complete⟩ :=
    listPendingFiles_eq lawful whole sound.markers (show ([] : List DependencyExecution).length < limit from some_)
  rw [List.nil_append] at lists complete
  refine ⟨pending, ?_, pendings, fun short execution isPending => ?_⟩
  · have allowed : ¬ (limit = 0 ∨ 1000 < limit) := by omega
    rw [serveScheduler, listPendingExecutions, Filing.run_bind, Filing.run_ofExcept, refuseIf,
      if_neg allowed]
    dsimp only
    rw [Filing.run_read_bind, Filing.run_ofExcept, lists]
    rfl
  · obtain ⟨kind, content, found, -⟩ := isPending.recorded
    exact complete short execution isPending (Directory.mem_listing.mpr ⟨⟨content, found⟩, kind⟩)

theorem Survives.pending (survives : Survives disk next)
    (isPending : Pending (disk .executions) execution) : Pending (next .executions) execution := by
  obtain ⟨news, records⟩ := survives.records
  obtain ⟨kind, content, found, encodes⟩ := isPending.recorded
  refine ⟨⟨kind, content, records.keeps found, encodes⟩, fun succeeded marked => ?_⟩
  obtain ⟨bytes, here⟩ := StringMap.contains_iff.mp marked
  rcases records.origin here with old | ⟨new, -, isFile, -⟩
  · exact isPending.unmarked succeeded (StringMap.contains_iff.mpr ⟨bytes, old⟩)
  · exact executionFile_ne_markerFile isFile.symm

theorem Happens.sound (lawful : LawfulScheduler) {event : SchedulerEvent}
    (happens : Happens disk event next) (harmless : event.Harmless)
    (holds : Sound disk ∧ NarrowStore disk) : Sound next ∧ NarrowStore next := by
  cases event with
  | served scheduled =>
    obtain ⟨news, effect⟩ := serve_effect lawful holds.1 happens.1 happens.2
    exact ⟨effect.sound holds.1, effect.narrow lawful harmless holds.2⟩
  | crashed request left =>
    obtain ⟨fresh, interrupts, recovers⟩ := happens
    have survives := (interrupts.survives lawful holds.1 fresh recovers).resolve_left harmless
    refine ⟨survives.sound, fun name schedule stored active => ?_⟩
    exact holds.2 name schedule ((survives.schedules name schedule).mpr stored) active

/-- The occurrences that are due are recorded behind a call that returns less than its limit. -/
theorem FilesClaimed.contains_due (lawful : LawfulScheduler) {now : Int64} {nonces : String → String}
    {news : List DependencyExecution} {name : String} {schedule : DependencySchedule} {index : Nat}
    {instant : Int64} (sound : Sound disk)
    (claimed : FilesClaimed limit now nonces ((disk .schedules).listing "json") disk [] news (.ok news) next)
    (short : news.length < limit) (stored : StoredIn disk name schedule) (active : schedule.active)
    (due : schedule.trigger.occurrence index = some instant) (reached : instant ≤ now) :
    (next .executions).contains (timeFile schedule.scheduleId instant) := by
  rcases claimed.returns with ⟨-, all⟩ | ⟨fails, -⟩
  · obtain ⟨content, held, position, count, found, stores, fileClaimed⟩ := all name stored.listed
    have isHeld : StoredIn disk name held := ⟨content, position, found, stores⟩
    obtain rfl := isHeld.unique lawful stored
    have kind : extension name = some "json" := (Directory.mem_listing.mp stored.listed).2
    obtain ⟨holder, offset, holds⟩ := sound.schedules name content found kind
    have same := congrArg ScheduleState.schedule (encodeState_inj lawful holds.encodes stores.encodes)
    have same : holder = held := same
    subst same
    obtain ⟨more, fileClaimed⟩ := fileClaimed.reindex lawful stores holds.toStoresSchedule
    have complete := (fileClaimed.complete active).resolve_left (Nat.not_le.mpr short)
    rcases Nat.lt_or_ge index offset with early | late
    · exact claimed.records.contains (holds.claimed index early instant due)
    · obtain ⟨distance, rfl⟩ := Nat.exists_eq_add_of_le late
      rcases Nat.lt_or_ge distance more with within | beyond
      · obtain ⟨other, again, -, recorded⟩ := fileClaimed.due distance within
        cases due.symm.trans again
        exact recorded
      · -- The schedule has moved on behind all occurrences that are due.
        have behind : offset + more ≤ offset + distance := by omega
        obtain ⟨first, isFirst⟩ := occurrence_of_le due behind
        have order := occurrence_le holds.valid isFirst due behind
        have ahead := complete first isFirst
        rw [Int64.le_iff_toInt_le] at order reached
        rw [Int64.lt_iff_toInt_lt] at ahead
        omega
  · cases fails

theorem RecordsNew.contains_iff {before after : Directory} {news : List DependencyExecution}
    {name : String} (records : RecordsNew before news after) (present : after.contains name) :
    before.contains name ∨ ∃ execution ∈ news, executionFile execution.executionId = name := by
  obtain ⟨content, found⟩ := StringMap.contains_iff.mp present
  rcases records.origin found with old | ⟨execution, member, isFile, -⟩
  · exact .inl (StringMap.contains_iff.mpr ⟨content, old⟩)
  · exact .inr ⟨execution, member, isFile.symm⟩

/-- Over every run of requests and interrupted claims that stores no wide interval and tears no claim
file: the pending executions are listed; claiming the due occurrences succeeds, and where it returns
less than its limit, every due occurrence has been recorded before or is handed out; so is every
occurrence of an observation that is offered again; and an interruption loses no schedule and no
pending execution. -/
theorem claims_crash_safe (lawful : LawfulScheduler)
    (run : Run (fun disk event next => Happens disk event next ∧ event.Harmless)
      emptySchedulerDisk events disk) :
    (∀ limit, 0 < limit → limit ≤ 1000 → ∃ pending,
      serveScheduler (.listPendingExecutions limit) disk = (.pending pending, disk) ∧
      (∀ execution ∈ pending, Pending (disk .executions) execution) ∧
      (pending.length < limit → ∀ execution, Pending (disk .executions) execution →
        execution ∈ pending)) ∧
    (∀ limit millis nonces, millis < 2 ^ 63 → (∀ path, FreshNonce disk (nonces path)) →
      ∃ claims next, serveScheduler (.claimDue limit (some millis) nonces) disk = (.claimed claims, next) ∧
        (claims.length < limit → ∀ name schedule index instant, StoredIn disk name schedule →
          schedule.active → schedule.trigger.occurrence index = some instant →
          instant ≤ .ofNat millis →
          (disk .executions).contains (timeFile schedule.scheduleId instant) ∨
            ∃ execution ∈ claims,
              executionFile execution.executionId = timeFile schedule.scheduleId instant)) ∧
    (∀ request firing now schedules, request.firing = some firing →
      validateId firing.sourceId = .ok () → validateId firing.sessionId = .ok () →
      nowMillis firing.reading = .ok now → (listUnlocked 10000).run disk = (.ok schedules, disk) →
      ∃ claims next, serveScheduler request disk = (.claimed claims, next) ∧
        ∀ schedule ∈ schedules, Matches firing.sessionId firing.predicate schedule →
          (disk .executions).contains (executionFile
            (eventExecution firing.sourceId now firing.observation schedule).executionId) ∨
          ∃ execution ∈ claims, executionFile execution.executionId = executionFile
            (eventExecution firing.sourceId now firing.observation schedule).executionId) ∧
    ∀ request left next, Happens disk (.crashed request left) next → ¬ TornClaim (left .executions) →
      (∀ name schedule, StoredIn disk name schedule ↔ StoredIn next name schedule) ∧
      ∀ execution, Pending (disk .executions) execution → Pending (next .executions) execution := by
  have initially : NarrowStore emptySchedulerDisk := by
    rintro name schedule ⟨content, index, found, -⟩
    cases (emptySchedulerDisk_at _ _).symm.trans found
  obtain ⟨sound, narrow⟩ : Sound disk ∧ NarrowStore disk :=
    run.invariant ⟨sound_empty, initially⟩ fun _ _ _ taken holds => taken.1.sound lawful taken.2 holds
  refine ⟨fun limit some_ small => listPendingExecutions_run lawful sound some_ small, ?_, ?_, ?_⟩
  · intro limit millis nonces inRange fresh
    obtain ⟨outcome, claims, next, runs, claimed⟩ : ∃ outcome claims next,
        (claimDue limit (some millis) nonces).run disk = (outcome, next) ∧
        FilesClaimed limit (.ofNat millis) nonces ((disk .schedules).listing "json") disk [] claims
          outcome next :=
      claimDue_run lawful sound fresh (nowMillis_eq_ok.mpr ⟨millis, rfl, inRange, rfl⟩)
    have returns := claimed.ok_of_narrow narrow
    subst returns
    refine ⟨claims, next, ?_, fun short name schedule index instant stored active due reached => ?_⟩
    · rw [serveScheduler, runs]
      rfl
    · exact claimed.records.contains_iff
        (claimed.contains_due lawful sound short stored active due reached)
  · intro request firing now schedules fires source session clock lists
    obtain ⟨listed, claims, next, offers, lists', -, claimed⟩ :=
      offer_run lawful sound source session clock
    cases lists.symm.trans lists'
    refine ⟨claims, next, ?_, fun schedule member isMatch => ?_⟩
    · rw [serve_firing fires, offers]
      rfl
    · exact claimed.records.contains_iff (claimed.recorded schedule member isMatch)
  · rintro request left next ⟨fresh, interrupts, recovers⟩ whole
    have survives := (interrupts.survives lawful sound fresh recovers).resolve_left whole
    exact ⟨survives.schedules, fun _ => survives.pending⟩

end CrashSafety

section Sample

attribute [local instance] prefixHash segmentedScheduler

/-- The schedule of the sample that is due once. -/
def sampleOnce : DependencySchedule := sampleSchedule (.atMillis 5)

theorem store_sampleOnce : ∃ bytes stored,
    Schedules emptySchedulerDisk (.upsert sampleOnce "1", .stored ⟨"s", false⟩) stored ∧
    encodeState (.behind sampleOnce 0) = .ok bytes ∧
    Written emptySchedulerDisk (scheduleFile "s") "1" bytes stored ∧ FreshNonce stored "2" :=
  store_sampleSchedule (by decide)

/-- Behind an interruption of its claims, the sample's pending executions are listed. -/
theorem claims_crash_safe_sample : ∃ stored next pending,
    Schedules emptySchedulerDisk (.upsert sampleOnce "1", .stored ⟨"s", false⟩) stored ∧
    Happens stored (.crashed (.claimDue 10 (some 7) fun _ => "2") stored) next ∧
    serveScheduler (.listPendingExecutions 10) next = (.pending pending, next) := by
  obtain ⟨bytes, stored, stores, encodes, wrote, fresh⟩ := store_sampleOnce
  have sound := sound_of_run lawful_segmentedScheduler sound_empty (Run.nil.snoc stores)
  have interrupts : Interrupts stored (.claimDue 10 (some 7) fun _ => "2") stored :=
    Interrupted.stopped
  obtain ⟨next, recovers, -, -⟩ := recover_run (intact_of_no_backup sound.unbacked).named
  have happens : Happens stored (.crashed (.claimDue 10 (some 7) fun _ => "2") stored) next :=
    ⟨fun _ => fresh, interrupts, .finished recovers⟩
  have narrow : StoresNarrow (.upsert sampleOnce "1", .stored ⟨"s", false⟩) := fun _ => trivial
  have whole : ¬ TornClaim (stored .executions) := by
    rintro ⟨name, content, found, -⟩
    rw [wrote.executions, emptySchedulerDisk_at] at found
    cases found
  have served : Happens emptySchedulerDisk
      (.served (.upsert sampleOnce "1", .stored ⟨"s", false⟩)) stored := stores
  obtain ⟨lists, -⟩ := claims_crash_safe lawful_segmentedScheduler
    ((Run.nil.snoc ⟨served, narrow⟩).snoc ⟨happens, whole⟩)
  obtain ⟨pending, listed, -⟩ := lists 10 (by decide) (by decide)
  exact ⟨stored, next, pending, stores, happens, listed⟩

/-- The disk that an interruption of the sample's claim leaves, with nothing in the claim file. -/
def tornDisk (stored : SchedulerDisk) : SchedulerDisk :=
  (FileStep.save .executions (timeFile "s" 5) []).apply stored

/-- The sample's claim can be interrupted in front of its first byte. -/
theorem interrupts_sampleOnce {bytes : List UInt8} {stored : SchedulerDisk}
    (listing : (stored .schedules).listing "json" = [scheduleFile "s"])
    (found : (stored .schedules)[scheduleFile "s"]? = some bytes)
    (encodes : encodeState (.behind sampleOnce 0) = .ok bytes)
    (empty : stored .executions = emptySchedulerDisk .executions) :
    Interrupts stored (.claimDue 10 (some 7) fun _ => "2") (tornDisk stored) := by
  obtain ⟨content, prints⟩ :=
    encodeExecution_isOk lawful_segmentedScheduler (timeExecution sampleOnce (.ofNat 7) 5)
  have claiming : (claim sampleOnce "time" 5 (.ofNat 7) none).Crashes stored (tornDisk stored) := by
    rw [Filing.Crashes, claim_new claimedExecution_time prints (by rw [empty, emptySchedulerDisk_at])]
    exact .torn List.nil_prefix
  have due : (ScheduleState.behind sampleOnce 0).nextDueMs.filter (· ≤ Int64.ofNat 7) = some 5 := by
    decide
  have loads : (loadState (scheduleFile "s")).run stored = (.ok (.behind sampleOnce 0), stored) := by
    rw [Filing.run, loadState_apply lawful_segmentedScheduler found encodes, applySteps_nil]
  have occurrences : ∀ fuel, (claimOccurrences 10 (.ofNat 7) (fuel + 1) (.behind sampleOnce 0) []).Crashes
      stored (tornDisk stored) := by
    intro fuel
    rw [claimOccurrences, if_pos (by decide), due]
    exact Filing.crashes_bind.mpr (.inl claiming)
  have files : (claimFiles 10 (.ofNat 7) (fun _ => "2") [scheduleFile "s"] []).Crashes stored
      (tornDisk stored) := by
    rw [claimFiles, if_neg (by decide)]
    refine Filing.crashes_bind.mpr (.inr ⟨_, stored, loads, ?_⟩)
    rw [if_neg (by decide)]
    exact Filing.crashes_bind.mpr (.inl (occurrences _))
  have clock : nowMillis (some 7) = .ok (.ofNat 7) :=
    nowMillis_eq_ok.mpr ⟨7, rfl, by decide, rfl⟩
  show (claimDue 10 (some 7) fun _ => "2").Crashes stored (tornDisk stored)
  refine Filing.crashes_bind.mpr (.inr ⟨_, stored, by rw [Filing.run_ofExcept, clock], ?_⟩)
  refine Filing.crashes_bind.mpr (.inr ⟨stored, stored, Filing.run_read stored, ?_⟩)
  rw [listing]
  exact files

/-- A claim file that is torn is not claimed again, and blocks the list of the pending executions. -/
theorem not_claims_crash_safe : ∃ stored left next,
    Schedules emptySchedulerDisk (.upsert sampleOnce "1", .stored ⟨"s", false⟩) stored ∧
    Happens stored (.crashed (.claimDue 10 (some 7) fun _ => "2") left) next ∧
    serveScheduler (.listPendingExecutions 10) next = (.rejected (.error .corrupt), next) ∧
    claim sampleOnce "time" 5 (.ofNat 7) none next = (.ok none, []) := by
  obtain ⟨bytes, stored, stores, encodes, wrote, fresh⟩ := store_sampleOnce
  have kind : extension (scheduleFile "s") = some "json" := by decide
  have sound := sound_of_run lawful_segmentedScheduler sound_empty (Run.nil.snoc stores)
  have found : (stored .schedules)[scheduleFile "s"]? = some bytes := by
    rw [wrote.other (by rw [kind]; decide), if_pos rfl]
  have interrupts := interrupts_sampleOnce (listing_of_written wrote kind) found encodes
    wrote.executions
  have same : tornDisk stored .schedules = stored .schedules :=
    FileStep.apply_other (by simp [FileStep.directory])
  obtain ⟨next, recovers, recovering, -⟩ :=
    recover_run (same ▸ (intact_of_no_backup sound.unbacked).named)
  have holds : ∀ other, (next .executions)[other]? =
      if other = timeFile "s" 5 then some [] else none := by
    intro other
    rw [recovering.executions, tornDisk, save_at, wrote.executions, emptySchedulerDisk_at]
    simp only [true_and, eq_comm]
  have isClaim : extension (timeFile "s" 5) = some "json" :=
    extension_executionFile occurrenceId_ne_empty
  have listing : (next .executions).listing "json" = [timeFile "s" 5] :=
    listing_of_single (fun other _ => holds other) isClaim
  have present : (next .executions)[timeFile "s" 5]? = some [] := by rw [holds, if_pos rfl]
  have unmarked : ∀ succeeded,
      ¬ (next .executions).contains (markerFile (fileStem (timeFile "s" 5)) succeeded) := by
    intro succeeded
    have apart : markerFile (fileStem (timeFile "s" 5)) succeeded ≠ timeFile "s" 5 :=
      fun same => executionFile_ne_markerFile same.symm
    rw [StringMap.contains_iff, holds, if_neg apart]
    rintro ⟨content, written⟩
    cases written
  have torn : decodeExecution (fileStem (timeFile "s" 5)) [] = reject .corrupt := rfl
  refine ⟨stored, _, next, stores, ⟨fun _ => fresh, interrupts, .finished recovers⟩, ?_, ?_⟩
  · rw [serveScheduler, listPendingExecutions, Filing.run_bind, Filing.run_ofExcept, refuseIf,
      if_neg (by decide)]
    dsimp only
    rw [Filing.run_read_bind, Filing.run_ofExcept, listing, listPendingFiles_unmarked unmarked present,
      torn]
    rfl
  · obtain ⟨content, prints⟩ :=
      encodeExecution_isOk lawful_segmentedScheduler (timeExecution sampleOnce (.ofNat 7) 5)
    exact claim_again claimedExecution_time prints (StringMap.contains_iff.mpr ⟨[], present⟩)

end Sample

end AgentMod
