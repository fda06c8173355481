import AgentMod.Verified.Scheduler.Once
import Mathlib.Data.List.Perm.Subperm

/-! The instants of a schedule are claimed in order, and each of them once. -/

namespace AgentMod

section Instants

variable {schedule : DependencySchedule} {index count more : Nat} {instant : Int64}

theorem mem_instantsFrom : instant ∈ instantsFrom schedule index count ↔
    ∃ offset < count, schedule.trigger.occurrence (index + offset) = some instant := by
  rw [instantsFrom, List.mem_filterMap]
  constructor
  · rintro ⟨position, member, due⟩
    obtain ⟨low, high⟩ := List.mem_range'_1.mp member
    obtain ⟨offset, rfl⟩ := Nat.exists_eq_add_of_le low
    exact ⟨offset, by omega, due⟩
  · rintro ⟨offset, below, due⟩
    exact ⟨index + offset, List.mem_range'_1.mpr ⟨by omega, by omega⟩, due⟩

theorem instantsFrom_add : instantsFrom schedule index (count + more) =
    instantsFrom schedule index count ++ instantsFrom schedule (index + count) more := by
  rw [instantsFrom, instantsFrom, instantsFrom, ← List.filterMap_append, List.range'_append_1]

theorem pairwise_instantsFrom (valid : validateDependencySchedule schedule = .ok ()) :
    (instantsFrom schedule index count).Pairwise (· < ·) := by
  have increasing : (List.range' index count).Pairwise (· < ·) := List.pairwise_lt_range'
  rw [instantsFrom, List.pairwise_filterMap]
  refine increasing.imp fun {earlier later} before first isFirst second isSecond => ?_
  exact occurrence_lt valid isFirst isSecond before

theorem occurrence_le {other : Nat} {later : Int64}
    (valid : validateDependencySchedule schedule = .ok ())
    (first : schedule.trigger.occurrence index = some instant)
    (second : schedule.trigger.occurrence other = some later) (before : index ≤ other) :
    instant ≤ later := by
  rcases Nat.lt_or_eq_of_le before with strictly | rfl
  · have increasing := occurrence_lt valid first second strictly
    rw [Int64.lt_iff_toInt_lt] at increasing
    rw [Int64.le_iff_toInt_le]
    omega
  · cases first.symm.trans second
    exact Int64.le_refl _

theorem eq_filter_of_sublist {α : Type} {part whole : List α} {passes : α → Bool} (nodup : whole.Nodup)
    (sublist : part.Sublist whole) (same : ∀ value ∈ whole, value ∈ part ↔ passes value) :
    part = whole.filter passes := by
  have kept : part.filter passes = part :=
    List.filter_eq_self.mpr fun value member => (same value (sublist.subset member)).mp member
  have within : part.Sublist (whole.filter passes) := kept ▸ sublist.filter passes
  refine within.eq_of_length_le ?_
  refine ((nodup.sublist List.filter_sublist).subperm fun value member => ?_).length_le
  obtain ⟨listed, passed⟩ := List.mem_filter.mp member
  exact (same value listed).mpr passed

end Instants

section Claims

variable [SchedulerSerde] [Hashing] {start disk next : SchedulerDisk} {labels : List Scheduled}
  {scheduled : Scheduled} {schedule : DependencySchedule} {count index other limit total : Nat}
  {now instant : Int64} {news : List DependencyExecution} {request : SchedulerRequest} {firing : Firing}

omit [SchedulerSerde] [Hashing] in
theorem occurrence_of_predicate {trigger : DependencyTrigger} (fires : request.firing = some firing)
    (triggered : firing.predicate trigger) : trigger.occurrence index = none := by
  cases request with
  | fireRuntimeEvent _ _ _ _ | fireProcessOutput _ _ _ _ _ =>
    cases fires
    cases trigger with
    | runtimeEvent _ | processOutput _ _ => rfl
    | atMillis _ | interval _ _ => cases triggered
  | upsert _ _ | remove _ | list _ | claimDue _ _ _ | listPendingExecutions _ | completeExecution _ _ =>
    cases fires

theorem FileClaimed.reindex {name : String} {content : List UInt8} (lawful : LawfulScheduler)
    (held : StoresSchedule name content schedule index)
    (again : StoresSchedule name content schedule other)
    (claimed : FileClaimed limit now schedule index news total next count) :
    ∃ more, FileClaimed limit now schedule other news total next more := by
  have same := encodeState_inj lawful held.encodes again.encodes
  have due : schedule.trigger.occurrence index = schedule.trigger.occurrence other :=
    congrArg ScheduleState.nextDueMs same
  cases found : schedule.trigger.occurrence index with
  | some instant =>
    obtain rfl := occurrence_index_inj held.valid found (due ▸ found)
    exact ⟨count, claimed⟩
  | none =>
    -- Nothing is left to be claimed.
    have nothing : count = 0 := by
      refine Nat.eq_zero_of_not_pos fun positive => ?_
      obtain ⟨instant, isDue, -⟩ := claimed.due 0 positive
      cases found.symm.trans isDue
    subst nothing
    refine ⟨0, ?_, fun _ below => absurd below (Nat.not_lt_zero _), claimed.handed, ?_⟩
    · rw [Nat.add_zero, ← same]
      exact claimed.moved
    · rw [Nat.add_zero, ← due]
      exact claimed.complete

omit [SchedulerSerde] [Hashing] in
theorem claimedInstants_append (scheduleId : String) (labels : List Scheduled) (label : Scheduled) :
    claimedInstants scheduleId (labels ++ [label]) =
      claimedInstants scheduleId labels ++ claimedInstants scheduleId [label] := by
  rw [claimedInstants, handedOut_append, List.filter_append, List.map_append, claimedInstants,
    claimedInstants, handedOut, handedOut, List.flatMap_singleton]

/-- How far the instants of a schedule have been claimed since it was stored: the schedule is behind
some of its occurrences, all of which are recorded and have been due; those that were not recorded
before have been handed out in order, and no later one has been recorded. -/
structure Claimed (start : SchedulerDisk) (schedule : DependencySchedule) (labels : List Scheduled)
    (count : Nat) (disk : SchedulerDisk) : Prop where
  sound : Sound disk
  keeps : ∀ name, extension name = some "json" → (start .executions).contains name →
    (disk .executions).contains name
  moved : ∃ bytes, (disk .schedules)[scheduleFile schedule.scheduleId]? = some bytes ∧
    StoresSchedule (scheduleFile schedule.scheduleId) bytes schedule count
  due : ∀ index < count, ∃ instant, schedule.trigger.occurrence index = some instant ∧
    (disk .executions).contains (timeFile schedule.scheduleId instant) ∧
    ∃ millis ∈ labels.filterMap clockReading, instant ≤ .ofNat millis
  clocks : ∀ millis ∈ labels.filterMap clockReading, millis < 2 ^ 63
  handed : claimedInstants schedule.scheduleId labels = (instantsFrom schedule 0 count).filter fun instant =>
    ¬ (start .executions).contains (timeFile schedule.scheduleId instant)
  unclaimed : ∀ index instant, count ≤ index → schedule.trigger.occurrence index = some instant →
    (disk .executions).contains (timeFile schedule.scheduleId instant) →
    (start .executions).contains (timeFile schedule.scheduleId instant)
  complete : schedule.active → ∀ limit millis nonces claims,
    labels.getLast? = some (.claimDue limit (some millis) nonces, .claimed claims) →
    claims.length < limit → ∀ due, schedule.trigger.occurrence count = some due → .ofNat millis < due

theorem Claimed.init {bytes : List UInt8} {nonce : String} (sound : Sound disk)
    (wrote : Written start (scheduleFile schedule.scheduleId) nonce bytes disk)
    (stores : StoresSchedule (scheduleFile schedule.scheduleId) bytes schedule 0) :
    Claimed start schedule [] 0 disk where
  sound := sound
  keeps name _ present := by rwa [wrote.executions]
  moved := by
    have kind := extension_scheduleFile (validateId_of_schedule stores.valid)
    exact ⟨bytes, by rw [wrote.other (by rw [kind]; decide), if_pos rfl], stores⟩
  due _ below := absurd below (Nat.not_lt_zero _)
  clocks _ member := absurd member List.not_mem_nil
  handed := rfl
  unclaimed _ _ _ _ present := by rwa [wrote.executions] at present
  complete _ _ _ _ _ nothing := absurd nothing (by simp)

theorem Claimed.spared (claimed : Claimed start schedule labels count disk) (sound : Sound next)
    (grows : ∀ name, extension name = some "json" → (disk .executions).contains name →
      (next .executions).contains name)
    (same : (next .schedules)[scheduleFile schedule.scheduleId]? =
      (disk .schedules)[scheduleFile schedule.scheduleId]?)
    (nothing : claimedInstants schedule.scheduleId [scheduled] = [])
    (unclaimed : ∀ index instant, schedule.trigger.occurrence index = some instant →
      (next .executions).contains (timeFile schedule.scheduleId instant) →
      (disk .executions).contains (timeFile schedule.scheduleId instant))
    (other : clockReading scheduled = none) :
    Claimed start schedule (labels ++ [scheduled]) count next where
  sound := sound
  keeps name kind present := grows name kind (claimed.keeps name kind present)
  moved := same ▸ claimed.moved
  due index below := by
    obtain ⟨instant, isDue, recorded, millis, listed, reached⟩ := claimed.due index below
    refine ⟨instant, isDue, grows _ ?_ recorded, millis, ?_, reached⟩
    · exact extension_executionFile occurrenceId_ne_empty
    · rw [List.filterMap_append]
      exact List.mem_append_left _ listed
  clocks := by
    rw [List.filterMap_append, List.filterMap_cons_none other, List.filterMap_nil, List.append_nil]
    exact claimed.clocks
  handed := by rw [claimedInstants_append, nothing, List.append_nil, claimed.handed]
  unclaimed index instant behind isDue present :=
    claimed.unclaimed index instant behind isDue (unclaimed index instant isDue present)
  complete _ limit millis nonces claims last := by
    rw [List.getLast?_concat, Option.some_inj] at last
    rw [last] at other
    cases other

/-- No occurrence of a schedule has the hash of another one that is recorded. -/
def Unmistaken (schedule : DependencySchedule) (directory : Directory) : Prop :=
  ∀ index instant, schedule.trigger.occurrence index = some instant →
    Uncollided directory (occurrenceKey schedule.scheduleId "time" instant.toInt.repr)

theorem Grows.of_timeFile {before after : Directory} (grows : Grows before news after)
    (unmistaken : Unmistaken schedule after) (valid : validateDependencySchedule schedule = .ok ())
    (due : schedule.trigger.occurrence index = some instant)
    (absent : ¬ before.contains (timeFile schedule.scheduleId instant))
    (present : after.contains (timeFile schedule.scheduleId instant)) :
    ∃ execution ∈ news, execution.schedule.scheduleId = schedule.scheduleId ∧
      execution.source = "time" ∧ execution.scheduledForMs = instant := by
  obtain ⟨content, found⟩ := StringMap.contains_iff.mp present
  have kind : extension (timeFile schedule.scheduleId instant) = some "json" :=
    extension_executionFile occurrenceId_ne_empty
  rcases grows.origin _ content kind found with old | ⟨execution, member, isFile, encodes⟩
  · exact absurd (StringMap.contains_iff.mpr ⟨content, old⟩) absent
  · have named := grows.named execution member
    have sameId := (executionFile_inj isFile).symm
    have sameKey := unmistaken index instant due execution
      ⟨named.extension_file, content, isFile ▸ found, encodes⟩ (named.digest_eq sameId)
    obtain ⟨isSchedule, isTime, isInstant⟩ :=
      named.key_inj (validateId_of_schedule valid) (by decide) sameKey
    rw [DependencyExecution.occurrence, if_pos isTime] at isInstant
    exact ⟨execution, member, isSchedule, isTime, Int64.toInt_inj.mp (repr_inj isInstant)⟩

theorem claimedInstants_claimDue {nonces : String → String} {millis : Nat} {names : List String}
    {outcome : Fallible SchedulerDependencyError (List DependencyExecution)} {instants : List Int64}
    (files : FilesClaimed limit (.ofNat millis) nonces names disk [] news outcome next)
    (filtered : news.filter (·.schedule.scheduleId = schedule.scheduleId) =
      instants.map (timeExecution schedule (.ofNat millis))) :
    claimedInstants schedule.scheduleId [(.claimDue limit (some millis) nonces, .claimed news)] =
      instants := by
  have same : news.filter (fun execution => execution.observation = none ∧
      execution.schedule.scheduleId = schedule.scheduleId) =
        news.filter (·.schedule.scheduleId = schedule.scheduleId) := by
    refine List.filter_congr fun new member => ?_
    obtain ⟨_, _, rfl, -, -⟩ := files.named new member
    exact decide_eq_decide.mpr ⟨fun both => both.2, fun same => ⟨rfl, same⟩⟩
  have claims : handedOut [(.claimDue limit (some millis) nonces, .claimed news)] = news := by
    simp [handedOut, SchedulerAnswer.claims]
  rw [claimedInstants, claims, same, filtered, List.map_map]
  exact List.map_id _

/-- Claiming the due occurrences of all schedules claims those of the schedule. -/
theorem Claimed.claims {nonces : String → String} {millis : Nat} (lawful : LawfulScheduler)
    (claimed : Claimed start schedule labels count disk) (inRange : millis < 2 ^ 63)
    (files : FilesClaimed limit (.ofNat millis) nonces ((disk .schedules).listing "json") disk [] news
      (.ok news) next) (unmistaken : Unmistaken schedule (next .executions)) :
    ∃ count, Claimed start schedule
      (labels ++ [(.claimDue limit (some millis) nonces, .claimed news)]) count next := by
  obtain ⟨bytes, found, stores⟩ := claimed.moved
  have grows := files.records.grows fun new member => by
    obtain ⟨_, _, -, named, -⟩ := files.named new member
    exact named
  have listed : scheduleFile schedule.scheduleId ∈ (disk .schedules).listing "json" :=
    StoredIn.listed ⟨bytes, count, found, stores⟩
  rcases files.returns with ⟨-, all⟩ | ⟨fails, -⟩
  · obtain ⟨content, held, index, more, isHeld, storesHeld, fileClaimed⟩ := all _ listed
    cases isHeld.symm.trans found
    have same := encodeState_inj lawful storesHeld.encodes stores.encodes
    have same : held = schedule := congrArg ScheduleState.schedule same
    subst same
    obtain ⟨more, fileClaimed⟩ := fileClaimed.reindex lawful storesHeld stores
    obtain ⟨instants, sublist, filtered⟩ := fileClaimed.handed
    have taken : claimedInstants held.scheduleId
        [(.claimDue limit (some millis) nonces, .claimed news)] = instants :=
      claimedInstants_claimDue files filtered
    -- A new execution for an instant of the schedule is the claim of one of these instants.
    have mem_of_new : ∀ index instant, held.trigger.occurrence index = some instant →
        ¬ (disk .executions).contains (timeFile held.scheduleId instant) →
        (next .executions).contains (timeFile held.scheduleId instant) → instant ∈ instants := by
      intro index instant due absent present
      obtain ⟨execution, member, isSchedule, -, isInstant⟩ :=
        grows.of_timeFile unmistaken stores.valid due absent present
      have kept : execution ∈ news.filter (·.schedule.scheduleId = held.scheduleId) :=
        List.mem_filter.mpr ⟨member, decide_eq_true isSchedule⟩
      rw [filtered] at kept
      obtain ⟨other, listed, rfl⟩ := List.mem_map.mp kept
      exact isInstant ▸ listed
    have isNew : ∀ instant ∈ instantsFrom held count more, instant ∈ instants ↔
        decide (¬ (start .executions).contains (timeFile held.scheduleId instant)) := by
      intro instant member
      obtain ⟨offset, below, due⟩ := mem_instantsFrom.mp member
      rw [decide_eq_true_iff]
      constructor
      · intro isTaken present
        have new : timeExecution held (.ofNat millis) instant ∈ news := by
          refine List.mem_of_mem_filter (p := (·.schedule.scheduleId = held.scheduleId)) ?_
          rw [filtered]
          exact List.mem_map_of_mem isTaken
        have absent := (files.records.new new).1
        obtain ⟨content, here⟩ := StringMap.contains_iff.mp
          (claimed.keeps _ (extension_executionFile occurrenceId_ne_empty) present)
        cases absent.symm.trans here
      · intro fresh
        obtain ⟨other, same, -, present⟩ := fileClaimed.due offset below
        cases due.symm.trans same
        exact mem_of_new _ instant due
          (fun early => fresh (claimed.unclaimed _ instant (Nat.le_add_right _ _) due early)) present
    have nodup : (instantsFrom held count more).Nodup := by
      refine (pairwise_instantsFrom stores.valid).imp fun {first second} before => ?_
      rintro rfl
      exact Int64.lt_irrefl before
    refine ⟨count + more, files.sound, ?_, ?_, ?_, ?_, ?_, ?_, ?_⟩
    · exact fun name kind present => grows.contains kind (claimed.keeps name kind present)
    · obtain ⟨written, encodes, isWritten⟩ := fileClaimed.moved
      exact ⟨written, isWritten, encodes, stores.valid, rfl⟩
    · intro index below
      rw [List.filterMap_append]
      by_cases early : index < count
      · obtain ⟨instant, due, present, reading, member, reached⟩ := claimed.due index early
        exact ⟨instant, due, grows.contains (extension_executionFile occurrenceId_ne_empty) present,
          reading, List.mem_append_left _ member, reached⟩
      · obtain ⟨offset, rfl⟩ := Nat.exists_eq_add_of_le (Nat.le_of_not_lt early)
        obtain ⟨instant, due, reached, present⟩ := fileClaimed.due offset (by omega)
        exact ⟨instant, due, present, millis, List.mem_append_right _ (List.mem_singleton_self _), reached⟩
    · intro reading member
      rw [List.filterMap_append] at member
      rcases List.mem_append.mp member with early | late
      · exact claimed.clocks reading early
      · rwa [List.mem_singleton.mp late]
    · rw [claimedInstants_append, taken, claimed.handed, instantsFrom_add, List.filter_append,
        Nat.zero_add, eq_filter_of_sublist nodup sublist isNew]
    · intro index instant behind due present
      by_contra fresh
      have absent := fun early => fresh (claimed.unclaimed index instant (by omega) due early)
      obtain ⟨offset, below, same⟩ :=
        mem_instantsFrom.mp (sublist.subset (mem_of_new index instant due absent present))
      have equal := occurrence_index_inj stores.valid due same
      omega
    · intro active limit' millis' nonces' claims' last short
      rw [List.getLast?_concat] at last
      cases last
      exact (fileClaimed.complete active).resolve_left (Nat.not_le.mpr short)
  · cases fails

omit [SchedulerSerde] [Hashing] in
theorem claimedInstants_of_no_claims {scheduleId : String} (nothing : scheduled.2.claims = []) :
    claimedInstants scheduleId [scheduled] = [] := by
  rw [claimedInstants, handedOut, List.flatMap_singleton, nothing]
  rfl

omit [SchedulerSerde] [Hashing] in
theorem clockReading_of_quiet {answer : SchedulerAnswer} (silent : answer.quiet) : clockReading (request, answer) = none := by
  rw [clockReading]
  rintro limit reading nonces executions ⟨⟩
  cases silent

omit [SchedulerSerde] [Hashing] in
theorem clockReading_of_firing {answer : SchedulerAnswer} (fires : request.firing = some firing) :
    clockReading (request, answer) = none := by
  cases request with
  | claimDue _ _ _ => cases fires
  | _ => rfl

/-- Every request that spares the schedule keeps its instants claimed in order. -/
theorem Claimed.step (lawful : LawfulScheduler) (claimed : Claimed start schedule labels count disk)
    (serves : Schedules disk scheduled next) (spares : Spares schedule.scheduleId scheduled)
    (unmistaken : Unmistaken schedule (next .executions)) :
    ∃ count, Claimed start schedule (labels ++ [scheduled]) count next := by
  obtain ⟨request, answer⟩ := scheduled
  obtain ⟨bytes, found, stores⟩ := claimed.moved
  have validId := validateId_of_schedule stores.valid
  have kind := extension_scheduleFile validId
  obtain ⟨news, effect⟩ := serve_effect lawful claimed.sound serves.1 serves.2
  have sound := effect.sound claimed.sound
  have grows := effect.grows
  have older : ∀ name, extension name = some "json" → (disk .executions).contains name →
      (next .executions).contains name := fun _ kind => grows.contains kind
  cases effect with
  | quiet silent =>
    exact ⟨count, claimed.spared sound older rfl (claimedInstants_of_no_claims (claims_of_quiet silent))
      (fun _ _ _ present => present) (clockReading_of_quiet silent)⟩
  | @stored upserted nonce content _ valid encodes wrote =>
    have apart : scheduleFile schedule.scheduleId ≠ scheduleFile upserted.scheduleId := by
      intro same
      exact absurd (spares (scheduleFile_inj validId (validateId_of_schedule valid) same).symm)
        Bool.false_ne_true
    refine ⟨count, claimed.spared sound older ?_ (claimedInstants_of_no_claims rfl) ?_ rfl⟩
    · rw [wrote.other (by rw [kind]; decide), if_neg apart]
    · intro index instant _ present
      rwa [wrote.executions] at present
  | @removed id _ valid isRemoved =>
    subst isRemoved
    have apart : ¬ (SchedulerDirectory.schedules = .schedules ∧
        scheduleFile id = scheduleFile schedule.scheduleId) := by
      rintro ⟨-, same⟩
      exact absurd (spares (scheduleFile_inj valid validId same)) (by decide)
    refine ⟨count, claimed.spared sound older ?_ (claimedInstants_of_no_claims rfl) ?_ rfl⟩
    · rw [remove_at, if_neg apart]
    · intro index instant _ present
      rwa [FileStep.apply_other (by simp [FileStep.directory])] at present
  | @claimed limit reading nonces now _ _ outcome clock files =>
    obtain ⟨millis, rfl, inRange, rfl⟩ := nowMillis_eq_ok.mp clock
    obtain ⟨claims, answered⟩ := spares
    rcases files.returns with ⟨rfl, -⟩ | ⟨rfl, -⟩
    · exact claimed.claims lawful inRange files unmistaken
    · cases answered
  | @fired _ firing now schedules _ _ fires source _ all matches_ =>
    refine ⟨count, claimed.spared sound older ?_ ?_ ?_ (clockReading_of_firing fires)⟩
    · rw [matches_.unchanged]
    · have claims : handedOut [(request, .claimed news)] = news := by
        simp [handedOut, SchedulerAnswer.claims]
      rw [claimedInstants, claims, List.map_eq_nil_iff, List.filter_eq_nil_iff]
      intro new member matched
      obtain ⟨_, -, -, rfl, -⟩ := matches_.named fires source all member
      cases (of_decide_eq_true matched).1
    · intro index instant due present
      by_contra absent
      -- A schedule that an observation matches has no instants.
      obtain ⟨execution, member, isSchedule, -, -⟩ :=
        grows.of_timeFile unmistaken stores.valid due absent present
      obtain ⟨other, listed, isMatch, rfl, -⟩ := matches_.named fires source all member
      obtain ⟨name, -, isStored⟩ := exists_of_forall₂_right all listed
      have isFile : name = scheduleFile schedule.scheduleId := by
        obtain ⟨_, _, -, storesOther⟩ := isStored
        rw [storesOther.name]
        exact congrArg scheduleFile isSchedule
      have same := (isFile ▸ isStored).unique lawful ⟨bytes, count, found, stores⟩
      rw [same] at isMatch
      simp only [Matches, Bool.and_eq_true] at isMatch
      cases due.symm.trans (occurrence_of_predicate fires isMatch.2)
  | marked same _ marks =>
    refine ⟨count, claimed.spared sound older (by rw [same]) (claimedInstants_of_no_claims rfl) ?_ rfl⟩
    intro index instant _ present
    have isClaim : extension (timeFile schedule.scheduleId instant) = some "json" :=
      extension_executionFile occurrenceId_ne_empty
    rw [StringMap.contains_iff, marks,
      if_neg fun isMarker => extension_markerFile (isMarker ▸ isClaim)] at present
    exact StringMap.contains_iff.mpr present

theorem Grows.recordedIn {before after : Directory} {execution : DependencyExecution}
    (grows : Grows before news after) (isRecorded : RecordedIn before execution) :
    RecordedIn after execution := by
  obtain ⟨kind, content, found, encodes⟩ := isRecorded
  exact ⟨kind, content, grows.keeps _ content kind found, encodes⟩

theorem claimed_of_run (lawful : LawfulScheduler) {first : SchedulerDisk}
    (initially : Claimed start schedule [] 0 first)
    (run : Run (fun disk scheduled next => Schedules disk scheduled next ∧
      Spares schedule.scheduleId scheduled) first labels disk)
    (unmistaken : Unmistaken schedule (disk .executions)) :
    ∃ count, Claimed start schedule labels count disk := by
  induction run with
  | nil => exact ⟨0, initially⟩
  | @snoc labels label disk next earlier taken ih =>
    have sound := sound_of_run lawful initially.sound (earlier.mono fun _ _ _ both => both.1)
    obtain ⟨news, effect⟩ := serve_effect lawful sound taken.1.1 taken.1.2
    -- What is recorded before is recorded behind the request.
    have before : Unmistaken schedule (disk .executions) := by
      intro index instant due execution isRecorded same
      exact unmistaken index instant due execution (effect.grows.recordedIn isRecorded) same
    obtain ⟨count, claimed⟩ := ih before
    exact claimed.step lawful taken.1 taken.2 unmistaken

theorem History.nodup_instants {before after : Directory} {recorded : List DependencyExecution}
    (history : History before labels recorded after) (scheduleId : String) :
    (claimedInstants scheduleId labels).Nodup := by
  have distinct : ((handedOut labels).filter fun execution => execution.observation = none ∧
      execution.schedule.scheduleId = scheduleId).Pairwise fun left right =>
        left.executionId ≠ right.executionId :=
    (List.pairwise_map.mp history.nodup).sublist List.filter_sublist
  rw [claimedInstants, List.Nodup, List.pairwise_map]
  refine distinct.imp_of_mem fun {left right} isLeft isRight differ same => differ ?_
  -- The claims of one instant have one identifier.
  have isNamed : ∀ execution ∈ (handedOut labels).filter fun execution =>
      execution.observation = none ∧ execution.schedule.scheduleId = scheduleId,
      execution.executionId = occurrenceId scheduleId "time" execution.scheduledForMs.toInt.repr := by
    intro execution member
    obtain ⟨isHanded, matched⟩ := List.mem_filter.mp member
    obtain ⟨isTime, isSchedule⟩ := of_decide_eq_true matched
    have named := (history.named isHanded).named
    rw [DependencyExecution.occurrence, DependencyExecution.source, isTime, isSchedule] at named
    exact named
  rw [isNamed left isLeft, isNamed right isRight, same]

end Claims

section Sample

attribute [local instance] prefixHash segmentedScheduler

/-- A schedule with two instants in the range of the clock. -/
def sampleInterval : DependencySchedule := sampleSchedule (.interval 0 4611686018427387904)

set_option maxRecDepth 4000 in
theorem occurrence_sampleInterval {index : Nat} {instant : Int64}
    (due : sampleInterval.trigger.occurrence index = some instant) : instant = 0 ∨ instant = 2 ^ 62 := by
  have sum := occurrence_interval.mp due
  have high := instant.toInt_lt
  have zero : (0 : Int64).toInt = 0 := by decide
  have width : (4611686018427387904 : UInt64).toNat = 2 ^ 62 := by decide
  have far : (2 ^ 62 : Int64).toInt = 2 ^ 62 := by decide
  rw [width, zero] at sum
  rcases Nat.lt_or_ge index 2 with below | beyond
  · rw [← Int64.toInt_inj, ← Int64.toInt_inj, zero, far]
    omega
  · omega

set_option maxRecDepth 4000 in
theorem unmistaken_sampleInterval {first second : Int64} (isFirst : first = 0 ∨ first = 2 ^ 62)
    (isSecond : second = 0 ∨ second = 2 ^ 62)
    (same : Hashing.digest (utf8Bytes (occurrenceKey "s" "time" first.toInt.repr).toList) =
      Hashing.digest (utf8Bytes (occurrenceKey "s" "time" second.toInt.repr).toList)) :
    first = second := by
  rcases isFirst with rfl | rfl <;> rcases isSecond with rfl | rfl
  · rfl
  · exact absurd same (by decide)
  · exact absurd same (by decide)
  · rfl

end Sample

end AgentMod
