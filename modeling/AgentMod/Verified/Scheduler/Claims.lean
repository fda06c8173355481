import AgentMod.Verified.Scheduler.Occurrences
import AgentMod.Verified.Scheduler.Replacement

/-! What claims add to the executions. -/

namespace AgentMod

section Codec

variable [SchedulerSerde] [Hashing] {state other : ScheduleState}
  {execution another : DependencyExecution} {bytes part : List UInt8}

omit [SchedulerSerde] in
theorem checksum_eq_ok {serialized : Except String (List UInt8)} {sum : String} :
    checksum serialized = .ok sum ↔
      ∃ bytes, serialized = .ok bytes ∧ (Hashing.digest bytes).toHex = sum := by
  simp only [checksum, bind_eq_ok, mapError_eq_ok, pure_eq_ok]

theorem encodeState_eq_ok : encodeState state = .ok bytes ↔ ∃ sum,
    checksum (SchedulerSerde.stateToVec state) = .ok sum ∧
      SchedulerSerde.scheduleToVec ⟨sum, state⟩ = .ok bytes := by
  simp only [encodeState, bind_eq_ok, mapError_eq_ok]

theorem encodeExecution_eq_ok : encodeExecution execution = .ok bytes ↔ ∃ sum,
    checksum (SchedulerSerde.recordToVec (executionRecord execution .claimed)) = .ok sum ∧
      SchedulerSerde.executionToVec ⟨sum, executionRecord execution .claimed⟩ = .ok bytes := by
  simp only [encodeExecution, bind_eq_ok, mapError_eq_ok]

variable (lawful : LawfulScheduler)
include lawful

theorem encodeState_isOk (state : ScheduleState) : ∃ bytes, encodeState state = .ok bytes := by
  obtain ⟨printed, prints⟩ := lawful.states state
  obtain ⟨bytes, stores⟩ := lawful.schedules ⟨(Hashing.digest printed).toHex, state⟩
  exact ⟨bytes, encodeState_eq_ok.mpr ⟨_, checksum_eq_ok.mpr ⟨printed, prints, rfl⟩, stores⟩⟩

theorem decodeState_encodeState (encodes : encodeState state = .ok bytes) :
    decodeState bytes = .ok state := by
  obtain ⟨sum, checks, stores⟩ := encodeState_eq_ok.mp encodes
  simp only [decodeState, bind_eq_ok, exists_unit, mapError_eq_ok, refuseIf_eq_ok, pure_eq_ok,
    not_not]
  exact ⟨_, lawful.readsSchedule _ _ stores, sum, checks, rfl, rfl⟩

theorem encodeState_inj (encodes : encodeState state = .ok bytes)
    (again : encodeState other = .ok bytes) : state = other :=
  Except.ok.inj ((decodeState_encodeState lawful encodes).symm.trans
    (decodeState_encodeState lawful again))

theorem encodeExecution_isOk (execution : DependencyExecution) :
    ∃ bytes, encodeExecution execution = .ok bytes := by
  obtain ⟨printed, prints⟩ := lawful.records (executionRecord execution .claimed)
  obtain ⟨bytes, stores⟩ := lawful.executions
    ⟨(Hashing.digest printed).toHex, executionRecord execution .claimed⟩
  exact ⟨bytes, encodeExecution_eq_ok.mpr ⟨_, checksum_eq_ok.mpr ⟨printed, prints, rfl⟩, stores⟩⟩

theorem decodeExecution_encodeExecution (encodes : encodeExecution execution = .ok bytes) :
    decodeExecution execution.executionId bytes = .ok execution := by
  obtain ⟨sum, checks, stores⟩ := encodeExecution_eq_ok.mp encodes
  simp only [decodeExecution, bind_eq_ok, exists_unit, mapError_eq_ok, refuseIf_eq_ok, pure_eq_ok]
  refine ⟨_, lawful.readsExecution _ _ stores, sum, checks, ?_, ?_⟩
  · simp [executionRecord]
  · simp [executionRecord]

theorem encodeExecution_inj (encodes : encodeExecution execution = .ok bytes)
    (again : encodeExecution another = .ok bytes) : execution = another := by
  obtain ⟨sum, -, stores⟩ := encodeExecution_eq_ok.mp encodes
  obtain ⟨other, -, stores'⟩ := encodeExecution_eq_ok.mp again
  have same := (lawful.readsExecution _ _ stores).symm.trans (lawful.readsExecution _ _ stores')
  simp only [Except.ok.injEq, StoredExecution.mk.injEq, executionRecord, ExecutionRecord.mk.injEq] at same
  cases execution
  cases another
  simp_all

theorem encodeExecution_torn (encodes : encodeExecution execution = .ok bytes)
    (front : part <+: bytes) (proper : part ≠ bytes) : encodeExecution another ≠ .ok part := by
  intro again
  obtain ⟨sum, -, stores⟩ := encodeExecution_eq_ok.mp encodes
  obtain ⟨other, -, stores'⟩ := encodeExecution_eq_ok.mp again
  obtain ⟨detail, fails⟩ := lawful.torn _ _ _ stores front proper
  cases fails.symm.trans (lawful.readsExecution _ _ stores')

end Codec

section RecordsNew

variable [SchedulerSerde] [Hashing] {before middle after : Directory}
  {news later : List DependencyExecution} {execution : DependencyExecution} {name : String}
  {content : List UInt8}

/-- Executions are recorded in new claim files, one behind the other. -/
inductive RecordsNew : Directory → List DependencyExecution → Directory → Prop where
  | nil {before : Directory} : RecordsNew before [] before
  | cons {before after : Directory} {execution : DependencyExecution} {bytes : List UInt8}
      {news : List DependencyExecution} : before[executionFile execution.executionId]? = none →
      encodeExecution execution = .ok bytes →
      RecordsNew (before.insert (executionFile execution.executionId) bytes) news after →
      RecordsNew before (execution :: news) after

theorem RecordsNew.append (first : RecordsNew before news middle) (second : RecordsNew middle later after) :
    RecordsNew before (news ++ later) after := by
  induction first with
  | nil => exact second
  | cons absent encodes _ ih => exact .cons absent encodes (ih second)

theorem RecordsNew.keeps (records : RecordsNew before news after) (found : before[name]? = some content) :
    after[name]? = some content := by
  induction records with
  | nil => exact found
  | cons absent _ _ ih =>
    refine ih ?_
    rw [StringMap.getElem?_insert', if_neg, found]
    rintro rfl
    cases absent.symm.trans found

theorem RecordsNew.origin (records : RecordsNew before news after) (found : after[name]? = some content) :
    before[name]? = some content ∨ ∃ execution ∈ news, name = executionFile execution.executionId ∧
      encodeExecution execution = .ok content := by
  induction records with
  | nil => exact .inl found
  | cons absent encodes _ ih =>
    rcases ih found with old | ⟨execution, member, named, holds⟩
    · rw [StringMap.getElem?_insert'] at old
      split at old
      · next same =>
        cases old
        exact .inr ⟨_, List.mem_cons_self, same.symm, encodes⟩
      · exact .inl old
    · exact .inr ⟨execution, List.mem_cons_of_mem _ member, named, holds⟩

theorem RecordsNew.new (records : RecordsNew before news after) (member : execution ∈ news) :
    before[executionFile execution.executionId]? = none ∧ ∃ bytes,
      encodeExecution execution = .ok bytes ∧
        after[executionFile execution.executionId]? = some bytes := by
  induction records with
  | nil => cases member
  | @cons before after first bytes news absent encodes rest ih =>
    rcases List.mem_cons.mp member with rfl | further
    · refine ⟨absent, bytes, encodes, rest.keeps ?_⟩
      rw [StringMap.getElem?_insert', if_pos rfl]
    · obtain ⟨missing, holds⟩ := ih further
      rw [StringMap.getElem?_insert'] at missing
      split at missing
      · cases missing
      · exact ⟨missing, holds⟩

theorem RecordsNew.nodup (records : RecordsNew before news after) :
    (news.map DependencyExecution.executionId).Nodup := by
  induction records with
  | nil => exact List.nodup_nil
  | @cons before after first bytes news absent encodes rest ih =>
    rw [List.map_cons, List.nodup_cons]
    refine ⟨fun member => ?_, ih⟩
    obtain ⟨execution, listed, same⟩ := List.mem_map.mp member
    have missing := (rest.new listed).1
    rw [same, StringMap.getElem?_insert', if_pos rfl] at missing
    cases missing

end RecordsNew

section Claim

variable [SchedulerSerde] [Hashing] {disk next crashed : SchedulerDisk}
  {schedule : DependencySchedule} {source : String} {scheduledForMs claimedAtMs : Int64}
  {observation : Option DependencyObservation}

/-- The execution that a claim makes. -/
def claimedExecution (schedule : DependencySchedule) (source : String)
    (scheduledForMs claimedAtMs : Int64) (observation : Option DependencyObservation) :
    DependencyExecution where
  executionId := occurrenceId schedule.scheduleId source
    (if source = "time" then scheduledForMs.toInt.repr else source)
  scheduledForMs := scheduledForMs
  claimedAtMs := claimedAtMs
  observation := observation
  schedule := schedule

/-- The disk on which an execution is recorded. -/
def recordedDisk (disk : SchedulerDisk) (execution : DependencyExecution) (bytes : List UInt8) :
    SchedulerDisk :=
  (FileStep.save .executions (executionFile execution.executionId) bytes).apply disk

omit [SchedulerSerde] [Hashing] in
theorem recordedDisk_schedules {execution : DependencyExecution} {bytes : List UInt8} :
    recordedDisk disk execution bytes .schedules = disk .schedules :=
  FileStep.apply_other (by simp [FileStep.directory])

omit [SchedulerSerde] [Hashing] in
theorem recordedDisk_executions {execution : DependencyExecution} {bytes : List UInt8} :
    recordedDisk disk execution bytes .executions =
      (disk .executions).insert (executionFile execution.executionId) bytes :=
  FileStep.apply_directory _ disk

variable {execution : DependencyExecution} {bytes : List UInt8}

theorem claim_again
    (made : claimedExecution schedule source scheduledForMs claimedAtMs observation = execution)
    (encodes : encodeExecution execution = .ok bytes)
    (present : (disk .executions).contains (executionFile execution.executionId)) :
    claim schedule source scheduledForMs claimedAtMs observation disk = (.ok none, []) := by
  subst made
  rw [claimedExecution] at encodes present
  simp only [claim, encodes, Filing.ofExcept_bind_apply, Filing.onOk_ok, Filing.read_bind_apply,
    present, if_true]
  rfl

theorem claim_new
    (made : claimedExecution schedule source scheduledForMs claimedAtMs observation = execution)
    (encodes : encodeExecution execution = .ok bytes)
    (absent : (disk .executions)[executionFile execution.executionId]? = none) :
    claim schedule source scheduledForMs claimedAtMs observation disk =
      (.ok (some execution), [.save .executions (executionFile execution.executionId) bytes]) := by
  subst made
  have missing : (disk .executions).contains (executionFile (claimedExecution schedule source
      scheduledForMs claimedAtMs observation).executionId) = false := by
    rw [Bool.eq_false_iff, ne_eq, StringMap.contains_iff, absent]
    simp
  rw [claimedExecution] at encodes missing
  simp only [claim, encodes, Filing.ofExcept_bind_apply, Filing.onOk_ok, Filing.read_bind_apply,
    missing, Bool.false_eq_true, if_false]
  rfl

/-- What a claim does: the occurrence is recorded afterwards, and handed out where it was not before. -/
structure ClaimRun (disk : SchedulerDisk) (execution : DependencyExecution)
    (claimed : Option DependencyExecution) (next : SchedulerDisk) : Prop where
  handed : claimed = none ∨ claimed = some execution
  records : RecordsNew (disk .executions) claimed.toList (next .executions)
  schedules : next .schedules = disk .schedules
  recorded : (next .executions).contains (executionFile execution.executionId)

theorem claim_run (lawful : LawfulScheduler)
    (made : claimedExecution schedule source scheduledForMs claimedAtMs observation = execution) :
    ∃ claimed next, (claim schedule source scheduledForMs claimedAtMs observation).run disk =
      (.ok claimed, next) ∧ ClaimRun disk execution claimed next := by
  obtain ⟨bytes, encodes⟩ := encodeExecution_isOk lawful execution
  cases found : (disk .executions)[executionFile execution.executionId]? with
  | some held =>
    have present := StringMap.contains_iff.mpr ⟨held, found⟩
    refine ⟨none, disk, ?_, .inl rfl, .nil, rfl, present⟩
    rw [Filing.run, claim_again made encodes present]
    rfl
  | none =>
    refine ⟨some execution, recordedDisk disk execution bytes, ?_, .inr rfl, ?_,
      recordedDisk_schedules, ?_⟩
    · rw [Filing.run, claim_new made encodes found]
      rfl
    · rw [recordedDisk_executions]
      exact .cons found encodes .nil
    · rw [recordedDisk_executions, StringMap.contains_iff]
      exact ⟨bytes, by rw [StringMap.getElem?_insert', if_pos rfl]⟩

omit [SchedulerSerde] in
theorem occurrenceId_ne_empty {scheduleId source occurrence : String} :
    occurrenceId scheduleId source occurrence ≠ "" := by
  intro empty
  have size := congrArg (fun text => (textBytes text).length) empty
  rw [occurrenceId] at size
  have digits := length_textBytes_encodeHex
    (Hashing.digest (utf8Bytes (scheduleId ++ "\x00" ++ source ++ "\x00" ++ occurrence).toList)).bytes.toList
  rw [Vector.length_toList] at digits
  exact absurd (digits.symm.trans size) (by decide)

/-- A claim that is interrupted leaves the disk, a torn claim file, or the occurrence recorded. -/
theorem claim_crashes (lawful : LawfulScheduler)
    (made : claimedExecution schedule source scheduledForMs claimedAtMs observation = execution)
    (crashes : (claim schedule source scheduledForMs claimedAtMs observation).Crashes disk crashed) :
    TornClaim (crashed .executions) ∨ crashed .schedules = disk .schedules ∧
      ∃ news, RecordsNew (disk .executions) news (crashed .executions) ∧
        ∀ new ∈ news, new = execution := by
  obtain ⟨bytes, encodes⟩ := encodeExecution_isOk lawful execution
  rw [Filing.Crashes] at crashes
  cases found : (disk .executions)[executionFile execution.executionId]? with
  | some held =>
    rw [claim_again made encodes (StringMap.contains_iff.mpr ⟨held, found⟩), interrupted_nil] at crashes
    exact .inr ⟨by rw [crashes], [], crashes ▸ .nil, fun _ member => absurd member List.not_mem_nil⟩
  | none =>
    have whole : RecordsNew (disk .executions) [execution]
        (recordedDisk disk execution bytes .executions) := by
      rw [recordedDisk_executions]
      exact .cons found encodes .nil
    rw [claim_new made encodes found] at crashes
    cases crashes with
    | stopped => exact .inr ⟨rfl, [], .nil, fun _ member => absurd member List.not_mem_nil⟩
    | @torn _ _ _ part _ _ front =>
      by_cases same : part = bytes
      · subst same
        exact .inr ⟨recordedDisk_schedules, [execution], whole, fun new => List.mem_singleton.mp⟩
      · refine .inl ⟨executionFile execution.executionId, part, ?_, ?_, fun another => ?_⟩
        · rw [save_at, if_pos ⟨rfl, rfl⟩]
        · refine extension_executionFile ?_
          rw [← made]
          exact occurrenceId_ne_empty
        · exact encodeExecution_torn lawful encodes front same
    | passed finished =>
      rw [interrupted_nil] at finished
      subst finished
      exact .inr ⟨recordedDisk_schedules, [execution], whole, fun new => List.mem_singleton.mp⟩

end Claim

section Backlog

variable [SchedulerSerde] [Hashing] {disk middle next crashed : SchedulerDisk}
  {schedule : DependencySchedule} {limit index count more fuel : Nat} {now instant : Int64}
  {news later result : List DependencyExecution}

/-- The due occurrences of a schedule are claimed: all of them are recorded afterwards, and those that
were not recorded before are handed out in order. -/
structure ClaimsDue (schedule : DependencySchedule) (now : Int64) (index count : Nat)
    (disk : SchedulerDisk) (news : List DependencyExecution) (next : SchedulerDisk) : Prop where
  records : RecordsNew (disk .executions) news (next .executions)
  schedules : next .schedules = disk .schedules
  due : ∀ offset < count, ∃ instant, schedule.trigger.occurrence (index + offset) = some instant ∧
    instant ≤ now ∧ (next .executions).contains (timeFile schedule.scheduleId instant)
  ordered : ∃ instants : List Int64, instants.Sublist (instantsFrom schedule index count) ∧
    news = instants.map (timeExecution schedule now)

theorem ClaimsDue.refl (schedule : DependencySchedule) (now : Int64) (index : Nat)
    (disk : SchedulerDisk) : ClaimsDue schedule now index 0 disk [] disk where
  records := .nil
  schedules := rfl
  due _ below := absurd below (Nat.not_lt_zero _)
  ordered := ⟨[], List.nil_sublist _, rfl⟩

omit [SchedulerSerde] in
theorem claimedExecution_time :
    claimedExecution schedule "time" instant now none = timeExecution schedule now instant := by
  rw [claimedExecution, if_pos rfl, timeExecution]

theorem RecordsNew.contains {before after : Directory} {name : String} (records : RecordsNew before news after)
    (present : before.contains name) : after.contains name := by
  obtain ⟨content, found⟩ := StringMap.contains_iff.mp present
  exact StringMap.contains_iff.mpr ⟨content, records.keeps found⟩

theorem ClaimsDue.cons {claimed : Option DependencyExecution}
    (due : schedule.trigger.occurrence index = some instant) (reached : instant ≤ now)
    (first : ClaimRun disk (timeExecution schedule now instant) claimed middle)
    (others : ClaimsDue schedule now (index + 1) count middle news next) :
    ClaimsDue schedule now index (count + 1) disk (claimed.toList ++ news) next where
  records := first.records.append others.records
  schedules := others.schedules.trans first.schedules
  due offset below := by
    cases offset with
    | zero => exact ⟨instant, due, reached, others.records.contains first.recorded⟩
    | succ offset =>
      rw [← Nat.succ_add_eq_add_succ]
      exact others.due offset (Nat.lt_of_succ_lt_succ below)
  ordered := by
    obtain ⟨instants, sublist, rfl⟩ := others.ordered
    have starts : instantsFrom schedule index (count + 1) =
        instant :: instantsFrom schedule (index + 1) count := by
      rw [instantsFrom, List.range'_succ, List.filterMap_cons_some due, instantsFrom]
    rw [starts]
    rcases first.handed with rfl | rfl
    · exact ⟨instants, sublist.cons _, rfl⟩
    · exact ⟨instant :: instants, sublist.cons_cons _, rfl⟩

/-- The due occurrences of a schedule are claimed until the limit is reached or no more are due; only a
wide interval stops this. -/
theorem claimOccurrences_run (lawful : LawfulScheduler) (valid : validateDependencySchedule schedule = .ok ())
    (some_ : 1 ≤ fuel) (enough : ∀ due, schedule.trigger.occurrence index = some due → due ≤ now →
      (now.toInt - due.toInt).toNat + 2 ≤ fuel) :
    ∃ outcome count news next,
      (claimOccurrences limit now fuel (.behind schedule index) result).run disk = (outcome, next) ∧
      ClaimsDue schedule now index count disk news next ∧
      ((outcome = .ok (.behind schedule (index + count), result ++ news) ∧
          (limit ≤ (result ++ news).length ∨
            ∀ due, schedule.trigger.occurrence (index + count) = some due → now < due)) ∨
        (outcome = reject .invalid ∧ ¬ schedule.trigger.Narrow)) := by
  induction fuel generalizing index result disk with
  | zero => exact absurd some_ (Nat.not_succ_le_zero 0)
  | succ fuel ih =>
    -- Where the loop stops, nothing is claimed.
    have idle : (limit ≤ result.length ∨
        ∀ due, schedule.trigger.occurrence index = some due → now < due) →
        ∃ outcome count news next,
          (pure (ScheduleState.behind schedule index, result) : SchedulerFiling _).run disk =
            (outcome, next) ∧
          ClaimsDue schedule now index count disk news next ∧
          ((outcome = .ok (ScheduleState.behind schedule (index + count), result ++ news) ∧
              (limit ≤ (result ++ news).length ∨
                ∀ due, schedule.trigger.occurrence (index + count) = some due → now < due)) ∨
            (outcome = reject .invalid ∧ ¬ schedule.trigger.Narrow)) := fun ends =>
      ⟨.ok (ScheduleState.behind schedule index, result), 0, [], disk, rfl, .refl schedule now index disk,
        .inl ⟨by rw [List.append_nil, Nat.add_zero], by rwa [List.append_nil]⟩⟩
    rw [claimOccurrences]
    split
    · next below =>
      -- Either nothing is due, or the next occurrence is claimed and the rest follows.
      have nothing : (∀ due, schedule.trigger.occurrence index = some due → now < due) →
          (ScheduleState.behind schedule index).nextDueMs.filter (· ≤ now) = none := by
        intro early
        rw [Option.filter_eq_none_iff]
        intro due found reached
        have before := early due found
        rw [Int64.lt_iff_toInt_lt] at before
        rw [decide_eq_true_iff, Int64.le_iff_toInt_le] at reached
        omega
      cases found : schedule.trigger.occurrence index with
      | none =>
        have early : ∀ due, schedule.trigger.occurrence index = some due → now < due := by
          rw [found]
          exact nofun
        rw [nothing early]
        exact idle (.inr early)
      | some instant =>
        by_cases reached : instant ≤ now
        · have takes : (ScheduleState.behind schedule index).nextDueMs.filter (· ≤ now) = some instant := by
            have due : (ScheduleState.behind schedule index).nextDueMs = some instant := found
            rw [due, Option.filter_some, decide_eq_true reached, if_pos rfl]
          obtain ⟨claimed, middle, claims, first⟩ : ∃ claimed middle,
              (claim schedule "time" instant now none).run disk = (.ok claimed, middle) ∧
                ClaimRun disk (timeExecution schedule now instant) claimed middle :=
            claim_run lawful claimedExecution_time
          have claims' : (claim (ScheduleState.behind schedule index).schedule "time" instant now
              none).run disk = (.ok claimed, middle) := claims
          rw [takes]
          simp only [Filing.run_bind, claims', Filing.run_ofExcept]
          by_cases narrow : schedule.trigger.Narrow
          · have left := enough instant found reached
            obtain ⟨outcome, count, news, next, returns, others, ends⟩ :
                ∃ outcome count news next, (claimOccurrences limit now fuel
                    (.behind schedule (index + 1)) (result ++ claimed.toList)).run middle =
                  (outcome, next) ∧ ClaimsDue schedule now (index + 1) count middle news next ∧ _ := by
              refine ih (by omega) fun due next reached' => ?_
              have later := occurrence_lt valid found next (Nat.lt_succ_self _)
              rw [Int64.lt_iff_toInt_lt] at later
              rw [Int64.le_iff_toInt_le] at reached'
              omega
            rw [advance_behind narrow found]
            refine ⟨outcome, count + 1, claimed.toList ++ news, next, returns,
              .cons found reached first others, ?_⟩
            rw [← List.append_assoc, ← Nat.succ_add_eq_add_succ]
            exact ends
          · rw [advance_wide narrow]
            refine ⟨_, 1, claimed.toList, middle, rfl, ?_, .inr ⟨rfl, narrow⟩⟩
            have others := ClaimsDue.refl schedule now (index + 1) middle
            simpa using ClaimsDue.cons found reached first others
        · have early : ∀ due, schedule.trigger.occurrence index = some due → now < due := by
            rw [found]
            rintro due ⟨⟩
            rw [Int64.lt_iff_toInt_lt]
            rw [Int64.le_iff_toInt_le] at reached
            omega
          rw [nothing early]
          exact idle (.inr early)
    · next full => exact idle (.inl (Nat.le_of_not_lt full))

omit [SchedulerSerde] [Hashing] in
theorem advance_schedule {state moved : ScheduleState} (advances : state.advance instant = .ok moved) :
    moved.schedule = state.schedule := by
  rw [ScheduleState.advance] at advances
  split at advances
  · cases advances
    rfl
  · simp only [bind_eq_ok, exists_unit, pure_eq_ok] at advances
    obtain ⟨-, rfl⟩ := advances
    rfl
  · cases advances
  · cases advances

/-- What an interruption leaves of the claims of a schedule: a torn claim file, or some of them. -/
def ClaimsInterrupted (schedule : DependencySchedule) (now : Int64)
    (disk crashed : SchedulerDisk) : Prop :=
  TornClaim (crashed .executions) ∨ crashed .schedules = disk .schedules ∧
    ∃ news, RecordsNew (disk .executions) news (crashed .executions) ∧
      ∀ new ∈ news, ∃ instant, new = timeExecution schedule now instant

theorem ClaimsInterrupted.quiet (same : crashed = disk) : ClaimsInterrupted schedule now disk crashed :=
  same ▸ .inr ⟨rfl, [], .nil, nofun⟩

theorem ClaimsInterrupted.after (records : RecordsNew (disk .executions) news (middle .executions))
    (same : middle .schedules = disk .schedules)
    (made : ∀ new ∈ news, ∃ instant, new = timeExecution schedule now instant)
    (interrupted : ClaimsInterrupted schedule now middle crashed) :
    ClaimsInterrupted schedule now disk crashed := by
  rcases interrupted with torn | ⟨unchanged, more, others, madeLater⟩
  · exact .inl torn
  · refine .inr ⟨unchanged.trans same, _, records.append others, fun new member => ?_⟩
    exact (List.mem_append.mp member).elim (made new) (madeLater new)

/-- Claims that are interrupted have torn a claim file, or recorded some occurrences. -/
theorem claimOccurrences_crashes (lawful : LawfulScheduler) {state : ScheduleState}
    (crashes : (claimOccurrences limit now fuel state result).Crashes disk crashed) :
    ClaimsInterrupted state.schedule now disk crashed := by
  induction fuel generalizing state result disk with
  | zero => exact .quiet (Filing.crashes_ofExcept.mp crashes)
  | succ fuel ih =>
    rw [claimOccurrences] at crashes
    split at crashes
    · split at crashes
      · exact .quiet (Filing.crashes_pure.mp crashes)
      · next due _ =>
        rw [Filing.crashes_bind] at crashes
        rcases crashes with early | ⟨claimed, middle, claims, later⟩
        · rcases claim_crashes lawful claimedExecution_time early with torn | ⟨same, news, records, made⟩
          · exact .inl torn
          · exact .inr ⟨same, news, records, fun new member => ⟨due, made new member⟩⟩
        · -- The first occurrence is claimed, and the crash comes behind that.
          obtain ⟨claimed', middle', claims', first⟩ : ∃ claimed middle,
              (claim state.schedule "time" due now none).run disk = (.ok claimed, middle) ∧
                ClaimRun disk (timeExecution state.schedule now due) claimed middle :=
            claim_run lawful claimedExecution_time
          cases claims.symm.trans claims'
          have made : ∀ new ∈ claimed.toList, ∃ instant,
              new = timeExecution state.schedule now instant := by
            rcases first.handed with rfl | rfl
            · exact nofun
            · exact fun new member => ⟨due, List.mem_singleton.mp member⟩
          refine .after first.records first.schedules made ?_
          rw [Filing.crashes_bind] at later
          rcases later with advancing | ⟨moved, reached, advances, others⟩
          · exact .quiet (Filing.crashes_ofExcept.mp advancing)
          · rw [Filing.run_ofExcept] at advances
            obtain ⟨moves, rfl⟩ := Prod.mk.inj advances
            rw [← advance_schedule moves]
            exact ih others
    · exact .quiet (Filing.crashes_pure.mp crashes)

end Backlog

end AgentMod
