import AgentMod.Verified.Scheduler.Effects
import AgentMod.Scheduler.Runs

/-! Claiming the due occurrences succeeds while every stored interval is within the range of the clock. -/

namespace AgentMod

section Stored

variable [SchedulerSerde] [Hashing] {start disk next : SchedulerDisk} {request : SchedulerRequest}
  {answer : SchedulerAnswer} {news executions : List DependencyExecution} {limit : Nat} {now : Int64}
  {nonces : String → String} {name : String} {schedule held : DependencySchedule}
  {labels : List Scheduled}

theorem StoredIn.listed (stored : StoredIn disk name schedule) :
    name ∈ (disk .schedules).listing "json" := by
  obtain ⟨content, index, found, stores⟩ := stored
  refine Directory.mem_listing.mpr ⟨⟨content, found⟩, ?_⟩
  rw [stores.name]
  exact extension_scheduleFile (validateId_of_schedule stores.valid)

theorem StoredIn.unique (lawful : LawfulScheduler) (stored : StoredIn disk name schedule)
    (again : StoredIn disk name held) : schedule = held := by
  obtain ⟨content, index, found, stores⟩ := stored
  obtain ⟨other, position, here, storesHeld⟩ := again
  cases found.symm.trans here
  exact congrArg ScheduleState.schedule (encodeState_inj lawful stores.encodes storesHeld.encodes)

theorem FilesClaimed.storedIn (lawful : LawfulScheduler)
    (claimed : FilesClaimed limit now nonces ((disk .schedules).listing "json") disk [] news
      (.ok executions) next) (stored : StoredIn next name schedule) : StoredIn disk name schedule := by
  obtain ⟨content, index, found, stores⟩ := stored
  have kind : extension name = some "json" := by
    rw [stores.name]
    exact extension_scheduleFile (validateId_of_schedule stores.valid)
  have listed : name ∈ (disk .schedules).listing "json" := by
    refine Directory.mem_listing.mpr ⟨?_, kind⟩
    exact StringMap.contains_iff.mp
      ((claimed.present name kind).mp (StringMap.contains_iff.mpr ⟨content, found⟩))
  rcases claimed.returns with ⟨-, all⟩ | ⟨fails, -⟩
  · obtain ⟨before, held, position, count, isHeld, storesHeld, fileClaimed⟩ := all name listed
    obtain ⟨bytes, encodes, written⟩ := fileClaimed.moved
    rw [← storesHeld.name, found] at written
    cases written
    have same := congrArg ScheduleState.schedule (encodeState_inj lawful stores.encodes encodes)
    have same : schedule = held := same
    exact ⟨before, position, isHeld, same ▸ storesHeld⟩
  · cases fails

/-- No active schedule of a store has an interval beyond the range of the clock. -/
def NarrowStore (disk : SchedulerDisk) : Prop :=
  ∀ name schedule, StoredIn disk name schedule → schedule.active → schedule.trigger.Narrow

theorem FilesClaimed.ok_of_narrow
    {outcome : Fallible SchedulerDependencyError (List DependencyExecution)} {names : List String}
    (claimed : FilesClaimed limit now nonces names disk [] news outcome next)
    (narrow : NarrowStore disk) : outcome = .ok news := by
  rcases claimed.returns with ⟨returns, -⟩ | ⟨-, wide, -, content, schedule, index, found, stores, problem⟩
  · exact returns
  · exact absurd (narrow wide schedule ⟨content, index, found, stores⟩ problem.1) problem.2

/-- Requests that store no wide interval keep all stored intervals within the range of the clock. -/
theorem Effect.narrow (lawful : LawfulScheduler) (effect : Effect disk request answer news next)
    (isNarrow : StoresNarrow (request, answer)) (narrow : NarrowStore disk) : NarrowStore next := by
  intro name schedule stored active
  cases effect with
  | quiet _ => exact narrow name schedule stored active
  | @stored upserted nonce bytes _ valid encodes wrote =>
    have validId := validateId_of_schedule valid
    obtain ⟨content, index, found, stores⟩ := stored
    have kind : extension name = some "json" := by
      rw [stores.name]
      exact extension_scheduleFile (validateId_of_schedule stores.valid)
    rw [wrote.other (by rw [kind]; decide)] at found
    split at found
    · cases found
      have same := congrArg ScheduleState.schedule (encodeState_inj lawful stores.encodes encodes)
      have same : schedule = upserted := same
      exact same ▸ isNarrow (same ▸ active)
    · exact narrow name schedule ⟨content, index, found, stores⟩ active
  | removed _ isRemoved =>
    subst isRemoved
    obtain ⟨content, index, found, stores⟩ := stored
    rw [remove_at] at found
    split at found
    · cases found
    · exact narrow name schedule ⟨content, index, found, stores⟩ active
  | claimed _ claimed =>
    have returns := claimed.ok_of_narrow narrow
    subst returns
    exact narrow name schedule (claimed.storedIn lawful stored) active
  | fired _ _ _ _ claimed =>
    rw [StoredIn, claimed.unchanged] at stored
    exact narrow name schedule stored active
  | marked same _ _ =>
    rw [StoredIn, same] at stored
    exact narrow name schedule stored active

theorem sound_of_run (lawful : LawfulScheduler) (sound : Sound start)
    (run : Run Schedules start labels disk) : Sound disk := by
  refine run.invariant sound fun disk scheduled next schedules sound => ?_
  obtain ⟨news, effect⟩ := serve_effect lawful sound schedules.1 schedules.2
  exact effect.sound sound

theorem sound_empty : Sound emptySchedulerDisk where
  schedules name content found := by
    cases (emptySchedulerDisk_at _ _).symm.trans found
  unbacked backup content found := by
    cases (emptySchedulerDisk_at _ _).symm.trans found
  executions name content found := by
    cases (emptySchedulerDisk_at _ _).symm.trans found
  markers executionId both := by
    obtain ⟨content, found⟩ := StringMap.contains_iff.mp both.1
    cases (emptySchedulerDisk_at _ _).symm.trans found

theorem narrow_of_run (lawful : LawfulScheduler)
    (run : Run (fun disk scheduled next => Schedules disk scheduled next ∧ StoresNarrow scheduled)
      emptySchedulerDisk labels disk) : Sound disk ∧ NarrowStore disk := by
  have initially : NarrowStore emptySchedulerDisk := by
    rintro name schedule ⟨content, index, found, -⟩
    cases (emptySchedulerDisk_at _ _).symm.trans found
  have preserved : ∀ disk (scheduled : Scheduled) next,
      Schedules disk scheduled next ∧ StoresNarrow scheduled → Sound disk ∧ NarrowStore disk →
        Sound next ∧ NarrowStore next := by
    rintro disk scheduled next ⟨⟨fresh, serves⟩, isNarrow⟩ ⟨sound, narrow⟩
    obtain ⟨news, effect⟩ := serve_effect lawful sound fresh serves
    exact ⟨effect.sound sound, effect.narrow lawful isNarrow narrow⟩
  exact run.invariant ⟨sound_empty, initially⟩ preserved

omit [SchedulerSerde] [Hashing] in
theorem nowMillis_eq_ok {reading : Option Nat} : nowMillis reading = .ok now ↔
    ∃ millis, reading = some millis ∧ millis < 2 ^ 63 ∧ .ofNat millis = now := by
  simp only [nowMillis, bind_eq_ok, exists_unit, okOr_eq_ok, refuseIf_eq_ok, pure_eq_ok, Nat.not_le]

/-- In every store that requests lead to which store no active interval beyond the range of the clock,
claiming the due occurrences succeeds, and hands out every occurrence that it records. -/
theorem claim_due_available (lawful : LawfulScheduler)
    (run : Run (fun disk scheduled next => Schedules disk scheduled next ∧ StoresNarrow scheduled)
      emptySchedulerDisk labels disk) {millis : Nat} (inRange : millis < 2 ^ 63)
    (fresh : ∀ path, FreshNonce disk (nonces path)) : ∃ claims next,
      serveScheduler (.claimDue limit (some millis) nonces) disk = (.claimed claims, next) ∧
      ∀ name content, extension name = some "json" → (next .executions)[name]? = some content →
        (disk .executions)[name]? = some content ∨ ∃ execution ∈ claims,
          name = executionFile execution.executionId ∧ encodeExecution execution = .ok content := by
  obtain ⟨sound, narrow⟩ := narrow_of_run lawful run
  have clock : nowMillis (some millis) = .ok (.ofNat millis) :=
    nowMillis_eq_ok.mpr ⟨millis, rfl, inRange, rfl⟩
  obtain ⟨outcome, news, next, runs, claimed⟩ : ∃ outcome news next,
      (claimDue limit (some millis) nonces).run disk = (outcome, next) ∧
      FilesClaimed limit (.ofNat millis) nonces ((disk .schedules).listing "json") disk [] news outcome
        next := claimDue_run lawful sound fresh clock
  refine ⟨news, next, ?_, fun name content _ found => claimed.records.origin found⟩
  rw [serveScheduler, runs, claimed.ok_of_narrow narrow]
  rfl

/-- A due schedule whose interval is too wide blocks the claims: its occurrence is recorded, and nothing
is handed out. -/
theorem claim_due_blocked (lawful : LawfulScheduler) {reading : Option Nat} {content : List UInt8}
    {index : Nat} {instant : Int64} {rest : List String} (clock : nowMillis reading = .ok now)
    (first : (disk .schedules).listing "json" = name :: rest)
    (found : (disk .schedules)[name]? = some content)
    (stores : StoresSchedule name content schedule index) (active : schedule.active)
    (wide : ¬ schedule.trigger.Narrow) (due : schedule.trigger.occurrence index = some instant)
    (reached : instant ≤ now) (some_ : 0 < limit) : ∃ next,
      serveScheduler (.claimDue limit reading nonces) disk = (.rejected (.error .invalid), next) ∧
      (next .executions).contains (timeFile schedule.scheduleId instant) := by
  obtain ⟨claimed, next, claims, first_⟩ : ∃ claimed next,
      (claim schedule "time" instant now none).run disk = (.ok claimed, next) ∧
        ClaimRun disk (timeExecution schedule now instant) claimed next :=
    claim_run lawful claimedExecution_time
  have claims : (claim (ScheduleState.behind schedule index).schedule "time" instant now none).run
      disk = (.ok claimed, next) := claims
  have isDue : (ScheduleState.behind schedule index).nextDueMs = some instant := due
  have loads : (loadState name).run disk = (.ok (.behind schedule index), disk) := by
    rw [Filing.run, loadState_apply lawful found stores.encodes, applySteps_nil]
  have taken : ¬ (¬ (ScheduleState.behind schedule index).schedule.active ∨
      (ScheduleState.behind schedule index).completed) := by
    rintro (idle | completed)
    · exact idle active
    · rw [ScheduleState.behind] at completed
      cases triggered : schedule.trigger with
      | interval _ _ =>
        rw [triggered] at completed
        cases completed
      | atMillis _ | runtimeEvent _ | processOutput _ _ =>
        rw [triggered] at wide
        exact wide trivial
  have stops : (claimOccurrences limit now ((ScheduleState.behind schedule index).backlog now)
      (.behind schedule index) []).run disk = (reject .invalid, next) := by
    rw [ScheduleState.backlog, isDue]
    dsimp only
    rw [claimOccurrences, List.length_nil, if_pos some_, isDue, Option.filter_some,
      decide_eq_true reached, if_pos rfl]
    dsimp only
    rw [Filing.run_bind, claims]
    dsimp only
    rw [Filing.run_bind, Filing.run_ofExcept, advance_wide wide]
    rfl
  refine ⟨next, ?_, first_.recorded⟩
  rw [serveScheduler, claimDue, Filing.run_bind, Filing.run_ofExcept, clock]
  dsimp only
  rw [Filing.run_read_bind, first, claimFiles, List.length_nil, if_neg (Nat.not_le.mpr some_),
    Filing.run_bind, loads]
  dsimp only
  rw [if_neg taken, Filing.run_bind, stops]
  rfl

end Stored

section Sample

attribute [local instance] prefixHash segmentedScheduler

theorem lawful_segmentedScheduler : LawfulScheduler where
  states _ := ⟨_, rfl⟩
  schedules _ := ⟨_, rfl⟩
  readsSchedule _ _ prints := scheduleCodec.reads prints
  records _ := ⟨_, rfl⟩
  executions _ := ⟨_, rfl⟩
  readsExecution _ _ prints := executionCodec.reads prints
  torn _ _ _ prints front proper := executionCodec.torn prints front proper

theorem freshNonce_empty {nonce : String} (undotted : '.' ∉ nonce.toList) :
    FreshNonce emptySchedulerDisk nonce where
  undotted := undotted
  temporary _ := emptySchedulerDisk_at _ _
  backup _ := emptySchedulerDisk_at _ _

theorem listing_of_single {directory : Directory} {name kind : String} {content : List UInt8}
    (single : ∀ other, extension other = some kind →
      directory[other]? = if other = name then some content else none)
    (isKind : extension name = some kind) : directory.listing kind = [name] := by
  have mem : ∀ other, other ∈ directory.listing kind ↔ other = name := by
    intro other
    rw [Directory.mem_listing]
    constructor
    · rintro ⟨⟨held, here⟩, otherKind⟩
      rw [single other otherKind] at here
      split at here
      · assumption
      · cases here
    · rintro rfl
      exact ⟨⟨content, by rw [single _ isKind, if_pos rfl]⟩, isKind⟩
  refine List.perm_singleton.mp ((List.perm_ext_iff_of_nodup Directory.nodup_listing
    (List.nodup_singleton name)).mpr fun other => ?_)
  rw [mem, List.mem_singleton]

theorem listing_of_written {name nonce : String} {bytes : List UInt8} {written : SchedulerDisk}
    (wrote : Written emptySchedulerDisk name nonce bytes written) (kind : extension name = some "json") :
    (written .schedules).listing "json" = [name] := by
  have single : ∀ other, extension other = some "json" →
      (written .schedules)[other]? = if other = name then some bytes else none := by
    intro other isSchedule
    rw [wrote.other (by rw [isSchedule]; decide), emptySchedulerDisk_at]
  exact listing_of_single single kind

theorem store_sampleSchedule {trigger : DependencyTrigger}
    (valid : validateDependencySchedule (sampleSchedule trigger) = .ok ()) : ∃ bytes stored,
      Schedules emptySchedulerDisk (.upsert (sampleSchedule trigger) "1", .stored ⟨"s", false⟩) stored ∧
      encodeState (.behind (sampleSchedule trigger) 0) = .ok bytes ∧
      Written emptySchedulerDisk (scheduleFile "s") "1" bytes stored ∧ FreshNonce stored "2" := by
  have fresh : FreshNonce emptySchedulerDisk "1" := freshNonce_empty (by decide)
  have other : FreshNonce emptySchedulerDisk "2" := freshNonce_empty (by decide)
  obtain ⟨bytes, stored, stores, encodes, wrote⟩ :=
    upsert_new lawful_segmentedScheduler sound_empty valid fresh (emptySchedulerDisk_at _ _)
  exact ⟨bytes, stored, ⟨fresh, stores⟩, encodes, wrote,
    other.written wrote (extension_scheduleFile (validateId_of_schedule valid))⟩

/-- The due occurrence of the sample's schedule is handed out. -/
theorem claim_due_available_sample : ∃ stored claims next,
    Schedules emptySchedulerDisk (.upsert (sampleSchedule (.interval 0 5)) "1", .stored ⟨"s", false⟩)
      stored ∧
    serveScheduler (.claimDue 10 (some 7) fun _ => "2") stored = (.claimed claims, next) ∧
    ∀ name content, extension name = some "json" → (next .executions)[name]? = some content →
      (stored .executions)[name]? = some content ∨ ∃ execution ∈ claims,
        name = executionFile execution.executionId ∧ encodeExecution execution = .ok content := by
  have valid : validateDependencySchedule (sampleSchedule (.interval 0 5)) = .ok () := by
    decide
  obtain ⟨bytes, stored, stores, encodes, wrote, fresh⟩ := store_sampleSchedule valid
  have narrow : StoresNarrow
      (.upsert (sampleSchedule (.interval 0 5)) "1", .stored ⟨"s", false⟩) := fun _ =>
    show (5 : UInt64).toNat < 2 ^ 63 by decide
  obtain ⟨claims, next, serves, complete⟩ := claim_due_available lawful_segmentedScheduler
    (Run.nil.snoc ⟨stores, narrow⟩) (show 7 < 2 ^ 63 by decide) fun _ => fresh
  exact ⟨stored, claims, next, stores, serves, complete⟩

/-- A schedule whose interval is too wide is accepted; when it is due, its occurrence is recorded, but
claiming the due occurrences fails. -/
theorem not_claim_due_available : ∃ stored next,
    Run Schedules emptySchedulerDisk
      [(.upsert (sampleSchedule (.interval 0 9223372036854775808)) "1", .stored ⟨"s", false⟩)] stored ∧
    (∀ _ : String, FreshNonce stored "2") ∧
    serveScheduler (.claimDue 10 (some 7) fun _ => "2") stored =
      (.rejected (.error .invalid), next) ∧
    (next .executions).contains (timeFile "s" 0) := by
  have valid : validateDependencySchedule (sampleSchedule (.interval 0 9223372036854775808)) = .ok () := by
    decide
  obtain ⟨bytes, stored, stores, encodes, wrote, fresh⟩ := store_sampleSchedule valid
  have kind : extension (scheduleFile "s") = some "json" :=
    extension_scheduleFile (validateId_of_schedule valid)
  have found : (stored .schedules)[scheduleFile "s"]? = some bytes := by
    rw [wrote.other (by rw [kind]; decide), if_pos rfl]
  have clock : nowMillis (some 7) = .ok (.ofNat 7) :=
    nowMillis_eq_ok.mpr ⟨7, rfl, by decide, rfl⟩
  have wide : ¬ (DependencyTrigger.interval 0 9223372036854775808).Narrow :=
    show ¬ ((9223372036854775808 : UInt64).toNat < 2 ^ 63) by decide
  have due : (DependencyTrigger.interval 0 9223372036854775808).occurrence 0 = some 0 := by decide
  obtain ⟨next, serves, recorded⟩ := claim_due_blocked lawful_segmentedScheduler clock
    (listing_of_written wrote kind) found
    ⟨encodes, valid, rfl⟩ rfl wide due (by decide) (show 0 < 10 by decide)
  exact ⟨stored, next, Run.nil.snoc stores, fun _ => fresh, serves, recorded⟩

end Sample

end AgentMod
