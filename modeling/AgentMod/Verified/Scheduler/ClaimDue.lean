import AgentMod.Verified.Scheduler.Store

/-! What each request makes of a sound store, and what a call that claims all due occurrences does. -/

namespace AgentMod

section ClaimDue

variable [SchedulerSerde] [Hashing] {disk middle next crashed : SchedulerDisk} {limit total index : Nat}
  {now : Int64} {nonces : String → String} {names : List String} {name : String}
  {result news : List DependencyExecution} {schedule : DependencySchedule} {content : List UInt8}

/-- What a call claims of one schedule: it moves on behind its next occurrences, which are due and
recorded afterwards; those that were not recorded before are handed out in order; and if it is active,
it moves on as far as it is due, unless the limit is reached. -/
structure FileClaimed (limit : Nat) (now : Int64) (schedule : DependencySchedule) (index : Nat)
    (news : List DependencyExecution) (total : Nat) (next : SchedulerDisk) (count : Nat) : Prop where
  moved : ∃ bytes, encodeState (.behind schedule (index + count)) = .ok bytes ∧
    (next .schedules)[scheduleFile schedule.scheduleId]? = some bytes
  due : ∀ offset < count, ∃ instant, schedule.trigger.occurrence (index + offset) = some instant ∧
    instant ≤ now ∧ (next .executions).contains (timeFile schedule.scheduleId instant)
  handed : ∃ instants : List Int64, instants.Sublist (instantsFrom schedule index count) ∧
    news.filter (·.schedule.scheduleId = schedule.scheduleId) =
      instants.map (timeExecution schedule now)
  complete : schedule.active → limit ≤ total ∨
    ∀ due, schedule.trigger.occurrence (index + count) = some due → now < due

/-- What a call leads to that claims the due occurrences of some schedules. -/
structure FilesClaimed (limit : Nat) (now : Int64) (nonces : String → String) (names : List String)
    (disk : SchedulerDisk) (result news : List DependencyExecution)
    (outcome : Fallible SchedulerDependencyError (List DependencyExecution))
    (next : SchedulerDisk) : Prop where
  sound : Sound next
  fresh : ∀ path, FreshNonce next (nonces path)
  records : RecordsNew (disk .executions) news (next .executions)
  named : ∀ new ∈ news, ∃ schedule instant, new = timeExecution schedule now instant ∧
    new.SelfNamed ∧ scheduleFile schedule.scheduleId ∈ names
  others : ∀ other, extension other = some "json" → other ∉ names →
    (next .schedules)[other]? = (disk .schedules)[other]?
  present : ∀ other, extension other = some "json" →
    ((next .schedules).contains other ↔ (disk .schedules).contains other)
  returns : outcome = .ok (result ++ news) ∧ (∀ name ∈ names, ∃ content schedule index count,
      (disk .schedules)[name]? = some content ∧ StoresSchedule name content schedule index ∧
        FileClaimed limit now schedule index news (result ++ news).length next count) ∨
    outcome = reject .invalid ∧ ∃ name ∈ names, ∃ content schedule index,
      (disk .schedules)[name]? = some content ∧ StoresSchedule name content schedule index ∧
        schedule.active ∧ ¬ schedule.trigger.Narrow

/-- A schedule that does not move on is claimed as far as it is due where nothing of it is due, or the
limit is reached. -/
theorem FileClaimed.idle (stores : StoresSchedule name content schedule index)
    (found : (next .schedules)[name]? = some content)
    (none_ : ∀ new ∈ news, new.schedule.scheduleId ≠ schedule.scheduleId)
    (complete : schedule.active → limit ≤ total ∨
      ∀ due, schedule.trigger.occurrence index = some due → now < due) :
    FileClaimed limit now schedule index news total next 0 where
  moved := ⟨content, stores.encodes, stores.name ▸ found⟩
  due _ below := absurd below (Nat.not_lt_zero _)
  handed := by
    refine ⟨[], List.nil_sublist _, List.filter_eq_nil_iff.mpr fun new member => ?_⟩
    rw [decide_eq_true_iff]
    exact none_ new member
  complete := complete

omit [SchedulerSerde] [Hashing] in
theorem complete_of_skipped
    (skipped : ¬ (ScheduleState.behind schedule index).schedule.active ∨
      (ScheduleState.behind schedule index).completed) (active : schedule.active) (due : Int64) :
    schedule.trigger.occurrence index ≠ some due := by
  have completed := skipped.resolve_left (not_not.mpr active)
  rw [ScheduleState.behind] at completed
  cases triggered : schedule.trigger with
  | atMillis value =>
    rw [triggered] at completed
    cases index with
    | zero => exact absurd (of_decide_eq_true completed) (Nat.lt_irrefl 0)
    | succ index => simp [DependencyTrigger.occurrence]
  | interval _ _ | runtimeEvent _ | processOutput _ _ =>
    rw [triggered] at completed
    exact absurd completed Bool.false_ne_true

theorem FilesClaimed.skip {outcome : Fallible SchedulerDependencyError (List DependencyExecution)}
    (claimed : FilesClaimed limit now nonces names disk result news outcome next)
    (kind : extension name = some "json") (found : (disk .schedules)[name]? = some content)
    (stores : StoresSchedule name content schedule index) (absent : name ∉ names)
    (complete : schedule.active → limit ≤ (result ++ news).length ∨
      ∀ due, schedule.trigger.occurrence index = some due → now < due) :
    FilesClaimed limit now nonces (name :: names) disk result news outcome next where
  sound := claimed.sound
  fresh := claimed.fresh
  records := claimed.records
  named new member := by
    obtain ⟨stored, instant, made, named, listed⟩ := claimed.named new member
    exact ⟨stored, instant, made, named, List.mem_cons_of_mem name listed⟩
  others other otherKind missing :=
    claimed.others other otherKind fun later => missing (List.mem_cons_of_mem name later)
  present := claimed.present
  returns := by
    rcases claimed.returns with ⟨returns, all⟩ | ⟨fails, wide, member, problem⟩
    · refine .inl ⟨returns, List.forall_mem_cons.mpr ⟨?_, all⟩⟩
      have here : (next .schedules)[name]? = some content :=
        (claimed.others name kind absent).trans found
      refine ⟨content, schedule, index, 0, found, stores, .idle stores here ?_ complete⟩
      intro new member same
      obtain ⟨stored, instant, rfl, -, listed⟩ := claimed.named new member
      have sameFile : scheduleFile stored.scheduleId = name := by
        rw [stores.name]
        exact congrArg scheduleFile same
      exact absent (sameFile ▸ listed)
    · exact .inr ⟨fails, wide, List.mem_cons_of_mem name member, problem⟩

/-- A file whose schedule is claimed and moved on is claimed with the others. -/
theorem FilesClaimed.step {outcome : Fallible SchedulerDependencyError (List DependencyExecution)}
    {written : SchedulerDisk} {bytes : List UInt8} {head : List DependencyExecution} {count : Nat}
    {nonce : String} (kind : extension name = some "json")
    (found : (disk .schedules)[name]? = some content)
    (stores : StoresSchedule name content schedule index)
    (claims : ClaimsDue schedule now index count disk head middle)
    (writes : Written middle name nonce bytes written)
    (encodes : encodeState (.behind schedule (index + count)) = .ok bytes)
    (ends : limit ≤ (result ++ head).length ∨
      ∀ due, schedule.trigger.occurrence (index + count) = some due → now < due)
    (absent : name ∉ names)
    (claimed : FilesClaimed limit now nonces names written (result ++ head) news outcome next) :
    FilesClaimed limit now nonces (name :: names) disk result (head ++ news) outcome next := by
  have kept : ∀ other, extension other = some "json" → other ≠ name →
      (written .schedules)[other]? = (disk .schedules)[other]? := by
    intro other otherKind differs
    rw [writes.other (by rw [otherKind]; decide), if_neg differs, claims.schedules]
  have here : (written .schedules)[name]? = some bytes := by
    rw [writes.other (by rw [kind]; decide), if_pos rfl]
  have records : RecordsNew (disk .executions) head (written .executions) := by
    rw [writes.executions]
    exact claims.records
  obtain ⟨instants, sublist, made⟩ := claims.ordered
  -- What was claimed of this schedule is of this schedule, and the rest is not.
  have own : ∀ new ∈ head, new.schedule = schedule := by
    rw [made, List.forall_mem_map]
    exact fun _ _ => rfl
  have foreign : ∀ new ∈ news, new.schedule.scheduleId ≠ schedule.scheduleId := by
    intro new member same
    obtain ⟨stored, instant, rfl, -, listed⟩ := claimed.named new member
    have sameFile : scheduleFile stored.scheduleId = name := by
      rw [stores.name]
      exact congrArg scheduleFile same
    exact absent (sameFile ▸ listed)
  refine ⟨claimed.sound, claimed.fresh, records.append claimed.records, ?_, ?_, ?_, ?_⟩
  · intro new member
    rcases List.mem_append.mp member with early | late
    · rw [made] at early
      obtain ⟨instant, -, rfl⟩ := List.mem_map.mp early
      exact ⟨schedule, instant, rfl, selfNamed_timeExecution stores.valid,
        stores.name ▸ List.mem_cons_self⟩
    · obtain ⟨stored, instant, same, named, listed⟩ := claimed.named new late
      exact ⟨stored, instant, same, named, List.mem_cons_of_mem name listed⟩
  · intro other otherKind missing
    rw [List.mem_cons, not_or] at missing
    rw [claimed.others other otherKind missing.2, kept other otherKind missing.1]
  · intro other otherKind
    rw [claimed.present other otherKind, StringMap.contains_iff, StringMap.contains_iff]
    by_cases same : other = name
    · rw [same, here, found]
      simp
    · rw [kept other otherKind same]
  · rcases claimed.returns with ⟨returns, all⟩ | ⟨fails, wide, member, held, stored, offset, problem⟩
    · rw [List.append_assoc] at returns all
      refine .inl ⟨returns, List.forall_mem_cons.mpr ⟨?_, fun other member => ?_⟩⟩
      · refine ⟨content, schedule, index, count, found, stores, ?_, ?_, ?_, ?_⟩
        · exact ⟨bytes, encodes, by
            rw [← stores.name, claimed.others name kind absent, here]⟩
        · intro offset below
          obtain ⟨instant, due, reached, recorded⟩ := claims.due offset below
          rw [← writes.executions] at recorded
          exact ⟨instant, due, reached, claimed.records.contains recorded⟩
        · refine ⟨instants, sublist, ?_⟩
          rw [List.filter_append, List.filter_eq_self.mpr, List.filter_eq_nil_iff.mpr,
            List.append_nil, made]
          · simpa using foreign
          · intro new member
            rw [decide_eq_true_iff, own new member]
        · intro _
          refine ends.imp_left fun full => full.trans ?_
          simp only [List.length_append]
          omega
      · obtain ⟨held, stored, offset, more, isHeld, storesOther, fileClaimed⟩ := all other member
        have otherKind : extension other = some "json" := by
          rw [storesOther.name]
          exact extension_scheduleFile (validateId_of_schedule storesOther.valid)
        have differs : other ≠ name := fun same => absent (same ▸ member)
        refine ⟨held, stored, offset, more, kept other otherKind differs ▸ isHeld, storesOther,
          fileClaimed.moved, fileClaimed.due, ?_, fileClaimed.complete⟩
        obtain ⟨theirs, isSublist, filtered⟩ := fileClaimed.handed
        refine ⟨theirs, isSublist, ?_⟩
        rw [List.filter_append, List.filter_eq_nil_iff.mpr, List.nil_append, filtered]
        intro new isOwn same
        rw [decide_eq_true_iff, own new isOwn] at same
        exact differs (by rw [storesOther.name, stores.name, same])
    · have otherKind : extension wide = some "json" := by
        rw [problem.2.1.name]
        exact extension_scheduleFile (validateId_of_schedule problem.2.1.valid)
      have differs : wide ≠ name := fun same => absent (same ▸ member)
      exact .inr ⟨fails, wide, List.mem_cons_of_mem name member, held, stored, offset,
        kept wide otherKind differs ▸ problem.1, problem.2⟩

variable (lawful : LawfulScheduler)
include lawful

/-- The due occurrences of a stored schedule are claimed in a sound store, which stays sound; and the
schedule can then be stored behind them. -/
theorem claimBacklog_run (sound : Sound disk)
    (holds : HoldsSchedule (disk .executions) name content schedule index) :
    ∃ outcome count head middle,
      (claimOccurrences limit now ((ScheduleState.behind schedule index).backlog now)
        (.behind schedule index) result).run disk = (outcome, middle) ∧
      ClaimsDue schedule now index count disk head middle ∧
      ((outcome = .ok (.behind schedule (index + count), result ++ head) ∧
          (limit ≤ (result ++ head).length ∨
            ∀ due, schedule.trigger.occurrence (index + count) = some due → now < due)) ∨
        (outcome = reject .invalid ∧ ¬ schedule.trigger.Narrow)) ∧
      Sound middle ∧ ∀ bytes, encodeState (.behind schedule (index + count)) = .ok bytes →
        HoldsSchedule (middle .executions) name bytes schedule (index + count) := by
  have stores := holds.toStoresSchedule
  have enough : ∀ due, schedule.trigger.occurrence index = some due → due ≤ now →
      (now.toInt - due.toInt).toNat + 2 ≤ (ScheduleState.behind schedule index).backlog now := by
    intro due isDue _
    have next : (ScheduleState.behind schedule index).nextDueMs = some due := isDue
    rw [ScheduleState.backlog, next]
  have one : 1 ≤ (ScheduleState.behind schedule index).backlog now := by
    rw [ScheduleState.backlog]
    split <;> omega
  obtain ⟨outcome, count, head, middle, runs, claims, ends⟩ : ∃ outcome count head middle,
      (claimOccurrences limit now ((ScheduleState.behind schedule index).backlog now)
        (.behind schedule index) result).run disk = (outcome, middle) ∧
      ClaimsDue schedule now index count disk head middle ∧ _ :=
    claimOccurrences_run lawful stores.valid one enough
  have named : ∀ new ∈ head, new.SelfNamed := by
    obtain ⟨instants, -, made⟩ := claims.ordered
    rw [made, List.forall_mem_map]
    exact fun _ _ => selfNamed_timeExecution stores.valid
  refine ⟨outcome, count, head, middle, runs, claims, ends,
    sound.recorded claims.records claims.schedules named, fun bytes encodes => ?_⟩
  refine ⟨⟨encodes, stores.valid, stores.name⟩, fun earlier below instant isDue => ?_⟩
  by_cases before : earlier < index
  · exact claims.records.contains (holds.claimed earlier before instant isDue)
  · obtain ⟨offset, rfl⟩ := Nat.exists_eq_add_of_le (Nat.le_of_not_lt before)
    obtain ⟨other, same, -, recorded⟩ := claims.due offset (by omega)
    cases isDue.symm.trans same
    exact recorded

/-- The schedules in some files are claimed one behind the other. -/
theorem claimFiles_run (sound : Sound disk) (fresh : ∀ path, FreshNonce disk (nonces path))
    (listed : ∀ name ∈ names, extension name = some "json" ∧
      ∃ content, (disk .schedules)[name]? = some content) (distinct : names.Nodup) :
    ∃ outcome news next, (claimFiles limit now nonces names result).run disk = (outcome, next) ∧
      FilesClaimed limit now nonces names disk result news outcome next := by
  induction names generalizing disk result with
  | nil =>
    refine ⟨.ok result, [], disk, rfl, sound, fresh, .nil, nofun, fun _ _ _ => rfl,
      fun _ _ => Iff.rfl, .inl ⟨by rw [List.append_nil], nofun⟩⟩
  | cons name rest ih =>
    obtain ⟨kind, content, found⟩ := listed name List.mem_cons_self
    obtain ⟨absent, distinct⟩ := List.nodup_cons.mp distinct
    obtain ⟨schedule, index, holds⟩ := sound.schedules name content found kind
    have stores := holds.toStoresSchedule
    rw [claimFiles]
    split
    · next full =>
      refine ⟨.ok result, [], disk, rfl, sound, fresh, .nil, nofun, fun _ _ _ => rfl,
        fun _ _ => Iff.rfl, .inl ⟨by rw [List.append_nil], fun other member => ?_⟩⟩
      obtain ⟨otherKind, held, here⟩ := listed other member
      obtain ⟨stored, offset, holdsOther⟩ := sound.schedules other held here otherKind
      refine ⟨held, stored, offset, 0, here, holdsOther.toStoresSchedule, ?_⟩
      exact .idle holdsOther.toStoresSchedule here nofun fun _ => .inl (by rwa [List.append_nil])
    · next below =>
      have loads := loadState_apply lawful found stores.encodes
      have loads' : (loadState name).run disk = (.ok (.behind schedule index), disk) := by
        rw [Filing.run, loads, applySteps_nil]
      rw [Filing.run_bind, loads']
      dsimp only
      have listedRest := fun other member => listed other (List.mem_cons_of_mem name member)
      split
      · next skipped =>
        obtain ⟨outcome, news, next, runs, claimed⟩ : ∃ outcome news next,
            (claimFiles limit now nonces rest result).run disk = (outcome, next) ∧
              FilesClaimed limit now nonces rest disk result news outcome next :=
          ih sound fresh listedRest distinct
        refine ⟨outcome, news, next, runs, claimed.skip kind found stores absent fun active => ?_⟩
        exact .inr fun due isDue => absurd isDue (complete_of_skipped skipped active due)
      · next taken =>
        obtain ⟨outcome, count, head, middle, runs, claims, ends, soundMiddle, movesOn⟩ :
            ∃ outcome count head middle,
              (claimOccurrences limit now ((ScheduleState.behind schedule index).backlog now)
                (.behind schedule index) result).run disk = (outcome, middle) ∧
              ClaimsDue schedule now index count disk head middle ∧ _ ∧ Sound middle ∧ _ :=
          claimBacklog_run lawful sound holds
        have freshMiddle := fun path => (fresh path).of_schedules claims.schedules
        rw [Filing.run_bind, runs]
        rcases ends with ⟨rfl, stop⟩ | ⟨rfl, wide⟩
        · obtain ⟨bytes, encodes⟩ := encodeState_isOk lawful (.behind schedule (index + count))
          obtain ⟨written, writes, wrote⟩ := writeState_run encodes ((freshMiddle name).writable kind)
          have stillListed : ∀ other ∈ rest, extension other = some "json" ∧
              ∃ content, (written .schedules)[other]? = some content := by
            intro other member
            obtain ⟨otherKind, held, here⟩ := listedRest other member
            have differs : other ≠ name := fun same => absent (same ▸ member)
            rw [wrote.other (by rw [otherKind]; decide), if_neg differs, claims.schedules]
            exact ⟨otherKind, held, here⟩
          obtain ⟨outcome, news, next, finishes, claimed⟩ : ∃ outcome news next,
              (claimFiles limit now nonces rest (result ++ head)).run written = (outcome, next) ∧
                FilesClaimed limit now nonces rest written (result ++ head) news outcome next :=
            ih (soundMiddle.written wrote (movesOn bytes encodes))
              (fun path => (freshMiddle path).written wrote kind) stillListed distinct
          refine ⟨outcome, head ++ news, next, ?_,
            claimed.step kind found stores claims wrote encodes stop absent⟩
          dsimp only
          rw [Filing.run_bind, writes]
          exact finishes
        · refine ⟨_, head, middle, rfl, soundMiddle, freshMiddle, claims.records, ?_, ?_, ?_, .inr
            ⟨rfl, name, List.mem_cons_self, content, schedule, index, found, stores,
              of_not_not fun idle => taken (.inl idle), wide⟩⟩
          · obtain ⟨instants, -, made⟩ := claims.ordered
            rw [made, List.forall_mem_map]
            intro instant _
            exact ⟨schedule, instant, rfl, selfNamed_timeExecution stores.valid,
              stores.name ▸ List.mem_cons_self⟩
          · exact fun _ _ _ => by rw [claims.schedules]
          · exact fun _ _ => by rw [claims.schedules]

end ClaimDue

section Requests

variable [SchedulerSerde] [Hashing] {disk next : SchedulerDisk} {names : List String} {name : String}
  {schedules : List DependencySchedule} {schedule : DependencySchedule} {content : List UInt8}
  {index limit : Nat} {news : List DependencyExecution} {sourceId session : String} {now : Int64}
  {observation : DependencyObservation} {predicate : DependencyTrigger → Bool}

theorem loadSchedules_apply (lawful : LawfulScheduler) (sound : Sound disk)
    (listed : ∀ name ∈ names, extension name = some "json" ∧
      ∃ content, (disk .schedules)[name]? = some content) :
    ∃ schedules, loadSchedules names disk = (.ok schedules, []) ∧
      List.Forall₂ (StoredIn disk) names schedules := by
  induction names with
  | nil => exact ⟨[], rfl, .nil⟩
  | cons name rest ih =>
    obtain ⟨kind, content, found⟩ := listed name List.mem_cons_self
    obtain ⟨schedule, index, holds⟩ := sound.schedules name content found kind
    have stores := holds.toStoresSchedule
    obtain ⟨others, loads, all⟩ := ih fun other member => listed other (List.mem_cons_of_mem _ member)
    refine ⟨schedule :: others, ?_, .cons ⟨content, index, found, stores⟩ all⟩
    rw [loadSchedules, Filing.bind_apply_of_quiet (loadState_apply lawful found stores.encodes),
      Filing.onOk_ok, Filing.bind_apply_of_quiet loads]
    rfl

theorem listUnlocked_apply (lawful : LawfulScheduler) (sound : Sound disk) (limit : Nat) :
    ∃ schedules, listUnlocked limit disk = (.ok schedules, []) ∧
      List.Forall₂ (StoredIn disk) (((disk .schedules).listing "json").take limit) schedules := by
  rw [listUnlocked, Filing.read_bind_apply]
  refine loadSchedules_apply lawful sound fun name member => ?_
  obtain ⟨found, kind⟩ := Directory.mem_listing.mp (List.mem_of_mem_take member)
  exact ⟨kind, found⟩

/-- A schedule that an observation matches. -/
def Matches (session : String) (predicate : DependencyTrigger → Bool) (schedule : DependencySchedule) :
    Bool :=
  schedule.active && schedule.sessionId == session && predicate schedule.trigger

/-- The claim of an observed occurrence of a schedule. -/
def eventExecution (sourceId : String) (now : Int64) (observation : DependencyObservation)
    (schedule : DependencySchedule) : DependencyExecution :=
  claimedExecution schedule sourceId now now (some observation)

/-- What the claims of an observation do: the occurrences of all schedules that match are recorded
afterwards, and those that were not recorded before are handed out in order. -/
structure MatchesClaimed (sourceId session : String) (now : Int64) (observation : DependencyObservation)
    (predicate : DependencyTrigger → Bool) (schedules : List DependencySchedule) (disk : SchedulerDisk)
    (news : List DependencyExecution) (next : SchedulerDisk) : Prop where
  records : RecordsNew (disk .executions) news (next .executions)
  unchanged : next .schedules = disk .schedules
  recorded : ∀ schedule ∈ schedules, Matches session predicate schedule →
    (next .executions).contains
      (executionFile (eventExecution sourceId now observation schedule).executionId)
  handed : news.Sublist ((schedules.filter (Matches session predicate)).map
    (eventExecution sourceId now observation))

/-- The occurrences of all schedules that an observation matches are claimed. -/
theorem claimMatches_run (lawful : LawfulScheduler) : ∃ news next,
    (claimMatches sourceId session now observation predicate schedules).run disk = (.ok news, next) ∧
      MatchesClaimed sourceId session now observation predicate schedules disk news next := by
  induction schedules generalizing disk with
  | nil => exact ⟨[], disk, rfl, .nil, rfl, nofun, List.nil_sublist _⟩
  | cons schedule rest ih =>
    rw [claimMatches]
    split
    · next isMatch =>
      have here : Matches session predicate schedule := by
        simp [Matches, isMatch.1, isMatch.2.1, isMatch.2.2]
      obtain ⟨claimed, middle, claims, first⟩ : ∃ claimed middle,
          (claim schedule sourceId now now (some observation)).run disk = (.ok claimed, middle) ∧
            ClaimRun disk (eventExecution sourceId now observation schedule) claimed middle :=
        claim_run lawful rfl
      obtain ⟨news, next, runs, others⟩ : ∃ news next,
          (claimMatches sourceId session now observation predicate rest).run middle = (.ok news, next) ∧
            MatchesClaimed sourceId session now observation predicate rest middle news next := ih
      refine ⟨claimed.toList ++ news, next, ?_, first.records.append others.records,
        others.unchanged.trans first.schedules, ?_, ?_⟩
      · rw [Filing.run_bind, claims]
        dsimp only
        rw [Filing.run_bind, runs]
        rfl
      · refine List.forall_mem_cons.mpr ⟨fun _ => ?_, others.recorded⟩
        exact others.records.contains first.recorded
      · rw [List.filter_cons_of_pos here, List.map_cons]
        rcases first.handed with rfl | rfl
        · exact others.handed.cons _
        · exact others.handed.cons_cons _
    · next noMatch =>
      have notHere : ¬ Matches session predicate schedule := by
        simpa [Matches, and_assoc] using noMatch
      obtain ⟨news, next, runs, others⟩ : ∃ news next,
          (claimMatches sourceId session now observation predicate rest).run disk = (.ok news, next) ∧
            MatchesClaimed sourceId session now observation predicate rest disk news next := ih
      refine ⟨news, next, runs, others.records, others.unchanged, ?_, ?_⟩
      · exact List.forall_mem_cons.mpr ⟨fun here => absurd here notHere, others.recorded⟩
      · rw [List.filter_cons_of_neg notHere]
        exact others.handed

end Requests

end AgentMod
