import AgentMod.Verified.Scheduler.Availability

/-! An observation is claimed once for each schedule that it matches. -/

namespace AgentMod

theorem length_filter_le_one {α β : Type} {values : List α} {key : α → β} {passes : α → Bool} {shared : β}
    (distinct : (values.map key).Nodup)
    (same : ∀ value ∈ values, passes value → key value = shared) :
    (values.filter passes).length ≤ 1 := by
  have keys : (values.filter passes).map key = List.replicate (values.filter passes).length shared := by
    refine List.eq_replicate_iff.mpr ⟨List.length_map key, fun found member => ?_⟩
    obtain ⟨value, listed, rfl⟩ := List.mem_map.mp member
    exact same value (List.mem_of_mem_filter listed) (List.mem_filter.mp listed).2
  have remaining : ((values.filter passes).map key).Nodup :=
    distinct.sublist (List.filter_sublist.map key)
  rw [keys, List.nodup_replicate] at remaining
  exact remaining

section History

variable [SchedulerSerde] [Hashing] {start disk next : SchedulerDisk} {before after : Directory}
  {labels : List Scheduled} {news recorded : List DependencyExecution} {name : String}
  {content : List UInt8} {execution : DependencyExecution}

omit [SchedulerSerde] [Hashing] in
theorem handedOut_append (labels : List Scheduled) (label : Scheduled) :
    handedOut (labels ++ [label]) = handedOut labels ++ label.2.claims := by
  rw [handedOut, handedOut, List.flatMap_append, List.flatMap_singleton]

/-- What a run records is new; it is handed out, or the claim of an instant. -/
structure History (before : Directory) (labels : List Scheduled) (recorded : List DependencyExecution)
    (after : Directory) : Prop where
  grows : Grows before recorded after
  handed : (handedOut labels).Sublist recorded
  missed : ∀ execution ∈ recorded, execution ∈ handedOut labels ∨ execution.observation = none

theorem history_of_run (lawful : LawfulScheduler) (sound : Sound start)
    (run : Run Schedules start labels disk) :
    ∃ recorded, History (start .executions) labels recorded (disk .executions) := by
  induction run with
  | nil => exact ⟨[], .refl fun _ _ => rfl, List.nil_sublist _, nofun⟩
  | @snoc labels label disk next earlier serves ih =>
    obtain ⟨recorded, history⟩ := ih
    obtain ⟨news, effect⟩ := serve_effect lawful (sound_of_run lawful sound earlier) serves.1 serves.2
    refine ⟨recorded ++ news, history.grows.append effect.grows, ?_, fun execution member => ?_⟩
    · rw [handedOut_append]
      rcases effect.handed with all | ⟨nothing, -⟩
      · rw [all]
        exact history.handed.append (List.Sublist.refl news)
      · rw [nothing, List.append_nil]
        exact history.handed.trans (List.sublist_append_left recorded news)
    · rw [handedOut_append, List.mem_append]
      rcases List.mem_append.mp member with early | late
      · exact (history.missed execution early).imp_left .inl
      · rcases effect.handed with all | ⟨-, -, instants⟩
        · exact .inl (.inr (all ▸ late))
        · exact .inr (instants execution late)

theorem History.nodup (history : History before labels recorded after) :
    ((handedOut labels).map DependencyExecution.executionId).Nodup :=
  history.grows.nodup.sublist (history.handed.map _)

theorem History.named (history : History before labels recorded after)
    (member : execution ∈ handedOut labels) : execution.SelfNamed :=
  history.grows.named execution (history.handed.subset member)

omit [SchedulerSerde] in
theorem DependencyExecution.SelfNamed.digest_eq {scheduleId source occurrence : String}
    (named : execution.SelfNamed)
    (same : execution.executionId = occurrenceId scheduleId source occurrence) :
    Hashing.digest (utf8Bytes execution.key.toList) =
      Hashing.digest (utf8Bytes (occurrenceKey scheduleId source occurrence).toList) :=
  ContentHash.toHex_inj (named.named.symm.trans same)

omit [SchedulerSerde] in
theorem DependencyExecution.SelfNamed.key_inj {scheduleId source occurrence : String}
    (named : execution.SelfNamed) (validId : validateId scheduleId = .ok ())
    (validSource : validateId source = .ok ())
    (same : execution.key = occurrenceKey scheduleId source occurrence) :
    execution.schedule.scheduleId = scheduleId ∧ execution.source = source ∧
      execution.occurrence = occurrence :=
  occurrenceKey_inj (not_separated named.schedule) (not_separated validId)
    (not_separated named.source) (not_separated validSource) same

end History

section Events

variable [SchedulerSerde] [Hashing] {disk next : SchedulerDisk} {labels : List Scheduled}
  {request : SchedulerRequest} {firing : Firing}

theorem serve_firing (fires : request.firing = some firing) :
    serveScheduler request disk = schedulerAnswer .claimed (firing.offer.run disk) := by
  cases request with
  | fireRuntimeEvent _ _ _ _ | fireProcessOutput _ _ _ _ _ =>
    cases fires
    rfl
  | upsert _ _ | remove _ | list _ | claimDue _ _ _ | listPendingExecutions _ | completeExecution _ _ =>
    cases fires

/-- Over every run, an observation whose identifier is not that of the time is claimed at most once for
each schedule; and a schedule that it matches is claimed when it is offered, unless it has been claimed
for the same observation before. -/
theorem events_claimed_once (lawful : LawfulScheduler)
    (run : Run Schedules emptySchedulerDisk labels disk) {sourceId : String} (event : sourceId ≠ "time") :
    (∀ scheduleId, ((handedOut labels).filter fun execution =>
      execution.source = sourceId ∧ execution.schedule.scheduleId = scheduleId).length ≤ 1) ∧
    ∀ request firing now schedules, request.firing = some firing → firing.sourceId = sourceId →
      validateId firing.sourceId = .ok () → validateId firing.sessionId = .ok () →
      nowMillis firing.reading = .ok now → (listUnlocked 10000).run disk = (.ok schedules, disk) →
      ∃ claims next, serveScheduler request disk = (.claimed claims, next) ∧
        ∀ schedule ∈ schedules, schedule.active → schedule.sessionId = firing.sessionId →
          firing.predicate schedule.trigger →
          Uncollided (next .executions) (occurrenceKey schedule.scheduleId sourceId sourceId) →
          ∃ execution ∈ handedOut labels ++ claims, execution.source = sourceId ∧
            execution.schedule.scheduleId = schedule.scheduleId := by
  have sound := sound_of_run lawful sound_empty run
  obtain ⟨recorded, history⟩ := history_of_run lawful sound_empty run
  constructor
  · intro scheduleId
    -- All of them have the same identifier.
    have sameId : ∀ execution ∈ handedOut labels,
        decide (execution.source = sourceId ∧ execution.schedule.scheduleId = scheduleId) →
          execution.executionId = occurrenceId scheduleId sourceId sourceId := by
      intro execution member matched
      obtain ⟨source, schedule⟩ := of_decide_eq_true matched
      have named := (history.named member).named
      rw [DependencyExecution.occurrence, source, schedule, if_neg event] at named
      exact named
    exact length_filter_le_one history.nodup sameId
  · intro request firing now schedules fires isSource source session clock lists
    obtain ⟨listed, claims, next, offers, lists', all, claimed⟩ :=
      offer_run lawful sound source session clock
    cases lists.symm.trans lists'
    have serves : serveScheduler request disk = (.claimed claims, next) := by
      rw [serve_firing fires, offers]
      rfl
    refine ⟨claims, next, serves, fun schedule member active inSession triggered uncollided => ?_⟩
    have isMatch : Matches firing.sessionId firing.predicate schedule := by
      simp [Matches, active, inSession, triggered]
    have grows := history.grows.append (claimed.records.grows fun new isNew => by
      obtain ⟨_, -, -, -, named⟩ := claimed.named fires source all isNew
      exact named)
    obtain ⟨name, -, _, _, -, stores⟩ := exists_of_forall₂_right all member
    have validId := validateId_of_schedule stores.valid
    have expected : (eventExecution firing.sourceId now firing.observation schedule).SelfNamed :=
      (selfNamed_eventExecution fires source stores.valid).1
    -- The claim file of the occurrence records an execution, which has the same key.
    obtain ⟨content, found⟩ := StringMap.contains_iff.mp (claimed.recorded schedule member isMatch)
    rcases grows.origin _ content expected.extension_file found with
      old | ⟨execution, isRecorded, isFile, encodes⟩
    · cases (emptySchedulerDisk_at _ _).symm.trans old
    · have named := grows.named execution isRecorded
      have sameId : execution.executionId = occurrenceId schedule.scheduleId sourceId sourceId := by
        rw [← executionFile_inj isFile]
        rw [eventExecution, claimedExecution, isSource, if_neg event]
      have sameKey := uncollided execution
        ⟨named.extension_file, content, isFile ▸ found, encodes⟩ (named.digest_eq sameId)
      obtain ⟨scheduleId, isEvent, -⟩ := named.key_inj validId (isSource ▸ source) sameKey
      refine ⟨execution, ?_, isEvent, scheduleId⟩
      rw [List.mem_append]
      refine (List.mem_append.mp isRecorded).imp_left fun early => ?_
      refine (history.missed execution early).resolve_right fun instant => event ?_
      rw [← isEvent, DependencyExecution.source, instant]

end Events

section Sample

attribute [local instance] prefixHash segmentedScheduler

/-- The schedule that the sample's events trigger. -/
def sampleEvent : DependencySchedule := sampleSchedule (.runtimeEvent "tick")

/-- The sample's schedule is stored alone. -/
structure HoldsSample (disk : SchedulerDisk) : Prop where
  sound : Sound disk
  listing : (disk .schedules).listing "json" = [scheduleFile "s"]
  stored : StoredIn disk (scheduleFile "s") sampleEvent

theorem store_sampleEvent : ∃ stored,
    Schedules emptySchedulerDisk (.upsert sampleEvent "1", .stored ⟨"s", false⟩) stored ∧
    stored .executions = emptySchedulerDisk .executions ∧ HoldsSample stored := by
  have valid : validateDependencySchedule sampleEvent = .ok () := by decide
  obtain ⟨bytes, stored, stores, encodes, wrote, -⟩ := store_sampleSchedule valid
  have kind : extension (scheduleFile "s") = some "json" :=
    extension_scheduleFile (validateId_of_schedule valid)
  have sound := sound_of_run lawful_segmentedScheduler sound_empty (Run.nil.snoc stores)
  refine ⟨stored, stores, wrote.executions, sound, listing_of_written wrote kind, bytes, 0, ?_, encodes,
    valid, rfl⟩
  rw [wrote.other (by rw [kind]; decide), if_pos rfl]

theorem HoldsSample.lists {disk : SchedulerDisk} (holds : HoldsSample disk) :
    (listUnlocked 10000).run disk = (.ok [sampleEvent], disk) := by
  obtain ⟨schedules, lists, all⟩ := listUnlocked_apply lawful_segmentedScheduler holds.sound 10000
  rw [holds.listing, List.take_of_length_le (by decide)] at all
  obtain ⟨schedule, rest, here, nothing, rfl⟩ := List.forall₂_cons_left_iff.mp all
  rw [List.forall₂_nil_left_iff.mp nothing,
    here.unique lawful_segmentedScheduler holds.stored] at lists
  rw [Filing.run, lists, applySteps_nil]

/-- An event that the sample's schedule waits for. -/
def sampleFiring (source : String) (millis : Nat) : Firing where
  sourceId := source
  sessionId := "session"
  reading := some millis
  observation := .runtimeEvent source
  predicate := DependencyTrigger.matchesEvent "tick"

/-- What happens when an event of the sample is offered. -/
theorem fire_sampleEvent {disk : SchedulerDisk} {source : String} {millis : Nat}
    (holds : HoldsSample disk) (valid : validateId source = .ok ()) (inRange : millis < 2 ^ 63) :
    ∃ claims next, serveScheduler (.fireRuntimeEvent "session" source "tick" (some millis)) disk =
        (.claimed claims, next) ∧ HoldsSample next ∧
      MatchesClaimed source "session" (.ofNat millis) (.runtimeEvent source)
        (DependencyTrigger.matchesEvent "tick") [sampleEvent] disk claims next ∧
      ∀ claim ∈ claims, claim = eventExecution source (.ofNat millis) (.runtimeEvent source) sampleEvent := by
  have source' : validateId (sampleFiring source millis).sourceId = .ok () := valid
  have session : validateId (sampleFiring source millis).sessionId = .ok () :=
    show validateId "session" = .ok () by decide
  have clock : nowMillis (sampleFiring source millis).reading = .ok (.ofNat millis) :=
    nowMillis_eq_ok.mpr ⟨millis, rfl, inRange, rfl⟩
  obtain ⟨schedules, claims, next, offers, lists', all, claimed⟩ :=
    offer_run lawful_segmentedScheduler holds.sound source' session clock
  cases holds.lists.symm.trans lists'
  have records : ∀ claim ∈ claims, claim.SelfNamed := by
    intro claim member
    have fires : (SchedulerRequest.fireRuntimeEvent "session" source "tick" (some millis)).firing =
        some (sampleFiring source millis) := rfl
    obtain ⟨_, -, -, -, named⟩ := claimed.named fires valid all member
    exact named
  refine ⟨claims, next, ?_, ⟨holds.sound.recorded claimed.records claimed.unchanged records, ?_, ?_⟩,
    claimed, fun claim member => ?_⟩
  · show schedulerAnswer .claimed ((sampleFiring source millis).offer.run disk) = _
    rw [offers]
    rfl
  · rw [claimed.unchanged, holds.listing]
  · rw [StoredIn, claimed.unchanged]
    exact holds.stored
  · obtain ⟨schedule, listed, rfl⟩ := List.mem_map.mp (claimed.handed.subset member)
    rw [List.mem_singleton.mp (List.mem_of_mem_filter listed)]
    rfl

/-- The sample's schedule is claimed when its event is offered. -/
theorem events_claimed_once_sample : ∃ stored claims next,
    Schedules emptySchedulerDisk (.upsert sampleEvent "1", .stored ⟨"s", false⟩) stored ∧
    serveScheduler (.fireRuntimeEvent "session" "e" "tick" (some 7)) stored = (.claimed claims, next) ∧
    ∃ execution ∈ claims, execution.source = "e" := by
  obtain ⟨stored, stores, empty, holds⟩ := store_sampleEvent
  obtain ⟨-, complete⟩ := events_claimed_once lawful_segmentedScheduler (Run.nil.snoc stores)
    (show "e" ≠ "time" by decide)
  obtain ⟨claims, next, serves, all⟩ := complete (.fireRuntimeEvent "session" "e" "tick" (some 7)) _
    (.ofNat 7) [sampleEvent] rfl rfl (by decide) (by decide)
    (nowMillis_eq_ok.mpr ⟨7, rfl, by decide, rfl⟩) holds.lists
  obtain ⟨claims', next', serves', -, claimed, only⟩ :=
    fire_sampleEvent holds (show validateId "e" = .ok () by decide) (show 7 < 2 ^ 63 by decide)
  cases serves.symm.trans serves'
  have uncollided : Uncollided (next .executions) (occurrenceKey "s" "e" "e") := by
    rintro execution ⟨-, content, found, encodes⟩ -
    rcases claimed.records.origin found with old | ⟨claim, member, -, encodes'⟩
    · rw [empty, emptySchedulerDisk_at] at old
      cases old
    · rw [encodeExecution_inj lawful_segmentedScheduler encodes encodes', only claim member]
      rfl
  obtain ⟨execution, member, source, -⟩ := all sampleEvent List.mem_cons_self rfl rfl rfl uncollided
  exact ⟨stored, claims, next, stores, serves, execution, member, source⟩

theorem mem_claims_sampleEvent {disk next : SchedulerDisk} {source : String} {millis : Nat}
    {claims : List DependencyExecution}
    (claimed : MatchesClaimed source "session" (.ofNat millis) (.runtimeEvent source)
      (DependencyTrigger.matchesEvent "tick") [sampleEvent] disk claims next)
    (only : ∀ claim ∈ claims,
      claim = eventExecution source (.ofNat millis) (.runtimeEvent source) sampleEvent)
    (absent : (disk .executions)[executionFile (eventExecution source (.ofNat millis)
      (.runtimeEvent source) sampleEvent).executionId]? = none) :
    eventExecution source (.ofNat millis) (.runtimeEvent source) sampleEvent ∈ claims := by
  obtain ⟨content, found⟩ :=
    StringMap.contains_iff.mp (claimed.recorded sampleEvent List.mem_cons_self rfl)
  rcases claimed.records.origin found with old | ⟨claim, member, -, -⟩
  · cases absent.symm.trans old
  · exact only claim member ▸ member

/-- An event whose identifier is that of the time is claimed again at another reading of the clock. -/
theorem not_events_claimed_once : ∃ labels disk, Run Schedules emptySchedulerDisk labels disk ∧
    validateId "time" = .ok () ∧
    2 ≤ ((handedOut labels).filter fun execution => execution.source = "time" ∧
      execution.observation = some (.runtimeEvent "time") ∧
      execution.schedule.scheduleId = "s").length := by
  obtain ⟨stored, stores, empty, holds⟩ := store_sampleEvent
  have valid : validateId "time" = .ok () := by decide
  obtain ⟨first, middle, serves, holdsMiddle, claimed, onlyFirst⟩ :=
    fire_sampleEvent holds valid (show 1 < 2 ^ 63 by decide)
  obtain ⟨second, next, servesAgain, -, claimedAgain, onlySecond⟩ :=
    fire_sampleEvent holdsMiddle valid (show 2 < 2 ^ 63 by decide)
  have fires : Schedules stored
      (.fireRuntimeEvent "session" "time" "tick" (some 1), .claimed first) middle := ⟨trivial, serves⟩
  have firesAgain : Schedules middle
      (.fireRuntimeEvent "session" "time" "tick" (some 2), .claimed second) next :=
    ⟨trivial, servesAgain⟩
  have hasFirst := mem_claims_sampleEvent claimed onlyFirst (by rw [empty, emptySchedulerDisk_at])
  have hasSecond := by
    refine mem_claims_sampleEvent claimedAgain onlySecond ?_
    cases found : (middle .executions)[executionFile (eventExecution "time" (.ofNat 2)
        (.runtimeEvent "time") sampleEvent).executionId]? with
    | none => rfl
    | some content =>
      -- The claim file of the first reading has another name.
      rcases claimed.records.origin found with old | ⟨claim, member, isFile, -⟩
      · rw [empty, emptySchedulerDisk_at] at old
        cases old
      · rw [onlyFirst claim member] at isFile
        exact absurd (executionFile_inj isFile) (by decide)
  refine ⟨_, next, ((Run.nil.snoc stores).snoc fires).snoc firesAgain, valid, ?_⟩
  have claims : handedOut ([] ++ [(.upsert sampleEvent "1", .stored ⟨"s", false⟩)] ++
      [(.fireRuntimeEvent "session" "time" "tick" (some 1), .claimed first)] ++
      [(.fireRuntimeEvent "session" "time" "tick" (some 2), .claimed second)]) = first ++ second := by
    simp [handedOut, SchedulerAnswer.claims]
  rw [claims, List.filter_append, List.length_append]
  refine Nat.add_le_add (show 1 ≤ _ from ?_) (show 1 ≤ _ from ?_)
  · exact List.length_pos_of_mem (List.mem_filter.mpr ⟨hasFirst, decide_eq_true ⟨rfl, rfl, rfl⟩⟩)
  · exact List.length_pos_of_mem (List.mem_filter.mpr ⟨hasSecond, decide_eq_true ⟨rfl, rfl, rfl⟩⟩)

end Sample

end AgentMod
