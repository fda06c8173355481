import AgentMod.Verified.Scheduler.Claims

/-! The stores that the operations of the scheduler lead to. -/

namespace AgentMod

section Writes

variable {disk next : SchedulerDisk} {name nonce id : String} {bytes : List UInt8}

theorem executionFile_ne_markerFile {executionId other : String} {succeeded : Bool} :
    executionFile executionId ≠ markerFile other succeeded := by
  intro same
  have texts := congrArg (fun text => text.toList.getLast?) same
  cases succeeded <;> simp [executionFile, markerFile, String.toList_append] at texts

theorem schedulePath_invalid {failure : Halt SchedulerDependencyError}
    (invalid : validateId id = .error failure) : schedulePath id disk = (.error failure, []) := by
  simp only [schedulePath, invalid, Filing.ofExcept_bind_apply, Filing.onOk_error]

/-- The content of a file is written, and all other files stay. -/
structure Written (disk : SchedulerDisk) (name nonce : String) (bytes : List UInt8)
    (next : SchedulerDisk) : Prop where
  executions : next .executions = disk .executions
  schedules : ∀ other, (next .schedules)[other]? =
    if other = name then some bytes
    else if other = temporaryFile name nonce then none else (disk .schedules)[other]?

theorem Written.other (written : Written disk name nonce bytes next) {other : String}
    (kept : extension other ≠ some "tmp") : (next .schedules)[other]? =
      if other = name then some bytes else (disk .schedules)[other]? := by
  have notTemporary : other ≠ temporaryFile name nonce := by
    rintro rfl
    exact kept extension_temporaryFile
  rw [written.schedules, if_neg notTemporary]

theorem FreshNonce.writable (fresh : FreshNonce disk nonce) (schedule : extension name = some "json") :
    Writable disk name nonce where
  schedule := schedule
  undotted := fresh.undotted
  temporary := fresh.temporary name
  backup := fresh.backup name

theorem FreshNonce.of_schedules (fresh : FreshNonce disk nonce)
    (same : next .schedules = disk .schedules) : FreshNonce next nonce where
  undotted := fresh.undotted
  temporary := same ▸ fresh.temporary
  backup := same ▸ fresh.backup

theorem FreshNonce.written {other : String} (fresh : FreshNonce disk other)
    (written : Written disk name nonce bytes next) (schedule : extension name = some "json") :
    FreshNonce next other where
  undotted := fresh.undotted
  temporary file := by
    have apart : temporaryFile file other ≠ name :=
      ne_of_extension schedule (by rw [extension_temporaryFile]; decide)
    rw [written.schedules, if_neg apart, fresh.temporary, ite_self]
  backup file := by
    have apart : backupFile file other ≠ name :=
      ne_of_extension schedule (by rw [extension_backupFile]; decide)
    rw [written.schedules, if_neg apart, fresh.backup, ite_self]

end Writes

section Sound

variable [SchedulerSerde] [Hashing] {disk next : SchedulerDisk} {before after : Directory}
  {news : List DependencyExecution} {name nonce : String} {content bytes : List UInt8}
  {schedule : DependencySchedule} {index : Nat}

/-- An execution whose identifier is that of the occurrence that it claims. -/
structure DependencyExecution.SelfNamed (execution : DependencyExecution) : Prop where
  named : execution.executionId =
    occurrenceId execution.schedule.scheduleId execution.source execution.occurrence
  schedule : validateId execution.schedule.scheduleId = .ok ()
  source : validateId execution.source = .ok ()

/-- A schedule file holds a schedule behind occurrences that are all claimed. -/
structure HoldsSchedule (executions : Directory) (name : String) (content : List UInt8)
    (schedule : DependencySchedule) (index : Nat) : Prop extends
    StoresSchedule name content schedule index where
  claimed : ∀ earlier < index, ∀ instant, schedule.trigger.occurrence earlier = some instant →
    executions.contains (timeFile schedule.scheduleId instant)

/-- A store whose files are whole: schedules behind claimed occurrences, claims under the names of
their occurrences, no backups, and no execution that has both succeeded and failed. -/
structure Sound (disk : SchedulerDisk) : Prop where
  schedules : ∀ name content, (disk .schedules)[name]? = some content →
    extension name = some "json" →
      ∃ schedule index, HoldsSchedule (disk .executions) name content schedule index
  unbacked : ∀ backup content, (disk .schedules)[backup]? = some content →
    extension backup ≠ some "backup"
  executions : ∀ name content, (disk .executions)[name]? = some content →
    extension name = some "json" → ∃ execution, encodeExecution execution = .ok content ∧
      name = executionFile execution.executionId ∧ execution.SelfNamed
  markers : ∀ executionId, ¬ ((disk .executions).contains (markerFile executionId true) ∧
    (disk .executions).contains (markerFile executionId false))

omit [SchedulerSerde] in
theorem selfNamed_timeExecution {now instant : Int64} (valid : validateDependencySchedule schedule = .ok ()) :
    (timeExecution schedule now instant).SelfNamed where
  named := rfl
  schedule := validateId_of_schedule valid
  source := by
    have valid : validateId "time" = .ok () := by decide
    exact valid

theorem HoldsSchedule.mono (holds : HoldsSchedule before name content schedule index)
    (grows : ∀ name, before.contains name → after.contains name) :
    HoldsSchedule after name content schedule index where
  toStoresSchedule := holds.toStoresSchedule
  claimed earlier below instant due := grows _ (holds.claimed earlier below instant due)

theorem Sound.recorded (sound : Sound disk)
    (records : RecordsNew (disk .executions) news (next .executions))
    (same : next .schedules = disk .schedules) (named : ∀ new ∈ news, new.SelfNamed) : Sound next where
  schedules name content found kind := by
    rw [same] at found
    obtain ⟨schedule, index, holds⟩ := sound.schedules name content found kind
    exact ⟨schedule, index, holds.mono fun _ => records.contains⟩
  unbacked backup content found := by
    rw [same] at found
    exact sound.unbacked backup content found
  executions name content found kind := by
    rcases records.origin found with old | ⟨execution, member, isFile, encodes⟩
    · exact sound.executions name content old kind
    · exact ⟨execution, encodes, isFile, named execution member⟩
  markers executionId both := by
    have older : ∀ succeeded, (next .executions).contains (markerFile executionId succeeded) →
        (disk .executions).contains (markerFile executionId succeeded) := by
      intro succeeded present
      obtain ⟨content, found⟩ := StringMap.contains_iff.mp present
      rcases records.origin found with old | ⟨execution, -, isFile, -⟩
      · exact StringMap.contains_iff.mpr ⟨content, old⟩
      · exact absurd isFile.symm executionFile_ne_markerFile
    exact sound.markers executionId ⟨older true both.1, older false both.2⟩

theorem writeState_run (encodes : encodeState (.behind schedule index) = .ok bytes)
    (writable : Writable disk name nonce) : ∃ next,
      (writeState name nonce (.behind schedule index)).run disk = (.ok (), next) ∧
        Written disk name nonce bytes next := by
  have writes : writeState name nonce (.behind schedule index) disk =
      writeJsonAtomic none name nonce bytes disk := by
    rw [writeState, encodes, Filing.ofExcept_bind_apply, Filing.onOk_ok]
  rw [Filing.run, writes]
  cases present : (disk .schedules)[name]? with
  | none =>
    rw [writeJsonAtomic_absent writable present (.inl rfl)]
    exact ⟨_, rfl, rfl, fun _ => createdDisk_at writable⟩
  | some held =>
    rw [writeJsonAtomic_present writable present (.inl rfl), if_pos rfl]
    exact ⟨_, rfl, rfl, fun _ => replacedDisk_at writable present⟩

theorem Sound.written (sound : Sound disk) (written : Written disk name nonce bytes next)
    (holds : HoldsSchedule (disk .executions) name bytes schedule index) : Sound next where
  schedules other content found kind := by
    rw [written.other (by rw [kind]; decide)] at found
    rw [written.executions]
    split at found
    · next same =>
      cases found
      exact ⟨schedule, index, same ▸ holds⟩
    · exact sound.schedules other content found kind
  unbacked backup content found kind := by
    have isSchedule : extension name = some "json" := by
      rw [holds.name]
      exact extension_scheduleFile (validateId_of_schedule holds.valid)
    have apart : backup ≠ name := ne_of_extension isSchedule (by rw [kind]; decide)
    rw [written.other (by rw [kind]; decide), if_neg apart] at found
    exact sound.unbacked backup content found kind
  executions := by
    rw [written.executions]
    exact sound.executions
  markers := by
    rw [written.executions]
    exact sound.markers

end Sound

section Paths

variable [SchedulerSerde] [Hashing] {disk next : SchedulerDisk} {id name : String}
  {content : List UInt8} {schedule : DependencySchedule} {index : Nat}

theorem schedulePath_apply (sound : Sound disk) (valid : validateId id = .ok ()) :
    schedulePath id disk = (.ok (scheduleFile id), []) := by
  simp only [schedulePath, valid, Filing.ofExcept_bind_apply, Filing.onOk_ok, Filing.read_bind_apply]
  split
  · next legacy =>
    -- A file of the legacy name is that of a schedule without colons.
    obtain ⟨content, found⟩ := StringMap.contains_iff.mp legacy
    have kind : extension (id ++ ".json") = some "json" := by
      have named : id ≠ "" := by
        rintro rfl
        cases valid
      exact extension_executionFile named
    obtain ⟨schedule, index, holds⟩ := sound.schedules _ _ found kind
    rw [holds.name, ← legacy_eq valid holds.name]
    rfl
  · rfl

theorem loadState_apply (lawful : LawfulScheduler) (found : (disk .schedules)[name]? = some content)
    (encodes : encodeState (.behind schedule index) = .ok content) :
    loadState name disk = (.ok (.behind schedule index), []) := by
  simp only [loadState, Filing.read_bind_apply, found, okOr, Filing.ofExcept_bind_apply,
    Filing.onOk_ok, decodeState_encodeState lawful encodes]
  rfl

end Paths

end AgentMod
