import AgentMod.Scheduler.Replacement
import Mathlib.Logic.Relation

/-! What replacements and their recovery leave of the schedule files. -/

namespace AgentMod

section Names

variable {name nonce other : String}

theorem extension_temporaryFile : extension (temporaryFile name nonce) = some "tmp" := by
  have split : temporaryFile name nonce = fileStem name ++ "." ++ nonce ++ "." ++ "tmp" := by
    have suffix : nonce ++ ".tmp" = nonce ++ "." ++ "tmp" := by
      rw [String.append_assoc]
      rfl
    have filled : nonce ++ ".tmp" ≠ "" := suffix ▸ append_dot_ne_empty _ _
    rw [temporaryFile, withExtension, if_neg filled, suffix, ← String.append_assoc,
      ← String.append_assoc]
  rw [split]
  refine extension_append ?_ (by decide)
  exact append_dot_ne_empty _ _

theorem backupFile_eq : backupFile name nonce = name ++ "." ++ nonce ++ "." ++ "backup" := by
  have suffix : name ++ "." ++ nonce ++ "." ++ "backup" = name ++ "." ++ nonce ++ ("." ++ "backup") :=
    String.append_assoc
  exact suffix.symm

theorem extension_backupFile : extension (backupFile name nonce) = some "backup" := by
  rw [backupFile_eq]
  exact extension_append (append_dot_ne_empty _ _) (by decide)

theorem replacedName_backupFile (undotted : '.' ∉ nonce.toList) :
    replacedName (backupFile name nonce) = some name := by
  rw [replacedName, backupFile_eq, rsplitOnce_append _ (by decide)]
  exact congrArg (· >>= _) (rsplitOnce_append name undotted)

theorem ne_of_extension {kind : String} (isKind : extension name = some kind)
    (otherwise : extension other ≠ some kind) : other ≠ name := by
  rintro rfl
  exact otherwise isKind

theorem not_backup_of_schedule (schedule : extension name = some "json") :
    extension name ≠ some "backup" := by
  rw [schedule]
  decide

end Names

section Recovery

variable {disk next crashed : SchedulerDisk} {name backup target other : String}
  {content : List UInt8} {good : Option (List UInt8) → Prop}

/-- The step that recovery takes for a backup. -/
def recoveryStep (directory : Directory) (backup target : String) : FileStep SchedulerDirectory :=
  if directory.contains target then .remove .schedules backup else .rename .schedules backup target

theorem recoverBackup_apply (belongs : replacedName backup = some target) :
    recoverBackup backup disk = (.ok (), [recoveryStep (disk .schedules) backup target]) := by
  simp only [recoverBackup, belongs, okOr, Filing.ofExcept_bind_apply, Filing.onOk_ok,
    Filing.read_bind_apply, recoveryStep]
  split <;> rfl

theorem recoveryStep_at (backs : Backs (disk .schedules) target backup content)
    (schedule : extension target = some "json") :
    ((recoveryStep (disk .schedules) backup target).apply disk .schedules)[other]? =
      if other = backup then none
      else if other = target then ((disk .schedules)[target]?).or (some content)
      else (disk .schedules)[other]? := by
  have apart : target ≠ backup := ne_of_extension backs.kind (not_backup_of_schedule schedule)
  rw [recoveryStep]
  cases found : (disk .schedules)[target]? with
  | some held =>
    rw [if_pos (StringMap.contains_iff.mpr ⟨held, found⟩), remove_at]
    by_cases here : other = backup
    · simp [here]
    · by_cases there : other = target
      · simp [there, found, apart, apart.symm]
      · simp [here, there, Ne.symm here]
  | none =>
    have missing : ¬ (disk .schedules).contains target := by
      rw [StringMap.contains_iff, found]
      simp
    rw [if_neg missing, rename_at backs.found]
    by_cases here : other = backup
    · simp [here, apart]
    · by_cases there : other = target
      · simp [there, apart]
      · simp [here, there, Ne.symm here, Ne.symm there]

theorem recoveryStep_executions {directory : Directory} :
    (recoveryStep directory backup target).apply disk .executions = disk .executions := by
  rw [recoveryStep]
  split <;> exact FileStep.apply_other (by simp [FileStep.directory])

/-- Every backup belongs to a schedule file. -/
def BackupsNamed (directory : Directory) : Prop :=
  ∀ backup content, directory[backup]? = some content → extension backup = some "backup" →
    ∃ target, replacedName backup = some target ∧ extension target = some "json"

/-- A file holds something good, or is replaced by a backup that does. -/
inductive Recoverable (good : Option (List UInt8) → Prop) (directory : Directory) (name : String) :
    Prop where
  | present {content : List UInt8} : directory[name]? = some content → good (some content) →
      Recoverable good directory name
  | missing : directory[name]? = none → good none →
      (∀ backup content, ¬ Backs directory name backup content) → Recoverable good directory name
  | replaced {backup : String} {content : List UInt8} : directory[name]? = none →
      Backs directory name backup content → good (some content) →
      (∀ other content, Backs directory name other content →
        other = backup ∨ compare backup other = .lt) →
      Recoverable good directory name

/-- Recovery takes the step of the first backup. -/
inductive RecoveryStep : SchedulerDisk → SchedulerDisk → Prop where
  | step {disk : SchedulerDisk} {backup target : String} {content : List UInt8} :
      Backs (disk .schedules) target backup content → extension target = some "json" →
      (∀ other content, (disk .schedules)[other]? = some content → extension other = some "backup" →
        other = backup ∨ compare backup other = .lt) →
      RecoveryStep disk ((recoveryStep (disk .schedules) backup target).apply disk)

theorem Backs.of_recoveryStep (backs : Backs (disk .schedules) target backup content)
    (schedule : extension target = some "json") {other : String} {kept : List UInt8}
    (later : Backs ((recoveryStep (disk .schedules) backup target).apply disk .schedules) name other
      kept) : other ≠ backup ∧ Backs (disk .schedules) name other kept := by
  have found := later.found
  rw [recoveryStep_at backs schedule] at found
  have apart : other ≠ target := by
    rintro rfl
    exact not_backup_of_schedule schedule later.kind
  rw [if_neg apart] at found
  split at found
  · cases found
  · next differs => exact ⟨differs, found, later.kind, later.name⟩

theorem RecoveryStep.named (step : RecoveryStep disk next) (named : BackupsNamed (disk .schedules)) :
    BackupsNamed (next .schedules) := by
  obtain @⟨_, target, _, backs, schedule, -⟩ := step
  intro other kept found kind
  have apart : other ≠ target := by
    rintro rfl
    exact not_backup_of_schedule schedule kind
  rw [recoveryStep_at backs schedule, if_neg apart] at found
  split at found
  · cases found
  · exact named other kept found kind

/-- A recovery step keeps every file recoverable. -/
theorem RecoveryStep.recoverable (step : RecoveryStep disk next)
    (schedule : extension name = some "json")
    (recoverable : Recoverable good (disk .schedules) name) :
    Recoverable good (next .schedules) name := by
  obtain @⟨backup, target, content, backs, belongs, first⟩ := step
  have apart : name ≠ backup := ne_of_extension backs.kind (not_backup_of_schedule schedule)
  have here : (_ : Option (List UInt8)) = if name = backup then none
      else if name = target then ((disk .schedules)[target]?).or (some content)
      else (disk .schedules)[name]? := recoveryStep_at backs belongs
  rw [if_neg apart] at here
  cases recoverable with
  | present found holds =>
    refine .present ?_ holds
    rw [here]
    split
    · next same => rw [← same, found, Option.some_or]
    · exact found
  | missing absent holds unbacked =>
    have otherwise : name ≠ target := fun same => unbacked _ _ (same ▸ backs)
    rw [if_neg otherwise] at here
    refine .missing (here.trans absent) holds fun other kept later => ?_
    exact unbacked other kept (backs.of_recoveryStep belongs later).2
  | @replaced own kept absent ownBacks holds ownFirst =>
    by_cases same : name = target
    · -- The first of all backups is the first one of this file.
      have least : own = backup := by
        rcases first own kept ownBacks.found ownBacks.kind with same' | before
        · exact same'
        · rcases ownFirst backup content (same ▸ backs) with same' | after
          · exact same'.symm
          · exact absurd after (Std.OrientedCmp.not_lt_of_lt before)
      subst least
      cases ownBacks.found.symm.trans backs.found
      refine .present ?_ holds
      rw [here, if_pos same, ← same, absent, Option.none_or]
    · rw [if_neg same] at here
      have stays : own ≠ backup := by
        rintro rfl
        exact same (Option.some.inj (ownBacks.name.symm.trans backs.name))
      have notTarget : own ≠ target := by
        rintro rfl
        exact not_backup_of_schedule belongs ownBacks.kind
      refine .replaced (here.trans absent) ⟨?_, ownBacks.kind, ownBacks.name⟩ holds ?_
      · rw [recoveryStep_at backs belongs, if_neg stays, if_neg notTarget, ownBacks.found]
      · intro other kept later
        exact ownFirst other kept (backs.of_recoveryStep belongs later).2

/-- Recovery takes one step after the other. -/
abbrev Recovering : SchedulerDisk → SchedulerDisk → Prop := Relation.ReflTransGen RecoveryStep

theorem Recovering.named (steps : Recovering disk next) (named : BackupsNamed (disk .schedules)) :
    BackupsNamed (next .schedules) := by
  induction steps with
  | refl => exact named
  | tail _ step ih => exact step.named ih

theorem Recovering.recoverable (steps : Recovering disk next)
    (schedule : extension name = some "json")
    (recoverable : Recoverable good (disk .schedules) name) :
    Recoverable good (next .schedules) name := by
  induction steps with
  | refl => exact recoverable
  | tail _ step ih => exact step.recoverable schedule ih

theorem Recovering.executions (steps : Recovering disk next) :
    next .executions = disk .executions := by
  induction steps with
  | refl => rfl
  | tail _ step ih =>
    obtain ⟨-, -, -⟩ := step
    exact recoveryStep_executions.trans ih

/-- Recovery of the listed backups takes their steps, in order, until no backup is left. -/
theorem recoverBackups_apply (backups : List String)
    (ordered : backups.Pairwise fun left right => compare left right = .lt)
    (listed : ∀ backup, backup ∈ backups ↔
      (∃ content, (disk .schedules)[backup]? = some content) ∧ extension backup = some "backup")
    (named : BackupsNamed (disk .schedules)) :
    ∃ steps, (forM backups recoverBackup : SchedulerFiling Unit) disk = (.ok (), steps) ∧
      Recovering disk (applySteps steps disk) ∧
      (∀ backup content, (applySteps steps disk .schedules)[backup]? = some content →
        extension backup ≠ some "backup") ∧
      ∀ crashed, Interrupted steps disk crashed → Recovering disk crashed := by
  induction backups generalizing disk with
  | nil =>
    refine ⟨[], rfl, .refl, fun backup content found kind => ?_, fun crashed crashes => ?_⟩
    · cases (listed backup).mpr ⟨⟨content, found⟩, kind⟩
    · rw [interrupted_nil] at crashes
      exact crashes ▸ .refl
  | cons backup rest ih =>
    obtain ⟨before, ordered⟩ := List.pairwise_cons.mp ordered
    obtain ⟨⟨content, found⟩, kind⟩ := (listed backup).mp List.mem_cons_self
    obtain ⟨target, belongs, schedule⟩ := named backup content found kind
    have backs : Backs (disk .schedules) target backup content := ⟨found, kind, belongs⟩
    have step : RecoveryStep disk ((recoveryStep (disk .schedules) backup target).apply disk) := by
      refine .step backs schedule fun other kept here isBackup => ?_
      rcases List.mem_cons.mp ((listed other).mpr ⟨⟨kept, here⟩, isBackup⟩) with same | later
      · exact .inl same
      · exact .inr (before other later)
    have left : ∀ other, other ∈ rest ↔ (∃ kept, ((recoveryStep (disk .schedules) backup
        target).apply disk .schedules)[other]? = some kept) ∧ extension other = some "backup" := by
      intro other
      rw [recoveryStep_at backs schedule]
      constructor
      · intro later
        obtain ⟨present, isBackup⟩ := (listed other).mp (List.mem_cons_of_mem _ later)
        have differs : other ≠ backup := by
          rintro rfl
          exact absurd (before other later) (by simp)
        have apart : other ≠ target := ne_of_extension schedule (by rw [isBackup]; decide)
        rw [if_neg differs, if_neg apart]
        exact ⟨present, isBackup⟩
      · rintro ⟨⟨kept, here⟩, isBackup⟩
        have apart : other ≠ target := ne_of_extension schedule (by rw [isBackup]; decide)
        rw [if_neg apart] at here
        split at here
        · cases here
        · next differs =>
          exact (List.mem_cons.mp ((listed other).mpr ⟨⟨kept, here⟩, isBackup⟩)).resolve_left differs
    obtain ⟨steps, returns, recovers, gone, crashes⟩ := ih ordered left (step.named named)
    refine ⟨recoveryStep (disk .schedules) backup target :: steps, ?_, ?_, gone, ?_⟩
    · rw [List.forM_cons, Filing.bind_apply_of_ok (recoverBackup_apply belongs), applySteps_cons,
        applySteps_nil, returns]
      rfl
    · exact .head step recovers
    · intro crashed interrupted
      generalize taken : recoveryStep (disk .schedules) backup target = first at interrupted
      cases interrupted with
      | stopped => exact .refl
      | torn _ =>
        rw [recoveryStep] at taken
        split at taken <;> cases taken
      | passed later =>
        subst taken
        exact .head step (crashes _ later)

theorem recover_run (named : BackupsNamed (disk .schedules)) : ∃ next,
    recoverInterruptedReplacements.run disk = (.ok (), next) ∧ Recovering disk next ∧
      ∀ backup content, (next .schedules)[backup]? = some content →
        extension backup ≠ some "backup" := by
  obtain ⟨steps, returns, recovers, gone, -⟩ := recoverBackups_apply
    ((disk .schedules).listing "backup") Directory.pairwise_listing
    (fun _ => Directory.mem_listing) named
  exact ⟨_, by rw [recoverInterruptedReplacements, Filing.run_read_bind, Filing.run, returns],
    recovers, gone⟩

theorem recover_crashes (named : BackupsNamed (disk .schedules))
    (crashes : recoverInterruptedReplacements.Crashes disk crashed) : Recovering disk crashed := by
  obtain ⟨steps, returns, -, -, interrupted⟩ := recoverBackups_apply
    ((disk .schedules).listing "backup") Directory.pairwise_listing
    (fun _ => Directory.mem_listing) named
  rw [Filing.Crashes, recoverInterruptedReplacements, Filing.read_bind_apply, returns] at crashes
  exact interrupted crashed crashes

theorem RecoversFiles.recovering (recovers : RecoversFiles disk next) (named : BackupsNamed (disk .schedules)) :
    Recovering disk next ∧ ∀ backup content, (next .schedules)[backup]? = some content →
      extension backup ≠ some "backup" := by
  induction recovers with
  | finished returns =>
    obtain ⟨left, returns', recovering, gone⟩ := recover_run named
    cases returns.symm.trans returns'
    exact ⟨recovering, gone⟩
  | interrupted crashes _ ih =>
    have some := recover_crashes named crashes
    obtain ⟨others, gone⟩ := ih (some.named named)
    exact ⟨some.trans others, gone⟩

theorem RecoversFiles.leaves (recovers : RecoversFiles disk next) (named : BackupsNamed (disk .schedules))
    (schedule : extension name = some "json")
    (recoverable : Recoverable good (disk .schedules) name) : good (next .schedules)[name]? := by
  obtain ⟨recovering, gone⟩ := recovers.recovering named
  cases recovering.recoverable schedule recoverable with
  | present found holds => exact found ▸ holds
  | missing absent holds _ => exact absent ▸ holds
  | replaced _ backs _ _ => exact absurd backs.kind (gone _ _ backs.found)

end Recovery

section Writing

variable {disk next crashed : SchedulerDisk} {name nonce other : String} {bytes held : List UInt8}
  {fault : Option ReplacementFault}

/-- The disk behind the write of the temporary file. -/
def savedDisk (disk : SchedulerDisk) (name nonce : String) (bytes : List UInt8) : SchedulerDisk :=
  (FileStep.save .schedules (temporaryFile name nonce) bytes).apply disk

/-- The disk on which the old file has been moved to its backup. -/
def movedDisk (disk : SchedulerDisk) (name nonce : String) (bytes : List UInt8) : SchedulerDisk :=
  (FileStep.rename .schedules name (backupFile name nonce)).apply (savedDisk disk name nonce bytes)

/-- The step that puts the temporary file in place. -/
def placeStep (name nonce : String) : FileStep SchedulerDirectory :=
  .rename .schedules (temporaryFile name nonce) name

theorem Writable.apart (writable : Writable disk name nonce) : name ≠ temporaryFile name nonce ∧
    name ≠ backupFile name nonce ∧ temporaryFile name nonce ≠ backupFile name nonce := by
  refine ⟨?_, ?_, ?_⟩
  · exact ne_of_extension extension_temporaryFile (by rw [writable.schedule]; decide)
  · exact ne_of_extension extension_backupFile (by rw [writable.schedule]; decide)
  · exact ne_of_extension extension_backupFile (by rw [extension_temporaryFile]; decide)

theorem savedDisk_at : (savedDisk disk name nonce bytes .schedules)[other]? =
    if other = temporaryFile name nonce then some bytes else (disk .schedules)[other]? := by
  rw [savedDisk, save_at]
  simp [eq_comm (a := other)]

theorem movedDisk_at (writable : Writable disk name nonce)
    (present : (disk .schedules)[name]? = some held) :
    (movedDisk disk name nonce bytes .schedules)[other]? =
      if other = backupFile name nonce then some held
      else if other = name then none
      else if other = temporaryFile name nonce then some bytes else (disk .schedules)[other]? := by
  have found : (savedDisk disk name nonce bytes .schedules)[name]? = some held := by
    rw [savedDisk_at, if_neg writable.apart.1, present]
  rw [movedDisk, rename_at found, savedDisk_at]
  simp [eq_comm (a := other)]

/-- The steps of a write to a file that is there. -/
def replaceFileSteps (name nonce : String) (bytes : List UInt8) : List (FileStep SchedulerDirectory) :=
  [.save .schedules (temporaryFile name nonce) bytes, .rename .schedules name (backupFile name nonce),
    placeStep name nonce, .remove .schedules (backupFile name nonce)]

/-- The steps of a write to a file that is not there. -/
def createFileSteps (name nonce : String) (bytes : List UInt8) : List (FileStep SchedulerDirectory) :=
  [.save .schedules (temporaryFile name nonce) bytes, placeStep name nonce]

theorem placedDisk_at (writable : Writable disk name nonce)
    (present : (disk .schedules)[name]? = some held) :
    ((placeStep name nonce).apply (movedDisk disk name nonce bytes) .schedules)[other]? =
      if other = name then some bytes
      else if other = temporaryFile name nonce then none
      else if other = backupFile name nonce then some held else (disk .schedules)[other]? := by
  obtain ⟨notTemporary, notBackup, differs⟩ := writable.apart
  have found : (movedDisk disk name nonce bytes .schedules)[temporaryFile name nonce]? =
      some bytes := by
    rw [movedDisk_at writable present, if_neg differs, if_neg notTemporary.symm, if_pos rfl]
  rw [placeStep, rename_at found, movedDisk_at writable present]
  by_cases here : other = name
  · simp [here]
  · by_cases there : other = temporaryFile name nonce
    · simp [there, notTemporary, notTemporary.symm]
    · simp [here, there, Ne.symm here, Ne.symm there]

theorem createdDisk_at (writable : Writable disk name nonce) :
    ((placeStep name nonce).apply (savedDisk disk name nonce bytes) .schedules)[other]? =
      if other = name then some bytes
      else if other = temporaryFile name nonce then none else (disk .schedules)[other]? := by
  have found : (savedDisk disk name nonce bytes .schedules)[temporaryFile name nonce]? =
      some bytes := by
    rw [savedDisk_at, if_pos rfl]
  rw [placeStep, rename_at found, savedDisk_at]
  by_cases here : other = name
  · simp [here]
  · by_cases there : other = temporaryFile name nonce
    · simp [there, writable.apart.1, writable.apart.1.symm]
    · simp [here, there, Ne.symm here, Ne.symm there]

theorem writeJsonAtomic_present (writable : Writable disk name nonce)
    (present : (disk .schedules)[name]? = some held) (fails : fault = none ∨ fault = some .remove) :
    writeJsonAtomic fault name nonce bytes disk =
      if fault = none then (.ok (), replaceFileSteps name nonce bytes)
      else (reject .storage, (replaceFileSteps name nonce bytes).take 3) := by
  have unused : (disk .schedules).contains (temporaryFile name nonce) = false := by
    rw [Bool.eq_false_iff, ne_eq, StringMap.contains_iff, writable.temporary]
    simp
  have stays : (savedDisk disk name nonce bytes .schedules).contains name := by
    rw [StringMap.contains_iff, savedDisk_at, if_neg writable.apart.1]
    exact ⟨held, present⟩
  have backed : ((placeStep name nonce).apply (movedDisk disk name nonce bytes) .schedules).contains
      (backupFile name nonce) := by
    rw [StringMap.contains_iff, placedDisk_at writable present, if_neg writable.apart.2.1.symm,
      if_neg writable.apart.2.2.symm, if_pos rfl]
    exact ⟨held, rfl⟩
  rw [savedDisk] at stays
  rw [movedDisk, savedDisk, placeStep] at backed
  rcases fails with rfl | rfl <;>
  · simp only [writeJsonAtomic, unused, stays, backed, refuseIf, Filing.read_bind_apply,
      Filing.ofExcept_bind_apply, Filing.perform_bind_apply, Filing.onOk_ok, Bool.false_eq_true,
      reduceCtorEq, if_true, if_false]
    rfl

theorem writeJsonAtomic_absent (writable : Writable disk name nonce)
    (absent : (disk .schedules)[name]? = none) (fails : fault = none ∨ fault = some .remove) :
    writeJsonAtomic fault name nonce bytes disk = (.ok (), createFileSteps name nonce bytes) := by
  have unused : (disk .schedules).contains (temporaryFile name nonce) = false := by
    rw [Bool.eq_false_iff, ne_eq, StringMap.contains_iff, writable.temporary]
    simp
  have missing : (savedDisk disk name nonce bytes .schedules).contains name = false := by
    rw [Bool.eq_false_iff, ne_eq, StringMap.contains_iff, savedDisk_at, if_neg writable.apart.1,
      absent]
    simp
  have unbacked : ((placeStep name nonce).apply (savedDisk disk name nonce bytes) .schedules).contains
      (backupFile name nonce) = false := by
    rw [Bool.eq_false_iff, ne_eq, StringMap.contains_iff, createdDisk_at writable,
      if_neg writable.apart.2.1.symm, if_neg writable.apart.2.2.symm, writable.backup]
    simp
  rw [savedDisk] at missing
  rw [savedDisk, placeStep] at unbacked
  rcases fails with rfl | rfl <;>
  · simp only [writeJsonAtomic, unused, missing, unbacked, refuseIf, Filing.read_bind_apply,
      Filing.ofExcept_bind_apply, Filing.perform_bind_apply, Filing.onOk_ok, Bool.false_eq_true,
      reduceCtorEq, if_true, if_false]
    rfl

/-- How far a write has come, by the files other than the temporary ones. -/
inductive Progress (directory : Directory) (name backup : String) (bytes : List UInt8)
    (after : Directory) : Prop where
  | untouched : (∀ other, extension other ≠ some "tmp" → after[other]? = directory[other]?) →
      Progress directory name backup bytes after
  | moved {held : List UInt8} : directory[name]? = some held →
      (∀ other, extension other ≠ some "tmp" → after[other]? =
        if other = backup then some held else if other = name then none else directory[other]?) →
      Progress directory name backup bytes after
  | placed {held : List UInt8} : directory[name]? = some held →
      (∀ other, extension other ≠ some "tmp" → after[other]? =
        if other = backup then some held else if other = name then some bytes else directory[other]?) →
      Progress directory name backup bytes after
  | finished : (∀ other, extension other ≠ some "tmp" → after[other]? =
        if other = name then some bytes else directory[other]?) →
      Progress directory name backup bytes after

theorem savedDisk_other (kept : extension other ≠ some "tmp") :
    (savedDisk disk name nonce bytes .schedules)[other]? = (disk .schedules)[other]? := by
  rw [savedDisk_at, if_neg]
  rintro rfl
  exact kept extension_temporaryFile

theorem placedDisk_other (writable : Writable disk name nonce)
    (present : (disk .schedules)[name]? = some held) (kept : extension other ≠ some "tmp") :
    ((placeStep name nonce).apply (movedDisk disk name nonce bytes) .schedules)[other]? =
      if other = backupFile name nonce then some held
      else if other = name then some bytes else (disk .schedules)[other]? := by
  have notTemporary : other ≠ temporaryFile name nonce := by
    rintro rfl
    exact kept extension_temporaryFile
  rw [placedDisk_at writable present, if_neg notTemporary]
  by_cases here : other = name
  · simp [here, writable.apart.2.1]
  · simp [here]

theorem replacedDisk_at (writable : Writable disk name nonce)
    (present : (disk .schedules)[name]? = some held) :
    (applySteps (replaceFileSteps name nonce bytes) disk .schedules)[other]? =
      if other = name then some bytes
      else if other = temporaryFile name nonce then none else (disk .schedules)[other]? := by
  have removed : applySteps (replaceFileSteps name nonce bytes) disk =
      (FileStep.remove .schedules (backupFile name nonce)).apply
        ((placeStep name nonce).apply (movedDisk disk name nonce bytes)) := rfl
  rw [removed, remove_at, placedDisk_at writable present]
  by_cases here : other = backupFile name nonce
  · simp [here, writable.apart.2.1.symm, writable.backup]
  · simp [here, Ne.symm here]

theorem replacedDisk_other (writable : Writable disk name nonce)
    (present : (disk .schedules)[name]? = some held) (kept : extension other ≠ some "tmp") :
    (applySteps (replaceFileSteps name nonce bytes) disk .schedules)[other]? =
      if other = name then some bytes else (disk .schedules)[other]? := by
  have notTemporary : other ≠ temporaryFile name nonce := by
    rintro rfl
    exact kept extension_temporaryFile
  rw [replacedDisk_at writable present, if_neg notTemporary]

theorem createdDisk_other (writable : Writable disk name nonce)
    (kept : extension other ≠ some "tmp") :
    (applySteps (createFileSteps name nonce bytes) disk .schedules)[other]? =
      if other = name then some bytes else (disk .schedules)[other]? := by
  have notTemporary : other ≠ temporaryFile name nonce := by
    rintro rfl
    exact kept extension_temporaryFile
  have created : applySteps (createFileSteps name nonce bytes) disk =
      (placeStep name nonce).apply (savedDisk disk name nonce bytes) := rfl
  rw [created, createdDisk_at writable, if_neg notTemporary]

/-- A write that is interrupted has come some way. -/
theorem writeJsonAtomic_crashes (writable : Writable disk name nonce)
    (crashes : (writeJsonAtomic none name nonce bytes).Crashes disk crashed) :
    Progress (disk .schedules) name (backupFile name nonce) bytes (crashed .schedules) ∧
      crashed .executions = disk .executions := by
  rw [Filing.Crashes] at crashes
  cases present : (disk .schedules)[name]? with
  | none =>
    rw [writeJsonAtomic_absent writable present (.inl rfl)] at crashes
    refine ⟨?_, crashes.other (by simp [createFileSteps, placeStep, FileStep.directory])⟩
    cases crashes with
    | stopped => exact .untouched fun _ _ => rfl
    | torn _ => exact .untouched fun _ kept => savedDisk_other kept
    | passed later =>
      cases later with
      | stopped => exact .untouched fun _ kept => savedDisk_other kept
      | passed last =>
        rw [interrupted_nil] at last
        subst last
        exact .finished fun _ kept => createdDisk_other writable kept
  | some held =>
    rw [writeJsonAtomic_present writable present (.inl rfl), if_pos rfl] at crashes
    refine ⟨?_, crashes.other (by simp [replaceFileSteps, placeStep, FileStep.directory])⟩
    cases crashes with
    | stopped => exact .untouched fun _ _ => rfl
    | torn _ => exact .untouched fun _ kept => savedDisk_other kept
    | passed later =>
      cases later with
      | stopped => exact .untouched fun _ kept => savedDisk_other kept
      | passed later =>
        cases later with
        | stopped =>
          refine .moved present fun other kept => ?_
          have notTemporary : other ≠ temporaryFile name nonce := by
            rintro rfl
            exact kept extension_temporaryFile
          exact (movedDisk_at writable present).trans (by rw [if_neg notTemporary])
        | passed later =>
          cases later with
          | stopped => exact .placed present fun _ kept => placedDisk_other writable present kept
          | passed last =>
            rw [interrupted_nil] at last
            subst last
            exact .finished fun _ kept => replacedDisk_other writable present kept

theorem writeJsonAtomic_run (writable : Writable disk name nonce)
    (fails : fault = none ∨ fault = some .remove) {outcome : Fallible SchedulerDependencyError Unit}
    (returns : (writeJsonAtomic fault name nonce bytes).run disk = (outcome, next)) :
    (fault = none → outcome = .ok ()) ∧ next .executions = disk .executions ∧
      ((∀ other, extension other ≠ some "tmp" → (next .schedules)[other]? =
          if other = name then some bytes else (disk .schedules)[other]?) ∨
        fault = some .remove ∧ ∃ held, (disk .schedules)[name]? = some held ∧
          ∀ other, extension other ≠ some "tmp" → (next .schedules)[other]? =
            if other = backupFile name nonce then some held
            else if other = name then some bytes else (disk .schedules)[other]?) := by
  rw [Filing.run] at returns
  cases present : (disk .schedules)[name]? with
  | none =>
    rw [writeJsonAtomic_absent writable present fails] at returns
    cases returns
    exact ⟨fun _ => rfl, rfl, .inl fun _ kept => createdDisk_other writable kept⟩
  | some held =>
    rw [writeJsonAtomic_present writable present fails] at returns
    split at returns
    · cases returns
      exact ⟨fun _ => rfl, rfl, .inl fun _ kept => replacedDisk_other writable present kept⟩
    · next refused =>
      cases returns
      exact ⟨fun fine => absurd fine refused, rfl, .inr ⟨fails.resolve_left refused, held, rfl,
        fun _ kept => placedDisk_other writable present kept⟩⟩

end Writing

section Runs

variable {start disk next crashed : SchedulerDisk} {directory after : Directory}
  {name nonce other : String} {bytes content : List UInt8} {good : Option (List UInt8) → Prop}
  {replacement : Replacement} {replacements : List Replacement}

/-- Every backup belongs to a schedule file that is there. -/
structure Intact (directory : Directory) : Prop where
  named : BackupsNamed directory
  unbacked : ∀ name, extension name = some "json" → directory[name]? = none →
    ∀ backup content, ¬ Backs directory name backup content

theorem intact_of_no_backup (gone : ∀ backup content, directory[backup]? = some content →
    extension backup ≠ some "backup") : Intact directory where
  named backup content found kind := absurd kind (gone backup content found)
  unbacked _ _ _ backup content backs := gone backup content backs.found backs.kind

theorem Intact.recoverable (intact : Intact directory) (schedule : extension name = some "json")
    (same : after[name]? = directory[name]?)
    (fewer : ∀ backup content, Backs after name backup content → Backs directory name backup content)
    (holds : good directory[name]?) : Recoverable good after name := by
  cases held : directory[name]? with
  | some content => exact .present (same.trans held) (held ▸ holds)
  | none =>
    refine .missing (same.trans held) (held ▸ holds) fun backup content backs => ?_
    exact intact.unbacked name schedule held backup content (fewer backup content backs)

theorem Progress.backups (progress : Progress directory name (backupFile name nonce) bytes after)
    (schedule : extension name = some "json") {backup : String} (found : after[backup]? = some content)
    (kind : extension backup = some "backup") :
    directory[backup]? = some content ∨ backup = backupFile name nonce := by
  have kept : extension backup ≠ some "tmp" := by
    rw [kind]
    decide
  have apart : backup ≠ name := ne_of_extension schedule (by rw [kind]; decide)
  cases progress with
  | untouched same => exact .inl ((same backup kept).symm.trans found)
  | moved _ same | placed _ same =>
    rw [same backup kept, if_neg apart] at found
    split at found
    · next own => exact .inr own
    · exact .inl found
  | finished same =>
    rw [same backup kept, if_neg apart] at found
    exact .inl found

theorem Progress.named (progress : Progress directory name (backupFile name nonce) bytes after)
    (schedule : extension name = some "json") (undotted : '.' ∉ nonce.toList)
    (named : BackupsNamed directory) : BackupsNamed after := by
  intro backup content found kind
  rcases progress.backups schedule found kind with older | rfl
  · exact named backup content older kind
  · exact ⟨name, replacedName_backupFile undotted, schedule⟩

theorem Progress.others (progress : Progress directory name (backupFile name nonce) bytes after)
    (schedule : extension other = some "json") (differs : other ≠ name) :
    after[other]? = directory[other]? := by
  have kept : extension other ≠ some "tmp" := by
    rw [schedule]
    decide
  have apart : other ≠ backupFile name nonce :=
    ne_of_extension extension_backupFile (by rw [schedule]; decide)
  cases progress with
  | untouched same => exact same other kept
  | moved _ same | placed _ same => rw [same other kept, if_neg apart, if_neg differs]
  | finished same => rw [same other kept, if_neg differs]

theorem exists_first_backup {backup : String} (backs : Backs directory name backup content) :
    ∃ first kept, Backs directory name first kept ∧ ∀ other content,
      Backs directory name other content → other = first ∨ compare first other = .lt := by
  have listed : ∀ other, other ∈ (directory.listing "backup").filter (replacedName · = some name) ↔
      ∃ content, Backs directory name other content := by
    intro other
    rw [List.mem_filter, Directory.mem_listing, decide_eq_true_iff]
    constructor
    · rintro ⟨⟨⟨content, found⟩, kind⟩, belongs⟩
      exact ⟨content, found, kind, belongs⟩
    · rintro ⟨content, found, kind, belongs⟩
      exact ⟨⟨⟨content, found⟩, kind⟩, belongs⟩
  have ordered : ((directory.listing "backup").filter (replacedName · = some name)).Pairwise
      fun left right => compare left right = .lt := Directory.pairwise_listing.filter _
  have member := (listed backup).mpr ⟨content, backs⟩
  generalize (directory.listing "backup").filter (replacedName · = some name) = backups at *
  cases backups with
  | nil => cases member
  | cons first rest =>
    obtain ⟨kept, firstBacks⟩ := (listed first).mp List.mem_cons_self
    refine ⟨first, kept, firstBacks, fun other content later => ?_⟩
    rcases List.mem_cons.mp ((listed other).mpr ⟨content, later⟩) with same | behind
    · exact .inl same
    · exact .inr ((List.pairwise_cons.mp ordered).1 other behind)

/-- A file is recovered from an interrupted write where its old content, its new content and the
content of its first backup are good. -/
theorem Progress.recoverable (progress : Progress directory name (backupFile name nonce) bytes after)
    (intact : Intact directory) (schedule : extension name = some "json")
    (undotted : '.' ∉ nonce.toList) (old : good directory[name]?) (new : good (some bytes))
    (backed : ∀ held first kept, directory[name]? = some held → after[name]? = none →
      after[backupFile name nonce]? = some held → Backs after name first kept →
      (∀ other content, Backs after name other content → other = first ∨ compare first other = .lt) →
      good (some kept)) : Recoverable good after name := by
  have kept : extension name ≠ some "tmp" := by
    rw [schedule]
    decide
  have apart : name ≠ backupFile name nonce :=
    ne_of_extension extension_backupFile (by rw [schedule]; decide)
  cases progress with
  | untouched same =>
    refine intact.recoverable schedule (same name kept) (fun backup content backs => ?_) old
    have persists := same backup (by rw [backs.kind]; decide)
    exact ⟨persists ▸ backs.found, backs.kind, backs.name⟩
  | moved present same =>
    have absent : after[name]? = none := by rw [same name kept, if_neg apart, if_pos rfl]
    have own := (same (backupFile name nonce) (by rw [extension_backupFile]; decide)).trans (if_pos rfl)
    obtain ⟨first, content, backs, least⟩ := exists_first_backup
      ⟨own, extension_backupFile, replacedName_backupFile undotted⟩
    exact .replaced absent backs (backed _ first content present absent own backs least) least
  | placed _ same => exact .present (by rw [same name kept, if_neg apart, if_pos rfl]) new
  | finished same => exact .present (by rw [same name kept, if_pos rfl]) new

theorem Progress.recoverable_other
    (progress : Progress directory name (backupFile name nonce) bytes after)
    (intact : Intact directory) (schedule : extension name = some "json")
    (undotted : '.' ∉ nonce.toList) (isSchedule : extension other = some "json")
    (differs : other ≠ name) (old : good directory[other]?) : Recoverable good after other := by
  refine intact.recoverable isSchedule (progress.others isSchedule differs) ?_ old
  intro backup content backs
  rcases progress.backups schedule backs.found backs.kind with older | rfl
  · exact ⟨older, backs.kind, backs.name⟩
  · have own := (replacedName_backupFile undotted).symm.trans backs.name
    exact absurd (Option.some.inj own).symm differs

/-- A write that returns leaves its content, and all other files as they are. -/
theorem Replaces.returned {fault : Option ReplacementFault}
    (replaces : Replaces disk (.returned name nonce bytes fault) next)
    (intact : Intact (disk .schedules)) : Intact (next .schedules) ∧
      ∀ other, extension other = some "json" → (next .schedules)[other]? =
        if other = name then some bytes else (disk .schedules)[other]? := by
  obtain ⟨writable, fails, outcome, returns⟩ := replaces
  have schedule := writable.schedule
  have kept : extension name ≠ some "tmp" := by
    rw [schedule]
    decide
  obtain ⟨-, -, finishes⟩ := writeJsonAtomic_run writable fails returns
  have progress : Progress (disk .schedules) name (backupFile name nonce) bytes (next .schedules) := by
    rcases finishes with finished | ⟨-, held, present, placed⟩
    · exact .finished finished
    · exact .placed present placed
  have written : (next .schedules)[name]? = some bytes := by
    rcases finishes with finished | ⟨-, held, present, placed⟩
    · rw [finished name kept, if_pos rfl]
    · rw [placed name kept, if_neg writable.apart.2.1, if_pos rfl]
  have contents : ∀ other, extension other = some "json" → (next .schedules)[other]? =
      if other = name then some bytes else (disk .schedules)[other]? := by
    intro other isSchedule
    split
    · next same => rw [same, written]
    · next differs => exact progress.others isSchedule differs
  refine ⟨⟨progress.named schedule writable.undotted intact.named, ?_⟩, contents⟩
  intro other isSchedule absent backup content backs
  rw [contents other isSchedule] at absent
  split at absent
  · cases absent
  · next differs =>
    rcases progress.backups schedule backs.found backs.kind with older | rfl
    · exact intact.unbacked other isSchedule absent backup content ⟨older, backs.kind, backs.name⟩
    · have own := (replacedName_backupFile writable.undotted).symm.trans backs.name
      exact differs (Option.some.inj own).symm

/-- What an interrupted write and its recovery leave of a file is good, where the old content, the new
content and the content of its first backup are. -/
theorem Replaces.interrupted (good : Option (List UInt8) → Prop)
    (replaces : Replaces disk (.interrupted name nonce bytes crashed) next)
    (intact : Intact (disk .schedules)) (isSchedule : extension other = some "json")
    (old : good (disk .schedules)[other]?) (new : other = name → good (some bytes))
    (backed : other = name → ∀ held first kept, (disk .schedules)[name]? = some held →
      (crashed .schedules)[name]? = none →
      (crashed .schedules)[backupFile name nonce]? = some held →
      Backs (crashed .schedules) name first kept → (∀ other content,
        Backs (crashed .schedules) name other content → other = first ∨ compare first other = .lt) →
      good (some kept)) : good (next .schedules)[other]? := by
  obtain ⟨writable, crashes, recovers⟩ := replaces
  obtain ⟨progress, -⟩ := writeJsonAtomic_crashes writable crashes
  have named := progress.named writable.schedule writable.undotted intact.named
  refine recovers.leaves named isSchedule ?_
  by_cases own : other = name
  · subst own
    exact progress.recoverable intact isSchedule writable.undotted old (new rfl) (backed rfl)
  · exact progress.recoverable_other intact writable.schedule writable.undotted isSchedule own old

theorem RecoversFiles.of_intact (recovers : RecoversFiles disk next) (intact : Intact (disk .schedules))
    (isSchedule : extension other = some "json") :
    (next .schedules)[other]? = (disk .schedules)[other]? := by
  have recoverable : Recoverable (· = (disk .schedules)[other]?) (disk .schedules) other :=
    intact.recoverable isSchedule rfl (fun _ _ backs => backs) rfl
  exact recovers.leaves intact.named isSchedule recoverable

theorem Replaces.intact (replaces : Replaces disk replacement next)
    (intact : Intact (disk .schedules)) : Intact (next .schedules) := by
  cases replacement with
  | returned name nonce bytes fault => exact (replaces.returned intact).1
  | interrupted name nonce bytes crashed =>
    obtain ⟨writable, crashes, recovers⟩ := replaces
    obtain ⟨progress, -⟩ := writeJsonAtomic_crashes writable crashes
    have named := progress.named writable.schedule writable.undotted intact.named
    exact intact_of_no_backup (recovers.recovering named).2
  | restarted => exact intact_of_no_backup (RecoversFiles.recovering replaces intact.named).2

theorem Replaces.keeps (replaces : Replaces disk replacement next) (intact : Intact (disk .schedules))
    (isSchedule : extension other = some "json") (present : (disk .schedules)[other]? ≠ none) :
    (next .schedules)[other]? ≠ none := by
  cases replacement with
  | returned name nonce bytes fault =>
    rw [(replaces.returned intact).2 other isSchedule]
    split
    · exact nofun
    · exact present
  | interrupted name nonce bytes crashed =>
    exact Replaces.interrupted (· ≠ none) replaces intact isSchedule present (fun _ => nofun)
      fun _ _ _ _ _ _ _ _ _ => nofun
  | restarted => rwa [RecoversFiles.of_intact replaces intact isSchedule]

/-- Where its backup comes first, a write leaves the old content or its own. -/
theorem Replaces.leaves (replaces : Replaces disk replacement next) (intact : Intact (disk .schedules))
    (first : replacement.BacksFirst disk) (isSchedule : extension other = some "json") :
    (next .schedules)[other]? ∈ replacement.leaves other (disk .schedules)[other]? := by
  cases replacement with
  | returned name nonce bytes fault =>
    rw [(replaces.returned intact).2 other isSchedule, Replacement.leaves]
    by_cases same : name = other
    · simp [same]
    · simp [same, Ne.symm same]
  | interrupted name nonce bytes crashed =>
    refine Replaces.interrupted (· ∈ _) replaces intact isSchedule ?_ (fun same => ?_) ?_
    · rw [Replacement.leaves]
      split <;> simp
    · simp [Replacement.leaves, same]
    · rintro rfl held least kept present absent own backs before
      obtain ⟨writable, crashes, -⟩ := replaces
      obtain ⟨progress, -⟩ := writeJsonAtomic_crashes writable crashes
      -- The own backup comes before all older ones, so that it is the first.
      have same : backupFile other nonce = least := by
        rcases before _ _ ⟨own, extension_backupFile, replacedName_backupFile writable.undotted⟩
          with same | after
        · exact same
        · rcases progress.backups isSchedule backs.found backs.kind with older | own'
          · have before := first absent least kept ⟨older, backs.kind, backs.name⟩
            exact absurd after (Std.OrientedCmp.not_lt_of_lt before)
          · exact own'.symm
      subst same
      cases own.symm.trans backs.found
      rw [present]
      simp [Replacement.leaves]
  | restarted =>
    rw [RecoversFiles.of_intact replaces intact isSchedule]
    exact List.mem_singleton_self _

theorem mayHold_append (held : Option (List UInt8)) :
    mayHold name held (replacements ++ [replacement]) =
      (mayHold name held replacements).flatMap fun content => replacement.leaves name content := by
  induction replacements generalizing held with
  | nil => simp [mayHold]
  | cons first rest ih => simp [mayHold, ih, List.flatMap_assoc]

/-- Over every run from files without backups: recovery returns, and no schedule disappears; where the
backups of interrupted writes come first, each file holds what the last write that returned left, or
a write that was interrupted since, and the next replacement leaves this content or its own. -/
theorem replacement_recovers (clean : ∀ backup content, (start .schedules)[backup]? = some content →
      extension backup ≠ some "backup") :
    (∀ replacements disk, Run Replaces start replacements disk →
      (∃ next, recoverInterruptedReplacements.run disk = (.ok (), next)) ∧
      ∀ replacement next name, Replaces disk replacement next → extension name = some "json" →
        (disk .schedules)[name]? ≠ none → (next .schedules)[name]? ≠ none) ∧
    ∀ replacements disk, Run (fun disk replacement next => Replaces disk replacement next ∧
        replacement.BacksFirst disk) start replacements disk →
      ∀ name, extension name = some "json" →
        (disk .schedules)[name]? ∈ mayHold name (start .schedules)[name]? replacements ∧
        ∀ replacement next, Replaces disk replacement next → replacement.BacksFirst disk →
          (next .schedules)[name]? ∈ replacement.leaves name (disk .schedules)[name]? := by
  have initially := intact_of_no_backup clean
  constructor
  · intro replacements disk run
    have intact : Intact (disk .schedules) := by
      induction run with
      | nil => exact initially
      | snoc _ replaces ih => exact replaces.intact ih
    refine ⟨?_, fun replacement next name replaces isSchedule present => ?_⟩
    · obtain ⟨next, returns, -⟩ := recover_run intact.named
      exact ⟨next, returns⟩
    · exact replaces.keeps intact isSchedule present
  · intro replacements disk run name isSchedule
    have holds : Intact (disk .schedules) ∧
        (disk .schedules)[name]? ∈ mayHold name (start .schedules)[name]? replacements := by
      induction run with
      | nil => exact ⟨initially, List.mem_singleton_self _⟩
      | snoc _ replaces ih =>
        obtain ⟨replaces, first⟩ := replaces
        refine ⟨replaces.intact ih.1, ?_⟩
        rw [mayHold_append, List.mem_flatMap]
        exact ⟨_, ih.2, replaces.leaves ih.1 first isSchedule⟩
    exact ⟨holds.2, fun replacement next replaces first => replaces.leaves holds.1 first isSchedule⟩

end Runs

section Sample

/-- The disk behind the first write of a schedule file. -/
def firstDisk : SchedulerDisk := applySteps (createFileSteps "a.json" "1" [1]) emptySchedulerDisk

/-- The disk behind the second write, whose backup is not removed. -/
def secondDisk : SchedulerDisk := applySteps ((replaceFileSteps "a.json" "2" [2]).take 3) firstDisk

/-- The disk behind the third write. -/
def thirdDisk : SchedulerDisk := applySteps (replaceFileSteps "a.json" "3" [3]) secondDisk

/-- The disk that an interruption of the fourth write leaves. -/
def fourthDisk : SchedulerDisk := movedDisk thirdDisk "a.json" "4" [4]

theorem emptySchedulerDisk_at (directory : SchedulerDirectory) (name : String) :
    (emptySchedulerDisk directory)[name]? = none :=
  Std.ExtTreeMap.getElem?_empty

theorem writable_first : Writable emptySchedulerDisk "a.json" "1" where
  schedule := by decide
  undotted := by decide
  temporary := emptySchedulerDisk_at _ _
  backup := emptySchedulerDisk_at _ _

theorem firstDisk_at (name : String) : (firstDisk .schedules)[name]? =
    if name = "a.json" then some [1] else none := by
  have created : firstDisk = (placeStep "a.json" "1").apply
      (savedDisk emptySchedulerDisk "a.json" "1" [1]) := rfl
  rw [created, createdDisk_at writable_first, emptySchedulerDisk_at]
  simp

theorem writable_second : Writable firstDisk "a.json" "2" where
  schedule := by decide
  undotted := by decide
  temporary := by rw [firstDisk_at, if_neg (by decide)]
  backup := by rw [firstDisk_at, if_neg (by decide)]

theorem secondDisk_at (name : String) : (secondDisk .schedules)[name]? =
    if name = "a.json" then some [2] else if name = "a.json.2.backup" then some [1] else none := by
  have placed : secondDisk = (placeStep "a.json" "2").apply (movedDisk firstDisk "a.json" "2" [2]) :=
    rfl
  have backup : backupFile "a.json" "2" = "a.json.2.backup" := by decide
  have present : (firstDisk .schedules)["a.json"]? = some [1] := by rw [firstDisk_at, if_pos rfl]
  have temporary : temporaryFile "a.json" "2" = "a.2.tmp" := by decide
  rw [placed, placedDisk_at writable_second present, firstDisk_at, backup, temporary]
  by_cases here : name = "a.json"
  · simp [here]
  · by_cases there : name = "a.2.tmp" <;> simp [here, there]

theorem writable_third : Writable secondDisk "a.json" "3" where
  schedule := by decide
  undotted := by decide
  temporary := by rw [secondDisk_at, if_neg (by decide), if_neg (by decide)]
  backup := by rw [secondDisk_at, if_neg (by decide), if_neg (by decide)]

theorem thirdDisk_at (name : String) : (thirdDisk .schedules)[name]? =
    if name = "a.json" then some [3] else if name = "a.json.2.backup" then some [1] else none := by
  have present : (secondDisk .schedules)["a.json"]? = some [2] := by rw [secondDisk_at, if_pos rfl]
  have temporary : temporaryFile "a.json" "3" = "a.3.tmp" := by decide
  rw [thirdDisk, replacedDisk_at writable_third present, secondDisk_at, temporary]
  by_cases here : name = "a.json"
  · simp [here]
  · by_cases there : name = "a.3.tmp" <;> simp [here, there]

theorem writable_fourth : Writable thirdDisk "a.json" "4" where
  schedule := by decide
  undotted := by decide
  temporary := by rw [thirdDisk_at, if_neg (by decide), if_neg (by decide)]
  backup := by rw [thirdDisk_at, if_neg (by decide), if_neg (by decide)]

theorem fourthDisk_at (name : String) : (fourthDisk .schedules)[name]? =
    if name = "a.json.4.backup" then some [3]
    else if name = "a.json" then none
    else if name = "a.4.tmp" then some [4]
    else if name = "a.json.2.backup" then some [1] else none := by
  have present : (thirdDisk .schedules)["a.json"]? = some [3] := by rw [thirdDisk_at, if_pos rfl]
  have backup : backupFile "a.json" "4" = "a.json.4.backup" := by decide
  have temporary : temporaryFile "a.json" "4" = "a.4.tmp" := by decide
  rw [fourthDisk, movedDisk_at writable_fourth present, thirdDisk_at, backup, temporary]
  by_cases here : name = "a.json" <;> simp [here]

theorem fourthDisk_first {name : String} {content : List UInt8}
    (backs : Backs (fourthDisk .schedules) "a.json" name content) :
    name = "a.json.2.backup" ∨ compare "a.json.2.backup" name = .lt := by
  have found := backs.found
  rw [fourthDisk_at] at found
  by_cases own : name = "a.json.4.backup"
  · right
    rw [own]
    decide
  · by_cases temporary : name = "a.4.tmp"
    · have kind := backs.kind
      rw [temporary] at kind
      exact absurd kind (by decide)
    · left
      by_contra differs
      simp [own, temporary, differs] at found

/-- The first three writes of the sample. -/
def sampleWrites : List Replacement :=
  [.returned "a.json" "1" [1] none, .returned "a.json" "2" [2] (some .remove),
    .returned "a.json" "3" [3] none]

theorem replaces_first : Replaces emptySchedulerDisk (.returned "a.json" "1" [1] none) firstDisk := by
  refine ⟨writable_first, .inl rfl, .ok (), ?_⟩
  rw [Filing.run, writeJsonAtomic_absent writable_first (emptySchedulerDisk_at _ _) (.inl rfl)]
  rfl

theorem sampleWrites_run : Run Replaces emptySchedulerDisk sampleWrites thirdDisk := by
  have second : Replaces firstDisk (.returned "a.json" "2" [2] (some .remove)) secondDisk := by
    have present : (firstDisk .schedules)["a.json"]? = some [1] := by rw [firstDisk_at, if_pos rfl]
    refine ⟨writable_second, .inr rfl, reject .storage, ?_⟩
    rw [Filing.run, writeJsonAtomic_present writable_second present (.inr rfl), if_neg (by decide)]
    rfl
  have third : Replaces secondDisk (.returned "a.json" "3" [3] none) thirdDisk := by
    have present : (secondDisk .schedules)["a.json"]? = some [2] := by rw [secondDisk_at, if_pos rfl]
    refine ⟨writable_third, .inl rfl, .ok (), ?_⟩
    rw [Filing.run, writeJsonAtomic_present writable_third present (.inl rfl), if_pos rfl]
    rfl
  exact ((Run.nil.snoc replaces_first).snoc second).snoc third

/-- Behind its first write the sample's file holds what was written. -/
theorem replacement_recovers_sample : (firstDisk .schedules)["a.json"]? ∈
    mayHold "a.json" none [.returned "a.json" "1" [1] none] := by
  have clean : ∀ backup content, (emptySchedulerDisk .schedules)[backup]? = some content →
      extension backup ≠ some "backup" := by
    intro backup content found
    cases (emptySchedulerDisk_at _ _).symm.trans found
  have holds := (replacement_recovers clean).2 _ _ (Run.nil.snoc ⟨replaces_first, trivial⟩) "a.json"
    (by decide)
  rw [emptySchedulerDisk_at] at holds
  exact holds.1

/-- Recovery of the interrupted fourth write leaves the content of the first one, although the third
one has returned. -/
theorem not_replacement_recovers : ∃ disk, Run Replaces emptySchedulerDisk
      (sampleWrites ++ [.interrupted "a.json" "4" [4] fourthDisk]) disk ∧
    (disk .schedules)["a.json"]? = some [1] ∧
    some [1] ∉ mayHold "a.json" none (sampleWrites ++ [.interrupted "a.json" "4" [4] fourthDisk]) := by
  have present : (thirdDisk .schedules)["a.json"]? = some [3] := by rw [thirdDisk_at, if_pos rfl]
  have crashes : (writeJsonAtomic none "a.json" "4" [4]).Crashes thirdDisk fourthDisk := by
    rw [Filing.Crashes, writeJsonAtomic_present writable_fourth present (.inl rfl), if_pos rfl]
    exact .passed (.passed .stopped)
  have intact : Intact (thirdDisk .schedules) := by
    have initially := intact_of_no_backup fun backup content found =>
      absurd ((emptySchedulerDisk_at .schedules backup).symm.trans found) (by simp)
    exact sampleWrites_run.invariant initially fun _ _ _ replaces ih => replaces.intact ih
  obtain ⟨progress, -⟩ := writeJsonAtomic_crashes writable_fourth crashes
  have named := progress.named writable_fourth.schedule writable_fourth.undotted intact.named
  obtain ⟨disk, returns, -⟩ := recover_run named
  have recovers := RecoversFiles.finished returns
  refine ⟨disk, sampleWrites_run.snoc ⟨writable_fourth, crashes, recovers⟩, ?_, by decide⟩
  -- The stale backup of the first content comes before that of the third.
  have absent : (fourthDisk .schedules)["a.json"]? = none := by
    rw [fourthDisk_at, if_neg (by decide), if_pos rfl]
  have stale : Backs (fourthDisk .schedules) "a.json" "a.json.2.backup" [1] := by
    refine ⟨?_, by decide, by decide⟩
    rw [fourthDisk_at]
    simp
  have recoverable : Recoverable (· = some [1]) (fourthDisk .schedules) "a.json" :=
    .replaced absent stale rfl fun _ _ => fourthDisk_first
  exact recovers.leaves named (by decide) recoverable

end Sample

end AgentMod
