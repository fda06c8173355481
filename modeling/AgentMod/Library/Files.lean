import AgentMod.Library.Result
import AgentMod.Verified.Primitives.Collections

/-! Operations on files, step by step, the disks that a crash in the middle of one leaves, and the parts of file names. -/

namespace AgentMod

/-- The files of a directory, by their names. -/
abbrev Directory := StringMap (List UInt8)

/-- The directories of a disk. -/
abbrev Disk (δ : Type) := δ → Directory

/-- A step of an operation that the disk performs. -/
inductive FileStep (δ : Type) where
  | save (directory : δ) (name : String) (content : List UInt8)
  | rename (directory : δ) (source target : String)
  | remove (directory : δ) (name : String)

/-- The directory that a step changes. -/
def FileStep.directory {δ : Type} : FileStep δ → δ
  | .save directory _ _ => directory
  | .rename directory _ _ => directory
  | .remove directory _ => directory

/-- Moves a file that is there. -/
def Directory.rename (directory : Directory) (source target : String) : Directory :=
  match directory[source]? with
  | some content => (directory.erase source).insert target content
  | none => directory

/-- What a step makes of the directory that it changes. -/
def FileStep.change {δ : Type} : FileStep δ → Directory → Directory
  | .save _ name content, directory => directory.insert name content
  | .rename _ source target, directory => directory.rename source target
  | .remove _ name, directory => directory.erase name

section Disks

variable {δ : Type} [DecidableEq δ]

/-- The disk behind a step. -/
def FileStep.apply (step : FileStep δ) (disk : Disk δ) : Disk δ :=
  fun directory =>
    if directory = step.directory then step.change (disk directory) else disk directory

/-- The disk behind some steps. -/
def applySteps (steps : List (FileStep δ)) (disk : Disk δ) : Disk δ :=
  steps.foldl (fun disk step => step.apply disk) disk

/-- A crash leaves the disk behind the first steps; of a file that is being saved, it may leave some
first bytes. -/
inductive Interrupted : List (FileStep δ) → Disk δ → Disk δ → Prop where
  | stopped {steps : List (FileStep δ)} {disk : Disk δ} : Interrupted steps disk disk
  | torn {directory : δ} {name : String} {content part : List UInt8} {rest : List (FileStep δ)}
      {disk : Disk δ} : part <+: content →
      Interrupted (.save directory name content :: rest) disk
        ((FileStep.save directory name part).apply disk)
  | passed {step : FileStep δ} {rest : List (FileStep δ)} {disk crashed : Disk δ} :
      Interrupted rest (step.apply disk) crashed → Interrupted (step :: rest) disk crashed

end Disks

/-- An operation on a disk: what it returns, and the steps that it takes to get there. -/
def Filing (δ ε α : Type) := Disk δ → Except ε α × List (FileStep δ)

namespace Filing

variable {δ ε α β : Type}

/-- Reads the disk. -/
def read : Filing δ ε (Disk δ) := fun disk => (.ok disk, [])

/-- Takes a step. -/
def perform (step : FileStep δ) : Filing δ ε Unit := fun _ => (.ok (), [step])

/-- Takes the outcome of a computation that touches no file. -/
def ofExcept (outcome : Except ε α) : Filing δ ε α := fun _ => (outcome, [])

/-- Goes on where an outcome is a value. -/
def onOk (outcome : Except ε α) (next : α → Except ε β × List (FileStep δ)) :
    Except ε β × List (FileStep δ) :=
  match outcome with
  | .ok value => next value
  | .error error => (.error error, [])

variable [DecidableEq δ]

/-- Runs an operation on a disk: what it returns, and the disk that it leaves. -/
def run (operation : Filing δ ε α) (disk : Disk δ) : Except ε α × Disk δ :=
  ((operation disk).1, applySteps (operation disk).2 disk)

/-- Continues on the disk that the first operation leaves, and stops where that fails. -/
def andThen (first : Filing δ ε α) (next : α → Filing δ ε β) : Filing δ ε β := fun disk =>
  match first disk with
  | (.ok value, steps) =>
    ((next value (applySteps steps disk)).1, steps ++ (next value (applySteps steps disk)).2)
  | (.error error, steps) => (.error error, steps)

instance : Monad (Filing δ ε) where
  pure value := ofExcept (.ok value)
  bind := andThen

/-- A crash in the middle of an operation leaves the disk. -/
def Crashes (operation : Filing δ ε α) (disk crashed : Disk δ) : Prop :=
  Interrupted (operation disk).2 disk crashed

end Filing

section Laws

variable {δ ε α β : Type} [DecidableEq δ]

@[simp] theorem FileStep.apply_directory (step : FileStep δ) (disk : Disk δ) :
    step.apply disk step.directory = step.change (disk step.directory) := if_pos rfl

theorem FileStep.apply_other {step : FileStep δ} {disk : Disk δ} {directory : δ}
    (other : directory ≠ step.directory) : step.apply disk directory = disk directory :=
  if_neg other

theorem save_at {saved directory : δ} {name other : String} {content : List UInt8} {disk : Disk δ} :
    ((FileStep.save saved name content).apply disk directory)[other]? =
      if directory = saved ∧ name = other then some content else (disk directory)[other]? := by
  by_cases here : directory = saved
  · rw [here, FileStep.apply, FileStep.directory, if_pos rfl, FileStep.change, StringMap.getElem?_insert']
    simp
  · rw [FileStep.apply_other here, if_neg fun both => here both.1]

theorem remove_at {removed directory : δ} {name other : String} {disk : Disk δ} :
    ((FileStep.remove removed name).apply disk directory)[other]? =
      if directory = removed ∧ name = other then none else (disk directory)[other]? := by
  by_cases here : directory = removed
  · rw [here, FileStep.apply, FileStep.directory, if_pos rfl, FileStep.change, StringMap.getElem?_erase']
    simp
  · rw [FileStep.apply_other here, if_neg fun both => here both.1]

theorem rename_at {moved directory : δ} {source target other : String} {content : List UInt8}
    {disk : Disk δ} (found : (disk moved)[source]? = some content) :
    ((FileStep.rename moved source target).apply disk directory)[other]? =
      if directory = moved ∧ target = other then some content
      else if directory = moved ∧ source = other then none else (disk directory)[other]? := by
  by_cases here : directory = moved
  · rw [here, FileStep.apply, FileStep.directory, if_pos rfl, FileStep.change, Directory.rename, found]
    simp [StringMap.getElem?_insert', StringMap.getElem?_erase']
  · rw [FileStep.apply_other here, if_neg fun both => here both.1, if_neg fun both => here both.1]

@[simp] theorem applySteps_nil (disk : Disk δ) : applySteps [] disk = disk := rfl

@[simp] theorem applySteps_cons (step : FileStep δ) (rest : List (FileStep δ)) (disk : Disk δ) :
    applySteps (step :: rest) disk = applySteps rest (step.apply disk) := rfl

theorem applySteps_append (first second : List (FileStep δ)) (disk : Disk δ) :
    applySteps (first ++ second) disk = applySteps second (applySteps first disk) :=
  List.foldl_append

theorem interrupted_nil {disk crashed : Disk δ} : Interrupted [] disk crashed ↔ crashed = disk := by
  constructor
  · rintro ⟨⟩
    rfl
  · rintro rfl
    exact .stopped

theorem interrupted_append {first second : List (FileStep δ)} {disk crashed : Disk δ} :
    Interrupted (first ++ second) disk crashed ↔
      Interrupted first disk crashed ∨ Interrupted second (applySteps first disk) crashed := by
  induction first generalizing disk with
  | nil =>
    rw [List.nil_append, applySteps_nil, interrupted_nil]
    exact ⟨.inr, fun cases => cases.elim (fun same => same ▸ .stopped) id⟩
  | cons step rest ih =>
    rw [List.cons_append, applySteps_cons]
    constructor
    · intro crashes
      cases crashes with
      | stopped => exact .inl .stopped
      | torn part => exact .inl (.torn part)
      | passed later => exact (ih.mp later).imp_left .passed
    · rintro (early | late)
      · cases early with
        | stopped => exact .stopped
        | torn part => exact .torn part
        | passed later => exact .passed (ih.mpr (.inl later))
      · exact .passed (ih.mpr (.inr late))

theorem Interrupted.complete (steps : List (FileStep δ)) (disk : Disk δ) :
    Interrupted steps disk (applySteps steps disk) := by
  induction steps generalizing disk with
  | nil => exact .stopped
  | cons step rest ih => exact .passed (ih _)

theorem Interrupted.other {steps : List (FileStep δ)} {disk crashed : Disk δ} {directory : δ}
    (crashes : Interrupted steps disk crashed)
    (others : ∀ step ∈ steps, step.directory ≠ directory) : crashed directory = disk directory := by
  induction crashes with
  | stopped => rfl
  | torn _ =>
    have other := others _ List.mem_cons_self
    exact FileStep.apply_other (Ne.symm other)
  | passed _ ih =>
    rw [List.forall_mem_cons] at others
    rw [ih others.2, FileStep.apply_other others.1.symm]

namespace Filing

variable {first : Filing δ ε α} {next : α → Filing δ ε β} {disk crashed finish : Disk δ} {result : β}

omit [DecidableEq δ] in
@[simp] theorem onOk_ok (value : α) (next : α → Except ε β × List (FileStep δ)) :
    onOk (.ok value) next = next value := rfl

omit [DecidableEq δ] in
@[simp] theorem onOk_error (error : ε) (next : α → Except ε β × List (FileStep δ)) :
    onOk (.error error) next = (.error error, []) := rfl

@[simp] theorem ofExcept_bind_apply (outcome : Except ε α) (next : α → Filing δ ε β)
    (disk : Disk δ) : (ofExcept outcome >>= next) disk = onOk outcome fun value => next value disk := by
  cases outcome <;> rfl

@[simp] theorem read_bind_apply (next : Disk δ → Filing δ ε β) (disk : Disk δ) :
    (read >>= next) disk = next disk disk := rfl

@[simp] theorem perform_bind_apply (step : FileStep δ) (next : Unit → Filing δ ε β)
    (disk : Disk δ) : (perform step >>= next) disk =
      ((next () (step.apply disk)).1, step :: (next () (step.apply disk)).2) := rfl

theorem bind_apply_of_quiet {first : Filing δ ε α} {outcome : Except ε α} {disk : Disk δ}
    (quiet : first disk = (outcome, [])) (next : α → Filing δ ε β) :
    (first >>= next) disk = onOk outcome fun value => next value disk := by
  simp only [Bind.bind, andThen, quiet]
  cases outcome <;> rfl

theorem bind_apply_of_ok {first : Filing δ ε α} {value : α} {steps : List (FileStep δ)}
    {disk : Disk δ} (returns : first disk = (.ok value, steps)) (next : α → Filing δ ε β) :
    (first >>= next) disk = ((next value (applySteps steps disk)).1,
      steps ++ (next value (applySteps steps disk)).2) := by
  simp only [Bind.bind, andThen, returns]

@[simp] theorem run_pure (value : α) (disk : Disk δ) :
    (pure value : Filing δ ε α).run disk = (.ok value, disk) := rfl

@[simp] theorem run_ofExcept (outcome : Except ε α) (disk : Disk δ) :
    (ofExcept outcome : Filing δ ε α).run disk = (outcome, disk) := rfl

@[simp] theorem run_read (disk : Disk δ) :
    (read : Filing δ ε (Disk δ)).run disk = (.ok disk, disk) := rfl

@[simp] theorem run_perform (step : FileStep δ) (disk : Disk δ) :
    (perform step : Filing δ ε Unit).run disk = (.ok (), step.apply disk) := rfl

theorem run_bind (first : Filing δ ε α) (next : α → Filing δ ε β) (disk : Disk δ) :
    (first >>= next).run disk =
      match first.run disk with
      | (.ok value, reached) => (next value).run reached
      | (.error error, reached) => (.error error, reached) := by
  simp only [run, Bind.bind, andThen]
  rcases first disk with ⟨_ | value, taken⟩
  · rfl
  · simp [applySteps_append]

@[simp] theorem run_read_bind (next : Disk δ → Filing δ ε β) (disk : Disk δ) :
    (read >>= next).run disk = (next disk).run disk := by
  rw [run_bind, run_read]

@[simp] theorem crashes_ofExcept {outcome : Except ε α} :
    (ofExcept outcome : Filing δ ε α).Crashes disk crashed ↔ crashed = disk :=
  interrupted_nil

@[simp] theorem crashes_pure {value : α} :
    (pure value : Filing δ ε α).Crashes disk crashed ↔ crashed = disk :=
  interrupted_nil

theorem crashes_of_quiet {operation : Filing δ ε α} {outcome : Except ε α}
    (quiet : operation disk = (outcome, [])) (crashes : operation.Crashes disk crashed) :
    crashed = disk := by
  rw [Crashes, quiet] at crashes
  exact interrupted_nil.mp crashes

@[simp] theorem crashes_read : (read : Filing δ ε (Disk δ)).Crashes disk crashed ↔ crashed = disk :=
  interrupted_nil

theorem crashes_bind : (first >>= next).Crashes disk crashed ↔
    first.Crashes disk crashed ∨ ∃ value reached, first.run disk = (.ok value, reached) ∧
      (next value).Crashes reached crashed := by
  simp only [Crashes, run, Bind.bind, andThen]
  rcases first disk with ⟨_ | value, taken⟩
  · simp
  · simp [interrupted_append]

theorem crashes_ofExcept_bind {outcome : Except ε α} (crashes : (ofExcept outcome >>= next).Crashes disk crashed) :
    crashed = disk ∨ ∃ value, outcome = .ok value ∧ (next value).Crashes disk crashed := by
  rw [crashes_bind] at crashes
  rcases crashes with early | ⟨value, reached, runs, crashes⟩
  · exact .inl (crashes_ofExcept.mp early)
  · rw [run_ofExcept] at runs
    obtain ⟨returns, rfl⟩ := Prod.mk.inj runs
    exact .inr ⟨value, returns, crashes⟩

theorem crashes_bind_pure {change : α → β} :
    (first >>= fun value => pure (change value)).Crashes disk crashed ↔ first.Crashes disk crashed := by
  rw [crashes_bind]
  refine ⟨?_, .inl⟩
  rintro (early | ⟨value, reached, runs, finished⟩)
  · exact early
  · rw [crashes_pure.mp finished]
    have complete := Interrupted.complete (first disk).2 disk
    rw [run] at runs
    rw [← (Prod.mk.inj runs).2]
    exact complete

end Filing

end Laws

/-- Splits a text at the last occurrence of a character. -/
def splitLast (delimiter : Char) : List Char → Option (List Char × List Char)
  | [] => none
  | character :: rest =>
    match splitLast delimiter rest with
    | some (before, after) => some (character :: before, after)
    | none => if character = delimiter then some ([], rest) else none

/-- `str::rsplit_once`. -/
def rsplitOnce (text : String) (delimiter : Char) : Option (String × String) :=
  (splitLast delimiter text.toList).map fun parts => (.ofList parts.1, .ofList parts.2)

/-- `Path::extension` of the name of a listed file. -/
def extension (name : String) : Option String :=
  match rsplitOnce name '.' with
  | some (before, after) => if before = "" then none else some after
  | none => none

/-- `Path::file_stem` of the name of a listed file. -/
def fileStem (name : String) : String :=
  match rsplitOnce name '.' with
  | some (before, _) => if before = "" then name else before
  | none => name

/-- `Path::with_extension` of the name of a listed file. -/
def withExtension (name extension : String) : String :=
  if extension = "" then fileStem name else fileStem name ++ "." ++ extension

/-- The names of the files with an extension, in their order. -/
def Directory.listing (directory : Directory) (kind : String) : List String :=
  directory.keys.filter fun name => extension name = some kind

theorem splitLast_eq_none {delimiter : Char} {text : List Char} (missing : delimiter ∉ text) :
    splitLast delimiter text = none := by
  induction text with
  | nil => rfl
  | cons character rest ih =>
    rw [List.mem_cons, not_or] at missing
    rw [splitLast, ih missing.2, if_neg (Ne.symm missing.1)]

theorem splitLast_append {delimiter : Char} (before : List Char) {after : List Char}
    (missing : delimiter ∉ after) :
    splitLast delimiter (before ++ delimiter :: after) = some (before, after) := by
  induction before with
  | nil => rw [List.nil_append, splitLast, splitLast_eq_none missing, if_pos rfl]
  | cons character rest ih => rw [List.cons_append, splitLast, ih]

theorem rsplitOnce_append (before : String) {after : String} (missing : '.' ∉ after.toList) :
    rsplitOnce (before ++ "." ++ after) '.' = some (before, after) := by
  have parts : (before ++ "." ++ after).toList = before.toList ++ '.' :: after.toList := by
    rw [String.toList_append, String.toList_append, List.append_assoc]
    rfl
  rw [rsplitOnce, parts, splitLast_append _ missing]
  simp

theorem extension_append {before after : String} (named : before ≠ "")
    (missing : '.' ∉ after.toList) : extension (before ++ "." ++ after) = some after := by
  rw [extension, rsplitOnce_append before missing]
  exact if_neg named

theorem append_dot_ne_empty (before after : String) : before ++ "." ++ after ≠ "" := by
  intro same
  have texts := congrArg String.toList same
  simp [String.toList_append] at texts

namespace Directory

variable {directory : Directory} {kind : String}

theorem mem_listing {name : String} : name ∈ directory.listing kind ↔
    (∃ content, directory[name]? = some content) ∧ extension name = some kind := by
  rw [listing, List.mem_filter, StringMap.mem_keys, decide_eq_true_iff]

theorem pairwise_listing : (directory.listing kind).Pairwise fun left right =>
    compare left right = .lt :=
  Std.ExtTreeMap.ordered_keys.filter _

theorem nodup_listing : (directory.listing kind).Nodup := by
  refine pairwise_listing.imp fun {left right} before same => ?_
  rw [same] at before
  cases Std.ReflCmp.compare_self.symm.trans before

end Directory

end AgentMod
