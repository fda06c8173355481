import AgentMod.Library.Files
import AgentMod.Library.Run

/-! Atomic replacement of schedule files, and the recovery of interrupted replacements. -/

namespace AgentMod

/-- The directories of a scheduler. -/
inductive SchedulerDirectory where
  | schedules
  | executions
  deriving DecidableEq, Repr

/-- Dependency failure. -/
inductive SchedulerDependencyError where
  | configuration
  | invalid
  | idempotencyConflict
  | terminalConflict
  | notFound
  | corrupt
  | storage
  | clock
  deriving DecidableEq, Repr

/-- An operation on the directories of a scheduler. -/
abbrev SchedulerFiling (α : Type) := Filing SchedulerDirectory (Halt SchedulerDependencyError) α

/-- The disk of a scheduler. -/
abbrev SchedulerDisk := Disk SchedulerDirectory

/-- A disk without files. -/
def emptySchedulerDisk : SchedulerDisk := fun _ => ∅

/-- The step of a replacement that the file system refuses. -/
inductive ReplacementFault where
  | backup
  | replace (restored : Bool)
  | remove
  deriving DecidableEq, Repr

/-- The file that a new content is written to. -/
def temporaryFile (name nonce : String) : String := withExtension name (nonce ++ ".tmp")

/-- The file that the old content is moved to. -/
def backupFile (name nonce : String) : String := name ++ "." ++ nonce ++ ".backup"

/-- Replaces the content of a schedule file, where the file system refuses the given step. -/
def writeJsonAtomic (fault : Option ReplacementFault) (name nonce : String) (bytes : List UInt8) :
    SchedulerFiling Unit := do
  let temporary := temporaryFile name nonce
  let backup := backupFile name nonce
  let disk ← .read
  .ofExcept (refuseIf ((disk .schedules).contains temporary) (.error .storage))
  .perform (.save .schedules temporary bytes)
  let disk ← .read
  if (disk .schedules).contains name then
    .ofExcept (refuseIf (fault = some .backup) (.error .storage))
    .perform (.rename .schedules name backup)
  if let some (.replace restored) := fault then
    let disk ← .read
    if (disk .schedules).contains backup ∧ restored then
      .perform (.rename .schedules backup name)
    .perform (.remove .schedules temporary)
    .ofExcept (reject .storage)
  .perform (.rename .schedules temporary name)
  let disk ← .read
  if (disk .schedules).contains backup then
    .ofExcept (refuseIf (fault = some .remove) (.error .storage))
    .perform (.remove .schedules backup)

/-- The file that a backup belongs to. -/
def replacedName (backup : String) : Option String := do
  let (stem, _) ← rsplitOnce backup '.'
  let (scheduleName, _) ← rsplitOnce stem '.'
  return scheduleName

/-- Removes a backup, or moves it back where its file is missing. -/
def recoverBackup (backup : String) : SchedulerFiling Unit := do
  let scheduleName ← .ofExcept (okOr (replacedName backup) (.error .corrupt))
  let disk ← .read
  if (disk .schedules).contains scheduleName then .perform (.remove .schedules backup)
  else .perform (.rename .schedules backup scheduleName)

/-- Recovers the replacements that were interrupted. -/
def recoverInterruptedReplacements : SchedulerFiling Unit := do
  let disk ← .read
  forM ((disk .schedules).listing "backup") recoverBackup

/-- Recovery runs until it finishes; every time that it is interrupted, it is run again. -/
inductive RecoversFiles : SchedulerDisk → SchedulerDisk → Prop where
  | finished {disk next : SchedulerDisk} :
      recoverInterruptedReplacements.run disk = (.ok (), next) → RecoversFiles disk next
  | interrupted {disk crashed next : SchedulerDisk} :
      recoverInterruptedReplacements.Crashes disk crashed → RecoversFiles crashed next →
      RecoversFiles disk next

/-- What happens to the schedule files. -/
inductive Replacement where
  | returned (name nonce : String) (bytes : List UInt8) (fault : Option ReplacementFault)
  | interrupted (name nonce : String) (bytes : List UInt8) (crashed : SchedulerDisk)
  | restarted

/-- A write to a schedule file under a nonce that names no other file. -/
structure Writable (disk : SchedulerDisk) (name nonce : String) : Prop where
  schedule : extension name = some "json"
  undotted : '.' ∉ nonce.toList
  temporary : (disk .schedules)[temporaryFile name nonce]? = none
  backup : (disk .schedules)[backupFile name nonce]? = none

/-- One replacement leads from one disk to the next. -/
def Replaces (disk : SchedulerDisk) : Replacement → SchedulerDisk → Prop
  | .returned name nonce bytes fault, next => Writable disk name nonce ∧
      (fault = none ∨ fault = some .remove) ∧
      ∃ outcome, (writeJsonAtomic fault name nonce bytes).run disk = (outcome, next)
  | .interrupted name nonce bytes crashed, next => Writable disk name nonce ∧
      (writeJsonAtomic none name nonce bytes).Crashes disk crashed ∧ RecoversFiles crashed next
  | .restarted, next => RecoversFiles disk next

/-- The contents that a replacement may leave of a file. -/
def Replacement.leaves (name : String) (held : Option (List UInt8)) :
    Replacement → List (Option (List UInt8))
  | .returned written _ bytes _ => if written = name then [some bytes] else [held]
  | .interrupted written _ bytes _ => if written = name then [held, some bytes] else [held]
  | .restarted => [held]

/-- The contents that a file may have behind some replacements: that of the last write that returned,
or that of a write that was interrupted since. -/
def mayHold (name : String) (held : Option (List UInt8)) :
    List Replacement → List (Option (List UInt8))
  | [] => [held]
  | replacement :: rest => (replacement.leaves name held).flatMap fun content => mayHold name content rest

/-- A backup of a file, with its content. -/
structure Backs (directory : Directory) (name backup : String) (content : List UInt8) : Prop where
  found : directory[backup]? = some content
  kind : extension backup = some "backup"
  name : replacedName backup = some name

/-- Where an interrupted write leaves no file, its backup comes before all others of the file. -/
def Replacement.BacksFirst (disk : SchedulerDisk) : Replacement → Prop
  | .interrupted name nonce _ crashed => (crashed .schedules)[name]? = none →
      ∀ other content, Backs (disk .schedules) name other content →
        compare (backupFile name nonce) other = .lt
  | _ => True

end AgentMod
