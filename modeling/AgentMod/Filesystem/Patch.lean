import AgentMod.Library.Lines
import AgentMod.Primitives.Text
import Mathlib.Data.List.DropRight

/-! Patches of several files, which are cut at the headers of the files. -/

namespace AgentMod

/-- Why a patch is refused. -/
inductive PatchError where
  | patchTooLarge
  | invalidPatch (message : String)
  | unsupportedPatchOperation (message : String)
  deriving DecidableEq

/-- `PatchSection`. -/
structure PatchSection where
  path : String
  text : List Char
  deriving DecidableEq

/-- A file header begins at a line, in front of others. -/
def startsFile (line : List Char) (rest : List (List Char)) : Bool :=
  "--- ".toList.isPrefixOf line && rest.head?.any ("+++ ".toList.isPrefixOf ·)

/-- The lines in front of the next file header. -/
def untilFile : List (List Char) → List (List Char)
  | [] => []
  | line :: rest => if startsFile line rest then [] else line :: untilFile rest

/-- The lines from each file header to the next one. -/
def fileSections : List (List Char) → List (List (List Char))
  | [] => []
  | line :: rest =>
    if startsFile line rest then (line :: untilFile rest) :: fileSections rest else fileSections rest

/-- `patch_header_path`. -/
def patchHeaderPath (line marker : List Char) : Except PatchError String :=
  let path := trimText (.ofList ((line.drop marker.length).takeWhile (· ≠ '\t')))
  if marker.isPrefixOf line && !path.isEmpty then .ok path else .error (.invalidPatch "invalid file header")

/-- `strip_patch_prefix`. -/
def stripPatchPrefix (path : String) : String :=
  let text := path.toList
  let rest := if "a/".toList.isPrefixOf text || "b/".toList.isPrefixOf text then text.drop 2 else text
  .ofList (rest.map fun character => if character = '\\' then '/' else character)

/-- The path of a file, by the two lines of its header. -/
def patchPath (oldLine newLine : List Char) : Except PatchError String := do
  let oldName ← patchHeaderPath (oldLine.rdropWhile isWhitespace) "--- ".toList
  let newName ← patchHeaderPath (newLine.rdropWhile isWhitespace) "+++ ".toList
  refuseIf (oldName = "/dev/null" ∨ newName = "/dev/null")
    (.unsupportedPatchOperation "file creation and deletion markers are not supported")
  refuseIf (stripPatchPrefix oldName ≠ stripPatchPrefix newName)
    (.unsupportedPatchOperation "renames are not supported")
  return stripPatchPrefix newName

/-- A section of the lines of a file. -/
def patchSection (lines : List (List Char)) : Except PatchError PatchSection := do
  let path ← patchPath (lines.headD []) (lines.tail.headD [])
  return ⟨path, lines.flatten⟩

/-- The most bytes of a patch. -/
def maxPatchBytes : Nat := 8 * 1024 * 1024

/-- `split_patch`. -/
def splitPatch (source : List Char) : Except PatchError (List PatchSection) := do
  refuseIf (utf8Length source > maxPatchBytes) .patchTooLarge
  let sections := fileSections (splitInclusive '\n' source)
  refuseIf (sections = []) (.invalidPatch "no unified file header")
  sections.mapM patchSection

/-- A change of a file. -/
structure FileChange where
  path : String
  old : String
  new : String

/-- The hunks of the unified diff of two texts, as lines without their ends. -/
class UnifiedHunks where
  hunks : String → String → List (List Char)
  unbroken (old new : String) : ∀ line ∈ hunks old new, '\n' ∉ line

namespace FileChange

variable [UnifiedHunks]

/-- The line of a header. -/
def header (change : FileChange) (marker : String) : List Char := marker.toList ++ change.path.toList ++ ['\n']

/-- The lines of the hunks. -/
def body (change : FileChange) : List (List Char) := (UnifiedHunks.hunks change.old change.new).map (· ++ ['\n'])

/-- The lines of the unified diff of a change. -/
def diff (change : FileChange) : List (List Char) :=
  change.header "--- " :: change.header "+++ " :: change.body

/-- The path and the diff of a change. -/
def toSection (change : FileChange) : PatchSection := ⟨change.path, change.diff.flatten⟩

/-- No two lines of the hunks look like the header of a file. -/
def Unmistakable (change : FileChange) : Prop :=
  change.body.IsChain fun line next => ¬ ("--- ".toList <+: line ∧ "+++ ".toList <+: next)

end FileChange

/-- A path that the header of a file carries. -/
structure CarriedPath (path : String) : Prop where
  nonempty : path ≠ ""
  trimmed : trimText path = path
  characters : ∀ character ∈ path.toList, character ∉ ['\t', '\n', '\\']
  unmarked : ¬ "a/".toList <+: path.toList ∧ ¬ "b/".toList <+: path.toList
  written : path ≠ "/dev/null"

end AgentMod
