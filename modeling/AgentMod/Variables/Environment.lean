import AgentMod.Library.Run
import AgentMod.Variables.Event

/-! The live variable environment: versioned assignments and deterministic branch merges. -/

namespace AgentMod

/-- Live entry of a variable. -/
structure CanonicalVariableEntry where
  value : CanonicalVariableValue
  version : Nat
  valueHash : ContentHash
  writer : VariableWriter
  branchId : Option String
  deriving DecidableEq

/-- Declarations with the live entries of the variables that have a value. -/
structure CanonicalVariableEnvironment where
  declarations : StringMap VariableDeclaration
  entries : StringMap CanonicalVariableEntry
  limits : VariableEnvironmentLimits

/-- An operation on an environment. -/
abbrev EnvironmentOperation (α : Type) :=
  Updating CanonicalVariableEnvironment VariableEnvironmentError α

/-- The version that a write installs over an existing entry. -/
def nextVersion (existing : Option CanonicalVariableEntry) (mutability : VariableMutability)
    (expectedVersion : Option Nat) : VariableCheck Nat :=
  match existing with
  | none => if expectedVersion = none then .ok 1 else .error .versionMismatch
  | some entry =>
    if mutability = .immutable then .error .immutableReassignment
    else if expectedVersion = some entry.version then
      if entry.version + 1 < wordBound then .ok (entry.version + 1) else .error .versionOverflow
    else .error .versionMismatch

namespace CanonicalVariableEnvironment

/-- The environment after one more declaration of `new`. -/
def collectDeclaration (limits : VariableEnvironmentLimits)
    (declarations : StringMap VariableDeclaration) (declaration : VariableDeclaration) :
    VariableCheck (StringMap VariableDeclaration) := do
  validateRuntimeDeclaration declaration limits
  refuseIf (declarations.contains declaration.name) (.duplicateDeclaration declaration.name)
  return declarations.insert declaration.name declaration

/-- Validates declarations and creates an environment without values. -/
def new (declarations : List VariableDeclaration) (limits : VariableEnvironmentLimits) :
    VariableCheck CanonicalVariableEnvironment := do
  validateLimits limits
  let byName ← declarations.foldlM (collectDeclaration limits) ∅
  refuseIf (byName.size > limits.maxVariables) .variableLimitExceeded
  return ⟨byName, ∅, limits⟩

/-- The declaration of a variable. -/
def declaration (environment : CanonicalVariableEnvironment) (name : String) :
    VariableCheck VariableDeclaration :=
  okOr environment.declarations[name]? (.undeclaredVariable name)

variable [VariableSerde] [Hashing]

/-- Validates a value against its declaration. -/
def validateValue (environment : CanonicalVariableEnvironment) (declaration : VariableDeclaration)
    (writer : VariableWriter) (value : CanonicalVariableValue) : VariableCheck Unit := do
  let _ ← validateValueType declaration.securityClassification writer environment.limits value
    declaration.valueType 1 0
  let bytes ← canonicalValueBytes value
  refuseIf (bytes.length > declaration.maxSizeBytes) (.declaredSizeExceeded declaration.name)

/-- Adds the serialized size of an entry. -/
def addEntrySize (total : Nat) (entry : CanonicalVariableEntry) : VariableCheck Nat := do
  let bytes ← canonicalValueBytes entry.value
  refuseIf (wordBound ≤ total + bytes.length) .environmentSizeExceeded
  return total + bytes.length

/-- Validates the serialized size of the live values together. -/
def validateEnvironmentSize (environment : CanonicalVariableEnvironment) : VariableCheck Unit := do
  let total ← environment.entries.values.foldlM addEntrySize 0
  refuseIf (total > environment.limits.maxEnvironmentBytes) .environmentSizeExceeded

/-- Puts back the entry that a variable had before a write. -/
def restore (environment : CanonicalVariableEnvironment) (name : String)
    (prior : Option CanonicalVariableEntry) : CanonicalVariableEnvironment :=
  match prior with
  | some prior => { environment with entries := environment.entries.insert name prior }
  | none => { environment with entries := environment.entries.erase name }

/-- Installs a validated value under the next version. -/
def install (name : String) (mutability : VariableMutability) (writer : VariableWriter)
    (branchId : Option String) (expectedVersion : Option Nat) (value : CanonicalVariableValue) :
    EnvironmentOperation CanonicalVariableEntry := do
  let environment ← get
  let prior := environment.entries[name]?
  let version ← .ofExcept (nextVersion prior mutability expectedVersion)
  let hash ← .ofExcept (valueHash value)
  set { environment with
    entries := environment.entries.insert name ⟨value, version, hash, writer, branchId⟩ }
  let installed ← get
  match installed.validateEnvironmentSize with
  | .error error =>
    set (installed.restore name prior)
    throw error
  | .ok () => .ofExcept (okOr installed.entries[name]? .internalInvariant)

/-- Assigns one variable under an optimistic version comparison. -/
def assign (name : String) (writer : VariableWriter) (expectedVersion : Option Nat)
    (value : CanonicalVariableValue) : EnvironmentOperation CanonicalVariableEntry := do
  let environment ← get
  let declaration ← .ofExcept (environment.declaration name)
  .ofExcept (authorizeWriter declaration writer)
  let branchId ← .ofExcept (validateDirectWriteScope declaration writer)
  .ofExcept (environment.validateValue declaration writer value)
  install name declaration.mutability writer branchId expectedVersion value

/-- The value that branches merge into, once they and the writer are validated. -/
def mergedValue (environment : CanonicalVariableEnvironment) (declaration : VariableDeclaration)
    (writer : VariableWriter) (branches : List BranchVariableValue) :
    VariableCheck CanonicalVariableValue := do
  refuseIf writer.branch.isSome .invalidBranchWrite
  refuseIf (declaration.scope = .branch) .invalidBranchWrite
  let policy ← okOr declaration.mergePolicy .missingMergePolicy
  refuseIf (branches = []) .emptyMerge
  let branches := sortBranches branches
  let ids := branches.map BranchVariableValue.branchId
  refuseIf (¬ ((∀ id ∈ ids, ¬ id.isEmpty) ∧ ids.Nodup)) .duplicateBranch
  forM branches fun branch => environment.validateValue declaration writer branch.value
  let value ← mergeValues policy branches
  environment.validateValue declaration writer value
  return value

/-- Merges complete branch values under the declared merge policy. -/
def mergeBranches (name : String) (writer : VariableWriter) (expectedVersion : Option Nat)
    (branches : List BranchVariableValue) : EnvironmentOperation CanonicalVariableEntry := do
  let environment ← get
  let declaration ← .ofExcept (environment.declaration name)
  let value ← .ofExcept (environment.mergedValue declaration writer branches)
  install name declaration.mutability writer none expectedVersion value

/-- Validates a declaration of a snapshot under its key. -/
def validateReplayedDeclaration (environment : CanonicalVariableEnvironment)
    (entry : String × VariableDeclaration) : VariableCheck Unit := do
  refuseIf (entry.1 ≠ entry.2.name) .declarationKeyMismatch
  validateRuntimeDeclaration entry.2 environment.limits

/-- Validates a live entry of a snapshot under its key. -/
def validateReplayedEntry (environment : CanonicalVariableEnvironment)
    (named : String × CanonicalVariableEntry) : VariableCheck Unit := do
  let (name, entry) := named
  let declaration ← environment.declaration name
  refuseIf (entry.version = 0) .invalidVersion
  authorizeReplayedWriter declaration entry.writer
  let expectedBranch ← validateDirectWriteScopeReplayed declaration entry.writer entry.branchId
  refuseIf (expectedBranch ≠ entry.branchId) .branchScopeMismatch
  environment.validateValue declaration entry.writer entry.value
  let hash ← AgentMod.valueHash entry.value
  refuseIf (hash ≠ entry.valueHash) (.valueHashMismatch name)

/-- Revalidates a deserialized environment. -/
def validateReplayed (environment : CanonicalVariableEnvironment) : VariableCheck Unit := do
  validateLimits environment.limits
  refuseIf (environment.declarations.size > environment.limits.maxVariables) .variableLimitExceeded
  forM environment.declarations.toList environment.validateReplayedDeclaration
  forM environment.entries.toList environment.validateReplayedEntry
  environment.validateEnvironmentSize

end CanonicalVariableEnvironment

end AgentMod
