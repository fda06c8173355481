import AgentMod.Graph.Definition
import AgentMod.Primitives.Text

/-! Declarations of canonical variables, and which writers they admit. -/

namespace AgentMod

/-- The values of `usize` and `u64`, which are 64 bits wide. -/
def wordBound : Nat := 2 ^ 64

/-- Resource limits applied in addition to each declaration. -/
structure VariableEnvironmentLimits where
  maxVariables : Nat
  maxValueDepth : Nat
  maxValueItems : Nat
  maxMapKeyBytes : Nat
  maxReferenceBytes : Nat
  maxDecimalBytes : Nat
  maxEnvironmentBytes : Nat
  deriving DecidableEq

/-- `VariableEnvironmentLimits::default`. -/
def VariableEnvironmentLimits.default : VariableEnvironmentLimits where
  maxVariables := 1024
  maxValueDepth := 32
  maxValueItems := 8192
  maxMapKeyBytes := 256
  maxReferenceBytes := 4 * 1024
  maxDecimalBytes := 128
  maxEnvironmentBytes := 1024 * 1024

/-- Failure of the variable kernel. -/
inductive VariableEnvironmentError where
  | invalidLimits
  | variableLimitExceeded
  | duplicateDeclaration (name : String)
  | invalidDeclaration (name : String)
  | declarationDepthExceeded
  | declarationKeyMismatch
  | undeclaredVariable (name : String)
  | missingValue (name : String)
  | unauthorizedWriter (variableName writer : String)
  | branchScopeMismatch
  | invalidBranchWrite
  | missingMergePolicy
  | emptyMerge
  | duplicateBranch
  | mergeConflict
  | invalidMergeValue
  | immutableReassignment
  | versionMismatch
  | versionOverflow
  | invalidVersion
  | typeMismatch
  | invalidDecimal
  | invalidEnum
  | securityViolation
  | runtimeRecordedValueRequired
  | invalidReference
  | valueDepthExceeded
  | valueItemLimitExceeded
  | collectionBoundExceeded
  | invalidMapKey
  | declaredSizeExceeded (variableName : String)
  | environmentSizeExceeded
  | valueHashMismatch (name : String)
  | initialAuditStateMismatch
  | serialization
  | internalInvariant
  | eventRunMismatch
  | eventMismatch
  | declarationHashMismatch
  | invalidRemoval
  | failureLimitExceeded
  | invalidEventIdentity
  deriving DecidableEq, Repr

/-- A check or a computation of the variable kernel that changes no state. -/
abbrev VariableCheck (α : Type) := Except VariableEnvironmentError α

/-- The producer of runtime-owned variables. -/
def runtimeProducer : String := "runtime"

/-- Branch context of a direct write. -/
structure BranchWriteContext where
  branchId : String
  stableOrder : Nat
  serializedSharedWrite : Bool
  deriving DecidableEq

/-- Stable identity of a graph writer. -/
inductive VariableWriter where
  | runtime
  | runtimeRecorded (nodeId : String) (branch : Option BranchWriteContext)
  | node (nodeId : String) (branch : Option BranchWriteContext)
  deriving DecidableEq

namespace VariableWriter

/-- The node that a writer speaks for. -/
def nodeId : VariableWriter → String
  | .runtime => runtimeProducer
  | .runtimeRecorded nodeId _ | .node nodeId _ => nodeId

/-- The branch that a writer executes in. -/
def branch : VariableWriter → Option BranchWriteContext
  | .runtime => none
  | .runtimeRecorded _ branch | .node _ branch => branch

end VariableWriter

/-- Validates that no limit is zero. -/
def validateLimits (limits : VariableEnvironmentLimits) : VariableCheck Unit :=
  refuseIf (limits.maxVariables = 0 ∨ limits.maxValueDepth = 0 ∨ limits.maxValueItems = 0 ∨
    limits.maxMapKeyBytes = 0 ∨ limits.maxReferenceBytes = 0 ∨ limits.maxDecimalBytes = 0 ∨
    limits.maxEnvironmentBytes = 0) .invalidLimits

/-- Validates the bounds of a declared type, whose nesting starts at the given depth. -/
def validateDeclaredType (limits : VariableEnvironmentLimits) :
    VariableValueType → Nat → VariableCheck Unit
  | .enum values, depth => do
    refuseIf (depth > limits.maxValueDepth) .declarationDepthExceeded
    refuseIf values.isEmpty (.invalidDeclaration "empty enum")
    refuseIf (values.toList.any fun value => value.isEmpty || value.toList.any isControl)
      (.invalidDeclaration "invalid enum")
  | .list itemType maxItems, depth => do
    refuseIf (depth > limits.maxValueDepth) .declarationDepthExceeded
    refuseIf (maxItems = 0 ∨ maxItems > limits.maxValueItems)
      (.invalidDeclaration "invalid list bound")
    validateDeclaredType limits itemType (depth + 1)
  | .map valueType maxEntries, depth => do
    refuseIf (depth > limits.maxValueDepth) .declarationDepthExceeded
    refuseIf (maxEntries = 0 ∨ maxEntries > limits.maxValueItems)
      (.invalidDeclaration "invalid map bound")
    validateDeclaredType limits valueType (depth + 1)
  | _, depth => refuseIf (depth > limits.maxValueDepth) .declarationDepthExceeded

/-- Whether the runtime can merge values of a type under a declared policy. -/
def mergeCompatible : Option VariableMergePolicy → VariableValueType → Bool
  | none, _ | some .firstBranch, _ => true
  | some .append, .list _ _ | some .union, .list _ _ | some .deepMerge, .map _ _ => true
  | _, _ => false

/-- The runtime's `validate_declaration`. -/
def validateRuntimeDeclaration (declaration : VariableDeclaration)
    (limits : VariableEnvironmentLimits) : VariableCheck Unit := do
  refuseIf (declaration.name.isEmpty ∨ declaration.name.utf8ByteSize > 256 ∨
    declaration.name.toList.any isControl ∨ declaration.producer.isEmpty ∨
    declaration.maxSizeBytes = 0 ∨ declaration.maxSizeBytes > limits.maxEnvironmentBytes)
    (.invalidDeclaration declaration.name)
  validateDeclaredType limits declaration.valueType 1
  let secretType := declaration.valueType == .secretReference
  let secretClass := declaration.securityClassification == .secretReference
  refuseIf (secretType ≠ secretClass) .securityViolation
  refuseIf (!mergeCompatible declaration.mergePolicy declaration.valueType ∨
    (declaration.mergePolicy.isSome ∧ declaration.mutability ≠ .mutable))
    (.invalidDeclaration declaration.name)

/-- Validates that a writer is the declared producer. -/
def authorizeWriter (declaration : VariableDeclaration) (writer : VariableWriter) :
    VariableCheck Unit :=
  refuseIf (declaration.producer ≠ writer.nodeId)
    (.unauthorizedWriter declaration.name writer.nodeId)

/-- Whether a writer is a node outside of all branches. -/
def VariableWriter.isOutsideNode : VariableWriter → Bool
  | .node _ none => true
  | _ => false

/-- Validates that a writer found in a snapshot could have written or merged the variable. -/
def authorizeReplayedWriter (declaration : VariableDeclaration) (writer : VariableWriter) :
    VariableCheck Unit :=
  refuseIf (¬ (declaration.producer = writer.nodeId ∨
    (declaration.mergePolicy.isSome ∧ writer.isOutsideNode)))
    (.unauthorizedWriter declaration.name writer.nodeId)

/-- The branch that a direct write belongs to. -/
def validateDirectWriteScope (declaration : VariableDeclaration) (writer : VariableWriter) :
    VariableCheck (Option String) :=
  match declaration.scope, writer.branch with
  | .branch, some branch =>
    if branch.branchId.isEmpty then .error .branchScopeMismatch else .ok (some branch.branchId)
  | .branch, none => .error .branchScopeMismatch
  | .run, some branch | .session, some branch =>
    if declaration.mergePolicy.isSome ∨ !branch.serializedSharedWrite then
      .error .invalidBranchWrite
    else .ok none
  | _, _ => .ok none

/-- The branch that a retained value belongs to. -/
def validateDirectWriteScopeReplayed (declaration : VariableDeclaration) (writer : VariableWriter)
    (retainedBranchId : Option String) : VariableCheck (Option String) := do
  let branch ← validateDirectWriteScope declaration writer
  refuseIf (declaration.scope ≠ .branch ∧ retainedBranchId.isSome) .branchScopeMismatch
  return branch

end AgentMod
