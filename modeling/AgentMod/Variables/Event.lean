import AgentMod.Library.Sorting
import AgentMod.Variables.Value

/-! Canonical variable events, the attempts that they record, and how both are hashed. -/

namespace AgentMod

/-- What every canonical variable event carries. -/
structure CanonicalVariableEventBinding where
  runId : String
  nodeId : String
  variableName : String
  priorVersion : Option Nat
  newVersion : Option Nat
  valueHash : Option ContentHash
  artifactReferences : StringSet
  deriving DecidableEq

/-- A variable declaration. -/
structure VariableDeclaredEvent where
  binding : CanonicalVariableEventBinding
  declaration : VariableDeclaration
  declarationHash : ContentHash
  deriving DecidableEq

/-- A successful assignment. -/
structure VariableAssignedEvent where
  binding : CanonicalVariableEventBinding
  writer : VariableWriter
  value : CanonicalVariableValue
  deriving DecidableEq

/-- A deterministic branch merge. -/
structure VariableMergedEvent where
  binding : CanonicalVariableEventBinding
  writer : VariableWriter
  policy : VariableMergePolicy
  branches : List BranchVariableValue
  value : CanonicalVariableValue
  deriving DecidableEq

/-- A removal from node or branch scope. -/
structure VariableRemovedEvent where
  binding : CanonicalVariableEventBinding
  writer : VariableWriter
  deriving DecidableEq

/-- Stable category of a validation failure. -/
inductive VariableValidationFailureCode where
  | invalidDeclaration
  | unknownVariable
  | accessDenied
  | invalidValue
  | securityViolation
  | versionConflict
  | resourceLimit
  | mergeConflict
  | removalNotAllowed
  | internal
  deriving DecidableEq, Repr

/-- The operation that an event attempts. -/
inductive VariableValidationAttempt where
  | declare (declaration : VariableDeclaration)
  | assign (variableName : String) (writer : VariableWriter) (expectedVersion : Option Nat)
    (value : CanonicalVariableValue)
  | merge (variableName : String) (writer : VariableWriter) (expectedVersion : Option Nat)
    (branches : List BranchVariableValue)
  | remove (variableName : String) (writer : VariableWriter) (expectedVersion : Nat)
  deriving DecidableEq

/-- The variable that an attempt is about. -/
def VariableValidationAttempt.variableName : VariableValidationAttempt → String
  | .declare declaration => declaration.name
  | .assign variableName _ _ _ | .merge variableName _ _ _ | .remove variableName _ _ =>
    variableName

/-- An attempt that failed; applying it changes no live value. -/
structure VariableValidationFailedEvent where
  binding : CanonicalVariableEventBinding
  attempt : VariableValidationAttempt
  code : VariableValidationFailureCode
  deriving DecidableEq

/-- Canonical variable event. -/
inductive CanonicalVariableEvent where
  | declared (event : VariableDeclaredEvent)
  | assigned (event : VariableAssignedEvent)
  | merged (event : VariableMergedEvent)
  | removed (event : VariableRemovedEvent)
  | validationFailed (event : VariableValidationFailedEvent)
  deriving DecidableEq

/-- The common binding of an event. -/
def CanonicalVariableEvent.binding : CanonicalVariableEvent → CanonicalVariableEventBinding
  | .declared event => event.binding
  | .assigned event => event.binding
  | .merged event => event.binding
  | .removed event => event.binding
  | .validationFailed event => event.binding

/-- The attempt that an event claims to be the outcome of. -/
def attemptFromEvent : CanonicalVariableEvent → VariableValidationAttempt
  | .declared event => .declare event.declaration
  | .assigned event =>
    .assign event.binding.variableName event.writer event.binding.priorVersion event.value
  | .merged event =>
    .merge event.binding.variableName event.writer event.binding.priorVersion event.branches
  | .removed event =>
    .remove event.binding.variableName event.writer (event.binding.priorVersion.getD 0)
  | .validationFailed event => event.attempt

/-- Whether a text may identify a run or a node. -/
def isEventIdentity (identity : String) : Bool :=
  !identity.isEmpty && identity.utf8ByteSize ≤ 256 && !identity.toList.any isControl

/-- Validates the run and the node of an event. -/
def validateEventIdentity (runId nodeId : String) : VariableCheck Unit :=
  refuseIf (¬ (isEventIdentity runId ∧ isEventIdentity nodeId)) .invalidEventIdentity

/-- Orders branches by their dispatch order, then by their identities. -/
def compareBranches (left right : BranchVariableValue) : Ordering :=
  (compare left.stableOrder right.stableOrder).then (compare left.branchId right.branchId)

/-- The branches of a merge in their canonical order. -/
def sortBranches (branches : List BranchVariableValue) : List BranchVariableValue :=
  sortBy compareBranches branches

/-- The artifacts that an attempt refers to. -/
def attemptArtifactReferences : VariableValidationAttempt → StringSet
  | .declare _ | .remove _ _ _ => ∅
  | .assign _ _ _ value => artifactReferences value
  | .merge _ _ _ branches =>
    .ofList (branches.flatMap fun branch => (artifactReferences branch.value).toList)

/-- The category of a failure. -/
def failureCode : VariableEnvironmentError → VariableValidationFailureCode
  | .duplicateDeclaration _ | .invalidDeclaration _ | .declarationDepthExceeded
  | .declarationKeyMismatch | .declarationHashMismatch => .invalidDeclaration
  | .undeclaredVariable _ | .missingValue _ => .unknownVariable
  | .unauthorizedWriter _ _ | .branchScopeMismatch | .invalidBranchWrite | .invalidEventIdentity
  | .eventRunMismatch => .accessDenied
  | .typeMismatch | .invalidDecimal | .invalidEnum | .runtimeRecordedValueRequired
  | .invalidReference | .invalidMapKey => .invalidValue
  | .securityViolation => .securityViolation
  | .immutableReassignment | .versionMismatch | .versionOverflow | .invalidVersion =>
    .versionConflict
  | .invalidLimits | .variableLimitExceeded | .valueDepthExceeded | .valueItemLimitExceeded
  | .collectionBoundExceeded | .declaredSizeExceeded _ | .environmentSizeExceeded
  | .failureLimitExceeded => .resourceLimit
  | .missingMergePolicy | .emptyMerge | .duplicateBranch | .mergeConflict | .invalidMergeValue =>
    .mergeConflict
  | .invalidRemoval => .removalNotAllowed
  | .valueHashMismatch _ | .initialAuditStateMismatch | .serialization | .internalInvariant
  | .eventMismatch => .internal

/-- `serde_json::to_vec` on what the variable kernel hashes; it may fail. -/
class VariableSerde where
  valueToVec : CanonicalVariableValue → Option (List UInt8)
  declarationToVec : VariableDeclaration → Option (List UInt8)
  attemptToVec : VariableValidationAttempt → Option (List UInt8)
  /-- The seeded and the observed hashes, as one pair. -/
  auditToVec : StringMap ContentHash → StringMap ContentHash → Option (List UInt8)

section Hashes

variable [VariableSerde] [Hashing]

/-- The serialized bytes of a value. -/
def canonicalValueBytes (value : CanonicalVariableValue) : VariableCheck (List UInt8) :=
  okOr (VariableSerde.valueToVec value) .serialization

/-- The hash of serialized bytes. -/
def digestOf (bytes : Option (List UInt8)) : VariableCheck ContentHash := do
  return Hashing.digest (← okOr bytes .serialization)

/-- The hash of a value. -/
def valueHash (value : CanonicalVariableValue) : VariableCheck ContentHash :=
  digestOf (VariableSerde.valueToVec value)

/-- The hash of a declaration. -/
def declarationHash (declaration : VariableDeclaration) : VariableCheck ContentHash :=
  digestOf (VariableSerde.declarationToVec declaration)

/-- The hash of an attempt. -/
def attemptHash (attempt : VariableValidationAttempt) : VariableCheck ContentHash :=
  digestOf (VariableSerde.attemptToVec attempt)

/-- The hash of the seeded and the observed initial assignments. -/
def initialAssignmentAuditStateHash (seeded observed : StringMap ContentHash) :
    VariableCheck ContentHash :=
  digestOf (VariableSerde.auditToVec seeded observed)

/-- Validates the binding of a retained failure. -/
def validateFailureStatic (runId : String) (failure : VariableValidationFailedEvent) :
    VariableCheck Unit := do
  validateEventIdentity failure.binding.runId failure.binding.nodeId
  refuseIf (failure.binding.runId ≠ runId ∨
    failure.binding.variableName ≠ failure.attempt.variableName ∨
    failure.binding.priorVersion ≠ failure.binding.newVersion ∨
    failure.binding.artifactReferences ≠ attemptArtifactReferences failure.attempt) .eventMismatch
  let expectedHash ← attemptHash failure.attempt
  refuseIf (failure.binding.valueHash ≠ some expectedHash) .eventMismatch

end Hashes

end AgentMod
