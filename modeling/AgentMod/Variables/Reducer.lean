import AgentMod.Variables.Environment

/-! The replay reducer of canonical variable events. -/

namespace AgentMod

/-- Tombstone of a removed variable. -/
structure RemovedVariableRecord where
  version : Nat
  removedValueHash : ContentHash
  writer : VariableWriter
  deriving DecidableEq

/-- Result of applying one event. -/
inductive VariableEventApplyOutcome where
  | mutated
  | validationFailed (code : VariableValidationFailureCode)
  deriving DecidableEq

/-- Audit state of one initial assignment. -/
inductive InitialAssignmentAuditState where
  | pending
  | observed
  deriving DecidableEq

/-- Replay reducer of canonical variable events. -/
structure CanonicalVariableEventReducer where
  runId : String
  environment : CanonicalVariableEnvironment
  declarationHashes : StringMap ContentHash
  observedDeclarations : StringSet
  initialAuditSchemaVersion : Nat
  seededInitialAssignmentHashes : StringMap ContentHash
  observedInitialAssignmentHashes : StringMap ContentHash
  initialAssignmentAuditStateHash : Option ContentHash
  removed : StringMap RemovedVariableRecord
  validationFailures : List VariableValidationFailedEvent

/-- The number of failures that a reducer retains. -/
def maxCanonicalVariableFailures : Nat := 1024

namespace CanonicalVariableEventReducer

/-- The common binding of an event about a variable. -/
def binding (reducer : CanonicalVariableEventReducer) (nodeId variableName : String)
    (priorVersion newVersion : Option Nat) (valueHash : Option ContentHash)
    (artifactReferences : StringSet) : CanonicalVariableEventBinding :=
  { runId := reducer.runId, nodeId, variableName, priorVersion, newVersion, valueHash,
    artifactReferences }

/-- The version of a variable, live or removed. -/
def currentVersion (reducer : CanonicalVariableEventReducer) (variableName : String) : Option Nat :=
  (reducer.environment.entries[variableName]?.map CanonicalVariableEntry.version).or
    (reducer.removed[variableName]?.map RemovedVariableRecord.version)

/-- Validates that a variable has no tombstone. -/
def ensureNotRemoved (reducer : CanonicalVariableEventReducer) (variableName : String) :
    VariableCheck Unit :=
  refuseIf (reducer.removed.contains variableName) .invalidRemoval

variable [VariableSerde] [Hashing]

/-- Hashes the seeded and the observed initial assignments anew. -/
def refreshInitialAssignmentAuditStateHash (reducer : CanonicalVariableEventReducer) :
    VariableCheck CanonicalVariableEventReducer := do
  let hash ← AgentMod.initialAssignmentAuditStateHash reducer.seededInitialAssignmentHashes
    reducer.observedInitialAssignmentHashes
  return { reducer with initialAssignmentAuditStateHash := some hash }

/-- Creates a reducer without declarations for one graph run. -/
def new (runId : String) (limits : VariableEnvironmentLimits) :
    VariableCheck CanonicalVariableEventReducer := do
  validateEventIdentity runId runtimeProducer
  let environment ← CanonicalVariableEnvironment.new [] limits
  let hash ← AgentMod.initialAssignmentAuditStateHash ∅ ∅
  return {
    runId
    environment
    declarationHashes := ∅
    observedDeclarations := ∅
    initialAuditSchemaVersion := 1
    seededInitialAssignmentHashes := ∅
    observedInitialAssignmentHashes := ∅
    initialAssignmentAuditStateHash := some hash
    removed := ∅
    validationFailures := [] }

/-- Seeds one declaration. -/
def seedDeclaration (limits : VariableEnvironmentLimits) (reducer : CanonicalVariableEventReducer)
    (declaration : VariableDeclaration) : VariableCheck CanonicalVariableEventReducer := do
  let declarations := reducer.environment.declarations
  refuseIf (limits.maxVariables ≤ declarations.size) .variableLimitExceeded
  validateRuntimeDeclaration declaration limits
  refuseIf (declarations.contains declaration.name) (.duplicateDeclaration declaration.name)
  let hash ← declarationHash declaration
  return { reducer with
    environment := { reducer.environment with
      declarations := declarations.insert declaration.name declaration }
    declarationHashes := reducer.declarationHashes.insert declaration.name hash }

/-- Seeds one initial value. -/
def seedValue (reducer : CanonicalVariableEventReducer)
    (named : String × CanonicalVariableValue) : VariableCheck CanonicalVariableEventReducer := do
  let (assigned, environment) := (CanonicalVariableEnvironment.assign named.1 .runtime none
    named.2).apply reducer.environment
  let entry ← assigned
  return { reducer with
    environment
    seededInitialAssignmentHashes :=
      reducer.seededInitialAssignmentHashes.insert named.1 entry.valueHash }

/-- The audit state of a seeded value. -/
def initialAssignmentAuditState (reducer : CanonicalVariableEventReducer) (name : String)
    (value : CanonicalVariableValue) : VariableCheck (Option InitialAssignmentAuditState) := do
  let hash ← valueHash value
  if reducer.seededInitialAssignmentHashes[name]? ≠ some hash then return none
  else if reducer.observedInitialAssignmentHashes[name]? = some hash then return some .observed
  else return some .pending

/-- Validates one seeded initial assignment of a snapshot. -/
def validateSeededAssignment (reducer : CanonicalVariableEventReducer)
    (seeded : String × ContentHash) : VariableCheck Unit := do
  let (name, hash) := seeded
  let declaration ← reducer.environment.declaration name
  refuseIf (declaration.producer ≠ runtimeProducer) .initialAuditStateMismatch
  if !reducer.observedInitialAssignmentHashes.contains name then
    let entry ← okOr reducer.environment.entries[name]? .initialAuditStateMismatch
    refuseIf (entry.version ≠ 1 ∨ entry.writer ≠ .runtime ∨ entry.valueHash ≠ hash)
      .initialAuditStateMismatch

/-- Validates the audit state of the initial assignments. -/
def validateInitialAssignmentAuditState (reducer : CanonicalVariableEventReducer) :
    VariableCheck Unit := do
  let seeded := reducer.seededInitialAssignmentHashes
  let observed := reducer.observedInitialAssignmentHashes
  if reducer.initialAuditSchemaVersion = 0 then
    refuseIf (!seeded.isEmpty ∨ !observed.isEmpty ∨ reducer.initialAssignmentAuditStateHash.isSome)
      .initialAuditStateMismatch
  else
    refuseIf (reducer.initialAuditSchemaVersion ≠ 1) .initialAuditStateMismatch
    let hash ← AgentMod.initialAssignmentAuditStateHash seeded observed
    refuseIf (reducer.initialAssignmentAuditStateHash ≠ some hash ∨
      ¬ ∀ entry ∈ observed.toList, seeded[entry.1]? = some entry.2) .initialAuditStateMismatch
    forM seeded.toList reducer.validateSeededAssignment
    refuseIf (reducer.environment.entries.toList.any fun entry =>
      entry.2.writer == .runtime && !seeded.contains entry.1) .initialAuditStateMismatch

/-- Validates one tombstone of a snapshot. -/
def validateRemovedRecord (reducer : CanonicalVariableEventReducer)
    (named : String × RemovedVariableRecord) : VariableCheck Unit := do
  let (name, record) := named
  let declaration ← reducer.environment.declaration name
  refuseIf (reducer.environment.entries.contains name ∨
    ¬ (declaration.scope = .node ∨ declaration.scope = .branch) ∨ record.version = 0)
    .invalidRemoval
  authorizeReplayedWriter declaration record.writer
  if declaration.scope = .branch then
    let _ ← validateDirectWriteScope declaration record.writer

/-- Validates the retained hash of one declaration. -/
def validateDeclarationHash (reducer : CanonicalVariableEventReducer)
    (named : String × VariableDeclaration) : VariableCheck Unit := do
  let hash ← declarationHash named.2
  refuseIf (reducer.declarationHashes[named.1]? ≠ some hash) .declarationHashMismatch

/-- Revalidates a deserialized reducer snapshot. -/
def validateReplayed (reducer : CanonicalVariableEventReducer) : VariableCheck Unit := do
  validateEventIdentity reducer.runId runtimeProducer
  reducer.environment.validateReplayed
  let declarations := reducer.environment.declarations
  refuseIf (reducer.declarationHashes.size ≠ declarations.size) .declarationHashMismatch
  refuseIf (¬ ∀ name ∈ reducer.observedDeclarations.toList, declarations.contains name)
    .declarationKeyMismatch
  forM declarations.toList reducer.validateDeclarationHash
  reducer.validateInitialAssignmentAuditState
  forM reducer.removed.toList reducer.validateRemovedRecord
  refuseIf (reducer.validationFailures.length > maxCanonicalVariableFailures) .failureLimitExceeded
  forM reducer.validationFailures (validateFailureStatic reducer.runId)

/-- `initialize`: seeds the declarations and the initial values of a style. -/
def initializeReducer (runId : String) (limits : VariableEnvironmentLimits)
    (declarations : List VariableDeclaration)
    (initialValues : List (String × CanonicalVariableValue)) :
    VariableCheck CanonicalVariableEventReducer := do
  let empty ← new runId limits
  let declared ← declarations.foldlM (seedDeclaration limits) empty
  let seeded ← initialValues.foldlM seedValue declared
  let reducer ← seeded.refreshInitialAssignmentAuditStateHash
  reducer.validateReplayed
  return reducer

/-- Prepares the event of a declaration. -/
def prepareDeclaration (reducer : CanonicalVariableEventReducer) (nodeId : String)
    (declaration : VariableDeclaration) : VariableCheck CanonicalVariableEvent := do
  refuseIf (nodeId ≠ runtimeProducer) (.unauthorizedWriter declaration.name nodeId)
  let environment := reducer.environment
  match environment.declarations[declaration.name]? with
  | some existing =>
    refuseIf (existing ≠ declaration ∨ reducer.observedDeclarations.contains declaration.name)
      (.duplicateDeclaration declaration.name)
  | none =>
    refuseIf (environment.limits.maxVariables ≤ environment.declarations.size)
      .variableLimitExceeded
    validateRuntimeDeclaration declaration environment.limits
  let hash ← AgentMod.declarationHash declaration
  return .declared ⟨reducer.binding nodeId declaration.name none none none ∅, declaration, hash⟩

/-- Whether an assignment by the runtime is the audit of a seeded value. -/
def auditsSeed (reducer : CanonicalVariableEventReducer) (nodeId variableName : String)
    (writer : VariableWriter) (expectedVersion : Option Nat) (value : CanonicalVariableValue) :
    VariableCheck Bool :=
  if nodeId = runtimeProducer ∧ writer = .runtime ∧ expectedVersion = none then do
    return (← reducer.initialAssignmentAuditState variableName value) == some .pending
  else return false

/-- The assignment event over the version that a variable has. -/
def assignedEvent (reducer : CanonicalVariableEventReducer) (nodeId variableName : String)
    (writer : VariableWriter) (value : CanonicalVariableValue) (prior : Option Nat)
    (entry : CanonicalVariableEntry) : CanonicalVariableEvent :=
  .assigned ⟨reducer.binding nodeId variableName prior (some entry.version) (some entry.valueHash)
    (artifactReferences value), writer, value⟩

/-- Prepares the event of an assignment: the audit of a seeded value, or a write. -/
def prepareAssignment (reducer : CanonicalVariableEventReducer) (nodeId variableName : String)
    (writer : VariableWriter) (expectedVersion : Option Nat) (value : CanonicalVariableValue) :
    VariableCheck CanonicalVariableEvent := do
  reducer.ensureNotRemoved variableName
  let existing := reducer.environment.entries[variableName]?
  if ← reducer.auditsSeed nodeId variableName writer expectedVersion value then
    let entry ← okOr existing (.missingValue variableName)
    refuseIf (entry.version ≠ 1 ∨ entry.writer ≠ .runtime ∨ entry.value ≠ value) .eventMismatch
    return reducer.assignedEvent nodeId variableName writer value none entry
  else
    let entry ← ((CanonicalVariableEnvironment.assign variableName writer expectedVersion
      value).apply reducer.environment).1
    return reducer.assignedEvent nodeId variableName writer value
      (existing.map CanonicalVariableEntry.version) entry

/-- Prepares the event of a merge. -/
def prepareMerge (reducer : CanonicalVariableEventReducer) (nodeId variableName : String)
    (writer : VariableWriter) (expectedVersion : Option Nat)
    (branches : List BranchVariableValue) : VariableCheck CanonicalVariableEvent := do
  reducer.ensureNotRemoved variableName
  let declaration ← reducer.environment.declaration variableName
  let policy ← okOr declaration.mergePolicy .missingMergePolicy
  let prior := reducer.environment.entries[variableName]?.map CanonicalVariableEntry.version
  let canonicalBranches := sortBranches branches
  let entry ← ((CanonicalVariableEnvironment.mergeBranches variableName writer expectedVersion
    canonicalBranches).apply reducer.environment).1
  return .merged ⟨reducer.binding nodeId variableName prior (some entry.version)
    (some entry.valueHash) (artifactReferences entry.value), writer, policy, canonicalBranches,
    entry.value⟩

/-- Prepares the event of a removal. -/
def prepareRemoval (reducer : CanonicalVariableEventReducer) (nodeId variableName : String)
    (writer : VariableWriter) (expectedVersion : Nat) : VariableCheck CanonicalVariableEvent := do
  reducer.ensureNotRemoved variableName
  let declaration ← reducer.environment.declaration variableName
  refuseIf (¬ (declaration.scope = .node ∨ declaration.scope = .branch)) .invalidRemoval
  authorizeWriter declaration writer
  let entry ← okOr reducer.environment.entries[variableName]? (.missingValue variableName)
  refuseIf (entry.version ≠ expectedVersion) .versionMismatch
  let retainedBranch ← validateDirectWriteScopeReplayed declaration writer entry.branchId
  refuseIf (retainedBranch ≠ entry.branchId) .branchScopeMismatch
  refuseIf (wordBound ≤ entry.version + 1) .versionOverflow
  return .removed ⟨reducer.binding nodeId variableName (some entry.version)
    (some (entry.version + 1)) (some entry.valueHash) (artifactReferences entry.value), writer⟩

/-- Prepares the event of an attempt that succeeds. -/
def prepareSuccess (reducer : CanonicalVariableEventReducer) (nodeId : String) :
    VariableValidationAttempt → VariableCheck CanonicalVariableEvent
  | .declare declaration => reducer.prepareDeclaration nodeId declaration
  | .assign variableName writer expectedVersion value =>
    reducer.prepareAssignment nodeId variableName writer expectedVersion value
  | .merge variableName writer expectedVersion branches =>
    reducer.prepareMerge nodeId variableName writer expectedVersion branches
  | .remove variableName writer expectedVersion =>
    reducer.prepareRemoval nodeId variableName writer expectedVersion

/-- Prepares the event of an attempt that failed. -/
def prepareFailure (reducer : CanonicalVariableEventReducer) (nodeId : String)
    (attempt : VariableValidationAttempt) (error : VariableEnvironmentError) :
    VariableCheck VariableValidationFailedEvent := do
  let version := reducer.currentVersion attempt.variableName
  let hash ← attemptHash attempt
  return ⟨reducer.binding nodeId attempt.variableName version version (some hash)
    (attemptArtifactReferences attempt), attempt, failureCode error⟩

/-- Prepares the event of an attempt, whether it succeeds or fails. -/
def prepareEvent (reducer : CanonicalVariableEventReducer) (nodeId : String)
    (attempt : VariableValidationAttempt) : VariableCheck CanonicalVariableEvent := do
  validateEventIdentity reducer.runId nodeId
  match reducer.prepareSuccess nodeId attempt with
  | .ok event => return event
  | .error error => return .validationFailed (← reducer.prepareFailure nodeId attempt error)

/-- Whether a verified assignment is the audit of a seeded value. -/
def observesSeed (reducer : CanonicalVariableEventReducer) (event : VariableAssignedEvent) : Bool :=
  event.writer = .runtime ∧ event.binding.priorVersion = none ∧ event.binding.newVersion = some 1 ∧
    reducer.seededInitialAssignmentHashes[event.binding.variableName]? = event.binding.valueHash ∧
    ¬ reducer.observedInitialAssignmentHashes.contains event.binding.variableName

/-- Marks a seeded value as audited. -/
def observeSeed (reducer : CanonicalVariableEventReducer) (name : String) (hash : ContentHash) :
    VariableCheck CanonicalVariableEventReducer :=
  refreshInitialAssignmentAuditStateHash { reducer with
    observedInitialAssignmentHashes := reducer.observedInitialAssignmentHashes.insert name hash }

/-- Marks a first assignment by the runtime as seeded and audited. -/
def recordSeed (reducer : CanonicalVariableEventReducer) (name : String) (hash : ContentHash) :
    VariableCheck CanonicalVariableEventReducer :=
  observeSeed { reducer with
    seededInitialAssignmentHashes := reducer.seededInitialAssignmentHashes.insert name hash }
    name hash

/-- Records a written value as a seed, where it is a first assignment by the runtime. -/
def traceAssigned (written : CanonicalVariableEventReducer) (event : VariableAssignedEvent)
    (hash : ContentHash) : VariableCheck CanonicalVariableEventReducer :=
  if event.writer = .runtime ∧ event.binding.priorVersion = none then
    written.recordSeed event.binding.variableName hash
  else return written

/-- Applies a verified declaration. -/
def applyDeclared (reducer : CanonicalVariableEventReducer) (event : VariableDeclaredEvent) :
    CanonicalVariableEventReducer :=
  let name := event.declaration.name
  { reducer with
    environment := { reducer.environment with
      declarations := reducer.environment.declarations.insertIfNew name event.declaration }
    declarationHashes := reducer.declarationHashes.insertIfNew name event.declarationHash
    observedDeclarations := reducer.observedDeclarations.insert name }

/-- Applies a verified assignment. -/
def applyAssigned (reducer : CanonicalVariableEventReducer) (event : VariableAssignedEvent) :
    VariableCheck CanonicalVariableEventReducer := do
  let name := event.binding.variableName
  if reducer.observesSeed event then
    let observedHash ← okOr reducer.seededInitialAssignmentHashes[name]? .eventMismatch
    reducer.observeSeed name observedHash
  else
    let (assigned, environment) := (CanonicalVariableEnvironment.assign name event.writer
      event.binding.priorVersion event.value).apply reducer.environment
    let entry ← assigned
    traceAssigned { reducer with environment } event entry.valueHash

/-- Applies a verified merge. -/
def applyMerged (reducer : CanonicalVariableEventReducer) (event : VariableMergedEvent) :
    VariableCheck CanonicalVariableEventReducer := do
  let (merged, environment) := (CanonicalVariableEnvironment.mergeBranches
    event.binding.variableName event.writer event.binding.priorVersion
    event.branches).apply reducer.environment
  let _ ← merged
  return { reducer with environment }

/-- Applies a verified removal. -/
def applyRemoved (reducer : CanonicalVariableEventReducer) (event : VariableRemovedEvent) :
    VariableCheck CanonicalVariableEventReducer := do
  let name := event.binding.variableName
  let entry ← okOr reducer.environment.entries[name]? (.missingValue name)
  let version ← okOr event.binding.newVersion .eventMismatch
  return { reducer with
    environment := { reducer.environment with entries := reducer.environment.entries.erase name }
    removed := reducer.removed.insert name ⟨version, entry.valueHash, event.writer⟩ }

/-- Retains a verified failure. -/
def applyFailed (reducer : CanonicalVariableEventReducer) (event : VariableValidationFailedEvent) :
    VariableCheck CanonicalVariableEventReducer := do
  refuseIf (maxCanonicalVariableFailures ≤ reducer.validationFailures.length) .failureLimitExceeded
  return { reducer with validationFailures := reducer.validationFailures ++ [event] }

/-- Applies an event that matches the replay state. -/
def applyVerified (reducer : CanonicalVariableEventReducer) :
    CanonicalVariableEvent → VariableCheck (CanonicalVariableEventReducer × VariableEventApplyOutcome)
  | .declared event => return (reducer.applyDeclared event, .mutated)
  | .assigned event => return (← reducer.applyAssigned event, .mutated)
  | .merged event => return (← reducer.applyMerged event, .mutated)
  | .removed event => return (← reducer.applyRemoved event, .mutated)
  | .validationFailed event => return (← reducer.applyFailed event, .validationFailed event.code)

/-- Applies one event, once the same event has been prepared from the replay state. -/
def apply (reducer : CanonicalVariableEventReducer) (event : CanonicalVariableEvent) :
    VariableCheck (CanonicalVariableEventReducer × VariableEventApplyOutcome) := do
  validateEventIdentity event.binding.runId event.binding.nodeId
  refuseIf (event.binding.runId ≠ reducer.runId) .eventRunMismatch
  let expected ← reducer.prepareEvent event.binding.nodeId (attemptFromEvent event)
  refuseIf (expected ≠ event) .eventMismatch
  reducer.applyVerified event

end CanonicalVariableEventReducer

end AgentMod
