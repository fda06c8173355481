import AgentMod.Graph.Compile
import AgentMod.Library.Run

/-! Replayable bounded execution of parallel branches: dispatch and branch transitions. -/

namespace AgentMod

/-- The most branches or members that one execution may have. -/
def maxMembers : Nat := 1024

/-- The most bytes of an identifier. -/
def maxIdentifierBytes : Nat := 512

/-- The most bytes of an inline result. -/
def maxResultBytes : Nat := 64 * 1024

/-- The most artifacts of one result. -/
def maxArtifactsPerResult : Nat := 1024

/-- The most bytes of a failure code. -/
def maxFailureCodeBytes : Nat := 256

/-- The largest `u32`. -/
def maxU32 : Nat := 2 ^ 32 - 1

/-- The largest `u64`. -/
def maxU64 : Nat := 2 ^ 64 - 1

/-- Immutable identity of one node execution. -/
structure NodeWorkIdentity where
  runId : String
  nodeId : String
  branchPath : List String
  attempt : Nat
  loopIteration : Nat
  step : Nat
  deriving DecidableEq

/-- Stable parallel execution and join validation failure. -/
inductive ParallelExecutionError where
  | wrongConfiguration (expected : String)
  | invalidCapacity
  | invalidMemberCount (count : Nat)
  | queueCapacityExceeded (branches effectiveParallelism maxQueueDepth : Nat)
  | invalidIdentifier (field value : String)
  | identitySerialization (detail : String)
  | duplicateBranchIdentity
  | duplicateConfiguredReference (reference : String)
  | duplicateBoundBranch (branchId : String)
  | missingBoundBranch (branchId : String)
  | unexpectedBoundBranch
  | joinBindingSetMismatch
  | parallelJoinPolicyMismatch
  | unknownBranch (branchId : String)
  | dispatchIdentityMismatch (branchId : String)
  | illegalTransition (branchId source transition : String)
  | invalidCompletionSequence (expected actual : Nat)
  | completionSequenceExhausted
  | resultSerialization (detail : String)
  | resultTooLarge (bytes : Nat)
  | invalidArtifactCollection
  | invalidDiagnosticCode
  | invalidJoinConfiguration
  | unexpectedJoinMember (memberId : String)
  | missingProjectedResult (memberId projection : String)
  | unknownMergeVariable («variable» : String)
  | unknownWrittenVariable («variable» : String)
  | mergePolicyMismatch («variable» : String) (declared configured : VariableMergePolicy)
  | conflictingVariableWrite («variable» leftBranch rightBranch : String)
  | conflictingWorkspaceWrite (resource leftBranch rightBranch : String)
  deriving DecidableEq, Repr

/-- A check of parallel execution that accepts or rejects. -/
abbrev Executing (α : Type) := Except ParallelExecutionError α

/-- `serde_json::to_vec` on what parallel execution serializes. -/
class ParallelSerde where
  branchMaterial : NodeWorkIdentity → String → Nat → Except String (List UInt8)
  dispatchMaterial : NodeWorkIdentity → String → Except String (List UInt8)
  /-- An inline result value. -/
  valueBytes : Json → Except String (List UInt8)

/-- Validates an identity field. -/
def validateIdentifier (field value : String) : Executing Unit :=
  refuseIf (value.isEmpty ∨ value.utf8ByteSize > maxIdentifierBytes ∨ value.toList.any isControl)
    (.invalidIdentifier field value)

/-- Validates a failure or cancellation code. -/
def validateCode (code : String) : Executing Unit :=
  refuseIf (code.isEmpty ∨ code.utf8ByteSize > maxFailureCodeBytes ∨ code.toList.any isControl)
    .invalidDiagnosticCode

/-- Bounded successful member result consumed by a generic join. -/
structure JoinMemberResult where
  inlineValue : Option Json
  nodeResultReference : Option String
  artifactReferences : StringSet
  declaredArtifactReferences : StringSet

/-- Replayable lifecycle of one parallel branch. -/
inductive ParallelBranchState where
  | queued
  | dispatched
  | running
  | completed (completionSequence : Nat) (result : JoinMemberResult)
  | failed (code : String)
  | cancelled (code : String)

namespace ParallelBranchState

/-- The branch holds a dispatch slot. -/
def isActive : ParallelBranchState → Bool
  | .dispatched | .running => true
  | _ => false

/-- The branch has not ended. -/
def isIncomplete : ParallelBranchState → Bool
  | .queued | .dispatched | .running => true
  | _ => false

/-- The branch waits for a dispatch slot. -/
def isQueued : ParallelBranchState → Bool
  | .queued => true
  | _ => false

/-- The sequence number of a successful completion. -/
def completion? : ParallelBranchState → Option Nat
  | .completed completionSequence _ => some completionSequence
  | _ => none

/-- `state_name`. -/
def name : ParallelBranchState → String
  | .queued => "queued"
  | .dispatched => "dispatched"
  | .running => "running"
  | .completed .. => "completed"
  | .failed _ => "failed"
  | .cancelled _ => "cancelled"

end ParallelBranchState

/-- One replayable branch record. -/
structure ParallelBranchRecord where
  branchId : String
  dispatchId : String
  branchIndex : Nat
  targetNodeId : String
  state : ParallelBranchState

/-- Canonical transition applied by replay to one branch. -/
inductive ParallelBranchTransition where
  | dispatch (branchId dispatchId : String)
  | start (branchId dispatchId : String)
  | complete (branchId dispatchId : String) (completionSequence : Nat) (result : JoinMemberResult)
  | fail (branchId dispatchId code : String)
  | cancel (branchId dispatchId code : String)

namespace ParallelBranchTransition

/-- The branch that a transition names. -/
def branchId : ParallelBranchTransition → String
  | .dispatch branchId _ | .start branchId _ | .complete branchId .. | .fail branchId ..
  | .cancel branchId .. => branchId

/-- The dispatch identity that a transition carries. -/
def dispatchId : ParallelBranchTransition → String
  | .dispatch _ dispatchId | .start _ dispatchId | .complete _ dispatchId ..
  | .fail _ dispatchId _ | .cancel _ dispatchId _ => dispatchId

/-- `transition_name`. -/
def name : ParallelBranchTransition → String
  | .dispatch .. => "dispatch"
  | .start .. => "start"
  | .complete .. => "complete"
  | .fail .. => "fail"
  | .cancel .. => "cancel"

/-- The transition records a successful completion. -/
def isComplete : ParallelBranchTransition → Bool
  | .complete .. => true
  | _ => false

end ParallelBranchTransition

/-- One statically compiled branch target and its declared writes. -/
structure ParallelBranchSpec where
  memberReference : String
  targetNodeId : String
  writeVariables : StringSet
  workspaceResources : StringSet

/-- Persisted binding from a join reference to a runtime branch. -/
structure ParallelMemberBinding where
  configuredReference : String
  targetNodeId : String
  branchIndex : Nat
  branchId : String
  deriving DecidableEq

/-- Stable dispatch proposed for later commitment. -/
structure BranchDispatchDescriptor where
  branchId : String
  dispatchId : String
  branchIndex : Nat
  targetNodeId : String
  deriving DecidableEq

/-- Deterministic dispatch readiness for the current state. -/
structure ParallelDispatchDecision where
  ready : List BranchDispatchDescriptor
  backpressured : Bool
  queuedAfterDispatch : Nat
  deriving DecidableEq

/-- Replayable state for one parallel node-work attempt. -/
structure ParallelExecutionState where
  work : NodeWorkIdentity
  maxParallelism : Nat
  maxQueueDepth : Nat
  joinTarget : String
  joinPolicy : ParallelJoinPolicy
  serializationPolicy : Option ParallelSerializationPolicy
  branches : StringMap ParallelBranchRecord
  memberBindings : List ParallelMemberBinding

/-- Validates an inline value, the references and the artifacts of a result. -/
def validateMemberResult [ParallelSerde] (result : JoinMemberResult) : Executing Unit := do
  refuseIf (result.artifactReferences.size > maxArtifactsPerResult ∨
      ¬ result.declaredArtifactReferences.toList.all result.artifactReferences.contains)
    .invalidArtifactCollection
  forM result.inlineValue.toList fun value => do
    let bytes ← (ParallelSerde.valueBytes value).mapError .resultSerialization
    refuseIf (bytes.length > maxResultBytes) (.resultTooLarge bytes.length)
  forM result.nodeResultReference.toList (validateIdentifier "node result reference")
  forM result.artifactReferences.toList (validateIdentifier "artifact reference")

/-- Validates one configured merge against the declarations. -/
def validateConfiguredMerge (declarations : StringMap VariableDeclaration)
    (merge : String × VariableMergePolicy) : Executing Unit := do
  let declaration ← okOr declarations[merge.1]? (.unknownMergeVariable merge.1)
  forM declaration.mergePolicy.toList fun declared =>
    refuseIf (declared ≠ merge.2) (.mergePolicyMismatch merge.1 declared merge.2)

/-- Validates a variable that two branches write. -/
def validateSharedVariable (declarations : StringMap VariableDeclaration)
    (mergePolicies : StringMap VariableMergePolicy)
    (serializationPolicy : Option ParallelSerializationPolicy) (left right : ParallelBranchSpec)
    («variable» : String) : Executing Unit := do
  let declaration ← okOr declarations[«variable»]? (.unknownWrittenVariable «variable»)
  let hasMerge := mergePolicies.contains «variable» ∨ declaration.mergePolicy.isSome
  refuseIf (declaration.scope ≠ .branch ∧ ¬ hasMerge ∧ serializationPolicy.isNone)
    (.conflictingVariableWrite «variable» left.targetNodeId right.targetNodeId)

/-- Validates what two branches both write. -/
def validateSharedWrites (declarations : StringMap VariableDeclaration)
    (mergePolicies : StringMap VariableMergePolicy)
    (serializationPolicy : Option ParallelSerializationPolicy) (left right : ParallelBranchSpec) :
    Executing Unit := do
  forM (left.writeVariables ∩ right.writeVariables).toList
    (validateSharedVariable declarations mergePolicies serializationPolicy left right)
  forM (left.workspaceResources ∩ right.workspaceResources).toList.head?.toList fun resource =>
    refuseIf (serializationPolicy.isNone = true)
      (.conflictingWorkspaceWrite resource left.targetNodeId right.targetNodeId)

/-- Runs a check on every two branches, the earlier one first. -/
def forBranchPairs (check : ParallelBranchSpec → ParallelBranchSpec → Executing Unit) :
    List ParallelBranchSpec → Executing Unit
  | [] => return ()
  | left :: rest => do
    forM rest (check left)
    forBranchPairs check rest

/-- Validates concurrent variable and workspace writes for a parallel fan-out. -/
def ParallelExecution.validateParallelWrites (branches : List ParallelBranchSpec)
    («variables» : List VariableDeclaration) (mergePolicies : StringMap VariableMergePolicy)
    (serializationPolicy : Option ParallelSerializationPolicy) : Executing Unit := do
  refuseIf (branches.length > maxMembers) (.invalidMemberCount branches.length)
  let declarations : StringMap VariableDeclaration :=
    .ofList («variables».map fun declaration => (declaration.name, declaration))
  forM mergePolicies.toList (validateConfiguredMerge declarations)
  forBranchPairs (validateSharedWrites declarations mergePolicies serializationPolicy) branches
  forM branches fun branch =>
    forM branch.writeVariables.toList fun written =>
      refuseIf (!declarations.contains written) (.unknownWrittenVariable written)

section Creation

variable [ParallelSerde] [Hashing]

/-- Derives a stable branch identity from node work, target and outgoing-edge index. -/
def stableBranchId (work : NodeWorkIdentity) (targetNodeId : String) (branchIndex : Nat) :
    Executing String := do
  validateIdentifier "run id" work.runId
  validateIdentifier "node id" work.nodeId
  validateIdentifier "branch target" targetNodeId
  forM work.branchPath (validateIdentifier "parent branch id")
  let material ← (ParallelSerde.branchMaterial work targetNodeId branchIndex).mapError
    .identitySerialization
  return "branch:blake3:" ++ (Hashing.digest material).toHex

/-- Derives the dispatch identity of a branch. -/
def stableDispatchId (work : NodeWorkIdentity) (branchId : String) : Executing String := do
  let material ← (ParallelSerde.dispatchMaterial work branchId).mapError .identitySerialization
  return "dispatch:blake3:" ++ (Hashing.digest material).toHex

/-- The branches, the references and the bindings collected from the first specifications. -/
structure CollectedBranches where
  branches : StringMap ParallelBranchRecord
  configuredReferences : StringSet
  memberBindings : List ParallelMemberBinding

/-- Adds the branch of one specification. -/
def collectBranch (work : NodeWorkIdentity) (count : Nat) (collected : CollectedBranches)
    (entry : ParallelBranchSpec × Nat) : Executing CollectedBranches := do
  let spec := entry.1
  validateIdentifier "join member reference" spec.memberReference
  validateIdentifier "branch target" spec.targetNodeId
  refuseIf (collected.configuredReferences.contains spec.memberReference)
    (.duplicateConfiguredReference spec.memberReference)
  refuseIf (entry.2 > maxU32) (.invalidMemberCount count)
  let branchId ← stableBranchId work spec.targetNodeId entry.2
  let dispatchId ← stableDispatchId work branchId
  refuseIf (collected.branches.contains branchId) .duplicateBranchIdentity
  return {
    branches := collected.branches.insert branchId
      ⟨branchId, dispatchId, entry.2, spec.targetNodeId, .queued⟩
    configuredReferences := collected.configuredReferences.insert spec.memberReference
    memberBindings := collected.memberBindings ++
      [⟨spec.memberReference, spec.targetNodeId, entry.2, branchId⟩] }

/-- The bound on concurrent branches, which serialization lowers to one. -/
def effectiveParallelism (serializationPolicy : Option ParallelSerializationPolicy)
    (maxParallelism : Nat) : Nat :=
  if serializationPolicy.isSome then 1 else maxParallelism

/-- Constructs the initial queued state after validating all bounds and writes. -/
def ParallelExecutionState.new (work : NodeWorkIdentity) (configuration : NodeConfiguration)
    (branchSpecs : List ParallelBranchSpec) («variables» : List VariableDeclaration) :
    Executing ParallelExecutionState :=
  match configuration with
  | .parallelBranch parallel => do
    refuseIf (parallel.maxParallelism = 0 ∨ parallel.maxQueueDepth = 0) .invalidCapacity
    refuseIf (branchSpecs.length < 2 ∨ branchSpecs.length > maxMembers)
      (.invalidMemberCount branchSpecs.length)
    validateIdentifier "join target" parallel.joinTarget
    ParallelExecution.validateParallelWrites branchSpecs «variables» parallel.variableMergePolicies
      parallel.serializationPolicy
    let effective := effectiveParallelism parallel.serializationPolicy parallel.maxParallelism
    refuseIf (branchSpecs.length - effective > parallel.maxQueueDepth)
      (.queueCapacityExceeded branchSpecs.length effective parallel.maxQueueDepth)
    let collected ← branchSpecs.zipIdx.foldlM (collectBranch work branchSpecs.length) ⟨∅, ∅, []⟩
    return {
      work
      maxParallelism := parallel.maxParallelism
      maxQueueDepth := parallel.maxQueueDepth
      joinTarget := parallel.joinTarget
      joinPolicy := parallel.joinPolicy
      serializationPolicy := parallel.serializationPolicy
      branches := collected.branches
      memberBindings := collected.memberBindings }
  | _ => throw (.wrongConfiguration "parallel_branch")

end Creation

namespace ParallelExecutionState

/-- The branches in the order of their outgoing edges. -/
def orderedBranches (state : ParallelExecutionState) : List ParallelBranchRecord :=
  sortBy (compareLex (compareOn ParallelBranchRecord.branchIndex)
    (compareOn ParallelBranchRecord.branchId)) state.branches.values

/-- The dispatch that a record proposes. -/
def descriptor (branch : ParallelBranchRecord) : BranchDispatchDescriptor :=
  ⟨branch.branchId, branch.dispatchId, branch.branchIndex, branch.targetNodeId⟩

/-- The branches that hold a dispatch slot. -/
def activeCount (state : ParallelExecutionState) : Nat :=
  (state.branches.values.filter fun branch => branch.state.isActive).length

/-- Produces the next stable dispatch batch without changing the state. -/
def dispatchDecision (state : ParallelExecutionState) : ParallelDispatchDecision :=
  let effectiveLimit := effectiveParallelism state.serializationPolicy state.maxParallelism
  let capacity := effectiveLimit - state.activeCount
  let queued := state.orderedBranches.filter fun branch => branch.state.isQueued
  let ready := (queued.take capacity).map descriptor
  let queuedAfterDispatch := queued.length - ready.length
  { ready
    backpressured := queuedAfterDispatch > 0
    queuedAfterDispatch := min queuedAfterDispatch maxU32 }

/-- The sequence numbers of the completed branches. -/
def completionSequences (state : ParallelExecutionState) : List Nat :=
  state.branches.values.filterMap fun branch => branch.state.completion?

/-- The sequence number of the next successful completion. -/
def nextCompletionSequence (state : ParallelExecutionState) : Executing Nat :=
  let last := state.completionSequences.max?.getD 0
  if last < maxU64 then .ok (last + 1) else .error .completionSequenceExhausted

end ParallelExecutionState

section Transitions

variable [ParallelSerde]

/-- The state to which a transition leads a branch, where the next completion sequence is given. -/
def ParallelBranchState.transition (state : ParallelBranchState) (branchId : String)
    (expectedCompletionSequence : Option Nat) (transition : ParallelBranchTransition) :
    Executing ParallelBranchState :=
  match transition, state with
  | .dispatch .., .queued => return .dispatched
  | .start .., .dispatched => return .running
  | .complete _ _ completionSequence result, .running => do
    validateMemberResult result
    let expected ← okOr expectedCompletionSequence .completionSequenceExhausted
    refuseIf (completionSequence ≠ expected) (.invalidCompletionSequence expected completionSequence)
    return .completed completionSequence result
  | .fail _ _ code, .running => do
    validateCode code
    return .failed code
  | .cancel _ _ code, .queued | .cancel _ _ code, .dispatched | .cancel _ _ code, .running => do
    validateCode code
    return .cancelled code
  | transition, state => throw (.illegalTransition branchId state.name transition.name)

namespace ParallelExecutionState

/-- The sequence number that a completion must carry; other transitions carry none. -/
def expectedCompletionSequence (state : ParallelExecutionState)
    (transition : ParallelBranchTransition) : Executing (Option Nat) :=
  if transition.isComplete then some <$> state.nextCompletionSequence else .ok none

/-- Applies one committed transition. -/
def apply (transition : ParallelBranchTransition) :
    Updating ParallelExecutionState ParallelExecutionError Unit := do
  let state ← get
  let expected ← .ofExcept (state.expectedCompletionSequence transition)
  let branch ← .ofExcept (okOr state.branches[transition.branchId]?
    (.unknownBranch transition.branchId))
  if transition.dispatchId ≠ branch.dispatchId then
    throw (.dispatchIdentityMismatch transition.branchId)
  let next ← .ofExcept (branch.state.transition transition.branchId expected transition)
  -- The record is the one entry of the map that a transition may change.
  set { state with
    branches := state.branches.insert transition.branchId { branch with state := next } }

/-- Builds the next successful completion of a running branch. -/
def completionTransition (state : ParallelExecutionState) (branchId : String)
    (result : JoinMemberResult) : Executing ParallelBranchTransition := do
  validateMemberResult result
  let branch ← okOr state.branches[branchId]? (.unknownBranch branchId)
  match branch.state with
  | .running =>
    return .complete branchId branch.dispatchId (← state.nextCompletionSequence) result
  | other => throw (.illegalTransition branchId other.name "complete")

end ParallelExecutionState

end Transitions

/-- Produces stable cancellations of every incomplete branch. -/
def ParallelExecutionState.cancellationTransitions (state : ParallelExecutionState)
    (code : String) : Executing (List ParallelBranchTransition) := do
  validateCode code
  return (state.orderedBranches.filter fun branch => branch.state.isIncomplete).map fun branch =>
    .cancel branch.branchId branch.dispatchId code

end AgentMod
