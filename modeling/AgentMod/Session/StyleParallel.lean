import AgentMod.PluginSchema.Tree
import AgentMod.Session.StyleControl

/-! How parallel events move the branches of parallel executions, and what becomes of them. -/

namespace AgentMod

/-- The most artifact references of one branch effect. -/
def maxParallelBranchArtifactReferences : Nat := 256

namespace ParallelBranchControlState

/-- The branch waits in the fan-out queue. -/
def isQueued : ParallelBranchControlState → Bool
  | .queued => true
  | _ => false

/-- The branch is dispatched, and no node of it has acknowledged that. -/
def isDispatched : ParallelBranchControlState → Bool
  | .dispatched => true
  | _ => false

/-- The nested node that is active in the branch. -/
def active? : ParallelBranchControlState → Option ParallelBranchNodeEnteredEvent
  | .active entered => some entered
  | _ => none

/-- The nested node completion that awaits its transition. -/
def completed? : ParallelBranchControlState → Option ParallelBranchNodeCompletedEvent
  | .awaitingTransition completed => some completed
  | _ => none

/-- The nested node that the branch expects to enter. -/
def expected? : ParallelBranchControlState → Option ParallelBranchNodeCursor
  | .awaitingDestinationEntry selected =>
    some ⟨selected.toNodeId, selected.attempt, selected.loopIteration, selected.nextStep⟩
  | .readyForEntry cursor => some cursor
  | _ => none

end ParallelBranchControlState

/-- `node_work_is_active`. -/
def StyleExecutionState.nodeWorkIsActive (execution : StyleExecutionState) (work : NodeWorkIdentity) : Bool :=
  if work.branchPath.isEmpty then
    activeNodeMatches execution.activeNode work.nodeId work.attempt work.loopIteration work.step
  else
    execution.parallelExecutions.values.any fun parallel =>
      parallel.branches.values.any fun branch => branch.control.active?.any (·.work == work)

/-- `exact_executor_for_work`. -/
def StyleExecutionState.exactExecutorForWork (execution : StyleExecutionState) (work : NodeWorkIdentity)
    (executor : SessionNodeExecutorResolution) : Reducing ExecutableNode := do
  let contract ← okOr execution.executionContract .invalidParallelExecution
  let node ← okOr (execution.graph.node? work.nodeId) .invalidParallelExecution
  let expected ← okOr (contract.nodeExecutors.find? (·.nodeId == work.nodeId)) .invalidParallelExecution
  refuseIf (work.runId ≠ contract.runId ∨ executor ≠ expected) .invalidParallelExecution
  return node

/-- Equality of optional values. -/
def optionalEqual : Option Json → Option Json → Bool
  | some left, some right => left.equal right
  | none, none => true
  | _, _ => false

/-- Equality of member results. -/
def JoinMemberResult.equal (left right : JoinMemberResult) : Bool :=
  optionalEqual left.inlineValue right.inlineValue &&
    decide (left.nodeResultReference = right.nodeResultReference ∧
      left.artifactReferences = right.artifactReferences ∧
      left.declaredArtifactReferences = right.declaredArtifactReferences)

/-- Equality of optional member results. -/
def optionalResultEqual : Option JoinMemberResult → Option JoinMemberResult → Bool
  | some left, some right => left.equal right
  | none, none => true
  | _, _ => false

/-- `parallel_branch_effect_references_match`. -/
def parallelBranchEffectReferencesMatch (output : ParallelBranchEffectOutput) (result : JoinMemberResult) :
    Bool :=
  let artifactReferences := output.artifactReferences ∪ .ofList output.artifactReference.toList
  decide (result.nodeResultReference = output.resultReference ∧
    result.declaredArtifactReferences = artifactReferences ∧ result.artifactReferences = artifactReferences)

/-- A failure or ambiguity code is bounded text. -/
def validBranchCode (code : String) : Bool :=
  !isBlank code && decide (code.utf8ByteSize ≤ 256) && !code.toList.any isControl

/-- A reference of an effect output is bounded text. -/
def validOutputReference (reference : String) : Bool :=
  !isBlank reference && decide (reference.utf8ByteSize ≤ 1024) && !reference.toList.any isControl

namespace ParallelBranchEffectOutcome

/-- `receipt_hash`. -/
def receiptHash : ParallelBranchEffectOutcome → ContentHash
  | .waiting _ receiptHash | .completed _ receiptHash | .failed _ receiptHash | .ambiguous _ receiptHash =>
    receiptHash

/-- The effect waits for something. -/
def isWaiting : ParallelBranchEffectOutcome → Bool
  | .waiting .. => true
  | _ => false

/-- The same wait is recorded again. -/
def sameWait : ParallelBranchEffectOutcome → ParallelBranchEffectOutcome → Bool
  | .waiting left leftHash, .waiting right rightHash => left == right && decide (leftHash = rightHash)
  | _, _ => false

/-- The output of a completed effect is that of a node result, or the transition variables are. -/
def admitsResult («variables» : Option Json) (result : JoinMemberResult) :
    ParallelBranchEffectOutcome → Bool
  | .completed output _ =>
    parallelBranchEffectReferencesMatch output result &&
      (optionalEqual result.inlineValue (some output.transitionVariables) ||
        («variables».isSome && optionalEqual result.inlineValue «variables»))
  | _ => false

/-- The code of a failed effect is that of a node failure. -/
def admitsFailure (code : String) : ParallelBranchEffectOutcome → Bool
  | .failed found _ => found == code
  | .ambiguous found _ => code == "ambiguous:" ++ found
  | _ => false

variable [StyleSerde] [ParallelSerde] [Hashing]

/-- `valid_parallel_branch_effect_outcome`. -/
def valid (identity : ParallelBranchEffectIdentity) (outcome : ParallelBranchEffectOutcome) : Bool :=
  decide (Hashing.digest (StyleSerde.receiptToVec identity outcome) = outcome.receiptHash) &&
    match outcome with
    | .waiting reference _ => validBranchCode reference
    | .completed output _ =>
      returns (ParallelSerde.valueBytes output.transitionVariables)
          (fun bytes => decide (bytes.length ≤ 1024 * 1024)) &&
        output.resultReference.all validOutputReference &&
        output.artifactReference.all validOutputReference &&
        decide (output.artifactReferences.size ≤ maxParallelBranchArtifactReferences) &&
        output.artifactReferences.toList.all validOutputReference &&
        output.artifactReference.all output.artifactReferences.contains
    | .failed code _ | .ambiguous code _ => validBranchCode code

end ParallelBranchEffectOutcome

section Parallel

variable [StyleSerde] [ParallelSerde] [Hashing]

/-- The region that initialization expects of a branch. -/
def expectedRegion (execution : StyleExecutionState) (owner : NodeWorkIdentity) (joinTarget : String)
    (edge : ExecutableEdge) (branchIndex : Nat) (region : ParallelBranchRegionBinding) :
    Reducing ParallelBranchSpec := do
  let invalid := SessionReducerError.invalidParallelExecution
  let target ← okOr execution.graph.nodes[edge.target]? invalid
  let nodes ← parallelRegionNodes execution.graph target.id joinTarget
  let members := nodes.toList.filterMap execution.graph.node?
  let writes : StringSet := .ofList (members.flatMap (·.writeVariables.toList))
  let resources : StringSet := .ofList (members.flatMap (·.writeScopes.toList))
  let version (name : String) : Nat :=
    ((execution.canonicalVariables.bind (·.environment.entries[name]?)).map (·.version)).getD 0
  let baseVersions : StringMap Nat := .ofList (writes.toList.map fun name => (name, version name))
  let reference ← okOr edge.label invalid
  refuseIf (branchIndex > maxU32) invalid
  let regionId ← expectedParallelRegionId owner region.member nodes
  refuseIf (region.member.configuredReference ≠ reference ∨ region.member.targetNodeId ≠ target.id ∨
    region.member.branchIndex ≠ branchIndex ∨ region.nodeIds ≠ nodes ∨ region.writeVariables ≠ writes ∨
    region.workspaceResources ≠ resources ∨ region.variableBaseVersions.toList ≠ baseVersions.toList ∨
    region.workspaceBaseVersions.keys ≠ resources.toList ∨
    region.workspaceBaseVersions.values.any (· ≠ 0) ∨ region.regionId ≠ regionId) invalid
  return ⟨reference, target.id, writes, resources⟩

/-- The record of a branch that has not begun. -/
def ParallelBranchReplayRecord.new (region : ParallelBranchRegionBinding) : ParallelBranchReplayRecord :=
  ⟨region, .queued, none, none, none, none, none, none⟩

/-- The join of a parallel configuration. -/
def configuredJoinTarget : NodeConfiguration → Option String
  | .parallelBranch parallel => some parallel.joinTarget
  | _ => none

/-- `apply_parallel_execution_initialized`. -/
def initializeParallelExecution (execution : StyleExecutionState)
    (initialized : ParallelExecutionInitializedEvent) (sequence : Sequence) :
    Reducing StyleExecutionState := do
  let invalid := SessionReducerError.invalidParallelExecution
  let node ← execution.exactExecutorForWork initialized.owner initialized.executor
  refuseIf (node.kind ≠ .parallelBranch ∨ initialized.executor.nativeExecutorKey ≠ some .parallel) invalid
  let configurationHash ← nodeConfigurationHash node.configuration
  refuseIf (configurationHash ≠ initialized.configurationHash ∨
    !execution.nodeWorkIsActive initialized.owner) invalid
  let configuration ← okOr node.configuration invalid
  let joinTarget ← okOr (configuredJoinTarget configuration) invalid
  let outgoing := execution.graph.edges.filter (·.source == node.index)
  refuseIf (outgoing.length ≠ initialized.regions.length) invalid
  let specs ← (outgoing.zip initialized.regions).zipIdx.mapM fun branch =>
    expectedRegion execution initialized.owner joinTarget branch.1.1 branch.2 branch.1.2
  let pure ← (ParallelExecutionState.new initialized.owner configuration specs
    execution.graph.variables).mapError fun _ => invalid
  refuseIf (pure.memberBindings ≠ initialized.regions.map (·.member)) invalid
  let key ← nodeWorkKey initialized.owner
  refuseIf (execution.parallelExecutions.contains key) invalid
  let parallel : CanonicalParallelExecutionState := {
    owner := initialized.owner
    executor := initialized.executor
    configurationHash := initialized.configurationHash
    execution := pure
    branches := .ofList <| initialized.regions.map fun region =>
      (region.member.branchId, ParallelBranchReplayRecord.new region)
    initializedAt := sequence
    lastAllocatedStep := initialized.owner.step
    cancellationCode := none
    cancellationRequestedAt := none
    cancellationCompletedAt := none }
  return { execution with
    parallelExecutions := execution.parallelExecutions.insert key parallel }

/-- The parallel execution that a work owns, with its key. -/
def ownedParallel (execution : StyleExecutionState) (owner : NodeWorkIdentity) :
    Reducing (String × CanonicalParallelExecutionState) := do
  let key ← nodeWorkKey owner
  let parallel ← okOr execution.parallelExecutions[key]? .invalidParallelExecution
  return (key, parallel)

/-- `parallel_projection_mut`. -/
def parallelProjection (execution : StyleExecutionState) (owner : NodeWorkIdentity)
    (configurationHash : ContentHash) : Reducing (String × CanonicalParallelExecutionState) := do
  let (key, parallel) ← ownedParallel execution owner
  refuseIf (parallel.owner ≠ owner ∨ parallel.configurationHash ≠ configurationHash)
    .invalidParallelExecution
  return (key, parallel)

namespace CanonicalParallelExecutionState

/-- Refuses once cancellation was requested. -/
def refuseCancelled (parallel : CanonicalParallelExecutionState) : Reducing Unit :=
  refuseIf parallel.cancellationRequestedAt.isSome .invalidParallelExecution

/-- The replay record of a branch. -/
def branch (parallel : CanonicalParallelExecutionState) (branchId : String) :
    Reducing ParallelBranchReplayRecord :=
  okOr parallel.branches[branchId]? .invalidParallelExecution

/-- Replaces the record of a branch. -/
def setBranch (parallel : CanonicalParallelExecutionState) (branchId : String)
    (branch : ParallelBranchReplayRecord) : CanonicalParallelExecutionState :=
  { parallel with branches := parallel.branches.insert branchId branch }

/-- Applies a transition to the embedded execution. -/
def advance (parallel : CanonicalParallelExecutionState) (transition : ParallelBranchTransition) :
    Reducing CanonicalParallelExecutionState :=
  match (ParallelExecutionState.apply transition).apply parallel.execution with
  | (.ok _, execution) => .ok { parallel with execution }
  | (.error _, _) => .error .invalidParallelExecution

/-- `apply_parallel_branch_dispatched`. -/
def dispatchBranch (parallel : CanonicalParallelExecutionState)
    (dispatched : ParallelBranchDispatchedEvent) : Reducing CanonicalParallelExecutionState := do
  parallel.refuseCancelled
  refuseIf (!parallel.execution.dispatchDecision.ready.any fun ready =>
    ready.branchId == dispatched.branchId && ready.dispatchId == dispatched.dispatchId)
    .invalidParallelExecution
  let parallel ← parallel.advance (.dispatch dispatched.branchId dispatched.dispatchId)
  let branch ← parallel.branch dispatched.branchId
  refuseIf (!branch.control.isQueued) .invalidParallelExecution
  return parallel.setBranch dispatched.branchId { branch with control := .dispatched }

/-- `apply_parallel_branch_started`. -/
def startBranch (parallel : CanonicalParallelExecutionState) (started : ParallelBranchStartedEvent) :
    Reducing CanonicalParallelExecutionState := do
  parallel.refuseCancelled
  let branch ← parallel.branch started.branchId
  refuseIf (!branch.control.isDispatched) .invalidParallelExecution
  let expectedStep ← checkedStep parallel.lastAllocatedStep
  refuseIf (started.firstStep ≠ expectedStep) .invalidParallelExecution
  let parallel ← parallel.advance (.start started.branchId started.dispatchId)
  let cursor : ParallelBranchNodeCursor :=
    ⟨branch.region.member.targetNodeId, 1, parallel.owner.loopIteration, started.firstStep⟩
  return { parallel.setBranch started.branchId { branch with control := .readyForEntry cursor } with
    lastAllocatedStep := started.firstStep }

/-- `validate_parallel_branch_entry`. -/
def validateBranchEntry (execution : StyleExecutionState) (parallel : CanonicalParallelExecutionState)
    (entered : ParallelBranchNodeEnteredEvent) : Reducing Unit := do
  let invalid := SessionReducerError.invalidParallelExecution
  refuseIf (entered.owner ≠ parallel.owner) invalid
  let branch ← parallel.branch entered.branchId
  let pure ← okOr parallel.execution.branches[entered.branchId]? invalid
  let node ← execution.exactExecutorForWork entered.work entered.executor
  let configurationHash ← nodeConfigurationHash node.configuration
  refuseIf (entered.dispatchId ≠ pure.dispatchId ∨
    entered.work.branchPath ≠ parallel.owner.branchPath ++ [entered.branchId] ∨
    !branch.region.nodeIds.contains entered.work.nodeId ∨ configurationHash ≠ entered.configurationHash ∨
    entered.work.attempt = 0 ∨ entered.work.step = 0) invalid

/-- `apply_parallel_branch_node_entered`. -/
def enterBranchNode (execution : StyleExecutionState) (parallel : CanonicalParallelExecutionState)
    (entered : ParallelBranchNodeEnteredEvent) (sequence : Sequence) :
    Reducing CanonicalParallelExecutionState := do
  parallel.refuseCancelled
  parallel.validateBranchEntry execution entered
  let branch ← parallel.branch entered.branchId
  let expected ← okOr branch.control.expected? .invalidParallelExecution
  refuseIf (expected.nodeId ≠ entered.work.nodeId ∨ expected.attempt ≠ entered.work.attempt ∨
    expected.loopIteration ≠ entered.work.loopIteration ∨ expected.step ≠ entered.work.step)
    .invalidParallelExecution
  return parallel.setBranch entered.branchId { branch with
    lastResult := none
    effect := none
    enteredAt := some sequence
    control := .active entered }

/-- `apply_parallel_branch_effect_dispatched`, where the hash of the input matches or not. -/
def dispatchEffect (parallel : CanonicalParallelExecutionState) (identity : ParallelBranchEffectIdentity)
    (inputHashMatches : Bool) (sequence : Sequence) : Reducing CanonicalParallelExecutionState := do
  let invalid := SessionReducerError.invalidParallelExecution
  refuseIf (parallel.cancellationRequestedAt.isSome ∨ isBlank identity.effectKind ∨
    identity.effectKind.utf8ByteSize > 64 ∨ identity.effectKind.toList.any isControl ∨
    identity.executor.parallelBranchEffectKind ≠ some identity.effectKind ∨ !inputHashMatches) invalid
  let branch ← parallel.branch identity.branchId
  let active ← okOr branch.control.active? invalid
  refuseIf (active.work ≠ identity.work ∨ active.owner ≠ identity.owner ∨
    active.branchId ≠ identity.branchId ∨ active.dispatchId ≠ identity.dispatchId ∨
    active.executor ≠ identity.executor ∨ active.configurationHash ≠ identity.configurationHash ∨
    branch.effect.isSome) invalid
  return parallel.setBranch identity.branchId { branch with
    effect := some ⟨identity, none, sequence, none⟩ }

/-- `apply_parallel_branch_effect_outcome_recorded`. -/
def recordEffectOutcome (parallel : CanonicalParallelExecutionState)
    (recorded : ParallelBranchEffectOutcomeRecordedEvent) (sequence : Sequence) :
    Reducing CanonicalParallelExecutionState := do
  let invalid := SessionReducerError.invalidParallelExecution
  let branch ← parallel.branch recorded.identity.branchId
  refuseIf (parallel.cancellationRequestedAt.isSome ∧
    (branch.cancellationRequestedAt ≠ parallel.cancellationRequestedAt ∨ recorded.outcome.isWaiting)) invalid
  let active ← okOr branch.control.active? invalid
  refuseIf (active.work ≠ recorded.identity.work) invalid
  let effect ← okOr branch.effect invalid
  refuseIf (effect.identity ≠ recorded.identity ∨ effect.outcome.any (!·.isWaiting) ∨
    !recorded.outcome.valid recorded.identity ∨ effect.outcome.any (·.sameWait recorded.outcome)) invalid
  return parallel.setBranch recorded.identity.branchId { branch with
    effect := some { effect with outcome := some recorded.outcome, outcomeAt := some sequence } }

/-- The result of a completed branch node is that of its effect, where it has one. -/
def effectAdmits (branch : ParallelBranchReplayRecord) (executor : SessionNodeExecutorResolution)
    (admits : ParallelBranchEffectOutcome → Bool) : Bool :=
  executor.parallelBranchEffectKind.isNone || (branch.effect.bind (·.outcome)).any admits

/-- `apply_parallel_branch_node_completed`, with the variables that the transition may read. -/
def completeBranchNode (parallel : CanonicalParallelExecutionState)
    (completed : ParallelBranchNodeCompletedEvent) («variables» : Option Json) :
    Reducing CanonicalParallelExecutionState := do
  parallel.refuseCancelled
  let branch ← parallel.branch completed.entered.branchId
  refuseIf (branch.control.active? ≠ some completed.entered ∨
    !effectAdmits branch completed.entered.executor (·.admitsResult «variables» completed.result))
    .invalidParallelExecution
  return parallel.setBranch completed.entered.branchId { branch with
    control := .awaitingTransition completed
    lastResult := some completed.result }

/-- `apply_parallel_branch_node_failed`. -/
def failBranchNode (parallel : CanonicalParallelExecutionState) (failed : ParallelBranchNodeFailedEvent) :
    Reducing CanonicalParallelExecutionState := do
  let branch ← parallel.branch failed.entered.branchId
  refuseIf (parallel.cancellationRequestedAt.isSome ∨ !validBranchCode failed.code ∨
    branch.control.active? ≠ some failed.entered ∨
    !effectAdmits branch failed.entered.executor (·.admitsFailure failed.code)) .invalidParallelExecution
  return parallel.setBranch failed.entered.branchId { branch with control := .awaitingFailure failed }

/-- `apply_parallel_branch_transition_selected`. -/
def selectBranchTransition (graph : ExecutableGraph) (parallel : CanonicalParallelExecutionState)
    (selected : ParallelBranchTransitionSelectedEvent) : Reducing CanonicalParallelExecutionState := do
  let invalid := SessionReducerError.invalidParallelExecution
  let branch ← parallel.branch selected.branchId
  let completed ← okOr branch.control.completed? invalid
  let source ← okOr (graph.position? selected.fromNodeId) invalid
  let destination ← okOr (graph.position? selected.toNodeId) invalid
  parallel.refuseCancelled
  let work := completed.entered.work
  refuseIf (work.nodeId ≠ selected.fromNodeId ∨ work.attempt ≠ selected.attempt ∨
    work.loopIteration ≠ selected.loopIteration ∨ work.step ≠ selected.step) invalid
  let nextStep ← checkedStep parallel.lastAllocatedStep
  refuseIf (selected.nextStep ≠ nextStep ∨
    !graph.edges.any (fun edge => edge.source == source && edge.target == destination) ∨
    (!branch.region.nodeIds.contains selected.toNodeId ∧
      selected.toNodeId ≠ parallel.execution.joinTarget)) invalid
  return { parallel.setBranch selected.branchId
      { branch with control := .awaitingDestinationEntry selected } with
    lastAllocatedStep := selected.nextStep }

/-- The transition with which a terminated branch ends. -/
def terminalTransition (parallel : CanonicalParallelExecutionState) (branch : ParallelBranchReplayRecord)
    (terminated : ParallelBranchTerminatedEvent) : Reducing ParallelBranchTransition :=
  let invalid := SessionReducerError.invalidParallelExecution
  match terminated.disposition, branch.control with
  | .completed, .awaitingDestinationEntry selected => do
    refuseIf (selected.toNodeId ≠ parallel.execution.joinTarget ∨ terminated.code.isSome ∨
      !optionalResultEqual terminated.result branch.lastResult) invalid
    let result ← okOr terminated.result invalid
    (parallel.execution.completionTransition terminated.branchId result).mapError fun _ => invalid
  | .failed, .awaitingFailure failed => do
    let code ← okOr terminated.code invalid
    refuseIf (terminated.result.isSome ∨ code ≠ failed.code) invalid
    return .fail terminated.branchId terminated.dispatchId code
  | _, _ => .error invalid

/-- `apply_parallel_branch_terminated`. -/
def terminateBranch (parallel : CanonicalParallelExecutionState)
    (terminated : ParallelBranchTerminatedEvent) (sequence : Sequence) :
    Reducing CanonicalParallelExecutionState := do
  parallel.refuseCancelled
  let branch ← parallel.branch terminated.branchId
  let transition ← parallel.terminalTransition branch terminated
  let parallel ← parallel.advance transition
  return parallel.setBranch terminated.branchId { branch with
    control := .terminal sequence terminated.disposition
    terminalAt := some sequence }

/-- Notes in a branch that its cancellation was requested. -/
def requestBranchCancellation (sequence : Sequence) (parallel : CanonicalParallelExecutionState)
    (branchId : String) : Reducing CanonicalParallelExecutionState := do
  let branch ← parallel.branch branchId
  return parallel.setBranch branchId { branch with cancellationRequestedAt := some sequence }

/-- `apply_parallel_cancellation_requested`. -/
def requestCancellation (parallel : CanonicalParallelExecutionState)
    (requested : ParallelCancellationRequestedEvent) (sequence : Sequence) :
    Reducing CanonicalParallelExecutionState := do
  parallel.refuseCancelled
  let transitions ← (parallel.execution.cancellationTransitions requested.code).mapError
    fun _ => .invalidParallelExecution
  let expected := transitions.map ParallelBranchTransition.branchId
  refuseIf (requested.branchIds ≠ expected) .invalidParallelExecution
  let parallel := { parallel with
    cancellationCode := some requested.code
    cancellationRequestedAt := some sequence }
  expected.foldlM (requestBranchCancellation sequence) parallel

/-- Cancels a branch, whose later effects are suppressed where it held a dispatch slot. -/
def cancelBranch (suppressed : List String) (sequence : Sequence)
    (parallel : CanonicalParallelExecutionState) (transition : ParallelBranchTransition) :
    Reducing CanonicalParallelExecutionState := do
  let parallel ← parallel.advance transition
  let branch ← parallel.branch transition.branchId
  return parallel.setBranch transition.branchId { branch with
    control := .terminal sequence .cancelled
    terminalAt := some sequence
    suppressionAt := if transition.branchId ∈ suppressed then some sequence else branch.suppressionAt }

/-- `apply_parallel_cancellation_completed`. -/
def completeCancellation (parallel : CanonicalParallelExecutionState)
    (completed : ParallelCancellationCompletedEvent) (sequence : Sequence) :
    Reducing CanonicalParallelExecutionState := do
  let invalid := SessionReducerError.invalidParallelExecution
  refuseIf (parallel.cancellationCode ≠ some completed.code ∨
    parallel.cancellationRequestedAt.isNone ∨ parallel.cancellationCompletedAt.isSome) invalid
  let transitions ← (parallel.execution.cancellationTransitions completed.code).mapError fun _ => invalid
  let cancelled := transitions.map ParallelBranchTransition.branchId
  let suppressed := cancelled.filter fun branchId =>
    parallel.execution.branches[branchId]?.any (·.state.isActive)
  refuseIf (completed.cancelledBranchIds ≠ cancelled ∨
    completed.suppressedEffectBranchIds ≠ suppressed) invalid
  let parallel ← transitions.foldlM (cancelBranch suppressed sequence) parallel
  return { parallel with cancellationCompletedAt := some sequence }

end CanonicalParallelExecutionState

/-- Puts back the parallel execution of a key. -/
def StyleExecutionState.setParallel (execution : StyleExecutionState) (key : String)
    (parallel : CanonicalParallelExecutionState) : StyleExecutionState :=
  { execution with parallelExecutions := execution.parallelExecutions.insert key parallel }

open CanonicalParallelExecutionState in
/-- What an event does to the parallel execution that it names; initialization has none. -/
def applyNamedParallel (execution : StyleExecutionState) (sequence : Sequence) :
    StyleParallelEvent → Reducing (String × CanonicalParallelExecutionState)
  | .initialized _ => .error .invalidParallelExecution
  | .dispatched dispatched => do
    let (key, parallel) ← parallelProjection execution dispatched.owner dispatched.configurationHash
    return (key, ← parallel.dispatchBranch dispatched)
  | .started started => do
    let (key, parallel) ← parallelProjection execution started.owner started.configurationHash
    return (key, ← parallel.startBranch started)
  | .nodeEntered entered => do
    let (key, parallel) ← ownedParallel execution entered.owner
    return (key, ← parallel.enterBranchNode execution entered sequence)
  | .effectDispatched identity inputHashMatches => do
    let (key, parallel) ← ownedParallel execution identity.owner
    return (key, ← parallel.dispatchEffect identity inputHashMatches sequence)
  | .effectOutcomeRecorded recorded => do
    let (key, parallel) ← ownedParallel execution recorded.identity.owner
    return (key, ← parallel.recordEffectOutcome recorded sequence)
  | .nodeCompleted completed «variables» => do
    let (key, parallel) ← ownedParallel execution completed.entered.owner
    return (key, ← parallel.completeBranchNode completed «variables»)
  | .nodeFailed failed => do
    let (key, parallel) ← ownedParallel execution failed.entered.owner
    return (key, ← parallel.failBranchNode failed)
  | .transitionSelected selected => do
    let (key, parallel) ← ownedParallel execution selected.owner
    return (key, ← parallel.selectBranchTransition execution.graph selected)
  | .terminated terminated => do
    let (key, parallel) ← parallelProjection execution terminated.owner terminated.configurationHash
    return (key, ← parallel.terminateBranch terminated sequence)
  | .cancellationRequested requested => do
    let (key, parallel) ← parallelProjection execution requested.owner requested.configurationHash
    return (key, ← parallel.requestCancellation requested sequence)
  | .cancellationCompleted completed => do
    let (key, parallel) ← parallelProjection execution completed.owner completed.configurationHash
    return (key, ← parallel.completeCancellation completed sequence)

/-- What a parallel event does to a style execution. -/
def applyStyleParallel (execution : StyleExecutionState) (sequence : Sequence)
    (event : StyleParallelEvent) : Reducing StyleExecutionState :=
  match event with
  | .initialized initialized => initializeParallelExecution execution initialized sequence
  | event => do
    let (key, parallel) ← applyNamedParallel execution sequence event
    return execution.setParallel key parallel

end Parallel

end AgentMod
