import AgentMod.Parallel.Execution
import AgentMod.Session.Executor
import AgentMod.Session.Reducer
import AgentMod.Variables.Reducer

/-! The events of a style execution: its runs, its root nodes and its parallel branches. -/

namespace AgentMod

/-- Immutable style execution budgets bound at session creation. -/
structure SessionStyleBudgets where
  maxIterations : Nat
  maxSteps : Nat
  maxTokens : Nat
  maxCostMicros : Nat
  maxDurationMs : Nat
  deriving DecidableEq

/-- Canonical immutable identities required to replay one graph execution. -/
structure StyleExecutionContract where
  styleBindingHash : ContentHash
  executionPlanHash : ContentHash
  registryHash : ContentHash
  nodeExecutors : List SessionNodeExecutorResolution
  initialNodeId : String
  initialVariablesJson : String
  invocationOptionsJson : Option String
  initialBudgets : SessionStyleBudgets
  runId : String
  deriving DecidableEq

/-- Initializes canonical execution state from an immutable compiled graph. -/
structure StyleExecutionInitializedEvent where
  graph : ExecutableGraph
  inputReference : Option String
  executionContract : Option StyleExecutionContract

/-- Starts a new turn run against the already-bound immutable graph and plan. -/
structure StyleTurnInitializedEvent where
  inputReference : Option String
  executionContract : StyleExecutionContract

/-- Records entry into one compiled graph node. -/
structure StyleNodeEnteredEvent where
  nodeId : String
  attempt : Nat
  loopIteration : Nat
  step : Nat
  deriving DecidableEq

/-- Records successful completion of one compiled graph node. -/
structure StyleNodeCompletedEvent where
  nodeId : String
  attempt : Nat
  loopIteration : Nat
  step : Nat
  resultReference : Option String
  artifactReference : Option String
  deriving DecidableEq

/-- Records a classified failure of one compiled graph node. -/
structure StyleNodeFailedEvent where
  nodeId : String
  attempt : Nat
  loopIteration : Nat
  step : Nat
  reason : String
  artifactReference : Option String
  terminationReason : Option String
  deriving DecidableEq

/-- Records the compiled transition selected after one node outcome. -/
structure StyleTransitionSelectedEvent where
  fromNodeId : String
  toNodeId : String
  attempt : Nat
  loopIteration : Nat
  step : Nat
  deriving DecidableEq

/-- Records a control-plane termination before a node may legally be entered. -/
structure StyleExecutionTerminatedEvent where
  reason : String
  refusedNodeId : Option String
  refusedStep : Option Nat
  limit : Option Nat
  deriving DecidableEq

/-- The events of the root execution. -/
inductive StyleRootEvent where
  | initialized (initialized : StyleExecutionInitializedEvent)
  | turnInitialized (initialized : StyleTurnInitializedEvent)
  | nodeEntered (entered : StyleNodeEnteredEvent)
  | nodeCompleted (completed : StyleNodeCompletedEvent) (effectEvidenceComplete : Bool)
  | nodeFailed (failed : StyleNodeFailedEvent)
  | transitionSelected (selected : StyleTransitionSelectedEvent)
  | terminated (terminated : StyleExecutionTerminatedEvent)

/-- Immutable compiled region and write snapshot for one parallel member. -/
structure ParallelBranchRegionBinding where
  regionId : String
  member : ParallelMemberBinding
  nodeIds : StringSet
  writeVariables : StringSet
  workspaceResources : StringSet
  variableBaseVersions : StringMap Nat
  workspaceBaseVersions : StringMap Nat

/-- Canonical initialization of one bounded parallel fan-out. -/
structure ParallelExecutionInitializedEvent where
  owner : NodeWorkIdentity
  executor : SessionNodeExecutorResolution
  configurationHash : ContentHash
  regions : List ParallelBranchRegionBinding

/-- Canonical stable branch dispatch. -/
structure ParallelBranchDispatchedEvent where
  owner : NodeWorkIdentity
  configurationHash : ContentHash
  branchId : String
  dispatchId : String

/-- Canonical acknowledgement that one dispatched branch began execution. -/
structure ParallelBranchStartedEvent where
  owner : NodeWorkIdentity
  configurationHash : ContentHash
  branchId : String
  dispatchId : String
  firstStep : Nat

/-- Canonical nested branch-node entry. -/
structure ParallelBranchNodeEnteredEvent where
  owner : NodeWorkIdentity
  branchId : String
  dispatchId : String
  work : NodeWorkIdentity
  executor : SessionNodeExecutorResolution
  configurationHash : ContentHash
  deriving DecidableEq

/-- Immutable identity of one effectful nested branch-node attempt. -/
structure ParallelBranchEffectIdentity where
  owner : NodeWorkIdentity
  branchId : String
  dispatchId : String
  work : NodeWorkIdentity
  executor : SessionNodeExecutorResolution
  configurationHash : ContentHash
  inputHash : ContentHash
  effectKind : String
  deriving DecidableEq

/-- Bounded successful branch-effect output retained for restart completion. -/
structure ParallelBranchEffectOutput where
  resultReference : Option String
  artifactReference : Option String
  artifactReferences : StringSet
  transitionVariables : Json

/-- Canonical adapter outcome recorded after a branch-effect dispatch intent. -/
inductive ParallelBranchEffectOutcome where
  | waiting (continuationReference : String) (receiptHash : ContentHash)
  | completed (output : ParallelBranchEffectOutput) (receiptHash : ContentHash)
  | failed (code : String) (receiptHash : ContentHash)
  | ambiguous (code : String) (receiptHash : ContentHash)

/-- Canonical result of one branch-effect adapter invocation or reconciliation. -/
structure ParallelBranchEffectOutcomeRecordedEvent where
  identity : ParallelBranchEffectIdentity
  outcome : ParallelBranchEffectOutcome

/-- Canonical successful nested node outcome before transition selection. -/
structure ParallelBranchNodeCompletedEvent where
  entered : ParallelBranchNodeEnteredEvent
  result : JoinMemberResult

/-- Canonical classified nested node failure before terminalization. -/
structure ParallelBranchNodeFailedEvent where
  entered : ParallelBranchNodeEnteredEvent
  code : String

/-- Canonical compiled transition inside one parallel branch. -/
structure ParallelBranchTransitionSelectedEvent where
  owner : NodeWorkIdentity
  branchId : String
  fromNodeId : String
  toNodeId : String
  attempt : Nat
  loopIteration : Nat
  step : Nat
  nextStep : Nat

/-- Stable terminal class for one parallel member. -/
inductive ParallelBranchTerminalDisposition where
  | completed
  | failed
  | cancelled
  deriving DecidableEq

/-- Canonical terminal outcome for one parallel member. -/
structure ParallelBranchTerminatedEvent where
  owner : NodeWorkIdentity
  configurationHash : ContentHash
  branchId : String
  dispatchId : String
  disposition : ParallelBranchTerminalDisposition
  result : Option JoinMemberResult
  code : Option String

/-- Canonical request to cancel all incomplete fan-out members. -/
structure ParallelCancellationRequestedEvent where
  owner : NodeWorkIdentity
  configurationHash : ContentHash
  code : String
  branchIds : List String

/-- Canonical cancellation receipt and later-effect suppression evidence. -/
structure ParallelCancellationCompletedEvent where
  owner : NodeWorkIdentity
  configurationHash : ContentHash
  code : String
  cancelledBranchIds : List String
  suppressedEffectBranchIds : List String

/-- The events of parallel executions. -/
inductive StyleParallelEvent where
  | initialized (initialized : ParallelExecutionInitializedEvent)
  | dispatched (dispatched : ParallelBranchDispatchedEvent)
  | started (started : ParallelBranchStartedEvent)
  | nodeEntered (entered : ParallelBranchNodeEnteredEvent)
  | effectDispatched (identity : ParallelBranchEffectIdentity) (inputHashMatches : Bool)
  | effectOutcomeRecorded (recorded : ParallelBranchEffectOutcomeRecordedEvent)
  | nodeCompleted (completed : ParallelBranchNodeCompletedEvent) («variables» : Option Json)
  | nodeFailed (failed : ParallelBranchNodeFailedEvent)
  | transitionSelected (selected : ParallelBranchTransitionSelectedEvent)
  | terminated (terminated : ParallelBranchTerminatedEvent)
  | cancellationRequested (requested : ParallelCancellationRequestedEvent)
  | cancellationCompleted (completed : ParallelCancellationCompletedEvent)

/-- The events of a style execution. -/
inductive StyleEvent where
  | root (event : StyleRootEvent)
  | parallel (event : StyleParallelEvent)
  | other («variables» : Option CanonicalVariableEventReducer)

end AgentMod
