import AgentMod.Session.StyleEvent

/-! What a session keeps of a style execution: root control, histories and parallel executions. -/

namespace AgentMod

/-- Expected identity and counters for the next node-entry event. -/
structure StyleExecutionCursor where
  nodeId : String
  attempt : Nat
  loopIteration : Nat
  step : Nat
  deriving DecidableEq

/-- Exact replay-derived control position for a compiled style graph. -/
inductive StyleExecutionControlState where
  | readyForEntry (cursor : StyleExecutionCursor)
  | active (entered : StyleNodeEnteredEvent)
  | awaitingTransition (completed : StyleNodeCompletedEvent)
  | awaitingDestinationEntry (selected : StyleTransitionSelectedEvent)
  | terminal (reason : String)
  deriving DecidableEq

/-- Replay-retained terminal record for a prior completed turn run. -/
structure CompletedStyleTurnRun where
  executionContract : StyleExecutionContract
  resultReference : Option String
  archivedAt : Sequence
  deriving DecidableEq

/-- Boundary that a completed loop iteration leaves. -/
structure SuccessfulIterationCompletionBoundary where
  loopNodeId : String
  destinationNodeId : String
  attempt : Nat
  loopIteration : Nat
  step : Nat
  sequence : Sequence
  eventChecksum : ContentHash
  deriving DecidableEq

/-- Expected identity for the next nested branch-node entry. -/
structure ParallelBranchNodeCursor where
  nodeId : String
  attempt : Nat
  loopIteration : Nat
  step : Nat
  deriving DecidableEq

/-- Replay-owned control position for one nested parallel branch. -/
inductive ParallelBranchControlState where
  | queued
  | dispatched
  | readyForEntry (cursor : ParallelBranchNodeCursor)
  | active (entered : ParallelBranchNodeEnteredEvent)
  | awaitingTransition (completed : ParallelBranchNodeCompletedEvent)
  | awaitingDestinationEntry (selected : ParallelBranchTransitionSelectedEvent)
  | awaitingFailure (failed : ParallelBranchNodeFailedEvent)
  | terminal (terminalSequence : Sequence) (disposition : ParallelBranchTerminalDisposition)

/-- Replay-owned branch-effect outbox state. -/
structure ParallelBranchEffectRecord where
  identity : ParallelBranchEffectIdentity
  outcome : Option ParallelBranchEffectOutcome
  dispatchedAt : Sequence
  outcomeAt : Option Sequence

/-- Replay-owned nested member record layered over the pure parallel engine. -/
structure ParallelBranchReplayRecord where
  region : ParallelBranchRegionBinding
  control : ParallelBranchControlState
  enteredAt : Option Sequence
  effect : Option ParallelBranchEffectRecord
  lastResult : Option JoinMemberResult
  terminalAt : Option Sequence
  cancellationRequestedAt : Option Sequence
  suppressionAt : Option Sequence

/-- Canonical replay projection for one generic parallel fan-out. -/
structure CanonicalParallelExecutionState where
  owner : NodeWorkIdentity
  executor : SessionNodeExecutorResolution
  configurationHash : ContentHash
  execution : ParallelExecutionState
  branches : StringMap ParallelBranchReplayRecord
  initializedAt : Sequence
  lastAllocatedStep : Nat
  cancellationCode : Option String
  cancellationRequestedAt : Option Sequence
  cancellationCompletedAt : Option Sequence

/-- Canonical style execution projection reconstructed without running nodes. -/
structure StyleExecutionState where
  graph : ExecutableGraph
  inputReference : Option String
  executionContract : Option StyleExecutionContract
  completedTurnRuns : List CompletedStyleTurnRun
  canonicalVariables : Option CanonicalVariableEventReducer
  control : StyleExecutionControlState
  activeNode : Option StyleNodeEnteredEvent
  activeNodeEnteredAt : Option Sequence
  completedNodes : List StyleNodeCompletedEvent
  failedNodes : List StyleNodeFailedEvent
  transitions : List StyleTransitionSelectedEvent
  terminationReason : Option String
  parallelExecutions : StringMap CanonicalParallelExecutionState

/-- The style execution of a session, and the loop iterations that it completed. -/
structure SessionStyleExecution where
  styleExecution : Option StyleExecutionState
  successfulIterationCompletions : List SuccessfulIterationCompletionBoundary

namespace ExecutableGraph

/-- The node with an identity. -/
def node? (graph : ExecutableGraph) (nodeId : String) : Option ExecutableNode :=
  graph.nodes.find? (·.id == nodeId)

/-- `valid_compiled_graph`. -/
def validCompiled (graph : ExecutableGraph) : Bool :=
  graph.formatVersion == graphFormatVersion && decide (graph.entryIndex < graph.nodes.length) &&
    graph.nodes.zipIdx.all (fun node => node.1.index == node.2) &&
    decide (graph.nodes.map (·.id)).Nodup &&
    graph.edges.all fun edge =>
      decide (edge.source < graph.nodes.length) && decide (edge.target < graph.nodes.length)

/-- `graph_has_node`. -/
def hasNode (graph : ExecutableGraph) (nodeId : String) : Bool :=
  graph.nodes.any (·.id == nodeId)

/-- `graph_node_kind`. -/
def nodeKind (graph : ExecutableGraph) (nodeId : String) : Option NodeKind :=
  (graph.node? nodeId).map (·.kind)

/-- `graph_has_transition`. -/
def hasTransition (graph : ExecutableGraph) (fromNodeId toNodeId : String) : Bool :=
  graph.edges.any fun edge =>
    graph.nodes[edge.source]?.any (·.id == fromNodeId) && graph.nodes[edge.target]?.any (·.id == toNodeId)

/-- `graph_parallel_join_transition`. -/
def parallelJoinTransition (graph : ExecutableGraph) (fromNodeId toNodeId : String) : Bool :=
  match (graph.node? fromNodeId).bind (·.configuration) with
  | some (.parallelBranch parallel) => parallel.joinTarget == toNodeId
  | _ => false

/-- The identity of the entry node. -/
def entryNodeId (graph : ExecutableGraph) : String :=
  (graph.nodes[graph.entryIndex]?.map (·.id)).getD ""

/-- The position of the first node with an identity. -/
def position? (graph : ExecutableGraph) (nodeId : String) : Option Nat :=
  graph.nodes.findIdx? (·.id == nodeId)

/-- The destinations of a node that a region continues with. -/
def regionTargets (graph : ExecutableGraph) (nodeId : String) : Fallible SessionReducerError (List String) :=
  match graph.position? nodeId with
  | none => reject .invalidParallelExecution
  | some index =>
    (graph.edges.filter (·.source == index)).mapM fun edge =>
      match graph.nodes[edge.target]? with
      | some destination => .ok destination.id
      | none => reject .invalidParallelExecution

end ExecutableGraph

end AgentMod
