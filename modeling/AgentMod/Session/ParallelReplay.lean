import AgentMod.Library.Run
import AgentMod.Session.StyleSample
import AgentMod.Session.StyleWalk

/-! What the replay of parallel events says about the branches of a parallel execution, and ends of style executions. -/

namespace AgentMod

/-- How far a branch has come. -/
inductive ParallelBranchPhase where
  | queued
  | dispatched
  | running
  | ended (disposition : ParallelBranchTerminalDisposition)
  deriving DecidableEq

/-- The branch holds a dispatch slot. -/
def ParallelBranchPhase.holdsSlot : ParallelBranchPhase → Bool
  | .dispatched | .running => true
  | _ => false

/-- The branch has ended. -/
def ParallelBranchPhase.hasEnded : ParallelBranchPhase → Bool
  | .ended _ => true
  | _ => false

/-- How far the control of a branch has come; every control between start and end is running. -/
def ParallelBranchControlState.phase : ParallelBranchControlState → ParallelBranchPhase
  | .queued => .queued
  | .dispatched => .dispatched
  | .readyForEntry _ | .active _ | .awaitingTransition _ | .awaitingDestinationEntry _ | .awaitingFailure _ =>
    .running
  | .terminal _ disposition => .ended disposition

/-- How far a branch of the embedded execution has come. -/
def ParallelBranchState.phase : ParallelBranchState → ParallelBranchPhase
  | .queued => .queued
  | .dispatched => .dispatched
  | .running => .running
  | .completed .. => .ended .completed
  | .failed _ => .ended .failed
  | .cancelled _ => .ended .cancelled

namespace StyleParallelEvent

/-- The branch that the event is about, where it is about one branch. -/
def branchId? : StyleParallelEvent → Option String
  | .initialized _ | .cancellationRequested _ | .cancellationCompleted _ => none
  | .dispatched event => some event.branchId
  | .started event => some event.branchId
  | .nodeEntered event => some event.branchId
  | .effectDispatched identity _ => some identity.branchId
  | .effectOutcomeRecorded event => some event.identity.branchId
  | .nodeCompleted event _ => some event.entered.branchId
  | .nodeFailed event => some event.entered.branchId
  | .transitionSelected event => some event.branchId
  | .terminated event => some event.branchId

/-- The event dispatches, starts, moves or ends a branch, or enters or leaves a node or an effect of it. -/
def progresses : StyleParallelEvent → Bool
  | .initialized _ | .effectOutcomeRecorded _ | .cancellationRequested _ | .cancellationCompleted _ => false
  | _ => true

/-- The entry of a node into a branch. -/
def entered? (branchId : String) : StyleParallelEvent → Option ParallelBranchNodeEnteredEvent
  | .nodeEntered event => if event.branchId = branchId then some event else none
  | _ => none

/-- The step that the event allocates to a node of a branch. -/
def allocatedStep? : StyleParallelEvent → Option Nat
  | .started event => some event.firstStep
  | .transitionSelected event => some event.nextStep
  | _ => none

/-- The event requests a cancellation. -/
def requestsCancellation : StyleParallelEvent → Bool
  | .cancellationRequested _ => true
  | _ => false

/-- The event completes a cancellation. -/
def completesCancellation : StyleParallelEvent → Bool
  | .cancellationCompleted _ => true
  | _ => false

variable [StyleSerde] [Hashing]

/-- The event is about the parallel execution under a key. -/
def addresses (key : String) (event : StyleParallelEvent) : Bool :=
  returns (nodeWorkKey event.owner) (· == key)

end StyleParallelEvent

section Events

variable [StyleSerde] [Hashing]

/-- The parallel event of a session event, where it is one about the parallel execution under a key. -/
def StyleSessionEvent.fanOut? (key : String) (event : StyleSessionEvent) : Option StyleParallelEvent :=
  (StyleSessionEvent.parallel? event).filter (·.addresses key)

/-- The events about the parallel execution under a key, in their order. -/
def fanOutEvents (key : String) (events : List StyleSessionEvent) : List StyleParallelEvent :=
  events.filterMap (StyleSessionEvent.fanOut? key)

end Events

/-- The nodes that are entered into a branch, in their order. -/
def enteredNodes (branchId : String) (events : List StyleParallelEvent) : List String :=
  events.filterMap fun event => (event.entered? branchId).map (·.work.nodeId)

/-- Nodes walk through the region of a branch, from its target along the edges of the graph. -/
structure BranchWalk (graph : ExecutableGraph) (region : ParallelBranchRegionBinding) (nodes : List String) :
    Prop where
  inside : ∀ nodeId ∈ nodes, region.nodeIds.contains nodeId
  starts : ∀ nodeId, nodes.head? = some nodeId → nodeId = region.member.targetNodeId
  edges : nodes.IsChain graph.IsEdge

/-- No cancellation was requested before an event that moves a branch. -/
def BeforeCancellation (earlier : List StyleParallelEvent) (event : StyleParallelEvent) : Prop :=
  event.progresses → earlier.all (!·.requestsCancellation)

namespace CanonicalParallelExecutionState

/-- How far a branch has come. -/
def phase? (parallel : CanonicalParallelExecutionState) (branchId : String) : Option ParallelBranchPhase :=
  parallel.branches[branchId]?.map (·.control.phase)

/-- The branches and those of the embedded execution are the same, and have come equally far. -/
def Corresponds (parallel : CanonicalParallelExecutionState) : Prop :=
  ∀ branchId : String,
    parallel.phase? branchId = parallel.execution.branches[branchId]?.map (·.state.phase)

/-- Whatever had ended is as it was, in the record and in the embedded execution. -/
def KeepsEnded (parallel later : CanonicalParallelExecutionState) : Prop :=
  ∀ (branchId : String) branch, parallel.branches[branchId]? = some branch → branch.control.phase.hasEnded →
    later.branches[branchId]? = some branch ∧
      later.execution.branches[branchId]? = parallel.execution.branches[branchId]?

/-- All branches of a cancelled execution have ended, and the later effects of exactly those are suppressed
that held a dispatch slot before. -/
def Stops (parallel later : CanonicalParallelExecutionState) : Prop :=
  ∀ branchId : String,
    later.branches[branchId]?.map (fun branch => (branch.control.phase.hasEnded, branch.suppressionAt.isSome)) =
      (parallel.phase? branchId).map fun phase => (true, phase.holdsSlot)

end CanonicalParallelExecutionState

/-- The parallel execution of a session under a key. -/
def Session.parallel? (state : Session SessionStyleExecution) (key : String) :
    Option CanonicalParallelExecutionState :=
  state.part.styleExecution.bind (·.parallelExecutions[key]?)

section Replayed

variable [StyleSerde] [ParallelSerde] [VariableSerde] [Hashing] [EventChecksum (SessionPayload StyleEvent)]

/-- What the events that led to a parallel execution say about it. -/
structure ParallelReplayed (events : List StyleSessionEvent) (graph : ExecutableGraph) (key : String)
    (parallel : CanonicalParallelExecutionState) : Prop where
  /-- Each branch has come as far as the same branch of the embedded execution. -/
  corresponds : parallel.Corresponds
  /-- Entries are into known branches, whose regions they walk through. -/
  walks : ∀ branchId : String, enteredNodes branchId (fanOutEvents key events) = [] ∨
    ∃ branch, parallel.branches[branchId]? = some branch ∧
      BranchWalk graph branch.region (enteredNodes branchId (fanOutEvents key events))
  /-- No branch moves once cancellation was requested. -/
  silent : EachFollows BeforeCancellation (fanOutEvents key events)
  /-- A completed cancellation has ended every branch, and suppressed what was dispatched or running. -/
  stopped : ∀ earlier event later, events = earlier ++ event :: later →
    (StyleSessionEvent.fanOut? key event).any (·.completesCancellation) →
      ∃ (state : Session SessionStyleExecution) (before : CanonicalParallelExecutionState),
        replay earlier = .ok state ∧ state.parallel? key = some before ∧ before.Stops parallel
  /-- A branch that has ended at any time never changes again. -/
  kept : ∀ earlier later (state : Session SessionStyleExecution) (before : CanonicalParallelExecutionState),
    events = earlier ++ later → replay earlier = .ok state → state.parallel? key = some before →
      before.KeepsEnded parallel

end Replayed

section Sample

attribute [local instance] plainSerde prefixHash fanStyle

/-- The work of an entry of the sample's parallel node. -/
def fanOwner (step : Nat) : NodeWorkIdentity := ⟨"style-run:session", "fan", [], 1, 0, step⟩

/-- The key of the parallel execution of such an entry. -/
def fanKey (step : Nat) : String := (nodeWorkKey (fanOwner step)).toOption.getD ""

/-- The executor selection of the sample's parallel node. -/
def fanResolution : SessionNodeExecutorResolution := sampleResolution (sampleNode 0 "fan" .parallelBranch none)

/-- The region of a branch of the sample, which has one node. -/
def fanRegion (branchIndex : Nat) (target : String) : ParallelBranchRegionBinding where
  regionId := "parallel-region:" ++ (Hashing.digest (utf8Bytes (sampleBranchId target).toList)).toHex
  member := ⟨target, target, branchIndex, sampleBranchId target⟩
  nodeIds := .ofList [target]
  writeVariables := ∅
  workspaceResources := ∅
  variableBaseVersions := ∅
  workspaceBaseVersions := ∅

/-- The hash of every configuration of the sample. -/
def sampleConfigurationHash : ContentHash := Hashing.digest []

/-- The start of a fan-out into the two branches of the sample. -/
def fanInitialization (sequence : Sequence) (step : Nat) : StyleSessionEvent :=
  styleEvent sequence (.parallel (.initialized
    ⟨fanOwner step, fanResolution, sampleConfigurationHash, [fanRegion 0 "left", fanRegion 1 "right"]⟩))

/-- The dispatch of a branch of the sample. -/
def fanDispatch (sequence : Sequence) (step : Nat) (target : String) : StyleSessionEvent :=
  styleEvent sequence (.parallel (.dispatched ⟨fanOwner step, sampleConfigurationHash, sampleBranchId target,
    sampleDispatchId (sampleBranchId target)⟩))

/-- The start of a branch of the sample. -/
def fanStart (sequence : Sequence) (step : Nat) (target : String) (firstStep : Nat) : StyleSessionEvent :=
  styleEvent sequence (.parallel (.started ⟨fanOwner step, sampleConfigurationHash, sampleBranchId target,
    sampleDispatchId (sampleBranchId target), firstStep⟩))

/-- A session that has begun to fan out. -/
def begunFanOut : List StyleSessionEvent :=
  [sessionCreation, styleInitialization fanGraph, styleEntry 3 "fan" 1, fanInitialization 4 1]

/-- A session that has fanned out and started a branch, and leaves for the join. -/
def joinedFanOut : List StyleSessionEvent :=
  begunFanOut ++ [fanDispatch 5 1 "left", fanStart 6 1 "left" 2,
    styleCompletion 7 "fan" 1 (some ("parallel:" ++
      (Hashing.digest ((StyleSerde.workToVec (fanOwner 1)).getD [])).toHex)),
    styleEvent 8 (.root (.transitionSelected ⟨"fan", "join", 1, 0, 1⟩))]

/-- The failure of the sample's parallel node, which ends the execution. -/
def fanFailure (sequence : Sequence) (step : Nat) (terminationReason : Option String) : StyleSessionEvent :=
  styleEvent sequence (.root (.nodeFailed ⟨"fan", 1, 0, step, "stopped", none, terminationReason⟩))

/-- The same session, which ends and dispatches a branch nevertheless. -/
def outlivedFanOut : List StyleSessionEvent :=
  begunFanOut ++ [fanFailure 5 1 (some "stopped"), fanDispatch 6 1 "left"]

end Sample

/-- The event dispatches or starts a branch, or enters a node of it. -/
def StyleParallelEvent.advances : StyleParallelEvent → Bool
  | .dispatched _ | .started _ | .nodeEntered _ => true
  | _ => false

/-- The parallel events of a session, in their order. -/
def parallelEvents (events : List StyleSessionEvent) : List StyleParallelEvent :=
  events.filterMap StyleSessionEvent.parallel?

/-- A branch is left behind: it has ended, or it is cancelled and in no node that fans out. -/
def ParallelBranchControlState.LeftBehind (graph : ExecutableGraph) (cancelled : Bool)
    (control : ParallelBranchControlState) : Prop :=
  control.phase.hasEnded ∨
    cancelled ∧ ∀ entered, control = .active entered → graph.nodeKind entered.work.nodeId ≠ some .parallelBranch

/-- Every branch of every parallel execution is left behind. -/
def StyleExecutionState.LeavesBranches (execution : StyleExecutionState) : Prop :=
  ∀ (key : String) parallel, execution.parallelExecutions[key]? = some parallel →
    ∀ (branchId : String) branch, parallel.branches[branchId]? = some branch →
      branch.control.LeftBehind execution.graph parallel.cancellationRequestedAt.isSome

section Ends

variable [StyleSerde] [ParallelSerde] [VariableSerde] [Hashing] [EventChecksum (SessionPayload StyleEvent)]

/-- Wherever the style execution ends, every branch is left behind. -/
def EndsWithoutBranches (events : List StyleSessionEvent) : Prop :=
  ∀ earlier event later (before after : Session SessionStyleExecution), events = earlier ++ event :: later →
    replay earlier = .ok before → replay (earlier ++ [event]) = .ok after → ¬ before.StyleEnded →
      after.StyleEnded → ∀ execution, after.part.styleExecution = some execution → execution.LeavesBranches

/-- Once the style execution has ended, no branch is dispatched or started, and none enters a node. -/
def QuiescentAtEnd (events : List StyleSessionEvent) : Prop :=
  ∀ earlier later (middle : Session SessionStyleExecution), events = earlier ++ later →
    replay earlier = .ok middle → middle.StyleEnded → ∀ event ∈ parallelEvents later, event.advances = false

end Ends

end AgentMod
