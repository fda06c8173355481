import AgentMod.Session.Reducer
import AgentMod.Session.Style

/-! Walks of the compiled graph that a style execution takes, and the turns that it archives. -/

namespace AgentMod

/-- An edge of the graph leads from a node to another one. -/
def ExecutableGraph.IsEdge (graph : ExecutableGraph) (fromNodeId toNodeId : String) : Prop :=
  ∃ edge ∈ graph.edges, ∃ source target, graph.nodes[edge.source]? = some source ∧
    graph.nodes[edge.target]? = some target ∧ source.id = fromNodeId ∧ target.id = toNodeId

/-- A node is configured as a parallel branch with a join. -/
def ExecutableGraph.IsConfiguredJoin (graph : ExecutableGraph) (fromNodeId toNodeId : String) : Prop :=
  ∃ node parallel, graph.node? fromNodeId = some node ∧
    node.configuration = some (.parallelBranch parallel) ∧ parallel.joinTarget = toNodeId

/-- A loop node is left for another node than one that completes the session. -/
def ExecutableGraph.LeavesLoop (graph : ExecutableGraph) (selected : StyleTransitionSelectedEvent) : Prop :=
  graph.nodeKind selected.fromNodeId = some .loop ∧
    graph.nodeKind selected.toNodeId ≠ some .completeSession

/-- The event starts a run, completes a turn or is a failure that ends nothing. -/
def ExecutableGraph.Restarts (graph : ExecutableGraph) : StyleRootEvent → Prop
  | .initialized _ | .turnInitialized _ => True
  | .nodeCompleted completed _ => graph.nodeKind completed.nodeId = some .completeTurn
  | .nodeFailed failed => failed.terminationReason = none
  | _ => False

/-- What an entry is behind the root event that came before it. -/
inductive EntryFollows (graph : ExecutableGraph) (entered : StyleNodeEnteredEvent) : StyleRootEvent → Prop where
  /-- A restart enters the graph's entry node, outside of any loop. -/
  | restart {previous : StyleRootEvent} (restarts : graph.Restarts previous)
      (entry : entered.nodeId = graph.entryNodeId) (outside : entered.loopIteration = 0) :
      EntryFollows graph entered previous
  /-- The destination of a transition is entered in the next iteration, or in the same one. -/
  | destination {selected : StyleTransitionSelectedEvent} (target : entered.nodeId = selected.toNodeId)
      (leaves : graph.LeavesLoop selected → entered.loopIteration = selected.loopIteration + 1)
      (stays : ¬ graph.LeavesLoop selected → entered.loopIteration = selected.loopIteration) :
      EntryFollows graph entered (.transitionSelected selected)

/-- What a transition is behind the root event that came before it. -/
inductive TransitionFollows (graph : ExecutableGraph) (selected : StyleTransitionSelectedEvent) :
    StyleRootEvent → Prop where
  | completion {completed : StyleNodeCompletedEvent} {evidence : Bool}
      (source : completed.nodeId = selected.fromNodeId)
      (sameIteration : completed.loopIteration = selected.loopIteration)
      (sameStep : completed.step = selected.step)
      (exists_ : graph.IsEdge selected.fromNodeId selected.toNodeId ∨
        graph.IsConfiguredJoin selected.fromNodeId selected.toNodeId) :
      TransitionFollows graph selected (.nodeCompleted completed evidence)

/-- An outcome is that of an entry. -/
def StyleRootEvent.IsOutcomeOf (entered : StyleNodeEnteredEvent) : StyleRootEvent → Prop
  | .nodeCompleted completed _ => completed.nodeId = entered.nodeId ∧ completed.attempt = entered.attempt ∧
      completed.loopIteration = entered.loopIteration ∧ completed.step = entered.step
  | .nodeFailed failed => failed.nodeId = entered.nodeId ∧ failed.attempt = entered.attempt ∧
      failed.loopIteration = entered.loopIteration ∧ failed.step = entered.step
  | _ => False

/-- What a root event is behind the root events that came before it. -/
def RootFollows (graph : ExecutableGraph) (earlier : List StyleRootEvent) : StyleRootEvent → Prop
  | .nodeEntered entered => ∃ previous, earlier.getLast? = some previous ∧ EntryFollows graph entered previous
  | .transitionSelected selected =>
    ∃ previous, earlier.getLast? = some previous ∧ TransitionFollows graph selected previous
  | .nodeCompleted completed evidence => ∃ entered, earlier.getLast? = some (.nodeEntered entered) ∧
      StyleRootEvent.IsOutcomeOf entered (.nodeCompleted completed evidence)
  | .nodeFailed failed => ∃ entered, earlier.getLast? = some (.nodeEntered entered) ∧
      StyleRootEvent.IsOutcomeOf entered (.nodeFailed failed)
  | _ => True

/-- The root events walk through the graph of an execution. -/
structure GraphWalk (roots : List StyleRootEvent) (execution : StyleExecutionState) : Prop where
  /-- A node is active exactly when the control is, and it is the same entry. -/
  active : ∀ entered, execution.activeNode = some entered ↔ execution.control = .active entered
  /-- Every entry, transition and outcome follows from the root event right before it. -/
  follows : ∀ earlier event later, roots = earlier ++ event :: later →
    RootFollows execution.graph earlier event
  /-- Until the next entry, an entry has at most one completion or failure. -/
  once : ∀ earlier entered middle later, roots = earlier ++ .nodeEntered entered :: (middle ++ later) →
    middle.countP StyleRootEvent.isEntry = 0 → middle.countP StyleRootEvent.isOutcome ≤ 1

/-- The style execution of a session has ended. -/
def Session.StyleEnded (state : Session SessionStyleExecution) : Prop :=
  ∃ execution reason, state.part.styleExecution = some execution ∧ execution.control = .terminal reason

/-- A run of a style execution: its contract, and its root events behind the one that starts it. -/
structure StyleRun where
  contract : Option StyleExecutionContract
  events : List StyleRootEvent

/-- Adds a root event to the runs so far. -/
def StyleRun.extend (runs : List StyleRun) : StyleRootEvent → List StyleRun
  | .initialized initialized => runs ++ [⟨initialized.executionContract, []⟩]
  | .turnInitialized initialized => runs ++ [⟨some initialized.executionContract, []⟩]
  | event => runs.modifyLast fun run => { run with events := run.events ++ [event] }

/-- The runs into which initializations divide root events. -/
def styleRuns (roots : List StyleRootEvent) : List StyleRun := roots.foldl StyleRun.extend []

/-- A run ends with the completion of the turn whose result is archived under the run's contract. -/
def CompletedStyleTurnRun.Attributed (graph : ExecutableGraph) (archived : CompletedStyleTurnRun)
    (run : StyleRun) : Prop :=
  run.contract = some archived.executionContract ∧ ∃ before entered completed evidence,
    run.events = before ++ [.nodeEntered entered, .nodeCompleted completed evidence] ∧
      StyleRootEvent.IsOutcomeOf entered (.nodeCompleted completed evidence) ∧
      graph.nodeKind completed.nodeId = some .completeTurn ∧
      completed.resultReference = archived.resultReference

/-- A turn starts right behind a completion: not behind a failure, nor before the run has entered a node. -/
def TurnFollowsCompletion (earlier : List StyleRootEvent) : StyleRootEvent → Prop
  | .turnInitialized _ => ∃ completed evidence, earlier.getLast? = some (.nodeCompleted completed evidence)
  | _ => True

namespace StyleExecutionState

/-- A termination is accepted that names the entry of a node at a step as the refused one. -/
def RefusesEntry (execution : StyleExecutionState) (nodeId : String) (step : Nat) : Prop :=
  ∃ terminated next, terminated.refusedNodeId = some nodeId ∧ terminated.refusedStep = some step ∧
    execution.terminate terminated = .ok next

/-- An entry of a node at a step is accepted. -/
def AdmitsEntry (execution : StyleExecutionState) (nodeId : String) (step : Nat) : Prop :=
  ∃ entered sequence next, entered.nodeId = nodeId ∧ entered.step = step ∧
    execution.enterNode entered sequence = .ok next

/-- The counters of the entry behind a transition can be allocated, its step from the given one on. -/
def EntersBehind (execution : StyleExecutionState) (selected : StyleTransitionSelectedEvent) (base : Nat) : Prop :=
  (∃ loopIteration, transitionLoopIteration execution.graph selected = .ok loopIteration) ∧
    execution.transitionBaseStep selected = .ok base ∧ base < maxU64

/-- The node to enter has an identity, and the step of its entry is counted from the transition's own step. -/
def CountsAlike (execution : StyleExecutionState) : Prop :=
  match execution.control with
  | .readyForEntry cursor => cursor.nodeId ≠ ""
  | .awaitingDestinationEntry selected => ∀ base, execution.EntersBehind selected base ↔
      base = selected.step ∧ base < maxU64 ∧ selected.toNodeId ≠ ""
  | _ => True

end StyleExecutionState

/-- The control waits for an entry. -/
def StyleExecutionControlState.awaitsEntry : StyleExecutionControlState → Bool
  | .readyForEntry _ | .awaitingDestinationEntry _ => true
  | _ => false

end AgentMod
