import AgentMod.Session.StyleParallel

/-! Sessions with a style execution. -/

namespace AgentMod

namespace StyleRootEvent

/-- The stable name of a root event. -/
def eventType : StyleRootEvent → String
  | initialized _ => "style.execution_initialized"
  | turnInitialized _ => "style.turn_initialized"
  | nodeEntered _ => "style.node_entered"
  | nodeCompleted .. => "style.node_completed"
  | nodeFailed _ => "style.node_failed"
  | transitionSelected _ => "style.transition_selected"
  | terminated _ => "style.execution_terminated"

/-- The event is an outcome of a node. -/
def isOutcome : StyleRootEvent → Bool
  | nodeCompleted .. | nodeFailed _ => true
  | _ => false

/-- The event enters a node. -/
def isEntry : StyleRootEvent → Bool
  | nodeEntered _ => true
  | _ => false

end StyleRootEvent

namespace StyleParallelEvent

/-- The stable name of a parallel event. -/
def eventType : StyleParallelEvent → String
  | initialized _ => "graph.parallel_initialized"
  | dispatched _ => "graph.parallel_branch_dispatched"
  | started _ => "graph.parallel_branch_started"
  | nodeEntered _ => "graph.parallel_branch_node_entered"
  | effectDispatched .. => "graph.parallel_branch_effect_dispatched"
  | effectOutcomeRecorded _ => "graph.parallel_branch_effect_outcome_recorded"
  | nodeCompleted .. => "graph.parallel_branch_node_completed"
  | nodeFailed _ => "graph.parallel_branch_node_failed"
  | transitionSelected _ => "graph.parallel_branch_transition_selected"
  | terminated _ => "graph.parallel_branch_terminated"
  | cancellationRequested _ => "graph.parallel_cancellation_requested"
  | cancellationCompleted _ => "graph.parallel_cancellation_completed"

/-- The work whose fan-out the event is about. -/
def owner : StyleParallelEvent → NodeWorkIdentity
  | .initialized event => event.owner
  | .dispatched event => event.owner
  | .started event => event.owner
  | .nodeEntered event => event.owner
  | .effectDispatched identity _ => identity.owner
  | .effectOutcomeRecorded event => event.identity.owner
  | .nodeCompleted event _ => event.entered.owner
  | .nodeFailed event => event.entered.owner
  | .transitionSelected event => event.owner
  | .terminated event => event.owner
  | .cancellationRequested event => event.owner
  | .cancellationCompleted event => event.owner

end StyleParallelEvent

/-- The stable name of an event. -/
def StyleEvent.eventType : StyleEvent → String
  | root event => event.eventType
  | parallel event => event.eventType
  | other _ => "other"

section Style

variable [StyleSerde] [ParallelSerde] [VariableSerde] [Hashing]

/-- What an event does to the style execution of a session. -/
def SessionStyleExecution.applyEvent {σ : Type} (state : Session σ) (part : SessionStyleExecution)
    (metadata : EventMetadata) (eventChecksum : ContentHash) : StyleEvent → Reducing SessionStyleExecution
  | .root event => applyStyleRoot state part metadata eventChecksum event
  | .parallel event => do
    let execution ← okOr part.styleExecution .styleExecutionNotInitialized
    let execution ← applyStyleParallel execution metadata.sequence event
    return { part with styleExecution := some execution }
  | .other canonicalVariables => return { part with
      styleExecution := part.styleExecution.map fun execution => { execution with canonicalVariables } }

instance : SessionPart SessionStyleExecution StyleEvent where
  eventType := StyleEvent.eventType
  initial := ⟨none, []⟩
  apply state metadata eventChecksum event := state.part.applyEvent state metadata eventChecksum event

end Style

/-- An event of a session with a style execution. -/
abbrev StyleSessionEvent := EventEnvelope (SessionPayload StyleEvent)

/-- The style event of a session event, where it is one. -/
def StyleSessionEvent.style? (event : StyleSessionEvent) : Option StyleEvent :=
  match event.payload with
  | .part payload => some payload
  | _ => none

/-- The root event of a session event, where it is one. -/
def StyleSessionEvent.root? (event : StyleSessionEvent) : Option StyleRootEvent :=
  match StyleSessionEvent.style? event with
  | some (.root event) => some event
  | _ => none

/-- The parallel event of a session event, where it is one. -/
def StyleSessionEvent.parallel? (event : StyleSessionEvent) : Option StyleParallelEvent :=
  match StyleSessionEvent.style? event with
  | some (.parallel event) => some event
  | _ => none

/-- The root events of a session, in their order. -/
def rootEvents (events : List StyleSessionEvent) : List StyleRootEvent :=
  events.filterMap StyleSessionEvent.root?

end AgentMod
