import AgentMod.Library.Run

/-! The observer dispatcher, a bounded queue between dispatching tasks and one worker, and what it is for. -/

namespace AgentMod

/-- Behavior when an observer queue reaches its configured capacity. -/
inductive BackpressurePolicy where
  | block
  | dropNewest
  | dropOldest
  deriving DecidableEq, Repr

/-- Result of one dispatch attempt. -/
inductive DispatchOutcome where
  | enqueued
  | droppedNewest
  | droppedOldest
  | closed
  deriving DecidableEq, Repr

/-- Invalid observer dispatcher configuration. -/
structure ObserverConfigError where
  deriving DecidableEq, Repr

/-- Observer queue and delivery counters. -/
structure ObserverStats where
  enqueued : UInt64 := 0
  droppedNewest : UInt64 := 0
  droppedOldest : UInt64 := 0
  delivered : UInt64 := 0
  failed : UInt64 := 0
  deriving DecidableEq, Repr

/-- The queue that dispatching tasks and the worker share under its lock. -/
structure SharedQueue (E : Type) where
  events : List E
  closed : Bool
  capacity : Nat
  policy : BackpressurePolicy
  stats : ObserverStats
  deriving DecidableEq, Repr

/-- What the worker of a dispatcher does. -/
inductive Worker (E : Type) where
  | receiving
  | observing (event : E)
  | finished
  deriving DecidableEq, Repr

/-- How far the shutdown of a dispatcher has come. -/
inductive Shutdown where
  | running
  | draining
  | completed
  deriving DecidableEq, Repr

/-- Bounded single-observer asynchronous dispatcher. -/
structure ObserverDispatcher (E : Type) where
  shared : SharedQueue E
  worker : Worker E
  shutdown : Shutdown
  deriving DecidableEq, Repr

section Dispatcher

variable {E : Type}

/-- Starts a dispatcher and its bounded worker. -/
def ObserverDispatcher.new (capacity : Nat) (policy : BackpressurePolicy) :
    Except ObserverConfigError (ObserverDispatcher E) :=
  if capacity = 0 then .error ⟨⟩
  else .ok ⟨⟨[], false, capacity, policy, {}⟩, .receiving, .running⟩

namespace SharedQueue

/-- Counts an event that enters the queue. -/
def enqueue (queue : SharedQueue E) (event : E) : SharedQueue E :=
  { queue with
    events := queue.events ++ [event]
    stats := { queue.stats with enqueued := queue.stats.enqueued + 1 } }

/-- One attempt to dispatch an event under the lock; without an outcome the task waits for space. -/
def dispatch (queue : SharedQueue E) (event : E) : SharedQueue E × Option DispatchOutcome :=
  if queue.closed then (queue, some .closed)
  else if queue.events.length < queue.capacity then (queue.enqueue event, some .enqueued)
  else match queue.policy with
    | .block => (queue, none)
    | .dropNewest =>
      ({ queue with
          stats := { queue.stats with droppedNewest := queue.stats.droppedNewest + 1 } },
        some .droppedNewest)
    | .dropOldest =>
      let queue := { queue with
        events := queue.events.tail
        stats := { queue.stats with droppedOldest := queue.stats.droppedOldest + 1 } }
      (queue.enqueue event, some .droppedOldest)

end SharedQueue

/-- One turn of the worker at the queue: it takes the first event, waits for one, or returns where the
queue is closed and empty. -/
def ObserverDispatcher.receive (dispatcher : ObserverDispatcher E) : ObserverDispatcher E :=
  match dispatcher.shared.events with
  | event :: rest =>
    { dispatcher with
      shared := { dispatcher.shared with events := rest }
      worker := .observing event }
  | [] => if dispatcher.shared.closed then { dispatcher with worker := .finished } else dispatcher

/-- The observer's answer is counted, and the worker turns to the queue again. -/
def ObserverDispatcher.complete (dispatcher : ObserverDispatcher E) (succeeded : Bool) :
    ObserverDispatcher E :=
  let stats := dispatcher.shared.stats
  { dispatcher with
    shared := { dispatcher.shared with
      stats := if succeeded then { stats with delivered := stats.delivered + 1 }
        else { stats with failed := stats.failed + 1 } }
    worker := .receiving }

/-- The steps of a dispatcher, with what they exchange with its surroundings. -/
inductive ObserverEvent (E : Type) where
  | dispatch (event : E) (outcome : Option DispatchOutcome)
  | receive (taken : Option E)
  | complete (succeeded : Bool)
  | close
  | join (stats : ObserverStats)
  deriving DecidableEq, Repr

/-- One step of a dispatcher; dispatching tasks, the worker and the shutdown take them in any order. -/
inductive ObserverStep : ObserverDispatcher E → ObserverEvent E → ObserverDispatcher E → Prop where
  | dispatch {dispatcher : ObserverDispatcher E} (event : E) :
      ObserverStep dispatcher (.dispatch event (dispatcher.shared.dispatch event).2)
        { dispatcher with shared := (dispatcher.shared.dispatch event).1 }
  | receive {dispatcher : ObserverDispatcher E} : dispatcher.worker = .receiving →
      ObserverStep dispatcher (.receive dispatcher.shared.events.head?) dispatcher.receive
  | complete {dispatcher : ObserverDispatcher E} {event : E} (succeeded : Bool) :
      dispatcher.worker = .observing event →
      ObserverStep dispatcher (.complete succeeded) (dispatcher.complete succeeded)
  | close {dispatcher : ObserverDispatcher E} : dispatcher.shutdown = .running →
      ObserverStep dispatcher .close
        { dispatcher with
          shared := { dispatcher.shared with closed := true }
          shutdown := .draining }
  | join {dispatcher : ObserverDispatcher E} : dispatcher.shutdown = .draining →
      dispatcher.worker = .finished →
      ObserverStep dispatcher (.join dispatcher.shared.stats) { dispatcher with shutdown := .completed }

end Dispatcher

section Deliveries

variable {E : Type}

/-- The event that a step accepts into the queue. -/
def ObserverEvent.accepted : ObserverEvent E → Option E
  | dispatch event (some .enqueued) => some event
  | dispatch event (some .droppedOldest) => some event
  | _ => none

/-- The event that a step hands to the observer. -/
def ObserverEvent.observed : ObserverEvent E → Option E
  | receive taken => taken
  | _ => none

/-- Whether a step drops the oldest event of the queue. -/
def ObserverEvent.dropsOldest : ObserverEvent E → Bool
  | dispatch _ (some .droppedOldest) => true
  | _ => false

/-- Whether a step drops the event that it dispatches. -/
def ObserverEvent.dropsNewest : ObserverEvent E → Bool
  | dispatch _ (some .droppedNewest) => true
  | _ => false

/-- Whether a step completes an observation with the given answer. -/
def ObserverEvent.completes (succeeded : Bool) : ObserverEvent E → Bool
  | complete answer => answer == succeeded
  | _ => false

/-- The events that were accepted, in order. -/
def acceptedEvents (history : List (ObserverEvent E)) : List E :=
  history.filterMap ObserverEvent.accepted

/-- The events that the observer was called with, in order. -/
def observedEvents (history : List (ObserverEvent E)) : List E :=
  history.filterMap ObserverEvent.observed

/-- The event that the observer has not answered yet. -/
def Worker.inFlight : Worker E → List E
  | observing event => [event]
  | _ => []

/-- The counters of a history; they wrap like the machine's. -/
def statsOf (history : List (ObserverEvent E)) : ObserverStats where
  enqueued := .ofNat (acceptedEvents history).length
  droppedNewest := .ofNat (history.countP ObserverEvent.dropsNewest)
  droppedOldest := .ofNat (history.countP ObserverEvent.dropsOldest)
  delivered := .ofNat (history.countP (ObserverEvent.completes true))
  failed := .ofNat (history.countP (ObserverEvent.completes false))

/-- What has become of the accepted events of a history. -/
structure Accounted (history : List (ObserverEvent E)) (dispatcher : ObserverDispatcher E) : Prop where
  stats : dispatcher.shared.stats = statsOf history
  balance : (acceptedEvents history).length = history.countP (ObserverEvent.completes true) +
    history.countP (ObserverEvent.completes false) + history.countP ObserverEvent.dropsOldest +
    dispatcher.shared.events.length + dispatcher.worker.inFlight.length
  capacity : dispatcher.shared.events.length ≤ dispatcher.shared.capacity
  order : (observedEvents history ++ dispatcher.shared.events).Sublist (acceptedEvents history)
  fates : ∃ dropped, dropped.length = history.countP ObserverEvent.dropsOldest ∧
    (acceptedEvents history).Perm (observedEvents history ++ dispatcher.shared.events ++ dropped)
  drained : dispatcher.shutdown = .completed →
    (∃ dropped, dropped.length = history.countP ObserverEvent.dropsOldest ∧
      (acceptedEvents history).Perm (observedEvents history ++ dropped)) ∧
    (observedEvents history).length = history.countP (ObserverEvent.completes true) +
      history.countP (ObserverEvent.completes false)

end Deliveries

end AgentMod
