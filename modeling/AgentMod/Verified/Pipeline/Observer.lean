import AgentMod.Pipeline.Observer
import Mathlib.Data.List.Perm.Basic

/-! Every interleaving of dispatches, deliveries and the shutdown accounts for the accepted events. -/

namespace AgentMod

section Steps

variable {E : Type} {history : List (ObserverEvent E)} {dispatcher next : ObserverDispatcher E}
  {label : ObserverEvent E}

/-- What holds in every reachable state. -/
structure Delivering (history : List (ObserverEvent E)) (dispatcher : ObserverDispatcher E) :
    Prop where
  positive : 0 < dispatcher.shared.capacity
  capacity : dispatcher.shared.events.length ≤ dispatcher.shared.capacity
  stats : dispatcher.shared.stats = statsOf history
  order : (observedEvents history ++ dispatcher.shared.events).Sublist (acceptedEvents history)
  fates : ∃ dropped, dropped.length = history.countP ObserverEvent.dropsOldest ∧
    (acceptedEvents history).Perm (observedEvents history ++ dispatcher.shared.events ++ dropped)
  answered : (observedEvents history).length = history.countP (ObserverEvent.completes true) +
    history.countP (ObserverEvent.completes false) + dispatcher.worker.inFlight.length
  finished : dispatcher.worker = .finished →
    dispatcher.shared.closed ∧ dispatcher.shared.events = []
  completed : dispatcher.shutdown = .completed → dispatcher.worker = .finished

@[simp] theorem accepted_snoc : acceptedEvents (history ++ [label]) =
    acceptedEvents history ++ label.accepted.toList := by
  cases accepted : label.accepted <;> simp [acceptedEvents, accepted]

@[simp] theorem observed_snoc : observedEvents (history ++ [label]) =
    observedEvents history ++ label.observed.toList := by
  cases observed : label.observed <;> simp [observedEvents, observed]

@[simp] theorem countP_snoc {counted : ObserverEvent E → Bool} :
    (history ++ [label]).countP counted = history.countP counted + if counted label then 1 else 0 := by
  rw [List.countP_append, List.countP_singleton]

@[simp] theorem statsOf_snoc : statsOf (history ++ [label]) =
    { enqueued := (statsOf history).enqueued + .ofNat label.accepted.toList.length
      droppedNewest := (statsOf history).droppedNewest + if label.dropsNewest then 1 else 0
      droppedOldest := (statsOf history).droppedOldest + if label.dropsOldest then 1 else 0
      delivered := (statsOf history).delivered + if label.completes true then 1 else 0
      failed := (statsOf history).failed + if label.completes false then 1 else 0 } := by
  simp only [statsOf, accepted_snoc, countP_snoc, List.length_append, UInt64.ofNat_add,
    apply_ite UInt64.ofNat]
  rfl

theorem perm_enqueued {observed queued dropped : List E} {event : E} :
    (observed ++ queued ++ dropped ++ [event]).Perm (observed ++ (queued ++ [event]) ++ dropped) := by
  classical
  refine List.perm_iff_count.mpr fun item => ?_
  simp only [List.count_append]
  omega

theorem perm_replaced {observed rest dropped : List E} {event oldest : E} :
    (observed ++ oldest :: rest ++ dropped ++ [event]).Perm
      (observed ++ (rest ++ [event]) ++ (dropped ++ [oldest])) := by
  classical
  refine List.perm_iff_count.mpr fun item => ?_
  simp only [List.count_append, List.count_cons, List.count_nil]
  omega

/-- The ways an attempt to dispatch an event ends. -/
inductive Dispatches (queue : SharedQueue E) (event : E) :
    SharedQueue E × Option DispatchOutcome → Prop where
  | closed : Dispatches queue event (queue, some .closed)
  | enqueued : queue.closed = false → queue.events.length < queue.capacity →
      Dispatches queue event (queue.enqueue event, some .enqueued)
  | waits : Dispatches queue event (queue, none)
  | droppedNewest : Dispatches queue event
      ({ queue with stats := { queue.stats with droppedNewest := queue.stats.droppedNewest + 1 } },
        some .droppedNewest)
  | droppedOldest {oldest : E} {rest : List E} :
      queue.closed = false → queue.events = oldest :: rest →
      Dispatches queue event (({ queue with
          events := rest
          stats := { queue.stats with droppedOldest := queue.stats.droppedOldest + 1 } } :
            SharedQueue E).enqueue event, some .droppedOldest)

theorem dispatches {queue : SharedQueue E} (positive : 0 < queue.capacity) (event : E) :
    Dispatches queue event (queue.dispatch event) := by
  unfold SharedQueue.dispatch
  split
  · exact .closed
  · next isOpen =>
    split
    · next space => exact .enqueued (by simpa using isOpen) space
    · next full =>
      split
      · exact .waits
      · exact .droppedNewest
      · -- A full queue has an oldest event.
        cases events : queue.events with
        | nil =>
          rw [events, List.length_nil] at full
          exact absurd positive full
        | cons oldest rest => exact .droppedOldest (by simpa using isOpen) events

theorem Delivering.quiet (holds : Delivering history dispatcher) (accepted : label.accepted = none)
    (observed : label.observed = none) (kept : label.dropsOldest = false)
    (unanswered : ∀ succeeded, label.completes succeeded = false)
    (events : next.shared.events = dispatcher.shared.events)
    (capacity : next.shared.capacity = dispatcher.shared.capacity)
    (inFlight : next.worker.inFlight = dispatcher.worker.inFlight)
    (stats : next.shared.stats = { dispatcher.shared.stats with
      droppedNewest := dispatcher.shared.stats.droppedNewest + if label.dropsNewest then 1 else 0 })
    (finished : next.worker = .finished → next.shared.closed ∧ next.shared.events = [])
    (completed : next.shutdown = .completed → next.worker = .finished) :
    Delivering (history ++ [label]) next where
  positive := capacity ▸ holds.positive
  capacity := by rw [events, capacity]; exact holds.capacity
  stats := by simp [stats, holds.stats, accepted, kept, unanswered]
  order := by simpa [accepted, observed, events] using holds.order
  fates := by simpa [accepted, observed, kept, events] using holds.fates
  answered := by simpa [observed, unanswered, inFlight] using holds.answered
  finished := finished
  completed := completed

attribute [local simp] ObserverEvent.accepted ObserverEvent.observed ObserverEvent.dropsNewest
  ObserverEvent.dropsOldest ObserverEvent.completes

theorem Delivering.enqueue (holds : Delivering history dispatcher) {event : E}
    (isOpen : dispatcher.shared.closed = false)
    (space : dispatcher.shared.events.length < dispatcher.shared.capacity) :
    Delivering (history ++ [.dispatch event (some .enqueued)])
      { dispatcher with shared := dispatcher.shared.enqueue event } where
  positive := holds.positive
  capacity := by simpa [SharedQueue.enqueue, Nat.succ_le_iff] using space
  stats := by simp [SharedQueue.enqueue, holds.stats]
  order := by simpa [SharedQueue.enqueue] using holds.order.append_right [event]
  fates := by
    obtain ⟨dropped, counted, perm⟩ := holds.fates
    refine ⟨dropped, by simpa using counted, ?_⟩
    simpa [SharedQueue.enqueue] using (perm.append_right [event]).trans perm_enqueued
  answered := by simpa using holds.answered
  finished ended := absurd (holds.finished ended).1 (by simp [isOpen])
  completed := holds.completed

theorem Delivering.replace (holds : Delivering history dispatcher) {event oldest : E} {rest : List E}
    (isOpen : dispatcher.shared.closed = false) (events : dispatcher.shared.events = oldest :: rest) :
    Delivering (history ++ [.dispatch event (some .droppedOldest)])
      { dispatcher with shared := ({ dispatcher.shared with
          events := rest
          stats := { dispatcher.shared.stats with
            droppedOldest := dispatcher.shared.stats.droppedOldest + 1 } } :
              SharedQueue E).enqueue event } where
  positive := holds.positive
  capacity := by simpa [SharedQueue.enqueue, events] using holds.capacity
  stats := by simp [SharedQueue.enqueue, holds.stats]
  order := by
    have kept : (observedEvents history ++ rest).Sublist (acceptedEvents history) := by
      refine List.Sublist.trans ?_ holds.order
      rw [events]
      exact (List.sublist_cons_self oldest rest).append_left _
    simpa [SharedQueue.enqueue] using kept.append_right [event]
  fates := by
    obtain ⟨dropped, counted, perm⟩ := holds.fates
    refine ⟨dropped ++ [oldest], by simpa using counted, ?_⟩
    rw [events] at perm
    simpa [SharedQueue.enqueue] using (perm.append_right [event]).trans perm_replaced
  answered := by simpa using holds.answered
  finished ended := absurd (holds.finished ended).1 (by simp [isOpen])
  completed := holds.completed

theorem Delivering.take (holds : Delivering history dispatcher) {event : E} {rest : List E}
    (receiving : dispatcher.worker = .receiving) (events : dispatcher.shared.events = event :: rest) :
    Delivering (history ++ [.receive (some event)])
      { dispatcher with
        shared := { dispatcher.shared with events := rest }
        worker := .observing event } where
  positive := holds.positive
  capacity := by
    have := holds.capacity
    rw [events, List.length_cons] at this
    exact Nat.le_of_succ_le this
  stats := by simp [holds.stats]
  order := by simpa [events] using holds.order
  fates := by simpa [events] using holds.fates
  answered := by
    have := holds.answered
    rw [receiving] at this
    simp [Worker.inFlight] at this ⊢
    omega
  finished ended := by cases ended
  completed ended := by
    have := holds.completed ended
    rw [receiving] at this
    cases this

theorem Delivering.complete (holds : Delivering history dispatcher) {event : E} (succeeded : Bool)
    (observing : dispatcher.worker = .observing event) :
    Delivering (history ++ [.complete succeeded]) (dispatcher.complete succeeded) where
  positive := holds.positive
  capacity := holds.capacity
  stats := by cases succeeded <;> simp [ObserverDispatcher.complete, holds.stats]
  order := by simpa [ObserverDispatcher.complete] using holds.order
  fates := by simpa [ObserverDispatcher.complete] using holds.fates
  answered := by
    have := holds.answered
    rw [observing] at this
    cases succeeded <;> simp [ObserverDispatcher.complete, Worker.inFlight] at this ⊢ <;> omega
  finished ended := by cases ended
  completed ended := by
    have := holds.completed ended
    rw [observing] at this
    cases this

/-- Every step keeps what holds in reachable states. -/
theorem Delivering.step (holds : Delivering history dispatcher)
    (taken : ObserverStep dispatcher label next) : Delivering (history ++ [label]) next := by
  cases taken with
  | dispatch event =>
    have ends := dispatches holds.positive event
    revert ends
    generalize dispatcher.shared.dispatch event = outcome
    intro ends
    cases ends with
    | closed | waits =>
      exact holds.quiet rfl rfl rfl (fun _ => rfl) rfl rfl rfl (by simp) holds.finished holds.completed
    | droppedNewest =>
      exact holds.quiet rfl rfl rfl (fun _ => rfl) rfl rfl rfl (by simp) holds.finished holds.completed
    | enqueued isOpen space => exact holds.enqueue isOpen space
    | droppedOldest isOpen events => exact holds.replace isOpen events
  | receive receiving =>
    unfold ObserverDispatcher.receive
    cases events : dispatcher.shared.events with
    | cons event rest => exact holds.take receiving events
    | nil =>
      have running : dispatcher.shutdown ≠ .completed := by
        intro ended
        rw [holds.completed ended] at receiving
        cases receiving
      by_cases closed : dispatcher.shared.closed
      · -- The worker returns where the queue is closed and empty.
        simp only [closed, if_true]
        exact holds.quiet rfl rfl rfl (fun _ => rfl) rfl rfl (by simp [receiving, Worker.inFlight])
          (by simp) (fun _ => ⟨closed, events⟩) fun _ => rfl
      · simp only [closed]
        exact holds.quiet rfl rfl rfl (fun _ => rfl) rfl rfl rfl (by simp) holds.finished
          holds.completed
  | complete succeeded observing => exact holds.complete succeeded observing
  | close running =>
    exact holds.quiet rfl rfl rfl (fun _ => rfl) rfl rfl rfl (by simp)
      (fun ended => ⟨rfl, (holds.finished ended).2⟩) fun ended => by cases ended
  | join draining finished =>
    exact holds.quiet rfl rfl rfl (fun _ => rfl) rfl rfl rfl (by simp) holds.finished
      fun _ => finished

theorem Delivering.accounted (holds : Delivering history dispatcher) :
    Accounted history dispatcher where
  stats := holds.stats
  balance := by
    obtain ⟨dropped, counted, perm⟩ := holds.fates
    have length := perm.length_eq
    rw [List.length_append, List.length_append, holds.answered, counted] at length
    omega
  capacity := holds.capacity
  order := holds.order
  fates := holds.fates
  drained ended := by
    have finished := holds.completed ended
    obtain ⟨dropped, counted, perm⟩ := holds.fates
    rw [(holds.finished finished).2, List.append_nil] at perm
    refine ⟨⟨dropped, counted, perm⟩, ?_⟩
    rw [holds.answered, finished]
    rfl

end Steps

/-- Whatever the order of dispatches, deliveries and the shutdown, accepted events are delivered in order,
queued, in flight, or counted as dropped; and none of them is left behind a completed shutdown. -/
theorem observer_delivery_accounted {E : Type} {capacity : Nat} {policy : BackpressurePolicy}
    {start dispatcher : ObserverDispatcher E} {history : List (ObserverEvent E)}
    (starts : ObserverDispatcher.new capacity policy = .ok start)
    (run : Run ObserverStep start history dispatcher) : Accounted history dispatcher := by
  suffices holds : Delivering history dispatcher from holds.accounted
  induction run with
  | nil =>
    unfold ObserverDispatcher.new at starts
    split at starts
    · cases starts
    · next positive =>
      cases starts
      exact ⟨Nat.pos_of_ne_zero positive, Nat.zero_le _, rfl, .slnil, ⟨[], rfl, .nil⟩, rfl,
        nofun, nofun⟩
  | snoc _ taken ih => exact ih.step taken

/-- The dispatcher of the sample. -/
def sampleDispatcher : ObserverDispatcher Nat :=
  ⟨⟨[], false, 1, .dropOldest, {}⟩, .receiving, .running⟩

/-- The last event of a run that drops one is observed before the shutdown completes. -/
theorem observer_delivery_accounted_sample : ∃ dispatcher : ObserverDispatcher Nat,
    dispatcher.shutdown = .completed ∧ Accounted
      [.dispatch 1 (some .enqueued), .receive (some 1), .dispatch 2 (some .enqueued),
        .dispatch 3 (some .droppedOldest), .complete true, .receive (some 3), .close,
        .dispatch 4 (some .closed), .complete false, .receive none,
        .join ⟨3, 0, 1, 1, 1⟩] dispatcher := by
  have starts : ObserverDispatcher.new 1 .dropOldest = .ok sampleDispatcher := rfl
  exact ⟨_, rfl, observer_delivery_accounted starts
    (Run.nil.snoc (.dispatch 1) |>.snoc (.receive rfl) |>.snoc (.dispatch 2) |>.snoc (.dispatch 3)
      |>.snoc (.complete true rfl) |>.snoc (.receive rfl) |>.snoc (.close rfl) |>.snoc (.dispatch 4)
      |>.snoc (.complete false rfl) |>.snoc (.receive rfl) |>.snoc (.join rfl rfl))⟩

end AgentMod
