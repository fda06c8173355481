import AgentMod.Verified.Session.ParallelMoves
import AgentMod.Verified.Session.StyleWalk
import AgentMod.Session.ParallelReplay

/-! Replayed branches correspond to those of the embedded execution, and walk through their regions. -/

namespace AgentMod

open CanonicalParallelExecutionState

section FanOut

variable [StyleSerde] [Hashing]

theorem StyleParallelEvent.addresses_iff {key : String} {event : StyleParallelEvent} :
    event.addresses key ↔ nodeWorkKey event.owner = .ok key := by
  simp only [addresses, returns_eq_true, beq_iff_eq]
  exact ⟨fun ⟨_, keyed, same⟩ => same ▸ keyed, fun keyed => ⟨key, keyed, rfl⟩⟩

theorem fanOutEvents_snoc {key : String} {events : List StyleSessionEvent} {event : StyleSessionEvent} :
    fanOutEvents key (events ++ [event]) =
      fanOutEvents key events ++ (StyleSessionEvent.fanOut? key event).toList := by
  rw [fanOutEvents, List.filterMap_append]
  cases found : StyleSessionEvent.fanOut? key event <;> simp [fanOutEvents, found]

/-- The graph of a style execution with its parallel execution under a key. -/
def StyleExecutionState.fanOut? (key : String) (execution : Option StyleExecutionState) :
    Option (ExecutableGraph × CanonicalParallelExecutionState) :=
  execution.bind fun execution => execution.parallelExecutions[key]?.map (execution.graph, ·)

theorem filter_addresses {key changed : String} {event : StyleParallelEvent}
    (keyed : nodeWorkKey event.owner = .ok changed) :
    (some event).filter (·.addresses key) = if changed = key then some event else none := by
  have addresses : event.addresses key ↔ changed = key := by
    rw [StyleParallelEvent.addresses_iff, keyed, Except.ok.injEq]
  simp only [Option.filter_some, addresses]

omit [StyleSerde] [Hashing] in
theorem fanOut?_setParallel {key changed : String} {execution : StyleExecutionState}
    {parallel : CanonicalParallelExecutionState} :
    StyleExecutionState.fanOut? key (some (execution.setParallel changed parallel)) =
      if changed = key then some (execution.graph, parallel)
      else StyleExecutionState.fanOut? key (some execution) := by
  simp only [StyleExecutionState.fanOut?, StyleExecutionState.setParallel, Option.bind_some,
    StringMap.getElem?_insert']
  split <;> rfl

/-- What an event means for the parallel execution under a key. -/
inductive FanOutStepped [ParallelSerde] (key : String) :
    Option (ExecutableGraph × CanonicalParallelExecutionState) → Option StyleParallelEvent →
      Option (ExecutableGraph × CanonicalParallelExecutionState) → Prop where
  | kept {fanOut : Option (ExecutableGraph × CanonicalParallelExecutionState)} :
      FanOutStepped key fanOut none fanOut
  | begun {execution : StyleExecutionState} {initialized : ParallelExecutionInitializedEvent}
      {parallel : CanonicalParallelExecutionState} (begun : ParallelBegun execution initialized key parallel) :
      FanOutStepped key none (some (.initialized initialized)) (some (execution.graph, parallel))
  | moved {execution : StyleExecutionState} {sequence : Sequence} {event : StyleParallelEvent}
      {before after : CanonicalParallelExecutionState}
      (moves : ParallelMoves execution sequence before event after) :
      FanOutStepped key (some (execution.graph, before)) (some event) (some (execution.graph, after))

/-- An accepted event leaves the parallel execution under a key, or is about it. -/
theorem SessionStep.fanOut [ParallelSerde] [VariableSerde] [EventChecksum (SessionPayload StyleEvent)]
    {state next : Session SessionStyleExecution} {event : StyleSessionEvent} (step : SessionStep state event next)
    (key : String) : FanOutStepped key (StyleExecutionState.fanOut? key state.part.styleExecution)
      (StyleSessionEvent.fanOut? key event) (StyleExecutionState.fanOut? key next.part.styleExecution) := by
  have stepped := step.style
  rw [StyleSessionEvent.fanOut?, StyleSessionEvent.parallel?]
  generalize state.part.styleExecution = before at stepped
  generalize StyleSessionEvent.style? event = style at stepped
  generalize next.part.styleExecution = after at stepped
  cases stepped with
  | other unrelated =>
    have same (canonicalVariables : StyleExecutionState → Option CanonicalVariableEventReducer) :
        StyleExecutionState.fanOut? key (before.map fun execution =>
          { execution with canonicalVariables := canonicalVariables execution }) =
        StyleExecutionState.fanOut? key before := by
      cases before <;> rfl
    rw [same]
    rcases style with _ | style
    · exact .kept
    · obtain ⟨_, rfl⟩ := unrelated style rfl
      exact .kept
  | begun begun =>
    rw [StyleExecutionState.fanOut?, StyleExecutionState.fanOut?, Option.bind_some, begun.parallel]
    exact .kept
  | root moves =>
    obtain ⟨graph, executions⟩ := moves.kept
    simp only [StyleExecutionState.fanOut?, Option.bind_some, graph, executions]
    exact .kept
  | parallel stepped =>
    cases stepped with
    | @begun initialized _ _ begun =>
      rw [@filter_addresses _ _ key _ (.initialized initialized) begun.keyed, fanOut?_setParallel]
      split
      · next same =>
        subst same
        rw [StyleExecutionState.fanOut?, Option.bind_some, begun.fresh]
        exact .begun begun
      · exact .kept
    | moved keyed known moves =>
      rw [filter_addresses keyed, fanOut?_setParallel]
      split
      · next same =>
        subst same
        rw [StyleExecutionState.fanOut?, Option.bind_some, known]
        exact .moved moves
      · exact .kept

/-- What holds of a parallel execution and the events about it, when it begins and behind each of its moves,
holds of whatever is replayed. -/
theorem fanOut_invariant [ParallelSerde] [VariableSerde] [EventChecksum (SessionPayload StyleEvent)]
    {motive : ExecutableGraph → List StyleParallelEvent → CanonicalParallelExecutionState → Prop} {key : String}
    {events : List StyleSessionEvent} {state : Session SessionStyleExecution} (replayed : replay events = .ok state)
    (begins : ∀ execution initialized parallel, ParallelBegun execution initialized key parallel →
      motive execution.graph [.initialized initialized] parallel)
    (moves : ∀ execution sequence events parallel event next, motive execution.graph events parallel →
      ParallelMoves execution sequence parallel event next → motive execution.graph (events ++ [event]) next) :
    (StyleExecutionState.fanOut? key state.part.styleExecution = none → fanOutEvents key events = []) ∧
      ∀ graph parallel, StyleExecutionState.fanOut? key state.part.styleExecution = some (graph, parallel) →
        motive graph (fanOutEvents key events) parallel := by
  refine replay_invariant (motive := fun events state =>
    (StyleExecutionState.fanOut? key state.part.styleExecution = none → fanOutEvents key events = []) ∧
      ∀ graph parallel, StyleExecutionState.fanOut? key state.part.styleExecution = some (graph, parallel) →
        motive graph (fanOutEvents key events) parallel) replayed ?_ ?_
  · intro first start created
    obtain ⟨_, carried⟩ := exists_of_reduce_none created
    have silent : StyleSessionEvent.fanOut? key first = none := by
      rw [StyleSessionEvent.fanOut?, StyleSessionEvent.parallel?, StyleSessionEvent.style?, carried]
      rfl
    rw [(styleExecution_of_reduce_none created).1, ← List.nil_append [first], fanOutEvents_snoc, silent]
    exact ⟨fun _ => rfl, fun _ _ same => absurd same (Option.some_ne_none _).symm⟩
  · intro earlier state event next held step
    obtain ⟨empty, holds⟩ := held
    have stepped := step.fanOut key
    rw [fanOutEvents_snoc]
    generalize StyleExecutionState.fanOut? key state.part.styleExecution = before at stepped empty holds
    generalize StyleSessionEvent.fanOut? key event = fanOut at stepped
    generalize StyleExecutionState.fanOut? key next.part.styleExecution = after at stepped
    cases stepped with
    | kept =>
      rw [Option.toList_none, List.append_nil]
      exact ⟨empty, holds⟩
    | begun begun =>
      refine ⟨fun same => absurd same (Option.some_ne_none _), fun graph parallel same => ?_⟩
      obtain ⟨rfl, rfl⟩ := Prod.mk.inj (Option.some.inj same)
      rw [empty rfl]
      exact begins _ _ _ begun
    | moved moved =>
      refine ⟨fun same => absurd same (Option.some_ne_none _), fun graph parallel same => ?_⟩
      obtain ⟨rfl, rfl⟩ := Prod.mk.inj (Option.some.inj same)
      exact moves _ _ _ _ _ _ (holds _ _ rfl) moved

end FanOut

/-- What the control of a branch says about the nodes that were entered into it. -/
def ParallelBranchControlState.Walked (graph : ExecutableGraph) (region : ParallelBranchRegionBinding)
    (nodes : List String) : ParallelBranchControlState → Prop
  | .queued | .dispatched => nodes = []
  | .readyForEntry cursor => nodes = [] ∧ cursor.nodeId = region.member.targetNodeId
  | .active entered => nodes.getLast? = some entered.work.nodeId
  | .awaitingTransition completed => nodes.getLast? = some completed.entered.work.nodeId
  | .awaitingDestinationEntry selected => ∃ last, nodes.getLast? = some last ∧ graph.IsEdge last selected.toNodeId
  | .awaitingFailure _ | .terminal .. => True

/-- The invariant of a parallel execution, in view of the events about it. -/
structure ReplayInvariant (graph : ExecutableGraph) (events : List StyleParallelEvent)
    (parallel : CanonicalParallelExecutionState) : Prop where
  keyed : Keyed parallel.execution
  corresponds : parallel.Corresponds
  unknown : ∀ branchId : String, parallel.branches[branchId]? = none → enteredNodes branchId events = []
  walked : ∀ (branchId : String) branch, parallel.branches[branchId]? = some branch →
    branch.control.Walked graph branch.region (enteredNodes branchId events)
  walks : ∀ (branchId : String) branch, parallel.branches[branchId]? = some branch →
    BranchWalk graph branch.region (enteredNodes branchId events)
  requested : parallel.cancellationRequestedAt.isSome = events.any (·.requestsCancellation)
  silent : EachFollows BeforeCancellation events
  unsuppressed : parallel.cancellationCompletedAt = none → ∀ (branchId : String) branch,
    parallel.branches[branchId]? = some branch → branch.suppressionAt = none

theorem BranchWalk.nil {graph : ExecutableGraph} {region : ParallelBranchRegionBinding} :
    BranchWalk graph region [] :=
  ⟨fun _ member => absurd member List.not_mem_nil, fun _ absent => absurd absent (Option.some_ne_none _).symm,
    .nil⟩

section Begun

variable [StyleSerde] [ParallelSerde] [Hashing]

variable {execution : StyleExecutionState} {initialized : ParallelExecutionInitializedEvent} {key : String}
  {parallel : CanonicalParallelExecutionState} (begun : ParallelBegun execution initialized key parallel)
include begun

theorem ParallelBegun.branches_iff {branchId : String} {branch : ParallelBranchReplayRecord} :
    parallel.branches[branchId]? = some branch ↔
      ∃ region ∈ initialized.regions, region.member.branchId = branchId ∧ branch = .new region := by
  obtain ⟨_, _, created⟩ := begun.created
  have distinct := (Bound.of_new created).distinct
  rw [begun.bound, List.map_map] at distinct
  rw [begun.branches, StringMap.getElem?_ofList (by rwa [List.map_map]), List.mem_map]
  constructor
  · rintro ⟨region, member, same⟩
    cases same
    exact ⟨region, member, rfl, rfl⟩
  · rintro ⟨region, member, rfl, rfl⟩
    exact ⟨region, member, rfl⟩

theorem ParallelBegun.corresponds : parallel.Corresponds := by
  obtain ⟨_, _, created⟩ := begun.created
  have bound := Bound.of_new created
  intro branchId
  rw [phase?]
  cases found : parallel.execution.branches[branchId]? with
  | none =>
    cases record : parallel.branches[branchId]? with
    | none => rfl
    | some branch =>
      obtain ⟨region, member, rfl, -⟩ := begun.branches_iff.mp record
      have known : parallel.execution.branches.contains region.member.branchId := by
        rw [bound.each, begun.bound, List.map_map]
        exact List.mem_map_of_mem member
      obtain ⟨_, known⟩ := StringMap.contains_iff.mp known
      rw [found] at known
      cases known
  | some branch =>
    have known := (bound.each branchId).mp (StringMap.contains_iff.mpr ⟨branch, found⟩)
    rw [begun.bound, List.map_map] at known
    obtain ⟨region, member, named⟩ := List.mem_map.mp known
    rw [begun.branches_iff.mpr ⟨region, member, named, rfl⟩, Option.map_some, Option.map_some,
      (bound.keyed branchId branch found).2]
    rfl

theorem ParallelBegun.replayInvariant : ReplayInvariant execution.graph [.initialized initialized] parallel := by
  obtain ⟨_, _, created⟩ := begun.created
  refine ⟨fun branchId branch found => ((Bound.of_new created).keyed branchId branch found).1, begun.corresponds,
    fun _ _ => rfl, ?_, fun _ _ _ => .nil, ?_, ?_, ?_⟩
  · intro branchId branch found
    obtain ⟨region, -, -, rfl⟩ := begun.branches_iff.mp found
    rfl
  · rw [begun.requested]
    rfl
  · rw [← List.nil_append [_], eachFollows_snoc]
    exact ⟨.nil, fun _ => rfl⟩
  · intro _ branchId branch found
    obtain ⟨region, -, -, rfl⟩ := begun.branches_iff.mp found
    rfl

end Begun

section Moved

variable {execution : StyleExecutionState} {sequence : Sequence} {events : List StyleParallelEvent}
  {parallel next : CanonicalParallelExecutionState} {event : StyleParallelEvent}

theorem enteredNodes_snoc {branchId : String} : enteredNodes branchId (events ++ [event]) =
    enteredNodes branchId events ++ ((event.entered? branchId).map (·.work.nodeId)).toList := by
  rw [enteredNodes, List.filterMap_append]
  cases found : (event.entered? branchId).map (·.work.nodeId) <;> simp [enteredNodes, found]

theorem entered?_eq_none {branchId : String} (other : event.branchId? ≠ some branchId) :
    event.entered? branchId = none := by
  cases event with
  | nodeEntered event => exact if_neg fun same => other (congrArg some same)
  | _ => rfl

theorem EmbeddedStepped.phase {before after : ParallelExecutionState} {branchId other : String}
    {source target : ParallelBranchPhase} (stepped : EmbeddedStepped before after branchId source target)
    (corresponds : before.branches[branchId]?.map (·.state.phase) = some source) :
    after.branches[other]?.map (·.state.phase) =
      if branchId = other then some target else before.branches[other]?.map (·.state.phase) := by
  cases stepped with
  | kept same stays =>
    rw [same, stays, ← corresponds]
    split
    · next is => rw [is]
    · rfl
  | moved changes named leaves reaches =>
    rw [changes.lookup, named]
    split
    · rw [Option.map_some, reaches]
    · rfl

theorem EmbeddedStepped.keyed {before after : ParallelExecutionState} {branchId : String}
    {source target : ParallelBranchPhase} (stepped : EmbeddedStepped before after branchId source target)
    (keyed : Keyed before) : Keyed after := by
  cases stepped with
  | kept same => rwa [same]
  | moved changes =>
    intro other branch found
    rw [changes.lookup] at found
    split at found
    · next is =>
      rw [← Option.some.inj found, ← is]
      exact (keyed _ _ changes.found : _)
    · exact keyed other branch found

/-- A branch that is walked through is walked through behind each move of its control. -/
theorem ControlMoves.walked {region : ParallelBranchRegionBinding} {branchId : String}
    {before after : ParallelBranchControlState} (moves : ControlMoves execution parallel region before event after)
    (named : event.branchId? = some branchId)
    (walked : before.Walked execution.graph region (enteredNodes branchId events))
    (walks : BranchWalk execution.graph region (enteredNodes branchId events)) :
    after.Walked execution.graph region (enteredNodes branchId (events ++ [event])) ∧
      BranchWalk execution.graph region (enteredNodes branchId (events ++ [event])) := by
  rw [enteredNodes_snoc]
  generalize enteredNodes branchId events = nodes at walked walks
  cases moves with
  | @nodeEntered _ event expects run path inside =>
    have own : event.branchId = branchId := Option.some.inj named
    simp only [StyleParallelEvent.entered?, if_pos own, Option.map_some, Option.toList_some]
    refine ⟨List.getLast?_concat, fun nodeId member => ?_, fun nodeId heads => ?_, ?_⟩
    · rcases List.mem_append.mp member with earlier | last
      · exact walks.inside nodeId earlier
      · rwa [List.mem_singleton.mp last]
    · cases nodes with
      | nil =>
        cases before with
        | readyForEntry cursor =>
          rw [← Option.some.inj heads, ← walked.2, Option.some.inj expects]
        | awaitingDestinationEntry =>
          obtain ⟨_, missing, -⟩ := walked
          cases missing
        | _ => cases expects
      | cons => exact walks.starts nodeId heads
    · refine walks.edges.append (.singleton _) fun last isLast first isFirst => ?_
      obtain rfl : event.work.nodeId = first := Option.some.inj isFirst
      cases before with
      | readyForEntry cursor =>
        rw [walked.1] at isLast
        cases isLast
      | awaitingDestinationEntry selected =>
        obtain ⟨_, before, edge⟩ := walked
        obtain rfl := Option.some.inj (before.symm.trans isLast)
        have target : selected.toNodeId = event.work.nodeId :=
          congrArg ParallelBranchNodeCursor.nodeId (Option.some.inj expects)
        rwa [← target]
      | _ => cases expects
  | transitionSelected source edge =>
    simp only [StyleParallelEvent.entered?, Option.map_none, Option.toList_none, List.append_nil]
    exact ⟨⟨_, walked, source ▸ edge⟩, walks⟩
  | started step =>
    simp only [StyleParallelEvent.entered?, Option.map_none, Option.toList_none, List.append_nil]
    exact ⟨⟨walked, rfl⟩, walks⟩
  | dispatched | effectDispatched | effectOutcomeRecorded | nodeCompleted =>
    simp only [StyleParallelEvent.entered?, Option.map_none, Option.toList_none, List.append_nil]
    exact ⟨walked, walks⟩
  | nodeFailed | completed | failed =>
    simp only [StyleParallelEvent.entered?, Option.map_none, Option.toList_none, List.append_nil]
    exact ⟨trivial, walks⟩

theorem any_requestsCancellation_snoc : (events ++ [event]).any (·.requestsCancellation) =
    (events.any (·.requestsCancellation) || event.requestsCancellation) := by
  simp

theorem requestsCancellation_eq_false {branchId : String} (named : event.branchId? = some branchId) :
    event.requestsCancellation = false := by
  cases event with
  | cancellationRequested => cases named
  | _ => rfl

/-- A step in one branch keeps the invariant. -/
theorem ReplayInvariant.stepped {branchId : String} {before after : ParallelBranchReplayRecord}
    (invariant : ReplayInvariant execution.graph events parallel)
    (stepped : BranchStepped execution parallel event next branchId before after) :
    ReplayInvariant execution.graph (events ++ [event]) next := by
  have lookup (other : String) : next.branches[other]? =
      if branchId = other then some after else parallel.branches[other]? := by
    rw [stepped.updated, StringMap.getElem?_insert']
  have requested : next.cancellationRequestedAt = parallel.cancellationRequestedAt := by rw [stepped.updated]
  have others {other : String} (is : branchId ≠ other) :
      enteredNodes other (events ++ [event]) = enteredNodes other events := by
    rw [enteredNodes_snoc, entered?_eq_none (stepped.named ▸ fun same => is (Option.some.inj same)), Option.map_none,
      Option.toList_none, List.append_nil]
  have own := stepped.control.walked stepped.named (invariant.walked branchId before stepped.found)
    (invariant.walks branchId before stepped.found)
  rw [← stepped.region] at own
  refine ⟨stepped.embedded.keyed invariant.keyed, fun other => ?_, fun other absent => ?_, ?_, ?_, ?_, ?_, ?_⟩
  · have corresponds := (invariant.corresponds branchId).symm
    rw [phase?, stepped.found, Option.map_some] at corresponds
    rw [stepped.embedded.phase corresponds, phase?, lookup]
    split
    · rfl
    · exact invariant.corresponds other
  · rw [lookup] at absent
    split at absent
    · cases absent
    · next is => exact others is ▸ invariant.unknown other absent
  · intro other branch found
    rw [lookup] at found
    split at found
    · next is => exact is ▸ Option.some.inj found ▸ own.1
    · next is => exact others is ▸ invariant.walked other branch found
  · intro other branch found
    rw [lookup] at found
    split at found
    · next is => exact is ▸ Option.some.inj found ▸ own.2
    · next is => exact others is ▸ invariant.walks other branch found
  · rw [requested, invariant.requested, any_requestsCancellation_snoc, requestsCancellation_eq_false stepped.named,
      Bool.or_false]
  · refine eachFollows_snoc.mpr ⟨invariant.silent, fun progresses => ?_⟩
    have none_ := invariant.requested
    rw [stepped.uncancelled progresses, Option.isSome_none] at none_
    simpa using none_.symm
  · intro uncompleted other branch found
    rw [stepped.updated] at uncompleted
    rw [lookup] at found
    split at found
    · rw [← Option.some.inj found, stepped.suppressed]
      exact invariant.unsuppressed uncompleted branchId before stepped.found
    · exact invariant.unsuppressed uncompleted other branch found

theorem enteredNodes_of_silent {branchId : String} (silent : event.branchId? = none) :
    enteredNodes branchId (events ++ [event]) = enteredNodes branchId events := by
  rw [enteredNodes_snoc, entered?_eq_none (silent ▸ (Option.some_ne_none _).symm), Option.map_none,
    Option.toList_none, List.append_nil]

theorem ReplayInvariant.walked_of_map {change : String → ParallelBranchReplayRecord → ParallelBranchReplayRecord}
    (invariant : ReplayInvariant execution.graph events parallel) (silent : event.branchId? = none)
    (changed : ∀ branchId : String,
      next.branches[branchId]? = parallel.branches[branchId]?.map (change branchId))
    (region : ∀ branchId branch, (change branchId branch).region = branch.region)
    (control : ∀ branchId branch, (change branchId branch).control = branch.control ∨
      (change branchId branch).control.phase.hasEnded) :
    (∀ branchId : String, next.branches[branchId]? = none → enteredNodes branchId (events ++ [event]) = []) ∧
      ∀ (branchId : String) branch, next.branches[branchId]? = some branch →
        branch.control.Walked execution.graph branch.region (enteredNodes branchId (events ++ [event])) ∧
          BranchWalk execution.graph branch.region (enteredNodes branchId (events ++ [event])) := by
  refine ⟨fun branchId absent => ?_, fun branchId branch found => ?_⟩
  · rw [changed, Option.map_eq_none_iff] at absent
    rw [enteredNodes_of_silent silent]
    exact invariant.unknown branchId absent
  · rw [changed] at found
    obtain ⟨before, known, rfl⟩ := Option.map_eq_some_iff.mp found
    rw [enteredNodes_of_silent silent, region]
    refine ⟨?_, invariant.walks branchId before known⟩
    rcases control branchId before with same | ended
    · rw [same]
      exact invariant.walked branchId before known
    · generalize (change branchId before).control = control at ended
      cases control with
      | terminal => trivial
      | _ => cases ended

theorem ReplayInvariant.cancelling (invariant : ReplayInvariant execution.graph events parallel)
    (silent : event.branchId? = none) (progresses : event.progresses = false) (requests : event.requestsCancellation)
    (done : CancellationRequested parallel sequence next) :
    ReplayInvariant execution.graph (events ++ [event]) next := by
  obtain ⟨unknown, walked⟩ := invariant.walked_of_map silent done.branches
    (fun branchId branch => by split <;> rfl) fun branchId branch => .inl (by split <;> rfl)
  have embedded : next.execution = parallel.execution := by rw [done.updated]
  refine ⟨embedded ▸ invariant.keyed, fun branchId => ?_, unknown, fun branchId branch found =>
    (walked branchId branch found).1, fun branchId branch found => (walked branchId branch found).2, ?_, ?_, ?_⟩
  · rw [embedded, ← invariant.corresponds branchId, phase?, phase?, done.branches, Option.map_map]
    refine Option.map_congr fun branch _ => ?_
    rw [Function.comp_apply]
    split <;> rfl
  · rw [done.requested, any_requestsCancellation_snoc, requests, Bool.or_true]
    rfl
  · exact eachFollows_snoc.mpr ⟨invariant.silent, fun moves => absurd (progresses ▸ moves) Bool.false_ne_true⟩
  · intro uncompleted branchId branch found
    rw [done.updated] at uncompleted
    rw [done.branches] at found
    obtain ⟨before, known, rfl⟩ := Option.map_eq_some_iff.mp found
    rw [← invariant.unsuppressed uncompleted branchId before known]
    split <;> rfl

/-- The completion of a cancellation keeps the invariant. -/
theorem ReplayInvariant.cancelled (invariant : ReplayInvariant execution.graph events parallel)
    (silent : event.branchId? = none) (progresses : event.progresses = false)
    (requests : event.requestsCancellation = false) (done : CancellationCompleted parallel sequence next) :
    ReplayInvariant execution.graph (events ++ [event]) next := by
  obtain ⟨unknown, walked⟩ := invariant.walked_of_map silent done.branches
    (fun branchId branch => by split <;> rfl) fun branchId branch => by
      split
      · exact .inr rfl
      · exact .inl rfl
  obtain ⟨code, embedded⟩ := done.embedded
  refine ⟨fun branchId branch found => ?_, fun branchId => ?_, unknown, fun branchId branch found =>
    (walked branchId branch found).1, fun branchId branch found => (walked branchId branch found).2, ?_, ?_, ?_⟩
  · rw [embedded] at found
    obtain ⟨before, known, rfl⟩ := Option.map_eq_some_iff.mp found
    rw [← invariant.keyed branchId before known]
    split <;> rfl
  · have corresponds := invariant.corresponds branchId
    rw [phase?] at corresponds ⊢
    rw [embedded, done.branches]
    cases known : parallel.execution.branches[branchId]? with
    | none =>
      rw [known, Option.map_none, Option.map_eq_none_iff] at corresponds
      rw [corresponds]
      rfl
    | some branch =>
      rw [known] at corresponds
      obtain ⟨record, found, same⟩ := Option.map_eq_some_iff.mp corresponds
      rw [found, Option.map_some, Option.map_some, Option.map_some, Option.map_some, Option.any_some]
      split
      · rfl
      · exact congrArg some same
  · rw [any_requestsCancellation_snoc, requests, Bool.or_false, ← invariant.requested, done.updated]
  · exact eachFollows_snoc.mpr ⟨invariant.silent, fun moves => absurd (progresses ▸ moves) Bool.false_ne_true⟩
  · intro uncompleted
    rw [done.completed] at uncompleted
    cases uncompleted

theorem ReplayInvariant.moved [StyleSerde] [ParallelSerde] [Hashing]
    (invariant : ReplayInvariant execution.graph events parallel)
    (moves : ParallelMoves execution sequence parallel event next) :
    ReplayInvariant execution.graph (events ++ [event]) next := by
  cases moves.moved invariant.keyed with
  | branch stepped => exact invariant.stepped stepped
  | requested silent progresses requests allocated done =>
    exact invariant.cancelling silent progresses requests done
  | completed silent progresses requests completes allocated done =>
    exact invariant.cancelled silent progresses requests done

end Moved

/-- A later state of a parallel execution has the same branches, and keeps those that had ended. -/
structure ParallelContinues (parallel later : CanonicalParallelExecutionState) : Prop where
  kept : parallel.KeepsEnded later
  known : ∀ branchId : String, later.branches[branchId]? = none ↔ parallel.branches[branchId]? = none

theorem ParallelContinues.refl {parallel : CanonicalParallelExecutionState} : ParallelContinues parallel parallel :=
  ⟨fun _ _ found _ => ⟨found, rfl⟩, fun _ => Iff.rfl⟩

theorem ParallelContinues.trans {first second third : CanonicalParallelExecutionState} (before : ParallelContinues first second)
    (after : ParallelContinues second third) : ParallelContinues first third := by
  refine ⟨fun branchId branch found ended => ?_, fun branchId => (after.known branchId).trans (before.known branchId)⟩
  obtain ⟨record, embedded⟩ := before.kept branchId branch found ended
  obtain ⟨record, still⟩ := after.kept branchId branch record ended
  exact ⟨record, still.trans embedded⟩

section Kept

variable {execution : StyleExecutionState} {sequence : Sequence} {parallel next : CanonicalParallelExecutionState}
  {event : StyleParallelEvent}

theorem incomplete_eq_false_of_hasEnded (corresponds : parallel.Corresponds) {branchId : String}
    {branch : ParallelBranchReplayRecord} (found : parallel.branches[branchId]? = some branch)
    (ended : branch.control.phase.hasEnded) :
    parallel.execution.branches[branchId]?.any (·.state.isIncomplete) = false := by
  have same := corresponds branchId
  rw [phase?, found, Option.map_some] at same
  obtain ⟨embedded, known, phase⟩ := Option.map_eq_some_iff.mp same.symm
  rw [← phase, ParallelBranchState.hasEnded_phase, Bool.not_eq_true'] at ended
  rw [known, Option.any_some, ended]

theorem BranchStepped.continues {branchId : String} {before after : ParallelBranchReplayRecord}
    (stepped : BranchStepped execution parallel event next branchId before after) : ParallelContinues parallel next := by
  have lookup (other : String) : next.branches[other]? =
      if branchId = other then some after else parallel.branches[other]? := by
    rw [stepped.updated, StringMap.getElem?_insert']
  refine ⟨fun other branch found ended => ?_, fun other => ?_⟩
  · have apart : branchId ≠ other := by
      rintro rfl
      rw [stepped.found] at found
      exact stepped.control.incomplete (Option.some.inj found ▸ ended)
    rw [lookup, if_neg apart]
    refine ⟨found, ?_⟩
    cases stepped.embedded with
    | kept same => rw [same]
    | moved changes named => rw [changes.lookup, named, if_neg apart]
  · rw [lookup]
    split
    · next is => simp [← is, stepped.found]
    · rfl

theorem ParallelMoves.continues [StyleSerde] [ParallelSerde] [Hashing]
    (moves : ParallelMoves execution sequence parallel event next) (keyed : Keyed parallel.execution)
    (corresponds : parallel.Corresponds) : ParallelContinues parallel next := by
  cases moves.moved keyed with
  | branch stepped => exact stepped.continues
  | requested _ _ _ _ done =>
    refine ⟨fun branchId branch found ended => ?_, fun branchId => ?_⟩
    · have complete := incomplete_eq_false_of_hasEnded corresponds found ended
      rw [done.branches, found, Option.map_some, complete, done.updated]
      exact ⟨rfl, rfl⟩
    · rw [done.branches, Option.map_eq_none_iff]
  | completed _ _ _ _ _ done =>
    refine ⟨fun branchId branch found ended => ?_, fun branchId => ?_⟩
    · have complete := incomplete_eq_false_of_hasEnded corresponds found ended
      obtain ⟨code, embedded⟩ := done.embedded
      rw [done.branches, found, Option.map_some, complete, embedded]
      refine ⟨rfl, ?_⟩
      cases known : parallel.execution.branches[branchId]? with
      | none => rfl
      | some record =>
        rw [known, Option.any_some] at complete
        rw [Option.map_some, complete]
        rfl
    · rw [done.branches, Option.map_eq_none_iff]

theorem CancellationCompleted.stops {graph : ExecutableGraph} {events : List StyleParallelEvent}
    (done : CancellationCompleted parallel sequence next) (invariant : ReplayInvariant graph events parallel) :
    parallel.Stops next := by
  intro branchId
  rw [done.branches, phase?]
  cases found : parallel.branches[branchId]? with
  | none => rfl
  | some branch =>
    have same := invariant.corresponds branchId
    rw [phase?, found, Option.map_some] at same
    obtain ⟨embedded, known, phase⟩ := Option.map_eq_some_iff.mp same.symm
    have unsuppressed := invariant.unsuppressed done.uncompleted branchId branch found
    rw [known, Option.any_some, Option.any_some, Option.map_some, Option.map_some, Option.map_some, Option.map_some,
      ← phase, ParallelBranchState.holdsSlot_phase]
    split
    · -- The cancellation ends the branch, and suppresses it if it holds a slot.
      cases embedded.state.isActive <;> simp [ParallelBranchControlState.phase, ParallelBranchPhase.hasEnded,
        unsuppressed]
    · next ended =>
      have idle : embedded.state.isActive = false := by
        cases state : embedded.state with
        | dispatched | running => rw [state] at ended; exact absurd rfl ended
        | _ => rfl
      rw [← phase, ParallelBranchState.hasEnded_phase, unsuppressed, idle, Bool.eq_false_of_not_eq_true ended]
      rfl

theorem CanonicalParallelExecutionState.Stops.continued {later : CanonicalParallelExecutionState}
    (stops : parallel.Stops next) (continues : ParallelContinues next later) : parallel.Stops later := by
  intro branchId
  rw [← stops branchId]
  cases found : next.branches[branchId]? with
  | none => rw [(continues.known branchId).mpr found]
  | some branch =>
    have ended := stops branchId
    rw [found, Option.map_some, eq_comm] at ended
    obtain ⟨phase, -, same⟩ := Option.map_eq_some_iff.mp ended
    rw [(continues.kept branchId branch found (Prod.mk.inj same).1.symm).1]

end Kept

section Replay

variable [StyleSerde] [ParallelSerde] [VariableSerde] [Hashing] [EventChecksum (SessionPayload StyleEvent)]

variable {state : Session SessionStyleExecution} {events : List StyleSessionEvent} {key : String}

theorem replayInvariant_of_replay (replayed : replay events = .ok state) :
    (StyleExecutionState.fanOut? key state.part.styleExecution = none → fanOutEvents key events = []) ∧
      ∀ graph parallel, StyleExecutionState.fanOut? key state.part.styleExecution = some (graph, parallel) →
        ReplayInvariant graph (fanOutEvents key events) parallel :=
  fanOut_invariant replayed (fun _ _ _ begun => begun.replayInvariant) fun _ _ _ _ _ _ invariant moves =>
    invariant.moved moves

theorem continues_of_replay {later : List StyleSessionEvent} {middle : Session SessionStyleExecution}
    {graph : ExecutableGraph} {parallel : CanonicalParallelExecutionState} (before : replay events = .ok middle)
    (known : StyleExecutionState.fanOut? key middle.part.styleExecution = some (graph, parallel))
    (replayed : replay (events ++ later) = .ok state) : ∃ last,
      StyleExecutionState.fanOut? key state.part.styleExecution = some (graph, last) ∧ ParallelContinues parallel last := by
  induction later using List.reverseRecOn generalizing state with
  | nil =>
    rw [List.append_nil, before] at replayed
    cases replayed
    exact ⟨parallel, known, .refl⟩
  | append_singleton later event ih =>
    rw [← List.append_assoc, replay_snoc] at replayed
    rcases replayed with ⟨empty, -⟩ | ⟨last, reached, step⟩
    · rw [(List.append_eq_nil_iff.mp empty).1] at before
      cases before
    · obtain ⟨current, present, continues⟩ := ih reached
      have invariant := (replayInvariant_of_replay reached).2 graph current present
      have stepped := step.fanOut key
      rw [present] at stepped
      generalize StyleSessionEvent.fanOut? key event = fanOut at stepped
      generalize after : StyleExecutionState.fanOut? key state.part.styleExecution = result at stepped
      cases stepped with
      | kept => exact ⟨current, rfl, continues⟩
      | moved moves =>
        exact ⟨_, rfl, continues.trans (moves.continues invariant.keyed invariant.corresponds)⟩

omit [StyleSerde] [ParallelSerde] [VariableSerde] [Hashing] [EventChecksum (SessionPayload StyleEvent)] in
theorem fanOut?_eq_some {graph : ExecutableGraph} {parallel : CanonicalParallelExecutionState} :
    StyleExecutionState.fanOut? key state.part.styleExecution = some (graph, parallel) ↔
      ∃ execution, state.part.styleExecution = some execution ∧ execution.graph = graph ∧
        execution.parallelExecutions[key]? = some parallel := by
  simp only [StyleExecutionState.fanOut?, Option.bind_eq_some_iff, Option.map_eq_some_iff, Prod.mk.injEq]
  constructor
  · rintro ⟨execution, present, _, known, rfl, rfl⟩
    exact ⟨execution, present, rfl, known⟩
  · rintro ⟨execution, present, rfl, known⟩
    exact ⟨execution, present, parallel, known, rfl, rfl⟩

omit [StyleSerde] [ParallelSerde] [VariableSerde] [Hashing] [EventChecksum (SessionPayload StyleEvent)] in
theorem parallel?_eq_some {parallel : CanonicalParallelExecutionState} : state.parallel? key = some parallel ↔
    ∃ graph, StyleExecutionState.fanOut? key state.part.styleExecution = some (graph, parallel) := by
  simp only [fanOut?_eq_some, Session.parallel?, Option.bind_eq_some_iff]
  constructor
  · rintro ⟨execution, present, known⟩
    exact ⟨_, execution, present, rfl, known⟩
  · rintro ⟨_, execution, present, -, known⟩
    exact ⟨execution, present, known⟩

theorem stops_of_step {next : Session SessionStyleExecution} {event : StyleSessionEvent}
    (replayed : replay events = .ok state) (step : SessionStep state event next)
    (completes : (StyleSessionEvent.fanOut? key event).any (·.completesCancellation)) :
    ∃ graph before after, StyleExecutionState.fanOut? key state.part.styleExecution = some (graph, before) ∧
      StyleExecutionState.fanOut? key next.part.styleExecution = some (graph, after) ∧ before.Stops after := by
  have invariant : ∀ graph parallel,
      StyleExecutionState.fanOut? key state.part.styleExecution = some (graph, parallel) →
        ReplayInvariant graph (fanOutEvents key events) parallel := (replayInvariant_of_replay replayed).2
  have stepped := step.fanOut key
  generalize StyleExecutionState.fanOut? key state.part.styleExecution = source at stepped invariant
  generalize StyleSessionEvent.fanOut? key event = fanOut at stepped completes
  generalize StyleExecutionState.fanOut? key next.part.styleExecution = target at stepped
  cases stepped with
  | kept => exact absurd completes Bool.false_ne_true
  | begun => exact absurd completes Bool.false_ne_true
  | @moved execution sequence event before after moves =>
    have invariant := invariant _ _ rfl
    refine ⟨_, before, after, rfl, rfl, ?_⟩
    cases moves.moved invariant.keyed with
    | branch stepped =>
      have named := stepped.named
      cases event with
      | cancellationCompleted => cases named
      | _ => exact absurd completes Bool.false_ne_true
    | requested _ _ requests =>
      cases event with
      | cancellationCompleted => exact absurd requests Bool.false_ne_true
      | _ => exact absurd completes Bool.false_ne_true
    | completed _ _ _ _ _ done => exact done.stops invariant

/-- Over any replayed events, the branches of every parallel execution correspond to those of the embedded one,
walk through their regions, do not move once cancellation was requested, have all ended once it is completed, and
never change once they have ended; and no parallel execution is lost. -/
theorem parallel_replay_accounted (events : List StyleSessionEvent) (state : Session SessionStyleExecution)
    (replayed : replay events = .ok state) (key : String) :
    (∀ execution parallel, state.part.styleExecution = some execution →
      execution.parallelExecutions[key]? = some parallel →
        ParallelReplayed events execution.graph key parallel) ∧
      ∀ earlier later (middle : Session SessionStyleExecution) before, events = earlier ++ later →
        replay earlier = .ok middle → middle.parallel? key = some before →
          ∃ parallel, state.parallel? key = some parallel := by
  refine ⟨fun execution parallel present known => ?_, ?_⟩
  · have here := fanOut?_eq_some.mpr ⟨execution, present, rfl, known⟩
    have invariant := (replayInvariant_of_replay replayed).2 _ _ here
    refine ⟨invariant.corresponds, fun branchId => ?_, invariant.silent, ?_, ?_⟩
    · cases found : parallel.branches[branchId]? with
      | none => exact .inl (invariant.unknown branchId found)
      | some branch => exact .inr ⟨branch, rfl, invariant.walks branchId branch found⟩
    · rintro earlier event later rfl completes
      have split : earlier ++ event :: later = (earlier ++ [event]) ++ later := by simp
      rw [split] at replayed
      obtain ⟨next, reached⟩ := replay_front (by simp) replayed
      rcases replay_snoc.mp reached with ⟨-, created⟩ | ⟨middle, reachedBefore, step⟩
      · obtain ⟨_, carried⟩ := exists_of_reduce_none created
        rw [StyleSessionEvent.fanOut?, StyleSessionEvent.parallel?, StyleSessionEvent.style?, carried] at completes
        exact absurd completes Bool.false_ne_true
      · obtain ⟨graph, before, after, source, target, stops⟩ := stops_of_step reachedBefore step completes
        refine ⟨middle, before, reachedBefore, parallel?_eq_some.mpr ⟨graph, source⟩, ?_⟩
        obtain ⟨last, present, continues⟩ := continues_of_replay reached target replayed
        obtain ⟨-, rfl⟩ := Prod.mk.inj (Option.some.inj (here.symm.trans present))
        exact stops.continued continues
    · rintro earlier later middle before rfl reached source
      obtain ⟨graph, source⟩ := parallel?_eq_some.mp source
      obtain ⟨last, present, continues⟩ := continues_of_replay reached source replayed
      obtain ⟨-, rfl⟩ := Prod.mk.inj (Option.some.inj (here.symm.trans present))
      exact continues.kept
  · rintro earlier later middle before rfl reached source
    obtain ⟨graph, source⟩ := parallel?_eq_some.mp source
    obtain ⟨last, present, -⟩ := continues_of_replay reached source replayed
    exact ⟨last, parallel?_eq_some.mpr ⟨graph, present⟩⟩

end Replay

section Sample

attribute [local instance] plainChecksum plainVariables plainSerde prefixHash fanStyle

/-- The replay of a session that has begun to fan out. -/
instance begunFanOut_replayed : Fact (returns (replay begunFanOut : Reducing (Session SessionStyleExecution))
    (·.part.styleExecution.any (·.parallelExecutions.contains (fanKey 1))) = true) where
  out := by decide +kernel

/-- A session that has begun to fan out. -/
theorem parallel_replay_accounted_begunFanOut :
    ∃ (state : Session SessionStyleExecution) (execution : StyleExecutionState) (parallel : _),
      replay begunFanOut = .ok state ∧ state.part.styleExecution = some execution ∧
        execution.parallelExecutions[fanKey 1]? = some parallel ∧
          ParallelReplayed begunFanOut execution.graph (fanKey 1) parallel := by
  obtain ⟨state, replayed, present⟩ := returns_eq_true.mp begunFanOut_replayed.out
  obtain ⟨execution, present, known⟩ := (Option.any_eq_true _ _).mp present
  obtain ⟨parallel, known⟩ := StringMap.contains_iff.mp known
  exact ⟨state, execution, parallel, replayed, present, known,
    (parallel_replay_accounted begunFanOut state replayed (fanKey 1)).1 execution parallel present known⟩

end Sample

end AgentMod
