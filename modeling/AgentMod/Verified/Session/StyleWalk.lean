import AgentMod.Verified.Session.StyleControl
import AgentMod.Verified.Session.StyleParallel
import AgentMod.Session.StyleSample

/-! Every style execution that is replayed walks through its compiled graph. -/

namespace AgentMod

open StyleExecutionState

/-- An initialized style execution. -/
structure StyleBegun (initialized : StyleExecutionInitializedEvent) (execution : StyleExecutionState) :
    Prop where
  valid : initialized.graph.validCompiled
  graph : execution.graph = initialized.graph
  contract : execution.executionContract = initialized.executionContract
  archived : execution.completedTurnRuns = []
  control : execution.control = .readyForEntry (initialized.graph.restartCursor 1)
  idle : execution.activeNode = none
  completed : execution.completedNodes = []
  reason : execution.terminationReason = none
  parallel : execution.parallelExecutions = ∅

/-- What an event means for the root of a style execution. -/
inductive RootStepped : Option StyleExecutionState → Option StyleRootEvent → Option StyleExecutionState → Prop where
  /-- There is no style execution. -/
  | absent : RootStepped none none none
  /-- Other events change parallel executions and variables only. -/
  | kept {execution : StyleExecutionState} {parallelExecutions : StringMap CanonicalParallelExecutionState}
      {canonicalVariables : Option CanonicalVariableEventReducer} :
      RootStepped (some execution) none
        (some { execution with parallelExecutions, canonicalVariables })
  /-- The first root event initializes the style execution. -/
  | begun {initialized : StyleExecutionInitializedEvent} {execution : StyleExecutionState}
      (begun : StyleBegun initialized execution) :
      RootStepped none (some (.initialized initialized)) (some execution)
  | moved {execution next : StyleExecutionState} {event : StyleRootEvent}
      (moves : RootMoves execution event next) : RootStepped (some execution) (some event) (some next)

theorem rootEvents_snoc {events : List StyleSessionEvent} {event : StyleSessionEvent} :
    rootEvents (events ++ [event]) = rootEvents events ++ (StyleSessionEvent.root? event).toList := by
  rw [rootEvents, List.filterMap_append]
  cases found : StyleSessionEvent.root? event <;> simp [rootEvents, found]

section Step

variable [StyleSerde] [ParallelSerde] [VariableSerde] [Hashing] [EventChecksum (SessionPayload StyleEvent)]

variable {state next : Session SessionStyleExecution} {event : StyleSessionEvent}

omit [ParallelSerde] [EventChecksum (SessionPayload StyleEvent)] in
theorem begun_of_initializeStyleExecution {current : Option StyleExecutionState}
    {initialized : StyleExecutionInitializedEvent} {execution : StyleExecutionState}
    (begins : initializeStyleExecution state current initialized = .ok execution) :
    current = none ∧ StyleBegun initialized execution := by
  simp only [initializeStyleExecution, bind_eq_ok, exists_unit, refuseIf_eq_ok, pure_eq_ok,
    Bool.not_eq_true, Option.isSome_eq_false_iff, Option.isNone_iff_eq_none, Bool.not_eq_true',
    Bool.not_eq_false] at begins
  obtain ⟨absent, valid, -, _, -, rfl⟩ := begins
  exact ⟨absent, valid, rfl, rfl, rfl, rfl, rfl, rfl, rfl, rfl⟩

omit [ParallelSerde] [EventChecksum (SessionPayload StyleEvent)] in
/-- What an accepted root event does. -/
theorem stepped_of_applyStyleRoot {part : SessionStyleExecution} {result : SessionStyleExecution}
    {metadata : EventMetadata} {checksum : ContentHash} {event : StyleRootEvent}
    (applied : applyStyleRoot state part metadata checksum event = .ok result) :
    RootStepped part.styleExecution (some event) result.styleExecution := by
  cases event with
  | initialized initialized =>
    simp only [applyStyleRoot, bind_eq_ok, pure_eq_ok] at applied
    obtain ⟨execution, begins, rfl⟩ := applied
    obtain ⟨absent, begun⟩ := begun_of_initializeStyleExecution begins
    rw [absent]
    exact .begun begun
  | turnInitialized initialized =>
    simp only [applyStyleRoot, bind_eq_ok, okOr_eq_ok, pure_eq_ok] at applied
    obtain ⟨execution, present, moved, moves, rfl⟩ := applied
    rw [present]
    exact .moved (initializeStyleTurn_moves moves)
  | nodeEntered entered =>
    simp only [applyStyleRoot, bind_eq_ok, okOr_eq_ok, pure_eq_ok] at applied
    obtain ⟨execution, present, moved, moves, rfl⟩ := applied
    rw [present]
    exact .moved (enterNode_moves moves)
  | nodeCompleted completed evidence =>
    simp only [applyStyleRoot, bind_eq_ok, okOr_eq_ok, pure_eq_ok] at applied
    obtain ⟨execution, present, moved, moves, rfl⟩ := applied
    rw [present]
    exact .moved (completeNode_moves moves)
  | nodeFailed failed =>
    simp only [applyStyleRoot, bind_eq_ok, okOr_eq_ok, pure_eq_ok] at applied
    obtain ⟨execution, present, moved, moves, rfl⟩ := applied
    rw [present]
    exact .moved (failNode_moves moves)
  | transitionSelected selected =>
    simp only [applyStyleRoot, bind_eq_ok, okOr_eq_ok, pure_eq_ok] at applied
    obtain ⟨execution, present, moved, moves, _, -, rfl⟩ := applied
    rw [present]
    exact .moved (selectTransition_moves moves)
  | terminated terminated =>
    simp only [applyStyleRoot, bind_eq_ok, okOr_eq_ok, pure_eq_ok] at applied
    obtain ⟨execution, present, moved, moves, rfl⟩ := applied
    rw [present]
    exact .moved (terminate_moves moves)

theorem SessionStep.root (step : SessionStep state event next) :
    RootStepped state.part.styleExecution (StyleSessionEvent.root? event) next.part.styleExecution := by
  rcases step.part with ⟨same, others⟩ | ⟨payload, carried, applied⟩
  · have unknown : StyleSessionEvent.root? event = none := by
      rw [StyleSessionEvent.root?, StyleSessionEvent.style?]
      cases carried : event.payload with
      | part payload => exact absurd carried (others payload)
      | _ => rfl
    rw [same, unknown]
    cases state.part.styleExecution with
    | none => exact .absent
    | some execution => exact .kept
  · rw [StyleSessionEvent.root?, StyleSessionEvent.style?, carried]
    cases payload with
    | root event => exact stepped_of_applyStyleRoot applied
    | parallel event =>
      obtain ⟨execution, present, applied⟩ := bind_eq_ok.mp applied
      obtain ⟨moved, moves, returned⟩ := bind_eq_ok.mp applied
      rw [okOr_eq_ok.mp present, ← pure_eq_ok.mp returned,
        (stepped_of_applyStyleParallel moves).root]
      exact .kept
    | other canonicalVariables =>
      rw [← pure_eq_ok.mp applied]
      cases state.part.styleExecution with
      | none => exact .absent
      | some execution => exact .kept

theorem styleExecution_of_reduce_none (created : reduce (none : Option (Session SessionStyleExecution)) event =
    .ok state) : state.part.styleExecution = none ∧ StyleSessionEvent.root? event = none := by
  rw [part_of_reduce_none created, StyleSessionEvent.root?, StyleSessionEvent.style?]
  obtain ⟨_, carried⟩ := exists_of_reduce_none created
  rw [carried]
  exact ⟨rfl, rfl⟩

/-- What holds of the root events and the style execution, when the latter begins and behind whatever moves it,
holds of whatever is replayed. -/
theorem rootEvents_invariant {motive : List StyleRootEvent → StyleExecutionState → Prop}
    {events : List StyleSessionEvent} (replayed : replay events = .ok state)
    (begins : ∀ initialized execution, StyleBegun initialized execution →
      motive [.initialized initialized] execution)
    (keeps : ∀ roots execution parallelExecutions canonicalVariables, motive roots execution →
      motive roots { execution with parallelExecutions, canonicalVariables })
    (moves : ∀ roots execution event next, motive roots execution → RootMoves execution event next →
      motive (roots ++ [event]) next) :
    (state.part.styleExecution = none → rootEvents events = []) ∧
      ∀ execution, state.part.styleExecution = some execution → motive (rootEvents events) execution := by
  refine replay_invariant (motive := fun events state =>
    (state.part.styleExecution = none → rootEvents events = []) ∧
      ∀ execution, state.part.styleExecution = some execution → motive (rootEvents events) execution)
    replayed ?_ ?_
  · intro first start created
    obtain ⟨absent, unknown⟩ := styleExecution_of_reduce_none created
    rw [absent, ← List.nil_append [first], rootEvents_snoc, unknown]
    exact ⟨fun _ => rfl, fun _ same => absurd same (Option.some_ne_none _).symm⟩
  · intro earlier state event next ⟨empty, holds⟩ step
    have stepped := step.root
    rw [rootEvents_snoc]
    generalize state.part.styleExecution = before at stepped empty holds
    generalize StyleSessionEvent.root? event = root at stepped
    generalize next.part.styleExecution = after at stepped
    cases stepped with
    | absent =>
      rw [empty rfl]
      exact ⟨fun _ => rfl, fun _ same => absurd same (Option.some_ne_none _).symm⟩
    | kept =>
      refine ⟨fun same => absurd same (Option.some_ne_none _), fun _ same => ?_⟩
      rw [← Option.some.inj same, Option.toList_none, List.append_nil]
      exact keeps _ _ _ _ (holds _ rfl)
    | begun begun =>
      refine ⟨fun same => absurd same (Option.some_ne_none _), fun _ same => ?_⟩
      rw [← Option.some.inj same, empty rfl]
      exact begins _ _ begun
    | moved moved =>
      refine ⟨fun same => absurd same (Option.some_ne_none _), fun _ same => ?_⟩
      rw [← Option.some.inj same]
      exact moves _ _ _ _ (holds _ rfl) moved

end Step

/-- What the control says about the root event that came last. -/
def StyleExecutionControlState.Recalls (graph : ExecutableGraph) (last : Option StyleRootEvent) :
    StyleExecutionControlState → Prop
  | .readyForEntry cursor => ∃ previous, last = some previous ∧ graph.Restarts previous ∧
      cursor.nodeId = graph.entryNodeId ∧ cursor.loopIteration = 0
  | .active entered => last = some (.nodeEntered entered)
  | .awaitingTransition completed => ∃ evidence, last = some (.nodeCompleted completed evidence)
  | .awaitingDestinationEntry selected => last = some (.transitionSelected selected)
  | .terminal _ => True

/-- The node that a control has active. -/
def StyleExecutionControlState.active? : StyleExecutionControlState → Option StyleNodeEnteredEvent
  | .active entered => some entered
  | _ => none

/-- The invariant of root execution. -/
structure WalkInvariant (roots : List StyleRootEvent) (execution : StyleExecutionState) : Prop where
  active : execution.activeNode = execution.control.active?
  recalls : execution.control.Recalls execution.graph roots.getLast?
  follows : EachFollows (RootFollows execution.graph) roots

theorem StyleExecutionControlState.active?_eq_some {control : StyleExecutionControlState}
    {entered : StyleNodeEnteredEvent} : control.active? = some entered ↔ control = .active entered := by
  cases control <;> simp [active?]

theorem WalkInvariant.begun {initialized : StyleExecutionInitializedEvent} {execution : StyleExecutionState}
    (begun : StyleBegun initialized execution) : WalkInvariant [.initialized initialized] execution where
  active := by rw [begun.idle, begun.control]; rfl
  recalls := by
    rw [begun.control, begun.graph]
    exact ⟨_, rfl, trivial, rfl, rfl⟩
  follows := by
    rw [← List.nil_append [_], eachFollows_snoc]
    exact ⟨.nil, trivial⟩

/-- A root move follows from the last root event, and leaves a control that recalls the move. -/
theorem WalkInvariant.moved {roots : List StyleRootEvent} {execution next : StyleExecutionState}
    {event : StyleRootEvent} (invariant : WalkInvariant roots execution)
    (moves : RootMoves execution event next) : WalkInvariant (roots ++ [event]) next := by
  obtain ⟨active, recalls, follows⟩ := invariant
  cases moves with
  | turnInitialized =>
    refine ⟨rfl, ?_, eachFollows_snoc.mpr ⟨follows, trivial⟩⟩
    exact ⟨_, List.getLast?_concat, trivial, rfl, rfl⟩
  | nodeEntered expects valid =>
    refine ⟨rfl, List.getLast?_concat, eachFollows_snoc.mpr ⟨follows, ?_⟩⟩
    -- The entry restarts, or leads to the destination of the selected transition.
    rcases expectedEntry_eq_ok.mp expects with ready | ⟨selected, loopIteration, base, heads, iterates, -, -, rfl⟩
    · rw [ready] at recalls
      obtain ⟨previous, last, restarts, entry, outside⟩ := recalls
      exact ⟨previous, last, .restart restarts entry outside⟩
    · rw [heads] at recalls
      refine ⟨_, recalls, .destination rfl ?_ ?_⟩
      · intro leaves
        rcases transitionLoopIteration_eq_ok.mp iterates with ⟨-, -, same⟩ | ⟨stays, -⟩
        · exact same
        · exact absurd leaves stays
      · intro stays
        rcases transitionLoopIteration_eq_ok.mp iterates with ⟨leaves, -⟩ | ⟨-, same⟩
        · exact absurd leaves stays
        · exact same
  | @nodeCompleted completed evidence kind control reason isActive found moves =>
    rw [isActive] at recalls
    have follows := eachFollows_snoc.mpr ⟨follows, show RootFollows execution.graph roots
      (.nodeCompleted completed evidence) from ⟨_, recalls, rfl, rfl, rfl, rfl⟩⟩
    rcases moves with ⟨rfl, -, rfl⟩ | ⟨-, ended, -, -, rfl⟩ | ⟨-, -, -, rfl⟩
    · exact ⟨rfl, ⟨_, List.getLast?_concat, found, rfl, rfl⟩, follows⟩
    · exact ⟨rfl, trivial, follows⟩
    · exact ⟨rfl, ⟨evidence, List.getLast?_concat⟩, follows⟩
  | @nodeFailed failed control isActive moves =>
    rw [active, StyleExecutionControlState.active?_eq_some] at isActive
    rw [isActive] at recalls
    have follows := eachFollows_snoc.mpr ⟨follows, show RootFollows execution.graph roots
      (.nodeFailed failed) from ⟨_, recalls, rfl, rfl, rfl, rfl⟩⟩
    rcases moves with ⟨goesOn, rfl⟩ | ⟨ended, -, rfl⟩
    · exact ⟨rfl, ⟨_, List.getLast?_concat, goesOn, rfl, rfl⟩, follows⟩
    · exact ⟨rfl, trivial, follows⟩
  | transitionSelected awaits source exists_ =>
    obtain ⟨node, -, loopIteration, step⟩ := source
    rw [awaits] at recalls active
    obtain ⟨evidence, last⟩ := recalls
    refine ⟨active, List.getLast?_concat, eachFollows_snoc.mpr ⟨follows, ?_⟩⟩
    exact ⟨_, last, .completion node loopIteration step exists_⟩
  | terminated waits =>
    refine ⟨?_, trivial, eachFollows_snoc.mpr ⟨follows, trivial⟩⟩
    -- No node was active when the execution was terminated.
    rcases waits with ready | ⟨selected, heads⟩
    · cases control : execution.control with
      | readyForEntry cursor => rw [control] at active; exact active
      | _ => rw [control] at ready; exact absurd ready Bool.false_ne_true
    · rw [heads] at active
      exact active

theorem WalkInvariant.ended {roots : List StyleRootEvent} {execution next : StyleExecutionState}
    {event : StyleRootEvent} {reason : String} (invariant : WalkInvariant roots execution)
    (ended : execution.control = .terminal reason) : ¬ RootMoves execution event next := by
  intro moves
  have idle := invariant.active
  rw [ended] at idle
  cases moves with
  | turnInitialized _ ready => rw [ended] at ready; exact Bool.false_ne_true ready
  | nodeEntered expects => simp [expectedEntry_eq_ok, ended] at expects
  | nodeCompleted active => rw [ended] at active; cases active
  | nodeFailed active => rw [active] at idle; cases idle
  | transitionSelected awaits => rw [ended] at awaits; cases awaits
  | terminated waits =>
    rw [ended] at waits
    rcases waits with ready | ⟨_, heads⟩
    · exact Bool.false_ne_true ready
    · cases heads

/-- Behind an entry, only the first root event may be an outcome until the next entry. -/
theorem countP_isOutcome_le_one {graph : ExecutableGraph} {earlier middle later : List StyleRootEvent}
    {entered : StyleNodeEnteredEvent}
    (follows : EachFollows (RootFollows graph) (earlier ++ .nodeEntered entered :: (middle ++ later)))
    (noEntry : middle.countP StyleRootEvent.isEntry = 0) : middle.countP StyleRootEvent.isOutcome ≤ 1 := by
  cases middle with
  | nil => exact Nat.zero_le 1
  | cons first rest =>
    rw [List.countP_cons]
    suffices rest.countP StyleRootEvent.isOutcome = 0 by
      rw [this]
      split <;> decide
    rw [List.countP_eq_zero] at noEntry ⊢
    intro event member outcome
    obtain ⟨front, back, rfl⟩ := List.append_of_mem member
    -- The event before an outcome is its entry, but there is no further entry.
    have before := follows (earlier ++ .nodeEntered entered :: first :: front) event (back ++ later) (by simp)
    have last : ∃ previous, (earlier ++ .nodeEntered entered :: first :: front).getLast? = some previous ∧
        previous ∈ first :: front := by
      refine ⟨(first :: front).getLast (List.cons_ne_nil _ _), ?_, List.getLast_mem _⟩
      rw [List.getLast?_append_of_ne_nil _ (List.cons_ne_nil _ _), List.getLast?_cons_cons,
        List.getLast?_eq_some_getLast]
    obtain ⟨previous, last, inside⟩ := last
    have plain : ¬ previous.isEntry := noEntry previous (by
      rcases List.mem_cons.mp inside with rfl | inside
      · exact List.mem_cons_self
      · exact List.mem_cons_of_mem _ (List.mem_append_left _ inside))
    cases event with
    | nodeCompleted =>
      obtain ⟨entry, is, -⟩ := before
      rw [last] at is
      cases is
      exact plain rfl
    | nodeFailed =>
      obtain ⟨entry, is, -⟩ := before
      rw [last] at is
      cases is
      exact plain rfl
    | _ => exact absurd outcome Bool.false_ne_true

section Replay

variable [StyleSerde] [ParallelSerde] [VariableSerde] [Hashing] [EventChecksum (SessionPayload StyleEvent)]

theorem walkInvariant_of_replay {events : List StyleSessionEvent} {state : Session SessionStyleExecution}
    (replayed : replay events = .ok state) : (state.part.styleExecution = none → rootEvents events = []) ∧
      ∀ execution, state.part.styleExecution = some execution →
        WalkInvariant (rootEvents events) execution :=
  rootEvents_invariant replayed (fun _ _ => .begun) (fun _ _ _ _ invariant => ⟨invariant.1, invariant.2, invariant.3⟩)
    fun _ _ _ _ invariant moves => invariant.moved moves

theorem rootEvents_of_styleEnded {earlier later : List StyleSessionEvent}
    {middle state : Session SessionStyleExecution} (before : replay earlier = .ok middle)
    (replayed : replay (earlier ++ later) = .ok state) (ended : middle.StyleEnded) :
    state.StyleEnded ∧ rootEvents later = [] := by
  induction later using List.reverseRecOn generalizing state with
  | nil =>
    rw [List.append_nil, before] at replayed
    cases replayed
    exact ⟨ended, rfl⟩
  | append_singleton later event ih =>
    rw [← List.append_assoc, replay_snoc] at replayed
    rcases replayed with ⟨empty, -⟩ | ⟨last, reached, step⟩
    · rw [(List.append_eq_nil_iff.mp empty).1] at before
      cases before
    · obtain ⟨⟨execution, reason, present, terminal⟩, silent⟩ := ih reached
      have invariant := (walkInvariant_of_replay reached).2 execution present
      have stepped := step.root
      rw [rootEvents_snoc, silent]
      rw [present] at stepped
      generalize StyleSessionEvent.root? event = root at stepped
      generalize after : state.part.styleExecution = result at stepped
      cases stepped with
      | kept => exact ⟨⟨_, reason, after, terminal⟩, rfl⟩
      | moved moves => exact absurd moves (invariant.ended terminal)

/-- Over any replayed events, root execution is a walk through the compiled graph: a node is active exactly when
the control is, every entry restarts at the graph's entry or leads to the destination of the transition behind the
completion before it, every entry has at most one outcome, and nothing is entered once the execution has ended. -/
theorem root_execution_walks (events : List StyleSessionEvent) (state : Session SessionStyleExecution)
    (replayed : replay events = .ok state) :
    (state.part.styleExecution = none → rootEvents events = []) ∧
      (∀ execution, state.part.styleExecution = some execution → GraphWalk (rootEvents events) execution) ∧
      ∀ earlier later middle, events = earlier ++ later → replay earlier = .ok middle →
        Session.StyleEnded middle → ∀ entered, .nodeEntered entered ∉ rootEvents later := by
  obtain ⟨empty, holds⟩ := walkInvariant_of_replay replayed
  refine ⟨empty, fun execution present => ?_, ?_⟩
  · have invariant := holds execution present
    refine ⟨fun entered => ?_, invariant.follows, ?_⟩
    · rw [invariant.active, StyleExecutionControlState.active?_eq_some]
    · intro earlier entered middle later same noEntry
      have follows := invariant.follows
      rw [same] at follows
      exact countP_isOutcome_le_one follows noEntry
  · rintro earlier later middle rfl before ended entered
    rw [(rootEvents_of_styleEnded before replayed ended).2]
    exact List.not_mem_nil

end Replay

section Sample

attribute [local instance] plainChecksum plainVariables plainSerde prefixHash

/-- Events whose replay has a style execution. -/
def replaysStyle [StyleSerde] (events : List StyleSessionEvent) : Bool :=
  returns (replay events : Reducing (Session SessionStyleExecution)) (·.part.styleExecution.isSome)

theorem exists_of_replaysStyle [StyleSerde] {events : List StyleSessionEvent} (replays : replaysStyle events) :
    ∃ state execution, (replay events : Reducing (Session SessionStyleExecution)) = .ok state ∧
      state.part.styleExecution = some execution := by
  obtain ⟨state, replayed, present⟩ := returns_eq_true.mp replays
  obtain ⟨execution, present⟩ := Option.isSome_iff_exists.mp present
  exact ⟨state, execution, replayed, present⟩

attribute [local instance] turnStyle

/-- A session that completes its first turn has walked through its graph. -/
theorem root_execution_walks_completedTurn : ∃ (state : Session SessionStyleExecution) (execution : _),
    replay completedTurn = .ok state ∧ state.part.styleExecution = some execution ∧
      GraphWalk (rootEvents completedTurn) execution := by
  obtain ⟨state, execution, replayed, present⟩ :=
    exists_of_replaysStyle (show replaysStyle completedTurn by decide)
  exact ⟨state, execution, replayed, present,
    (root_execution_walks completedTurn state replayed).2.1 execution present⟩

end Sample

open StyleExecutionState

/-- What an event means for a style execution and the parallel executions in it. -/
inductive StyleStepped [StyleSerde] [ParallelSerde] [Hashing] :
    Option StyleExecutionState → Option StyleEvent → Option StyleExecutionState → Prop where
  /-- An event of another family changes variables only. -/
  | other {execution : Option StyleExecutionState} {event : Option StyleEvent}
      {canonicalVariables : StyleExecutionState → Option CanonicalVariableEventReducer}
      (unrelated : ∀ style, event = some style → ∃ other, style = .other other) :
      StyleStepped execution event (execution.map fun execution =>
        { execution with canonicalVariables := canonicalVariables execution })
  | begun {initialized : StyleExecutionInitializedEvent} {execution : StyleExecutionState}
      (begun : StyleBegun initialized execution) :
      StyleStepped none (some (.root (.initialized initialized))) (some execution)
  | root {execution next : StyleExecutionState} {event : StyleRootEvent}
      (moves : RootMoves execution event next) :
      StyleStepped (some execution) (some (.root event)) (some next)
  | parallel {execution next : StyleExecutionState} {event : StyleParallelEvent} {sequence : Sequence}
      (stepped : ParallelStepped execution sequence event next) :
      StyleStepped (some execution) (some (.parallel event)) (some next)

theorem StyleExecutionState.RootMoves.kept {execution next : StyleExecutionState} {event : StyleRootEvent}
    (moves : RootMoves execution event next) :
    next.graph = execution.graph ∧ next.parallelExecutions = execution.parallelExecutions := by
  cases moves <;> exact ⟨rfl, rfl⟩

section Step

variable [StyleSerde] [ParallelSerde] [VariableSerde] [Hashing] [EventChecksum (SessionPayload StyleEvent)]

variable {state next : Session SessionStyleExecution} {event : StyleSessionEvent}

theorem SessionStep.style (step : SessionStep state event next) :
    StyleStepped state.part.styleExecution (StyleSessionEvent.style? event) next.part.styleExecution := by
  rcases step.part with ⟨same, others⟩ | ⟨payload, carried, applied⟩
  · have unknown : StyleSessionEvent.style? event = none := by
      rw [StyleSessionEvent.style?]
      cases carried : event.payload with
      | part payload => exact absurd carried (others payload)
      | _ => rfl
    rw [same, unknown]
    have kept : StyleStepped state.part.styleExecution none (state.part.styleExecution.map fun execution =>
        { execution with canonicalVariables := execution.canonicalVariables }) :=
      .other fun _ absent => absurd absent (Option.some_ne_none _).symm
    rwa [Option.map_id'] at kept
  · rw [StyleSessionEvent.style?, carried]
    cases payload with
    | root event =>
      have stepped := stepped_of_applyStyleRoot applied
      generalize state.part.styleExecution = before at stepped
      generalize next.part.styleExecution = after at stepped
      cases stepped with
      | begun begun => exact .begun begun
      | moved moves => exact .root moves
    | parallel event =>
      obtain ⟨execution, present, applied⟩ := bind_eq_ok.mp applied
      obtain ⟨moved, moves, returned⟩ := bind_eq_ok.mp applied
      rw [okOr_eq_ok.mp present, ← pure_eq_ok.mp returned]
      exact .parallel (stepped_of_applyStyleParallel moves)
    | other canonicalVariables =>
      rw [← pure_eq_ok.mp applied]
      exact .other fun _ same => ⟨canonicalVariables, (Option.some.inj same).symm⟩

end Step

end AgentMod
