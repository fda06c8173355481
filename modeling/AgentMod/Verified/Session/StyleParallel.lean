import AgentMod.Verified.Parallel.Accounting
import AgentMod.Verified.Session.Replay
import AgentMod.Session.Style

/-! What parallel events do to the parallel executions of a session. -/

namespace AgentMod

open CanonicalParallelExecutionState

section Begun

variable [StyleSerde] [ParallelSerde] [Hashing]

omit [StyleSerde] [ParallelSerde] [Hashing] in
theorem exactExecutorForWork_eq_ok {execution : StyleExecutionState} {work : NodeWorkIdentity}
    {executor : SessionNodeExecutorResolution} {node : ExecutableNode} :
    execution.exactExecutorForWork work executor = .ok node ↔ execution.graph.node? work.nodeId = some node ∧
      ∃ contract, execution.executionContract = some contract ∧ work.runId = contract.runId ∧
        contract.nodeExecutors.find? (·.nodeId == work.nodeId) = some executor := by
  simp only [StyleExecutionState.exactExecutorForWork, bind_eq_ok, exists_unit, okOr_eq_ok, refuseIf_eq_ok,
    pure_eq_ok, not_or, ne_eq, not_not]
  constructor
  · rintro ⟨contract, planned, _, found, _, expected, ⟨run, rfl⟩, rfl⟩
    exact ⟨found, contract, planned, run, expected⟩
  · rintro ⟨found, contract, planned, run, expected⟩
    exact ⟨contract, planned, node, found, executor, expected, ⟨run, rfl⟩, rfl⟩

/-- What an initialized parallel execution is. -/
structure ParallelBegun (execution : StyleExecutionState) (initialized : ParallelExecutionInitializedEvent)
    (key : String) (parallel : CanonicalParallelExecutionState) : Prop where
  keyed : nodeWorkKey initialized.owner = .ok key
  fresh : execution.parallelExecutions[key]? = none
  kind : execution.graph.nodeKind initialized.owner.nodeId = some .parallelBranch
  active : execution.nodeWorkIsActive initialized.owner
  created : ∃ configuration specs, ParallelExecutionState.new initialized.owner configuration specs
    execution.graph.variables = .ok parallel.execution
  bound : parallel.execution.memberBindings = initialized.regions.map (·.member)
  owner : parallel.owner = initialized.owner
  branches : parallel.branches = .ofList (initialized.regions.map fun region =>
    (region.member.branchId, ParallelBranchReplayRecord.new region))
  lastAllocatedStep : parallel.lastAllocatedStep = initialized.owner.step
  requested : parallel.cancellationRequestedAt = none
  completed : parallel.cancellationCompletedAt = none

theorem begun_of_initializeParallelExecution {execution next : StyleExecutionState}
    {initialized : ParallelExecutionInitializedEvent} {sequence : Sequence}
    (begins : initializeParallelExecution execution initialized sequence = .ok next) :
    ∃ key parallel, ParallelBegun execution initialized key parallel ∧
      next = execution.setParallel key parallel := by
  rw [initializeParallelExecution] at begins
  obtain ⟨node, planned, begins⟩ := bind_eq_ok.mp begins
  obtain ⟨_, kind, begins⟩ := bind_eq_ok.mp begins
  obtain ⟨hash, -, begins⟩ := bind_eq_ok.mp begins
  obtain ⟨_, active, begins⟩ := bind_eq_ok.mp begins
  obtain ⟨configuration, -, begins⟩ := bind_eq_ok.mp begins
  obtain ⟨joinTarget, -, begins⟩ := bind_eq_ok.mp begins
  obtain ⟨_, -, begins⟩ := bind_eq_ok.mp begins
  obtain ⟨specs, -, begins⟩ := bind_eq_ok.mp begins
  obtain ⟨embedded, created, begins⟩ := bind_eq_ok.mp begins
  obtain ⟨_, bound, begins⟩ := bind_eq_ok.mp begins
  obtain ⟨key, keyed, begins⟩ := bind_eq_ok.mp begins
  obtain ⟨_, unknown, begins⟩ := bind_eq_ok.mp begins
  simp only [refuseIf_eq_ok, not_or, Bool.not_eq_true', Bool.not_eq_false, ne_eq, not_not] at kind active bound
  rw [refuseIf_eq_ok] at unknown
  refine ⟨key, _, ⟨keyed, ?_, ?_, active.2, ⟨configuration, specs, mapError_eq_ok.mp created⟩,
    bound, rfl, rfl, rfl, rfl, rfl⟩, (pure_eq_ok.mp begins).symm⟩
  · cases found : execution.parallelExecutions[key]? with
    | none => rfl
    | some parallel => exact absurd (StringMap.contains_iff.mpr ⟨parallel, found⟩) unknown
  · rw [ExecutableGraph.nodeKind, (exactExecutorForWork_eq_ok.mp planned).1, Option.map_some, kind.1]

omit [ParallelSerde] in
theorem ownedParallel_eq_ok {execution : StyleExecutionState} {owner : NodeWorkIdentity}
    {found : String × CanonicalParallelExecutionState} : ownedParallel execution owner = .ok found ↔
      nodeWorkKey owner = .ok found.1 ∧ execution.parallelExecutions[found.1]? = some found.2 := by
  simp only [ownedParallel, bind_eq_ok, okOr_eq_ok, pure_eq_ok]
  constructor
  · rintro ⟨key, keyed, parallel, known, rfl⟩
    exact ⟨keyed, known⟩
  · rintro ⟨keyed, known⟩
    exact ⟨found.1, keyed, found.2, known, rfl⟩

omit [ParallelSerde] in
theorem parallelProjection_eq_ok {execution : StyleExecutionState} {owner : NodeWorkIdentity}
    {configurationHash : ContentHash} {found : String × CanonicalParallelExecutionState} :
    parallelProjection execution owner configurationHash = .ok found ↔ nodeWorkKey owner = .ok found.1 ∧
      execution.parallelExecutions[found.1]? = some found.2 ∧ found.2.owner = owner ∧
      found.2.configurationHash = configurationHash := by
  simp only [parallelProjection, bind_eq_ok, exists_unit, refuseIf_eq_ok, pure_eq_ok, not_or, ne_eq, not_not,
    ownedParallel_eq_ok]
  constructor
  · rintro ⟨_, ⟨keyed, known⟩, named, rfl⟩
    exact ⟨keyed, known, named⟩
  · rintro ⟨keyed, known, named⟩
    exact ⟨found, ⟨keyed, known⟩, named, rfl⟩

end Begun

section Branches

variable [StyleSerde] [ParallelSerde] [Hashing]

/-- What an event other than an initialization does to a parallel execution. -/
inductive ParallelMoves (execution : StyleExecutionState) (sequence : Sequence)
    (parallel : CanonicalParallelExecutionState) :
    StyleParallelEvent → CanonicalParallelExecutionState → Prop where
  | dispatched {event : ParallelBranchDispatchedEvent} {next : CanonicalParallelExecutionState}
      (moves : parallel.dispatchBranch event = .ok next) :
      ParallelMoves execution sequence parallel (.dispatched event) next
  | started {event : ParallelBranchStartedEvent} {next : CanonicalParallelExecutionState}
      (moves : parallel.startBranch event = .ok next) :
      ParallelMoves execution sequence parallel (.started event) next
  | nodeEntered {event : ParallelBranchNodeEnteredEvent} {next : CanonicalParallelExecutionState}
      (moves : parallel.enterBranchNode execution event sequence = .ok next) :
      ParallelMoves execution sequence parallel (.nodeEntered event) next
  | effectDispatched {identity : ParallelBranchEffectIdentity} {inputHashMatches : Bool}
      {next : CanonicalParallelExecutionState}
      (moves : parallel.dispatchEffect identity inputHashMatches sequence = .ok next) :
      ParallelMoves execution sequence parallel (.effectDispatched identity inputHashMatches) next
  | effectOutcomeRecorded {event : ParallelBranchEffectOutcomeRecordedEvent}
      {next : CanonicalParallelExecutionState} (moves : parallel.recordEffectOutcome event sequence = .ok next) :
      ParallelMoves execution sequence parallel (.effectOutcomeRecorded event) next
  | nodeCompleted {event : ParallelBranchNodeCompletedEvent} {transitionVariables : Option Json}
      {next : CanonicalParallelExecutionState}
      (moves : parallel.completeBranchNode event transitionVariables = .ok next) :
      ParallelMoves execution sequence parallel (.nodeCompleted event transitionVariables) next
  | nodeFailed {event : ParallelBranchNodeFailedEvent} {next : CanonicalParallelExecutionState}
      (moves : parallel.failBranchNode event = .ok next) :
      ParallelMoves execution sequence parallel (.nodeFailed event) next
  | transitionSelected {event : ParallelBranchTransitionSelectedEvent}
      {next : CanonicalParallelExecutionState}
      (moves : parallel.selectBranchTransition execution.graph event = .ok next) :
      ParallelMoves execution sequence parallel (.transitionSelected event) next
  | terminated {event : ParallelBranchTerminatedEvent} {next : CanonicalParallelExecutionState}
      (moves : parallel.terminateBranch event sequence = .ok next) :
      ParallelMoves execution sequence parallel (.terminated event) next
  | cancellationRequested {event : ParallelCancellationRequestedEvent}
      {next : CanonicalParallelExecutionState} (moves : parallel.requestCancellation event sequence = .ok next) :
      ParallelMoves execution sequence parallel (.cancellationRequested event) next
  | cancellationCompleted {event : ParallelCancellationCompletedEvent}
      {next : CanonicalParallelExecutionState} (moves : parallel.completeCancellation event sequence = .ok next) :
      ParallelMoves execution sequence parallel (.cancellationCompleted event) next

/-- What a parallel event does to a style execution: it begins a parallel execution under a new key, or
changes the one that its work owns. -/
inductive ParallelStepped (execution : StyleExecutionState) (sequence : Sequence) :
    StyleParallelEvent → StyleExecutionState → Prop where
  | begun {initialized : ParallelExecutionInitializedEvent} {key : String}
      {parallel : CanonicalParallelExecutionState}
      (begun : ParallelBegun execution initialized key parallel) :
      ParallelStepped execution sequence (.initialized initialized) (execution.setParallel key parallel)
  | moved {event : StyleParallelEvent} {key : String} {parallel next : CanonicalParallelExecutionState}
      (keyed : nodeWorkKey event.owner = .ok key)
      (known : execution.parallelExecutions[key]? = some parallel)
      (moves : ParallelMoves execution sequence parallel event next) :
      ParallelStepped execution sequence event (execution.setParallel key next)

/-- What an accepted parallel event does. -/
theorem stepped_of_applyStyleParallel {execution next : StyleExecutionState} {sequence : Sequence}
    {event : StyleParallelEvent} (applied : applyStyleParallel execution sequence event = .ok next) :
    ParallelStepped execution sequence event next := by
  cases event with
  | initialized initialized =>
    obtain ⟨key, parallel, begun, rfl⟩ := begun_of_initializeParallelExecution applied
    exact .begun begun
  | dispatched event =>
    simp only [applyStyleParallel, applyNamedParallel, bind_eq_ok, pure_eq_ok] at applied
    obtain ⟨_, ⟨⟨key, parallel⟩, found, changed, moves, rfl⟩, rfl⟩ := applied
    obtain ⟨keyed, known, -⟩ := parallelProjection_eq_ok.mp found
    exact .moved keyed known (.dispatched moves)
  | started event =>
    simp only [applyStyleParallel, applyNamedParallel, bind_eq_ok, pure_eq_ok] at applied
    obtain ⟨_, ⟨⟨key, parallel⟩, found, changed, moves, rfl⟩, rfl⟩ := applied
    obtain ⟨keyed, known, -⟩ := parallelProjection_eq_ok.mp found
    exact .moved keyed known (.started moves)
  | nodeEntered event =>
    simp only [applyStyleParallel, applyNamedParallel, bind_eq_ok, pure_eq_ok] at applied
    obtain ⟨_, ⟨⟨key, parallel⟩, found, changed, moves, rfl⟩, rfl⟩ := applied
    obtain ⟨keyed, known⟩ := ownedParallel_eq_ok.mp found
    exact .moved keyed known (.nodeEntered moves)
  | effectDispatched identity matches_ =>
    simp only [applyStyleParallel, applyNamedParallel, bind_eq_ok, pure_eq_ok] at applied
    obtain ⟨_, ⟨⟨key, parallel⟩, found, changed, moves, rfl⟩, rfl⟩ := applied
    obtain ⟨keyed, known⟩ := ownedParallel_eq_ok.mp found
    exact .moved keyed known (.effectDispatched moves)
  | effectOutcomeRecorded event =>
    simp only [applyStyleParallel, applyNamedParallel, bind_eq_ok, pure_eq_ok] at applied
    obtain ⟨_, ⟨⟨key, parallel⟩, found, changed, moves, rfl⟩, rfl⟩ := applied
    obtain ⟨keyed, known⟩ := ownedParallel_eq_ok.mp found
    exact .moved keyed known (.effectOutcomeRecorded moves)
  | nodeCompleted event «variables» =>
    simp only [applyStyleParallel, applyNamedParallel, bind_eq_ok, pure_eq_ok] at applied
    obtain ⟨_, ⟨⟨key, parallel⟩, found, changed, moves, rfl⟩, rfl⟩ := applied
    obtain ⟨keyed, known⟩ := ownedParallel_eq_ok.mp found
    exact .moved keyed known (.nodeCompleted moves)
  | nodeFailed event =>
    simp only [applyStyleParallel, applyNamedParallel, bind_eq_ok, pure_eq_ok] at applied
    obtain ⟨_, ⟨⟨key, parallel⟩, found, changed, moves, rfl⟩, rfl⟩ := applied
    obtain ⟨keyed, known⟩ := ownedParallel_eq_ok.mp found
    exact .moved keyed known (.nodeFailed moves)
  | transitionSelected event =>
    simp only [applyStyleParallel, applyNamedParallel, bind_eq_ok, pure_eq_ok] at applied
    obtain ⟨_, ⟨⟨key, parallel⟩, found, changed, moves, rfl⟩, rfl⟩ := applied
    obtain ⟨keyed, known⟩ := ownedParallel_eq_ok.mp found
    exact .moved keyed known (.transitionSelected moves)
  | terminated event =>
    simp only [applyStyleParallel, applyNamedParallel, bind_eq_ok, pure_eq_ok] at applied
    obtain ⟨_, ⟨⟨key, parallel⟩, found, changed, moves, rfl⟩, rfl⟩ := applied
    obtain ⟨keyed, known, -⟩ := parallelProjection_eq_ok.mp found
    exact .moved keyed known (.terminated moves)
  | cancellationRequested event =>
    simp only [applyStyleParallel, applyNamedParallel, bind_eq_ok, pure_eq_ok] at applied
    obtain ⟨_, ⟨⟨key, parallel⟩, found, changed, moves, rfl⟩, rfl⟩ := applied
    obtain ⟨keyed, known, -⟩ := parallelProjection_eq_ok.mp found
    exact .moved keyed known (.cancellationRequested moves)
  | cancellationCompleted event =>
    simp only [applyStyleParallel, applyNamedParallel, bind_eq_ok, pure_eq_ok] at applied
    obtain ⟨_, ⟨⟨key, parallel⟩, found, changed, moves, rfl⟩, rfl⟩ := applied
    obtain ⟨keyed, known, -⟩ := parallelProjection_eq_ok.mp found
    exact .moved keyed known (.cancellationCompleted moves)

theorem ParallelStepped.root {execution next : StyleExecutionState} {sequence : Sequence}
    {event : StyleParallelEvent} (stepped : ParallelStepped execution sequence event next) :
    next = { execution with parallelExecutions := next.parallelExecutions } := by
  cases stepped <;> rfl

end Branches

end AgentMod
