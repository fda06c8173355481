import AgentMod.Verified.Session.StyleWalk
import Mathlib.Data.List.ModifyLast

/-! Which turns a style execution archives, and with which results. -/

namespace AgentMod

open StyleExecutionState

/-- The completion that a root event is. -/
def StyleRootEvent.completion? : StyleRootEvent → Option StyleNodeCompletedEvent
  | .nodeCompleted completed _ => some completed
  | _ => none

/-- The event starts a run. -/
def StyleRootEvent.StartsRun : StyleRootEvent → Prop
  | .initialized _ | .turnInitialized _ => True
  | _ => False

theorem forall₂_snoc {α β : Type} {related : α → β → Prop} {values : List α} {others : List β} {value : α}
    {other : β} : List.Forall₂ related (values ++ [value]) (others ++ [other]) ↔
      List.Forall₂ related values others ∧ related value other := by
  rw [← List.forall₂_reverse_iff, List.reverse_append, List.reverse_append, List.reverse_singleton,
    List.reverse_singleton, List.singleton_append, List.singleton_append, List.forall₂_cons,
    List.forall₂_reverse_iff, and_comm]

theorem styleRuns_snoc {roots : List StyleRootEvent} {event : StyleRootEvent} {archived : List StyleRun}
    {current : StyleRun} (runs : styleRuns roots = archived ++ [current]) (plain : ¬ event.StartsRun) :
    styleRuns (roots ++ [event]) = archived ++ [{ current with events := current.events ++ [event] }] := by
  rw [styleRuns, List.foldl_append, ← styleRuns, runs, List.foldl_cons, List.foldl_nil]
  cases event with
  | initialized => exact absurd trivial plain
  | turnInitialized => exact absurd trivial plain
  | _ => exact List.modifyLast_concat _ _ _

/-- The archive of a style execution. -/
structure ArchiveInvariant (roots : List StyleRootEvent) (execution : StyleExecutionState) : Prop where
  walk : WalkInvariant roots execution
  completed : execution.completedNodes = roots.filterMap StyleRootEvent.completion?
  /-- The last run is the current one, and its events come behind the one that starts it. -/
  runs : ∃ archived current, styleRuns roots = archived ++ [current] ∧
    current.contract = execution.executionContract ∧
    (∃ front start, roots = front ++ start :: current.events ∧ start.StartsRun) ∧
    (List.Forall₂ (CompletedStyleTurnRun.Attributed execution.graph) execution.completedTurnRuns archived ↔
      EachFollows TurnFollowsCompletion roots)

/-- A run is archived under its contract with its own result exactly when its last event is a completion. -/
theorem attributed_iff {roots : List StyleRootEvent} {execution : StyleExecutionState} {current : StyleRun}
    {front : List StyleRootEvent} {start : StyleRootEvent} {terminal : StyleNodeCompletedEvent}
    {previous : StyleExecutionContract} (sequence : Sequence) (walk : WalkInvariant roots execution)
    (completedNodes : execution.completedNodes = roots.filterMap StyleRootEvent.completion?)
    (contract : current.contract = some previous) (divided : roots = front ++ start :: current.events)
    (starts : start.StartsRun) (turn : execution.completedTurn? = some terminal) :
    CompletedStyleTurnRun.Attributed execution.graph ⟨previous, terminal.resultReference, sequence⟩ current ↔
      ∃ completed evidence, roots.getLast? = some (.nodeCompleted completed evidence) := by
  constructor
  · rintro ⟨-, before, entered, completed, evidence, ends, -⟩
    refine ⟨completed, evidence, ?_⟩
    rw [divided, ends, ← List.cons_append, ← List.append_assoc]
    exact List.getLast?_append_of_ne_nil _ (List.cons_ne_nil _ _)
  · rintro ⟨completed, evidence, last⟩
    obtain ⟨turned, kind⟩ := Option.filter_eq_some_iff.mp turn
    -- The last event of the run is that completion, and the one before it is its entry.
    rcases List.eq_nil_or_concat current.events with none_ | ⟨events, final, ends⟩
    · rw [divided, none_, List.getLast?_concat] at last
      cases last
      exact absurd starts id
    · rw [List.concat_eq_append] at ends
      rw [ends, ← List.cons_append, ← List.append_assoc] at divided
      rw [divided, List.getLast?_concat, Option.some.injEq] at last
      subst last
      obtain ⟨entered, before, outcome⟩ := walk.follows (front ++ start :: events) _ [] divided
      rcases List.eq_nil_or_concat events with none_ | ⟨earlier, entry, rest⟩
      · rw [none_, List.getLast?_concat] at before
        cases before
        exact absurd starts id
      · rw [List.concat_eq_append] at rest
        rw [rest, ← List.cons_append, ← List.append_assoc, List.getLast?_concat, Option.some.injEq] at before
        subst before
        -- The last completed node is the one that this completion names.
        rw [completedNodes, divided, List.filterMap_append,
          show [.nodeCompleted completed evidence].filterMap StyleRootEvent.completion? = [completed] from rfl,
          List.getLast?_concat, Option.some.injEq] at turned
        subst turned
        exact ⟨contract, earlier, entered, completed, evidence, by rw [ends, rest]; simp, outcome,
          beq_iff_eq.mp kind, rfl⟩

theorem ArchiveInvariant.begun {initialized : StyleExecutionInitializedEvent} {execution : StyleExecutionState}
    (begun : StyleBegun initialized execution) : ArchiveInvariant [.initialized initialized] execution where
  walk := .begun begun
  completed := begun.completed
  runs := by
    refine ⟨[], ⟨initialized.executionContract, []⟩, rfl, begun.contract.symm,
      ⟨[], _, rfl, trivial⟩, ?_⟩
    rw [begun.archived]
    refine iff_of_true .nil ?_
    rw [← List.nil_append [_], eachFollows_snoc]
    exact ⟨.nil, trivial⟩

theorem ArchiveInvariant.extended {roots : List StyleRootEvent} {execution next : StyleExecutionState}
    {event : StyleRootEvent} (invariant : ArchiveInvariant roots execution)
    (moves : RootMoves execution event next) (plain : ¬ event.StartsRun)
    (graph : next.graph = execution.graph) (contract : next.executionContract = execution.executionContract)
    (archive : next.completedTurnRuns = execution.completedTurnRuns)
    (nodes : next.completedNodes = execution.completedNodes ++ event.completion?.toList) :
    ArchiveInvariant (roots ++ [event]) next := by
  obtain ⟨walk, completed, archived, current, runs, named, ⟨front, start, divided, starts⟩, attributed⟩ :=
    invariant
  refine ⟨walk.moved moves, ?_, archived, _, styleRuns_snoc runs plain, named.trans contract.symm,
    ⟨front, start, ?_, starts⟩, ?_⟩
  · rw [nodes, completed, List.filterMap_append]
    cases found : event.completion? <;> simp [found]
  · rw [divided, List.append_assoc, List.cons_append]
  · rw [graph, archive, attributed, eachFollows_snoc]
    refine ⟨fun each => ⟨each, ?_⟩, And.left⟩
    cases event with
    | turnInitialized => exact absurd trivial plain
    | _ => trivial

theorem ArchiveInvariant.moved {roots : List StyleRootEvent} {execution next : StyleExecutionState}
    {event : StyleRootEvent} (invariant : ArchiveInvariant roots execution)
    (moves : RootMoves execution event next) : ArchiveInvariant (roots ++ [event]) next := by
  have moved := moves
  cases moves with
  | @turnInitialized initialized terminal previous sequence _ turn ready contract =>
    obtain ⟨walk, completed, archived, current, runs, named, ⟨front, start, divided, starts⟩, attributed⟩ :=
      invariant
    have archives := attributed_iff sequence walk completed (named.trans contract) divided starts turn
    refine ⟨walk.moved moved, ?_, archived ++ [current], ⟨some initialized.executionContract, []⟩, ?_, rfl,
      ⟨roots, _, rfl, trivial⟩, ?_⟩
    · rw [List.filterMap_append, ← completed]
      exact (List.append_nil _).symm
    · rw [styleRuns, List.foldl_append, ← styleRuns, runs]
      rfl
    · rw [forall₂_snoc, eachFollows_snoc, attributed]
      exact and_congr_right fun _ => archives
  | nodeEntered => exact invariant.extended moved id rfl rfl rfl (List.append_nil _).symm
  | nodeCompleted => exact invariant.extended moved id rfl rfl rfl rfl
  | nodeFailed => exact invariant.extended moved id rfl rfl rfl (List.append_nil _).symm
  | transitionSelected => exact invariant.extended moved id rfl rfl rfl (List.append_nil _).symm
  | terminated => exact invariant.extended moved id rfl rfl rfl (List.append_nil _).symm

section Replay

variable [StyleSerde] [ParallelSerde] [VariableSerde] [Hashing] [EventChecksum (SessionPayload StyleEvent)]

/-- Over any replayed events, every archived run has completed its turn under the archived contract and with the
archived result exactly when every turn is initialized right behind a completion. -/
theorem turn_archive_attribution (events : List StyleSessionEvent) (state : Session SessionStyleExecution)
    (execution : StyleExecutionState) (replayed : replay events = .ok state)
    (present : state.part.styleExecution = some execution) :
    List.Forall₂ (CompletedStyleTurnRun.Attributed execution.graph) execution.completedTurnRuns
        (styleRuns (rootEvents events)).dropLast ↔
      EachFollows TurnFollowsCompletion (rootEvents events) := by
  have invariant := (rootEvents_invariant (motive := ArchiveInvariant) replayed (fun _ _ => .begun)
    (fun _ _ _ _ invariant => ⟨⟨invariant.walk.1, invariant.walk.2, invariant.walk.3⟩, invariant.2, invariant.3⟩)
    fun _ _ _ _ invariant moves => invariant.moved moves).2 execution present
  obtain ⟨archived, current, runs, -, -, attributed⟩ := invariant.runs
  rw [runs, List.dropLast_concat, attributed]

end Replay

section Sample

attribute [local instance] plainChecksum plainVariables plainSerde prefixHash turnStyle

/-- The replays of the sessions with two turns. -/
instance turns_replayed : Fact (replaysStyle startedTurn = true ∧ replaysStyle idleTurn = true) where
  out := by decide +kernel

/-- The turn that completed is archived with its own result when the next one starts. -/
theorem turn_archive_attribution_startedTurn :
    ∃ (state : Session SessionStyleExecution) (execution : StyleExecutionState),
      replay startedTurn = .ok state ∧ state.part.styleExecution = some execution ∧
        (List.Forall₂ (CompletedStyleTurnRun.Attributed execution.graph) execution.completedTurnRuns
            (styleRuns (rootEvents startedTurn)).dropLast ↔
          EachFollows TurnFollowsCompletion (rootEvents startedTurn)) := by
  obtain ⟨state, execution, replayed, present⟩ :=
    exists_of_replaysStyle turns_replayed.out.1
  exact ⟨state, execution, replayed, present,
    turn_archive_attribution startedTurn state execution replayed present⟩

/-- A turn that never entered a node is archived as completed. -/
theorem not_turn_archive_attribution :
    ∃ (state : Session SessionStyleExecution) (execution : StyleExecutionState),
      replay idleTurn = .ok state ∧ state.part.styleExecution = some execution ∧
        ¬ List.Forall₂ (CompletedStyleTurnRun.Attributed execution.graph) execution.completedTurnRuns
          (styleRuns (rootEvents idleTurn)).dropLast := by
  obtain ⟨state, execution, replayed, present⟩ :=
    exists_of_replaysStyle turns_replayed.out.2
  refine ⟨state, execution, replayed, present, fun attributed => ?_⟩
  -- The second run has no root event at all.
  have idle : ⟨some (sampleContract turnGraph (sampleTurnRun 2)), []⟩ ∈
      (styleRuns (rootEvents idleTurn)).dropLast := List.mem_cons_of_mem _ List.mem_cons_self
  obtain ⟨archived, -, -, before, entered, completed, evidence, same, -⟩ :=
    exists_of_forall₂_right attributed idle
  exact List.append_ne_nil_of_right_ne_nil before (List.cons_ne_nil _ _) same.symm

end Sample

end AgentMod
