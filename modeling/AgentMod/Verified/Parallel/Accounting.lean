import AgentMod.Parallel.Sample
import AgentMod.Verified.Graph.Build
import AgentMod.Verified.Primitives.Collections

/-! Every run of a parallel execution keeps its accounts. -/

namespace AgentMod

open ParallelExecutionState

/-- The moves of a branch, where the next completion sequence is given. -/
inductive ParallelBranchState.Moves (expected : Option Nat) :
    ParallelBranchState → ParallelBranchTransition → ParallelBranchState → Prop where
  | dispatch {branchId dispatchId : String} :
      Moves expected .queued (.dispatch branchId dispatchId) .dispatched
  | start {branchId dispatchId : String} :
      Moves expected .dispatched (.start branchId dispatchId) .running
  | complete {branchId dispatchId : String} {sequence : Nat} {result : JoinMemberResult}
      (next : expected = some sequence) :
      Moves expected .running (.complete branchId dispatchId sequence result)
        (.completed sequence result)
  | fail {branchId dispatchId code : String} :
      Moves expected .running (.fail branchId dispatchId code) (.failed code)
  | cancel {branchId dispatchId code : String} {state : ParallelBranchState}
      (incomplete : state.isIncomplete) :
      Moves expected state (.cancel branchId dispatchId code) (.cancelled code)

theorem ParallelBranchState.Moves.incomplete {expected : Option Nat}
    {branchState moved : ParallelBranchState} {transition : ParallelBranchTransition}
    (moves : branchState.Moves expected transition moved) : branchState.isIncomplete := by
  cases moves with
  | cancel incomplete => exact incomplete
  | _ => rfl

theorem ParallelBranchState.Moves.leaves {expected : Option Nat}
    {branchState moved : ParallelBranchState} {transition : ParallelBranchTransition}
    (moves : branchState.Moves expected transition moved) : moved.isQueued = false := by
  cases moves <;> rfl

theorem ParallelBranchState.Moves.dispatches {expected : Option Nat}
    {branchState moved : ParallelBranchState} {transition : ParallelBranchTransition}
    {branchId : String} (moves : branchState.Moves expected transition moved)
    (dispatches : transition.dispatches branchId) :
    transition.branchId = branchId ∧ branchState.isQueued := by
  cases moves with
  | dispatch => exact ⟨beq_iff_eq.mp dispatches, rfl⟩
  | _ => exact absurd dispatches Bool.false_ne_true

namespace ParallelExecutionState

variable {initial state next : ParallelExecutionState} {applied : Applied}

/-- What an accepted transition does: one known branch takes a move of its lifecycle. -/
structure Changes (state : ParallelExecutionState) (transition : ParallelBranchTransition)
    (next : ParallelExecutionState) (branch : ParallelBranchRecord) (moved : ParallelBranchState) :
    Prop where
  found : state.branches[transition.branchId]? = some branch
  moves : ∃ expected, state.expectedCompletionSequence transition = .ok expected ∧
    branch.state.Moves expected transition moved
  updated : next = { state with
    branches := state.branches.insert transition.branchId { branch with state := moved } }

namespace Changes

variable {transition : ParallelBranchTransition} {branch : ParallelBranchRecord}
  {moved : ParallelBranchState} (changes : Changes state transition next branch moved)
include changes

theorem values : ∃ rest, state.branches.values.Perm (branch :: rest) ∧
    next.branches.values.Perm ({ branch with state := moved } :: rest) := by
  rw [changes.updated]
  exact StringMap.values_insert_perm changes.found

theorem lookup (branchId : String) : next.branches[branchId]? =
    if transition.branchId = branchId then some { branch with state := moved }
    else state.branches[branchId]? := by
  rw [changes.updated]
  simp [Std.ExtTreeMap.getElem?_insert, Std.LawfulEqCmp.compare_eq_iff_eq]

theorem size : next.branches.size = state.branches.size := by
  have known : transition.branchId ∈ state.branches := by
    rw [Std.ExtTreeMap.mem_iff_isSome_getElem?, changes.found]
    rfl
  rw [changes.updated, Std.ExtTreeMap.size_insert, if_pos (by simpa using known)]

theorem identity (branchId : String) : next.branches[branchId]?.map ParallelBranchRecord.identity =
    state.branches[branchId]?.map ParallelBranchRecord.identity := by
  rw [changes.lookup]
  split
  · next same => rw [← same, changes.found]; rfl
  · rfl

theorem keepsEnded : state.KeepsEnded next := by
  intro branchId ended found settled
  rw [changes.lookup, if_neg]
  · exact found
  · -- The branch that moves has not ended, so it is another one.
    intro same
    obtain ⟨expected, _, moves⟩ := changes.moves
    have incomplete := moves.incomplete
    rw [← same, changes.found] at found
    cases found
    rw [settled] at incomplete
    exact absurd incomplete (by decide)

end Changes

theorem activeCount_changes {transition : ParallelBranchTransition} {branch : ParallelBranchRecord}
    {moved : ParallelBranchState} (changes : Changes state transition next branch moved) :
    next.activeCount + branch.state.isActive.toNat = state.activeCount + moved.isActive.toNat := by
  obtain ⟨rest, before, after⟩ := changes.values
  unfold activeCount
  rw [← List.countP_eq_length_filter, ← List.countP_eq_length_filter, before.countP_eq,
    after.countP_eq, List.countP_cons, List.countP_cons]
  -- Both counts go over the same rest.
  cases branch.state.isActive <;> cases moved.isActive <;> simp

theorem completionSequences_changes {transition : ParallelBranchTransition}
    {branch : ParallelBranchRecord} {moved : ParallelBranchState}
    (changes : Changes state transition next branch moved) :
    next.completionSequences.Perm (moved.completion?.toList ++ state.completionSequences) := by
  obtain ⟨rest, before, after⟩ := changes.values
  obtain ⟨expected, _, moves⟩ := changes.moves
  -- The branch had no number before it moved.
  have fresh : branch.state.completion? = none := by
    have incomplete := moves.incomplete
    cases was : branch.state with
    | completed =>
      rw [was] at incomplete
      exact absurd incomplete Bool.false_ne_true
    | _ => rfl
  let completion (branch : ParallelBranchRecord) := branch.state.completion?
  have earlier := before.filterMap completion
  have later := after.filterMap completion
  rw [List.filterMap_cons_none (by exact fresh)] at earlier
  refine later.trans ?_
  cases ends : moved.completion? with
  | none =>
    rw [List.filterMap_cons_none (by exact ends)]
    exact earlier.symm
  | some sequence =>
    rw [List.filterMap_cons_some (by exact ends)]
    exact earlier.symm.cons _

theorem free_of_ready {descriptor : BranchDispatchDescriptor}
    (ready : descriptor ∈ state.dispatchDecision.ready) :
    state.activeCount < effectiveParallelism state.serializationPolicy state.maxParallelism := by
  by_contra full
  have none_ : effectiveParallelism state.serializationPolicy state.maxParallelism -
    state.activeCount = 0 := by omega
  simp [dispatchDecision, none_] at ready

/-- The used slots are within the bound. -/
def WithinBound (state : ParallelExecutionState) : Prop :=
  state.activeCount ≤ effectiveParallelism state.serializationPolicy state.maxParallelism

/-- The completed branches are numbered from one. -/
def Numbered (state : ParallelExecutionState) : Prop :=
  state.completionSequences.Perm (List.range' 1 state.completionSequences.length)

theorem Numbered.successor {sequence : Nat} (numbered : state.Numbered)
    (returned : state.nextCompletionSequence = .ok sequence) :
    sequence = state.completionSequences.length + 1 := by
  have last : state.completionSequences.max?.getD 0 = state.completionSequences.length := by
    unfold Numbered at numbered
    generalize state.completionSequences = sequences at numbered ⊢
    cases most : sequences.max? with
    | none => simp_all
    | some last =>
      -- The last number is the largest of one to the number of completed branches.
      obtain ⟨member, largest⟩ := List.max?_eq_some_iff.mp most
      have bounded := List.mem_range'_1.mp (numbered.mem_iff.mp member)
      have listed : sequences.length ∈ sequences :=
        numbered.mem_iff.mpr (List.mem_range'_1.mpr (by omega))
      have := largest _ listed
      simp only [Option.getD_some]
      omega
  unfold nextCompletionSequence at returned
  simp only [last] at returned
  split at returned
  · cases returned
    rfl
  · cases returned

/-- The accepted dispatches of a branch are none while it is queued, and never more than one. -/
def DispatchedOnce (applied : List Applied) (state : ParallelExecutionState) : Prop :=
  ∀ branchId, applied.countP (dispatched branchId) = 0 ∨
    applied.countP (dispatched branchId) = 1 ∧
      ∀ branch, state.branches[branchId]? = some branch → branch.state.isQueued = false

/-- The invariant of all runs from an initial state. -/
structure Invariant (initial : ParallelExecutionState) (applied : List Applied)
    (state : ParallelExecutionState) : Prop where
  within : state.WithinBound
  numbered : state.Numbered
  once : DispatchedOnce applied state
  kept : ∀ branchId : String, state.branches[branchId]?.map ParallelBranchRecord.identity =
    initial.branches[branchId]?.map ParallelBranchRecord.identity
  size : state.branches.size = initial.branches.size
  fixed : { state with branches := initial.branches } = initial

theorem Invariant.holds {branchSpecs : List ParallelBranchSpec} {applied : List Applied}
    (invariant : Invariant initial applied state) (begun : initial.Holds branchSpecs) :
    state.Holds branchSpecs := by
  refine ⟨invariant.size.trans begun.count, fun entry member => ?_⟩
  obtain ⟨branch, listed, index, target⟩ := begun.each entry member
  obtain ⟨branchId, found⟩ := StringMap.mem_values.mp listed
  have kept := invariant.kept branchId
  rw [found, Option.map_some, Option.map_eq_some_iff] at kept
  obtain ⟨current, here, same⟩ := kept
  -- The index and the target belong to the identity of the branch.
  have indexed := congrArg ParallelBranchRecord.branchIndex same
  have targeted := congrArg ParallelBranchRecord.targetNodeId same
  exact ⟨current, StringMap.mem_values.mpr ⟨branchId, here⟩, indexed.trans index,
    targeted.trans target⟩

variable [ParallelSerde]

theorem moves_of_transition {state next : ParallelBranchState} {branchId : String}
    {expected : Option Nat} {transition : ParallelBranchTransition}
    (moved : state.transition branchId expected transition = .ok next) :
    state.Moves expected transition next := by
  -- One case for each transition and each state; the illegal ones are errors.
  cases transition with
  | dispatch =>
    cases state <;> simp [ParallelBranchState.transition] at moved
    subst moved
    exact .dispatch
  | start =>
    cases state <;> simp [ParallelBranchState.transition] at moved
    subst moved
    exact .start
  | complete _ _ sequence result =>
    cases state <;> simp [ParallelBranchState.transition] at moved
    obtain ⟨_, expects, rfl⟩ := moved
    exact .complete expects
  | fail =>
    cases state <;> simp [ParallelBranchState.transition] at moved
    obtain ⟨_, rfl⟩ := moved
    exact .fail
  | cancel =>
    cases state <;> simp [ParallelBranchState.transition] at moved <;> obtain ⟨_, rfl⟩ := moved <;>
      exact .cancel rfl

/-- Applying a transition is rejected and changes nothing, or moves one branch. -/
theorem apply_cases {transition : ParallelBranchTransition}
    {outcome : Except ParallelExecutionError Unit}
    (applies : (apply transition).apply state = (outcome, next)) :
    (∃ error, outcome = .error error ∧ next = state) ∨
      outcome = .ok () ∧ ∃ branch moved, Changes state transition next branch moved := by
  simp only [apply, Updating.apply_bind, Updating.apply_get, Updating.apply_ofExcept] at applies
  -- The checks come in the order of the source, and each stops with its error.
  cases expects : state.expectedCompletionSequence transition with
  | error error =>
    simp only [expects, Prod.mk.injEq] at applies
    exact .inl ⟨error, applies.1.symm, applies.2.symm⟩
  | ok expected =>
    cases found : state.branches[transition.branchId]? with
    | none =>
      simp only [expects, found, okOr, Prod.mk.injEq] at applies
      exact .inl ⟨_, applies.1.symm, applies.2.symm⟩
    | some branch =>
      simp only [expects, found, okOr] at applies
      split at applies
      · simp only [Updating.apply_bind, Updating.apply_throw, Prod.mk.injEq] at applies
        exact .inl ⟨_, applies.1.symm, applies.2.symm⟩
      · cases moved : branch.state.transition transition.branchId expected transition with
        | error error =>
          simp only [Updating.apply_bind, Updating.apply_ofExcept, moved,
            Prod.mk.injEq] at applies
          exact .inl ⟨error, applies.1.symm, applies.2.symm⟩
        | ok state =>
          simp only [Updating.apply_bind, Updating.apply_ofExcept, moved,
            Updating.apply_set, Prod.mk.injEq] at applies
          exact .inr ⟨applies.1.symm, branch, state, found,
            ⟨expected, expects, moves_of_transition moved⟩, applies.2.symm⟩

/-- A step stays within the bound. -/
theorem Step.withinBound (taken : Step state applied next) (within : state.WithinBound) :
    next.WithinBound := by
  rcases apply_cases taken.applies with ⟨_, _, rfl⟩ | ⟨_, branch, moved, changes⟩
  · exact within
  · have counted := activeCount_changes changes
    have same : effectiveParallelism next.serializationPolicy next.maxParallelism =
        effectiveParallelism state.serializationPolicy state.maxParallelism := by
      rw [changes.updated]
    obtain ⟨expected, _, moves⟩ := changes.moves
    unfold WithinBound at within ⊢
    rw [same]
    -- Only a dispatch takes a slot, and it was listed as ready.
    generalize labelled : applied.1 = transition at changes moves
    generalize was : branch.state = before at counted moves
    cases moves with
    | dispatch =>
      obtain ⟨descriptor, ready, _⟩ := taken.ready _ _ labelled
      have free := free_of_ready ready
      simp only [ParallelBranchState.isActive, Bool.toNat_true, Bool.toNat_false] at counted
      omega
    | start =>
      simp only [ParallelBranchState.isActive, Bool.toNat_true] at counted
      omega
    | complete =>
      simp only [ParallelBranchState.isActive, Bool.toNat_true, Bool.toNat_false] at counted
      omega
    | fail =>
      simp only [ParallelBranchState.isActive, Bool.toNat_true, Bool.toNat_false] at counted
      omega
    | cancel =>
      simp only [ParallelBranchState.isActive, Bool.toNat_false] at counted
      omega

theorem Step.numbered (taken : Step state applied next) (numbered : state.Numbered) :
    next.Numbered := by
  rcases apply_cases taken.applies with ⟨_, _, rfl⟩ | ⟨_, branch, moved, changes⟩
  · exact numbered
  · have sequences := completionSequences_changes changes
    obtain ⟨expected, expects, moves⟩ := changes.moves
    generalize applied.1 = transition at expects moves
    generalize branch.state = before at moves
    unfold Numbered at numbered ⊢
    cases moves with
    | complete issued =>
      -- The new number follows the last one.
      simp only [expectedCompletionSequence, ParallelBranchTransition.isComplete, if_true,
        map_eq_ok] at expects
      obtain ⟨_, returned, same⟩ := expects
      rw [issued] at same
      cases same
      have value := Numbered.successor numbered returned
      rw [sequences.length_eq]
      simp only [ParallelBranchState.completion?, Option.toList_some, List.singleton_append,
        List.length_cons] at sequences ⊢
      rw [List.range'_1_concat]
      refine sequences.trans (.trans ?_ List.perm_append_comm)
      rw [value, Nat.add_comm 1]
      exact numbered.cons _
    | _ =>
      -- Nothing is completed, so the numbers are the same.
      simp only [ParallelBranchState.completion?, Option.toList_none, List.nil_append] at sequences
      rw [sequences.length_eq]
      exact sequences.trans numbered

theorem Step.keepsEnded (taken : Step state applied next) : state.KeepsEnded next := by
  rcases apply_cases taken.applies with ⟨_, _, rfl⟩ | ⟨_, branch, moved, changes⟩
  · exact fun _ _ found _ => found
  · exact changes.keepsEnded

theorem keepsEnded_of_run {applied : List Applied} (run : Run Step state applied next) :
    state.KeepsEnded next := by
  refine @Run.related _ _ _ _ _ KeepsEnded _ run ?_ ?_ ?_
  · exact fun _ _ _ found _ => found
  · -- What has ended at first has ended in between as well.
    intro first second third earlier later branchId branch found settled
    exact later branchId branch (earlier branchId branch found settled) settled
  · exact fun _ _ _ taken => taken.keepsEnded

theorem Step.kept (taken : Step state applied next) :
    (∀ branchId : String, next.branches[branchId]?.map ParallelBranchRecord.identity =
      state.branches[branchId]?.map ParallelBranchRecord.identity) ∧
    next.branches.size = state.branches.size ∧ { next with branches := state.branches } = state := by
  rcases apply_cases taken.applies with ⟨_, _, rfl⟩ | ⟨_, branch, moved, changes⟩
  · exact ⟨fun _ => rfl, rfl, rfl⟩
  · refine ⟨changes.identity, changes.size, ?_⟩
    rw [changes.updated]

/-- A step dispatches a queued branch only, and no branch becomes queued again. -/
theorem Step.dispatchedOnce {earlier : List Applied} (taken : Step state applied next)
    (once : DispatchedOnce earlier state) : DispatchedOnce (earlier ++ [applied]) next := by
  intro branchId
  rw [List.countP_append, List.countP_singleton]
  rcases apply_cases taken.applies with ⟨error, failed, rfl⟩ | ⟨accepted, branch, moved, changes⟩
  · -- A rejected transition dispatches nothing.
    have skipped : dispatched branchId applied = false := by
      simp [dispatched, failed, Except.isOk, Except.toBool]
    simp only [skipped, Bool.false_eq_true, if_false, Nat.add_zero]
    exact once branchId
  · obtain ⟨expected, _, moves⟩ := changes.moves
    -- The branch that moved is not queued, and the others are as before.
    have moved_ : ∀ branch, next.branches[branchId]? = some branch →
        applied.1.branchId = branchId → branch.state.isQueued = false := by
      intro branch found same
      rw [changes.lookup, if_pos same] at found
      cases found
      exact moves.leaves
    by_cases counts : dispatched branchId applied
    · -- The dispatched branch was queued, so it was never dispatched before.
      obtain ⟨same, waiting⟩ := moves.dispatches (Bool.and_eq_true_iff.mp counts).1
      have never := (once branchId).resolve_right fun started => by
        rw [started.2 branch (same ▸ changes.found)] at waiting
        exact Bool.false_ne_true waiting
      refine .inr ⟨by simp [never, counts], fun branch found => moved_ branch found same⟩
    · simp only [counts, Bool.false_eq_true, if_false, Nat.add_zero]
      rcases once branchId with never | ⟨before, started⟩
      · exact .inl never
      · refine .inr ⟨before, fun branch found => ?_⟩
        by_cases same : applied.1.branchId = branchId
        · exact moved_ branch found same
        · rw [changes.lookup, if_neg same] at found
          exact started branch found

/-- What holds of the branches that are collected from the first specifications. -/
structure Collected (specs : List (ParallelBranchSpec × Nat)) (collected : CollectedBranches) :
    Prop where
  count : collected.branches.size = specs.length
  queued : ∀ (branchId : String) branch, collected.branches[branchId]? = some branch →
    branch.state = .queued
  each : ∀ entry ∈ specs, ∃ (branchId : String) (branch : ParallelBranchRecord),
    collected.branches[branchId]? = some branch ∧
      branch.branchIndex = entry.2 ∧ branch.targetNodeId = entry.1.targetNodeId

theorem Collected.step [Hashing] {specs : List (ParallelBranchSpec × Nat)}
    {entry : ParallelBranchSpec × Nat} {work : NodeWorkIdentity} {count : Nat}
    {before after : CollectedBranches} (collected : Collected specs before)
    (adds : collectBranch work count before entry = .ok after) :
    Collected (specs ++ [entry]) after := by
  simp only [collectBranch, bind_eq_ok, exists_unit, refuseIf_eq_ok, pure_eq_ok] at adds
  obtain ⟨_, _, _, _, branchId, _, dispatchId, _, fresh, rfl⟩ := adds
  constructor
  · rw [Std.ExtTreeMap.size_insert, if_neg (by simpa using fresh), collected.count,
      List.length_append, List.length_singleton]
  · intro other branch found
    rw [Std.ExtTreeMap.getElem?_insert] at found
    split at found
    · cases found
      rfl
    · exact collected.queued other branch found
  · intro listed member
    rcases List.mem_append.mp member with earlier | last
    · obtain ⟨other, branch, found, matches_⟩ := collected.each listed earlier
      refine ⟨other, branch, ?_, matches_⟩
      rw [Std.ExtTreeMap.getElem?_insert, if_neg]
      · exact found
      · -- The earlier branch has another identity, as the new one was not known.
        intro same
        rw [Std.LawfulEqCmp.compare_eq_iff_eq] at same
        subst same
        exact fresh (StringMap.contains_iff.mpr ⟨branch, found⟩)
    · obtain rfl := List.mem_singleton.mp last
      exact ⟨branchId, _, Std.ExtTreeMap.getElem?_insert_self, rfl, rfl⟩

/-- What construction guarantees of the initial state. -/
structure Initial (configuration : NodeConfiguration) (branchSpecs : List ParallelBranchSpec)
    (initial : ParallelExecutionState) (parallel : ParallelBranch) : Prop where
  configured : configuration = .parallelBranch parallel
  maxParallelism : initial.maxParallelism = parallel.maxParallelism
  serializationPolicy : initial.serializationPolicy = parallel.serializationPolicy
  queued : ∀ (branchId : String) branch, initial.branches[branchId]? = some branch →
    branch.state = .queued
  holds : initial.Holds branchSpecs

theorem initial_of_new [Hashing] {work : NodeWorkIdentity} {configuration : NodeConfiguration}
    {branchSpecs : List ParallelBranchSpec} {declarations : List VariableDeclaration}
    (created : ParallelExecutionState.new work configuration branchSpecs declarations =
      .ok initial) :
    ∃ parallel, Initial configuration branchSpecs initial parallel := by
  unfold ParallelExecutionState.new at created
  split at created
  case h_2 => simp at created
  case h_1 parallel =>
    simp only [bind_eq_ok, exists_unit, pure_eq_ok] at created
    obtain ⟨_, _, _, _, _, collected, collects, rfl⟩ := created
    have spec := foldlM_invariant Collected collects ⟨rfl, by simp, by simp⟩
      fun _ _ _ _ _ _ before adds => before.step adds
    refine ⟨parallel, rfl, rfl, rfl, spec.queued, ?_, ?_⟩
    · rw [spec.count, List.length_zipIdx]
    · intro entry member
      obtain ⟨branchId, branch, found, matches_⟩ := spec.each entry member
      exact ⟨branch, StringMap.mem_values.mpr ⟨branchId, found⟩, matches_⟩

/-- The invariant holds along every run. -/
theorem invariant_of_run {configuration : NodeConfiguration}
    {branchSpecs : List ParallelBranchSpec} {parallel : ParallelBranch} {applied : List Applied}
    (begun : Initial configuration branchSpecs initial parallel)
    (run : Run Step initial applied state) : Invariant initial applied state := by
  induction run with
  | nil =>
    -- All branches are queued, so no slot is used and nothing is completed.
    have queued : ∀ branch ∈ initial.branches.values, branch.state = .queued := by
      intro branch member
      obtain ⟨branchId, found⟩ := StringMap.mem_values.mp member
      exact begun.queued branchId branch found
    constructor
    · have unused : initial.activeCount = 0 := by
        rw [activeCount, List.length_eq_zero_iff, List.filter_eq_nil_iff]
        intro branch member
        rw [queued branch member]
        exact Bool.false_ne_true
      rw [WithinBound, unused]
      exact Nat.zero_le _
    · have none_ : initial.completionSequences = [] := by
        rw [completionSequences, List.filterMap_eq_nil_iff]
        intro branch member
        rw [queued branch member]
        rfl
      rw [Numbered, none_]
      exact .nil
    · exact fun _ => .inl rfl
    · exact fun _ => rfl
    · rfl
    · rfl
  | snoc _ taken ih =>
    obtain ⟨kept, size, fixed⟩ := taken.kept
    refine ⟨taken.withinBound ih.within, taken.numbered ih.numbered, taken.dispatchedOnce ih.once,
      fun branchId => (kept branchId).trans (ih.kept branchId), size.trans ih.size, ?_⟩
    -- Everything but the branches is that of the state before, hence of the initial state.
    have before := congrArg (fun state : ParallelExecutionState =>
      { state with branches := initial.branches }) fixed
    exact before.trans ih.fixed

end ParallelExecutionState

/-- Every run of a parallel execution that is created for any branches, limits and policy keeps its
accounts. -/
theorem parallel_execution_accounted [ParallelSerde] [Hashing] {work : NodeWorkIdentity}
    {configuration : NodeConfiguration} {branchSpecs : List ParallelBranchSpec}
    {declarations : List VariableDeclaration} {initial state : ParallelExecutionState}
    {applied : List ParallelExecutionState.Applied}
    (created : ParallelExecutionState.new work configuration branchSpecs declarations = .ok initial)
    (run : Run ParallelExecutionState.Step initial applied state) :
    ∃ parallel, configuration = .parallelBranch parallel ∧
      ParallelExecutionState.Accounted parallel branchSpecs initial applied state := by
  obtain ⟨parallel, begun⟩ := initial_of_new created
  have invariant := invariant_of_run begun run
  refine ⟨parallel, begun.configured, ?_, ?_, ?_, invariant.numbered,
    invariant.holds begun.holds, invariant.kept, invariant.fixed, ?_⟩
  · -- The bound of the state is that of the configuration.
    have within := invariant.within
    have policy := congrArg ParallelExecutionState.serializationPolicy invariant.fixed
    have bound := congrArg ParallelExecutionState.maxParallelism invariant.fixed
    simp only at policy bound
    rw [WithinBound, policy, bound, begun.serializationPolicy, begun.maxParallelism] at within
    exact within
  · exact fun _ _ _ _ _ later => keepsEnded_of_run later
  · intro branchId
    rcases invariant.once branchId with never | ⟨once, _⟩
    · rw [never]
      exact Nat.zero_le 1
    · exact once.le
  · intro transition error next applies
    rcases apply_cases applies with ⟨_, _, same⟩ | ⟨accepted, _⟩
    · exact same
    · cases accepted

section Sample

attribute [local instance] plainSerde prefixHash

/-- The evaluation of the sample's creation. -/
instance sampleCreation_isOk : Fact (sampleCreation.isOk = true) where
  out := by decide +kernel

/-- The evaluation of the sample's first dispatch. -/
instance sampleDispatch_isOk : Fact
    (((ParallelExecutionState.apply (sampleDispatch "left")).apply sampleInitial).1.isOk = true ∧
      (sampleInitial.dispatchDecision.ready.any fun descriptor =>
        descriptor.branchId == sampleBranchId "left") = true) where
  out := by decide +kernel

theorem sampleCreation_eq : sampleCreation = .ok sampleInitial := by
  have isOk := sampleCreation_isOk.out
  unfold sampleInitial
  cases created : sampleCreation with
  | ok => rfl
  | error =>
    rw [created] at isOk
    exact absurd isOk Bool.false_ne_true

theorem sampleStep : ParallelExecutionState.Step sampleInitial (sampleDispatch "left", .ok ())
    sampleDispatched := by
  obtain ⟨accepted, listed⟩ := sampleDispatch_isOk.out
  constructor
  · intro branchId dispatchId same
    cases same
    simpa using listed
  · show (ParallelExecutionState.apply (sampleDispatch "left")).apply sampleInitial =
      (.ok (), sampleDispatched)
    have reached : ((ParallelExecutionState.apply (sampleDispatch "left")).apply
      sampleInitial).2 = sampleDispatched := by rw [sampleDispatched]
    cases applies : (ParallelExecutionState.apply (sampleDispatch "left")).apply sampleInitial with
    | mk outcome next =>
      rw [applies] at accepted reached
      cases outcome with
      | ok => rw [← reached]
      | error => exact absurd accepted Bool.false_ne_true

/-- The sample keeps its accounts when it dispatches a branch. -/
theorem parallel_execution_accounted_sample : ∃ parallel,
    NodeConfiguration.parallelBranch narrowFanOut = .parallelBranch parallel ∧
      ParallelExecutionState.Accounted parallel [branchTo "left", branchTo "right"] sampleInitial
        [(sampleDispatch "left", .ok ())] sampleDispatched :=
  parallel_execution_accounted sampleCreation_eq (Run.nil.snoc sampleStep)

end Sample

/-- The branches are those of the bindings, each under its own identity and waiting for a slot. -/
structure Bound (branches : StringMap ParallelBranchRecord) (memberBindings : List ParallelMemberBinding) :
    Prop where
  distinct : (memberBindings.map (·.branchId)).Nodup
  each : ∀ branchId : String, branches.contains branchId ↔ branchId ∈ memberBindings.map (·.branchId)
  keyed : ∀ (branchId : String) branch, branches[branchId]? = some branch →
    branch.branchId = branchId ∧ branch.state = .queued

namespace Bound

theorem empty : Bound ∅ [] := ⟨List.nodup_nil, by simp, by simp⟩

variable [ParallelSerde] [Hashing]

theorem step {entry : ParallelBranchSpec × Nat} {work : NodeWorkIdentity} {count : Nat}
    {before after : CollectedBranches} (bound : Bound before.branches before.memberBindings)
    (adds : collectBranch work count before entry = .ok after) :
    Bound after.branches after.memberBindings := by
  simp only [collectBranch, bind_eq_ok, exists_unit, refuseIf_eq_ok, pure_eq_ok] at adds
  obtain ⟨_, _, _, _, branchId, _, dispatchId, _, fresh, rfl⟩ := adds
  have fresh : branchId ∉ before.memberBindings.map (·.branchId) := fun member =>
    fresh ((bound.each branchId).mpr member)
  refine ⟨?_, fun other => ?_, fun other branch found => ?_⟩
  · rw [List.map_append, List.nodup_append]
    refine ⟨bound.distinct, List.nodup_singleton _, fun known member last isLast same => fresh ?_⟩
    rw [← show last = branchId from List.mem_singleton.mp isLast, ← same]
    exact member
  · rw [StringMap.contains_iff, StringMap.getElem?_insert', List.map_append, List.mem_append, ← bound.each,
      StringMap.contains_iff]
    by_cases same : branchId = other
    · simp [same]
    · simp [same, Ne.symm same]
  · rw [StringMap.getElem?_insert'] at found
    split at found
    · next same => exact Option.some.inj found ▸ ⟨same, rfl⟩
    · exact bound.keyed other branch found

theorem of_new {work : NodeWorkIdentity} {configuration : NodeConfiguration}
    {branchSpecs : List ParallelBranchSpec} {declarations : List VariableDeclaration}
    {initial : ParallelExecutionState}
    (created : ParallelExecutionState.new work configuration branchSpecs declarations = .ok initial) :
    Bound initial.branches initial.memberBindings := by
  unfold ParallelExecutionState.new at created
  split at created
  case h_2 => simp at created
  case h_1 parallel =>
    simp only [bind_eq_ok, exists_unit, pure_eq_ok] at created
    obtain ⟨_, _, _, _, _, collected, collects, rfl⟩ := created
    exact foldlM_invariant (fun _ collected => Bound collected.branches collected.memberBindings) collects
      empty fun _ _ _ _ _ _ before adds => before.step adds

end Bound

namespace ParallelExecutionState

theorem cancellationTransitions_eq_ok {state : ParallelExecutionState} {code : String}
    {transitions : List ParallelBranchTransition} :
    state.cancellationTransitions code = .ok transitions ↔ validateCode code = .ok () ∧
      transitions = (state.orderedBranches.filter fun branch => branch.state.isIncomplete).map fun branch =>
        .cancel branch.branchId branch.dispatchId code := by
  simp only [cancellationTransitions, bind_eq_ok, exists_unit, pure_eq_ok]
  rw [@eq_comm _ transitions]

theorem mem_cancellationTransitions {state : ParallelExecutionState} {code branchId : String}
    {transitions : List ParallelBranchTransition}
    (keyed : ∀ (branchId : String) branch, state.branches[branchId]? = some branch → branch.branchId = branchId)
    (cancels : state.cancellationTransitions code = .ok transitions) :
    branchId ∈ transitions.map ParallelBranchTransition.branchId ↔
      state.branches[branchId]?.any (·.state.isIncomplete) := by
  obtain ⟨-, rfl⟩ := cancellationTransitions_eq_ok.mp cancels
  simp only [List.map_map, List.mem_map, List.mem_filter, orderedBranches, mem_sortBy, StringMap.mem_values,
    Function.comp_apply, Option.any_eq_true]
  constructor
  · rintro ⟨branch, ⟨⟨key, found⟩, incomplete⟩, same⟩
    obtain rfl : branch.branchId = branchId := same
    have named := keyed key branch found
    rw [← named] at found
    exact ⟨branch, found, incomplete⟩
  · rintro ⟨branch, found, incomplete⟩
    exact ⟨branch, ⟨⟨branchId, found⟩, incomplete⟩, keyed branchId branch found⟩

theorem cancel_of_mem_cancellationTransitions {state : ParallelExecutionState} {code : String}
    {transitions : List ParallelBranchTransition} {transition : ParallelBranchTransition}
    (cancels : state.cancellationTransitions code = .ok transitions) (member : transition ∈ transitions) :
    ∃ branchId dispatchId, transition = .cancel branchId dispatchId code := by
  obtain ⟨-, rfl⟩ := cancellationTransitions_eq_ok.mp cancels
  obtain ⟨branch, -, rfl⟩ := List.mem_map.mp member
  exact ⟨_, _, rfl⟩

end ParallelExecutionState

end AgentMod
