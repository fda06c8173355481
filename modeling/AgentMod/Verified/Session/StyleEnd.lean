import AgentMod.Verified.Session.ParallelReplay
import AgentMod.Session.ParallelReplay

/-! How style executions end: quiescent where no branches are open, and by refusing an entry. -/

namespace AgentMod

open CanonicalParallelExecutionState

section Steps

variable {execution : StyleExecutionState} {sequence : Sequence} {parallel next : CanonicalParallelExecutionState}
  {event : StyleParallelEvent}

/-- Every branch of a parallel execution is left behind. -/
def AllLeftBehind (graph : ExecutableGraph) (parallel : CanonicalParallelExecutionState) : Prop :=
  ∀ (branchId : String) branch, parallel.branches[branchId]? = some branch →
    branch.control.LeftBehind graph parallel.cancellationRequestedAt.isSome

theorem BranchStepped.leftBehind {branchId : String} {before after : ParallelBranchReplayRecord}
    (stepped : BranchStepped execution parallel event next branchId before after)
    (left : AllLeftBehind execution.graph parallel) :
    event.progresses = false ∧ AllLeftBehind execution.graph next := by
  have lookup (other : String) : next.branches[other]? =
      if branchId = other then some after else parallel.branches[other]? := by
    rw [stepped.updated, StringMap.getElem?_insert']
  have requested : next.cancellationRequestedAt = parallel.cancellationRequestedAt := by rw [stepped.updated]
  rcases left branchId before stepped.found with ended | ⟨cancelled, outside⟩
  · exact absurd ended stepped.control.incomplete
  · have silent : event.progresses = false := by
      refine Bool.eq_false_of_not_eq_true fun progresses => ?_
      rw [stepped.uncancelled progresses] at cancelled
      exact Bool.false_ne_true cancelled
    -- Only the outcome of an effect is recorded, which leaves the control of its branch.
    have same : after.control = before.control := by
      have moves := stepped.control
      generalize before.control = source at moves
      generalize after.control = target at moves
      cases moves with
      | effectOutcomeRecorded => rfl
      | _ => exact absurd silent.symm Bool.false_ne_true
    refine ⟨silent, fun other branch found => ?_⟩
    rw [requested]
    rw [lookup] at found
    split at found
    · rw [← Option.some.inj found, same]
      exact .inr ⟨cancelled, outside⟩
    · exact left other branch found

theorem ParallelMoves.leftBehind [StyleSerde] [ParallelSerde] [Hashing]
    (moves : ParallelMoves execution sequence parallel event next) (keyed : Keyed parallel.execution)
    (left : AllLeftBehind execution.graph parallel) :
    event.progresses = false ∧ AllLeftBehind execution.graph next := by
  cases moves.moved keyed with
  | branch stepped => exact stepped.leftBehind left
  | requested _ progresses _ _ done =>
    refine ⟨progresses, fun branchId branch found => ?_⟩
    rw [done.branches] at found
    obtain ⟨before, known, rfl⟩ := Option.map_eq_some_iff.mp found
    have control : (if parallel.execution.branches[branchId]?.any (·.state.isIncomplete) then
        { before with cancellationRequestedAt := some sequence } else before).control = before.control := by
      split <;> rfl
    rw [control, done.requested]
    rcases left branchId before known with ended | ⟨-, outside⟩
    · exact .inl ended
    · exact .inr ⟨rfl, outside⟩
  | completed _ progresses _ _ _ done =>
    refine ⟨progresses, fun branchId branch found => ?_⟩
    have requested : next.cancellationRequestedAt = parallel.cancellationRequestedAt := by rw [done.updated]
    rw [done.branches] at found
    obtain ⟨before, known, rfl⟩ := Option.map_eq_some_iff.mp found
    rw [requested]
    split
    · exact .inl rfl
    · exact left branchId before known

theorem advances_eq_false (progresses : event.progresses = false) : event.advances = false := by
  cases event with
  | dispatched | started | nodeEntered => exact progresses
  | _ => rfl

theorem ParallelStepped.leftBehind [StyleSerde] [ParallelSerde] [Hashing] {next : StyleExecutionState}
    (stepped : ParallelStepped execution sequence event next) (idle : execution.activeNode = none)
    (keyed : ∀ (key : String) parallel, execution.parallelExecutions[key]? = some parallel →
      Keyed parallel.execution)
    (left : execution.LeavesBranches) : event.advances = false ∧ next.LeavesBranches := by
  cases stepped with
  | @begun initialized key parallel begun =>
    exfalso
    have active := begun.active
    rw [StyleExecutionState.nodeWorkIsActive] at active
    split at active
    · rw [idle] at active
      exact Bool.false_ne_true active
    · simp only [List.any_eq_true, StringMap.mem_values, Option.any_eq_true, beq_iff_eq,
        ParallelBranchControlState.active?_eq_some] at active
      obtain ⟨other, ⟨otherKey, known⟩, branch, ⟨branchId, found⟩, entered, isActive, same⟩ := active
      -- The work that fans out is active in a branch, which is not left behind.
      rcases left otherKey other known branchId branch found with ended | ⟨-, outside⟩
      · rw [isActive] at ended
        exact Bool.false_ne_true ended
      · exact outside entered isActive (same ▸ begun.kind)
  | @moved _ key parallel changed owned known moves =>
    obtain ⟨progresses, behind⟩ := moves.leftBehind (keyed key parallel known) (left key parallel known)
    refine ⟨advances_eq_false progresses, fun other later found => ?_⟩
    rw [StyleExecutionState.setParallel, StringMap.getElem?_insert'] at found
    split at found
    · rw [← Option.some.inj found]
      exact behind
    · exact left other later found

end Steps

section Replay

variable [StyleSerde] [ParallelSerde] [VariableSerde] [Hashing] [EventChecksum (SessionPayload StyleEvent)]

variable {state next : Session SessionStyleExecution} {events : List StyleSessionEvent} {event : StyleSessionEvent}

/-- The branches of the session's style execution, where it has one, are left behind. -/
def Session.LeavesBranches (state : Session SessionStyleExecution) : Prop :=
  ∀ execution, state.part.styleExecution = some execution → execution.LeavesBranches

/-- Once the style execution has ended without open branches, an event advances none, and leaves none open. -/
theorem SessionStep.leavesBranches (step : SessionStep state event next) (replayed : replay events = .ok state)
    (ended : state.StyleEnded) (left : state.LeavesBranches) :
    (∀ fanOut, StyleSessionEvent.parallel? event = some fanOut → fanOut.advances = false) ∧
      next.LeavesBranches := by
  obtain ⟨execution, reason, present, terminal⟩ := ended
  have walk := (walkInvariant_of_replay replayed).2 execution present
  have idle : execution.activeNode = none := by rw [walk.active, terminal]; rfl
  have keyed (key : String) (parallel : CanonicalParallelExecutionState)
      (known : execution.parallelExecutions[key]? = some parallel) : Keyed parallel.execution :=
    ((replayInvariant_of_replay replayed).2 _ _ (fanOut?_eq_some.mpr ⟨execution, present, rfl, known⟩)).keyed
  have left := left execution present
  have stepped := step.style
  rw [StyleSessionEvent.parallel?, Session.LeavesBranches]
  rw [present] at stepped
  generalize StyleSessionEvent.style? event = style at stepped
  generalize next.part.styleExecution = after at stepped
  cases stepped with
  | other unrelated =>
    constructor
    · intro fanOut same
      split at same
      · obtain ⟨other, parallel⟩ := unrelated _ rfl
        cases parallel
      · cases same
    · intro later same
      rw [← Option.some.inj same]
      exact left
  | root moves => exact absurd moves (walk.ended terminal)
  | parallel stepped =>
    obtain ⟨silent, behind⟩ := stepped.leftBehind idle keyed left
    exact ⟨fun _ same => Option.some.inj same ▸ silent, fun _ same => Option.some.inj same ▸ behind⟩

theorem EndsWithoutBranches.front {later : List StyleSessionEvent} (ends : EndsWithoutBranches (events ++ later)) :
    EndsWithoutBranches events := by
  rintro earlier event middle before after rfl
  exact ends earlier event (middle ++ later) before after (by simp)

theorem leavesBranches_of_replay (replayed : replay events = .ok state) (ends : EndsWithoutBranches events)
    (ended : state.StyleEnded) : state.LeavesBranches := by
  induction events using List.reverseRecOn generalizing state with
  | nil => simp [replay, okOr] at replayed
  | append_singleton events event ih =>
    rcases replay_snoc.mp replayed with ⟨-, created⟩ | ⟨before, reached, step⟩
    · obtain ⟨execution, -, present, -⟩ := ended
      rw [(styleExecution_of_reduce_none created).1] at present
      cases present
    · by_cases already : before.StyleEnded
      · exact (step.leavesBranches reached already (ih reached ends.front already)).2
      · exact ends events event [] before state rfl reached replayed already ended

theorem leavesBranches_of_parallelEvents (replayed : replay events = .ok state) (plain : parallelEvents events = []) :
    state.LeavesBranches := by
  intro execution present key parallel known
  have here := fanOut?_eq_some.mpr ⟨execution, present, rfl, known⟩
  have named : fanOutEvents key events ≠ [] :=
    (fanOut_invariant (motive := fun _ events _ => events ≠ []) replayed (fun _ _ _ _ => List.cons_ne_nil _ _)
      fun _ _ _ _ _ _ _ _ => List.append_ne_nil_of_right_ne_nil _ (List.cons_ne_nil _ _)).2 _ _ here
  refine absurd (List.filterMap_eq_nil_iff.mpr fun event member => ?_) named
  rw [StyleSessionEvent.fanOut?, List.filterMap_eq_nil_iff.mp plain event member, Option.filter_none]

end Replay

section Refusals

/-- The counters of a control are positive. -/
def StyleExecutionControlState.CountsAttempts : StyleExecutionControlState → Prop
  | .readyForEntry cursor => 0 < cursor.attempt ∧ 0 < cursor.step
  | .active entered => 0 < entered.attempt
  | .awaitingTransition completed => 0 < completed.attempt
  | .awaitingDestinationEntry selected => 0 < selected.attempt
  | .terminal _ => True

namespace StyleExecutionState

variable {execution : StyleExecutionState} {nodeId : String} {step : Nat}

theorem refusesEntry_iff : execution.RefusesEntry nodeId step ↔
    execution.refusedEntry = .ok (nodeId, step) ∧ nodeId ≠ "" := by
  constructor
  · rintro ⟨terminated, next, names, counts, terminates⟩
    simp only [terminate, bind_eq_ok, exists_unit, refuseIf_eq_ok, not_or, ne_eq, not_not, names, counts,
      Option.any_some, Bool.not_eq_true, Option.some.injEq] at terminates
    obtain ⟨⟨-, named⟩, ⟨_, _⟩, refused, ⟨rfl, rfl⟩, -⟩ := terminates
    exact ⟨refused, fun empty => by rw [empty] at named; cases named⟩
  · rintro ⟨refused, named⟩
    have known : nodeId.isEmpty = false := Bool.eq_false_iff.mpr fun empty => named (String.isEmpty_iff.mp empty)
    have blank : isBlank "refused" = false := by decide
    refine ⟨⟨"refused", some nodeId, some step, none⟩, _, rfl, rfl, bind_eq_ok.mpr ⟨(), refuseIf_eq_ok.mpr ?_,
      bind_eq_ok.mpr ⟨_, refused, bind_eq_ok.mpr ⟨(), refuseIf_eq_ok.mpr ?_, rfl⟩⟩⟩⟩
    · simp [known, blank]
    · simp

/-- What the control of an execution that is going on says of the counters, and of the end. -/
structure CountsSoundly (execution : StyleExecutionState) : Prop where
  idle : execution.activeNode = execution.control.active?
  attempts : execution.control.CountsAttempts
  ended : execution.terminationReason.isSome → ∃ reason, execution.control = .terminal reason

/-- A root move leaves sound counters. -/
theorem CountsSoundly.moved {next : StyleExecutionState} {event : StyleRootEvent} (sound : execution.CountsSoundly)
    (moves : RootMoves execution event next) : next.CountsSoundly := by
  obtain ⟨idle, attempts, ended⟩ := sound
  cases moves with
  | turnInitialized _ ready =>
    refine ⟨rfl, ⟨Nat.one_pos, Nat.one_pos⟩, fun reason => ?_⟩
    obtain ⟨_, terminal⟩ := ended reason
    rw [terminal] at ready
    cases ready
  | nodeEntered expects valid =>
    rw [validStyleCounters, Bool.and_eq_true, decide_eq_true_iff, decide_eq_true_iff] at valid
    refine ⟨rfl, valid.1, fun reason => ?_⟩
    obtain ⟨_, terminal⟩ := ended reason
    rw [expectedEntry, terminal] at expects
    cases expects
  | nodeCompleted active found moves =>
    rw [active] at attempts ended
    rcases moves with ⟨-, rfl, rfl⟩ | ⟨-, reason, -, rfl, rfl⟩ | ⟨-, -, rfl, rfl⟩
    · exact ⟨rfl, ⟨Nat.one_pos, Nat.succ_pos _⟩, fun reason => by obtain ⟨_, ⟨⟩⟩ := ended reason⟩
    · exact ⟨rfl, trivial, fun _ => ⟨reason, rfl⟩⟩
    · exact ⟨rfl, attempts, fun reason => by obtain ⟨_, ⟨⟩⟩ := ended reason⟩
  | nodeFailed active moves =>
    rcases moves with ⟨none_, rfl⟩ | ⟨reason, -, rfl⟩
    · exact ⟨rfl, ⟨Nat.one_pos, Nat.succ_pos _⟩, fun reason => by rw [none_] at reason; cases reason⟩
    · exact ⟨rfl, trivial, fun _ => ⟨reason, rfl⟩⟩
  | @transitionSelected selected completed awaits source exists_ =>
    rw [awaits] at idle attempts ended
    have positive : 0 < completed.attempt := attempts
    rw [source.2.1] at positive
    exact ⟨idle, positive, fun reason => by obtain ⟨_, ⟨⟩⟩ := ended reason⟩
  | terminated waits =>
    refine ⟨?_, trivial, fun _ => ⟨_, rfl⟩⟩
    rcases waits with ready | ⟨selected, heads⟩
    · cases control : execution.control with
      | readyForEntry cursor => rw [control] at idle; exact idle
      | _ => rw [control] at ready; cases ready
    · rw [heads] at idle
      exact idle

theorem admitsEntry_iff (sound : execution.CountsSoundly) (waits : execution.control.awaitsEntry) :
    execution.AdmitsEntry nodeId step ↔
      ∃ expected, execution.expectedEntry = .ok expected ∧ expected.nodeId = nodeId ∧ expected.step = step := by
  obtain ⟨idle, attempts, ended⟩ := sound
  constructor
  · rintro ⟨entered, sequence, next, rfl, rfl, enters⟩
    obtain ⟨expected, expects, later⟩ := bind_eq_ok.mp enters
    obtain ⟨_, accepted, _⟩ := bind_eq_ok.mp later
    rw [refuseIf_eq_ok, not_or, not_or, Bool.not_eq_true', Bool.not_eq_false, entryMatches_iff] at accepted
    obtain ⟨-, -, -, rfl⟩ := accepted
    exact ⟨expected, expects, rfl, rfl⟩
  · rintro ⟨expected, expects, rfl, rfl⟩
    have none_ : execution.activeNode = none := by
      rw [idle]
      cases control : execution.control <;> first | rfl | (rw [control] at waits; cases waits)
    have goes : execution.terminationReason.isSome = false := Bool.eq_false_iff.mpr fun some_ => by
      obtain ⟨_, terminal⟩ := ended some_
      rw [terminal] at waits
      cases waits
    have valid : validStyleCounters expected.attempt expected.step := by
      rw [validStyleCounters, Bool.and_eq_true, decide_eq_true_iff, decide_eq_true_iff]
      rcases expectedEntry_eq_ok.mp expects with ready | ⟨selected, _, base, heads, -, -, -, rfl⟩
      · rw [ready] at attempts
        exact attempts
      · rw [heads] at attempts
        exact ⟨attempts, Nat.succ_pos _⟩
    refine ⟨⟨expected.nodeId, expected.attempt, expected.loopIteration, expected.step⟩, 0, _, rfl, rfl,
      bind_eq_ok.mpr ⟨expected, expects, bind_eq_ok.mpr ⟨(), refuseIf_eq_ok.mpr ?_, rfl⟩⟩⟩
    rw [not_or, not_or, Bool.not_eq_true', Bool.not_eq_false, none_, goes]
    exact ⟨Bool.false_ne_true, Bool.false_ne_true, entryMatches_iff.mpr ⟨valid, rfl⟩⟩

/-- The refused entries are the admitted ones exactly where their steps are counted alike. -/
theorem agrees_iff (sound : execution.CountsSoundly) (waits : execution.control.awaitsEntry) :
    (∀ nodeId step, execution.RefusesEntry nodeId step ↔ execution.AdmitsEntry nodeId step) ↔
      execution.CountsAlike := by
  simp only [refusesEntry_iff, admitsEntry_iff sound waits, expectedEntry_eq_ok]
  rw [CountsAlike, refusedEntry]
  cases control : execution.control with
  | readyForEntry cursor =>
    constructor
    · exact fun agrees => ((agrees cursor.nodeId cursor.step).mpr ⟨cursor, .inl rfl, rfl, rfl⟩).2
    · intro named nodeId step
      simp only [pure_eq_ok, Prod.mk.injEq, StyleExecutionControlState.readyForEntry.injEq, reduceCtorEq,
        false_and, exists_false, or_false]
      constructor
      · rintro ⟨⟨rfl, rfl⟩, -⟩
        exact ⟨cursor, rfl, rfl, rfl⟩
      · rintro ⟨_, rfl, rfl, rfl⟩
        exact ⟨⟨rfl, rfl⟩, named⟩
  | awaitingDestinationEntry selected =>
    have admits (nodeId : String) (step : Nat) : (∃ expected : StyleExecutionCursor,
        (StyleExecutionControlState.awaitingDestinationEntry selected = .readyForEntry expected ∨
          ∃ selected' loopIteration base,
            StyleExecutionControlState.awaitingDestinationEntry selected = .awaitingDestinationEntry selected' ∧
              transitionLoopIteration execution.graph selected' = .ok loopIteration ∧
              execution.transitionBaseStep selected' = .ok base ∧ base < maxU64 ∧
              expected = ⟨selected'.toNodeId, selected'.attempt, loopIteration, base + 1⟩) ∧
        expected.nodeId = nodeId ∧ expected.step = step) ↔
        ∃ base, execution.EntersBehind selected base ∧ selected.toNodeId = nodeId ∧ base + 1 = step := by
      constructor
      · rintro ⟨_, ⟨⟨⟩⟩ | ⟨_, loopIteration, base, ⟨⟩, iterates, counts, bounded, rfl⟩, named, stepped⟩
        exact ⟨base, ⟨⟨loopIteration, iterates⟩, counts, bounded⟩, named, stepped⟩
      · rintro ⟨base, ⟨⟨loopIteration, iterates⟩, counts, bounded⟩, named, stepped⟩
        exact ⟨_, .inr ⟨selected, loopIteration, base, rfl, iterates, counts, bounded, rfl⟩, named, stepped⟩
    have refuses (nodeId : String) (step : Nat) :
        ((selected.toNodeId, ·) <$> checkedStep selected.step = .ok (nodeId, step) ∧ nodeId ≠ "") ↔
        ∃ base, (base = selected.step ∧ base < maxU64 ∧ selected.toNodeId ≠ "") ∧ selected.toNodeId = nodeId ∧
          base + 1 = step := by
      simp only [map_eq_ok, checkedStep_eq_ok, Prod.mk.injEq]
      constructor
      · rintro ⟨⟨_, ⟨bounded, rfl⟩, rfl, rfl⟩, named⟩
        exact ⟨_, ⟨rfl, bounded, named⟩, rfl, rfl⟩
      · rintro ⟨_, ⟨rfl, bounded, named⟩, rfl, rfl⟩
        exact ⟨⟨_, ⟨bounded, rfl⟩, rfl, rfl⟩, named⟩
    simp only [admits, refuses]
    constructor
    · intro agrees base
      constructor
      · intro enters
        obtain ⟨other, alike, -, same⟩ := (agrees selected.toNodeId (base + 1)).mpr ⟨base, enters, rfl, rfl⟩
        rwa [Nat.succ.inj same] at alike
      · intro alike
        obtain ⟨other, enters, -, same⟩ := (agrees selected.toNodeId (base + 1)).mp ⟨base, alike, rfl, rfl⟩
        rwa [Nat.succ.inj same] at enters
    · exact fun alike nodeId step => exists_congr fun base => and_congr_left fun _ => (alike base).symm
  | _ => rw [control] at waits; cases waits

end StyleExecutionState

variable [StyleSerde] [ParallelSerde] [VariableSerde] [Hashing] [EventChecksum (SessionPayload StyleEvent)]

end Refusals

section Sample

attribute [local instance] plainChecksum plainVariables plainSerde prefixHash

section Turn

attribute [local instance] turnStyle

instance completedTurn_ready : Fact (returns (replay completedTurn : Reducing (Session SessionStyleExecution))
    (·.part.styleExecution.any fun execution =>
      decide (execution.control = .readyForEntry ⟨"done", 1, 0, 2⟩)) = true) where
  out := by decide +kernel

end Turn

section FanOut

attribute [local instance] fanStyle

/-- The replay of the session that has ended and still dispatches a branch. -/
instance outlivedFanOut_replayed : Fact (returns (replay outlivedFanOut : Reducing (Session SessionStyleExecution))
    (·.part.styleExecution.any fun execution => decide (execution.control = .terminal "stopped")) = true) where
  out := by decide +kernel

instance joinedFanOut_steps : Fact (returns (replay joinedFanOut : Reducing (Session SessionStyleExecution))
    (·.part.styleExecution.any fun execution =>
      returns execution.refusedEntry (fun refused => decide (refused = ("join", 2))) &&
        returns execution.expectedEntry (fun expected => decide (expected = ⟨"join", 1, 0, 3⟩))) = true) where
  out := by decide +kernel

end FanOut

end Sample

end AgentMod
