import AgentMod.Parallel.Sample
import AgentMod.Verified.Primitives.Collections

/-! What later completions can do to a join's decision, and what they cannot. -/

namespace AgentMod

theorem countP_add_le {α : Type} {items : List α} {first second third fourth : α → Bool}
    (each : ∀ item ∈ items, (first item).toNat + (second item).toNat ≤
      (third item).toNat + (fourth item).toNat) :
    items.countP first + items.countP second ≤ items.countP third + items.countP fourth := by
  -- Every item contributes the value of its marks.
  have value : ∀ mark : Bool, (if mark then 1 else 0) = mark.toNat := by decide
  induction items with
  | nil => simp
  | cons item rest ih =>
    have earlier := ih fun other member => each other (List.mem_cons_of_mem _ member)
    have here := each item List.mem_cons_self
    simp only [List.countP_cons, value]
    omega

variable {join : JoinResults} {members later : StringMap JoinMemberState}

/-- The snapshot of a join's members. -/
def snapshotOf (join : JoinResults) (members : StringMap JoinMemberState) : JoinSnapshot where
  successful := join.configured.filter fun member => members[member]?.any (·.isCompleted)
  failed := join.configured.toList.filter fun member => members[member]?.any (·.isFailed)
  cancelled := join.configured.toList.filter fun member => members[member]?.any (·.isCancelled)
  missing := join.configured.toList.filter fun member => members[member]?.all (·.isPending)
  requiredFailed := join.required.toList.any fun member =>
    members[member]?.any fun state => state.isFailed || state.isCancelled
  requiredTerminal := join.required.toList.all fun member =>
    members[member]?.any fun state => !state.isPending

theorem successes_eq : join.successes members =
    join.configured.toList.countP fun member => members[member]?.any (·.isCompleted) := by
  rw [JoinResults.successes, ← Std.ExtTreeSet.length_toList, Std.ExtTreeSet.toList_filter,
    List.countP_eq_length_filter]

theorem length_missing : (snapshotOf join members).missing.length =
    join.configured.toList.countP fun member => members[member]?.all (·.isPending) := by
  rw [snapshotOf, List.countP_eq_length_filter]

section Settling

variable (settles : Settles members later)
include settles

theorem Settles.kept {member : String} (closed : ¬ IsOpen members member) :
    later[member]? = members[member]? := by
  unfold IsOpen at closed
  cases found : members[member]? with
  | none => simp [found] at closed
  | some state => exact settles member state found (by simpa [found] using closed)

theorem Settles.any {member : String} {holds : JoinMemberState → Bool}
    (ended : ∀ state, holds state → state.isPending = false)
    (marked : members[member]?.any holds) : later[member]?.any holds := by
  cases found : members[member]? with
  | none => simp [found] at marked
  | some state =>
    rw [found] at marked
    rw [settles member state found (ended state marked)]
    exact marked

theorem Settles.successes_le : join.successes members ≤ join.successes later := by
  rw [successes_eq, successes_eq]
  apply List.countP_mono_left
  intro member _ completed
  refine settles.any (fun state done => ?_) completed
  cases state with
  | completed => rfl
  | _ => exact absurd done Bool.false_ne_true

theorem Settles.possible_le : join.successes later + (snapshotOf join later).missing.length ≤
    join.successes members + (snapshotOf join members).missing.length := by
  rw [successes_eq, successes_eq, length_missing, length_missing]
  apply countP_add_le
  intro member _
  by_cases isOpen : IsOpen members member
  · -- An open member counts as missing, and later it is completed or missing at most.
    have counted : (members[member]?.all (·.isPending)).toNat = 1 := by
      rw [show members[member]?.all (·.isPending) = true from isOpen]
      rfl
    rw [counted]
    cases found : later[member]? with
    | none => simp
    | some state => cases state <;> simp [JoinMemberState.isCompleted, JoinMemberState.isPending]
  · rw [settles.kept isOpen]

theorem Settles.requiredFailed (failed : (snapshotOf join members).requiredFailed) :
    (snapshotOf join later).requiredFailed := by
  simp only [snapshotOf, List.any_eq_true] at failed ⊢
  obtain ⟨member, listed, marked⟩ := failed
  refine ⟨member, listed, settles.any (fun state done => ?_) marked⟩
  cases state with
  | pending => exact absurd done Bool.false_ne_true
  | _ => rfl

theorem Settles.required_kept (terminal : (snapshotOf join members).requiredTerminal) :
    ∀ member ∈ join.required.toList, later[member]? = members[member]? := by
  simp only [snapshotOf, List.all_eq_true] at terminal
  intro member listed
  refine settles.kept fun isOpen => ?_
  have ended := terminal member listed
  unfold IsOpen at isOpen
  cases found : members[member]? with
  | none => simp [found] at ended
  | some state =>
    rw [found] at ended isOpen
    simp only [Option.any_some, Option.all_some] at ended isOpen
    rw [isOpen] at ended
    exact Bool.false_ne_true ended

theorem Settles.requiredTerminal (terminal : (snapshotOf join members).requiredTerminal) :
    (snapshotOf join later).requiredTerminal ∧
      (snapshotOf join later).requiredFailed = (snapshotOf join members).requiredFailed := by
  have kept := settles.required_kept terminal
  constructor
  · simp only [snapshotOf, List.all_eq_true] at terminal ⊢
    intro member listed
    rw [kept member listed]
    exact terminal member listed
  · simp only [snapshotOf]
    rw [Bool.eq_iff_iff, List.any_eq_true, List.any_eq_true]
    exact exists_congr fun member => and_congr_right fun listed => by rw [kept member listed]

end Settling

section Evaluation

variable {timeoutElapsed : Bool} {decision : JoinDecision}

/-- The successful members can be projected exactly when each has what the join projects. -/
theorem projectResults_isOk : (∃ results, projectResults (snapshotOf join members).successful
    members join.orderingPolicy join.resultProjection join.artifactCollection = .ok results) ↔
      ∀ member ∈ join.configured, join.Projects members member := by
  rw [projectResults, mapM_isOk]
  constructor
  · -- A completed member is among those that were projected.
    intro projects member isConfigured completionSequence result found
    have listed : (member, completionSequence, result) ∈
        (snapshotOf join members).successful.toList.filterMap (completedMember members) := by
      rw [List.mem_filterMap]
      refine ⟨member, ?_, by rw [completedMember, found]⟩
      rw [snapshotOf, Std.ExtTreeSet.toList_filter, List.mem_filter, Std.ExtTreeSet.mem_toList]
      exact ⟨isConfigured, by rw [found]; rfl⟩
    obtain ⟨projected, done⟩ := projects _ ((List.perm_insertionSort _ _).mem_iff.mpr listed)
    simp only [projectMember, bind_eq_ok] at done
    obtain ⟨value, projection, _⟩ := done
    exact ⟨value, projection⟩
  · intro projects entry member
    have listed := (List.perm_insertionSort _ _).mem_iff.mp member
    obtain ⟨memberId, successful, completed⟩ := List.mem_filterMap.mp listed
    rw [snapshotOf, Std.ExtTreeSet.toList_filter, List.mem_filter,
      Std.ExtTreeSet.mem_toList] at successful
    unfold completedMember at completed
    split at completed
    case h_2 => cases completed
    case h_1 completionSequence result found =>
      cases completed
      obtain ⟨value, projection⟩ :=
        projects memberId successful.1 completionSequence result found
      simp only [projectMember, bind_eq_ok, pure_eq_ok]
      exact ⟨_, value, projection, rfl⟩

theorem decideJoin_of_reason {reason : JoinTerminalReason}
    (decided : terminalReason join.failurePolicy join.minimumSuccesses (snapshotOf join members) =
      some reason) :
    ∃ descriptor, decideJoin join members timeoutElapsed (snapshotOf join members) =
      .ok (.failed descriptor) := by
  rw [decideJoin, decided]
  exact ⟨_, rfl⟩

theorem decideJoin_of_ready
    (undecided : terminalReason join.failurePolicy join.minimumSuccesses
      (snapshotOf join members) = none)
    (ready : isJoinReady join.failurePolicy join.minimumSuccesses (snapshotOf join members)) :
    (∀ outcome, decideJoin join members timeoutElapsed (snapshotOf join members) = .ok outcome →
      outcome.isReady) ∧
    ((∃ outcome, decideJoin join members timeoutElapsed (snapshotOf join members) = .ok outcome) ↔
      ∀ member ∈ join.configured, join.Projects members member) := by
  rw [← projectResults_isOk]
  simp only [decideJoin, undecided, ready, if_true, bind_eq_ok, pure_eq_ok]
  constructor
  · rintro _ ⟨results, _, rfl⟩
    rfl
  · constructor
    · rintro ⟨_, results, projected, _⟩
      exact ⟨results, projected⟩
    · rintro ⟨results, projected⟩
      exact ⟨_, results, projected, rfl⟩

theorem decided_of_decideJoin
    (decides : decideJoin join members false (snapshotOf join members) = .ok decision) :
    (decision.isFailed → ∃ reason, terminalReason join.failurePolicy join.minimumSuccesses
      (snapshotOf join members) = some reason) ∧
    (decision.isReady → terminalReason join.failurePolicy join.minimumSuccesses
        (snapshotOf join members) = none ∧
      isJoinReady join.failurePolicy join.minimumSuccesses (snapshotOf join members) ∧
      ∀ member ∈ join.configured, join.Projects members member) := by
  cases decided : terminalReason join.failurePolicy join.minimumSuccesses
    (snapshotOf join members) with
  | some reason =>
    rw [decideJoin, decided] at decides
    cases decides
    exact ⟨fun _ => ⟨reason, rfl⟩, fun ready => absurd ready Bool.false_ne_true⟩
  | none =>
    by_cases ready : isJoinReady join.failurePolicy join.minimumSuccesses (snapshotOf join members)
    · obtain ⟨isReady, projects⟩ := @decideJoin_of_ready join members false decided ready
      refine ⟨fun failed => ?_, fun _ => ⟨rfl, ready, projects.mp ⟨_, decides⟩⟩⟩
      have := isReady _ decides
      cases decision <;> simp_all [JoinDecision.isReady, JoinDecision.isFailed]
    · rw [decideJoin, decided] at decides
      simp only [ready, Bool.false_eq_true, if_false] at decides
      cases decides
      exact ⟨fun failed => absurd failed Bool.false_ne_true,
        fun isReady => absurd isReady Bool.false_ne_true⟩

/-- A reason for failure remains, unless more successes were not waited for. -/
theorem Settles.reason {reason : JoinTerminalReason} (settles : Settles members later)
    (stays : join.StaysFailed later)
    (decided : terminalReason join.failurePolicy join.minimumSuccesses (snapshotOf join members) =
      some reason) :
    ∃ reason, terminalReason join.failurePolicy join.minimumSuccesses (snapshotOf join later) =
      some reason := by
  have possible : (snapshotOf join later).successful.size + (snapshotOf join later).missing.length ≤
      (snapshotOf join members).successful.size + (snapshotOf join members).missing.length :=
    settles.possible_le
  have failed := @Settles.requiredFailed join _ _ settles
  have terminal := @Settles.requiredTerminal join _ _ settles
  cases policy : join.failurePolicy with
  | failFast =>
    simp only [policy, terminalReason] at decided ⊢
    split at decided
    · -- A required member that failed stays failed.
      next required => exact ⟨_, if_pos (failed required)⟩
    · split at decided
      · next short =>
        split
        · exact ⟨_, rfl⟩
        · exact ⟨_, if_pos (by omega)⟩
      · cases decided
  | minimumSuccess =>
    simp only [policy, terminalReason] at decided ⊢
    split at decided
    · exact ⟨_, if_pos (by omega)⟩
    · cases decided
  | waitRequired =>
    have short : (snapshotOf join later).successful.size < join.minimumSuccesses := stays policy
    simp only [policy, terminalReason] at decided ⊢
    split at decided
    · next before => exact ⟨_, if_pos ⟨(terminal before.1).1, short⟩⟩
    · cases decided

theorem Settles.recovers {reason : JoinTerminalReason} (settles : Settles members later)
    (recovers : ¬ join.StaysFailed later)
    (decided : terminalReason join.failurePolicy join.minimumSuccesses (snapshotOf join members) =
      some reason) :
    terminalReason join.failurePolicy join.minimumSuccesses (snapshotOf join later) = none ∧
      isJoinReady join.failurePolicy join.minimumSuccesses (snapshotOf join later) := by
  obtain ⟨policy, enough⟩ := Classical.not_imp.mp recovers
  have reached : join.minimumSuccesses ≤ (snapshotOf join later).successful.size :=
    not_lt.mp enough
  have terminal := @Settles.requiredTerminal join _ _ settles
  simp only [policy, terminalReason, isJoinReady] at decided ⊢
  split at decided
  · next before =>
    refine ⟨if_neg fun short => absurd short.2 (not_lt.mpr reached), ?_⟩
    rw [(terminal before.1).1]
    simpa using reached
  · cases decided

theorem Settles.ready (settles : Settles members later)
    (undecided : terminalReason join.failurePolicy join.minimumSuccesses
      (snapshotOf join members) = none)
    (ready : isJoinReady join.failurePolicy join.minimumSuccesses (snapshotOf join members)) :
    terminalReason join.failurePolicy join.minimumSuccesses (snapshotOf join later) = none ∧
      isJoinReady join.failurePolicy join.minimumSuccesses (snapshotOf join later) := by
  have more : (snapshotOf join members).successful.size ≤ (snapshotOf join later).successful.size :=
    settles.successes_le
  have terminal := @Settles.requiredTerminal join _ _ settles
  cases policy : join.failurePolicy with
  | failFast =>
    simp only [policy, terminalReason, isJoinReady, Bool.and_eq_true, decide_eq_true_eq]
      at undecided ready ⊢
    obtain ⟨ended, failed⟩ := terminal ready.1
    rw [failed]
    split at undecided
    · cases undecided
    · next sound =>
      refine ⟨?_, ended, by omega⟩
      rw [if_neg sound, if_neg (by omega)]
  | minimumSuccess =>
    simp only [policy, terminalReason, isJoinReady, decide_eq_true_eq] at undecided ready ⊢
    exact ⟨if_neg (by omega), by omega⟩
  | waitRequired =>
    simp only [policy, terminalReason, isJoinReady, Bool.and_eq_true, decide_eq_true_eq]
      at undecided ready ⊢
    exact ⟨if_neg fun short => by omega, (terminal ready.1).1, by omega⟩

variable [ParallelSerde]

theorem evaluateJoin_eq_ok :
    evaluateJoin (.joinResults join) members timeoutElapsed = .ok decision ↔
      validateJoinConfiguration join.required join.optional join.minimumSuccesses = .ok () ∧
      (∀ entry ∈ members.toList, validateMember join.configured entry = .ok ()) ∧
      decideJoin join members timeoutElapsed (snapshotOf join members) = .ok decision := by
  simp only [evaluateJoin, buildJoinSnapshot, bind_eq_ok, exists_unit, forM_eq_ok, pure_eq_ok]
  constructor
  · rintro ⟨_, ⟨configuration, valid, rfl⟩, decides⟩
    exact ⟨configuration, valid, decides⟩
  · rintro ⟨configuration, valid, decides⟩
    exact ⟨_, ⟨configuration, valid, rfl⟩, decides⟩

theorem valid_later_iff (settles : Settles members later)
    (valid : ∀ entry ∈ members.toList, validateMember join.configured entry = .ok ()) :
    (∀ entry ∈ later.toList, validateMember join.configured entry = .ok ()) ↔
      join.AdmitsSettled members later := by
  constructor
  · intro validLater member state _ found
    exact validLater _ (Std.ExtTreeMap.mem_toList_iff_getElem?_eq_some.mpr found)
  · intro admits entry listed
    obtain ⟨member, state⟩ := entry
    have found := Std.ExtTreeMap.mem_toList_iff_getElem?_eq_some.mp listed
    by_cases isOpen : IsOpen members member
    · exact admits member state isOpen found
    · -- A member that was not open is as it was.
      rw [settles.kept isOpen] at found
      exact valid _ (Std.ExtTreeMap.mem_toList_iff_getElem?_eq_some.mpr found)

/-- A ready join stays ready, up to errors in what settles later; a failed one stays failed as well,
unless optional members that were not waited for reach the threshold, which makes it ready. -/
theorem join_decision_stable (settles : Settles members later)
    (evaluated : evaluateJoin (.joinResults join) members false = .ok decision) :
    (decision.isReady →
      (∀ outcome, evaluateJoin (.joinResults join) later timeoutElapsed = .ok outcome →
        outcome.isReady) ∧
      ((∃ outcome, evaluateJoin (.joinResults join) later timeoutElapsed = .ok outcome) ↔
        join.AdmitsSettled members later ∧
          ∀ member ∈ join.configured, IsOpen members member → join.Projects later member)) ∧
    (decision.isFailed → join.StaysFailed later →
      (∀ outcome, evaluateJoin (.joinResults join) later timeoutElapsed = .ok outcome →
        outcome.isFailed) ∧
      ((∃ outcome, evaluateJoin (.joinResults join) later timeoutElapsed = .ok outcome) ↔
        join.AdmitsSettled members later)) ∧
    (decision.isFailed → ¬ join.StaysFailed later →
      (∀ outcome, evaluateJoin (.joinResults join) later timeoutElapsed = .ok outcome →
        outcome.isReady) ∧
      ((∃ outcome, evaluateJoin (.joinResults join) later timeoutElapsed = .ok outcome) ↔
        join.AdmitsSettled members later ∧
          ∀ member ∈ join.configured, join.Projects later member)) := by
  obtain ⟨configuration, valid, decides⟩ := evaluateJoin_eq_ok.mp evaluated
  obtain ⟨ofFailed, ofReady⟩ := decided_of_decideJoin decides
  have admits := @valid_later_iff join _ _ _ settles valid
  simp only [evaluateJoin_eq_ok, configuration, admits, true_and]
  refine ⟨fun isReady => ?_, fun isFailed stays => ?_, fun isFailed recovers => ?_⟩
  · obtain ⟨undecided, ready, projects⟩ := ofReady isReady
    obtain ⟨undecided, ready⟩ := settles.ready undecided ready
    obtain ⟨isReady, isOk⟩ := @decideJoin_of_ready join later timeoutElapsed undecided ready
    refine ⟨fun outcome done => isReady outcome done.2, ?_⟩
    rw [exists_and_left, isOk]
    refine and_congr_right fun _ => ⟨fun all member listed _ => all member listed, ?_⟩
    -- What a member has brought already was projected before.
    intro open_ member listed
    by_cases isOpen : IsOpen members member
    · exact open_ member listed isOpen
    · intro completionSequence result found
      rw [settles.kept isOpen] at found
      exact projects member listed completionSequence result found
  · obtain ⟨reason, decided⟩ := ofFailed isFailed
    obtain ⟨later_, decided⟩ := settles.reason stays decided
    obtain ⟨descriptor, decides⟩ := @decideJoin_of_reason join later timeoutElapsed _ decided
    simp only [decides, Except.ok.injEq, exists_and_left, exists_eq', and_true]
    intro outcome done
    rw [← done.2]
    rfl
  · obtain ⟨reason, decided⟩ := ofFailed isFailed
    obtain ⟨undecided, ready⟩ := settles.recovers recovers decided
    obtain ⟨isReady, isOk⟩ := @decideJoin_of_ready join later timeoutElapsed undecided ready
    refine ⟨fun outcome done => isReady outcome done.2, ?_⟩
    rw [exists_and_left, isOk]

end Evaluation

section Sample

attribute [local instance] plainSerde

/-- A join that waits for one required member, and to which one optional member may contribute. -/
def patientJoin : JoinResults where
  required := .ofList ["a"]
  optional := .ofList ["b"]
  minimumSuccesses := 1
  failurePolicy := .waitRequired
  orderingPolicy := .memberId
  timeoutMs := 1000
  cancellationPropagates := false
  resultProjection := .artifactReferences
  artifactCollection := .none

/-- The required member has failed while the optional one is open. -/
def failedMembers : StringMap JoinMemberState :=
  Std.ExtTreeMap.ofList [("a", JoinMemberState.failed "lost")]

/-- The optional member has completed as well. -/
def recoveredMembers : StringMap JoinMemberState :=
  Std.ExtTreeMap.ofList
    [("a", JoinMemberState.failed "lost"), ("b", .completed 1 ⟨none, none, ∅, ∅⟩)]

theorem settles_recovered : Settles failedMembers recoveredMembers := by
  intro member state found ended
  have distinct : ([("a", JoinMemberState.failed "lost")].map Prod.fst).Nodup := by decide
  have listed : (member, state) ∈ [("a", JoinMemberState.failed "lost")] :=
    (StringMap.getElem?_ofList distinct).mp found
  rw [List.mem_singleton] at listed
  cases listed
  have distinctLater : ([("a", JoinMemberState.failed "lost"),
    ("b", .completed 1 ⟨none, none, ∅, ∅⟩)].map Prod.fst).Nodup := by decide
  exact (StringMap.getElem?_ofList distinctLater).mpr List.mem_cons_self

/-- The evaluations of the join of the sample. -/
instance patientJoin_evaluated : Fact (
    (returns (evaluateJoin (.joinResults patientJoin) failedMembers false) (·.isFailed) = true ∧
      returns (evaluateJoin (.joinResults patientJoin) recoveredMembers false) (·.isReady) = true) ∧
    ¬ patientJoin.successes recoveredMembers < patientJoin.minimumSuccesses) where
  out := by decide +kernel

theorem patientJoin_fails : ∃ decision,
    evaluateJoin (.joinResults patientJoin) failedMembers false = .ok decision ∧
      decision.isFailed :=
  returns_eq_true.mp patientJoin_evaluated.out.1.1

theorem patientJoin_recovers : ∃ decision,
    evaluateJoin (.joinResults patientJoin) recoveredMembers false = .ok decision ∧
      decision.isReady :=
  returns_eq_true.mp patientJoin_evaluated.out.1.2

/-- A join that has failed can become ready when an optional member completes. -/
theorem not_join_decision_stable : ¬ ∀ (join : JoinResults) (members later : StringMap JoinMemberState)
    (first second : JoinDecision), Settles members later →
      evaluateJoin (.joinResults join) members false = .ok first →
      evaluateJoin (.joinResults join) later false = .ok second →
      (first.isReady → second.isReady) ∧ (first.isFailed → second.isFailed) := by
  intro stable
  obtain ⟨first, before, failed⟩ := patientJoin_fails
  obtain ⟨second, after, ready⟩ := patientJoin_recovers
  have stays := (stable patientJoin _ _ first second settles_recovered before after).2 failed
  -- No decision is both ready and failed.
  cases second with
  | ready => exact Bool.false_ne_true stays
  | failed => exact Bool.false_ne_true ready
  | waiting => exact Bool.false_ne_true stays

/-- The join of the sample was not to wait for its optional member, whose success makes it ready. -/
theorem join_decision_stable_sample : ∃ decision,
    evaluateJoin (.joinResults patientJoin) failedMembers false = .ok decision ∧
      decision.isFailed ∧ ∀ outcome,
        evaluateJoin (.joinResults patientJoin) recoveredMembers false = .ok outcome →
          outcome.isReady := by
  obtain ⟨decision, evaluated, failed⟩ := patientJoin_fails
  have recovers : ¬ patientJoin.StaysFailed recoveredMembers := by
    intro stays
    exact absurd (stays rfl) patientJoin_evaluated.out.2
  have stable := @join_decision_stable patientJoin _ _ false decision _ settles_recovered evaluated
  exact ⟨decision, evaluated, failed, (stable.2.2 failed recovers).1⟩

end Sample

end AgentMod
