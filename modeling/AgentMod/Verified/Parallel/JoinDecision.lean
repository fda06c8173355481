import AgentMod.Verified.Parallel.JoinStability

/-! What a join's decision owes to its members, and the renaming under which a bound join is a plain one. -/

namespace AgentMod

variable {join : JoinResults} {members : StringMap JoinMemberState}

theorem toList_successful :
    (snapshotOf join members).successful.toList = join.successful members := by
  rw [snapshotOf, Std.ExtTreeSet.toList_filter, JoinResults.successful]

theorem count_filter_eq {items : List String} {keeps : String → Bool} {item : String} :
    (items.filter keeps).count item = if keeps item then items.count item else 0 := by
  split
  · next kept => exact List.count_filter kept
  · next dropped => exact List.count_eq_zero.mpr fun inside => dropped (List.mem_filter.mp inside).2

theorem parts_perm {items : List String} :
    (items.filter (fun member => members[member]?.any (·.isCompleted)) ++
      items.filter (fun member => members[member]?.any (·.isFailed)) ++
      items.filter (fun member => members[member]?.any (·.isCancelled)) ++
      items.filter (fun member => members[member]?.all (·.isPending))).Perm items := by
  rw [List.perm_iff_count]
  intro member
  simp only [List.count_append, count_filter_eq]
  cases found : members[member]? with
  | none => simp
  | some state =>
    cases state <;> simp [JoinMemberState.isCompleted, JoinMemberState.isFailed,
      JoinMemberState.isCancelled, JoinMemberState.isPending]

theorem parts_snapshotOf : join.Parts members (snapshotOf join members).failed
    (snapshotOf join members).cancelled (snapshotOf join members).missing
    (snapshotOf join members).successful.size where
  each_failed member := by simp [snapshotOf]
  each_cancelled member := by simp [snapshotOf]
  each_missing member := by simp [snapshotOf, IsOpen]
  partition := parts_perm
  count := by rw [← Std.ExtTreeSet.length_toList, toList_successful]

theorem size_successful_le
    (valid : validateJoinConfiguration join.required join.optional join.minimumSuccesses = .ok ()) :
    min (snapshotOf join members).successful.size maxU32 =
      (snapshotOf join members).successful.size := by
  simp only [validateJoinConfiguration, bind_eq_ok, exists_unit, refuseIf_eq_ok, not_or] at valid
  have bounded : join.required.size + join.optional.size ≤ maxMembers := not_lt.mp valid.1.2.1
  have inside : (snapshotOf join members).successful.toList ⊆
      join.required.toList ++ join.optional.toList := by
    intro member listed
    rw [toList_successful, JoinResults.successful, List.mem_filter, Std.ExtTreeSet.mem_toList,
      JoinResults.configured, Std.ExtTreeSet.mem_union_iff] at listed
    simpa using listed.1
  have counted := (List.subperm_of_subset StringSet.nodup_toList inside).length_le
  rw [Std.ExtTreeSet.length_toList, List.length_append, Std.ExtTreeSet.length_toList,
    Std.ExtTreeSet.length_toList] at counted
  have small : maxMembers ≤ maxU32 := by decide
  omega

section Results

theorem completedMember_eq_some {member : String} {listed : String × Nat × JoinMemberResult} :
    completedMember members member = some listed ↔
      listed.1 = member ∧ members[member]? = some (.completed listed.2.1 listed.2.2) := by
  obtain ⟨memberId, completionSequence, result⟩ := listed
  unfold completedMember
  split
  · next sequence earlier found =>
    rw [found, Option.some.injEq, Option.some.injEq, Prod.mk.injEq, Prod.mk.injEq,
      JoinMemberState.completed.injEq]
    exact and_congr_left fun _ => eq_comm
  · next other =>
    simp only [reduceCtorEq, false_iff, not_and]
    exact fun _ found => other _ _ found

theorem map_completedMember : ((join.successful members).filterMap (completedMember members)).map
    Prod.fst = join.successful members := by
  have each : ∀ member ∈ join.successful members,
      ((completedMember members member).map Prod.fst) = some member := by
    intro member listed
    have completed := (List.mem_filter.mp listed).2
    cases found : members[member]? with
    | none => simp [found] at completed
    | some state =>
      cases state with
      | completed => simp [completedMember, found]
      | _ => simp [found, JoinMemberState.isCompleted] at completed
  rw [List.map_filterMap, List.filterMap_congr each]
  exact List.filterMap_some

instance {ordering : JoinOrderingPolicy} : Std.TransCmp ordering.order := by
  cases ordering with
  | memberId =>
    exact inferInstanceAs (Std.TransCmp (compareOn fun member : String × Nat × JoinMemberResult =>
      member.1))
  | completionSequence => exact inferInstanceAs (Std.TransCmp (compareLex _ _))

theorem fst_eq_of_order_eq {ordering : JoinOrderingPolicy} {left right : String × Nat × JoinMemberResult}
    (equal : ordering.order left right = .eq) : left.1 = right.1 := by
  cases ordering with
  | memberId =>
    have named : compare left.1 right.1 = .eq := equal
    exact Std.LawfulEqCmp.eq_of_compare named
  | completionSequence =>
    have named : compare left.1 right.1 = .eq := (compareLex_eq_eq.mp equal).2
    exact Std.LawfulEqCmp.eq_of_compare named

variable {results : List ProjectedJoinMember}

theorem memberId_of_projectMember {projection : JoinResultProjection}
    {collection : JoinArtifactCollection} {listed : String × Nat × JoinMemberResult}
    {projected : ProjectedJoinMember}
    (projects : projectMember projection collection listed = .ok projected) :
    projected.memberId = listed.1 := by
  simp only [projectMember, bind_eq_ok, pure_eq_ok] at projects
  obtain ⟨_, _, rfl⟩ := projects
  rfl

theorem memberIds_of_projectResults (projected : projectResults (snapshotOf join members).successful
    members join.orderingPolicy join.resultProjection join.artifactCollection = .ok results) :
    results.map (·.memberId) = (sortBy join.orderingPolicy.order
      ((join.successful members).filterMap (completedMember members))).map Prod.fst := by
  rw [projectResults, toList_successful, mapM_eq_ok] at projected
  rw [eq_comm, ← List.forall₂_eq_eq_eq, List.forall₂_map_left_iff, List.forall₂_map_right_iff]
  exact projected.imp fun _ _ projects => (memberId_of_projectMember projects).symm

theorem perm_of_projectResults (projected : projectResults (snapshotOf join members).successful
    members join.orderingPolicy join.resultProjection join.artifactCollection = .ok results) :
    (results.map (·.memberId)).Perm (join.successful members) := by
  rw [memberIds_of_projectResults projected]
  have sorted := (@sortBy_perm _ join.orderingPolicy.order
    ((join.successful members).filterMap (completedMember members))).map Prod.fst
  rwa [map_completedMember] at sorted

theorem pairwise_of_projectResults (projected : projectResults (snapshotOf join members).successful
    members join.orderingPolicy join.resultProjection join.artifactCollection = .ok results) :
    (results.map (·.memberId)).Pairwise (join.Before members) := by
  have distinct : (results.map (·.memberId)).Nodup :=
    (perm_of_projectResults projected).nodup_iff.mpr (StringSet.nodup_toList.filter _)
  rw [memberIds_of_projectResults projected] at distinct ⊢
  rw [List.pairwise_map]
  refine (pairwise_sortBy.and (List.pairwise_map.mp distinct)).imp_of_mem ?_
  intro first second inFirst inSecond ordered
  obtain ⟨_, _, isFirst⟩ := List.mem_filterMap.mp (sortBy_perm.subset inFirst)
  obtain ⟨_, _, isSecond⟩ := List.mem_filterMap.mp (sortBy_perm.subset inSecond)
  have named := (completedMember_eq_some.mp isFirst).1
  have namedSecond := (completedMember_eq_some.mp isSecond).1
  refine ⟨first, second, named ▸ isFirst, namedSecond ▸ isSecond, ?_⟩
  -- The order is strict, since no member is listed twice.
  cases compared : join.orderingPolicy.order first second with
  | lt => rfl
  | eq => exact absurd (fst_eq_of_order_eq compared) ordered.2
  | gt => simp [compared] at ordered

end Results

section Decision

variable {timeoutElapsed : Bool} {decision : JoinDecision}

/-- A join whose required members have all ended fails or is ready when none of its members is open. -/
theorem decided_of_none_open
    (ended : ∀ member ∈ join.configured, ¬ IsOpen members member)
    (undecided : terminalReason join.failurePolicy join.minimumSuccesses
      (snapshotOf join members) = none) :
    isJoinReady join.failurePolicy join.minimumSuccesses (snapshotOf join members) := by
  have none_missing : (snapshotOf join members).missing = [] := by
    refine List.eq_nil_iff_forall_not_mem.mpr fun member listed => ?_
    have isOpen := (parts_snapshotOf.each_missing member).mp listed
    exact ended member isOpen.1 isOpen.2
  have terminal : (snapshotOf join members).requiredTerminal := by
    simp only [snapshotOf, List.all_eq_true]
    intro member required
    have closed := ended member (Std.ExtTreeSet.mem_union_iff.mpr
      (Or.inl (Std.ExtTreeSet.mem_toList.mp required)))
    unfold IsOpen at closed
    cases found : members[member]? with
    | none => simp [found] at closed
    | some state => simpa [found] using closed
  cases policy : join.failurePolicy with
  | failFast =>
    simp only [policy, terminalReason, isJoinReady, none_missing, List.length_nil, terminal]
      at undecided ⊢
    split at undecided
    · cases undecided
    · split at undecided
      · cases undecided
      · next enough => simpa using enough
  | minimumSuccess =>
    simp only [policy, terminalReason, isJoinReady, none_missing, List.length_nil] at undecided ⊢
    split at undecided
    · cases undecided
    · next enough => simpa using enough
  | waitRequired =>
    simp only [policy, terminalReason, isJoinReady, terminal] at undecided ⊢
    split at undecided
    · cases undecided
    · next enough => simpa using enough

theorem enough_of_isJoinReady
    (ready : isJoinReady join.failurePolicy join.minimumSuccesses (snapshotOf join members)) :
    join.minimumSuccesses ≤ (snapshotOf join members).successful.size := by
  cases policy : join.failurePolicy <;> simp_all [isJoinReady]

variable [ParallelSerde]

/-- A decision on a join names its members by what became of them, leaves none to wait for in vain,
and lists the results of a ready join once each in the configured order. -/
theorem join_decision_sound
    (evaluated : evaluateJoin (.joinResults join) members timeoutElapsed = .ok decision) :
    join.Sound members timeoutElapsed decision := by
  obtain ⟨configuration, _, decides⟩ := evaluateJoin_eq_ok.mp evaluated
  have count := @size_successful_le join members configuration
  have parts := @parts_snapshotOf join members
  rw [← count] at parts
  rw [decideJoin] at decides
  split at decides
  · -- There is a reason for failure.
    cases decides
    exact ⟨parts, rfl⟩
  · next undecided =>
    split at decides
    · next ready =>
      simp only [bind_eq_ok, pure_eq_ok] at decides
      obtain ⟨results, projected, rfl⟩ := decides
      exact ⟨parts, count.symm ▸ enough_of_isJoinReady ready, perm_of_projectResults projected,
        pairwise_of_projectResults projected, rfl⟩
    · next unready =>
      split at decides
      · cases decides
        exact ⟨parts, rfl⟩
      · next waits =>
        cases decides
        refine ⟨⟨_, _, parts⟩, Bool.eq_false_iff.mpr waits, ?_⟩
        -- A join without open members would be ready.
        by_contra closed
        exact unready (decided_of_none_open
          (fun member listed isOpen => closed ⟨member, listed, isOpen⟩) undecided)

end Decision

section Binding

variable {bindings : List ParallelMemberBinding}
  {membersByBranchId : StringMap JoinMemberState}

/-- The members behind one more binding. -/
def BoundMembers.bind (collected : BoundMembers) (binding : ParallelMemberBinding)
    (state : JoinMemberState) : BoundMembers where
  references := collected.references.insert binding.configuredReference
  branchIds := collected.branchIds.insert binding.branchId
  bound := collected.bound.insert binding.configuredReference state

/-- The references, the branches and the members of some bindings. -/
def boundBy (membersByBranchId : StringMap JoinMemberState)
    (bindings : List ParallelMemberBinding) : BoundMembers where
  references := .ofList (bindings.map (·.configuredReference))
  branchIds := .ofList (bindings.map (·.branchId))
  bound := renameMembers bindings membersByBranchId

theorem mem_boundBy_references {reference : String} :
    reference ∈ (boundBy membersByBranchId bindings).references ↔
      reference ∈ bindings.map (·.configuredReference) := by
  rw [boundBy, Std.ExtTreeSet.mem_ofList, List.contains_iff_mem]

theorem mem_boundBy_branchIds {branchId : String} :
    branchId ∈ (boundBy membersByBranchId bindings).branchIds ↔
      branchId ∈ bindings.map (·.branchId) := by
  rw [boundBy, Std.ExtTreeSet.mem_ofList, List.contains_iff_mem]

theorem boundBy_snoc {binding : ParallelMemberBinding} {state : JoinMemberState}
    (found : membersByBranchId[binding.branchId]? = some state) :
    boundBy membersByBranchId (bindings ++ [binding]) =
      (boundBy membersByBranchId bindings).bind binding state := by
  simp only [boundBy, BoundMembers.bind, renameMembers, List.map_append, List.map_cons, List.map_nil,
    List.filterMap_append, List.filterMap_cons, found, Option.map_some, List.filterMap_nil,
    Std.ExtTreeMap.ofList_eq_insertMany_empty, Std.ExtTreeMap.insertMany_append,
    Std.ExtTreeMap.insertMany_list_singleton, Std.ExtTreeSet.ofList_eq_insertMany_empty,
    Std.ExtTreeSet.insertMany_append, Std.ExtTreeSet.insertMany_list_singleton]

theorem renamed_sublist : ((bindings.filterMap fun binding =>
    membersByBranchId[binding.branchId]?.map (binding.configuredReference, ·)).map Prod.fst).Sublist
      (bindings.map (·.configuredReference)) := by
  induction bindings with
  | nil => exact List.Sublist.refl _
  | cons binding rest ih =>
    rw [List.filterMap_cons]
    cases membersByBranchId[binding.branchId]? with
    | none => exact ih.cons _
    | some state => exact ih.cons_cons _

theorem getElem?_renameMembers (distinct : (bindings.map (·.configuredReference)).Nodup)
    {reference : String} {state : JoinMemberState} :
    (renameMembers bindings membersByBranchId)[reference]? = some state ↔
      ∃ binding ∈ bindings, binding.configuredReference = reference ∧
        membersByBranchId[binding.branchId]? = some state := by
  rw [renameMembers, StringMap.getElem?_ofList (renamed_sublist.nodup distinct), List.mem_filterMap]
  refine exists_congr fun binding => and_congr_right fun _ => ?_
  simp only [Option.map_eq_some_iff, Prod.mk.injEq]
  constructor
  · rintro ⟨_, found, named, rfl⟩
    exact ⟨named, found⟩
  · rintro ⟨named, found⟩
    exact ⟨state, found, named, rfl⟩

theorem mem_keys_renameMembers (distinct : (bindings.map (·.configuredReference)).Nodup)
    (found : ∀ binding ∈ bindings, ∃ state, membersByBranchId[binding.branchId]? = some state)
    {reference : String} : reference ∈ (renameMembers bindings membersByBranchId).keys ↔
      reference ∈ bindings.map (·.configuredReference) := by
  rw [StringMap.mem_keys, List.mem_map]
  simp only [getElem?_renameMembers distinct]
  constructor
  · rintro ⟨_, binding, listed, named, _⟩
    exact ⟨binding, listed, named⟩
  · rintro ⟨binding, listed, named⟩
    obtain ⟨state, isState⟩ := found binding listed
    exact ⟨state, binding, listed, named, isState⟩

variable {join : JoinResults} {parallel : ParallelBranch}

/-- The checks of a bound join against the bound references. -/
theorem policy_iff {boundReferences : StringSet} (same : join.configured = boundReferences) :
    (¬ (parallel.joinPolicy = .all ∧ (¬ join.optional.isEmpty ∨ join.required ≠ boundReferences ∨
        join.minimumSuccesses ≠ boundReferences.size)) ∧
      ¬ (parallel.joinPolicy = .minimumSuccess ∧ join.failurePolicy ≠ .minimumSuccess)) ↔
      JoinPolicyAgrees parallel join := by
  subst same
  have required : (∀ member, member ∉ join.optional) → join.required = join.configured := by
    intro empty
    refine Std.ExtTreeSet.ext_mem fun member => ?_
    rw [JoinResults.configured, Std.ExtTreeSet.mem_union_iff]
    simp [empty member]
  have isEmpty_iff : join.optional.isEmpty ↔ ∀ member, member ∉ join.optional := by
    rw [Std.ExtTreeSet.isEmpty_iff]
    constructor
    · intro empty member
      rw [empty]
      exact Std.ExtTreeSet.not_mem_empty
    · exact fun none => Std.ExtTreeSet.ext_mem fun member => by simp [none member]
  constructor
  · rintro ⟨all, minimum⟩
    refine ⟨fun isAll => ?_, fun isMinimum => by_contra fun other => minimum ⟨isMinimum, other⟩⟩
    have empty := isEmpty_iff.mp (by_contra fun filled => all ⟨isAll, Or.inl filled⟩)
    refine ⟨empty, ?_⟩
    rw [required empty]
    exact by_contra fun differs => all ⟨isAll, Or.inr (Or.inr differs)⟩
  · rintro ⟨all, minimum⟩
    refine ⟨?_, fun checked => checked.2 (minimum checked.1)⟩
    rintro ⟨isAll, failing⟩
    obtain ⟨empty, count⟩ := all isAll
    rcases failing with filled | differs | other
    · exact filled (isEmpty_iff.mpr empty)
    · exact differs (required empty)
    · rw [required empty] at count
      exact other count

theorem configured_of_validate
    (valid : validateJoinConfiguration join.required join.optional join.minimumSuccesses = .ok ()) :
    join.configured.size ≠ 0 ∧ join.configured.size ≤ maxMembers := by
  simp only [validateJoinConfiguration, bind_eq_ok, exists_unit, refuseIf_eq_ok, not_or] at valid
  have inside : ∀ member, member ∈ join.configured ↔
      member ∈ join.required.toList ++ join.optional.toList := by
    intro member
    rw [JoinResults.configured, Std.ExtTreeSet.mem_union_iff]
    simp
  have counted := (List.subperm_of_subset (@StringSet.nodup_toList join.configured)
    fun member listed => (inside member).mp (Std.ExtTreeSet.mem_toList.mp listed)).length_le
  simp only [List.length_append, Std.ExtTreeSet.length_toList] at counted
  refine ⟨fun empty => valid.1.1 ?_, counted.trans (not_lt.mp valid.1.2.1)⟩
  -- Every required and every optional member is configured.
  rw [← Std.ExtTreeSet.length_toList, List.length_eq_zero_iff] at empty
  have none : join.required.toList ++ join.optional.toList = [] := by
    refine List.eq_nil_iff_forall_not_mem.mpr fun member listed => ?_
    have there := Std.ExtTreeSet.mem_toList.mpr ((inside member).mpr listed)
    rw [empty] at there
    cases there
  rw [← Std.ExtTreeSet.length_toList, ← Std.ExtTreeSet.length_toList, ← List.length_append, none]
  rfl

theorem BindsOneToOne.length_eq {configured : StringSet}
    (oneToOne : BindsOneToOne bindings membersByBranchId configured) :
    bindings.length = configured.size := by
  have same : (bindings.map (·.configuredReference)).Perm configured.toList := by
    rw [List.perm_ext_iff_of_nodup oneToOne.references StringSet.nodup_toList]
    intro reference
    rw [Std.ExtTreeSet.mem_toList]
    exact (oneToOne.configured reference).symm
  rw [← Std.ExtTreeSet.length_toList, ← same.length_eq, List.length_map]

variable [ParallelSerde] {timeoutElapsed : Bool} {decision : JoinDecision}

/-- A binding is accepted behind others. -/
structure Bindable (membersByBranchId : StringMap JoinMemberState) (collected : BoundMembers)
    (binding : ParallelMemberBinding) (state : JoinMemberState) : Prop where
  reference : validateIdentifier "join member reference" binding.configuredReference = .ok ()
  named : binding.IsNamed
  newReference : binding.configuredReference ∉ collected.references
  newBranch : binding.branchId ∉ collected.branchIds
  found : membersByBranchId[binding.branchId]? = some state
  valid : validateMemberState state = .ok ()

theorem bindMember_eq_ok {collected result : BoundMembers} {binding : ParallelMemberBinding} :
    bindMember membersByBranchId collected binding = .ok result ↔
      ∃ state, Bindable membersByBranchId collected binding state ∧
        result = collected.bind binding state := by
  simp only [bindMember, bind_eq_ok, exists_unit, refuseIf_eq_ok, okOr_eq_ok, pure_eq_ok,
    Std.ExtTreeSet.contains_iff_mem]
  constructor
  · rintro ⟨reference, branch, target, newReference, newBranch, state, found, valid, rfl⟩
    exact ⟨state, ⟨reference, ⟨branch, target⟩, newReference, newBranch, found, valid⟩, rfl⟩
  · rintro ⟨state, bindable, rfl⟩
    exact ⟨bindable.reference, bindable.named.1, bindable.named.2, bindable.newReference,
      bindable.newBranch, state, bindable.found, bindable.valid, rfl⟩

/-- A binding whose names are identifiers binds a branch with a valid state. -/
structure BindsState (membersByBranchId : StringMap JoinMemberState)
    (binding : ParallelMemberBinding) : Prop where
  reference : validateIdentifier "join member reference" binding.configuredReference = .ok ()
  named : binding.IsNamed
  found : ∃ state, membersByBranchId[binding.branchId]? = some state ∧
    validateMemberState state = .ok ()

/-- Bindings that bind each reference and each branch at most once. -/
structure BindsApart (membersByBranchId : StringMap JoinMemberState)
    (bindings : List ParallelMemberBinding) : Prop where
  references : (bindings.map (·.configuredReference)).Nodup
  branches : (bindings.map (·.branchId)).Nodup
  each : ∀ binding ∈ bindings, BindsState membersByBranchId binding

theorem bindsApart_snoc {binding : ParallelMemberBinding} :
    BindsApart membersByBranchId (bindings ++ [binding]) ↔
      BindsApart membersByBranchId bindings ∧
        ∃ state, Bindable membersByBranchId (boundBy membersByBranchId bindings) binding state := by
  constructor
  · intro apart
    have references := apart.references
    have branches := apart.branches
    rw [List.map_append, List.map_singleton, ← List.concat_eq_append, List.nodup_concat] at references branches
    have last := apart.each binding (by simp)
    obtain ⟨state, found, valid⟩ := last.found
    refine ⟨⟨references.2, branches.2, fun other listed => apart.each other (by simp [listed])⟩, state,
      last.reference, last.named, ?_, ?_, found, valid⟩
    · exact fun inside => references.1 (mem_boundBy_references.mp inside)
    · exact fun inside => branches.1 (mem_boundBy_branchIds.mp inside)
  · rintro ⟨apart, state, bindable⟩
    refine ⟨?_, ?_, ?_⟩
    · rw [List.map_append, List.map_singleton, ← List.concat_eq_append, List.nodup_concat]
      exact ⟨fun listed => bindable.newReference (mem_boundBy_references.mpr listed), apart.references⟩
    · rw [List.map_append, List.map_singleton, ← List.concat_eq_append, List.nodup_concat]
      exact ⟨fun listed => bindable.newBranch (mem_boundBy_branchIds.mpr listed), apart.branches⟩
    · intro other listed
      rcases List.mem_append.mp listed with earlier | last
      · exact apart.each other earlier
      · rw [List.mem_singleton.mp last]
        exact ⟨bindable.reference, bindable.named, state, bindable.found, bindable.valid⟩

theorem foldlM_bindMember {result : BoundMembers} :
    bindings.foldlM (bindMember membersByBranchId) ⟨∅, ∅, ∅⟩ = .ok result ↔
      BindsApart membersByBranchId bindings ∧ result = boundBy membersByBranchId bindings := by
  induction bindings using List.reverseRecOn generalizing result with
  | nil =>
    rw [List.foldlM_nil, pure_eq_ok]
    constructor
    · rintro rfl
      exact ⟨⟨List.nodup_nil, List.nodup_nil, fun _ listed => by cases listed⟩, rfl⟩
    · exact fun same => same.2.symm
  | append_singleton earlier binding ih =>
    rw [List.foldlM_append, bind_eq_ok, bindsApart_snoc]
    simp only [ih, List.foldlM_cons, List.foldlM_nil, bind_eq_ok, pure_eq_ok, bindMember_eq_ok]
    constructor
    · rintro ⟨collected, ⟨apart, rfl⟩, next, ⟨state, bindable, rfl⟩, rfl⟩
      exact ⟨⟨apart, state, bindable⟩, (boundBy_snoc bindable.found).symm⟩
    · rintro ⟨⟨apart, state, bindable⟩, rfl⟩
      exact ⟨_, ⟨apart, rfl⟩, _, ⟨state, bindable, rfl⟩, (boundBy_snoc bindable.found).symm⟩

theorem bindParallelJoinMembers_eq_ok {bound : StringMap JoinMemberState} :
    bindParallelJoinMembers bindings membersByBranchId = .ok bound ↔
      (bindings ≠ [] ∧ bindings.length ≤ maxMembers) ∧ BindsApart membersByBranchId bindings ∧
        (∀ branchId, (∃ state, membersByBranchId[branchId]? = some state) →
          branchId ∈ bindings.map (·.branchId)) ∧
        bound = renameMembers bindings membersByBranchId := by
  simp only [bindParallelJoinMembers, bind_eq_ok, exists_unit, refuseIf_eq_ok, pure_eq_ok,
    foldlM_bindMember, not_or, not_lt]
  constructor
  · rintro ⟨count, _, ⟨apart, rfl⟩, known, rfl⟩
    refine ⟨count, apart, fun branchId running => ?_, rfl⟩
    rw [← @mem_boundBy_branchIds bindings membersByBranchId]
    by_contra unknown
    have absent : !(boundBy membersByBranchId bindings).branchIds.contains branchId := by
      simpa [Std.ExtTreeSet.contains_iff_mem, ← Bool.not_eq_true] using unknown
    exact known (List.any_eq_true.mpr ⟨branchId, StringMap.mem_keys.mpr running, absent⟩)
  · rintro ⟨count, apart, known, rfl⟩
    refine ⟨count, _, ⟨apart, rfl⟩, fun unknown => ?_, rfl⟩
    obtain ⟨branchId, listed, absent⟩ := List.any_eq_true.mp unknown
    have inside := (@mem_boundBy_branchIds bindings membersByBranchId branchId).mpr
      (known branchId (StringMap.mem_keys.mp listed))
    rw [Std.ExtTreeSet.contains_iff_mem.mpr inside] at absent
    exact Bool.false_ne_true absent

/-- A bound join is evaluated exactly when its bindings bind the branches and the members one to one,
their names are identifiers, the two policies agree and the plain join of the renamed members is
evaluated; the decision is the one of that join. -/
theorem bound_join_renames {parallelConfiguration joinConfiguration : NodeConfiguration} :
    evaluateBoundParallelJoin parallelConfiguration joinConfiguration bindings membersByBranchId
        timeoutElapsed = .ok decision ↔
      ∃ parallel join, parallelConfiguration = .parallelBranch parallel ∧
        joinConfiguration = .joinResults join ∧
        BindsOneToOne bindings membersByBranchId join.configured ∧
        (∀ binding ∈ bindings, binding.IsNamed) ∧ JoinPolicyAgrees parallel join ∧
        evaluateJoin joinConfiguration (renameMembers bindings membersByBranchId) timeoutElapsed =
          .ok decision := by
  rw [evaluateBoundParallelJoin, bind_eq_ok]
  simp only [bindParallelJoinMembers_eq_ok]
  constructor
  · rintro ⟨_, ⟨count, apart, known, rfl⟩, evaluated⟩
    split at evaluated
    · next parallel =>
      split at evaluated
      · next join =>
        simp only [bind_eq_ok, exists_unit, refuseIf_eq_ok, not_not, ne_eq] at evaluated
        obtain ⟨same, all, minimum, evaluated⟩ := evaluated
        have found := fun binding listed => (apart.each binding listed).found
        have policies := (@policy_iff join parallel _ same).mp ⟨all, minimum⟩
        refine ⟨parallel, join, rfl, rfl, ⟨apart.references, apart.branches, fun reference => ?_,
          fun branchId => ⟨known branchId, fun listed => ?_⟩⟩,
          fun binding listed => (apart.each binding listed).named, policies, evaluated⟩
        · rw [JoinResults.configured, same, Std.ExtTreeSet.mem_ofList, List.contains_iff_mem]
          exact mem_keys_renameMembers apart.references fun binding listed =>
            (found binding listed).imp fun _ isState => isState.1
        · obtain ⟨binding, inside, rfl⟩ := List.mem_map.mp listed
          exact (found binding inside).imp fun _ isState => isState.1
      · cases evaluated
    · cases evaluated
  · rintro ⟨parallel, join, rfl, rfl, oneToOne, named, policies, evaluated⟩
    obtain ⟨configuration, valid, _⟩ := evaluateJoin_eq_ok.mp evaluated
    have count := configured_of_validate configuration
    have found : ∀ binding ∈ bindings, ∃ state,
        membersByBranchId[binding.branchId]? = some state := fun binding listed =>
      (oneToOne.running _).mpr (List.mem_map_of_mem listed)
    have same : join.configured = .ofList (renameMembers bindings membersByBranchId).keys := by
      refine Std.ExtTreeSet.ext_mem fun reference => ?_
      rw [oneToOne.configured, Std.ExtTreeSet.mem_ofList, List.contains_iff_mem]
      exact (mem_keys_renameMembers oneToOne.references found).symm
    obtain ⟨all, minimum⟩ := (@policy_iff join parallel _ same).mpr policies
    have apart : BindsApart membersByBranchId bindings := by
      refine ⟨oneToOne.references, oneToOne.branches, fun binding listed => ?_⟩
      obtain ⟨state, isState⟩ := found binding listed
      have renamed := (getElem?_renameMembers oneToOne.references).mpr ⟨binding, listed, rfl, isState⟩
      have checked := valid _ (Std.ExtTreeMap.mem_toList_iff_getElem?_eq_some.mpr renamed)
      simp only [validateMember, bind_eq_ok, exists_unit] at checked
      have isReference := checked.1
      rw [validateIdentifier, refuseIf_eq_ok] at isReference
      refine ⟨?_, named binding listed, state, isState, checked.2.1⟩
      rw [validateIdentifier, refuseIf_eq_ok]
      exact isReference
    rw [← oneToOne.length_eq] at count
    refine ⟨_, ⟨⟨fun empty => count.1 (by rw [empty]; rfl), count.2⟩, apart,
      fun branchId => (oneToOne.running branchId).mp, rfl⟩, ?_⟩
    simp only [bind_eq_ok, exists_unit, refuseIf_eq_ok, not_not, ne_eq]
    exact ⟨same, all, minimum, evaluated⟩

end Binding

section Sample

attribute [local instance] plainSerde

/-- The members of the sample's join, bound to two branches. -/
def patientBindings : List ParallelMemberBinding :=
  [⟨"a", "left", 0, "branch-left"⟩, ⟨"b", "right", 1, "branch-right"⟩]

/-- Both branches are running. -/
def runningBranches : StringMap JoinMemberState :=
  Std.ExtTreeMap.ofList [("branch-left", JoinMemberState.pending), ("branch-right", .pending)]

/-- A fan-out that waits for all of its branches. -/
def waitingFanOut : ParallelBranch := { narrowFanOut with joinPolicy := .all }

/-- The bound join of the sample is refused. -/
instance patientBindings_refused : Fact (returns (evaluateBoundParallelJoin
    (.parallelBranch waitingFanOut) (.joinResults patientJoin) patientBindings runningBranches false)
      (fun _ => true) = false) where
  out := by decide +kernel

theorem patientBindings_oneToOne :
    BindsOneToOne patientBindings runningBranches patientJoin.configured where
  references := by decide
  branches := by decide
  configured reference := by
    simp [patientBindings, patientJoin, JoinResults.configured, @eq_comm _ reference]
  running branchId := by
    have distinct : ([("branch-left", JoinMemberState.pending),
      ("branch-right", .pending)].map Prod.fst).Nodup := by decide
    simp [runningBranches, StringMap.getElem?_ofList distinct, patientBindings, exists_or]

/-- A fan-out that waits for all branches refuses an optional member, whatever the bindings bind. -/
theorem not_bound_join_renames : ¬ ∀ (parallel : ParallelBranch) (join : JoinResults)
    (bindings : List ParallelMemberBinding) (branches : StringMap JoinMemberState)
    (timeoutElapsed : Bool), (∃ decision, evaluateBoundParallelJoin (.parallelBranch parallel)
        (.joinResults join) bindings branches timeoutElapsed = .ok decision) ↔
      BindsOneToOne bindings branches join.configured := by
  intro accepts
  obtain ⟨decision, evaluated⟩ := (accepts waitingFanOut patientJoin patientBindings runningBranches
    false).mpr patientBindings_oneToOne
  have refused := patientBindings_refused.out
  rw [evaluated] at refused
  exact Bool.noConfusion refused

/-- The join of the sample is ready with the one result of its optional member. -/
theorem join_decision_sound_sample : ∃ decision,
    evaluateJoin (.joinResults patientJoin) recoveredMembers false = .ok decision ∧
      decision.isReady ∧ patientJoin.Sound recoveredMembers false decision := by
  obtain ⟨decision, evaluated, ready⟩ := patientJoin_recovers
  exact ⟨decision, evaluated, ready, join_decision_sound evaluated⟩

end Sample

end AgentMod
