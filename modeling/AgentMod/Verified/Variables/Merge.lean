import AgentMod.Verified.Variables.DeepMerge
import AgentMod.Variables.Runs

/-! What merging the contributions of branches depends on, and what it does not. -/

namespace AgentMod

open CanonicalVariableValue

/-- The contributions of branches are maps. -/
def AreMaps (branches : List BranchVariableValue) : Prop :=
  ∀ branch ∈ branches, ∃ entries, branch.value = .map entries

/-- The contributions of branches are values of their types. -/
def AreWithinType (branches : List BranchVariableValue) : Prop :=
  ∀ branch ∈ branches, branch.value.WithinType

section Contributions

variable {branches left right : List BranchVariableValue} {merged : CanonicalVariableValue}

/-- One step of a deep merge. -/
def mergeEntries (merged : List (String × CanonicalVariableValue)) (branch : BranchVariableValue) :
    VariableCheck (List (String × CanonicalVariableValue)) := do
  deepMerge merged (← branchEntries branch)

theorem mergeEntries_eq_ok {target result : List (String × CanonicalVariableValue)}
    {branch : BranchVariableValue} : mergeEntries target branch = .ok result ↔
      ∃ entries, branch.value = .map entries ∧ deepMerge target entries = .ok result := by
  rw [mergeEntries, bind_eq_ok]
  refine exists_congr fun entries => and_congr_left fun _ => ?_
  unfold branchEntries
  split
  · next other same =>
    rw [same]
    simp
  · next other =>
    constructor
    · intro failed
      cases failed
    · exact fun same => absurd same (other entries)

/-- The contributions of branches merge into a map, if they are maps that agree with it and with one
another, into what all of them have. -/
theorem foldlM_mergeEntries {target : List (String × CanonicalVariableValue)}
    (targetRange : (CanonicalVariableValue.map target).WithinType) (withinType : AreWithinType branches) :
    ((∃ result, branches.foldlM mergeEntries target = .ok result) ↔ AreMaps branches ∧
      (∀ branch ∈ branches, Agree (.map target) branch.value) ∧
        branches.Pairwise fun first second => Agree first.value second.value) ∧
    ∀ result, branches.foldlM mergeEntries target = .ok result →
      (CanonicalVariableValue.map result).WithinType ∧ ∀ path leaf, leafAt (.map result) path = some leaf ↔
        leafAt (.map target) path = some leaf ∨ ∃ branch ∈ branches, leafAt branch.value path = some leaf := by
  induction branches generalizing target with
  | nil =>
    have empty : AreMaps [] ∧
        (∀ branch ∈ ([] : List BranchVariableValue), Agree (.map target) branch.value) ∧
        ([] : List BranchVariableValue).Pairwise fun first second => Agree first.value second.value :=
      ⟨by simp [AreMaps], by simp, List.Pairwise.nil⟩
    refine ⟨iff_of_true ⟨target, rfl⟩ empty, fun result merges => ?_⟩
    cases merges
    simp [targetRange]
  | cons branch rest ih =>
    obtain ⟨branchRange, restRange⟩ := List.forall_mem_cons.mp withinType
    have steps : ∀ result, (branch :: rest).foldlM mergeEntries target = .ok result ↔
        ∃ entries middle, branch.value = .map entries ∧ deepMerge target entries = .ok middle ∧
          rest.foldlM mergeEntries middle = .ok result := by
      intro result
      rw [List.foldlM_cons, bind_eq_ok]
      simp only [mergeEntries_eq_ok]
      constructor
      · rintro ⟨middle, ⟨entries, same, merges⟩, behind⟩
        exact ⟨entries, middle, same, merges, behind⟩
      · rintro ⟨entries, middle, same, merges, behind⟩
        exact ⟨middle, ⟨entries, same, merges⟩, behind⟩
    by_cases isMap : ∃ entries, branch.value = .map entries
    · obtain ⟨entries, same⟩ := isMap
      rw [same, WithinType] at branchRange
      obtain ⟨agrees, merged⟩ := merges_of_withinType entries target branchRange.1 branchRange.2 targetRange
      have later : ∀ middle, deepMerge target entries = .ok middle →
          ((∃ result, rest.foldlM mergeEntries middle = .ok result) ↔ AreMaps rest ∧
            (∀ other ∈ rest, Agree (.map target) other.value ∧ Agree branch.value other.value) ∧
              rest.Pairwise fun first second => Agree first.value second.value) := by
        intro middle merges
        obtain ⟨middleRange, leaves⟩ := merged middle merges
        have both := fun other => @agree_or _ _ _ other (agrees.mp ⟨middle, merges⟩) leaves
        rw [(@ih middle middleRange restRange).1, same]
        simp only [both]
      constructor
      · constructor
        · rintro ⟨result, merges⟩
          obtain ⟨_, middle, also, here, behind⟩ := (steps result).mp merges
          cases same.symm.trans also
          obtain ⟨maps, agree, pairwise⟩ := (later middle here).mp ⟨result, behind⟩
          refine ⟨List.forall_mem_cons.mpr ⟨⟨entries, same⟩, maps⟩, List.forall_mem_cons.mpr ⟨?_, ?_⟩,
            List.pairwise_cons.mpr ⟨fun other listed => (agree other listed).2, pairwise⟩⟩
          · rw [same]
            exact agrees.mp ⟨middle, here⟩
          · exact fun other listed => (agree other listed).1
        · rintro ⟨maps, agree, pairwise⟩
          obtain ⟨first, others⟩ := List.forall_mem_cons.mp agree
          obtain ⟨apart, pairwise⟩ := List.pairwise_cons.mp pairwise
          rw [same] at first
          obtain ⟨middle, here⟩ := agrees.mpr first
          obtain ⟨result, behind⟩ := (later middle here).mpr ⟨(List.forall_mem_cons.mp maps).2,
            fun other listed => ⟨others other listed, apart other listed⟩, pairwise⟩
          exact ⟨result, (steps result).mpr ⟨entries, middle, same, here, behind⟩⟩
      · intro result merges
        obtain ⟨_, middle, also, here, behind⟩ := (steps result).mp merges
        cases same.symm.trans also
        obtain ⟨middleRange, leaves⟩ := merged middle here
        obtain ⟨resultRange, union⟩ := (@ih middle middleRange restRange).2 result behind
        refine ⟨resultRange, fun path leaf => ?_⟩
        rw [union, leaves, List.exists_mem_cons_iff, same, ← or_assoc]
        refine or_congr_left ?_
        rw [Option.or_eq_some_iff]
        constructor
        · rintro (first | ⟨_, second⟩)
          · exact Or.inl first
          · exact Or.inr second
        · rintro (first | second)
          · exact Or.inl first
          · cases held : leafAt (.map target) path with
            | none => exact Or.inr ⟨rfl, second⟩
            | some other => rw [agrees.mp ⟨middle, here⟩ path other leaf held second]; exact Or.inl rfl
    · constructor
      · refine iff_of_false ?_ fun conditions => isMap (conditions.1 branch List.mem_cons_self)
        rintro ⟨result, merges⟩
        obtain ⟨entries, _, same, _⟩ := (steps result).mp merges
        exact isMap ⟨entries, same⟩
      · intro result merges
        obtain ⟨entries, _, same, _⟩ := (steps result).mp merges
        exact absurd ⟨entries, same⟩ isMap

theorem mem_insertValue {value other : CanonicalVariableValue} {values : List CanonicalVariableValue} :
    other ∈ insertValue value values ↔ other = value ∨ other ∈ values := by
  induction values with
  | nil => rw [insertValue, List.mem_singleton]; simp
  | cons first rest ih =>
    rw [insertValue]
    split
    · rw [List.mem_cons]
    · next equal =>
      rw [(order_eq_eq value first).mp equal, List.mem_cons]
      simp
    · rw [List.mem_cons, ih, List.mem_cons]
      exact or_left_comm

theorem sorted_insertValue {values : List CanonicalVariableValue} (value : CanonicalVariableValue)
    (sorted : values.Pairwise (order · · = .lt)) :
    (insertValue value values).Pairwise (order · · = .lt) := by
  induction values with
  | nil => exact List.pairwise_singleton _ _
  | cons first rest ih =>
    obtain ⟨before, others⟩ := List.pairwise_cons.mp sorted
    rw [insertValue]
    split
    · next less =>
      refine List.pairwise_cons.mpr ⟨fun other listed => ?_, sorted⟩
      rcases List.mem_cons.mp listed with rfl | behind
      · exact less
      · exact Std.TransCmp.lt_trans less (before other behind)
    · exact sorted
    · next greater =>
      refine List.pairwise_cons.mpr ⟨fun other listed => ?_, ih others⟩
      rcases mem_insertValue.mp listed with rfl | held
      · exact Std.OrientedCmp.lt_of_gt greater
      · exact before other held

theorem foldl_insertValue {target : List CanonicalVariableValue} (values : List CanonicalVariableValue)
    (sorted : target.Pairwise (order · · = .lt)) :
    (values.foldl (fun merged value => insertValue value merged) target).Pairwise (order · · = .lt) ∧
      ∀ value, value ∈ values.foldl (fun merged value => insertValue value merged) target ↔
        value ∈ target ∨ value ∈ values := by
  induction values generalizing target with
  | nil => simpa using sorted
  | cons first rest ih =>
    rw [List.foldl_cons]
    obtain ⟨rest_, members⟩ := ih (sorted_insertValue first sorted)
    refine ⟨rest_, fun value => ?_⟩
    rw [members, mem_insertValue, List.mem_cons, or_assoc, or_left_comm]

/-- One step of a union. -/
def mergeItems (merged : List CanonicalVariableValue) (branch : BranchVariableValue) :
    VariableCheck (List CanonicalVariableValue) := do
  return (← branchItems branch).foldl (fun merged value => insertValue value merged) merged

/-- The contributions of branches are lists. -/
def AreLists (branches : List BranchVariableValue) : Prop :=
  ∀ branch ∈ branches, ∃ values, branch.value = .list values

theorem mergeItems_eq_ok {target result : List CanonicalVariableValue} {branch : BranchVariableValue} :
    mergeItems target branch = .ok result ↔ ∃ values, branch.value = .list values ∧
      result = values.foldl (fun merged value => insertValue value merged) target := by
  rw [mergeItems, bind_eq_ok]
  simp only [pure_eq_ok]
  refine exists_congr fun values => and_congr ?_ eq_comm
  unfold branchItems
  split
  · next other same =>
    rw [same]
    simp
  · next other =>
    constructor
    · intro failed
      cases failed
    · exact fun same => absurd same (other values)

/-- The contributions of branches merge into a set, if they are lists, of what all of them hold. -/
theorem foldlM_mergeItems {target : List CanonicalVariableValue}
    (sorted : target.Pairwise (order · · = .lt)) :
    ((∃ result, branches.foldlM mergeItems target = .ok result) ↔ AreLists branches) ∧
    ∀ result, branches.foldlM mergeItems target = .ok result →
      result.Pairwise (order · · = .lt) ∧ ∀ value, value ∈ result ↔ value ∈ target ∨
        ∃ branch ∈ branches, ∃ values, branch.value = .list values ∧ value ∈ values := by
  induction branches generalizing target with
  | nil =>
    have empty : AreLists [] := by simp [AreLists]
    refine ⟨iff_of_true ⟨target, rfl⟩ empty, fun result merges => ?_⟩
    cases merges
    simpa using sorted
  | cons branch rest ih =>
    have steps : ∀ result, (branch :: rest).foldlM mergeItems target = .ok result ↔
        ∃ values, branch.value = .list values ∧ rest.foldlM mergeItems
          (values.foldl (fun merged value => insertValue value merged) target) = .ok result := by
      intro result
      rw [List.foldlM_cons, bind_eq_ok]
      simp only [mergeItems_eq_ok]
      constructor
      · rintro ⟨_, ⟨values, same, rfl⟩, behind⟩
        exact ⟨values, same, behind⟩
      · rintro ⟨values, same, behind⟩
        exact ⟨_, ⟨values, same, rfl⟩, behind⟩
    constructor
    · rw [AreLists, List.forall_mem_cons]
      constructor
      · rintro ⟨result, merges⟩
        obtain ⟨values, same, behind⟩ := (steps result).mp merges
        exact ⟨⟨values, same⟩, (ih (foldl_insertValue values sorted).1).1.mp ⟨result, behind⟩⟩
      · rintro ⟨⟨values, same⟩, lists⟩
        obtain ⟨result, behind⟩ := (ih (foldl_insertValue values sorted).1).1.mpr lists
        exact ⟨result, (steps result).mpr ⟨values, same, behind⟩⟩
    · intro result merges
      obtain ⟨values, same, behind⟩ := (steps result).mp merges
      obtain ⟨here, held⟩ := foldl_insertValue values sorted
      obtain ⟨resultSorted, members⟩ := (ih here).2 result behind
      refine ⟨resultSorted, fun value => ?_⟩
      rw [members, held, List.exists_mem_cons_iff, same, or_assoc]
      refine or_congr_right (or_congr_left ?_)
      constructor
      · exact fun listed => ⟨values, rfl, listed⟩
      · rintro ⟨others, also, listed⟩
        cases also
        exact listed

theorem eq_of_mem_iff {lefts rights : List CanonicalVariableValue}
    (leftSorted : lefts.Pairwise (order · · = .lt)) (rightSorted : rights.Pairwise (order · · = .lt))
    (same : ∀ value, value ∈ lefts ↔ value ∈ rights) : lefts = rights := by
  have apart : ∀ {values : List CanonicalVariableValue}, values.Pairwise (order · · = .lt) →
      values.Nodup := fun sorted => sorted.imp fun {first second} less equal => by
    rw [equal, (order_eq_eq second second).mpr rfl] at less
    cases less
  refine ((List.perm_ext_iff_of_nodup (apart leftSorted) (apart rightSorted)).mpr same).eq_of_pairwise
    (fun first second _ _ less greater => ?_) leftSorted rightSorted
  have swapped : order second first = .gt := Std.OrientedCmp.gt_of_lt less
  rw [swapped] at greater
  cases greater

theorem agree_empty {entries : List (String × CanonicalVariableValue)} :
    Agree (.map []) (.map entries) :=
  agree_map.mpr fun _ _ _ _ left _ => by cases left

theorem mergeValues_deepMerge : mergeValues .deepMerge branches = .ok merged ↔
    ∃ entries, branches.foldlM mergeEntries [] = .ok entries ∧ merged = .map entries := by
  change ((branches.foldlM mergeEntries []).bind fun entries => .ok (.map entries)) = .ok merged ↔ _
  cases branches.foldlM mergeEntries [] with
  | error failed => simp [Except.bind]
  | ok entries => simp [Except.bind, eq_comm]

theorem mergeValues_union : mergeValues .union branches = .ok merged ↔
    ∃ values, branches.foldlM mergeItems [] = .ok values ∧ merged = .list values := by
  change ((branches.foldlM mergeItems []).bind fun values => .ok (.list values)) = .ok merged ↔ _
  cases branches.foldlM mergeItems [] with
  | error failed => simp [Except.bind]
  | ok values => simp [Except.bind, eq_comm]

/-- Maps merge deeply exactly when any two of them agree, and then into what all of them have. -/
theorem deepMerge_iff (withinType : AreWithinType branches) :
    ((∃ merged, mergeValues .deepMerge branches = .ok merged) ↔ AreMaps branches ∧
      branches.Pairwise fun first second => Agree first.value second.value) ∧
    ∀ merged, mergeValues .deepMerge branches = .ok merged → merged.WithinType ∧
      ∀ path leaf, leafAt merged path = some leaf ↔ path = [] ∧ leaf = none ∨
        ∃ branch ∈ branches, leafAt branch.value path = some leaf := by
  have empty : (CanonicalVariableValue.map []).WithinType := by simp [WithinType, EntriesWithinType]
  obtain ⟨accepts, union⟩ := @foldlM_mergeEntries branches [] empty withinType
  constructor
  · constructor
    · rintro ⟨merged, merges⟩
      obtain ⟨entries, folded, _⟩ := mergeValues_deepMerge.mp merges
      obtain ⟨maps, _, pairwise⟩ := accepts.mp ⟨entries, folded⟩
      exact ⟨maps, pairwise⟩
    · rintro ⟨maps, pairwise⟩
      have agree : ∀ branch ∈ branches, Agree (.map []) branch.value := by
        intro branch listed
        obtain ⟨entries, same⟩ := maps branch listed
        rw [same]
        exact agree_empty
      obtain ⟨entries, folded⟩ := accepts.mpr ⟨maps, agree, pairwise⟩
      exact ⟨_, mergeValues_deepMerge.mpr ⟨entries, folded, rfl⟩⟩
  · intro merged merges
    obtain ⟨entries, folded, rfl⟩ := mergeValues_deepMerge.mp merges
    obtain ⟨mergedRange, leaves⟩ := union entries folded
    refine ⟨mergedRange, fun path leaf => ?_⟩
    rw [leaves]
    refine or_congr_left ?_
    cases path with
    | nil => simp [leafAt, eq_comm]
    | cons key path => simp [leafAt]

theorem forall_value_iff (property : CanonicalVariableValue → Prop)
    (same : (left.map (·.value)).Perm (right.map (·.value))) :
    (∀ branch ∈ left, property branch.value) ↔ ∀ branch ∈ right, property branch.value := by
  have mapped : ∀ branches : List BranchVariableValue, (∀ branch ∈ branches, property branch.value) ↔
      ∀ value ∈ branches.map (·.value), property value := fun branches => by simp
  rw [mapped, mapped]
  exact forall_congr' fun value => by rw [same.mem_iff]

theorem exists_value_iff (property : CanonicalVariableValue → Prop)
    (same : (left.map (·.value)).Perm (right.map (·.value))) :
    (∃ branch ∈ left, property branch.value) ↔ ∃ branch ∈ right, property branch.value := by
  have negated := forall_value_iff (fun value => ¬ property value) same
  rw [← not_iff_not]
  simpa using negated

/-- A union and a deep merge depend on the values of the branches only. -/
theorem mergeValues_perm {policy : VariableMergePolicy} (either : policy = .union ∨ policy = .deepMerge)
    (same : (left.map (·.value)).Perm (right.map (·.value))) (withinType : AreWithinType left)
    (merges : mergeValues policy left = .ok merged) : mergeValues policy right = .ok merged := by
  rcases either with rfl | rfl
  · obtain ⟨values, folded, rfl⟩ := mergeValues_union.mp merges
    obtain ⟨accepts, union⟩ := @foldlM_mergeItems left [] List.Pairwise.nil
    obtain ⟨acceptsRight, unionRight⟩ := @foldlM_mergeItems right [] List.Pairwise.nil
    have lists := (forall_value_iff (fun value => ∃ values, value = .list values) same).mp
      (accepts.mp ⟨values, folded⟩)
    obtain ⟨others, foldedRight⟩ := acceptsRight.mpr lists
    obtain ⟨sorted, members⟩ := union values folded
    obtain ⟨sortedRight, membersRight⟩ := unionRight others foldedRight
    have equal : others = values := eq_of_mem_iff sortedRight sorted fun value => by
      rw [members, membersRight]
      exact or_congr_right (exists_value_iff
        (fun held => ∃ values, held = .list values ∧ value ∈ values) same).symm
    exact mergeValues_union.mpr ⟨others, foldedRight, by rw [equal]⟩
  · obtain ⟨accepts, leaves⟩ := deepMerge_iff withinType
    have rightRange : AreWithinType right := (forall_value_iff WithinType same).mp withinType
    obtain ⟨acceptsRight, leavesRight⟩ := deepMerge_iff rightRange
    obtain ⟨maps, pairwise⟩ := accepts.mp ⟨merged, merges⟩
    have mapsRight : AreMaps right :=
      (forall_value_iff (fun value => ∃ entries, value = .map entries) same).mp maps
    have pairwiseRight : right.Pairwise fun first second => Agree first.value second.value := by
      have mapped := List.pairwise_map.mpr pairwise
      exact List.pairwise_map.mp (same.pairwise mapped fun agrees => agrees.symm)
    obtain ⟨other, mergesRight⟩ := acceptsRight.mpr ⟨mapsRight, pairwiseRight⟩
    obtain ⟨mergedRange, here⟩ := leaves merged merges
    obtain ⟨otherRange, there⟩ := leavesRight other mergesRight
    have equal : other = merged := by
      refine eq_of_leafAt_eq other merged otherRange mergedRange fun path => Option.ext fun leaf => ?_
      rw [here, there]
      exact or_congr_right (exists_value_iff
        (fun held => leafAt held path = some leaf) same).symm
    rw [← equal]
    exact mergesRight

end Contributions

section Environments

variable {environment next : CanonicalVariableEnvironment}
  {declaration : VariableDeclaration} {writer : VariableWriter} {left right : List BranchVariableValue}
  {value : CanonicalVariableValue}

namespace CanonicalVariableEnvironment

theorem sortBranches_perm (same : left.Perm right) (distinct : (left.map (·.branchId)).Nodup) :
    sortBranches left = sortBranches right := by
  refine sortBy_eq same fun first inFirst second inSecond equal => ?_
  have named : first.branchId = second.branchId := by
    rw [compareBranches, Ordering.then_eq_eq] at equal
    exact Std.LawfulEqCmp.eq_of_compare equal.2
  exact List.inj_on_of_nodup_map distinct inFirst inSecond named

variable [VariableSerde]

/-- The branches that a writer may merge, under a declaration with a policy. -/
structure Merges (environment : CanonicalVariableEnvironment) (declaration : VariableDeclaration)
    (writer : VariableWriter) (policy : VariableMergePolicy) (branches : List BranchVariableValue) :
    Prop where
  outside : writer.branch = none
  shared : declaration.scope ≠ .branch
  declared : declaration.mergePolicy = some policy
  filled : branches ≠ []
  named : ∀ branch ∈ branches, ¬ branch.branchId.isEmpty
  distinct : (branches.map (·.branchId)).Nodup
  valid : ∀ branch ∈ branches, environment.validateValue declaration writer branch.value = .ok ()

theorem mergedValue_iff : environment.mergedValue declaration writer left = .ok value ↔
    ∃ policy, environment.Merges declaration writer policy left ∧
      mergeValues policy (sortBranches left) = .ok value ∧
      environment.validateValue declaration writer value = .ok () := by
  have sorted : (sortBranches left).Perm left := sortBy_perm
  simp only [mergedValue, bind_eq_ok, refuseIf_eq_ok, okOr_eq_ok, exists_unit, pure_eq_ok, forM_eq_ok,
    not_not]
  have ids : (∀ id ∈ (sortBranches left).map BranchVariableValue.branchId, ¬ id.isEmpty = true) ↔
      ∀ branch ∈ left, ¬ branch.branchId.isEmpty = true := by
    simp only [List.forall_mem_map, sorted.mem_iff]
  have distinct : ((sortBranches left).map BranchVariableValue.branchId).Nodup ↔
      (left.map (·.branchId)).Nodup := (sorted.map _).nodup_iff
  simp only [ids, distinct, sorted.mem_iff]
  constructor
  · rintro ⟨outside, shared, policy, declared, filled, ⟨named, apart⟩, valid, _, merges, fits, rfl⟩
    exact ⟨policy, ⟨by simpa using outside, shared, declared, filled, named, apart, valid⟩, merges, fits⟩
  · rintro ⟨policy, ⟨outside, shared, declared, filled, named, apart, valid⟩, merges, fits⟩
    exact ⟨by simp [outside], shared, policy, declared, filled, ⟨named, apart⟩, valid, value, merges,
      fits, rfl⟩

theorem Merges.congr {policy : VariableMergePolicy} (merges : environment.Merges declaration writer policy left)
    (same : (left.map fun branch => (branch.branchId, branch.value)).Perm
      (right.map fun branch => (branch.branchId, branch.value))) :
    environment.Merges declaration writer policy right := by
  have ids : (left.map (·.branchId)).Perm (right.map (·.branchId)) := by
    simpa [Function.comp_def] using same.map Prod.fst
  have values : (left.map (·.value)).Perm (right.map (·.value)) := by
    simpa [Function.comp_def] using same.map Prod.snd
  refine ⟨merges.outside, merges.shared, merges.declared, ?_, ?_, ids.nodup_iff.mp merges.distinct, ?_⟩
  · rintro rfl
    exact merges.filled (by simpa using same)
  · intro branch listed
    have named : branch.branchId ∈ left.map (·.branchId) :=
      ids.mem_iff.mpr (List.mem_map_of_mem listed)
    obtain ⟨other, inLeft, alike⟩ := List.mem_map.mp named
    rw [← alike]
    exact merges.named other inLeft
  · exact (forall_value_iff (fun value =>
      environment.validateValue declaration writer value = .ok ()) values).mp merges.valid

theorem mergedValue_perm (same : left.Perm right)
    (merged : environment.mergedValue declaration writer left = .ok value) :
    environment.mergedValue declaration writer right = .ok value := by
  obtain ⟨policy, merges, combined, fits⟩ := mergedValue_iff.mp merged
  rw [sortBranches_perm same merges.distinct] at combined
  exact mergedValue_iff.mpr ⟨policy, merges.congr (same.map _), combined, fits⟩

theorem mergedValue_reordered
    (either : declaration.mergePolicy = some .union ∨ declaration.mergePolicy = some .deepMerge)
    (withinType : AreWithinType left)
    (same : (left.map fun branch => (branch.branchId, branch.value)).Perm
      (right.map fun branch => (branch.branchId, branch.value)))
    (merged : environment.mergedValue declaration writer left = .ok value) :
    environment.mergedValue declaration writer right = .ok value := by
  obtain ⟨policy, merges, combined, fits⟩ := mergedValue_iff.mp merged
  have united : policy = .union ∨ policy = .deepMerge := by
    simpa [merges.declared] using either
  have sortedLeft : (sortBranches left).Perm left := sortBy_perm
  have sortedRight : (sortBranches right).Perm right := sortBy_perm
  have values : (left.map (·.value)).Perm (right.map (·.value)) := by
    simpa [Function.comp_def] using same.map Prod.snd
  have sortedValues : ((sortBranches left).map (·.value)).Perm ((sortBranches right).map (·.value)) :=
    ((sortedLeft.map _).trans values).trans (sortedRight.map _).symm
  have sortedRange : AreWithinType (sortBranches left) :=
    fun branch listed => withinType branch (sortedLeft.mem_iff.mp listed)
  exact mergedValue_iff.mpr
    ⟨policy, merges.congr same, mergeValues_perm united sortedValues sortedRange combined, fits⟩

variable [Hashing] {name : String} {expectedVersion : Option Nat} {entry : CanonicalVariableEntry}

theorem mergeBranches_congr
    (alike : ∀ declaration value, environment.declarations[name]? = some declaration →
      (environment.mergedValue declaration writer left = .ok value ↔
        environment.mergedValue declaration writer right = .ok value)) :
    (mergeBranches name writer expectedVersion left).apply environment = (.ok entry, next) ↔
      (mergeBranches name writer expectedVersion right).apply environment = (.ok entry, next) := by
  rw [mergeBranches_eq_ok, mergeBranches_eq_ok]
  refine exists_congr fun declaration => and_congr_right fun writes => ?_
  rw [alike declaration entry.value writes.declared]

end CanonicalVariableEnvironment

end Environments

open CanonicalVariableEnvironment

/-- A merge depends neither on the order of the branches nor, for unions and deep merges, on their
stable orders, and maps merge deeply exactly when no path has two things in them. -/
theorem merge_order_independent [VariableSerde] [Hashing] {environment next : CanonicalVariableEnvironment}
    {name : String} {writer : VariableWriter} {expectedVersion : Option Nat}
    {entry : CanonicalVariableEntry} {left right : List BranchVariableValue} :
    (left.Perm right →
      ((mergeBranches name writer expectedVersion left).apply environment = (.ok entry, next) ↔
        (mergeBranches name writer expectedVersion right).apply environment = (.ok entry, next))) ∧
    (AreWithinType left →
      (left.map fun branch => (branch.branchId, branch.value)).Perm
        (right.map fun branch => (branch.branchId, branch.value)) →
      (∀ declaration, environment.declarations[name]? = some declaration →
        declaration.mergePolicy = some .union ∨ declaration.mergePolicy = some .deepMerge) →
      ((mergeBranches name writer expectedVersion left).apply environment = (.ok entry, next) ↔
        (mergeBranches name writer expectedVersion right).apply environment = (.ok entry, next))) ∧
    (AreWithinType left → AreMaps left →
      ((∃ merged, mergeValues .deepMerge left = .ok merged) ↔
        left.Pairwise fun first second => Agree first.value second.value) ∧
      ∀ merged, mergeValues .deepMerge left = .ok merged → merged.WithinType ∧
        ∀ path leaf, path ≠ [] → (leafAt merged path = some leaf ↔
          ∃ branch ∈ left, leafAt branch.value path = some leaf)) := by
  refine ⟨fun same => ?_, fun withinType same either => ?_, fun withinType maps => ?_⟩
  · exact mergeBranches_congr fun _ _ _ => ⟨mergedValue_perm same, mergedValue_perm same.symm⟩
  · refine mergeBranches_congr fun declaration _ declared => ?_
    have values : (left.map (·.value)).Perm (right.map (·.value)) := by
      simpa [Function.comp_def] using same.map Prod.snd
    have rightRange : AreWithinType right := (forall_value_iff WithinType values).mp withinType
    exact ⟨mergedValue_reordered (either declaration declared) withinType same,
      mergedValue_reordered (either declaration declared) rightRange same.symm⟩
  · obtain ⟨accepts, leaves⟩ := deepMerge_iff withinType
    refine ⟨by rw [accepts, and_iff_right maps], fun merged merges => ?_⟩
    obtain ⟨mergedRange, leaves⟩ := leaves merged merges
    exact ⟨mergedRange, fun path leaf inner => by simp [leaves, inner]⟩

section Sample

attribute [local instance] plainVariables prefixHash

/-- A declaration of settings that branches contribute to. -/
def settingsDeclaration : VariableDeclaration :=
  { flagDeclaration with
    name := "settings", valueType := .map (.map .boolean 8) 8, mergePolicy := some .deepMerge }

/-- An environment that declares the settings. -/
def settingsEnvironment : CanonicalVariableEnvironment where
  declarations := (∅ : StringMap VariableDeclaration).insert "settings" settingsDeclaration
  entries := ∅
  limits := .default

/-- The settings of a branch, which hold one flag. -/
def settingsBranch (branchId : String) (stableOrder : Nat) (flag : String) (value : Bool) :
    BranchVariableValue :=
  ⟨branchId, stableOrder, .map [("colors", .map [(flag, .boolean value)])]⟩

/-- The settings of two branches. -/
def settingsBranches : List BranchVariableValue :=
  [settingsBranch "left" 0 "dark" true, settingsBranch "right" 1 "plain" false]

/-- The settings of two branches that were dispatched the other way round. -/
def settingsSwapped : List BranchVariableValue :=
  [settingsBranch "right" 0 "plain" false, settingsBranch "left" 1 "dark" true]

theorem areWithinType_settings : AreWithinType settingsBranches := by
  simp [AreWithinType, settingsBranches, settingsBranch, WithinType, EntriesWithinType]

/-- The settings of both branches. -/
def settingsMerged : CanonicalVariableValue :=
  .map [("colors", .map [("dark", .boolean true), ("plain", .boolean false)])]

/-- The settings of two branches agree, and merge alike in either order. -/
theorem merge_order_independent_sample :
    (settingsBranches.Pairwise fun first second => Agree first.value second.value) ∧
    ((∃ entry next, (mergeBranches "settings" .runtime none settingsBranches).apply settingsEnvironment =
        (.ok entry, next)) ↔
      ∃ entry next, (mergeBranches "settings" .runtime none settingsBranches.reverse).apply
        settingsEnvironment = (.ok entry, next)) ∧
    ((∃ entry next, (mergeBranches "settings" .runtime none settingsBranches).apply settingsEnvironment =
        (.ok entry, next)) ↔
      ∃ entry next, (mergeBranches "settings" .runtime none settingsSwapped).apply
        settingsEnvironment = (.ok entry, next)) := by
  have maps : AreMaps settingsBranches := by simp [AreMaps, settingsBranches, settingsBranch]
  have merges : mergeValues .deepMerge settingsBranches = .ok settingsMerged := by decide +kernel
  have deep : ∀ declaration, settingsEnvironment.declarations["settings"]? = some declaration →
      declaration.mergePolicy = some .union ∨ declaration.mergePolicy = some .deepMerge := by
    intro declaration declared
    rw [settingsEnvironment, Std.ExtTreeMap.getElem?_insert_self, Option.some.injEq] at declared
    subst declared
    exact .inr rfl
  have same : (settingsBranches.map fun branch => (branch.branchId, branch.value)).Perm
      (settingsSwapped.map fun branch => (branch.branchId, branch.value)) := .swap _ _ _
  refine ⟨?_, ?_, ?_⟩
  · exact ((@merge_order_independent _ _ settingsEnvironment settingsEnvironment "settings" .runtime none
      ⟨settingsMerged, 1, Hashing.digest [], .runtime, none⟩ settingsBranches []).2.2 areWithinType_settings maps).1.mp
        ⟨_, merges⟩
  · exact exists_congr fun entry => exists_congr fun next =>
      merge_order_independent.1 (List.reverse_perm _).symm
  · exact exists_congr fun entry => exists_congr fun next =>
      merge_order_independent.2.1 areWithinType_settings same deep

end Sample

end AgentMod
