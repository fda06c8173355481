import AgentMod.Verified.Variables.Agreement
import AgentMod.Verified.Variables.Projection

/-! The order of canonical values, what they have at their paths, and the deep merge of maps. -/

namespace AgentMod

namespace CanonicalVariableValue

theorem order_of_variant_ne {left right : CanonicalVariableValue} (apart : left.variant ≠ right.variant) :
    order left right = compare left.variant right.variant := by
  unfold order
  split <;> first | rfl | exact absurd rfl apart

mutual

theorem order_swap : ∀ left right : CanonicalVariableValue,
    (order left right).swap = order right left
  | .list lefts, right => by
    cases right <;> simp only [order] <;>
      first | exact orderItems_swap lefts _ | exact Std.OrientedCmp.eq_swap.symm
  | .map lefts, right => by
    cases right <;> simp only [order] <;>
      first | exact orderEntries_swap lefts _ | exact Std.OrientedCmp.eq_swap.symm
  | .approvalResult left, right | .boolean left, right | .integer left, right | .decimal left, right
  | .string left, right | .enum left, right | .sessionId left, right | .childId left, right
  | .taskId left, right | .artifactReference left, right | .secretReference left, right
  | .toolResultReference left, right | .nodeResultReference left, right | .timestampMillis left, right
  | .durationMillis left, right => by
    cases right <;> simp only [order] <;> exact Std.OrientedCmp.eq_swap.symm

theorem orderItems_swap : ∀ lefts rights : List CanonicalVariableValue,
    (orderItems lefts rights).swap = orderItems rights lefts
  | [], rights => by cases rights <;> rfl
  | left :: lefts, [] => rfl
  | left :: lefts, right :: rights => by
    simp only [orderItems, Ordering.swap_then, order_swap left right, orderItems_swap lefts rights]

theorem orderEntries_swap : ∀ lefts rights : List (String × CanonicalVariableValue),
    (orderEntries lefts rights).swap = orderEntries rights lefts
  | [], rights => by cases rights <;> rfl
  | left :: lefts, [] => rfl
  | (leftKey, left) :: lefts, (rightKey, right) :: rights => by
    have keys : (compare leftKey rightKey).swap = compare rightKey leftKey :=
      Std.OrientedCmp.eq_swap.symm
    simp only [orderEntries, Ordering.swap_then, keys, order_swap left right,
      orderEntries_swap lefts rights]

end

theorem isLE_then {first second : Ordering} :
    (first.then second).isLE ↔ first = .lt ∨ first = .eq ∧ second.isLE := by
  cases first <;> simp [Ordering.then]

theorem lt_of_lt_of_isLE {first second third : CanonicalVariableValue} (less : order first second = .lt)
    (below : (order second third).isLE) (together : (order first third).isLE) :
    order first third = .lt := by
  cases compared : order first third with
  | lt => rfl
  | gt => rw [compared] at together; cases together
  | eq =>
    rw [order_eq_eq] at compared
    rw [← compared, ← order_swap, less] at below
    cases below

theorem variant_le_of_isLE {left right : CanonicalVariableValue} (below : (order left right).isLE) :
    left.variant ≤ right.variant := by
  by_cases same : left.variant = right.variant
  · exact Nat.le_of_eq same
  · rw [order_of_variant_ne same, Nat.isLE_compare] at below
    exact below

theorem isLE_of_variant_ne {first second third : CanonicalVariableValue}
    (below : (order first second).isLE) (above : (order second third).isLE)
    (apart : ¬ (first.variant = second.variant ∧ second.variant = third.variant)) :
    (order first third).isLE := by
  have firstSecond := variant_le_of_isLE below
  have secondThird := variant_le_of_isLE above
  rw [order_of_variant_ne (by omega), Nat.isLE_compare]
  omega

mutual

/-- The order of values is transitive. -/
theorem order_trans : ∀ first second third : CanonicalVariableValue, (order first second).isLE →
    (order second third).isLE → (order first third).isLE
  | .list firsts, second, third, below, above => by
    by_cases same : variant (.list firsts) = second.variant ∧ second.variant = third.variant
    · obtain ⟨one, two⟩ := same
      cases second <;> try (cases one; done)
      cases third <;> try (cases two; done)
      exact orderItems_trans firsts _ _ below above
    · exact isLE_of_variant_ne below above same
  | .map firsts, second, third, below, above => by
    by_cases same : variant (.map firsts) = second.variant ∧ second.variant = third.variant
    · obtain ⟨one, two⟩ := same
      cases second <;> try (cases one; done)
      cases third <;> try (cases two; done)
      exact orderEntries_trans firsts _ _ below above
    · exact isLE_of_variant_ne below above same
  | .approvalResult first, second, third, below, above | .boolean first, second, third, below, above
  | .integer first, second, third, below, above | .decimal first, second, third, below, above
  | .string first, second, third, below, above | .enum first, second, third, below, above
  | .sessionId first, second, third, below, above | .childId first, second, third, below, above
  | .taskId first, second, third, below, above | .artifactReference first, second, third, below, above
  | .secretReference first, second, third, below, above
  | .toolResultReference first, second, third, below, above
  | .nodeResultReference first, second, third, below, above
  | .timestampMillis first, second, third, below, above
  | .durationMillis first, second, third, below, above => by
    refine Classical.byContradiction fun fails => ?_
    refine fails (isLE_of_variant_ne below above fun same => fails ?_)
    obtain ⟨one, two⟩ := same
    cases second <;> try (cases one; done)
    cases third <;> try (cases two; done)
    simp only [order] at below above ⊢
    exact Std.TransCmp.isLE_trans below above

theorem orderItems_trans : ∀ firsts seconds thirds : List CanonicalVariableValue,
    (orderItems firsts seconds).isLE → (orderItems seconds thirds).isLE →
    (orderItems firsts thirds).isLE
  | [], _, thirds, _, _ => by cases thirds <;> rfl
  | first :: firsts, [], _, below, _ => by cases below
  | first :: firsts, second :: seconds, [], _, above => by cases above
  | first :: firsts, second :: seconds, third :: thirds, below, above => by
    rw [orderItems, isLE_then] at below above ⊢
    rcases below with less | ⟨equal, below⟩
    · have up : (order second third).isLE := by
        rcases above with next | ⟨next, _⟩ <;> rw [next] <;> rfl
      exact Or.inl (lt_of_lt_of_isLE less up (order_trans first second third (by rw [less]; rfl) up))
    · rw [(order_eq_eq first second).mp equal]
      exact above.imp_right fun behind => ⟨behind.1, orderItems_trans firsts seconds thirds below behind.2⟩

theorem orderEntries_trans : ∀ firsts seconds thirds : List (String × CanonicalVariableValue),
    (orderEntries firsts seconds).isLE → (orderEntries seconds thirds).isLE →
    (orderEntries firsts thirds).isLE
  | [], _, thirds, _, _ => by cases thirds <;> rfl
  | first :: firsts, [], _, below, _ => by cases below
  | first :: firsts, second :: seconds, [], _, above => by cases above
  | (firstKey, first) :: firsts, (secondKey, second) :: seconds, (thirdKey, third) :: thirds, below,
      above => by
    rw [orderEntries, Ordering.then_assoc, isLE_then, isLE_then] at below above ⊢
    rcases below with less | ⟨keys, below⟩
    · have up : (compare secondKey thirdKey).isLE := by
        rcases above with next | ⟨next, _⟩ <;> rw [next] <;> rfl
      exact Or.inl (Std.TransCmp.lt_of_lt_of_isLE less up)
    · rw [Std.LawfulEqCmp.eq_of_compare keys]
      refine above.imp_right fun behind => ⟨behind.1, ?_⟩
      rcases below with less | ⟨equal, below⟩
      · have up : (order second third).isLE := by
          rcases behind.2 with next | ⟨next, _⟩ <;> rw [next] <;> rfl
        exact Or.inl (lt_of_lt_of_isLE less up (order_trans first second third (by rw [less]; rfl) up))
      · rw [(order_eq_eq first second).mp equal]
        exact behind.2.imp_right fun last =>
          ⟨last.1, orderEntries_trans firsts seconds thirds below last.2⟩

end

instance : Std.TransCmp order where
  eq_swap := (order_swap _ _).symm
  isLE_trans := order_trans _ _ _

/-- What a value has at a path of keys: an object, or a value that is none. -/
def leafAt : CanonicalVariableValue → List String → Option (Option CanonicalVariableValue)
  | .map _, [] => some none
  | value, [] => some (some value)
  | .map entries, key :: path => (entries.lookup key).bind fun value => leafAt value path
  | _, _ :: _ => none

theorem entriesWithinType_iff {entries : List (String × CanonicalVariableValue)} :
    EntriesWithinType entries ↔ ∀ entry ∈ entries, entry.2.WithinType := by
  induction entries with
  | nil => simp [EntriesWithinType]
  | cons entry rest ih => rw [EntriesWithinType, ih, List.forall_mem_cons]

theorem lookup_cons_eq {key : String} {entry : String × CanonicalVariableValue}
    {rest : List (String × CanonicalVariableValue)} :
    (entry :: rest).lookup key = if key = entry.1 then some entry.2 else rest.lookup key := by
  rw [List.lookup_cons]
  by_cases same : key = entry.1
  · rw [if_pos same, beq_iff_eq.mpr same]
  · rw [if_neg same, beq_eq_false_iff_ne.mpr same]

theorem lookup_insertEntry {key other : String} {value : CanonicalVariableValue}
    {entries : List (String × CanonicalVariableValue)} :
    (insertEntry key value entries).lookup other =
      if other = key then some value else entries.lookup other := by
  induction entries with
  | nil => rw [insertEntry, lookup_cons_eq]
  | cons entry rest ih =>
    rw [insertEntry]
    split
    · rw [lookup_cons_eq]
    · next equal =>
      have found : key = entry.1 := Std.LawfulEqCmp.eq_of_compare equal
      rw [lookup_cons_eq, lookup_cons_eq, ← found]
      split <;> rfl
    · next behind =>
      have apart : key ≠ entry.1 := fun same => by
        rw [same, (Std.ReflCmp.compare_self : compare entry.1 entry.1 = .eq)] at behind
        cases behind
      rw [lookup_cons_eq, lookup_cons_eq, ih]
      by_cases same : other = entry.1
      · rw [if_pos same, if_neg (fun also => apart (also.symm.trans same)), if_pos same]
      · rw [if_neg same, if_neg same]

theorem mem_insertEntry {key : String} {value : CanonicalVariableValue}
    {entries : List (String × CanonicalVariableValue)} {entry : String × CanonicalVariableValue}
    (listed : entry ∈ insertEntry key value entries) : entry = (key, value) ∨ entry ∈ entries := by
  induction entries with
  | nil => exact Or.inl (List.mem_singleton.mp listed)
  | cons first rest ih =>
    rw [insertEntry] at listed
    split at listed
    · exact List.mem_cons.mp listed
    · rcases List.mem_cons.mp listed with same | behind
      · exact Or.inl same
      · exact Or.inr (List.mem_cons_of_mem _ behind)
    · rcases List.mem_cons.mp listed with same | behind
      · exact Or.inr (same ▸ List.mem_cons_self)
      · exact (ih behind).imp_right (List.mem_cons_of_mem _)

theorem sorted_insertEntry {key : String} {value : CanonicalVariableValue}
    {entries : List (String × CanonicalVariableValue)}
    (sorted : (entries.map Prod.fst).Pairwise (compare · · = .lt)) :
    ((insertEntry key value entries).map Prod.fst).Pairwise (compare · · = .lt) := by
  induction entries with
  | nil => simp [insertEntry]
  | cons first rest ih =>
    obtain ⟨before, others⟩ := List.pairwise_cons.mp sorted
    rw [insertEntry]
    split
    · next less =>
      refine List.pairwise_cons.mpr ⟨fun other listed => ?_, sorted⟩
      rcases List.mem_cons.mp listed with rfl | behind
      · exact less
      · exact Std.TransCmp.lt_trans less (before other behind)
    · next equal =>
      have found : key = first.1 := Std.LawfulEqCmp.eq_of_compare equal
      rw [found]
      exact List.pairwise_cons.mpr ⟨before, others⟩
    · next greater =>
      refine List.pairwise_cons.mpr ⟨fun other listed => ?_, ih others⟩
      obtain ⟨entry, inside, rfl⟩ := List.mem_map.mp listed
      rcases mem_insertEntry inside with rfl | held
      · exact Std.OrientedCmp.lt_of_gt greater
      · exact before _ (List.mem_map_of_mem held)

theorem lookup_of_mem {entries : List (String × CanonicalVariableValue)} {key : String}
    {value : CanonicalVariableValue}
    (sorted : (entries.map Prod.fst).Pairwise (compare · · = .lt)) (listed : (key, value) ∈ entries) :
    entries.lookup key = some value := by
  induction entries with
  | nil => cases listed
  | cons first rest ih =>
    obtain ⟨before, others⟩ := List.pairwise_cons.mp sorted
    rw [lookup_cons_eq]
    rcases List.mem_cons.mp listed with rfl | behind
    · rw [if_pos rfl]
    · have less : compare first.1 key = .lt := before key (List.mem_map_of_mem behind)
      have apart : key ≠ first.1 := fun same => by
        rw [same, (Std.ReflCmp.compare_self : compare first.1 first.1 = .eq)] at less
        cases less
      rw [if_neg apart]
      exact ih others behind

theorem mem_of_lookup {entries : List (String × CanonicalVariableValue)} {key : String}
    {value : CanonicalVariableValue} (found : entries.lookup key = some value) :
    (key, value) ∈ entries := by
  induction entries with
  | nil => cases found
  | cons first rest ih =>
    rw [lookup_cons_eq] at found
    split at found
    · next same =>
      cases found
      rw [same]
      exact List.mem_cons_self
    · exact List.mem_cons_of_mem _ (ih found)

theorem lookup_eq_none {entries : List (String × CanonicalVariableValue)} {key : String}
    (before : ∀ other ∈ entries.map Prod.fst, compare key other = .lt) : entries.lookup key = none := by
  refine Option.eq_none_iff_forall_ne_some.mpr fun value found => ?_
  have less := before key (List.mem_map_of_mem (mem_of_lookup found))
  rw [(Std.ReflCmp.compare_self : compare key key = .eq)] at less
  cases less

theorem leafAt_map_cons {entries : List (String × CanonicalVariableValue)} {key : String}
    {path : List String} : leafAt (.map entries) (key :: path) =
      (entries.lookup key).bind fun value => leafAt value path := by
  rw [leafAt]

theorem leafAt_nil_of_ne {value : CanonicalVariableValue} (isMap : ∀ entries, value ≠ .map entries) :
    leafAt value [] = some (some value) := by
  cases value <;> first | rfl | exact absurd rfl (isMap _)

theorem leafAt_nil_isSome {value : CanonicalVariableValue} : (leafAt value []).isSome := by
  cases value <;> rfl

mutual

theorem eq_of_leafAt_eq : ∀ left right : CanonicalVariableValue, left.WithinType → right.WithinType →
    (∀ path, leafAt left path = leafAt right path) → left = right
  | .map lefts, right, leftRange, rightRange, same => by
    have whole := same []
    cases right with
    | map rights =>
      rw [WithinType] at leftRange rightRange
      rw [eq_of_lookup_eq lefts rights leftRange.1 leftRange.2 rightRange.1 rightRange.2
        fun key path => same (key :: path)]
    | _ => cases whole
  | .boolean _, right, _, _, same | .integer _, right, _, _, same | .decimal _, right, _, _, same
  | .string _, right, _, _, same | .enum _, right, _, _, same | .list _, right, _, _, same
  | .sessionId _, right, _, _, same | .childId _, right, _, _, same | .taskId _, right, _, _, same
  | .artifactReference _, right, _, _, same | .secretReference _, right, _, _, same
  | .toolResultReference _, right, _, _, same | .approvalResult _, right, _, _, same
  | .nodeResultReference _, right, _, _, same | .timestampMillis _, right, _, _, same
  | .durationMillis _, right, _, _, same => by
    have whole := same []
    cases right <;> first | exact Option.some.inj (Option.some.inj whole) | cases whole

/-- What maps have behind all keys tells them apart. -/
theorem eq_of_lookup_eq : ∀ lefts rights : List (String × CanonicalVariableValue),
    (lefts.map Prod.fst).Pairwise (compare · · = .lt) → EntriesWithinType lefts →
    (rights.map Prod.fst).Pairwise (compare · · = .lt) → EntriesWithinType rights →
    (∀ key path, (lefts.lookup key).bind (fun value => leafAt value path) =
      (rights.lookup key).bind fun value => leafAt value path) → lefts = rights
  | [], rights, _, _, _, _, same => by
    cases rights with
    | nil => rfl
    | cons right rights =>
      have first := same right.1 []
      rw [lookup_cons_eq, if_pos rfl, Option.bind_some] at first
      have found := @leafAt_nil_isSome right.2
      rw [← first] at found
      cases found
  | left :: lefts, rights, sorted, withinType, rightSorted, rightRange, same => by
    have found : ∃ value, rights.lookup left.1 = some value := by
      have first := same left.1 []
      rw [lookup_cons_eq, if_pos rfl, Option.bind_some] at first
      cases held : rights.lookup left.1 with
      | some value => exact ⟨value, rfl⟩
      | none =>
        have whole := @leafAt_nil_isSome left.2
        rw [first, held] at whole
        cases whole
    obtain ⟨value, held⟩ := found
    cases rights with
    | nil => cases held
    | cons right rights =>
      obtain ⟨before, others⟩ := List.pairwise_cons.mp sorted
      obtain ⟨rightBefore, rightOthers⟩ := List.pairwise_cons.mp rightSorted
      rw [EntriesWithinType] at withinType rightRange
      -- Both maps start with the least key of both.
      have keys : left.1 = right.1 := by
        by_contra apart
        rw [lookup_cons_eq, if_neg apart] at held
        have behind : compare right.1 left.1 = .lt :=
          rightBefore _ (List.mem_map.mpr ⟨_, mem_of_lookup held, rfl⟩)
        have missing : (left :: lefts).lookup right.1 = none := by
          refine lookup_eq_none fun other listed => ?_
          rcases List.mem_cons.mp listed with rfl | inside
          · exact behind
          · exact Std.TransCmp.lt_trans behind (before other inside)
        have first := same right.1 []
        rw [missing, lookup_cons_eq, if_pos rfl, Option.bind_some] at first
        have whole := @leafAt_nil_isSome right.2
        rw [← first] at whole
        cases whole
      have values : left.2 = right.2 := by
        refine eq_of_leafAt_eq left.2 right.2 withinType.1 rightRange.1 fun path => ?_
        have here := same left.1 path
        rwa [lookup_cons_eq, if_pos rfl, lookup_cons_eq, if_pos keys] at here
      have rest : lefts = rights := by
        refine eq_of_lookup_eq lefts rights others withinType.2 rightOthers rightRange.2 fun key path => ?_
        by_cases first : key = left.1
        · rw [first, lookup_eq_none before, keys, lookup_eq_none rightBefore]
        · have here := same key path
          rwa [lookup_cons_eq, if_neg first, lookup_cons_eq, if_neg (keys ▸ first)] at here
      rw [Prod.ext keys values, rest]

end

/-- Two values have the same wherever both have something. -/
def Agree (left right : CanonicalVariableValue) : Prop :=
  ∀ path first second, leafAt left path = some first → leafAt right path = some second →
    first = second

/-- Two maps have the same behind a key wherever both have something. -/
def AgreeAt (target source : List (String × CanonicalVariableValue)) (key : String) : Prop :=
  ∀ path first second, (target.lookup key).bind (fun value => leafAt value path) = some first →
    (source.lookup key).bind (fun value => leafAt value path) = some second → first = second

section Merging

variable {target rest : List (String × CanonicalVariableValue)} {key : String}
  {value existing merged : CanonicalVariableValue}

theorem agree_map {source : List (String × CanonicalVariableValue)} :
    Agree (.map target) (.map source) ↔ ∀ key, AgreeAt target source key := by
  constructor
  · exact fun agree key path first second left right => agree (key :: path) first second left right
  · intro agree path first second left right
    cases path with
    | nil =>
      cases left
      cases right
      rfl
    | cons key path => exact agree key path first second left right

/-- Maps agree with one more entry when they agree behind its key and behind the others. -/
theorem agree_cons (merged : CanonicalVariableValue) (apart : rest.lookup key = none) :
    Agree (.map target) (.map ((key, value) :: rest)) ↔
      (∀ existing, target.lookup key = some existing → Agree existing value) ∧
        Agree (.map (insertEntry key merged target)) (.map rest) := by
  rw [agree_map, agree_map]
  constructor
  · intro agree
    refine ⟨fun existing held path first second left right => ?_, fun other path first second left right => ?_⟩
    · refine agree key path first second (by rwa [held]) ?_
      rwa [lookup_cons_eq, if_pos rfl]
    · by_cases same : other = key
      · rw [same, apart] at right
        cases right
      · refine agree other path first second ?_ ?_
        · rwa [lookup_insertEntry, if_neg same] at left
        · rwa [lookup_cons_eq, if_neg same]
  · rintro ⟨here, others⟩ other path first second left right
    rw [lookup_cons_eq] at right
    split at right
    · next same =>
      cases held : target.lookup other with
      | none =>
        rw [held] at left
        cases left
      | some existing =>
        rw [held] at left
        have keyed : other = key := same
        exact here existing (keyed ▸ held) path first second left right
    · next other_ =>
      refine others other path first second ?_ right
      rwa [lookup_insertEntry, if_neg other_]

theorem leafAt_cons {result : List (String × CanonicalVariableValue)} (apart : rest.lookup key = none)
    (here : ∀ path, leafAt merged path =
      ((target.lookup key).bind fun existing => leafAt existing path).or (leafAt value path))
    (others : ∀ path, leafAt (.map result) path =
      (leafAt (.map (insertEntry key merged target)) path).or (leafAt (.map rest) path))
    (path : List String) : leafAt (.map result) path =
      (leafAt (.map target) path).or (leafAt (.map ((key, value) :: rest)) path) := by
  rw [others]
  cases path with
  | nil => rfl
  | cons other path =>
    rw [leafAt_map_cons, leafAt_map_cons, leafAt_map_cons, leafAt_map_cons, lookup_insertEntry,
      lookup_cons_eq]
    by_cases same : other = key
    · rw [if_pos same, if_pos same, same, apart, Option.bind_some, Option.bind_some, here]
      simp
    · rw [if_neg same, if_neg same]

/-- A value merges with what is held for its key, if they agree, into what both have. -/
def MergesValue (existing : Option CanonicalVariableValue) (value : CanonicalVariableValue) : Prop :=
  ((∃ merged, deepMergeValue existing value = .ok merged) ↔
    ∀ held, existing = some held → Agree held value) ∧
  ∀ merged, deepMergeValue existing value = .ok merged → merged.WithinType ∧
    ∀ path, leafAt merged path =
      (existing.bind fun held => leafAt held path).or (leafAt value path)

theorem mergesValue_none (withinType : value.WithinType) : MergesValue none value := by
  have whole : deepMergeValue none value = .ok value := by
    unfold deepMergeValue
    rfl
  refine ⟨iff_of_true ⟨value, whole⟩ (fun _ held => by cases held), fun merged merges => ?_⟩
  rw [whole] at merges
  cases merges
  exact ⟨withinType, fun _ => rfl⟩

/-- A value that is no map merges with itself only. -/
theorem mergesValue_of_ne (isMap : ∀ entries, value ≠ .map entries) (withinType : existing.WithinType) :
    MergesValue (some existing) value := by
  have whole : deepMergeValue (some existing) value =
      if existing = value then .ok existing else .error .mergeConflict := by
    unfold deepMergeValue
    split
    · next absent => cases absent
    · exact absurd rfl (isMap _)
    · next same _ =>
      cases same
      rfl
  have agree : Agree existing value ↔ existing = value := by
    constructor
    · intro agrees
      obtain ⟨found, isFound⟩ := Option.isSome_iff_exists.mp (@leafAt_nil_isSome existing)
      have same := agrees [] found _ isFound (leafAt_nil_of_ne isMap)
      rw [same] at isFound
      cases existing <;> first | exact Option.some.inj (Option.some.inj isFound) | cases isFound
    · rintro rfl path first second left right
      rw [left] at right
      exact Option.some.inj right
  constructor
  · rw [whole]
    constructor
    · rintro ⟨merged, merges⟩ held same
      cases same
      split at merges
      · next equal => exact agree.mpr equal
      · cases merges
    · intro agrees
      exact ⟨existing, if_pos (agree.mp (agrees existing rfl))⟩
  · intro merged merges
    rw [whole] at merges
    split at merges
    · next equal =>
      cases merges
      subst equal
      exact ⟨withinType, fun path => by simp⟩
    · cases merges

theorem mergesValue_map_of_ne {source : List (String × CanonicalVariableValue)}
    (isMap : ∀ entries, existing ≠ .map entries) : MergesValue (some existing) (.map source) := by
  have refused : deepMergeValue (some existing) (.map source) = .error .mergeConflict := by
    cases existing <;> first | rfl | exact absurd rfl (isMap _)
  constructor
  · rw [refused]
    constructor
    · rintro ⟨_, merges⟩
      cases merges
    · intro agrees
      have same := agrees existing rfl [] _ _ (leafAt_nil_of_ne isMap) rfl
      cases same
  · intro merged merges
    rw [refused] at merges
    cases merges

/-- A map merges into another one, if they agree, into what both have. -/
def Merges (target source : List (String × CanonicalVariableValue)) : Prop :=
  ((∃ merged, deepMerge target source = .ok merged) ↔ Agree (.map target) (.map source)) ∧
  ∀ merged, deepMerge target source = .ok merged → WithinType (.map merged) ∧
    ∀ path, leafAt (.map merged) path = (leafAt (.map target) path).or (leafAt (.map source) path)

theorem merges_cons (apart : rest.lookup key = none)
    (first : MergesValue (target.lookup key) value)
    (others : ∀ merged, deepMergeValue (target.lookup key) value = .ok merged →
      Merges (insertEntry key merged target) rest) : Merges target ((key, value) :: rest) := by
  have steps : ∀ result, deepMerge target ((key, value) :: rest) = .ok result ↔
      ∃ merged, deepMergeValue (target.lookup key) value = .ok merged ∧
        deepMerge (insertEntry key merged target) rest = .ok result := by
    intro result
    rw [deepMerge, bind_eq_ok]
  constructor
  · constructor
    · rintro ⟨result, merges⟩
      obtain ⟨merged, here, behind⟩ := (steps result).mp merges
      exact (agree_cons _ apart).mpr ⟨first.1.mp ⟨merged, here⟩, (others merged here).1.mp ⟨result, behind⟩⟩
    · intro agrees
      obtain ⟨merged, here⟩ := first.1.mpr ((agree_cons value apart).mp agrees).1
      obtain ⟨result, behind⟩ := (others merged here).1.mpr
        ((agree_cons merged apart).mp agrees).2
      exact ⟨result, (steps result).mpr ⟨merged, here, behind⟩⟩
  · intro result merges
    obtain ⟨merged, here, behind⟩ := (steps result).mp merges
    obtain ⟨withinType, leaves⟩ := (others merged here).2 result behind
    exact ⟨withinType, leafAt_cons apart (first.2 merged here).2 leaves⟩

theorem withinType_insertEntry (withinType : WithinType (.map target)) (valueRange : value.WithinType) :
    WithinType (.map (insertEntry key value target)) := by
  rw [WithinType, entriesWithinType_iff] at withinType ⊢
  refine ⟨sorted_insertEntry withinType.1, fun entry listed => ?_⟩
  rcases mem_insertEntry listed with rfl | held
  · exact valueRange
  · exact withinType.2 entry held

mutual

/-- A value merges with another one, if they agree, into what both have. -/
theorem mergesValue_some : ∀ value existing : CanonicalVariableValue, value.WithinType →
    existing.WithinType → MergesValue (some existing) value
  | .map source, existing, withinType, existingRange => by
    rw [WithinType] at withinType
    cases existing with
    | map target =>
      have merges := merges_of_withinType source target withinType.1 withinType.2 existingRange
      have whole : ∀ merged, deepMergeValue (some (.map target)) (.map source) = .ok merged ↔
          ∃ result, deepMerge target source = .ok result ∧ merged = .map result := by
        intro merged
        rw [deepMergeValue, map_eq_ok]
        simp only [eq_comm]
      constructor
      · constructor
        · rintro ⟨merged, done⟩ held same
          cases same
          obtain ⟨result, merged_, _⟩ := (whole merged).mp done
          exact merges.1.mp ⟨result, merged_⟩
        · intro agrees
          obtain ⟨result, merged⟩ := merges.1.mpr (agrees _ rfl)
          exact ⟨.map result, (whole _).mpr ⟨result, merged, rfl⟩⟩
      · intro merged done
        obtain ⟨result, merged_, rfl⟩ := (whole merged).mp done
        exact merges.2 result merged_
    | _ => exact mergesValue_map_of_ne fun _ same => by cases same
  | .boolean _, _, _, existingRange | .integer _, _, _, existingRange
  | .decimal _, _, _, existingRange | .string _, _, _, existingRange
  | .enum _, _, _, existingRange | .list _, _, _, existingRange
  | .sessionId _, _, _, existingRange | .childId _, _, _, existingRange
  | .taskId _, _, _, existingRange | .artifactReference _, _, _, existingRange
  | .secretReference _, _, _, existingRange | .toolResultReference _, _, _, existingRange
  | .approvalResult _, _, _, existingRange | .nodeResultReference _, _, _, existingRange
  | .timestampMillis _, _, _, existingRange | .durationMillis _, _, _, existingRange =>
    mergesValue_of_ne (fun _ same => by cases same) existingRange

theorem merges_of_withinType : ∀ source target : List (String × CanonicalVariableValue),
    (source.map Prod.fst).Pairwise (compare · · = .lt) → EntriesWithinType source →
    WithinType (.map target) → Merges target source
  | [], target, _, _, targetRange => by
    have done : deepMerge target [] = .ok target := by
      rw [deepMerge]
      rfl
    refine ⟨iff_of_true ⟨target, done⟩ (agree_map.mpr fun key path first second _ right => by cases right),
      fun merged merges => ?_⟩
    rw [done] at merges
    cases merges
    refine ⟨targetRange, fun path => ?_⟩
    cases path <;> simp [leafAt]
  | (key, value) :: rest, target, sorted, withinType, targetRange => by
    rw [EntriesWithinType] at withinType
    obtain ⟨before, others⟩ := List.pairwise_cons.mp sorted
    have first : MergesValue (target.lookup key) value := by
      cases held : target.lookup key with
      | none => exact mergesValue_none withinType.1
      | some existing =>
        rw [WithinType, entriesWithinType_iff] at targetRange
        exact mergesValue_some value existing withinType.1 (targetRange.2 _ (mem_of_lookup held))
    exact merges_cons (lookup_eq_none before) first fun merged merges =>
      merges_of_withinType rest _ others withinType.2 (withinType_insertEntry targetRange (first.2 merged merges).1)

end

end Merging

theorem Agree.symm {left right : CanonicalVariableValue} (agrees : Agree left right) :
    Agree right left := fun path first second inRight inLeft =>
  (agrees path second first inLeft inRight).symm

theorem agree_or {left right merged other : CanonicalVariableValue} (agrees : Agree left right)
    (leaves : ∀ path, leafAt merged path = (leafAt left path).or (leafAt right path)) :
    Agree merged other ↔ Agree left other ∧ Agree right other := by
  constructor
  · intro together
    refine ⟨fun path first second here there => together path first second ?_ there,
      fun path first second here there => together path first second ?_ there⟩
    · rw [leaves, here, Option.some_or]
    · rw [leaves, here]
      cases held : leafAt left path with
      | none => rfl
      | some leaf => rw [agrees path leaf first held here, Option.some_or]
  · rintro ⟨fromLeft, fromRight⟩ path first second here there
    rw [leaves, Option.or_eq_some_iff] at here
    rcases here with inLeft | ⟨_, inRight⟩
    · exact fromLeft path first second inLeft there
    · exact fromRight path first second inRight there

end CanonicalVariableValue

end AgentMod
