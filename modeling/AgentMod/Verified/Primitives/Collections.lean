import AgentMod.Primitives.Collections

/-! Laws of the ordered collections: membership, listing and distinctness. -/

namespace AgentMod

namespace StringMap

variable {α : Type} {items : StringMap α}

theorem values_eq : items.values = items.toList.map Prod.snd := by
  obtain ⟨⟨inner⟩⟩ := items
  induction inner using Quotient.inductionOn with
  | h tree =>
    change tree.inner.values = (Std.DTreeMap.Internal.Impl.Const.toList tree.inner).map Prod.snd
    rw [Std.DTreeMap.Internal.Impl.values_eq_map_snd,
      Std.DTreeMap.Internal.Impl.Const.toList_eq_toListModel_map, List.map_map]
    rfl

theorem mem_values {value : α} : value ∈ items.values ↔ ∃ key : String, items[key]? = some value := by
  rw [values_eq, List.mem_map]
  constructor
  · rintro ⟨⟨key, _⟩, member, rfl⟩
    exact ⟨key, Std.ExtTreeMap.mem_toList_iff_getElem?_eq_some.mp member⟩
  · rintro ⟨key, found⟩
    exact ⟨(key, value), Std.ExtTreeMap.mem_toList_iff_getElem?_eq_some.mpr found, rfl⟩

theorem nodup_keys : items.keys.Nodup :=
  Std.ExtTreeMap.distinct_keys.imp fun {left right} differs same => by
    subst same
    exact differs Std.ReflCmp.compare_self

theorem mem_keys {key : String} : key ∈ items.keys ↔ ∃ value, items[key]? = some value := by
  rw [Std.ExtTreeMap.mem_keys, Std.ExtTreeMap.mem_iff_isSome_getElem?, Option.isSome_iff_exists]

theorem getElem?_of_not_mem_keys {key : String} (absent : key ∉ items.keys) :
    items[key]? = none := by
  rw [Std.ExtTreeMap.mem_keys] at absent
  exact Std.ExtTreeMap.getElem?_eq_none absent

theorem contains_iff {key : String} : items.contains key ↔ ∃ value, items[key]? = some value := by
  rw [← mem_keys, Std.ExtTreeMap.mem_keys, Std.ExtTreeMap.mem_iff_contains]

theorem forall_toList {property : String × α → Prop} :
    (∀ entry ∈ items.toList, property entry) ↔
      ∀ (key : String) value, items[key]? = some value → property (key, value) := by
  constructor
  · intro all key value found
    exact all (key, value) (Std.ExtTreeMap.mem_toList_iff_getElem?_eq_some.mpr found)
  · rintro all ⟨key, value⟩ member
    exact all key value (Std.ExtTreeMap.mem_toList_iff_getElem?_eq_some.mp member)

theorem contains_of_size_le {β : Type} {others : StringMap β}
    (included : ∀ key, items.contains key → others.contains key)
    (size : others.size ≤ items.size) {key : String} (present : others.contains key) :
    items.contains key := by
  have subset : items.keys ⊆ others.keys := by
    intro key member
    rw [mem_keys, ← contains_iff] at member ⊢
    exact included key member
  have same := (List.subperm_of_subset nodup_keys subset).perm_of_length_le (by
    rwa [Std.ExtTreeMap.length_keys, Std.ExtTreeMap.length_keys])
  rw [contains_iff, ← mem_keys] at present ⊢
  exact same.symm.subset present

theorem size_eq {β : Type} {others : StringMap β}
    (same : ∀ key, items.contains key ↔ others.contains key) : items.size = others.size := by
  rw [← Std.ExtTreeMap.length_keys, ← Std.ExtTreeMap.length_keys]
  refine ((List.perm_ext_iff_of_nodup nodup_keys nodup_keys).mpr fun key => ?_).length_eq
  rw [mem_keys, mem_keys, ← contains_iff, ← contains_iff]
  exact same key

theorem getElem?_insert' {key other : String} {value : α} :
    (items.insert key value)[other]? = if key = other then some value else items[other]? := by
  rw [Std.ExtTreeMap.getElem?_insert]
  simp only [Std.LawfulEqCmp.compare_eq_iff_eq]

theorem getElem?_erase' {key other : String} :
    (items.erase key)[other]? = if key = other then none else items[other]? := by
  rw [Std.ExtTreeMap.getElem?_erase]
  simp only [Std.LawfulEqCmp.compare_eq_iff_eq]

theorem getElem?_insertIfNew' {key other : String} {value : α} (absent : items[key]? = none) :
    (items.insertIfNew key value)[other]? = if key = other then some value else items[other]? := by
  have missing : key ∉ items := by
    rw [Std.ExtTreeMap.mem_iff_isSome_getElem?, absent]
    simp
  rw [Std.ExtTreeMap.getElem?_insertIfNew]
  simp only [Std.LawfulEqCmp.compare_eq_iff_eq, missing, not_false_eq_true, and_true]

theorem insertIfNew_eq {key : String} {old value : α} (found : items[key]? = some old) :
    items.insertIfNew key value = items := by
  apply Std.ExtTreeMap.ext_getElem?
  intro other
  have present : key ∈ items := by
    rw [Std.ExtTreeMap.mem_iff_isSome_getElem?, found]
    rfl
  rw [Std.ExtTreeMap.getElem?_insertIfNew, if_neg (fun absent => absent.2 present)]

theorem getElem?_ofList {entries : List (String × α)} (distinct : (entries.map Prod.fst).Nodup)
    {key : String} {value : α} :
    (Std.ExtTreeMap.ofList entries : StringMap α)[key]? = some value ↔ (key, value) ∈ entries := by
  have apart : entries.Pairwise fun left right => ¬ compare left.1 right.1 = .eq :=
    (List.pairwise_map.mp distinct).imp fun differs same =>
      differs (Std.LawfulEqCmp.compare_eq_iff_eq.mp same)
  constructor
  · intro found
    by_cases listed : (entries.map Prod.fst).contains key
    · obtain ⟨⟨_, other⟩, member, rfl⟩ := List.mem_map.mp (List.contains_iff_mem.mp listed)
      rw [Std.ExtTreeMap.getElem?_ofList_of_mem Std.ReflCmp.compare_self apart member] at found
      exact Option.some.inj found ▸ member
    · rw [Std.ExtTreeMap.getElem?_ofList_of_contains_eq_false (by simpa using listed)] at found
      exact nomatch found
  · exact Std.ExtTreeMap.getElem?_ofList_of_mem Std.ReflCmp.compare_self apart

theorem getElem?_ofList_const {keys : List String} (distinct : keys.Nodup) {value : α}
    {key : String} : (Std.ExtTreeMap.ofList (keys.map fun key => (key, value)) : StringMap α)[key]? =
      if key ∈ keys then some value else none := by
  have apart : ((keys.map fun key => (key, value)).map Prod.fst).Nodup := by
    simpa [List.map_map, Function.comp_def] using distinct
  split
  · next member =>
    exact (getElem?_ofList apart).mpr (List.mem_map.mpr ⟨key, member, rfl⟩)
  · next absent =>
    refine Option.eq_none_iff_forall_ne_some.mpr fun other found => ?_
    obtain ⟨_, member, same⟩ := List.mem_map.mp ((getElem?_ofList apart).mp found)
    exact absent ((Prod.mk.inj same).1 ▸ member)

theorem nodup_toList : items.toList.Nodup :=
  Std.ExtTreeMap.distinct_keys_toList.imp fun {left right} differs same => by
    subst same
    exact differs Std.ReflCmp.compare_self

theorem toList_perm_erase {key : String} {value : α} (found : items[key]? = some value) :
    items.toList.Perm ((key, value) :: (items.erase key).toList) := by
  have absent : (key, value) ∉ (items.erase key).toList := by
    rw [Std.ExtTreeMap.mem_toList_iff_getElem?_eq_some, Std.ExtTreeMap.getElem?_erase]
    simp
  rw [List.perm_ext_iff_of_nodup nodup_toList (List.nodup_cons.mpr ⟨absent, nodup_toList⟩)]
  intro (other, listed)
  rw [List.mem_cons, Std.ExtTreeMap.mem_toList_iff_getElem?_eq_some,
    Std.ExtTreeMap.mem_toList_iff_getElem?_eq_some, Std.ExtTreeMap.getElem?_erase]
  by_cases same : key = other
  · -- The entry of the key is the one in front.
    subst same
    simp [found, eq_comm]
  · simp [same, Ne.symm same, Std.LawfulEqCmp.compare_eq_iff_eq]

theorem values_insert_perm {key : String} {old new : α} (found : items[key]? = some old) :
    ∃ rest, items.values.Perm (old :: rest) ∧ (items.insert key new).values.Perm (new :: rest) := by
  refine ⟨(items.erase key).values, ?_, ?_⟩
  · rw [values_eq, values_eq]
    exact (toList_perm_erase found).map Prod.snd
  · have same : (items.insert key new).erase key = items.erase key := by
      apply Std.ExtTreeMap.ext_getElem?
      intro other
      rw [Std.ExtTreeMap.getElem?_erase, Std.ExtTreeMap.getElem?_erase,
        Std.ExtTreeMap.getElem?_insert]
      split <;> rfl
    rw [values_eq, values_eq, ← same]
    exact (toList_perm_erase Std.ExtTreeMap.getElem?_insert_self).map Prod.snd

end StringMap

namespace StringSet

variable {items : StringSet}

theorem nodup_toList : items.toList.Nodup :=
  Std.ExtTreeSet.distinct_toList.imp fun {left right} differs same => by
    subst same
    exact differs Std.ReflCmp.compare_self

theorem head?_toList_eq_none : items.toList.head? = none ↔ ∀ item, item ∉ items := by
  simp [List.eq_nil_iff_forall_not_mem]

end StringSet

end AgentMod
