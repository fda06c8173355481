import Mathlib.Algebra.BigOperators.Group.List.Basic
import Mathlib.Algebra.Order.BigOperators.Group.List
import Mathlib.Algebra.Ring.Nat
import Mathlib.Data.List.Nodup

/-! Association lists, most of which have distinct keys. -/

namespace AgentMod

section Associations

variable {α β : Type} [DecidableEq α] {entries others : List (α × β)} {key : α} {value : β}

theorem mem_of_lookup (found : entries.lookup key = some value) : (key, value) ∈ entries := by
  obtain ⟨before, after, rfl, -⟩ := List.lookup_eq_some_iff.mp found
  simp

theorem lookup_of_mem (distinct : (entries.map Prod.fst).Nodup) (inside : (key, value) ∈ entries) :
    entries.lookup key = some value := by
  induction entries with
  | nil => cases inside
  | cons entry rest ih =>
    obtain ⟨first, item⟩ := entry
    rw [List.map_cons, List.nodup_cons] at distinct
    rcases List.mem_cons.mp inside with same | later
    · cases same
      exact List.lookup_cons_self
    · have apart : ¬ key == first := fun same =>
        distinct.1 (List.mem_map.mpr ⟨(key, value), later, eq_of_beq same⟩)
      rw [List.lookup_cons, Bool.eq_false_of_not_eq_true apart]
      exact ih distinct.2 later

theorem lookup_isSome : (∃ value, entries.lookup key = some value) ↔ key ∈ entries.map Prod.fst := by
  rw [← Option.isSome_iff_exists, List.lookup_isSome_iff, List.mem_map]
  constructor
  · rintro ⟨entry, inside, same⟩
    exact ⟨entry, inside, (eq_of_beq same).symm⟩
  · rintro ⟨entry, inside, rfl⟩
    exact ⟨entry, inside, beq_self_eq_true _⟩

theorem lookup_eq_none : entries.lookup key = none ↔ key ∉ entries.map Prod.fst := by
  rw [← lookup_isSome]
  cases entries.lookup key <;> simp

theorem map_measure (distinct : (entries.map Prod.fst).Nodup) (measure : α → β → Nat) :
    entries.map (fun entry => measure entry.1 entry.2) =
      (entries.map Prod.fst).map fun key => (entries.lookup key).elim 0 (measure key) := by
  rw [List.map_map]
  refine List.map_congr_left fun entry inside => ?_
  rw [Function.comp_apply, lookup_of_mem distinct (show (entry.1, entry.2) ∈ entries from inside)]
  rfl

theorem sum_measure_eq (distinct : (entries.map Prod.fst).Nodup)
    (distinct' : (others.map Prod.fst).Nodup) (keys : (entries.map Prod.fst).Perm (others.map Prod.fst))
    (measure : α → β → Nat)
    (same : ∀ key item other, entries.lookup key = some item → others.lookup key = some other →
      measure key item = measure key other) :
    (entries.map fun entry => measure entry.1 entry.2).sum =
      (others.map fun entry => measure entry.1 entry.2).sum := by
  rw [map_measure distinct, map_measure distinct']
  have pointwise : (entries.map Prod.fst).map (fun key => (entries.lookup key).elim 0 (measure key)) =
      (entries.map Prod.fst).map fun key => (others.lookup key).elim 0 (measure key) := by
    refine List.map_congr_left fun key inside => ?_
    obtain ⟨item, found⟩ := lookup_isSome.mpr inside
    obtain ⟨other, finds⟩ := lookup_isSome.mpr (keys.subset inside)
    rw [found, finds]
    exact same key item other found finds
  rw [pointwise]
  exact (keys.map _).sum_eq

/-- The values that distinct keys have measure at most what all entries do. -/
theorem sum_lookup_le {keys : List α} (distinct : keys.Nodup) (measure : β → Nat) :
    (keys.map fun key => (entries.lookup key).elim 0 measure).sum ≤
      (entries.map fun entry => measure entry.2).sum := by
  induction entries generalizing keys with
  | nil => simp
  | cons entry rest ih =>
    obtain ⟨first, item⟩ := entry
    -- The first entry answers for one of the keys at most.
    have split : ∀ keys : List α, keys.Nodup →
        (keys.map fun key => (((first, item) :: rest).lookup key).elim 0 measure).sum ≤
          measure item + ((keys.filter (· ≠ first)).map fun key => (rest.lookup key).elim 0 measure).sum := by
      intro keys distinct
      induction keys with
      | nil => simp
      | cons key others ih =>
        rw [List.nodup_cons] at distinct
        by_cases same : key = first
        · subst same
          have others_ : ∀ other ∈ others, other ≠ key := fun other inside same =>
            distinct.1 (same ▸ inside)
          rw [List.map_cons, List.sum_cons, List.lookup_cons_self, List.filter_cons_of_neg (by simp),
            List.filter_eq_self.mpr (by simpa using others_)]
          refine Nat.add_le_add_left (le_of_eq (congrArg List.sum ?_)) _
          refine List.map_congr_left fun other inside => ?_
          rw [List.lookup_cons, beq_false_of_ne (others_ other inside)]
        · rw [List.map_cons, List.sum_cons, List.filter_cons_of_pos (by simpa using same), List.map_cons,
            List.sum_cons, List.lookup_cons, beq_false_of_ne same]
          have rest_ := ih distinct.2
          dsimp only
          omega
    rw [List.map_cons, List.sum_cons]
    exact (split keys distinct).trans (Nat.add_le_add_left (ih (distinct.filter _)) _)

end Associations

end AgentMod
