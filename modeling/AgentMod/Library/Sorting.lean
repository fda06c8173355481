import Mathlib.Data.List.Sort

/-! Stable sorting of lists by an ordering. -/

namespace AgentMod

/-- `slice::sort_by`, which is stable. -/
def sortBy {α : Type} (order : α → α → Ordering) (items : List α) : List α :=
  items.insertionSort fun left right => (order left right).isLE

section Sorting

variable {α : Type} {order : α → α → Ordering} {left right : List α}

theorem sortBy_perm : (sortBy order left).Perm left :=
  List.perm_insertionSort _ left

theorem filter_sortBy {equal : α → Bool}
    (same : ∀ first second, equal first → equal second → order first second = .eq) :
    (sortBy order left).filter equal = left.filter equal := by
  have kept : (left.filter equal).Pairwise fun first second => (order first second).isLE := by
    refine List.pairwise_of_forall_mem_list fun first inFirst second inSecond => ?_
    rw [same first second (List.mem_filter.mp inFirst).2 (List.mem_filter.mp inSecond).2]
    rfl
  have sublist := (List.sublist_insertionSort kept List.filter_sublist).filter equal
  rw [List.filter_filter] at sublist
  simp only [Bool.and_self] at sublist
  exact (sublist.eq_of_length_le (sortBy_perm.filter equal).length_eq.le).symm

/-- An item that passes a test, with no such item in front of it. -/
def Leads (order : α → α → Ordering) (test : α → Bool) (items : List α) (item : α) : Prop :=
  item ∈ items ∧ test item ∧ ∀ other ∈ items, test other → (order item other).isLE

variable {test : α → Bool} {item : α}

theorem Leads.perm (leads : Leads order test left item) (same : left.Perm right) :
    Leads order test right item :=
  ⟨same.subset leads.1, leads.2.1, fun other inside => leads.2.2 other (same.symm.subset inside)⟩

variable [Std.TransCmp order]

theorem pairwise_sortBy : (sortBy order left).Pairwise fun first second =>
    (order first second).isLE := by
  have total : Std.Total fun first second => (order first second).isLE = true :=
    ⟨fun first second => by
      rw [@Std.OrientedCmp.eq_swap _ order _ second]
      cases order first second <;> simp⟩
  have trans : IsTrans α fun first second => (order first second).isLE = true :=
    ⟨fun _ _ _ => Std.TransCmp.isLE_trans⟩
  exact List.pairwise_insertionSort _ left

theorem countP_lt_of_mem_take {items : List α} {count : Nat} (sorted : items.Pairwise fun first second =>
    (order first second).isLE) (inside : item ∈ items.take count) :
    items.countP (fun other => order other item == .lt) < count := by
  induction items generalizing count with
  | nil => cases count <;> cases inside
  | cons first rest ih =>
    obtain ⟨leads, sorted'⟩ := List.pairwise_cons.mp sorted
    cases count with
    | zero => cases inside
    | succ count =>
      rw [List.take_succ_cons, List.mem_cons] at inside
      rcases inside with rfl | later
      · have none : (item :: rest).countP (fun other => order other item == .lt) = 0 := by
          refine List.countP_eq_zero.mpr fun other listed less => ?_
          rcases List.mem_cons.mp listed with rfl | behind
          · rw [@Std.ReflCmp.compare_self _ order] at less
            cases less
          · have after := leads other behind
            rw [@Std.OrientedCmp.eq_swap _ order, eq_of_beq less] at after
            cases after
        omega
      · have fewer := ih sorted' later
        rw [List.countP_cons]
        split <;> omega

theorem exists_mem_take_of_countP_lt {items : List α} {count : Nat} (sorted : items.Pairwise fun first second =>
    (order first second).isLE) (inside : item ∈ items)
    (few : items.countP (fun other => order other item == .lt) < count) :
    ∃ other ∈ items.take count, order other item = .eq := by
  induction items generalizing count with
  | nil => cases inside
  | cons first rest ih =>
    obtain ⟨leads, sorted'⟩ := List.pairwise_cons.mp sorted
    cases count with
    | zero => exact absurd few (Nat.not_lt_zero _)
    | succ count =>
      rw [List.take_succ_cons]
      rcases List.mem_cons.mp inside with rfl | behind
      · exact ⟨item, List.mem_cons_self, Std.ReflCmp.compare_self⟩
      · cases compared : order first item with
        | eq => exact ⟨first, List.mem_cons_self, compared⟩
        | gt =>
          have after := leads item behind
          rw [compared] at after
          cases after
        | lt =>
          rw [List.countP_cons_of_pos (by rw [compared]; rfl)] at few
          obtain ⟨other, listed, same⟩ := ih sorted' behind (Nat.lt_of_succ_lt_succ few)
          exact ⟨other, List.mem_cons_of_mem _ listed, same⟩

theorem sortBy_sortBy : sortBy order (sortBy order left) = sortBy order left :=
  pairwise_sortBy.insertionSort_eq

theorem sortBy_eq (same : left.Perm right)
    (apart : ∀ first ∈ left, ∀ second ∈ left, order first second = .eq → first = second) :
    sortBy order left = sortBy order right := by
  have sorted : (sortBy order left).Perm (sortBy order right) :=
    sortBy_perm.trans (same.trans sortBy_perm.symm)
  refine sorted.eq_of_pairwise (fun first second inFirst inSecond before after => ?_)
    pairwise_sortBy pairwise_sortBy
  refine apart first (sortBy_perm.subset inFirst) second
    (same.symm.subset (sortBy_perm.subset inSecond)) ?_
  rw [@Std.OrientedCmp.eq_swap _ order] at after
  revert before after
  cases order first second <;> simp

theorem leads_of_find (found : (sortBy order left).find? test = some item) :
    Leads order test left item := by
  obtain ⟨passes, before, after, split, skipped⟩ := List.find?_eq_some_iff_append.mp found
  have sorted : (before ++ item :: after).Pairwise fun first second =>
      (order first second).isLE := split ▸ pairwise_sortBy
  have inside : ∀ other, other ∈ left ↔ other ∈ before ++ item :: after := fun other => by
    rw [← split, sortBy_perm.mem_iff]
  refine ⟨(inside item).mpr (by simp), passes, fun other there passing => ?_⟩
  -- An item that passes is not among those that the search skipped.
  rcases List.mem_append.mp ((inside other).mp there) with earlier | later
  · have fails := skipped other earlier
    rw [passing] at fails
    cases fails
  · rcases List.mem_cons.mp later with rfl | behind
    · exact Std.ReflCmp.isLE_rfl
    · exact List.rel_of_pairwise_cons (List.pairwise_append.mp sorted).2.1 behind

/-- An item that leads is found first when it is given first. -/
theorem find_sortBy_of_leads (leads : Leads order test (item :: right) item) :
    (sortBy order (item :: right)).find? test = some item := by
  cases found : (sortBy order (item :: right)).find? test with
  | none =>
    have fails := List.find?_eq_none.mp found item (sortBy_perm.symm.subset (by simp))
    exact absurd leads.2.1 fails
  | some first =>
    -- Both items lead, so the order does not tell them apart, and sorting keeps such items in place.
    have leading := leads_of_find found
    have ordered : (order first item).isLE := leading.2.2 item (by simp) leads.2.1
    have reversed : (order item first).isLE := leads.2.2 first leading.1 leading.2.1
    have equal : order item first = .eq := by
      rw [@Std.OrientedCmp.eq_swap _ order] at ordered
      revert ordered reversed
      cases order item first <;> simp
    have tied : ∀ one other, (test one && (order item one).isEq) →
        (test other && (order item other).isEq) → order one other = .eq := by
      intro one other alike likewise
      simp only [Bool.and_eq_true, Ordering.isEq_iff_eq_eq] at alike likewise
      exact Std.TransCmp.eq_trans (Std.OrientedCmp.eq_symm alike.2) likewise.2
    have narrowed : (sortBy order (item :: right)).find?
        (fun one => test one && (order item one).isEq) = some first := by
      obtain ⟨passes, before, after, split, skipped⟩ := List.find?_eq_some_iff_append.mp found
      refine List.find?_eq_some_iff_append.mpr
        ⟨by simp [passes, equal], before, after, split, fun one inside => ?_⟩
      have fails := skipped one inside
      simp only [Bool.not_eq_true'] at fails
      simp [fails]
    have alike : (test item && (order item item).isEq) = true := by
      simp [leads.2.1, Std.ReflCmp.compare_self]
    rw [← List.head?_filter, filter_sortBy tied, List.filter_cons, if_pos alike] at narrowed
    exact narrowed.symm

/-- What is read of the first item that passes a test behind a sort does not depend on the given order
exactly when it is the same for all items that lead. -/
theorem find_sortBy_perm_iff {β : Type} {view : α → β} :
    (∀ other, left.Perm other → ((sortBy order other).find? test).map view =
      ((sortBy order left).find? test).map view) ↔
    ∀ first second, Leads order test left first → Leads order test left second →
      view first = view second := by
  constructor
  · intro same first second leads leading
    -- Each of the two items is given first in turn.
    have front : ∀ item, Leads order test left item →
        ((sortBy order left).find? test).map view = some (view item) := by
      intro item leads
      obtain ⟨before, after, rfl⟩ := List.append_of_mem leads.1
      have moved := same _ List.perm_middle
      rw [← moved, find_sortBy_of_leads (leads.perm List.perm_middle), Option.map_some]
    exact Option.some.inj ((front first leads).symm.trans (front second leading))
  · intro tied other permuted
    cases found : (sortBy order other).find? test with
    | none =>
      have fails : (sortBy order left).find? test = none :=
        List.find?_eq_none.mpr fun item inside => List.find?_eq_none.mp found item
          (sortBy_perm.symm.subset (permuted.subset (sortBy_perm.subset inside)))
      rw [fails]
    | some first =>
      have leads := (leads_of_find found).perm permuted.symm
      cases original : (sortBy order left).find? test with
      | none =>
        exact absurd leads.2.1 (List.find?_eq_none.mp original first (sortBy_perm.symm.subset leads.1))
      | some second => exact congrArg some (tied first second leads (leads_of_find original))

end Sorting

end AgentMod
