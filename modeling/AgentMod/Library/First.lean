import AgentMod.Library.Result

/-! The first item of a list that something is returned of, and the items behind it. -/

namespace AgentMod

variable {α β : Type}

/-- What is returned of the first item that something is returned of, and the items behind that. -/
def firstOf (returned : α → Option β) : List α → Option (β × List α)
  | [] => none
  | item :: rest =>
    match returned item with
    | some result => some (result, rest)
    | none => firstOf returned rest

/-- A property of every item up to the first one that something is returned of. -/
def UpToFirst (returned : α → Option β) (property : α → Prop) (items : List α) : Prop :=
  ∀ front item rest, items = front ++ item :: rest → (∀ earlier ∈ front, returned earlier = none) → property item

section First

variable {returned specified : α → Option β} {item : α} {items rest : List α} {result : β}

theorem firstOf_nil : firstOf returned [] = none := rfl

theorem firstOf_cons : firstOf returned (item :: rest) =
    (returned item).elim (firstOf returned rest) fun result => some (result, rest) := by
  rw [firstOf]
  cases returned item <;> rfl

theorem firstOf_cons_some (returns : returned item = some result) :
    firstOf returned (item :: rest) = some (result, rest) := by
  rw [firstOf_cons, returns, Option.elim_some]

theorem firstOf_cons_none (passes : returned item = none) :
    firstOf returned (item :: rest) = firstOf returned rest := by
  rw [firstOf_cons, passes, Option.elim_none]

theorem firstOf_eq_none_iff : firstOf returned items = none ↔ ∀ item ∈ items, returned item = none := by
  induction items with
  | nil => simp [firstOf_nil]
  | cons item rest ih =>
    rw [List.forall_mem_cons, ← ih]
    cases returns : returned item with
    | some result => simp [firstOf_cons_some returns]
    | none => simp [firstOf_cons_none returns]

theorem exists_of_firstOf (found : firstOf returned items = some (result, rest)) :
    ∃ item ∈ items, returned item = some result := by
  induction items with
  | nil => cases found
  | cons item others ih =>
    cases returns : returned item with
    | some own =>
      rw [firstOf_cons_some returns] at found
      cases found
      exact ⟨item, List.mem_cons_self, returns⟩
    | none =>
      rw [firstOf_cons_none returns] at found
      obtain ⟨other, member, returned⟩ := ih found
      exact ⟨other, List.mem_cons_of_mem _ member, returned⟩

theorem length_of_firstOf (found : firstOf returned items = some (result, rest)) : rest.length < items.length := by
  induction items with
  | nil => cases found
  | cons item others ih =>
    cases returns : returned item with
    | some own =>
      rw [firstOf_cons_some returns] at found
      cases found
      exact Nat.lt_succ_self _
    | none =>
      rw [firstOf_cons_none returns] at found
      exact Nat.lt_succ_of_lt (ih found)

theorem firstOf_ne_some_self : firstOf returned items ≠ some (result, items) :=
  fun found => (length_of_firstOf found).ne rfl

theorem upToFirst_congr {property other : α → Prop} (same : ∀ item, property item ↔ other item) :
    UpToFirst returned property items ↔ UpToFirst returned other items := by
  rw [funext fun item => propext (same item)]

/-- The two find the same first item exactly where they agree on every item up to the first one of the second. -/
theorem firstOf_eq_iff : firstOf returned items = firstOf specified items ↔
    UpToFirst specified (fun item => returned item = specified item) items := by
  induction items with
  | nil =>
    refine ⟨fun _ front item rest split => ?_, fun _ => rfl⟩
    cases front <;> cases split
  | cons item rest ih =>
    constructor
    · intro same front other behind split before
      cases own : returned item with
      | some result =>
        cases its : specified item with
        | some expected =>
          rw [firstOf_cons_some own, firstOf_cons_some its] at same
          cases same
          cases front with
          | nil =>
            cases split
            rw [own, its]
          | cons first others =>
            cases split
            cases its.symm.trans (before _ List.mem_cons_self)
        | none =>
          rw [firstOf_cons_some own, firstOf_cons_none its] at same
          cases firstOf_ne_some_self same.symm
      | none =>
        cases its : specified item with
        | some expected =>
          rw [firstOf_cons_none own, firstOf_cons_some its] at same
          cases firstOf_ne_some_self same
        | none =>
          rw [firstOf_cons_none own, firstOf_cons_none its] at same
          cases front with
          | nil =>
            cases split
            rw [own, its]
          | cons first others =>
            cases split
            exact ih.mp same others other behind rfl fun earlier isEarlier =>
              before earlier (List.mem_cons_of_mem _ isEarlier)
    · intro agree
      have agrees : returned item = specified item := agree [] item rest rfl (by simp)
      cases its : specified item with
      | some expected => rw [firstOf_cons_some its, firstOf_cons_some (agrees.trans its)]
      | none =>
        rw [firstOf_cons_none its, firstOf_cons_none (agrees.trans its)]
        refine ih.mpr fun front other behind split before => ?_
        refine agree (item :: front) other behind (by rw [split, List.cons_append]) fun earlier isEarlier => ?_
        rcases List.mem_cons.mp isEarlier with rfl | isEarlier
        · exact its
        · exact before earlier isEarlier

end First

end AgentMod
