import AgentMod.Library.Result
import Mathlib.Data.List.Induction

/-! Runs of labelled transition systems, and computations that update a state and may fail. -/

namespace AgentMod

/-- A run from a state: the labels of its steps, and the state that it reaches. -/
inductive Run {σ ℓ : Type} (step : σ → ℓ → σ → Prop) (start : σ) : List ℓ → σ → Prop where
  | nil : Run step start [] start
  | snoc {labels : List ℓ} {label : ℓ} {state next : σ} :
      Run step start labels state → step state label next →
      Run step start (labels ++ [label]) next

section Runs

variable {σ ℓ : Type} {step : σ → ℓ → σ → Prop} {start state finish : σ}

theorem Run.invariant {property : σ → Prop} {labels : List ℓ} (run : Run step start labels state)
    (initially : property start)
    (preserved : ∀ state label next, step state label next → property state → property next) :
    property state := by
  induction run with
  | nil => exact initially
  | snoc _ taken ih => exact preserved _ _ _ taken ih

theorem Run.related {related : σ → σ → Prop} {labels : List ℓ} (run : Run step start labels state)
    (reflexive : ∀ state, related state state)
    (transitive : ∀ first second third, related first second → related second third →
      related first third)
    (respected : ∀ state label next, step state label next → related state next) :
    related start state := by
  induction run with
  | nil => exact reflexive start
  | snoc _ taken ih => exact transitive _ _ _ ih (respected _ _ _ taken)

theorem Run.mono {other : σ → ℓ → σ → Prop} {labels : List ℓ} (run : Run step start labels finish)
    (weaker : ∀ state label next, step state label next → other state label next) :
    Run other start labels finish := by
  induction run with
  | nil => exact .nil
  | snoc _ taken ih => exact ih.snoc (weaker _ _ _ taken)

theorem Run.nil_iff : Run step start [] state ↔ state = start := by
  constructor
  · intro run
    generalize labelled : ([] : List ℓ) = labels at run
    cases run with
    | nil => rfl
    | snoc => simp at labelled
  · rintro rfl
    exact .nil

theorem Run.snoc_iff {labels : List ℓ} {label : ℓ} : Run step start (labels ++ [label]) finish ↔
    ∃ state, Run step start labels state ∧ step state label finish := by
  constructor
  · intro run
    generalize labelled : labels ++ [label] = all at run
    cases run with
    | nil => simp at labelled
    | snoc before taken =>
      obtain ⟨rfl, ends⟩ := List.append_inj' labelled rfl
      cases ends
      exact ⟨_, before, taken⟩
  · rintro ⟨state, before, taken⟩
    exact before.snoc taken

theorem Run.append {first second : List ℓ} (earlier : Run step start first state)
    (later : Run step state second finish) : Run step start (first ++ second) finish := by
  induction later with
  | nil => simpa using earlier
  | snoc _ taken ih =>
    rw [← List.append_assoc]
    exact ih.snoc taken

theorem Run.split {first second : List ℓ} (run : Run step start (first ++ second) finish) :
    ∃ state, Run step start first state ∧ Run step state second finish := by
  -- The last step belongs to the second part, unless that part is empty.
  induction second using List.reverseRecOn generalizing finish with
  | nil => exact ⟨finish, by simpa using run, .nil⟩
  | append_singleton init last ih =>
    rw [← List.append_assoc] at run
    generalize labelled : first ++ init ++ [last] = labels at run
    cases run with
    | nil => simp at labelled
    | snoc before taken =>
      obtain ⟨same, ends⟩ := List.append_inj' labelled rfl
      cases same
      cases ends
      obtain ⟨state, earlier, later⟩ := ih before
      exact ⟨state, earlier, later.snoc taken⟩

theorem Run.unique {labels : List ℓ} {other : σ} (run : Run step start labels state)
    (again : Run step start labels other)
    (determined : ∀ state label next other, step state label next → step state label other →
      next = other) : state = other := by
  induction run generalizing other with
  | nil =>
    generalize labelled : ([] : List ℓ) = labels at again
    cases again with
    | nil => rfl
    | snoc => simp at labelled
  | snoc before taken ih =>
    rename_i labels label state next
    generalize labelled : labels ++ [label] = all at again
    cases again with
    | nil => simp at labelled
    | snoc earlier taking =>
      obtain ⟨rfl, ends⟩ := List.append_inj' labelled rfl
      cases ends
      cases ih earlier
      exact determined _ _ _ _ taken taking

end Runs

/-- A computation that updates a state in place, and whose updates remain when it fails. -/
abbrev Updating (σ ε α : Type) := ExceptT ε (StateM σ) α

namespace Updating

variable {σ ε α β : Type}

/-- Runs a computation on a state: what it returns, and the state that it leaves. -/
def apply (computation : Updating σ ε α) (state : σ) : Except ε α × σ :=
  StateT.run (ExceptT.run computation) state

/-- Takes the outcome of a computation that touches no state. -/
def ofExcept (outcome : Except ε α) : Updating σ ε α := ExceptT.mk (pure outcome)

@[simp] theorem apply_ofExcept (outcome : Except ε α) (state : σ) :
    (ofExcept outcome : Updating σ ε α).apply state = (outcome, state) := rfl

@[simp] theorem apply_pure (value : α) (state : σ) :
    (pure value : Updating σ ε α).apply state = (.ok value, state) := rfl

@[simp] theorem apply_throw (error : ε) (state : σ) :
    (throw error : Updating σ ε α).apply state = (.error error, state) := rfl

@[simp] theorem apply_get (state : σ) :
    (get : Updating σ ε σ).apply state = (.ok state, state) := rfl

@[simp] theorem apply_set (next state : σ) :
    (set next : Updating σ ε PUnit).apply state = (.ok ⟨⟩, next) := rfl

@[simp] theorem apply_modify (change : σ → σ) (state : σ) :
    (modify change : Updating σ ε PUnit).apply state = (.ok ⟨⟩, change state) := rfl

theorem apply_bind (first : Updating σ ε α) (next : α → Updating σ ε β) (state : σ) :
    (first >>= next).apply state =
      match first.apply state with
      | (.ok value, reached) => (next value).apply reached
      | (.error error, reached) => (.error error, reached) := by
  simp only [apply, ExceptT.run_bind, StateT.run_bind]
  generalize StateT.run (ExceptT.run first) state = outcome
  rcases outcome with ⟨_ | _, _⟩ <;> rfl

theorem apply_bind_eq_ok {first : Updating σ ε α} {next : α → Updating σ ε β} {state finish : σ}
    {result : β} : (first >>= next).apply state = (.ok result, finish) ↔ ∃ value reached,
      first.apply state = (.ok value, reached) ∧
        (next value).apply reached = (.ok result, finish) := by
  rw [apply_bind]
  cases first.apply state with
  | mk outcome reached =>
    cases outcome with
    | error => simp
    | ok value =>
      constructor
      · intro continues
        exact ⟨value, reached, rfl, continues⟩
      · rintro ⟨_, _, same, continues⟩
        cases same
        exact continues

theorem get_bind_eq_ok {next : σ → Updating σ ε β} {state finish : σ} {result : β} :
    ((get : Updating σ ε σ) >>= next).apply state = (.ok result, finish) ↔
      (next state).apply state = (.ok result, finish) := by
  rw [apply_bind, apply_get]

theorem set_bind_eq_ok {written : σ} {next : PUnit → Updating σ ε β} {state finish : σ}
    {result : β} : ((set written : Updating σ ε PUnit) >>= next).apply state = (.ok result, finish) ↔
      (next ⟨⟩).apply written = (.ok result, finish) := by
  rw [apply_bind, apply_set]

theorem ofExcept_bind_eq_ok {outcome : Except ε α} {next : α → Updating σ ε β} {state finish : σ}
    {result : β} : (ofExcept outcome >>= next).apply state = (.ok result, finish) ↔
      ∃ value, outcome = .ok value ∧ (next value).apply state = (.ok result, finish) := by
  rw [apply_bind, apply_ofExcept]
  cases outcome <;> simp

end Updating

/-- Every element of a list has the property behind the elements before it. -/
def EachFollows {α : Type} (property : List α → α → Prop) (values : List α) : Prop :=
  ∀ earlier value later, values = earlier ++ value :: later → property earlier value

section History

variable {α : Type} {property : List α → α → Prop} {values : List α} {value : α}

theorem EachFollows.nil : EachFollows property [] := by
  intro earlier value later same
  simp at same

theorem snoc_eq_append_cons {earlier later : List α} {other : α}
    (same : values ++ [value] = earlier ++ other :: later) :
    (later = [] ∧ values = earlier ∧ value = other) ∨
      ∃ front, later = front ++ [value] ∧ values = earlier ++ other :: front := by
  rcases List.eq_nil_or_concat later with rfl | ⟨front, last, rfl⟩
  · obtain ⟨rfl, ends⟩ := List.append_inj' same rfl
    exact .inl ⟨rfl, rfl, List.head_eq_of_cons_eq ends⟩
  · rw [List.concat_eq_append] at same ⊢
    rw [← List.cons_append, ← List.append_assoc] at same
    obtain ⟨rfl, ends⟩ := List.append_inj' same rfl
    exact .inr ⟨front, by rw [List.head_eq_of_cons_eq ends], rfl⟩

theorem eachFollows_snoc : EachFollows property (values ++ [value]) ↔
    EachFollows property values ∧ property values value := by
  constructor
  · intro each
    refine ⟨fun earlier other later same => ?_, each values value [] rfl⟩
    exact each earlier other (later ++ [value]) (by rw [same, List.append_assoc, List.cons_append])
  · rintro ⟨each, last⟩ earlier other later same
    rcases snoc_eq_append_cons same with ⟨-, rfl, rfl⟩ | ⟨front, -, rfl⟩
    · exact last
    · exact each earlier other front rfl

end History

end AgentMod
