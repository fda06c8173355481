import Mathlib.Algebra.Order.Ring.Nat
import Mathlib.Data.List.Forall2

/-! Laws of computations that either return a value or stop early. -/

namespace AgentMod

/-- The ways a call can end without returning a value. -/
inductive Halt (ε : Type) where
  | error (error : ε)
  /-- An index, a slice, a subtraction or an `expect` panicked. -/
  | panic
  | fuel
  deriving DecidableEq, Repr

/-- A computation that returns a value, returns an error or panics. -/
abbrev Fallible (ε α : Type) := Except (Halt ε) α

/-- Returns an error to the caller. -/
def reject {ε α : Type} (error : ε) : Fallible ε α := .error (.error error)

/-- Returns the error when the refused condition holds, and continues otherwise. -/
def refuseIf {ε : Type} (refused : Prop) [Decidable refused] (error : ε) : Except ε Unit :=
  if refused then .error error else .ok ()

/-- Unwraps an optional value whose absence is the given failure. -/
def okOr {ε α : Type} (value : Option α) (error : ε) : Except ε α :=
  match value with
  | some value => .ok value
  | none => .error error

/-- Whether a computation returns a value that passes a test. -/
def returns {ε α : Type} (outcome : Except ε α) (passes : α → Bool) : Bool :=
  match outcome with
  | .ok value => passes value
  | .error _ => false

section Laws

variable {ε α β : Type}

@[simp] theorem bind_eq_ok {first : Except ε α} {next : α → Except ε β} {result : β} :
    (first >>= next) = .ok result ↔ ∃ value, first = .ok value ∧ next value = .ok result := by
  cases first <;> simp [Bind.bind, Except.bind]

theorem bind_eq_error {first : Except ε α} {next : α → Except ε β} {error : ε} :
    (first >>= next) = .error error ↔
      first = .error error ∨ ∃ value, first = .ok value ∧ next value = .error error := by
  cases first <;> simp [Bind.bind, Except.bind]

@[simp] theorem pure_eq_ok {value result : α} :
    (pure value : Except ε α) = .ok result ↔ value = result := by
  simp [pure, Except.pure]

@[simp] theorem throw_eq_ok {error : ε} {result : α} :
    (throw error : Except ε α) = .ok result ↔ False := by
  simp [throw, throwThe, MonadExceptOf.throw]

@[simp] theorem reject_eq_ok {error : ε} {result : α} :
    (reject error : Fallible ε α) = .ok result ↔ False := by
  simp [reject]

@[simp] theorem map_eq_ok {map : α → β} {first : Except ε α} {result : β} :
    (map <$> first) = .ok result ↔ ∃ value, first = .ok value ∧ map value = result := by
  cases first <;> simp [Functor.map, Except.map]

@[simp] theorem refuseIf_eq_ok {refused : Prop} [Decidable refused] {error : ε} {result : Unit} :
    refuseIf refused error = .ok result ↔ ¬ refused := by
  unfold refuseIf
  split <;> simp_all

@[simp] theorem okOr_eq_ok {value : Option α} {error : ε} {result : α} :
    okOr value error = .ok result ↔ value = some result := by
  cases value <;> simp [okOr]

@[simp] theorem mapError_eq_ok {ε' : Type} {outcome : Except ε α} {change : ε → ε'}
    {value : α} :
    outcome.mapError change = .ok value ↔ outcome = .ok value := by
  cases outcome <;> simp [Except.mapError]

theorem returns_eq_true {outcome : Except ε α} {passes : α → Bool} :
    returns outcome passes ↔ ∃ value, outcome = .ok value ∧ passes value := by
  cases outcome <;> simp [returns]

@[simp] theorem exists_unit {property : Unit → Prop} :
    (∃ value, property value) ↔ property () :=
  ⟨fun ⟨(), holds⟩ => holds, fun holds => ⟨(), holds⟩⟩

theorem forM_eq_ok {body : α → Except ε Unit} {values : List α} {result : Unit} :
    forM values body = .ok result ↔ ∀ value ∈ values, body value = .ok () := by
  -- The loop runs its body on the head and then continues with the tail.
  induction values with
  | nil => simp [pure, Except.pure]
  | cons value rest ih => simp [List.forM_cons, ih]

theorem mapM_eq_ok {body : α → Except ε β} {values : List α} {results : List β} :
    values.mapM body = .ok results ↔
      List.Forall₂ (fun value result => body value = .ok result) values results := by
  -- Each element contributes one result in front of those of the remaining elements.
  induction values generalizing results with
  | nil => simp [pure, Except.pure, eq_comm]
  | cons value rest ih =>
    rw [List.mapM_cons]
    simp only [bind_eq_ok, pure_eq_ok, ih, List.forall₂_cons_left_iff]
    constructor
    · rintro ⟨result, returned, results, collected, rfl⟩
      exact ⟨result, results, returned, collected, rfl⟩
    · rintro ⟨result, results, returned, collected, rfl⟩
      exact ⟨result, returned, results, collected, rfl⟩

theorem exists_of_mapM_eq_error {body : α → Except ε β} {values : List α} {error : ε}
    (failed : values.mapM body = .error error) : ∃ value ∈ values, body value = .error error := by
  induction values with
  | nil => cases failed
  | cons value rest ih =>
    rw [List.mapM_cons, bind_eq_error] at failed
    rcases failed with first | ⟨_, -, later⟩
    · exact ⟨value, List.mem_cons_self, first⟩
    · rcases bind_eq_error.mp later with rest | ⟨_, -, returned⟩
      · obtain ⟨other, inside, fails⟩ := ih rest
        exact ⟨other, List.mem_cons_of_mem _ inside, fails⟩
      · cases returned

theorem mapM_isOk {body : α → Except ε β} {values : List α} :
    (∃ results, values.mapM body = .ok results) ↔
      ∀ value ∈ values, ∃ result, body value = .ok result := by
  induction values with
  | nil => simp [pure, Except.pure]
  | cons value rest ih =>
    simp only [List.mapM_cons, bind_eq_ok, pure_eq_ok, List.forall_mem_cons, ← ih]
    constructor
    · rintro ⟨_, result, returned, results, collected, rfl⟩
      exact ⟨⟨result, returned⟩, results, collected⟩
    · rintro ⟨⟨result, returned⟩, results, collected⟩
      exact ⟨_, result, returned, results, collected, rfl⟩

/-- Every error that a computation fails with has the property. -/
def FailsAs (property : ε → Prop) (outcome : Except ε α) : Prop :=
  ∀ error, outcome = .error error → property error

section FailsAs

variable {property : ε → Prop}

theorem FailsAs.ok {value : α} : FailsAs property (.ok value : Except ε α) := fun _ => nofun

theorem FailsAs.error {error : ε} (holds : property error) : FailsAs property (.error error : Except ε α) :=
  fun _ same => Except.error.inj same ▸ holds

theorem FailsAs.bind {first : Except ε α} {next : α → Except ε β} (fails : FailsAs property first)
    (later : ∀ value, FailsAs property (next value)) : FailsAs property (first >>= next) := by
  intro error failed
  rcases bind_eq_error.mp failed with early | ⟨value, _, late⟩
  · exact fails error early
  · exact later value error late

theorem FailsAs.refuseIf {refused : Prop} [Decidable refused] {error : ε} (holds : property error) :
    FailsAs property (AgentMod.refuseIf refused error) := by
  rw [AgentMod.refuseIf]
  split
  · exact .error holds
  · exact .ok

theorem FailsAs.okOr {value : Option α} {error : ε} (holds : property error) :
    FailsAs property (AgentMod.okOr value error) := by
  cases value
  · exact .error holds
  · exact .ok

theorem FailsAs.mapM {body : α → Except ε β} {values : List α} (fails : ∀ value ∈ values, FailsAs property (body value)) :
    FailsAs property (values.mapM body) := by
  intro error failed
  obtain ⟨value, member, fails'⟩ := exists_of_mapM_eq_error failed
  exact fails value member error fails'

end FailsAs

/-- A computation fails with one error only. -/
def FailsWith (error : ε) (outcome : Except ε α) : Prop :=
  ∀ other, outcome = .error other → other = error

theorem FailsWith.ok {error : ε} {value : α} : FailsWith error (.ok value : Except ε α) := fun _ => nofun

theorem FailsWith.error {error : ε} : FailsWith error (.error error : Except ε α) :=
  fun _ same => (Except.error.inj same).symm

theorem FailsWith.bind {error : ε} {first : Except ε α} {next : α → Except ε β}
    (fails : FailsWith error first) (later : ∀ value, first = .ok value → FailsWith error (next value)) :
    FailsWith error (first >>= next) := by
  intro other failed
  rcases bind_eq_error.mp failed with early | ⟨value, returned, late⟩
  · exact fails other early
  · exact later value returned other late

theorem FailsWith.map {error : ε} {first : Except ε α} {change : α → β} (fails : FailsWith error first) :
    FailsWith error (change <$> first) := by
  intro other failed
  cases first with
  | error found => exact fails other (congrArg Except.error (Except.error.inj failed))
  | ok value => cases failed

theorem FailsWith.refuseIf {error : ε} {refused : Prop} [Decidable refused] :
    FailsWith error (AgentMod.refuseIf refused error) := by
  rw [AgentMod.refuseIf]
  split
  · exact .error
  · exact .ok

theorem FailsWith.okOr {error : ε} {value : Option α} : FailsWith error (AgentMod.okOr value error) := by
  cases value
  · exact .error
  · exact .ok

/-- Sequences whose first parts succeed together and fail with the same error are equal where what follows
is. -/
theorem FailsWith.bind_congr {γ : Type} {error : ε} {first : Except ε α} {second : Except ε γ}
    {next : α → Except ε β} {next' : γ → Except ε β} (fails : FailsWith error first)
    (fails' : FailsWith error second) (together : (∃ value, first = .ok value) ↔ ∃ value, second = .ok value)
    (later : ∀ value other, first = .ok value → second = .ok other → next value = next' other) :
    (first >>= next) = (second >>= next') := by
  cases first with
  | ok value =>
    obtain ⟨other, returned⟩ := together.mp ⟨value, rfl⟩
    rw [returned]
    exact later value other rfl returned
  | error found =>
    cases second with
    | ok other =>
      obtain ⟨value, returned⟩ := together.mpr ⟨other, rfl⟩
      cases returned
    | error found' => exact congrArg Except.error ((fails found rfl).trans (fails' found' rfl).symm)

theorem FailsWith.foldlM {error : ε} {body : β → α → Except ε β} {values : List α} {start : β}
    (each : ∀ value ∈ values, ∀ before, FailsWith error (body before value)) :
    FailsWith error (values.foldlM body start) := by
  induction values generalizing start with
  | nil => exact .ok
  | cons value rest ih =>
    rw [List.foldlM_cons]
    exact (each value List.mem_cons_self start).bind fun _ _ =>
      ih fun other inside => each other (List.mem_cons_of_mem _ inside)

theorem foldlM_invariant {body : β → α → Except ε β} (property : List α → β → Prop)
    {values : List α} {start result : β} (folded : values.foldlM body start = .ok result)
    (initially : property [] start)
    (preserved : ∀ earlier value later before after, values = earlier ++ value :: later →
      property earlier before → body before value = .ok after →
      property (earlier ++ [value]) after) :
    property values result := by
  -- The loop has folded the earlier values already; the later ones follow.
  suffices ∀ earlier later before, values = earlier ++ later → property earlier before →
      later.foldlM body before = .ok result → property values result from
    this [] values start rfl initially folded
  intro earlier later before same holds
  induction later generalizing earlier before with
  | nil =>
    intro done
    rw [List.foldlM_nil, pure_eq_ok] at done
    rwa [same, List.append_nil, ← done]
  | cons value rest ih =>
    intro continued
    rw [List.foldlM_cons, bind_eq_ok] at continued
    obtain ⟨after, taken, continued⟩ := continued
    exact ih (earlier ++ [value]) after (by simpa using same)
      (preserved earlier value rest before after same holds taken) continued

theorem exists_of_foldlM_eq_ok {body : β → α → Except ε β} {values : List α} {start result : β}
    (folded : values.foldlM body start = .ok result) {value : α} (member : value ∈ values) :
    ∃ before after, body before value = .ok after := by
  induction values generalizing start with
  | nil => cases member
  | cons first rest ih =>
    rw [List.foldlM_cons, bind_eq_ok] at folded
    obtain ⟨after, taken, folded⟩ := folded
    rcases List.mem_cons.mp member with rfl | later
    · exact ⟨start, after, taken⟩
    · exact ih folded later

/-- A counting loop returns where its body counts at most the weight of each element, while there is room
for all of them. -/
theorem exists_foldlM_le {body : Nat → α → Except ε Nat} {values : List α} {weight : α → Nat}
    {start limit : Nat} (room : start + (values.map weight).sum ≤ limit)
    (counts : ∀ value ∈ values, ∀ before, before + weight value ≤ limit →
      ∃ after ≤ before + weight value, body before value = .ok after) :
    ∃ result ≤ start + (values.map weight).sum, values.foldlM body start = .ok result := by
  induction values generalizing start with
  | nil => exact ⟨start, Nat.le_refl _, rfl⟩
  | cons value rest ih =>
    rw [List.map_cons, List.sum_cons] at room ⊢
    obtain ⟨after, bounded, taken⟩ := counts value List.mem_cons_self start (by omega)
    obtain ⟨result, total, folded⟩ := @ih after (by omega) fun other inside =>
      counts other (List.mem_cons_of_mem _ inside)
    refine ⟨result, by omega, ?_⟩
    rw [List.foldlM_cons, taken]
    exact folded

theorem mapM_mem {body : α → Except ε β} {values : List α} {results : List β}
    (collected : values.mapM body = .ok results) :
    ∀ result, result ∈ results ↔ ∃ value ∈ values, body value = .ok result := by
  rw [mapM_eq_ok] at collected
  induction collected with
  | nil => simp
  | cons returned _ ih =>
    intro result
    simp [ih, returned, eq_comm]

theorem mapM_eq_ok_map [Inhabited β] {body : α → Except ε β} {values : List α} {results : List β} :
    values.mapM body = .ok results ↔ ∃ returned : α → β,
      (∀ value ∈ values, body value = .ok (returned value)) ∧ values.map returned = results := by
  induction values generalizing results with
  | nil => simp [pure, Except.pure]
  | cons value rest ih =>
    simp only [List.mapM_cons, bind_eq_ok, pure_eq_ok, List.forall_mem_cons, List.map_cons]
    constructor
    · rintro ⟨result, first, others, collected, rfl⟩
      let returned (value : α) : β := match body value with
        | .ok result => result
        | .error _ => default
      have returns : ∀ value result, body value = .ok result → returned value = result := by
        intro value result accepted
        simp [returned, accepted]
      obtain ⟨chosen, later, rfl⟩ := ih.mp collected
      refine ⟨returned, ⟨by rw [returns value result first, first], ?_⟩, ?_⟩
      · intro value member
        rw [returns value _ (later value member), later value member]
      · rw [returns value result first]
        exact congrArg (result :: ·) (List.map_congr_left fun value member =>
          returns value _ (later value member))
    · rintro ⟨returned, ⟨first, later⟩, rfl⟩
      exact ⟨returned value, first, rest.map returned, ih.mpr ⟨returned, later, rfl⟩, rfl⟩

theorem exists_forall₂ {related : α → β → Prop} {values : List α}
    (exist : ∀ value ∈ values, ∃ other, related value other) :
    ∃ others, List.Forall₂ related values others := by
  induction values with
  | nil => exact ⟨[], .nil⟩
  | cons value rest ih =>
    obtain ⟨⟨other, first⟩, later⟩ := List.forall_mem_cons.mp exist
    obtain ⟨others, all⟩ := ih later
    exact ⟨other :: others, .cons first all⟩

theorem exists_of_forall₂_right {related : α → β → Prop} {values : List α} {others : List β}
    (all : List.Forall₂ related values others) {other : β} (member : other ∈ others) :
    ∃ value ∈ values, related value other := by
  induction all with
  | nil => cases member
  | @cons first counterpart rest later holds _ ih =>
    rcases List.mem_cons.mp member with rfl | further
    · exact ⟨first, List.mem_cons_self, holds⟩
    · obtain ⟨value, listed, holds⟩ := ih further
      exact ⟨value, List.mem_cons_of_mem first listed, holds⟩

theorem exists_of_forall₂_left {related : α → β → Prop} {values : List α} {others : List β}
    (all : List.Forall₂ related values others) {value : α} (member : value ∈ values) :
    ∃ other ∈ others, related value other :=
  exists_of_forall₂_right all.flip member

end Laws

end AgentMod
