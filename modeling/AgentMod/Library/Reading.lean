import AgentMod.Library.Result

/-! Little-endian numbers, and computations that read a string of bytes from its front. -/

namespace AgentMod

/-- The bytes of a number, the lowest one first. -/
def leBytes : Nat → Nat → List UInt8
  | 0, _ => []
  | width + 1, value => value.toUInt8 :: leBytes width (value / 256)

/-- The number that some bytes make up, the lowest one first. -/
def ofLeBytes : List UInt8 → Nat
  | [] => 0
  | byte :: rest => byte.toNat + 256 * ofLeBytes rest

@[simp] theorem length_leBytes (width value : Nat) : (leBytes width value).length = width := by
  induction width generalizing value with
  | zero => rfl
  | succ width ih => rw [leBytes, List.length_cons, ih]

theorem ofLeBytes_leBytes {width value : Nat} (fits : value < 256 ^ width) :
    ofLeBytes (leBytes width value) = value := by
  induction width generalizing value with
  | zero =>
    rw [pow_zero] at fits
    rw [leBytes, ofLeBytes]
    omega
  | succ width ih =>
    rw [pow_succ] at fits
    rw [leBytes, ofLeBytes, ih (Nat.div_lt_of_lt_mul (by omega))]
    have low : value.toUInt8.toNat = value % 256 := rfl
    omega

theorem leBytes_ofLeBytes (bytes : List UInt8) : leBytes bytes.length (ofLeBytes bytes) = bytes := by
  induction bytes with
  | nil => rfl
  | cons byte rest ih =>
    have small : byte.toNat < 256 := byte.toNat_lt
    have quotient : (byte.toNat + 256 * ofLeBytes rest) / 256 = ofLeBytes rest := by omega
    have low : (byte.toNat + 256 * ofLeBytes rest).toUInt8 = byte := by
      refine UInt8.toNat_inj.mp ?_
      have remainder : (byte.toNat + 256 * ofLeBytes rest).toUInt8.toNat =
        (byte.toNat + 256 * ofLeBytes rest) % 256 := rfl
      omega
    rw [ofLeBytes, List.length_cons, leBytes, quotient, ih, low]

theorem ofLeBytes_lt (bytes : List UInt8) : ofLeBytes bytes < 256 ^ bytes.length := by
  induction bytes with
  | nil => exact Nat.one_pos
  | cons byte rest ih =>
    have small : byte.toNat < 256 := byte.toNat_lt
    rw [ofLeBytes, List.length_cons, pow_succ]
    omega

/-- A computation that reads bytes from the front of what is left of them. -/
abbrev Reading (ε α : Type) := StateT (List UInt8) (Fallible ε) α

namespace Reading

variable {ε α β : Type} {bytes rest : List UInt8} {error : ε} {count : Nat}

/-- `read_exact`: the next so many bytes. -/
def exact (count : Nat) (error : ε) : Reading ε (List UInt8) := fun bytes =>
  if count ≤ bytes.length then .ok (bytes.take count, bytes.drop count) else reject error

/-- Reads on where a computation that reads no bytes returns. -/
def ofOutcome (outcome : Fallible ε α) : Reading ε α := fun bytes => (fun value => (value, bytes)) <$> outcome

/-- Fails when a condition holds. -/
def refuseIf (refused : Prop) [Decidable refused] (error : ε) : Reading ε Unit :=
  ofOutcome (AgentMod.refuseIf refused (.error error))

theorem exact_eq_ok {read : List UInt8} :
    (exact count error).run bytes = .ok (read, rest) ↔ read.length = count ∧ bytes = read ++ rest := by
  simp only [exact, StateT.run]
  constructor
  · intro reads
    split at reads
    · next enough =>
      cases reads
      exact ⟨by simpa using enough, (List.take_append_drop count bytes).symm⟩
    · cases reads
  · rintro ⟨rfl, rfl⟩
    simp

theorem bind_eq_ok {first : Reading ε α} {next : α → Reading ε β} {result : β} :
    (first >>= next).run bytes = .ok (result, rest) ↔
      ∃ value behind, first.run bytes = .ok (value, behind) ∧ (next value).run behind = .ok (result, rest) := by
  rw [StateT.run_bind]
  constructor
  · intro returns
    obtain ⟨reached, here, there⟩ := AgentMod.bind_eq_ok.mp returns
    exact ⟨reached.1, reached.2, here, there⟩
  · rintro ⟨value, behind, here, there⟩
    exact AgentMod.bind_eq_ok.mpr ⟨(value, behind), here, there⟩

theorem pure_eq_ok {value result : α} :
    (pure value : Reading ε α).run bytes = .ok (result, rest) ↔ result = value ∧ rest = bytes := by
  rw [StateT.run_pure]
  constructor
  · intro same
    cases same
    exact ⟨rfl, rfl⟩
  · rintro ⟨rfl, rfl⟩
    rfl

theorem ofOutcome_eq_ok {outcome : Fallible ε α} {result : α} :
    (ofOutcome outcome).run bytes = .ok (result, rest) ↔ outcome = .ok result ∧ rest = bytes := by
  cases outcome with
  | error failed => simp [ofOutcome, StateT.run, Functor.map, Except.map]
  | ok value => simp [ofOutcome, StateT.run, Functor.map, Except.map, eq_comm]

theorem refuseIf_eq_ok {refused : Prop} [Decidable refused] {result : Unit} :
    (refuseIf refused error).run bytes = .ok (result, rest) ↔ ¬ refused ∧ rest = bytes := by
  rw [refuseIf, ofOutcome_eq_ok, AgentMod.refuseIf_eq_ok]

theorem number_eq_ok {width : Nat} {ofNat : Nat → α} {toNat : α → Nat} {value : α}
    (converts : ∀ number < 256 ^ width, toNat (ofNat number) = number) (fits : toNat value < 256 ^ width)
    (returns : ofNat (toNat value) = value) :
    (do let read ← exact width error; return ofNat (ofLeBytes read) : Reading ε α).run bytes = .ok (value, rest) ↔
      bytes = leBytes width (toNat value) ++ rest := by
  rw [bind_eq_ok]
  constructor
  · rintro ⟨read, behind, reads, returned⟩
    obtain ⟨rfl, rfl⟩ := exact_eq_ok.mp reads
    obtain ⟨rfl, rfl⟩ := pure_eq_ok.mp returned
    rw [converts _ (ofLeBytes_lt read), leBytes_ofLeBytes]
  · rintro rfl
    refine ⟨_, _, exact_eq_ok.mpr ⟨length_leBytes _ _, rfl⟩, pure_eq_ok.mpr ⟨?_, rfl⟩⟩
    rw [ofLeBytes_leBytes fits, returns]

/-- A computation ends with a value or an error, whatever it reads. -/
def Safe (reading : Reading ε α) : Prop :=
  ∀ bytes halt, reading.run bytes = .error halt → ∃ error, halt = .error error

theorem Safe.pure {value : α} : Safe (Pure.pure value : Reading ε α) := fun _ _ => nofun

theorem Safe.exact : Safe (exact count error) := by
  intro bytes halt failed
  simp only [Reading.exact, StateT.run] at failed
  split at failed
  · cases failed
  · cases failed
    exact ⟨error, rfl⟩

theorem Safe.ofOutcome {outcome : Fallible ε α}
    (safe : ∀ halt, outcome = .error halt → ∃ error, halt = .error error) : Safe (ofOutcome outcome) := by
  intro bytes halt failed
  cases outcome with
  | error stopped =>
    cases failed
    exact safe halt rfl
  | ok value => cases failed

theorem Safe.refuseIf {refused : Prop} [Decidable refused] : Safe (refuseIf refused error) := by
  refine Safe.ofOutcome fun halt failed => ?_
  rw [AgentMod.refuseIf] at failed
  split at failed
  · cases failed
    exact ⟨error, rfl⟩
  · cases failed

theorem Safe.bind {first : Reading ε α} {next : α → Reading ε β} (safe : Safe first)
    (after : ∀ value bytes behind, first.run bytes = .ok (value, behind) → Safe (next value)) :
    Safe (first >>= next) := by
  intro bytes halt failed
  rw [StateT.run_bind] at failed
  cases reached : first.run bytes with
  | error stopped =>
    rw [reached] at failed
    cases failed
    exact safe bytes halt reached
  | ok reading =>
    rw [reached] at failed
    exact after reading.1 bytes reading.2 reached reading.2 halt failed

end Reading

end AgentMod
