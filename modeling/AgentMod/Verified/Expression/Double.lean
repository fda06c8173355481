import AgentMod.Expression.Evaluate
import Mathlib.Algebra.Order.Ring.Nat
import Mathlib.Order.Monotone.Basic
import Mathlib.Tactic.Ring

/-! Doubles as multiples of the smallest one: their order, and the rounding of integers to them. -/

namespace AgentMod

/-- The magnitude of a double as a multiple of the smallest one, by its exponent and mantissa bits. -/
def scaledMagnitude (bits : Nat) : Nat :=
  if bits / 2 ^ 52 = 0 then bits % 2 ^ 52 else (2 ^ 52 + bits % 2 ^ 52) * 2 ^ (bits / 2 ^ 52 - 1)

/-- The exponent of the smallest double, below one. -/
def smallestExponent : Nat := 1074

/-- How many of the smallest doubles make up one. -/
def doubleScale : Nat := 2 ^ smallestExponent

/-- Larger bits mean a larger magnitude. -/
theorem strictMono_scaledMagnitude : StrictMono scaledMagnitude := by
  refine strictMono_nat_of_lt_succ fun bits => ?_
  have split : bits = 2 ^ 52 * (bits / 2 ^ 52) + bits % 2 ^ 52 := (Nat.div_add_mod _ _).symm
  set exponent := bits / 2 ^ 52 with exponentIs
  set mantissa := bits % 2 ^ 52 with mantissaIs
  have small : mantissa < 2 ^ 52 := Nat.mod_lt _ (by decide)
  have power : 0 < 2 ^ (exponent - 1) := Nat.two_pow_pos _
  by_cases carries : mantissa + 1 = 2 ^ 52
  · have quotient : (bits + 1) / 2 ^ 52 = exponent + 1 := by omega
    have remainder : (bits + 1) % 2 ^ 52 = 0 := by omega
    rw [scaledMagnitude, scaledMagnitude, quotient, remainder, if_neg (Nat.succ_ne_zero _), ← exponentIs,
      ← mantissaIs]
    split
    · next zero =>
      rw [zero]
      omega
    · next positive =>
      have doubled : 2 ^ (exponent + 1 - 1) = 2 * 2 ^ (exponent - 1) := by
        rw [← pow_succ']
        congr 1
        omega
      rw [doubled]
      calc (2 ^ 52 + mantissa) * 2 ^ (exponent - 1) < (2 ^ 52 + 2 ^ 52) * 2 ^ (exponent - 1) :=
            Nat.mul_lt_mul_of_pos_right (by omega) power
        _ = (2 ^ 52 + 0) * (2 * 2 ^ (exponent - 1)) := by ring
  · have quotient : (bits + 1) / 2 ^ 52 = exponent := by omega
    have remainder : (bits + 1) % 2 ^ 52 = mantissa + 1 := by omega
    rw [scaledMagnitude, scaledMagnitude, quotient, remainder, ← exponentIs, ← mantissaIs]
    split
    · omega
    · exact Nat.mul_lt_mul_of_pos_right (by omega) power

theorem totalKey_of_pos {bits : BitVec 64} (positive : bits.msb = false) : totalKey bits = bits.toNat := by
  have zero : bits.sshiftRight 63 = 0#64 := by
    rw [BitVec.sshiftRight_eq_of_msb_false positive]
    refine BitVec.eq_of_toNat_eq ?_
    rw [BitVec.toNat_ushiftRight, Nat.shiftRight_eq_div_pow]
    have small := BitVec.toNat_lt_of_msb_false positive
    simp
    omega
  rw [totalKey, zero]
  simp [BitVec.toInt_eq_toNat_of_msb positive]

theorem xor_mask {magnitude : Nat} (small : magnitude < 2 ^ 63) :
    magnitude ^^^ (2 ^ 63 - 1) = 2 ^ 63 - 1 - magnitude := by
  have flipped : (BitVec.ofNat 63 magnitude ^^^ BitVec.allOnes 63).toNat = 2 ^ 63 - 1 - magnitude := by
    rw [BitVec.xor_allOnes, BitVec.toNat_not, BitVec.toNat_ofNat, Nat.mod_eq_of_lt small]
  rwa [BitVec.toNat_xor, BitVec.toNat_ofNat, Nat.mod_eq_of_lt small, BitVec.toNat_allOnes] at flipped

theorem totalKey_of_neg {bits : BitVec 64} (negative : bits.msb = true) :
    totalKey bits = -((bits.toNat % 2 ^ 63 : Nat) : Int) - 1 := by
  have large : 2 ^ 63 ≤ bits.toNat := BitVec.toNat_ge_of_msb_true negative
  have bounded : bits.toNat < 2 ^ 64 := bits.isLt
  have mask : (bits.sshiftRight 63 >>> 1).toNat = 2 ^ 63 - 1 := by
    have ones : bits.sshiftRight 63 = BitVec.allOnes 64 := by
      rw [BitVec.sshiftRight_eq_of_msb_true negative]
      refine BitVec.eq_of_toNat_eq ?_
      rw [BitVec.toNat_not, BitVec.toNat_ushiftRight, BitVec.toNat_not, Nat.shiftRight_eq_div_pow,
        BitVec.toNat_allOnes]
      omega
    rw [ones]
    rfl
  have flipped : (bits ^^^ (bits.sshiftRight 63 >>> 1)).toNat = 2 ^ 64 - 1 - bits.toNat % 2 ^ 63 := by
    rw [BitVec.toNat_xor, mask]
    have low : (bits.toNat ^^^ (2 ^ 63 - 1)) % 2 ^ 63 = 2 ^ 63 - 1 - bits.toNat % 2 ^ 63 := by
      rw [Nat.xor_mod_two_pow]
      exact xor_mask (Nat.mod_lt _ (by decide))
    have high : (bits.toNat ^^^ (2 ^ 63 - 1)) / 2 ^ 63 = 1 := by
      rw [Nat.xor_div_two_pow]
      have sign : bits.toNat / 2 ^ 63 = 1 := by omega
      rw [sign]
      rfl
    omega
  rw [totalKey, BitVec.toInt_eq_toNat_cond, flipped]
  have small : bits.toNat % 2 ^ 63 < 2 ^ 63 := Nat.mod_lt _ (by decide)
  split <;> omega

theorem totalKey_injective {bits others : BitVec 64} (same : totalKey bits = totalKey others) : bits = others := by
  have bounded := bits.isLt
  have bounded' := others.isLt
  refine BitVec.eq_of_toNat_eq ?_
  cases sign : bits.msb with
  | false =>
    have small := BitVec.toNat_lt_of_msb_false sign
    cases sign' : others.msb with
    | false =>
      rw [totalKey_of_pos sign, totalKey_of_pos sign'] at same
      exact Int.ofNat_inj.mp same
    | true =>
      rw [totalKey_of_pos sign, totalKey_of_neg sign'] at same
      omega
  | true =>
    have large := BitVec.toNat_ge_of_msb_true sign
    cases sign' : others.msb with
    | false =>
      rw [totalKey_of_neg sign, totalKey_of_pos sign'] at same
      omega
    | true =>
      have large' := BitVec.toNat_ge_of_msb_true sign'
      rw [totalKey_of_neg sign, totalKey_of_neg sign'] at same
      omega

section Rounding

variable {value other : Nat}

/-- The mantissa that a natural number is rounded to, with its leading bit. -/
def roundedMantissa (value : Nat) : Nat :=
  if Nat.log2 value ≤ 52 then value * 2 ^ (52 - Nat.log2 value)
  else if 2 * (value % 2 ^ (Nat.log2 value - 52)) > 2 ^ (Nat.log2 value - 52) ∨
      2 * (value % 2 ^ (Nat.log2 value - 52)) = 2 ^ (Nat.log2 value - 52) ∧
        value / 2 ^ (Nat.log2 value - 52) % 2 = 1 then value / 2 ^ (Nat.log2 value - 52) + 1
  else value / 2 ^ (Nat.log2 value - 52)

/-- The magnitude bits that a natural number is rounded to. -/
def roundedBits (value : Nat) : Nat :=
  if value = 0 then 0 else (Nat.log2 value + 1022) * 2 ^ 52 + roundedMantissa value

theorem scaledMagnitude_of_mantissa {exponent mantissa : Nat} (low : 2 ^ 52 ≤ mantissa) (high : mantissa ≤ 2 ^ 53) :
    scaledMagnitude (exponent * 2 ^ 52 + mantissa) = mantissa * 2 ^ exponent := by
  by_cases carries : mantissa = 2 ^ 53
  · have quotient : (exponent * 2 ^ 52 + mantissa) / 2 ^ 52 = exponent + 2 := by omega
    have remainder : (exponent * 2 ^ 52 + mantissa) % 2 ^ 52 = 0 := by omega
    have power : exponent + 2 - 1 = exponent + 1 := by omega
    rw [scaledMagnitude, quotient, remainder, if_neg (by omega), carries, power, pow_succ, Nat.add_zero]
    ring
  · have quotient : (exponent * 2 ^ 52 + mantissa) / 2 ^ 52 = exponent + 1 := by omega
    have remainder : (exponent * 2 ^ 52 + mantissa) % 2 ^ 52 = mantissa - 2 ^ 52 := by omega
    rw [scaledMagnitude, quotient, remainder, if_neg (Nat.succ_ne_zero _), Nat.add_sub_cancel,
      Nat.add_sub_cancel' low]

theorem log2_bounds (positive : value ≠ 0) : 2 ^ Nat.log2 value ≤ value ∧ value < 2 ^ (Nat.log2 value + 1) :=
  ⟨Nat.log2_self_le positive, Nat.lt_log2_self⟩

theorem quotient_bounds (positive : value ≠ 0) (large : 52 < Nat.log2 value) :
    2 ^ 52 ≤ value / 2 ^ (Nat.log2 value - 52) ∧ value / 2 ^ (Nat.log2 value - 52) < 2 ^ 53 := by
  obtain ⟨low, high⟩ := log2_bounds positive
  have power : 0 < 2 ^ (Nat.log2 value - 52) := Nat.two_pow_pos _
  constructor
  · rw [Nat.le_div_iff_mul_le power, ← pow_add]
    exact le_of_eq_of_le (congrArg _ (by omega)) low
  · rw [Nat.div_lt_iff_lt_mul power, ← pow_add]
    exact lt_of_lt_of_eq high (congrArg _ (by omega))

theorem roundedMantissa_bounds (positive : value ≠ 0) :
    2 ^ 52 ≤ roundedMantissa value ∧ roundedMantissa value ≤ 2 ^ 53 := by
  obtain ⟨low, high⟩ := log2_bounds positive
  rw [roundedMantissa]
  split
  · next small =>
    have powers : 2 ^ Nat.log2 value * 2 ^ (52 - Nat.log2 value) = 2 ^ 52 := by
      rw [← pow_add]
      exact congrArg _ (by omega)
    constructor
    · exact powers ▸ Nat.mul_le_mul_right _ low
    · have doubled : 2 ^ (Nat.log2 value + 1) * 2 ^ (52 - Nat.log2 value) = 2 ^ 53 := by
        rw [← pow_add]
        exact congrArg _ (by omega)
      exact doubled ▸ Nat.mul_le_mul_right _ high.le
  · next large =>
    have bounds := quotient_bounds positive (not_le.mp large)
    split <;> omega

theorem toNat_natToDouble (fits : value < 2 ^ 64) : (natToDouble value).toNat = roundedBits value ∧
    roundedBits value < 2 ^ 63 := by
  by_cases zero : value = 0
  · subst zero
    exact ⟨rfl, by decide⟩
  · have bounds := roundedMantissa_bounds zero
    have exponent : Nat.log2 value < 64 := (Nat.log2_lt zero).mpr fits
    have small : roundedBits value < 2 ^ 63 := by
      rw [roundedBits, if_neg zero]
      omega
    refine ⟨?_, small⟩
    have same : natToDouble value = BitVec.ofNat 64 (roundedBits value) := by
      rw [natToDouble, if_neg zero, roundedBits, if_neg zero]
      rfl
    rw [same, BitVec.toNat_ofNat, Nat.mod_eq_of_lt (by omega)]

theorem doubleScale_pos : 0 < doubleScale := Nat.two_pow_pos _

theorem pow_exponent (large : 52 < Nat.log2 value) (factor : Nat) :
    factor * 2 ^ (Nat.log2 value + 1022) = factor * 2 ^ (Nat.log2 value - 52) * doubleScale := by
  rw [doubleScale, mul_assoc, ← pow_add]
  exact congrArg (fun power => factor * 2 ^ power) (by rw [smallestExponent]; omega)

/-- A number is rounded to one of the doubles around it, and up only where it is not a double itself. -/
theorem roundedBits_spec (positive : value ≠ 0) : ∃ bits,
    scaledMagnitude bits ≤ value * doubleScale ∧ value * doubleScale < scaledMagnitude (bits + 1) ∧
      (roundedBits value = bits ∨
        roundedBits value = bits + 1 ∧ scaledMagnitude bits < value * doubleScale) := by
  have bounds := roundedMantissa_bounds positive
  have rounded : roundedBits value = (Nat.log2 value + 1022) * 2 ^ 52 + roundedMantissa value := by
    rw [roundedBits, if_neg positive]
  by_cases small : Nat.log2 value ≤ 52
  · have exactly : scaledMagnitude (roundedBits value) = value * doubleScale := by
      rw [rounded, scaledMagnitude_of_mantissa bounds.1 bounds.2, roundedMantissa, if_pos small, mul_assoc, ← pow_add,
        doubleScale]
      exact congrArg (fun power => value * 2 ^ power) (by rw [smallestExponent]; omega)
    exact ⟨roundedBits value, exactly.le, exactly ▸ strictMono_scaledMagnitude (Nat.lt_succ_self _), .inl rfl⟩
  · have large := not_le.mp small
    have quotient := quotient_bounds positive large
    set unit := 2 ^ (Nat.log2 value - 52) with unitIs
    have power : 0 < unit := Nat.two_pow_pos _
    have split := Nat.div_add_mod value unit
    have below := Nat.mod_lt value power
    have least : scaledMagnitude ((Nat.log2 value + 1022) * 2 ^ 52 + value / unit) =
        value / unit * unit * doubleScale := by
      rw [scaledMagnitude_of_mantissa quotient.1 quotient.2.le, pow_exponent large]
    have next : scaledMagnitude ((Nat.log2 value + 1022) * 2 ^ 52 + value / unit + 1) =
        (value / unit + 1) * unit * doubleScale := by
      rw [add_assoc, scaledMagnitude_of_mantissa (by omega) (by omega), pow_exponent large]
    have scale := doubleScale_pos
    have lower : value / unit * unit ≤ value := Nat.div_mul_le_self _ _
    have upper : value < (value / unit + 1) * unit := by
      rw [Nat.add_mul, one_mul, mul_comm]
      omega
    refine ⟨(Nat.log2 value + 1022) * 2 ^ 52 + value / unit, ?_, ?_, ?_⟩
    · rw [least]
      exact Nat.mul_le_mul_right _ lower
    · rw [next]
      exact Nat.mul_lt_mul_of_pos_right upper scale
    · rw [rounded, roundedMantissa, if_neg small, ← unitIs]
      split
      · next up =>
        refine .inr ⟨by rw [add_assoc], ?_⟩
        rw [least]
        refine Nat.mul_lt_mul_of_pos_right ?_ scale
        -- A number is rounded up only behind the double in front of it.
        have rest : 0 < value % unit := by
          rcases up with more | half
          · omega
          · omega
        rw [mul_comm]
        omega
      · exact .inl rfl

/-- Larger numbers are rounded to larger doubles. -/
theorem roundedBits_mono (ordered : value ≤ other) : roundedBits value ≤ roundedBits other := by
  by_cases zero : value = 0
  · rw [roundedBits, if_pos zero]
    exact Nat.zero_le _
  · have positive : other ≠ 0 := by omega
    have bounds := roundedMantissa_bounds zero
    have otherBounds := roundedMantissa_bounds positive
    have exponents : Nat.log2 value ≤ Nat.log2 other := by
      rw [Nat.le_log2 positive]
      exact (Nat.log2_self_le zero).trans ordered
    rw [roundedBits, if_neg zero, roundedBits, if_neg positive]
    rcases exponents.lt_or_eq with less | same
    · have apart : (Nat.log2 value + 1 + 1022) * 2 ^ 52 ≤ (Nat.log2 other + 1022) * 2 ^ 52 :=
        Nat.mul_le_mul_right (2 ^ 52) (by omega)
      calc (Nat.log2 value + 1022) * 2 ^ 52 + roundedMantissa value
          ≤ (Nat.log2 value + 1022) * 2 ^ 52 + 2 ^ 53 := Nat.add_le_add_left bounds.2 _
        _ = (Nat.log2 value + 1 + 1022) * 2 ^ 52 + 2 ^ 52 := by ring
        _ ≤ (Nat.log2 other + 1022) * 2 ^ 52 + roundedMantissa other := Nat.add_le_add apart otherBounds.1
    · have mantissas : roundedMantissa value ≤ roundedMantissa other := by
        rw [roundedMantissa, roundedMantissa, ← same]
        split
        · exact Nat.mul_le_mul_right _ ordered
        · set unit := 2 ^ (Nat.log2 value - 52)
          have power : 0 < unit := Nat.two_pow_pos _
          have quotients : value / unit ≤ other / unit := Nat.div_le_div_right ordered
          rcases quotients.lt_or_eq with fewer | equal
          · split <;> split <;> omega
          · have first := Nat.div_add_mod value unit
            have second := Nat.div_add_mod other unit
            rw [← equal] at second ⊢
            have rests : value % unit ≤ other % unit := by omega
            split <;> split <;> omega
      rw [same]
      exact Nat.add_le_add_left mantissas _

end Rounding

end AgentMod
