import AgentMod.Verified.Expression.Double
import Mathlib.Algebra.Order.Field.Basic
import Mathlib.Algebra.Order.Field.Rat

/-! The order of numbers in expressions, against the order of their exact values. -/

namespace AgentMod

namespace Number

/-- Whether a number is an integer. -/
def isInteger : Number → Bool
  | .posInt _ _ | .negInt _ _ => true
  | .float _ _ => false

/-- Whether a number carries a sign. -/
def isNegative : Number → Bool
  | .posInt _ _ => false
  | .negInt _ _ => true
  | .float bits _ => bits.msb

/-- The magnitude bits of the double that a number is compared as. -/
def magnitudeBits : Number → Nat
  | .posInt value _ => roundedBits value
  | .negInt value _ => roundedBits value.natAbs
  | .float bits _ => bits.toNat % 2 ^ 63

/-- The exact magnitude of a number as a multiple of the smallest double. -/
def scaledAbs : Number → Nat
  | .posInt value _ => value * doubleScale
  | .negInt value _ => value.natAbs * doubleScale
  | .float bits _ => scaledMagnitude (bits.toNat % 2 ^ 63)

/-- The exact value of a number as a multiple of the smallest double. -/
def scaled (number : Number) : Int :=
  if number.isNegative then -number.scaledAbs else number.scaledAbs

/-- The key that a number is compared by where a double takes part. -/
def key (number : Number) : Int := totalKey number.asF64

section Order

variable {number left right middle : Number}

theorem key_eq (number : Number) : number.key =
    if number.isNegative then -(number.magnitudeBits : Int) - 1 else number.magnitudeBits := by
  cases number with
  | posInt value bounded =>
    obtain ⟨same, small⟩ := toNat_natToDouble bounded
    have positive : (natToDouble value).msb = false := by
      rw [BitVec.msb_eq_false_iff_two_mul_lt, same]
      omega
    rw [key, asF64, totalKey_of_pos positive, same]
    rfl
  | negInt value bounded =>
    obtain ⟨same, small⟩ := @toNat_natToDouble value.natAbs (by omega)
    have bits : (natToDouble value.natAbs ||| (1#64 <<< 63)).toNat = 2 ^ 63 + roundedBits value.natAbs := by
      have sign : (1#64 <<< 63).toNat = 2 ^ 63 * 1 := rfl
      rw [BitVec.toNat_or, same, sign, Nat.or_comm, ← Nat.two_pow_add_eq_or_of_lt small 1, Nat.mul_one]
    have negative : (natToDouble value.natAbs ||| (1#64 <<< 63)).msb = true := by
      rw [BitVec.msb_eq_true_iff_two_mul_ge, bits]
      omega
    have magnitude : (2 ^ 63 + roundedBits value.natAbs) % 2 ^ 63 = roundedBits value.natAbs := by
      rw [Nat.add_mod_left, Nat.mod_eq_of_lt small]
    rw [key, asF64, totalKey_of_neg negative, bits, magnitude]
    rfl
  | float bits finite =>
    rw [key, asF64, isNegative, magnitudeBits]
    cases sign : bits.msb with
    | true => rw [totalKey_of_neg sign]; rfl
    | false =>
      rw [totalKey_of_pos sign, Nat.mod_eq_of_lt (BitVec.toNat_lt_of_msb_false sign)]
      rfl

/-- The bits of a sum of doubles order like the magnitudes. -/
theorem scaledAbs_lt (fewer : left.magnitudeBits < right.magnitudeBits) : left.scaledAbs < right.scaledAbs := by
  have above : ∀ {value bits : Nat}, bits < roundedBits value → scaledMagnitude bits < value * doubleScale := by
    intro value bits fewer
    have positive : value ≠ 0 := by
      intro zero
      rw [zero] at fewer
      exact Nat.not_lt_zero _ fewer
    obtain ⟨around, least, _, rounded⟩ := roundedBits_spec positive
    rcases rounded with same | ⟨up, strict⟩
    · exact (strictMono_scaledMagnitude (same ▸ fewer)).trans_le least
    · exact (strictMono_scaledMagnitude.monotone (by omega)).trans_lt strict
  have below : ∀ {value bits : Nat}, roundedBits value < bits → value * doubleScale < scaledMagnitude bits := by
    intro value bits fewer
    by_cases zero : value = 0
    · rw [zero, Nat.zero_mul]
      exact (Nat.zero_le _).trans_lt (strictMono_scaledMagnitude (Nat.zero_lt_of_lt fewer))
    · obtain ⟨around, _, next, rounded⟩ := roundedBits_spec zero
      refine next.trans_le (strictMono_scaledMagnitude.monotone ?_)
      rcases rounded with same | ⟨up, _⟩ <;> omega
  have integers : ∀ {value other : Nat}, roundedBits value < roundedBits other →
      value * doubleScale < other * doubleScale := by
    intro value other fewer
    refine Nat.mul_lt_mul_of_pos_right (not_le.mp fun ordered => ?_) doubleScale_pos
    exact absurd (roundedBits_mono ordered) (not_le.mpr fewer)
  cases left with
  | posInt value bounded | negInt value bounded =>
    cases right with
    | posInt other fits | negInt other fits => exact integers fewer
    | float bits finite => exact below fewer
  | float bits finite =>
    cases right with
    | posInt other fits | negInt other fits => exact above fewer
    | float others finite' => exact strictMono_scaledMagnitude fewer

/-- Whether a number is the zero with a sign. -/
def isNegativeZero : Number → Bool
  | .float bits _ => bits == 1#64 <<< 63
  | _ => false

theorem isNegativeZero_of_scaledAbs (negative : number.isNegative = true) (zero : number.scaledAbs = 0) :
    number.isNegativeZero = true := by
  cases number with
  | posInt value bounded => exact Bool.noConfusion negative
  | negInt value bounded =>
    rcases Nat.mul_eq_zero.mp zero with magnitude | scale
    · omega
    · exact absurd scale doubleScale_pos.ne'
  | float bits finite =>
    have magnitude : bits.toNat % 2 ^ 63 = 0 := by
      by_contra positive
      have larger := strictMono_scaledMagnitude (Nat.pos_of_ne_zero positive)
      rw [scaledAbs] at zero
      omega
    have large := BitVec.toNat_ge_of_msb_true negative
    have bounded := bits.isLt
    refine beq_iff_eq.mpr (BitVec.eq_of_toNat_eq ?_)
    rw [show (1#64 <<< 63).toNat = 2 ^ 63 from rfl]
    omega

theorem scaled_lt_of_key_lt (less : left.key < right.key) :
    left.scaled < right.scaled ∨ left.isNegativeZero = true ∧ right.scaled = 0 := by
  rw [key_eq, key_eq] at less
  rw [scaled, scaled]
  cases leftSign : left.isNegative with
  | false =>
    cases rightSign : right.isNegative with
    | false =>
      have fewer : left.magnitudeBits < right.magnitudeBits := by
        simpa only [leftSign, rightSign, Bool.false_eq_true, if_false, Nat.cast_lt] using less
      exact .inl (Int.ofNat_lt.mpr (scaledAbs_lt fewer))
    | true =>
      simp only [leftSign, rightSign, Bool.false_eq_true, if_false, if_true] at less
      omega
  | true =>
    cases rightSign : right.isNegative with
    | false =>
      simp only [Bool.false_eq_true, if_false, if_true]
      by_cases zero : left.scaledAbs = 0 ∧ right.scaledAbs = 0
      · exact .inr ⟨isNegativeZero_of_scaledAbs leftSign zero.1, by rw [zero.2]; rfl⟩
      · exact .inl (by omega)
    | true =>
      simp only [leftSign, rightSign, if_true] at less
      have fewer : right.magnitudeBits < left.magnitudeBits := by omega
      have smaller := scaledAbs_lt fewer
      exact .inl (by simp only [if_true]; omega)

theorem scaled_of_integer : (∀ value bounded, (posInt value bounded).scaled = (value : Int) * doubleScale) ∧
    ∀ value bounded, (negInt value bounded).scaled = value * doubleScale := by
  constructor
  · intro value bounded
    simp only [scaled, isNegative, scaledAbs, Bool.false_eq_true, if_false, Int.natCast_mul]
  · intro value bounded
    have magnitude : (value.natAbs : Int) = -value := Int.ofNat_natAbs_of_nonpos bounded.2.le
    simp only [scaled, isNegative, scaledAbs, if_true, Int.natCast_mul, magnitude, Int.neg_mul, Int.neg_neg]

theorem compare_scaled (value other : Int) :
    compare (value * doubleScale) (other * doubleScale) = compare value other := by
  have positive : (0 : Int) < doubleScale := Int.natCast_pos.mpr doubleScale_pos
  rcases lt_trichotomy value other with less | same | more
  · rw [compare_lt_iff_lt.mpr less, compare_lt_iff_lt.mpr (Int.mul_lt_mul_of_pos_right less positive)]
  · rw [same]
    exact (compare_eq_iff_eq.mpr rfl).trans (compare_eq_iff_eq.mpr rfl).symm
  · rw [compare_gt_iff_gt.mpr more, compare_gt_iff_gt.mpr (Int.mul_lt_mul_of_pos_right more positive)]

/-- Integers are compared exactly. -/
theorem compareNumbers_of_isInteger (isLeft : left.isInteger = true) (isRight : right.isInteger = true) :
    compareNumbers left right = compare left.scaled right.scaled := by
  cases left with
  | posInt value bounded =>
    cases right with
    | posInt other fits =>
      rw [scaled_of_integer.1, scaled_of_integer.1, compare_scaled]
      have same : compare (value : Int) (other : Int) = compare value other := by
        rcases lt_trichotomy value other with less | same | more
        · rw [compare_lt_iff_lt.mpr less, compare_lt_iff_lt.mpr (Int.ofNat_lt.mpr less)]
        · rw [same, compare_eq_iff_eq.mpr rfl, compare_eq_iff_eq.mpr rfl]
        · rw [compare_gt_iff_gt.mpr more, compare_gt_iff_gt.mpr (Int.ofNat_lt.mpr more)]
      rw [compareNumbers, asI64, asI64]
      split_ifs <;> simp only [asU64, same]
    | negInt other fits =>
      have more : compare (value : Int) other = .gt := compare_gt_iff_gt.mpr (by omega)
      rw [scaled_of_integer.1, scaled_of_integer.2, compare_scaled, more, compareNumbers, asI64, asI64]
      split_ifs with small
      · exact more
      · -- The larger of the unsigned integers meet the negative ones as doubles.
        have keys : (negInt other fits).key < (posInt value bounded).key := by
          rw [key_eq, key_eq]
          simp only [isNegative, Bool.false_eq_true, if_true, if_false]
          omega
        exact compare_gt_iff_gt.mpr keys
    | float bits finite => exact Bool.noConfusion isRight
  | negInt value bounded =>
    cases right with
    | posInt other fits =>
      have less : compare value (other : Int) = .lt := compare_lt_iff_lt.mpr (by omega)
      rw [scaled_of_integer.1, scaled_of_integer.2, compare_scaled, less, compareNumbers, asI64, asI64]
      split_ifs with small
      · exact less
      · have keys : (negInt value bounded).key < (posInt other fits).key := by
          rw [key_eq, key_eq]
          simp only [isNegative, Bool.false_eq_true, if_true, if_false]
          omega
        exact compare_lt_iff_lt.mpr keys
    | negInt other fits =>
      rw [scaled_of_integer.2, scaled_of_integer.2, compare_scaled, compareNumbers, asI64, asI64]
    | float bits finite => exact Bool.noConfusion isRight
  | float bits finite => exact Bool.noConfusion isLeft

theorem compareNumbers_of_float (float : left.isInteger = false ∨ right.isInteger = false) :
    compareNumbers left right = compare left.key right.key := by
  cases left with
  | posInt value bounded =>
    cases right with
    | posInt other fits | negInt other fits => simp [isInteger] at float
    | float bits finite =>
      rw [compareNumbers, asI64, asI64]
      split_ifs <;> rfl
  | negInt value bounded =>
    cases right with
    | posInt other fits | negInt other fits => simp [isInteger] at float
    | float bits finite => rfl
  | float bits finite =>
    cases right with
    | posInt other fits | negInt other fits | float others finite' => rfl

theorem isNegativeZero_of_isInteger (integer : number.isInteger = true) : number.isNegativeZero = false := by
  cases number with
  | posInt value bounded | negInt value bounded => rfl
  | float bits finite => exact Bool.noConfusion integer

theorem key_mono (integer : right.isInteger = true) (ordered : left.scaled ≤ right.scaled) :
    left.key ≤ right.key := by
  refine not_lt.mp fun more => ?_
  rcases scaled_lt_of_key_lt more with less | ⟨zero, _⟩
  · exact absurd less (not_lt.mpr ordered)
  · rw [isNegativeZero_of_isInteger integer] at zero
    exact Bool.noConfusion zero

theorem eq_of_scaled (isLeft : left.isInteger = true) (isRight : right.isInteger = true)
    (same : left.scaled = right.scaled) : left = right := by
  have scale : (doubleScale : Int) ≠ 0 := Int.natCast_ne_zero.mpr doubleScale_pos.ne'
  cases left with
  | posInt value bounded =>
    cases right with
    | posInt other fits =>
      rw [scaled_of_integer.1, scaled_of_integer.1] at same
      have values := Int.ofNat_inj.mp (Int.eq_of_mul_eq_mul_right scale same)
      subst values
      rfl
    | negInt other fits =>
      rw [scaled_of_integer.1, scaled_of_integer.2] at same
      have values := Int.eq_of_mul_eq_mul_right scale same
      omega
    | float bits finite => exact Bool.noConfusion isRight
  | negInt value bounded =>
    cases right with
    | posInt other fits =>
      rw [scaled_of_integer.1, scaled_of_integer.2] at same
      have values := Int.eq_of_mul_eq_mul_right scale same
      omega
    | negInt other fits =>
      rw [scaled_of_integer.2, scaled_of_integer.2] at same
      have values := Int.eq_of_mul_eq_mul_right scale same
      subst values
      rfl
    | float bits finite => exact Bool.noConfusion isRight
  | float bits finite => exact Bool.noConfusion isLeft

/-- A comparison of two numbers holds. -/
def Holds (left : Number) (operator : ComparisonOperator) (right : Number) : Prop :=
  compareResolved (.number left) operator (.number right) = .ok true

theorem holds_less : left.Holds .less right ↔ compareNumbers left right = .lt := by
  simp [Holds, compareResolved, Resolved.kind, orderingOf, okOr]

theorem holds_greater : left.Holds .greater right ↔ compareNumbers left right = .gt := by
  simp [Holds, compareResolved, Resolved.kind, orderingOf, okOr]

theorem holds_equal : left.Holds .equal right ↔ compareNumbers left right = .eq := by
  simp [Holds, compareResolved, Resolved.kind, equalValues]

theorem key_eq_of_equal (equal : compareNumbers left right = .eq) : left.key = right.key := by
  by_cases integers : left.isInteger = true ∧ right.isInteger = true
  · rw [compareNumbers_of_isInteger integers.1 integers.2, compare_eq_iff_eq] at equal
    rw [eq_of_scaled integers.1 integers.2 equal]
  · rw [compareNumbers_of_float (by simpa [imp_iff_not_or] using integers), compare_eq_iff_eq] at equal
    exact equal

theorem key_le_of_less (less : compareNumbers left right = .lt) : left.key ≤ right.key := by
  by_cases integers : left.isInteger = true ∧ right.isInteger = true
  · rw [compareNumbers_of_isInteger integers.1 integers.2, compare_lt_iff_lt] at less
    exact key_mono integers.2 less.le
  · rw [compareNumbers_of_float (by simpa [imp_iff_not_or] using integers), compare_lt_iff_lt] at less
    exact less.le

theorem compareNumbers_swap (left right : Number) : compareNumbers right left = (compareNumbers left right).swap := by
  by_cases integers : left.isInteger = true ∧ right.isInteger = true
  · rw [compareNumbers_of_isInteger integers.1 integers.2, compareNumbers_of_isInteger integers.2 integers.1]
    exact Std.OrientedCmp.eq_swap
  · have float : left.isInteger = false ∨ right.isInteger = false := by simpa [imp_iff_not_or] using integers
    rw [compareNumbers_of_float float, compareNumbers_of_float float.symm]
    exact Std.OrientedCmp.eq_swap

/-- The exact value of a number. -/
def exactValue (number : Number) : ℚ := number.scaled / doubleScale

theorem exactValue_lt : left.exactValue < right.exactValue ↔ left.scaled < right.scaled := by
  have scale : (0 : ℚ) < doubleScale := Nat.cast_pos.mpr doubleScale_pos
  rw [exactValue, exactValue, div_lt_div_iff_of_pos_right scale, Int.cast_lt]

theorem exactValue_eq_zero : left.exactValue = 0 ↔ left.scaled = 0 := by
  have scale : (doubleScale : ℚ) ≠ 0 := Nat.cast_ne_zero.mpr doubleScale_pos.ne'
  rw [exactValue, div_eq_zero_iff, or_iff_left scale, Int.cast_eq_zero]

theorem exactValue_of_less (less : compareNumbers left right = .lt) :
    left.exactValue < right.exactValue ∨ left.isNegativeZero = true ∧ right.exactValue = 0 := by
  rw [exactValue_lt, exactValue_eq_zero]
  by_cases integers : left.isInteger = true ∧ right.isInteger = true
  · rw [compareNumbers_of_isInteger integers.1 integers.2, compare_lt_iff_lt] at less
    exact .inl less
  · rw [compareNumbers_of_float (by simpa [imp_iff_not_or] using integers), compare_lt_iff_lt] at less
    exact scaled_lt_of_key_lt less

theorem eq_or_rounded (equal : compareNumbers left right = .eq) :
    left = right ∨ left.isInteger ≠ right.isInteger ∧ left.asF64 = right.asF64 := by
  have doubles : left.asF64 = right.asF64 := totalKey_injective (key_eq_of_equal equal)
  cases isLeft : left.isInteger with
  | true =>
    cases isRight : right.isInteger with
    | true =>
      rw [compareNumbers_of_isInteger isLeft isRight, compare_eq_iff_eq] at equal
      exact .inl (eq_of_scaled isLeft isRight equal)
    | false => exact .inr ⟨Bool.noConfusion, doubles⟩
  | false =>
    cases isRight : right.isInteger with
    | true => exact .inr ⟨Bool.noConfusion, doubles⟩
    | false =>
      cases left with
      | posInt value bounded | negInt value bounded => exact Bool.noConfusion isLeft
      | float bits finite =>
        cases right with
        | posInt other fits | negInt other fits => exact Bool.noConfusion isRight
        | float others finite' =>
          have same : bits = others := doubles
          subst same
          exact .inl rfl

theorem compareNumbers_refl (number : Number) : compareNumbers number number = .eq := by
  cases integer : number.isInteger with
  | true => rw [compareNumbers_of_isInteger integer integer, compare_eq_iff_eq]
  | false => rw [compareNumbers_of_float (.inl integer), compare_eq_iff_eq]

theorem less_trans (less : compareNumbers left middle = .lt) (more : compareNumbers middle right = .lt) :
    compareNumbers left right = .lt := by
  have firstKeys := key_le_of_less less
  have secondKeys := key_le_of_less more
  by_cases integers : left.isInteger = true ∧ right.isInteger = true
  · rw [compareNumbers_of_isInteger integers.1 integers.2, compare_lt_iff_lt]
    cases between : middle.isInteger with
    | true =>
      rw [compareNumbers_of_isInteger integers.1 between, compare_lt_iff_lt] at less
      rw [compareNumbers_of_isInteger between integers.2, compare_lt_iff_lt] at more
      exact less.trans more
    | false =>
      rw [compareNumbers_of_float (.inr between), compare_lt_iff_lt] at less
      refine not_le.mp fun ordered => ?_
      exact absurd (key_mono integers.1 ordered) (not_le.mpr (less.trans_le secondKeys))
  · have float : left.isInteger = false ∨ right.isInteger = false := by simpa [imp_iff_not_or] using integers
    rw [compareNumbers_of_float float, compare_lt_iff_lt]
    -- The double at the one end is apart from the number in the middle.
    rcases float with isLeft | isRight
    · rw [compareNumbers_of_float (.inl isLeft), compare_lt_iff_lt] at less
      exact less.trans_le secondKeys
    · rw [compareNumbers_of_float (.inr isRight), compare_lt_iff_lt] at more
      exact firstKeys.trans_lt more

end Order

/-- The order of numbers is total, and exact but for the zero with a sign and for the rounding of an integer that is
compared with a double. -/
theorem number_comparison (first second third : Number) :
    ((first.Holds .less second ∧ ¬first.Holds .equal second ∧ ¬first.Holds .greater second) ∨
      (¬first.Holds .less second ∧ first.Holds .equal second ∧ ¬first.Holds .greater second) ∨
      ¬first.Holds .less second ∧ ¬first.Holds .equal second ∧ first.Holds .greater second) ∧
    (first.Holds .greater second ↔ second.Holds .less first) ∧
    (first.Holds .equal second → second.Holds .equal first) ∧
    (first.Holds .less second → second.Holds .less third → first.Holds .less third) ∧
    (first.Holds .equal second → second.Holds .equal third →
      first.Holds .equal third ∨
        first ≠ third ∧ first.isInteger = true ∧ second.isInteger = false ∧ third.isInteger = true ∧
          first.asF64 = second.asF64 ∧ third.asF64 = second.asF64) ∧
    (first.Holds .less second →
      first.exactValue < second.exactValue ∨ first.isNegativeZero = true ∧ second.exactValue = 0) ∧
    (first.Holds .equal second →
      first.exactValue = second.exactValue ∨
        first.isInteger ≠ second.isInteger ∧ first.asF64 = second.asF64) := by
  simp only [holds_less, holds_equal, holds_greater]
  refine ⟨?_, ?_, ?_, less_trans, ?_, exactValue_of_less, ?_⟩
  · cases compareNumbers first second <;> decide
  · rw [compareNumbers_swap second first]
    cases compareNumbers second first <;> decide
  · intro equal
    rw [compareNumbers_swap first second, equal]
    rfl
  · intro equal next
    rcases eq_or_rounded equal with same | ⟨kinds, doubles⟩
    · exact .inl (same ▸ next)
    rcases eq_or_rounded next with same | ⟨kinds', doubles'⟩
    · exact .inl (same ▸ equal)
    by_cases float : first.isInteger = false ∨ third.isInteger = false
    · refine .inl ?_
      rw [compareNumbers_of_float float, compare_eq_iff_eq, key_eq_of_equal equal, key_eq_of_equal next]
    · by_cases same : first = third
      · subst same
        exact .inl (compareNumbers_refl first)
      · simp only [not_or, Bool.not_eq_false] at float
        rw [float.1] at kinds
        exact .inr ⟨same, float.1, Bool.eq_false_of_not_eq_true kinds.symm, float.2, doubles, doubles'.symm⟩
  · intro equal
    rcases eq_or_rounded equal with same | rounded
    · exact .inl (congrArg exactValue same)
    · exact .inr rounded

/-- An integer that no double holds. -/
def unroundedInteger : Number := .posInt (2 ^ 53 + 1) (by decide)

/-- The double that it is rounded to. -/
def roundedDouble : Number := .float 0x4340000000000000#64 (by decide)

/-- The integer that is that double. -/
def roundedInteger : Number := .posInt (2 ^ 53) (by decide)

instance evaluated_rounding : Fact (compareNumbers unroundedInteger roundedDouble = .eq ∧
    compareNumbers roundedDouble roundedInteger = .eq ∧ compareNumbers unroundedInteger roundedInteger = .gt) :=
  ⟨by decide +kernel⟩

/-- Two integers that are apart equal the one double, so that equality is neither transitive nor exact. -/
theorem not_number_preorder :
    ¬(∀ first second third : Number,
      first.Holds .equal second → second.Holds .equal third → first.Holds .equal third) ∧
    ¬∀ first second : Number, first.Holds .equal second → first.exactValue = second.exactValue := by
  obtain ⟨first, second, third⟩ := evaluated_rounding.out
  constructor
  · intro transitive
    have equal := transitive unroundedInteger roundedDouble roundedInteger (holds_equal.mpr first)
      (holds_equal.mpr second)
    rw [holds_equal, third] at equal
    exact Ordering.noConfusion equal
  · intro exactly
    have values := (exactly _ _ (holds_equal.mpr first)).trans (exactly _ _ (holds_equal.mpr second))
    have ordered : compareNumbers roundedInteger unroundedInteger = .lt := by
      rw [compareNumbers_swap unroundedInteger roundedInteger, third]
      rfl
    rcases exactValue_of_less ordered with less | ⟨zero, _⟩
    · exact absurd values less.ne'
    · exact Bool.noConfusion zero


end Number

end AgentMod
