import AgentMod.Library.Decimal
import AgentMod.PluginSchema.Tree
import AgentMod.Verified.Variables.Decimal
import Mathlib.Algebra.Order.Field.Power
import Mathlib.Data.Rat.Cast.Order

/-! The order of schema numbers, against the order of the numbers that their texts denote. -/

namespace AgentMod

namespace SchemaDecimal

/-- The number that a decimal denotes, without its sign. -/
def magnitude (decimal : SchemaDecimal) : ℚ := digitsValue decimal.digits * 10 ^ decimal.exponent

/-- The number that a decimal denotes. -/
def value (decimal : SchemaDecimal) : ℚ :=
  (if decimal.negative then -1 else 1) * decimal.magnitude

/-- How many digits a decimal has in front of its point. -/
def order (decimal : SchemaDecimal) : Int := decimal.digits.length + decimal.exponent

/-- A decimal has digits, and its number of digits and its order fit `i64`. -/
structure Bounded (decimal : SchemaDecimal) : Prop where
  digits : AreDigits decimal.digits
  length : (decimal.digits.length : Int) < 2 ^ 63
  order : -2 ^ 63 ≤ decimal.order ∧ decimal.order < 2 ^ 63

/-- The digits of a decimal, filled up with zeros. -/
def padded (width : Nat) (decimal : SchemaDecimal) : List Char :=
  decimal.digits ++ .replicate (width - decimal.digits.length) '0'

/-- No zero leads the digits of a decimal. -/
def Leads (decimal : SchemaDecimal) : Prop := ∃ first rest, decimal.digits = first :: rest ∧ first ≠ '0'

variable {left right decimal : SchemaDecimal}

theorem compare_char {first second : Char} : compare first second = compare first.toNat second.toNat := by
  have same : first = second ↔ first.toNat = second.toNat := Char.toNat_inj.symm
  have less : first < second ↔ first.toNat < second.toNat := Iff.rfl
  change compareOfLessAndEq first second = compareOfLessAndEq first.toNat second.toNat
  rw [compareOfLessAndEq, compareOfLessAndEq]
  simp only [same, less]

theorem compare_leading {scale digit other low low' : Nat} (below : low < scale) (below' : low' < scale) :
    compare (digit * scale + low) (other * scale + low') = (compare digit other).then (compare low low') := by
  rcases lt_trichotomy digit other with less | rfl | more
  · have higher : (digit + 1) * scale ≤ other * scale := Nat.mul_le_mul_right scale less
    rw [Nat.add_mul, Nat.one_mul] at higher
    rw [compare_lt_iff_lt.mpr less, compare_lt_iff_lt.mpr (by omega)]
    rfl
  · rw [compare_eq_iff_eq.mpr rfl, Ordering.eq_then]
    rcases lt_trichotomy low low' with less | same | more
    · rw [compare_lt_iff_lt.mpr less, compare_lt_iff_lt.mpr (by omega)]
    · rw [compare_eq_iff_eq.mpr same, compare_eq_iff_eq.mpr (by omega)]
    · rw [compare_gt_iff_gt.mpr more, compare_gt_iff_gt.mpr (by omega)]
  · have higher : (other + 1) * scale ≤ digit * scale := Nat.mul_le_mul_right scale more
    rw [Nat.add_mul, Nat.one_mul] at higher
    rw [compare_gt_iff_gt.mpr more, compare_gt_iff_gt.mpr (by omega)]
    rfl

theorem compare_digit {digit other : Char} (isDigit : digit.isDigit) (isOther : other.isDigit) :
    compare digit.toNat other.toNat = compare (digit.toNat - 48) (other.toNat - 48) := by
  have least : ∀ {character : Char}, character.isDigit → 48 ≤ character.toNat := by
    intro character isDigit
    simp only [Char.isDigit, Bool.and_eq_true, decide_eq_true_eq, ge_iff_le, UInt32.le_iff_toNat_le] at isDigit
    exact isDigit.1
  have first := least isDigit
  have second := least isOther
  rcases lt_trichotomy digit.toNat other.toNat with less | same | more
  · rw [compare_lt_iff_lt.mpr less, compare_lt_iff_lt.mpr (by omega)]
  · rw [compare_eq_iff_eq.mpr same, compare_eq_iff_eq.mpr (by omega)]
  · rw [compare_gt_iff_gt.mpr more, compare_gt_iff_gt.mpr (by omega)]

theorem compare_digits {first second : List Char} (areFirst : AreDigits first) (areSecond : AreDigits second)
    (length : first.length = second.length) :
    compare first second = compare (digitsValue first) (digitsValue second) := by
  induction first generalizing second with
  | nil =>
    rw [List.eq_nil_of_length_eq_zero length.symm]
    rfl
  | cons digit rest ih =>
    match second, length with
    | other :: others, length =>
      have lengths : rest.length = others.length := Nat.succ.inj length
      have areRest : AreDigits rest := fun character listed => areFirst character (List.mem_cons_of_mem _ listed)
      have areOthers : AreDigits others := fun character listed => areSecond character (List.mem_cons_of_mem _ listed)
      have isDigit := areFirst digit List.mem_cons_self
      have isOther := areSecond other List.mem_cons_self
      rw [List.compare_cons_cons, ih areRest areOthers lengths, digitsValue_cons, digitsValue_cons, ← lengths]
      rw [compare_leading (digitsValue_lt areRest) (lengths ▸ digitsValue_lt areOthers), compare_char,
        compare_digit isDigit isOther]

theorem checkedI64_eq {value : Int} (fits : -2 ^ 63 ≤ value ∧ value < 2 ^ 63) : checkedI64 value = some value :=
  if_pos fits

theorem compareDecimalMagnitude_eq (isLeft : left.Bounded) (isRight : right.Bounded) :
    compareDecimalMagnitude left right =
      some ((compare left.order right.order).then
        (compare (left.padded (max left.digits.length right.digits.length))
          (right.padded (max left.digits.length right.digits.length)))) := by
  have leftLength : checkedI64 left.digits.length = some (left.digits.length : Int) :=
    checkedI64_eq ⟨by omega, isLeft.length⟩
  have rightLength : checkedI64 right.digits.length = some (right.digits.length : Int) :=
    checkedI64_eq ⟨by omega, isRight.length⟩
  have leftOrder : checkedI64 (left.digits.length + left.exponent) = some left.order := checkedI64_eq isLeft.order
  have rightOrder : checkedI64 (right.digits.length + right.exponent) = some right.order :=
    checkedI64_eq isRight.order
  simp only [compareDecimalMagnitude, leftLength, rightLength, leftOrder, rightOrder, Option.bind_eq_bind,
    Option.bind_some, padded]
  cases compare left.order right.order with
  | lt | gt | eq => rfl

theorem areDigits_padded {width : Nat} (areDigits : AreDigits decimal.digits) :
    AreDigits (decimal.padded width) := by
  intro character listed
  rcases List.mem_append.mp listed with inside | zero
  · exact areDigits character inside
  · rw [List.eq_of_mem_replicate zero]
    rfl

theorem length_padded {width : Nat} (wide : decimal.digits.length ≤ width) :
    (decimal.padded width).length = width := by
  rw [padded, List.length_append, List.length_replicate]
  omega

theorem magnitude_padded {width : Nat} (wide : decimal.digits.length ≤ width) :
    decimal.magnitude = digitsValue (decimal.padded width) * 10 ^ (decimal.order - width) := by
  have zeros : ∀ count, digitsValue (.replicate count '0') = 0 := by
    intro count
    induction count with
    | zero => rfl
    | succ count ih =>
      have none : '0'.toNat - 48 = 0 := rfl
      rw [List.replicate_succ, digitsValue_cons, ih, none, Nat.zero_mul]
  have ten : (10 : ℚ) ≠ 0 := by norm_num
  rw [magnitude, padded, digitsValue_append, zeros, List.length_replicate, Nat.add_zero, Nat.cast_mul, Nat.cast_pow,
    mul_assoc, Nat.cast_ofNat, ← zpow_natCast, ← zpow_add₀ ten]
  congr 2
  rw [order]
  omega

theorem compare_padded {width : Nat} (areLeft : AreDigits left.digits) (areRight : AreDigits right.digits)
    (wideLeft : left.digits.length ≤ width) (wideRight : right.digits.length ≤ width)
    (orders : left.order = right.order) :
    compare (left.padded width) (right.padded width) = compare left.magnitude right.magnitude := by
  have scale : (0 : ℚ) < 10 ^ (right.order - width) := zpow_pos (by norm_num) _
  rw [compare_digits (areDigits_padded areLeft) (areDigits_padded areRight)
    ((length_padded wideLeft).trans (length_padded wideRight).symm), magnitude_padded wideLeft,
    magnitude_padded wideRight, orders]
  rcases lt_trichotomy (digitsValue (left.padded width)) (digitsValue (right.padded width)) with less | same | more
  · rw [compare_lt_iff_lt.mpr less, compare_lt_iff_lt.mpr (mul_lt_mul_of_pos_right (Nat.cast_lt.mpr less) scale)]
  · rw [same, compare_eq_iff_eq.mpr rfl, compare_eq_iff_eq.mpr rfl]
  · rw [compare_gt_iff_gt.mpr more, compare_gt_iff_gt.mpr (mul_lt_mul_of_pos_right (Nat.cast_lt.mpr more) scale)]

theorem magnitude_lt (areDigits : AreDigits decimal.digits) : decimal.magnitude < 10 ^ decimal.order := by
  have ten : (10 : ℚ) ≠ 0 := by norm_num
  have small : (digitsValue decimal.digits : ℚ) < 10 ^ (decimal.digits.length : Int) := by
    rw [zpow_natCast]
    exact_mod_cast digitsValue_lt areDigits
  rw [magnitude, order, zpow_add₀ ten]
  exact mul_lt_mul_of_pos_right small (zpow_pos (by norm_num) _)

theorem le_magnitude (areDigits : AreDigits decimal.digits) (leads : decimal.Leads) :
    10 ^ (decimal.order - 1) ≤ decimal.magnitude := by
  obtain ⟨first, rest, digits, nonzero⟩ := leads
  have isDigit : first.isDigit := areDigits first (digits ▸ List.mem_cons_self)
  have ten : (10 : ℚ) ≠ 0 := by norm_num
  have length : decimal.order - 1 = rest.length + decimal.exponent := by
    rw [order, digits, List.length_cons]
    omega
  have large : (10 : ℚ) ^ (rest.length : Int) ≤ digitsValue decimal.digits := by
    rw [zpow_natCast, digits]
    exact_mod_cast le_digitsValue isDigit nonzero
  rw [magnitude, length, zpow_add₀ ten]
  exact mul_le_mul_of_nonneg_right large (zpow_pos (by norm_num) _).le

theorem magnitude_lt_of_order (areLeft : AreDigits left.digits) (areRight : AreDigits right.digits)
    (leads : right.Leads) (less : left.order < right.order) : left.magnitude < right.magnitude :=
  calc left.magnitude < 10 ^ left.order := magnitude_lt areLeft
    _ ≤ 10 ^ (right.order - 1) := zpow_le_zpow_right₀ (by norm_num) (by omega)
    _ ≤ right.magnitude := le_magnitude areRight leads

/-- The decimal of zero. -/
def zero : SchemaDecimal := ⟨false, ['0'], 0⟩

/-- A decimal as the reader of texts leaves it: zero, or without a leading zero. -/
def Canonical (decimal : SchemaDecimal) : Prop := decimal.Bounded ∧ (decimal = zero ∨ decimal.Leads)

/-- Zero stands against a number below one, which has fewer digits in front of its point. -/
def ZeroAgainstFraction (left right : ℚ) : Prop := left = 0 ∧ 0 < right ∧ right < 1

theorem magnitude_zero : zero.magnitude = 0 := by
  rw [magnitude, zero]
  exact zero_mul _

theorem magnitude_pos (isDecimal : decimal.Bounded) (leads : decimal.Leads) : 0 < decimal.magnitude :=
  (zpow_pos (by norm_num) _).trans_le (le_magnitude isDecimal.digits leads)

theorem magnitude_lt_one (isDecimal : decimal.Bounded) (leads : decimal.Leads) :
    decimal.magnitude < 1 ↔ decimal.order < 1 := by
  constructor
  · intro small
    have reaches := (le_magnitude isDecimal.digits leads).trans_lt small
    rw [← zpow_zero (10 : ℚ), zpow_lt_zpow_iff_right₀ (by norm_num)] at reaches
    omega
  · intro few
    calc decimal.magnitude < 10 ^ decimal.order := magnitude_lt isDecimal.digits
      _ ≤ 10 ^ (0 : Int) := zpow_le_zpow_right₀ (by norm_num) (by omega)
      _ = 1 := zpow_zero _

theorem compareDecimalMagnitude_of_leads (isLeft : left.Bounded) (isRight : right.Bounded) (leadsLeft : left.Leads)
    (leadsRight : right.Leads) :
    compareDecimalMagnitude left right = some (compare left.magnitude right.magnitude) := by
  rw [compareDecimalMagnitude_eq isLeft isRight]
  rcases lt_trichotomy left.order right.order with less | same | more
  · have smaller := magnitude_lt_of_order isLeft.digits isRight.digits leadsRight less
    rw [compare_lt_iff_lt.mpr less, compare_lt_iff_lt.mpr smaller]
    rfl
  · rw [compare_eq_iff_eq.mpr same, Ordering.eq_then, compare_padded isLeft.digits isRight.digits
      (le_max_left _ _) (le_max_right _ _) same]
  · have larger := magnitude_lt_of_order isRight.digits isLeft.digits leadsLeft more
    rw [compare_gt_iff_gt.mpr more, compare_gt_iff_gt.mpr larger]
    rfl

theorem bounded_zero : zero.Bounded := by
  refine ⟨?_, by decide, by decide⟩
  intro character listed
  rw [List.mem_singleton.mp listed]
  rfl

theorem compareDecimalMagnitude_zero_zero : compareDecimalMagnitude zero zero = some .eq := by decide

theorem compareDecimalMagnitude_zero (isRight : right.Bounded) (leads : right.Leads) :
    compareDecimalMagnitude zero right = some (if right.magnitude < 1 then .gt else .lt) ∧
    compareDecimalMagnitude right zero = some (if right.magnitude < 1 then .lt else .gt) := by
  have one : zero.order = 1 := rfl
  have positive : zero.magnitude < right.magnitude := magnitude_zero ▸ magnitude_pos isRight leads
  rw [compareDecimalMagnitude_eq bounded_zero isRight, compareDecimalMagnitude_eq isRight bounded_zero, one]
  rcases lt_trichotomy right.order 1 with less | same | more
  · rw [if_pos ((magnitude_lt_one isRight leads).mpr less), if_pos ((magnitude_lt_one isRight leads).mpr less),
      compare_gt_iff_gt.mpr less, compare_lt_iff_lt.mpr less]
    exact ⟨rfl, rfl⟩
  · have large : ¬ right.magnitude < 1 := by
      rw [magnitude_lt_one isRight leads]
      omega
    rw [if_neg large, if_neg large, same, compare_eq_iff_eq.mpr rfl, Ordering.eq_then, Ordering.eq_then,
      compare_padded bounded_zero.digits isRight.digits (le_max_left _ _) (le_max_right _ _) (one.trans same.symm),
      compare_padded isRight.digits bounded_zero.digits (le_max_left _ _) (le_max_right _ _) (same.trans one.symm),
      compare_lt_iff_lt.mpr positive, compare_gt_iff_gt.mpr positive]
    exact ⟨rfl, rfl⟩
  · have large : ¬ right.magnitude < 1 := by
      rw [magnitude_lt_one isRight leads]
      omega
    rw [if_neg large, if_neg large, compare_lt_iff_lt.mpr more, compare_gt_iff_gt.mpr more]
    exact ⟨rfl, rfl⟩

theorem leads_of_negative (canonical : decimal.Canonical) (negative : decimal.negative = true) : decimal.Leads := by
  rcases canonical.2 with rfl | leads
  · exact Bool.noConfusion negative
  · exact leads

theorem value_of_negative (negative : decimal.negative = true) : decimal.value = -decimal.magnitude := by
  rw [value, if_pos negative, neg_one_mul]

theorem value_of_positive (positive : decimal.negative = false) : decimal.value = decimal.magnitude := by
  rw [value, positive, if_neg Bool.false_ne_true, one_mul]

theorem magnitude_nonneg (decimal : SchemaDecimal) : 0 ≤ decimal.magnitude :=
  mul_nonneg (Nat.cast_nonneg _) (zpow_pos (by norm_num) _).le

/-- The order that two decimals are given. -/
def compared (left right : SchemaDecimal) : Option Ordering :=
  if left.negative ≠ right.negative then some (if left.negative then .lt else .gt)
  else (compareDecimalMagnitude left right).map fun ordering => if left.negative then ordering.swap else ordering

theorem value_neg (canonical : decimal.Canonical) (negative : decimal.negative = true) : decimal.value < 0 := by
  rw [value_of_negative negative]
  exact neg_neg_of_pos (magnitude_pos canonical.1 (leads_of_negative canonical negative))

theorem value_nonneg (positive : decimal.negative = false) : 0 ≤ decimal.value :=
  value_of_positive positive ▸ magnitude_nonneg decimal

theorem compared_of_signs (isLeft : left.Canonical) (isRight : right.Canonical)
    (apart : left.negative ≠ right.negative) : compared left right = some (compare left.value right.value) := by
  rw [compared, if_pos apart]
  cases leftSign : left.negative with
  | true =>
    have rightSign : right.negative = false := Bool.eq_false_of_not_eq_true fun same => apart (leftSign.trans same.symm)
    rw [if_pos rfl, compare_lt_iff_lt.mpr ((value_neg isLeft leftSign).trans_le (value_nonneg rightSign))]
  | false =>
    have rightSign : right.negative = true := Bool.eq_true_of_not_eq_false fun same => apart (leftSign.trans same.symm)
    rw [if_neg Bool.false_ne_true,
      compare_gt_iff_gt.mpr ((value_neg isRight rightSign).trans_le (value_nonneg leftSign))]

theorem compared_of_negative (isLeft : left.Canonical) (isRight : right.Canonical)
    (leftSign : left.negative = true) (rightSign : right.negative = true) :
    compared left right = some (compare left.value right.value) := by
  rw [compared, if_neg (not_not_intro (leftSign.trans rightSign.symm)),
    compareDecimalMagnitude_of_leads isLeft.1 isRight.1 (leads_of_negative isLeft leftSign)
      (leads_of_negative isRight rightSign), leftSign, Option.map_some, if_pos rfl, value_of_negative leftSign,
    value_of_negative rightSign]
  congr 1
  rcases lt_trichotomy left.magnitude right.magnitude with less | same | more
  · rw [compare_lt_iff_lt.mpr less, compare_gt_iff_gt.mpr (neg_lt_neg less), Ordering.swap_lt]
  · rw [compare_eq_iff_eq.mpr same, compare_eq_iff_eq.mpr (congrArg Neg.neg same), Ordering.swap_eq]
  · rw [compare_gt_iff_gt.mpr more, compare_lt_iff_lt.mpr (neg_lt_neg more), Ordering.swap_gt]

theorem compared_of_positive (isLeft : left.Canonical) (isRight : right.Canonical)
    (leftSign : left.negative = false) (rightSign : right.negative = false) :
    compared left right = some (compare left.value right.value) ↔
      ¬(ZeroAgainstFraction left.value right.value ∨ ZeroAgainstFraction right.value left.value) := by
  have magnitudes : compared left right = compareDecimalMagnitude left right := by
    rw [compared, if_neg (not_not_intro (leftSign.trans rightSign.symm)), leftSign]
    simp only [Bool.false_eq_true, if_false, Option.map_id']
  rw [magnitudes, value_of_positive leftSign, value_of_positive rightSign]
  rcases isLeft.2 with isZero | leftLeads
  · rcases isRight.2 with isZero' | rightLeads
    · rw [isZero, isZero', compareDecimalMagnitude_zero_zero]
      simp [ZeroAgainstFraction, magnitude_zero]
    · have positive := magnitude_pos isRight.1 rightLeads
      rw [isZero, (compareDecimalMagnitude_zero isRight.1 rightLeads).1, magnitude_zero,
        compare_lt_iff_lt.mpr positive]
      simp [ZeroAgainstFraction, positive, positive.ne', apply_ite]
  · have positive := magnitude_pos isLeft.1 leftLeads
    rcases isRight.2 with isZero | rightLeads
    · rw [isZero, (compareDecimalMagnitude_zero isLeft.1 leftLeads).2, magnitude_zero,
        compare_gt_iff_gt.mpr positive]
      simp [ZeroAgainstFraction, positive, positive.ne', apply_ite]
    · have positive' := magnitude_pos isRight.1 rightLeads
      rw [compareDecimalMagnitude_of_leads isLeft.1 isRight.1 leftLeads rightLeads]
      simp [ZeroAgainstFraction, positive.ne', positive'.ne']

theorem compared_exact_iff (isLeft : left.Canonical) (isRight : right.Canonical) :
    compared left right = some (compare left.value right.value) ↔
      ¬(ZeroAgainstFraction left.value right.value ∨ ZeroAgainstFraction right.value left.value) := by
  have exact_of_negative : ∀ {first second : SchemaDecimal}, first.Canonical → first.negative = true →
      ¬(ZeroAgainstFraction first.value second.value ∨ ZeroAgainstFraction second.value first.value) := by
    intro first second canonical negative
    have below := value_neg canonical negative
    rintro (⟨isZero, _⟩ | ⟨_, positive, _⟩)
    · exact below.ne isZero
    · exact not_lt.mpr below.le positive
  cases leftSign : left.negative with
  | true =>
    refine iff_of_true ?_ (exact_of_negative isLeft leftSign)
    cases rightSign : right.negative with
    | true => exact compared_of_negative isLeft isRight leftSign rightSign
    | false => exact compared_of_signs isLeft isRight (by rw [leftSign, rightSign]; exact Bool.noConfusion)
  | false =>
    cases rightSign : right.negative with
    | true =>
      exact iff_of_true (compared_of_signs isLeft isRight (by rw [leftSign, rightSign]; exact Bool.noConfusion))
        (or_comm.not.mp (exact_of_negative isRight rightSign))
    | false => exact compared_of_positive isLeft isRight leftSign rightSign

end SchemaDecimal

/-- The exponent of a literal: whether its letter is a capital, whether its sign is there and is a minus, and its
digits. -/
structure ExponentPart where
  upper : Bool
  sign : Option Bool
  digits : List Char

namespace ExponentPart

/-- The text of a sign. -/
def signText (part : ExponentPart) : List Char :=
  match part.sign with
  | none => []
  | some true => ['-']
  | some false => ['+']

/-- The text of an exponent behind its letter. -/
def power (part : ExponentPart) : List Char := part.signText ++ part.digits

/-- The text of an exponent. -/
def text (part : ExponentPart) : List Char := (if part.upper then 'E' else 'e') :: part.power

/-- The number of an exponent. -/
def value (part : ExponentPart) : Int :=
  if part.sign = some true then -(digitsValue part.digits : Int) else digitsValue part.digits

/-- An exponent has digits, and digits only. -/
structure WellFormed (part : ExponentPart) : Prop where
  nonempty : part.digits ≠ []
  digits : AreDigits part.digits

end ExponentPart

/-- A decimal literal of JSON. -/
structure JsonDecimal where
  numeral : Numeral
  exponent : Option ExponentPart

namespace JsonDecimal

/-- The text of a literal. -/
def text (literal : JsonDecimal) : List Char := literal.numeral.text ++ (literal.exponent.map (·.text)).getD []

/-- The power of ten that scales the numeral of a literal. -/
def scale (literal : JsonDecimal) : Int := (literal.exponent.map (·.value)).getD 0

/-- The number that a literal denotes. -/
def value (literal : JsonDecimal) : ℚ := literal.numeral.value * 10 ^ literal.scale

/-- A literal is well formed, its exponent is of a magnitude that is accepted, and its text is no longer than texts
can be. -/
structure Accepted (literal : JsonDecimal) : Prop where
  numeral : literal.numeral.WellFormed
  exponent : ∀ part, literal.exponent = some part → part.WellFormed
  scale : literal.scale.natAbs ≤ maxNumericExponentMagnitude
  fits : literal.text.length + maxNumericExponentMagnitude < 2 ^ 63

end JsonDecimal

section Reading

variable {front rest text digits : List Char} {delimiter : Char}

theorem splitOnce_append (absent : delimiter ∉ front) :
    splitOnce delimiter (front ++ delimiter :: rest) = some (front, rest) := by
  induction front with
  | nil => exact if_pos rfl
  | cons character others ih =>
    obtain ⟨apart, behind⟩ := not_or.mp (List.mem_cons.not.mp absent)
    rw [List.cons_append, splitOnce, if_neg (Ne.symm apart), ih behind]
    rfl

theorem splitOnce_eq_none (absent : delimiter ∉ text) : splitOnce delimiter text = none := by
  induction text with
  | nil => rfl
  | cons character others ih =>
    obtain ⟨apart, behind⟩ := not_or.mp (List.mem_cons.not.mp absent)
    rw [splitOnce, if_neg (Ne.symm apart), ih behind]
    rfl

theorem foldl_digits (start : Nat) :
    digits.foldl (fun value digit => value * 10 + (digit.toNat - 48)) start =
      start * 10 ^ digits.length + digitsValue digits := by
  induction digits generalizing start with
  | nil => exact (Nat.mul_one start).symm
  | cons digit others ih =>
    rw [List.foldl_cons, ih, digitsValue_cons, List.length_cons, pow_succ]
    ring

/-- The exponent of a literal is read as its number. -/
theorem parseI64_power {part : ExponentPart} (formed : part.WellFormed)
    (small : part.value.natAbs ≤ maxNumericExponentMagnitude) : parseI64 part.power = some part.value := by
  have isNumber : ¬(part.digits = [] ∨ (!part.digits.all isAsciiDigit) = true) := by
    rw [all_isAsciiDigit.mpr formed.digits]
    simp [formed.nonempty]
  have magnitude : part.digits.foldl (fun value digit => value * 10 + (digit.toNat - 48)) 0 =
      digitsValue part.digits := by
    rw [foldl_digits, Nat.zero_mul, Nat.zero_add]
  have fits : checkedI64 part.value = some part.value := by
    have bound : maxNumericExponentMagnitude = 1000000 := rfl
    exact if_pos (by omega)
  cases sign : part.sign with
  | some negative =>
    have value : part.value = if negative then -(digitsValue part.digits : Int) else digitsValue part.digits := by
      rw [ExponentPart.value, sign]
      cases negative <;> rfl
    rw [value] at fits
    rw [value, ← fits]
    cases negative with
    | true | false =>
      simp only [ExponentPart.power, ExponentPart.signText, sign, List.singleton_append, parseI64, isNumber, if_false,
        magnitude]
  | none =>
    have positive : part.value = digitsValue part.digits := by
      rw [ExponentPart.value, sign]
      rfl
    have isDigit : ∀ character rest, part.digits = character :: rest → character.isDigit := by
      intro character rest same
      exact formed.digits character (same ▸ List.mem_cons_self)
    rw [ExponentPart.power, ExponentPart.signText, sign, List.nil_append, parseI64]
    · simp only [isNumber, if_false, magnitude, Bool.false_eq_true]
      exact positive ▸ fits
    · exact fun rest same => Bool.noConfusion (isDigit '-' rest same)
    · exact fun rest same => Bool.noConfusion (isDigit '+' rest same)

/-- Behind a sign or none, the text of a literal is its digits, its point and its exponent. -/
def bodyText (numeral : Numeral) : List Char :=
  numeral.integer ++ if numeral.fraction = [] then [] else '.' :: numeral.fraction

/-- What a letter splits the text of a literal into. -/
theorem splitExponent {literal : JsonDecimal} (accepted : literal.Accepted) :
    (splitOnce 'e' (bodyText literal.numeral ++ (literal.exponent.map (·.text)).getD [])).or
      (splitOnce 'E' (bodyText literal.numeral ++ (literal.exponent.map (·.text)).getD [])) =
        literal.exponent.map fun part => (bodyText literal.numeral, part.power) := by
  have absent : ∀ letter : Char, letter.isDigit = false → letter ≠ '.' →
      letter ∉ bodyText literal.numeral := by
    intro letter other apart listed
    rcases List.mem_append.mp listed with integer | fraction
    · exact not_mem_of_areDigits accepted.numeral.integer letter other integer
    · split at fraction
      · exact List.not_mem_nil fraction
      · rcases List.mem_cons.mp fraction with point | behind
        · exact apart point
        · exact not_mem_of_areDigits accepted.numeral.fraction letter other behind
  have small := absent 'e' rfl (by decide)
  have capital := absent 'E' rfl (by decide)
  cases exponent : literal.exponent with
  | none =>
    rw [Option.map_none, Option.getD_none, List.append_nil, splitOnce_eq_none small, splitOnce_eq_none capital]
    rfl
  | some part =>
    have formed := accepted.exponent part exponent
    rw [Option.map_some, Option.getD_some, ExponentPart.text]
    cases part.upper with
    | false =>
      rw [if_neg Bool.false_ne_true, splitOnce_append small]
      rfl
    | true =>
      have behind : 'e' ∉ part.power := by
        intro listed
        rcases List.mem_append.mp listed with sign | digit
        · revert sign
          rw [ExponentPart.signText]
          split <;> decide
        · exact not_mem_of_areDigits formed.digits 'e' rfl digit
      have none : 'e' ∉ bodyText literal.numeral ++ 'E' :: part.power := by
        rw [List.mem_append, List.mem_cons]
        rintro (front | letter | power)
        · exact small front
        · exact absurd letter (by decide)
        · exact behind power
      rw [if_pos rfl, splitOnce_eq_none none, Option.none_or, splitOnce_append capital]
      rfl

theorem splitPoint {numeral : Numeral} (formed : numeral.WellFormed) :
    (splitOnce '.' (bodyText numeral)).getD (bodyText numeral, []) = (numeral.integer, numeral.fraction) := by
  have absent : '.' ∉ numeral.integer := not_mem_of_areDigits formed.integer '.' rfl
  by_cases none : numeral.fraction = []
  · rw [bodyText, if_pos none, List.append_nil, splitOnce_eq_none absent, none]
    rfl
  · rw [bodyText, if_neg none, splitOnce_append absent]
    rfl

/-- The decimal of a sign, of the digits around a point and of an exponent. -/
def decimalOf (negative : Bool) (whole fractional : List Char) (exponent : Int) : Option SchemaDecimal :=
  match (whole ++ fractional).dropWhile (· == '0') with
  | [] => some SchemaDecimal.zero
  | first :: rest => do
    let shift ← checkedI64 fractional.length
    let shifted ← checkedI64 (exponent - shift)
    let trimmed := (first :: rest).rdropWhile (· == '0')
    let exponent ← checkedI64 (shifted + (first :: rest).length - trimmed.length)
    return ⟨negative, trimmed, exponent⟩

/-- The parts of a literal are what it is read by. -/
theorem schemaDecimal_eq {literal : JsonDecimal} (accepted : literal.Accepted) : schemaDecimal literal.text =
    decimalOf literal.numeral.negative literal.numeral.integer literal.numeral.fraction literal.scale := by
  obtain ⟨first, others, integer⟩ := List.exists_cons_of_ne_nil accepted.numeral.nonempty
  have isDigit : first.isDigit := accepted.numeral.integer first (integer ▸ List.mem_cons_self)
  have unsigned : bodyText literal.numeral ++ (literal.exponent.map (·.text)).getD [] =
      first :: (others ++ (if literal.numeral.fraction = [] then [] else '.' :: literal.numeral.fraction) ++
        (literal.exponent.map (·.text)).getD []) := by
    rw [bodyText, integer]
    simp only [List.cons_append, List.append_assoc]
  have text : literal.text = (if literal.numeral.negative then ['-'] else []) ++
      (bodyText literal.numeral ++ (literal.exponent.map (·.text)).getD []) := by
    simp only [JsonDecimal.text, Numeral.text, bodyText, List.append_assoc]
  have split := splitExponent accepted
  have areDigits : (literal.numeral.integer ++ literal.numeral.fraction).all isAsciiDigit = true := by
    rw [List.all_append, all_isAsciiDigit.mpr accepted.numeral.integer, all_isAsciiDigit.mpr accepted.numeral.fraction]
    rfl
  have exponents : ∀ part, literal.exponent = some part → parseI64 part.power = some literal.scale := by
    intro part same
    have scale : literal.scale = part.value := by rw [JsonDecimal.scale, same]; rfl
    rw [scale]
    exact parseI64_power (accepted.exponent part same) (scale ▸ accepted.scale)
  have small : ¬ literal.scale.natAbs > maxNumericExponentMagnitude := not_lt.mpr accepted.scale
  have point := splitPoint accepted.numeral
  rw [text]
  cases exponent : literal.exponent with
  | none =>
    have scale : literal.scale = 0 := by rw [JsonDecimal.scale, exponent]; rfl
    rw [exponent, Option.map_none, Option.getD_none, List.append_nil] at split unsigned
    rw [scale] at small ⊢
    cases negative : literal.numeral.negative with
    | true =>
      rw [if_pos rfl, List.singleton_append, Option.map_none, Option.getD_none, List.append_nil, schemaDecimal, split]
      simp only [Option.map_none, Option.bind_eq_bind, Option.bind_some, point, small, areDigits, Bool.not_true,
        Bool.false_eq_true, if_false]
      rfl
    | false =>
      rw [if_neg Bool.false_ne_true, List.nil_append, Option.map_none, Option.getD_none, List.append_nil, unsigned,
        schemaDecimal, ← unsigned, split]
      · simp only [Option.map_none, Option.bind_eq_bind, Option.bind_some, point, small, areDigits, Bool.not_true,
          Bool.false_eq_true, if_false]
        rfl
      · rintro rest same
        rw [List.cons.inj same |>.1] at isDigit
        exact Bool.noConfusion isDigit
  | some part =>
    rw [exponent] at split unsigned
    cases negative : literal.numeral.negative with
    | true =>
      rw [if_pos rfl, List.singleton_append, schemaDecimal, split]
      simp only [Option.map_some, exponents part exponent, Option.bind_eq_bind, Option.bind_some, point, small,
        areDigits, Bool.not_true, Bool.false_eq_true, if_false]
      rfl
    | false =>
      rw [if_neg Bool.false_ne_true, List.nil_append, unsigned, schemaDecimal, ← unsigned, split]
      · simp only [Option.map_some, exponents part exponent, Option.bind_eq_bind, Option.bind_some, point, small,
          areDigits, Bool.not_true, Bool.false_eq_true, if_false]
        rfl
      · rintro rest same
        rw [List.cons.inj same |>.1] at isDigit
        exact Bool.noConfusion isDigit

theorem value_eq_digits {literal : JsonDecimal} : literal.value =
    (if literal.numeral.negative then -1 else 1) *
      (digitsValue (literal.numeral.integer ++ literal.numeral.fraction) *
        10 ^ (literal.scale - literal.numeral.fraction.length)) := by
  have ten : (10 : ℚ) ≠ 0 := by norm_num
  rw [JsonDecimal.value, Numeral.value, zpow_sub₀ ten, zpow_natCast]
  ring

/-- A literal is read as a decimal of the same number. -/
theorem schemaDecimal_text {literal : JsonDecimal} (accepted : literal.Accepted) :
    ∃ decimal, schemaDecimal literal.text = some decimal ∧ decimal.Canonical ∧ decimal.value = literal.value := by
  have areDigits : AreDigits (literal.numeral.integer ++ literal.numeral.fraction) := by
    intro character listed
    rcases List.mem_append.mp listed with front | behind
    · exact accepted.numeral.integer character front
    · exact accepted.numeral.fraction character behind
  have trimmed := @digitsValue_dropWhile (literal.numeral.integer ++ literal.numeral.fraction)
  rw [schemaDecimal_eq accepted, value_eq_digits, decimalOf]
  split
  · next none =>
    refine ⟨_, rfl, ⟨SchemaDecimal.bounded_zero, .inl rfl⟩, ?_⟩
    rw [none] at trimmed
    have zero : digitsValue (literal.numeral.integer ++ literal.numeral.fraction) = 0 := trimmed.symm
    rw [zero, Nat.cast_zero, zero_mul, mul_zero, SchemaDecimal.value_of_positive rfl, SchemaDecimal.magnitude_zero]
  · next first rest kept =>
    have bound : maxNumericExponentMagnitude = 1000000 := rfl
    have scale := accepted.scale
    have fits := accepted.fits
    have lengths : literal.numeral.integer.length + literal.numeral.fraction.length ≤ literal.text.length := by
      have fraction : literal.numeral.fraction.length ≤
          (if literal.numeral.fraction = [] then [] else '.' :: literal.numeral.fraction).length := by
        split
        · next none => rw [none]
        · exact Nat.le_succ _
      simp only [JsonDecimal.text, Numeral.text, List.length_append]
      omega
    have leading : (first :: rest).Sublist (literal.numeral.integer ++ literal.numeral.fraction) :=
      kept ▸ List.dropWhile_sublist _
    have fewer := leading.length_le
    rw [List.length_append] at fewer
    have nonzero : first ≠ '0' := by
      have head := List.head?_dropWhile_not (· == '0') (literal.numeral.integer ++ literal.numeral.fraction)
      rw [kept] at head
      exact beq_eq_false_iff_ne.mp head
    obtain ⟨zeros, length, value⟩ := @digitsValue_rdropWhile (first :: rest)
    set digits := ((first :: rest).reverse.dropWhile (· == '0')).reverse with digitsIs
    have isTrimmed : (first :: rest).rdropWhile (· == '0') = digits := rfl
    have front : digits <+: first :: rest := List.rdropWhile_prefix _ _
    have areTrimmed : AreDigits digits := fun character listed =>
      areDigits character (leading.subset (front.subset listed))
    have shift : checkedI64 literal.numeral.fraction.length = some (literal.numeral.fraction.length : Int) :=
      SchemaDecimal.checkedI64_eq (by omega)
    have shifted : checkedI64 (literal.scale - literal.numeral.fraction.length) =
        some (literal.scale - literal.numeral.fraction.length) := SchemaDecimal.checkedI64_eq (by omega)
    have exponent : checkedI64 (literal.scale - literal.numeral.fraction.length + (first :: rest).length -
        digits.length) = some (literal.scale - literal.numeral.fraction.length + zeros) := by
      rw [SchemaDecimal.checkedI64_eq (by omega), length]
      refine congrArg some ?_
      omega
    simp only [isTrimmed, shift, shifted, exponent, Option.bind_eq_bind, Option.bind_some]
    refine ⟨_, rfl, ⟨⟨areTrimmed, ?_, ?_⟩, .inr ?_⟩, ?_⟩
    · have short : (digits.length : Int) < 2 ^ 63 := by omega
      exact short
    · have order : SchemaDecimal.order ⟨literal.numeral.negative, digits,
          literal.scale - literal.numeral.fraction.length + zeros⟩ =
            digits.length + (literal.scale - literal.numeral.fraction.length + zeros) := rfl
      rw [order]
      omega
    · obtain ⟨behind, split⟩ := front
      cases found : digits with
      | nil =>
        have positive := @le_digitsValue rest _ (areDigits first (leading.subset List.mem_cons_self)) nonzero
        have none : digitsValue [] = 0 := rfl
        rw [value, found, none, Nat.zero_mul] at positive
        exact absurd positive (not_le.mpr (Nat.pow_pos (by omega)))
      | cons digit others =>
        rw [found, List.cons_append] at split
        exact ⟨digit, others, rfl, (List.cons.inj split).1 ▸ nonzero⟩
    · have ten : (10 : ℚ) ≠ 0 := by norm_num
      rw [SchemaDecimal.value, SchemaDecimal.magnitude, ← trimmed, kept, value, Nat.cast_mul, Nat.cast_pow,
        zpow_add₀ ten, zpow_natCast, Nat.cast_ofNat]
      ring

/-- Two literals are ordered as their numbers exactly when none is zero while the other stands between zero and one. -/
theorem compareSchemaNumbers_exact_iff [DoubleText] {left right : Number} {first second : JsonDecimal}
    (isFirst : left.text.toList = first.text) (isSecond : right.text.toList = second.text) (accepted : first.Accepted)
    (accepted' : second.Accepted) :
    compareSchemaNumbers left right = some (compare first.value second.value) ↔
      ¬((first.value = 0 ∧ 0 < second.value ∧ second.value < 1) ∨
        (second.value = 0 ∧ 0 < first.value ∧ first.value < 1)) := by
  obtain ⟨decimal, read, canonical, value⟩ := schemaDecimal_text accepted
  obtain ⟨decimal', read', canonical', value'⟩ := schemaDecimal_text accepted'
  have same : compareSchemaNumbers left right = SchemaDecimal.compared decimal decimal' := by
    rw [compareSchemaNumbers, isFirst, isSecond, read, read', SchemaDecimal.compared]
    simp only [Option.bind_eq_bind, Option.bind_some]
    split
    · rfl
    · exact (Option.map_eq_bind ..).symm
  rw [same, ← value, ← value']
  exact SchemaDecimal.compared_exact_iff canonical canonical'

/-- A formatter that writes one half. -/
abbrev halfText : DoubleText where
  text _ := "0.5"

/-- The number one half. -/
def half : Number := .float 0x3FE0000000000000#64 (by decide)

/-- The literal of a number with one digit in front of its point. -/
def plainLiteral (digit : Char) (fraction : List Char) : JsonDecimal := ⟨⟨false, [digit], fraction⟩, none⟩

theorem length_text_le (numeral : Numeral) :
    numeral.text.length ≤ numeral.integer.length + numeral.fraction.length + 2 := by
  rw [Numeral.text]
  split <;> split <;> simp only [List.length_append, List.length_cons, List.length_nil] <;> omega

theorem accepted_plainLiteral {digit : Char} {fraction : List Char} (isDigit : digit.isDigit)
    (areDigits : AreDigits fraction) (short : fraction.length ≤ 64) : (plainLiteral digit fraction).Accepted := by
  refine ⟨⟨List.cons_ne_nil _ _, ?_, areDigits⟩, ?_, Nat.zero_le _, ?_⟩
  · intro character listed
    rwa [List.mem_singleton.mp listed]
  · rintro part ⟨⟩
  · have bound : maxNumericExponentMagnitude = 1000000 := rfl
    have length : (plainLiteral digit fraction).text.length ≤ 1 + fraction.length + 2 := by
      rw [JsonDecimal.text, List.length_append]
      exact length_text_le _
    omega

theorem value_half : (plainLiteral '0' ['5']).value = 1 / 2 := by
  have five : digitsValue ['0', '5'] = 5 := by decide
  rw [value_eq_digits]
  simp only [plainLiteral, List.singleton_append, five, JsonDecimal.scale, Option.map_none, Option.getD_none]
  norm_num

theorem value_plainLiteral (digit : Char) : (plainLiteral digit []).value = digitsValue [digit] := by
  rw [value_eq_digits]
  simp only [plainLiteral, List.append_nil, JsonDecimal.scale, Option.map_none, Option.getD_none]
  norm_num

theorem text_half : let _ := halfText; half.text.toList = (plainLiteral '0' ['5']).text := by decide

theorem compareSchemaNumbers_exact_iff_half :
    let _ := halfText
    compareSchemaNumbers (.posInt 3 (by decide)) half =
      some (compare (plainLiteral '3' []).value (plainLiteral '0' ['5']).value) := by
  intro _
  have text : (Number.posInt 3 (by decide)).text.toList = (plainLiteral '3' []).text := by decide
  have three : digitsValue ['3'] = 3 := by decide
  refine (compareSchemaNumbers_exact_iff text text_half (accepted_plainLiteral rfl (by simp [AreDigits]) (by decide))
    (accepted_plainLiteral rfl (by simp [AreDigits]) (by decide))).mpr ?_
  rw [value_plainLiteral, value_half, three]
  norm_num

/-- Zero is put behind one half. -/
theorem not_compareSchemaNumbers_exact :
    let _ := halfText
    compareSchemaNumbers (.posInt 0 (by decide)) half = some .gt ∧
      compare (plainLiteral '0' []).value (plainLiteral '0' ['5']).value = .lt := by
  intro _
  have none : digitsValue ['0'] = 0 := by decide
  refine ⟨by decide, ?_⟩
  rw [compare_lt_iff_lt, value_plainLiteral, value_half, none]
  norm_num

end Reading

end AgentMod
