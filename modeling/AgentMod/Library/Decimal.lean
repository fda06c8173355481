import Mathlib.Data.Nat.Digits.Lemmas
import Mathlib.Data.Rat.Defs
import Mathlib.Algebra.Field.Rat
import Mathlib.Data.List.DropRight
import Mathlib.Tactic.FieldSimp
import Mathlib.Tactic.Ring
import Mathlib.Tactic.Positivity

/-! Signed decimal numerals, the numbers that they denote, and the one of each number without needless zeros. -/

namespace AgentMod

/-- The number that digits denote, the most significant one first. -/
def digitsValue (digits : List Char) : Nat :=
  Nat.ofDigits 10 (digits.reverse.map fun digit => digit.toNat - 48)

/-- All characters are decimal digits. -/
def AreDigits (text : List Char) : Prop := ∀ character ∈ text, character.isDigit

/-- A sign, digits in front of the point and digits behind it. -/
structure Numeral where
  negative : Bool
  integer : List Char
  fraction : List Char

namespace Numeral

/-- A numeral has digits only, and some of them in front of the point. -/
structure WellFormed (numeral : Numeral) : Prop where
  nonempty : numeral.integer ≠ []
  integer : AreDigits numeral.integer
  fraction : AreDigits numeral.fraction

/-- The text of a numeral, without a point when nothing is behind it. -/
def text (numeral : Numeral) : List Char :=
  (if numeral.negative then ['-'] else []) ++ numeral.integer ++
    if numeral.fraction = [] then [] else '.' :: numeral.fraction

/-- The number that a numeral denotes. -/
def value (numeral : Numeral) : ℚ :=
  (if numeral.negative then -1 else 1) *
    (digitsValue (numeral.integer ++ numeral.fraction) / 10 ^ numeral.fraction.length)

/-- The digits in front of the point without leading zeros. -/
def trimmedInteger (numeral : Numeral) : List Char :=
  if numeral.integer.dropWhile (· == '0') = [] then ['0'] else numeral.integer.dropWhile (· == '0')

/-- The digits behind the point without trailing zeros. -/
def trimmedFraction (numeral : Numeral) : List Char :=
  (numeral.fraction.reverse.dropWhile (· == '0')).reverse

/-- The numeral without needless zeros, and without a sign for zero. -/
def trim (numeral : Numeral) : Numeral where
  negative := numeral.negative && !(numeral.trimmedInteger == ['0'] && numeral.trimmedFraction.isEmpty)
  integer := numeral.trimmedInteger
  fraction := numeral.trimmedFraction

/-- A numeral has no needless zeros, and zero no sign. -/
structure IsTrimmed (numeral : Numeral) : Prop where
  integer : numeral.integer = ['0'] ∨ numeral.integer.head? ≠ some '0'
  fraction : numeral.fraction.getLast? ≠ some '0'
  zero : numeral.integer = ['0'] → numeral.fraction = [] → numeral.negative = false

end Numeral

section Digits

variable {digits left right : List Char}

theorem digit_lt {character : Char} (isDigit : character.isDigit) : character.toNat - 48 < 10 := by
  simp only [Char.isDigit, Bool.and_eq_true, decide_eq_true_eq, ge_iff_le, UInt32.le_iff_toNat_le] at isDigit
  have bounds : 48 ≤ character.toNat ∧ character.toNat ≤ 57 := isDigit
  omega

theorem digit_ext {first second : Char} (isFirst : first.isDigit) (isSecond : second.isDigit)
    (same : first.toNat - 48 = second.toNat - 48) : first = second := by
  simp only [Char.isDigit, Bool.and_eq_true, decide_eq_true_eq, ge_iff_le, UInt32.le_iff_toNat_le]
    at isFirst isSecond
  have bounds : 48 ≤ first.toNat ∧ first.toNat ≤ 57 := isFirst
  have boundsSecond : 48 ≤ second.toNat ∧ second.toNat ≤ 57 := isSecond
  exact Char.toNat_inj.mp (by omega)

theorem digitsValue_append :
    digitsValue (left ++ right) = digitsValue left * 10 ^ right.length + digitsValue right := by
  rw [digitsValue, digitsValue, digitsValue, List.reverse_append, List.map_append, Nat.ofDigits_append,
    List.length_map, List.length_reverse]
  ring

theorem digitsValue_lt (areDigits : AreDigits digits) : digitsValue digits < 10 ^ digits.length := by
  have small := Nat.ofDigits_lt_base_pow_length (b := 10)
    (l := digits.reverse.map fun digit => digit.toNat - 48) (by omega) (by
      intro value listed
      obtain ⟨digit, inside, rfl⟩ := List.mem_map.mp listed
      exact digit_lt (areDigits digit (List.mem_reverse.mp inside)))
  rwa [List.length_map, List.length_reverse] at small

theorem digitsValue_cons {first : Char} :
    digitsValue (first :: digits) = (first.toNat - 48) * 10 ^ digits.length + digitsValue digits := by
  have split : first :: digits = [first] ++ digits := rfl
  rw [split, digitsValue_append]
  simp [digitsValue]

theorem digitsValue_dropWhile : digitsValue (digits.dropWhile (· == '0')) = digitsValue digits := by
  induction digits with
  | nil => rfl
  | cons first rest ih =>
    rw [List.dropWhile_cons]
    split
    · next zero =>
      rw [ih, digitsValue_cons, beq_iff_eq.mp zero]
      simp
    · rfl

theorem eq_of_digitsValue_eq (areLeft : AreDigits left) (areRight : AreDigits right)
    (length : left.length = right.length) (same : digitsValue left = digitsValue right) :
    left = right := by
  induction left generalizing right with
  | nil => exact (List.length_eq_zero_iff.mp length.symm).symm
  | cons first rest ih =>
    cases right with
    | nil => cases length
    | cons second others =>
      obtain ⟨isFirst, areRest⟩ := List.forall_mem_cons.mp areLeft
      obtain ⟨isSecond, areOthers⟩ := List.forall_mem_cons.mp areRight
      have counts : rest.length = others.length := Nat.succ.inj length
      rw [digitsValue_cons, digitsValue_cons, counts] at same
      have small := digitsValue_lt areRest
      have smallOthers := digitsValue_lt areOthers
      rw [counts] at small
      -- The first digit is the quotient, and the others denote the rest.
      have heads : first.toNat - 48 = second.toNat - 48 := by
        have quotients := congrArg (· / 10 ^ others.length) same
        simpa [Nat.mul_comm _ (10 ^ others.length), Nat.mul_add_div, Nat.div_eq_of_lt small,
          Nat.div_eq_of_lt smallOthers] using quotients
      rw [digit_ext isFirst isSecond heads, ih areRest areOthers counts (by rw [heads] at same; omega)]

theorem digit_pos {character : Char} (isDigit : character.isDigit) (nonzero : character ≠ '0') :
    0 < character.toNat - 48 := by
  refine Nat.pos_of_ne_zero fun zero => nonzero (digit_ext isDigit (by decide) ?_)
  rw [zero]
  rfl

theorem le_digitsValue {first : Char} (isDigit : first.isDigit) (nonzero : first ≠ '0') :
    10 ^ digits.length ≤ digitsValue (first :: digits) := by
  rw [digitsValue_cons]
  have grows := Nat.mul_le_mul_right (10 ^ digits.length) (digit_pos isDigit nonzero)
  omega

/-- No digit in front of the others is zero, unless it stands alone. -/
def LeadsTrimmed (digits : List Char) : Prop :=
  digits ≠ [] ∧ (digits = ['0'] ∨ digits.head? ≠ some '0')

theorem length_le_of_trimmed (areLeft : AreDigits left) (areRight : AreDigits right)
    (leftTrimmed : LeadsTrimmed left) (filled : right ≠ [])
    (same : digitsValue left = digitsValue right) : left.length ≤ right.length := by
  obtain ⟨nonempty, rfl | lead⟩ := leftTrimmed
  · exact List.length_pos_iff.mpr filled
  · obtain ⟨first, rest, rfl⟩ := List.exists_cons_of_ne_nil nonempty
    have large := @le_digitsValue rest first (List.forall_mem_cons.mp areLeft).1
      fun zero => lead (by rw [zero]; rfl)
    have small := digitsValue_lt areRight
    rw [same] at large
    exact (Nat.pow_lt_pow_iff_right (by omega)).mp (large.trans_lt small)

theorem eq_of_trimmed (areLeft : AreDigits left) (areRight : AreDigits right)
    (leftTrimmed : LeadsTrimmed left) (rightTrimmed : LeadsTrimmed right)
    (same : digitsValue left = digitsValue right) : left = right :=
  eq_of_digitsValue_eq areLeft areRight (Nat.le_antisymm
    (length_le_of_trimmed areLeft areRight leftTrimmed rightTrimmed.1 same)
    (length_le_of_trimmed areRight areLeft rightTrimmed leftTrimmed.1 same.symm)) same

theorem not_dvd_digitsValue (areDigits : AreDigits digits) {last : Char}
    (isLast : digits.getLast? = some last) (nonzero : last ≠ '0') : ¬ 10 ∣ digitsValue digits := by
  obtain ⟨front, rfl⟩ := List.getLast?_eq_some_iff.mp isLast
  have isDigit : last.isDigit := areDigits last (by simp)
  have counts := digit_pos isDigit nonzero
  have small := digit_lt isDigit
  rw [digitsValue_append, digitsValue_cons]
  simp only [List.length_cons, List.length_nil]
  have none : digitsValue [] = 0 := rfl
  rw [none]
  omega

theorem digitsValue_rdropWhile : ∃ zeros, digits.length =
      (digits.reverse.dropWhile (· == '0')).reverse.length + zeros ∧
    digitsValue digits = digitsValue (digits.reverse.dropWhile (· == '0')).reverse * 10 ^ zeros := by
  induction digits using List.reverseRecOn with
  | nil => exact ⟨0, rfl, rfl⟩
  | append_singleton front last ih =>
    rw [List.reverse_append, List.reverse_singleton, List.singleton_append, List.dropWhile_cons]
    split
    · next zero =>
      obtain ⟨zeros, length, value⟩ := ih
      refine ⟨zeros + 1, by simp [length, Nat.add_assoc], ?_⟩
      rw [digitsValue_append, value, beq_iff_eq.mp zero]
      simp [digitsValue, pow_succ, mul_assoc]
    · exact ⟨0, by simp, by simp⟩

end Digits

namespace Numeral

variable {numeral left right : Numeral}

theorem WellFormed.trim (formed : numeral.WellFormed) : numeral.trim.WellFormed := by
  refine ⟨?_, ?_, ?_⟩
  · simp only [Numeral.trim, trimmedInteger]
    split
    · exact List.cons_ne_nil _ _
    · next filled => exact filled
  · intro character listed
    simp only [Numeral.trim, trimmedInteger] at listed
    split at listed
    · rw [List.mem_singleton.mp listed]
      rfl
    · exact formed.integer character ((List.dropWhile_sublist _).subset listed)
  · intro character listed
    simp only [Numeral.trim, trimmedFraction, List.mem_reverse] at listed
    exact formed.fraction character (List.mem_reverse.mp ((List.dropWhile_sublist _).subset listed))

theorem digitsValue_trimmedInteger : digitsValue numeral.trimmedInteger = digitsValue numeral.integer := by
  rw [trimmedInteger, ← @digitsValue_dropWhile numeral.integer]
  split
  · next empty => rw [empty]; rfl
  · rfl

/-- The number of a numeral without its sign. -/
def magnitude (numeral : Numeral) : ℚ :=
  digitsValue (numeral.integer ++ numeral.fraction) / 10 ^ numeral.fraction.length

theorem magnitude_trim : numeral.trim.magnitude = numeral.magnitude := by
  obtain ⟨zeros, length, value⟩ := @digitsValue_rdropWhile numeral.fraction
  have ten : (10 : ℚ) ^ zeros ≠ 0 := by positivity
  have shorter : (10 : ℚ) ^ numeral.trimmedFraction.length ≠ 0 := by positivity
  change numeral.fraction.length = numeral.trimmedFraction.length + zeros at length
  change digitsValue numeral.fraction = digitsValue numeral.trimmedFraction * 10 ^ zeros at value
  have trimmed : numeral.trim.magnitude =
      digitsValue (numeral.trimmedInteger ++ numeral.trimmedFraction) /
        10 ^ numeral.trimmedFraction.length := rfl
  rw [trimmed, magnitude, digitsValue_append, digitsValue_append, digitsValue_trimmedInteger, length,
    value]
  push_cast
  rw [pow_add]
  field_simp

theorem eq_zero_of_magnitude (formed : numeral.WellFormed) (trimmed : numeral.IsTrimmed)
    (zero : numeral.magnitude = 0) : numeral.integer = ['0'] ∧ numeral.fraction = [] := by
  have none : digitsValue (numeral.integer ++ numeral.fraction) = 0 := by
    have ten : (10 : ℚ) ^ numeral.fraction.length ≠ 0 := by positivity
    rw [magnitude, div_eq_zero_iff] at zero
    exact_mod_cast zero.resolve_right ten
  rw [digitsValue_append, Nat.add_eq_zero_iff] at none
  constructor
  · rcases trimmed.integer with same | lead
    · exact same
    · obtain ⟨first, rest, split⟩ := List.exists_cons_of_ne_nil formed.nonempty
      have digits := formed.integer
      rw [split] at digits lead none
      have large := @le_digitsValue rest first (List.forall_mem_cons.mp digits).1
        fun same => lead (by rw [same]; rfl)
      have positive : 0 < 10 ^ rest.length := by positivity
      have absent := Nat.mul_eq_zero.mp none.1
      have power : 10 ^ numeral.fraction.length ≠ 0 := by positivity
      exact absurd (absent.resolve_right power) (by omega)
  · by_contra filled
    obtain ⟨last, isLast⟩ := Option.isSome_iff_exists.mp (List.getLast?_isSome.mpr filled)
    exact not_dvd_digitsValue formed.fraction isLast
      (fun same => trimmed.fraction (by rw [isLast, same])) (by rw [none.2]; exact dvd_zero 10)

theorem value_eq : numeral.value = (if numeral.negative then -1 else 1) * numeral.magnitude := rfl

theorem magnitude_nonneg : 0 ≤ numeral.magnitude := by
  rw [magnitude]
  positivity

theorem value_trim : numeral.trim.value = numeral.value := by
  rw [value_eq, value_eq, magnitude_trim]
  by_cases zero : (numeral.trimmedInteger == ['0'] && numeral.trimmedFraction.isEmpty) = true
  · -- Zero loses its sign.
    have none : numeral.magnitude = 0 := by
      rw [← magnitude_trim, magnitude]
      rw [Bool.and_eq_true, beq_iff_eq, List.isEmpty_iff] at zero
      have integer : numeral.trim.integer = ['0'] := zero.1
      have fraction : numeral.trim.fraction = [] := zero.2
      rw [integer, fraction]
      simp [digitsValue]
    rw [none, mul_zero, mul_zero]
  · have same : numeral.trim.negative = numeral.negative := by
      rw [Bool.not_eq_true] at zero
      simp [trim, zero]
    rw [same]

theorem isTrimmed_trim : numeral.trim.IsTrimmed := by
  refine ⟨?_, ?_, fun integer fraction => ?_⟩
  · simp only [trim, trimmedInteger]
    split
    · exact Or.inl rfl
    · refine Or.inr fun lead => ?_
      have first := List.head?_dropWhile_not (· == '0') numeral.integer
      rw [lead] at first
      simp at first
  · simp only [trim, trimmedFraction, List.getLast?_reverse]
    intro lead
    have first := List.head?_dropWhile_not (· == '0') numeral.fraction.reverse
    rw [lead] at first
    simp at first
  · have trimmedInteger : numeral.trimmedInteger = ['0'] := integer
    have trimmedFraction : numeral.trimmedFraction = [] := fraction
    simp [trim, trimmedInteger, trimmedFraction]

theorem value_neg_iff (formed : numeral.WellFormed) (trimmed : numeral.IsTrimmed) :
    numeral.value < 0 ↔ numeral.negative = true := by
  have nonneg := @magnitude_nonneg numeral
  rw [value_eq]
  constructor
  · intro below
    by_contra positive
    rw [if_neg positive, one_mul] at below
    exact absurd below (not_lt.mpr nonneg)
  · intro negative
    rw [if_pos negative, neg_one_mul, neg_lt_zero]
    refine lt_of_le_of_ne nonneg fun zero => ?_
    obtain ⟨integer, fraction⟩ := eq_zero_of_magnitude formed trimmed zero.symm
    rw [trimmed.zero integer fraction] at negative
    exact Bool.false_ne_true negative

/-- Trimmed numerals of one magnitude have no more digits behind the point than one another. -/
theorem length_fraction_le (rightFormed : right.WellFormed) (rightTrimmed : right.IsTrimmed)
    (same : left.magnitude = right.magnitude) : right.fraction.length ≤ left.fraction.length := by
  by_contra longer
  obtain ⟨more, length⟩ := Nat.exists_eq_add_of_lt (not_le.mp longer)
  have tens : (10 : ℚ) ^ left.fraction.length ≠ 0 := by positivity
  have digits : digitsValue (right.integer ++ right.fraction) =
      digitsValue (left.integer ++ left.fraction) * 10 ^ (more + 1) := by
    rw [magnitude, magnitude, length, add_assoc, pow_add, div_eq_div_iff tens (by positivity)] at same
    have cross : (digitsValue (right.integer ++ right.fraction) : ℚ) =
        digitsValue (left.integer ++ left.fraction) * 10 ^ (more + 1) := by
      apply mul_right_cancel₀ tens
      rw [← same]
      ring
    exact_mod_cast cross
  -- The last digit behind the point would be a zero.
  have filled : right.fraction ≠ [] := by
    intro empty
    rw [empty] at length
    simp at length
  obtain ⟨last, isLast⟩ := Option.isSome_iff_exists.mp (List.getLast?_isSome.mpr filled)
  have behind := not_dvd_digitsValue rightFormed.fraction isLast
    fun zero => rightTrimmed.fraction (by rw [isLast, zero])
  rw [digitsValue_append] at digits
  have whole : 10 ∣ digitsValue right.integer * 10 ^ right.fraction.length := by
    rw [length, pow_succ, ← mul_assoc]
    exact dvd_mul_left 10 _
  have all : 10 ∣ digitsValue right.integer * 10 ^ right.fraction.length +
      digitsValue right.fraction := by
    rw [digits, pow_succ, ← mul_assoc]
    exact dvd_mul_left 10 _
  exact behind ((Nat.dvd_add_right whole).mp all)

/-- Trimmed numerals of one number are the same. -/
theorem eq_of_value_eq (leftFormed : left.WellFormed) (rightFormed : right.WellFormed)
    (leftTrimmed : left.IsTrimmed) (rightTrimmed : right.IsTrimmed) (same : left.value = right.value) :
    left = right := by
  have negative : left.negative = right.negative := by
    rw [Bool.eq_iff_iff, ← value_neg_iff leftFormed leftTrimmed,
      ← value_neg_iff rightFormed rightTrimmed, same]
  have magnitudes : left.magnitude = right.magnitude := by
    rw [value_eq, value_eq, negative] at same
    refine mul_left_cancel₀ ?_ same
    split <;> norm_num
  have counts := Nat.le_antisymm (length_fraction_le leftFormed leftTrimmed magnitudes.symm)
    (length_fraction_le rightFormed rightTrimmed magnitudes)
  have tens : (10 : ℚ) ^ right.fraction.length ≠ 0 := by positivity
  have digits : digitsValue (left.integer ++ left.fraction) =
      digitsValue (right.integer ++ right.fraction) := by
    rw [magnitude, magnitude, counts, div_left_inj' tens] at magnitudes
    exact_mod_cast magnitudes
  rw [digitsValue_append, digitsValue_append, counts] at digits
  have small := digitsValue_lt leftFormed.fraction
  have smallRight := digitsValue_lt rightFormed.fraction
  rw [counts] at small
  have integers : digitsValue left.integer = digitsValue right.integer := by
    have quotients := congrArg (· / 10 ^ right.fraction.length) digits
    simpa [Nat.mul_comm _ (10 ^ right.fraction.length), Nat.mul_add_div, Nat.div_eq_of_lt small,
      Nat.div_eq_of_lt smallRight] using quotients
  have integer := eq_of_trimmed leftFormed.integer rightFormed.integer
    ⟨leftFormed.nonempty, leftTrimmed.integer⟩ ⟨rightFormed.nonempty, rightTrimmed.integer⟩ integers
  have fraction := eq_of_digitsValue_eq leftFormed.fraction rightFormed.fraction counts
    (by rw [integers] at digits; omega)
  cases left
  cases right
  simp_all

end Numeral

end AgentMod
