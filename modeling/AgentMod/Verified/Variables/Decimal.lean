import AgentMod.Library.Decimal
import AgentMod.Library.Result
import AgentMod.Variables.Value

/-! Canonical decimals: one text for every number that decimals denote. -/

namespace AgentMod

/-- A text is the decimal numeral of a number. -/
def DenotesDecimal (text : String) (value : ℚ) : Prop :=
  ∃ numeral : Numeral, numeral.WellFormed ∧ text.toList = numeral.text ∧ numeral.value = value

/-- The numeral that a text is split into. -/
def readNumeral (text : List Char) : Numeral :=
  let negative := text.head? == some '-'
  let parts := (if negative then text.tail else text).splitOn '.'
  ⟨negative, parts.headD [], parts[1]?.getD []⟩

/-- The texts that decimals are read from, before their digits are looked at. -/
def IsDecimalText (input : String) : Prop :=
  input.toList ≠ [] ∧ input.utf8ByteSize ≤ 128 ∧ ¬ input.toList.any ['e', 'E', '+'].contains

/-- The parts of a text around its point. -/
def decimalParts (text : List Char) : List (List Char) :=
  (if text.head? == some '-' then text.tail else text).splitOn '.'

/-- A point stands between digits. -/
structure PartsAreDigits (parts : List (List Char)) : Prop where
  count : parts.length ≤ 2
  nonempty : parts.headD [] ≠ []
  integer : AreDigits (parts.headD [])
  fraction : ∀ digits, parts[1]? = some digits → digits ≠ [] ∧ AreDigits digits

theorem isAsciiDigit_eq_isDigit {character : Char} : isAsciiDigit character = character.isDigit := by
  rw [isAsciiDigit, Char.isDigit]
  rfl

theorem all_isAsciiDigit {text : List Char} : text.all isAsciiDigit = true ↔ AreDigits text := by
  rw [List.all_eq_true, AreDigits]
  simp only [isAsciiDigit_eq_isDigit]

/-- A decimal is read when its parts are digits, and written as its numeral without needless zeros. -/
theorem canonicalDecimal_eq_ok {input result : String} : canonicalDecimal input = .ok result ↔
    IsDecimalText input ∧ PartsAreDigits (decimalParts input.toList) ∧
      result = .ofList (readNumeral input.toList).trim.text := by
  simp only [canonicalDecimal, bind_eq_ok, exists_unit, refuseIf_eq_ok]
  refine and_congr (by rw [IsDecimalText]; simp [not_or]) (and_congr ?_ ?_)
  · change ¬ ((decimalParts input.toList).length > 2 ∨ (decimalParts input.toList).headD [] = [] ∨
      (!((decimalParts input.toList).headD []).all isAsciiDigit) = true ∨
      ((decimalParts input.toList)[1]?.any fun digits =>
        digits.isEmpty || !digits.all isAsciiDigit) = true) ↔ _
    simp only [not_or, not_lt, Bool.not_eq_true, Bool.not_eq_false', all_isAsciiDigit]
    constructor
    · rintro ⟨count, nonempty, integer, fraction⟩
      refine ⟨count, nonempty, integer, fun digits found => ?_⟩
      rw [found, Option.any_some, Bool.or_eq_false_iff, Bool.not_eq_false', all_isAsciiDigit,
        List.isEmpty_eq_false_iff] at fraction
      exact fraction
    · rintro ⟨count, nonempty, integer, fraction⟩
      refine ⟨count, nonempty, integer, ?_⟩
      cases found : (decimalParts input.toList)[1]? with
      | none => rfl
      | some digits =>
        rw [Option.any_some, Bool.or_eq_false_iff, Bool.not_eq_false', all_isAsciiDigit,
          List.isEmpty_eq_false_iff]
        exact fraction digits found
  · change (if (readNumeral input.toList).trimmedFraction = [] then
        (.ok (.ofList ((if (readNumeral input.toList).trim.negative then ['-'] else []) ++
          (readNumeral input.toList).trimmedInteger)) : VariableCheck String)
      else .ok (.ofList ((if (readNumeral input.toList).trim.negative then ['-'] else []) ++
        (readNumeral input.toList).trimmedInteger ++
          '.' :: (readNumeral input.toList).trimmedFraction))) = .ok result ↔ _
    have text : (readNumeral input.toList).trim.text =
        (if (readNumeral input.toList).trim.negative then ['-'] else []) ++
          (readNumeral input.toList).trimmedInteger ++
            if (readNumeral input.toList).trimmedFraction = [] then []
            else '.' :: (readNumeral input.toList).trimmedFraction := rfl
    rw [text]
    split
    · rw [List.append_nil, Except.ok.injEq, eq_comm]
    · rw [Except.ok.injEq, eq_comm]

theorem splitOn_le_two {text : List Char} (count : (text.splitOn '.').length ≤ 2) :
    '.' ∉ text ∧ text.splitOn '.' = [text] ∨
      ∃ front behind, text = front ++ '.' :: behind ∧ text.splitOn '.' = [front, behind] := by
  by_cases pointed : '.' ∈ text
  · obtain ⟨front, behind, rfl, free⟩ := List.eq_append_cons_of_mem pointed
    have split := List.splitOn_append_cons_self (a := '.') front behind
    rw [List.splitOn_eq_singleton free] at split
    rw [split] at count ⊢
    refine Or.inr ⟨front, behind, rfl, ?_⟩
    by_cases again : '.' ∈ behind
    · obtain ⟨middle, last, rfl, none⟩ := List.eq_append_cons_of_mem again
      rw [List.splitOn_append_cons_self, List.splitOn_eq_singleton none] at count
      have filled := List.length_pos_iff.mpr (List.splitOn_ne_nil '.' last)
      simp only [List.length_append, List.length_singleton] at count
      omega
    · rw [List.splitOn_eq_singleton again]
      rfl
  · exact Or.inl ⟨pointed, List.splitOn_eq_singleton pointed⟩

/-- The text behind its sign. -/
def unsignedText (text : List Char) : List Char :=
  if text.head? == some '-' then text.tail else text

theorem text_eq_unsigned {text : List Char} :
    text = (if (text.head? == some '-') = true then ['-'] else []) ++ unsignedText text := by
  rw [unsignedText]
  split
  · next signed =>
    rw [beq_iff_eq] at signed
    rw [List.singleton_append]
    exact List.eq_cons_of_mem_head? signed
  · rfl

theorem text_readNumeral {text : List Char} (digits : PartsAreDigits (decimalParts text)) :
    (readNumeral text).WellFormed ∧ text = (readNumeral text).text := by
  obtain ⟨count, nonempty, integer, fraction⟩ := digits
  have read : readNumeral text = ⟨text.head? == some '-', (decimalParts text).headD [],
      (decimalParts text)[1]?.getD []⟩ := rfl
  rw [read, Numeral.text]
  rcases splitOn_le_two count with ⟨_, parts⟩ | ⟨front, behind, split, parts⟩
  · -- There is no point.
    change decimalParts text = [unsignedText text] at parts
    rw [parts] at nonempty integer ⊢
    refine ⟨⟨nonempty, integer, fun _ listed => absurd listed List.not_mem_nil⟩, ?_⟩
    simp only [List.headD_cons, List.getElem?_cons_succ, List.getElem?_nil, Option.getD_none, if_true,
      List.append_nil]
    exact text_eq_unsigned
  · change decimalParts text = [front, behind] at parts
    rw [parts] at nonempty integer fraction ⊢
    obtain ⟨filled, areDigits⟩ := fraction behind rfl
    refine ⟨⟨nonempty, integer, areDigits⟩, ?_⟩
    simp only [List.headD_cons, List.getElem?_cons_succ, List.getElem?_cons_zero, Option.getD_some,
      if_neg filled, List.append_assoc]
    rw [← split]
    exact text_eq_unsigned

theorem not_mem_of_areDigits {digits : List Char} (areDigits : AreDigits digits) (character : Char)
    (other : character.isDigit = false) : character ∉ digits := fun listed => by
  rw [areDigits character listed] at other
  exact Bool.noConfusion other

/-- The numeral that the text of a numeral is split into is that numeral. -/
theorem readNumeral_text {numeral : Numeral} (formed : numeral.WellFormed) :
    PartsAreDigits (decimalParts numeral.text) ∧ readNumeral numeral.text = numeral := by
  obtain ⟨first, rest, integer⟩ := List.exists_cons_of_ne_nil formed.nonempty
  have unsigned : first ≠ '-' := fun same =>
    not_mem_of_areDigits formed.integer '-' rfl (by rw [integer, same]; simp)
  have head : (numeral.text.head? == some '-') = numeral.negative := by
    rw [Numeral.text, integer]
    cases numeral.negative
    · simpa using unsigned
    · rfl
  have behind : unsignedText numeral.text =
      numeral.integer ++ if numeral.fraction = [] then [] else '.' :: numeral.fraction := by
    rw [unsignedText, head, Numeral.text]
    cases numeral.negative <;> rfl
  have point : '.' ∉ numeral.integer := not_mem_of_areDigits formed.integer _ rfl
  have parts : decimalParts numeral.text =
      numeral.integer :: if numeral.fraction = [] then [] else [numeral.fraction] := by
    change (unsignedText numeral.text).splitOn '.' = _
    rw [behind]
    split
    · rw [List.append_nil, List.splitOn_eq_singleton point]
    · rw [List.splitOn_append_cons_self, List.splitOn_eq_singleton point,
        List.splitOn_eq_singleton (not_mem_of_areDigits formed.fraction _ rfl), List.singleton_append]
  have read : readNumeral numeral.text = ⟨numeral.text.head? == some '-',
      (decimalParts numeral.text).headD [], (decimalParts numeral.text)[1]?.getD []⟩ := rfl
  rw [read, parts, head]
  constructor
  · refine ⟨?_, formed.nonempty, formed.integer, fun digits found => ?_⟩
    · split <;> simp
    · split at found
      · cases found
      · next filled =>
        cases found
        exact ⟨filled, formed.fraction⟩
  · split
    · next empty =>
      simp [← empty]
    · rfl

theorem Numeral.text_injective {left right : Numeral} (leftFormed : left.WellFormed)
    (rightFormed : right.WellFormed) (same : left.text = right.text) : left = right := by
  rw [← (readNumeral_text leftFormed).2, same, (readNumeral_text rightFormed).2]

theorem DenotesDecimal.unique {text : String} {first second : ℚ} (left : DenotesDecimal text first)
    (right : DenotesDecimal text second) : first = second := by
  obtain ⟨numeral, formed, same, rfl⟩ := left
  obtain ⟨other, otherFormed, otherSame, rfl⟩ := right
  rw [Numeral.text_injective formed otherFormed (same.symm.trans otherSame)]

/-- Trimming leaves out characters only. -/
theorem text_trim_sublist {numeral : Numeral} (formed : numeral.WellFormed) :
    numeral.trim.text.Sublist numeral.text := by
  have integer : numeral.trim.integer.Sublist numeral.integer := by
    change numeral.trimmedInteger.Sublist numeral.integer
    rw [Numeral.trimmedInteger]
    split
    · next empty =>
      -- All digits are zeros, and there are some.
      rw [List.dropWhile_eq_nil_iff] at empty
      obtain ⟨first, rest, split⟩ := List.exists_cons_of_ne_nil formed.nonempty
      rw [split] at empty ⊢
      rw [beq_iff_eq.mp (empty first List.mem_cons_self)]
      exact (List.nil_sublist rest).cons_cons '0'
    · exact List.dropWhile_sublist _
  have fraction : numeral.trim.fraction.Sublist numeral.fraction := by
    change numeral.trimmedFraction.Sublist numeral.fraction
    have trimmed := (List.dropWhile_sublist (l := numeral.fraction.reverse) (· == '0')).reverse
    rwa [List.reverse_reverse] at trimmed
  rw [Numeral.text, Numeral.text]
  refine (List.Sublist.append ?_ integer).append ?_
  · -- A sign stays or goes.
    cases negative : numeral.negative
    · simp [Numeral.trim, negative]
    · split
      · exact List.Sublist.refl _
      · exact List.nil_sublist _
  · by_cases empty : numeral.fraction = []
    · rw [empty, List.sublist_nil] at fraction
      rw [if_pos fraction]
      exact List.nil_sublist _
    · rw [if_neg empty]
      split
      · exact List.nil_sublist _
      · exact fraction.cons_cons '.'

theorem utf8ByteSize_ofList_le {left right : List Char} (shorter : left.Sublist right) :
    (String.ofList left).utf8ByteSize ≤ (String.ofList right).utf8ByteSize := by
  induction shorter with
  | slnil => exact Nat.le_refl _
  | cons character _ ih =>
    rw [String.ofList_cons, String.utf8ByteSize_append]
    omega
  | cons_cons character _ ih =>
    rw [String.ofList_cons, String.ofList_cons, String.utf8ByteSize_append, String.utf8ByteSize_append]
    omega

theorem mem_text {numeral : Numeral} (formed : numeral.WellFormed) {character : Char}
    (listed : character ∈ numeral.text) : character.isDigit ∨ character = '-' ∨ character = '.' := by
  rw [Numeral.text, List.mem_append, List.mem_append] at listed
  rcases listed with (sign | integer) | fraction
  · split at sign
    · exact Or.inr (Or.inl (List.mem_singleton.mp sign))
    · cases sign
  · exact Or.inl (formed.integer character integer)
  · split at fraction
    · cases fraction
    · rcases List.mem_cons.mp fraction with point | digit
      · exact Or.inr (Or.inr point)
      · exact Or.inl (formed.fraction character digit)

theorem canonicalDecimal_eq_ok_iff {input result : String} : canonicalDecimal input = .ok result ↔
    input.utf8ByteSize ≤ 128 ∧ ∃ numeral : Numeral, numeral.WellFormed ∧ input.toList = numeral.text ∧
      result = .ofList numeral.trim.text := by
  rw [canonicalDecimal_eq_ok]
  constructor
  · rintro ⟨decimal, digits, rfl⟩
    obtain ⟨formed, text⟩ := text_readNumeral digits
    exact ⟨decimal.2.1, _, formed, text, rfl⟩
  · rintro ⟨size, numeral, formed, text, rfl⟩
    obtain ⟨digits, read⟩ := readNumeral_text formed
    rw [IsDecimalText, text, read]
    refine ⟨⟨?_, size, ?_⟩, digits, rfl⟩
    · intro empty
      have integer : numeral.integer = [] := by
        rw [Numeral.text, List.append_eq_nil_iff, List.append_eq_nil_iff] at empty
        exact empty.1.2
      exact formed.nonempty integer
    · rw [List.any_eq_true]
      rintro ⟨character, listed, exponent⟩
      rw [List.contains_iff_mem] at exponent
      simp only [List.mem_cons, List.not_mem_nil, or_false] at exponent
      rcases mem_text formed listed with digit | rfl | rfl
      · rcases exponent with rfl | rfl | rfl <;> exact absurd digit (by decide)
      · exact absurd exponent (by decide)
      · exact absurd exponent (by decide)

section Canonical

variable {input result : String}

theorem canonicalDecimal_le (canonical : canonicalDecimal input = .ok result) :
    result.utf8ByteSize ≤ input.utf8ByteSize := by
  rw [canonicalDecimal_eq_ok_iff] at canonical
  obtain ⟨_, numeral, formed, text, rfl⟩ := canonical
  have shorter := utf8ByteSize_ofList_le (text_trim_sublist formed)
  rwa [← text, String.ofList_toList] at shorter

theorem Numeral.trim_trim {numeral : Numeral} (formed : numeral.WellFormed) :
    numeral.trim.trim = numeral.trim :=
  Numeral.eq_of_value_eq formed.trim.trim formed.trim Numeral.isTrimmed_trim Numeral.isTrimmed_trim
    Numeral.value_trim

theorem canonicalDecimal_again (canonical : canonicalDecimal input = .ok result) :
    canonicalDecimal result = .ok result := by
  have shorter := canonicalDecimal_le canonical
  rw [canonicalDecimal_eq_ok_iff] at canonical ⊢
  obtain ⟨size, numeral, formed, text, rfl⟩ := canonical
  refine ⟨shorter.trans size, numeral.trim, formed.trim,
    String.toList_ofList, ?_⟩
  rw [Numeral.trim_trim formed]

theorem denotes_canonicalDecimal (canonical : canonicalDecimal input = .ok result) :
    ∃ value, DenotesDecimal input value ∧ DenotesDecimal result value := by
  rw [canonicalDecimal_eq_ok_iff] at canonical
  obtain ⟨_, numeral, formed, text, rfl⟩ := canonical
  exact ⟨numeral.value, ⟨numeral, formed, text, rfl⟩,
    ⟨numeral.trim, formed.trim, String.toList_ofList, Numeral.value_trim⟩⟩

theorem canonicalDecimal_unique {other otherResult : String}
    (canonical : canonicalDecimal input = .ok result)
    (otherCanonical : canonicalDecimal other = .ok otherResult) {value : ℚ}
    (denotes : DenotesDecimal input value) (otherDenotes : DenotesDecimal other value) :
    result = otherResult := by
  rw [canonicalDecimal_eq_ok_iff] at canonical otherCanonical
  obtain ⟨_, numeral, formed, text, rfl⟩ := canonical
  obtain ⟨_, second, secondFormed, secondText, rfl⟩ := otherCanonical
  have same : numeral.value = second.value :=
    (DenotesDecimal.unique ⟨numeral, formed, text, rfl⟩ denotes).trans
      (DenotesDecimal.unique ⟨second, secondFormed, secondText, rfl⟩ otherDenotes).symm
  have trimmed : numeral.trim = second.trim :=
    Numeral.eq_of_value_eq formed.trim secondFormed.trim Numeral.isTrimmed_trim
      Numeral.isTrimmed_trim (by rw [Numeral.value_trim, Numeral.value_trim, same])
  rw [trimmed]

/-- Decimals have canonical texts: each denotes the one number of its input in no more bytes, is its own
canonical text, and is the only one of its number. -/
theorem decimal_canonical :
    (∀ input result, canonicalDecimal input = .ok result →
      (∃! value, DenotesDecimal input value) ∧
      (∀ value, DenotesDecimal result value ↔ DenotesDecimal input value) ∧
      result.utf8ByteSize ≤ input.utf8ByteSize ∧ canonicalDecimal result = .ok result) ∧
    ∀ left right leftResult rightResult, canonicalDecimal left = .ok leftResult →
      canonicalDecimal right = .ok rightResult →
      (leftResult = rightResult ↔ ∃ value, DenotesDecimal left value ∧ DenotesDecimal right value) := by
  refine ⟨fun input result canonical => ?_, fun left right leftResult rightResult isLeft isRight => ?_⟩
  · obtain ⟨value, denotes, denotesResult⟩ := denotes_canonicalDecimal canonical
    refine ⟨⟨value, denotes, fun other also => also.unique denotes⟩, fun other => ?_,
      canonicalDecimal_le canonical, canonicalDecimal_again canonical⟩
    constructor
    · intro also
      rwa [also.unique denotesResult]
    · intro also
      rwa [also.unique denotes]
  · constructor
    · rintro rfl
      obtain ⟨value, denotes, denotesResult⟩ := denotes_canonicalDecimal isLeft
      obtain ⟨other, alsoDenotes, alsoResult⟩ := denotes_canonicalDecimal isRight
      rw [alsoResult.unique denotesResult] at alsoDenotes
      exact ⟨value, denotes, alsoDenotes⟩
    · rintro ⟨value, denotes, alsoDenotes⟩
      exact canonicalDecimal_unique isLeft isRight denotes alsoDenotes

end Canonical

section Sample

/-- A decimal with needless zeros has a canonical text. -/
instance canonicalDecimal_sample : Fact (returns (canonicalDecimal "-000.1200") (· == "-0.12") = true) where
  out := by decide +kernel

/-- That text is its own canonical text. -/
theorem decimal_canonical_sample : canonicalDecimal "-0.12" = .ok "-0.12" := by
  obtain ⟨result, canonical, same⟩ := returns_eq_true.mp canonicalDecimal_sample.out
  rw [beq_iff_eq.mp same] at canonical
  exact (decimal_canonical.1 _ _ canonical).2.2.2

end Sample

end AgentMod
