import AgentMod.Primitives.Text

/-! Texts as UTF-8: the boundaries of their characters, and reading them back. -/

namespace AgentMod

/-- `str::is_char_boundary`. -/
def isCharBoundary : List Char → Nat → Bool
  | _, 0 => true
  | [], _ + 1 => false
  | character :: rest, index + 1 =>
    character.utf8Size ≤ index + 1 && isCharBoundary rest (index + 1 - character.utf8Size)

/-- The longest part of a text in front that has no more than a number of bytes. -/
structure LongestWithin (limit : Nat) (text taken : List Char) : Prop where
  front : taken <+: text
  within : utf8Length taken ≤ limit
  longest : ∀ other, other <+: text → utf8Length other ≤ limit → other <+: taken

theorem utf8Length_append (left right : List Char) :
    utf8Length (left ++ right) = utf8Length left + utf8Length right := by
  rw [utf8Length, List.map_append, List.sum_append, utf8Length, utf8Length]

theorem utf8Length_cons (character : Char) (rest : List Char) :
    utf8Length (character :: rest) = character.utf8Size + utf8Length rest := by
  rw [utf8Length, List.map_cons, List.sum_cons, utf8Length]

section Boundaries

variable {text front other : List Char}

theorem isCharBoundary_iff {index : Nat} :
    isCharBoundary text index ↔ ∃ front, front <+: text ∧ utf8Length front = index := by
  induction text generalizing index with
  | nil =>
    cases index with
    | zero => exact ⟨fun _ => ⟨[], List.nil_prefix, rfl⟩, fun _ => rfl⟩
    | succ index =>
      refine ⟨fun boundary => absurd boundary (by simp [isCharBoundary]), ?_⟩
      rintro ⟨front, within, length⟩
      rw [List.prefix_nil.mp within] at length
      cases length
  | cons character rest ih =>
    cases index with
    | zero => exact ⟨fun _ => ⟨[], List.nil_prefix, rfl⟩, fun _ => by rw [isCharBoundary]⟩
    | succ index =>
      rw [isCharBoundary, Bool.and_eq_true, decide_eq_true_iff, ih]
      constructor
      · rintro ⟨fits, front, within, length⟩
        exact ⟨character :: front, List.cons_prefix_cons.mpr ⟨rfl, within⟩, by rw [utf8Length_cons]; omega⟩
      · rintro ⟨front, within, length⟩
        cases front with
        | nil => cases length
        | cons first front =>
          obtain ⟨rfl, behind⟩ := List.cons_prefix_cons.mp within
          rw [utf8Length_cons] at length
          exact ⟨by omega, front, behind, by omega⟩

theorem begins_of_utf8Length_le (within : front <+: text) (within' : other <+: text)
    (shorter : utf8Length front ≤ utf8Length other) : front <+: other := by
  rcases List.prefix_or_prefix_of_prefix within within' with ahead | behind
  · exact ahead
  · obtain ⟨back, rfl⟩ := behind
    rw [utf8Length_append] at shorter
    cases back with
    | nil => simp only [List.append_nil, List.prefix_rfl]
    | cons character back =>
      have positive := character.utf8Size_pos
      rw [utf8Length_cons] at shorter
      omega

theorem LongestWithin.of_last {limit : Nat} (within : front <+: text) (fits : utf8Length front ≤ limit)
    (last : ∀ index, utf8Length front < index → index ≤ limit → isCharBoundary text index = false) :
    LongestWithin limit text front where
  front := within
  within := fits
  longest other within' fits' := begins_of_utf8Length_le within' within <| by
    by_contra longer
    have boundary := isCharBoundary_iff.mpr ⟨other, within', rfl⟩
    rw [last _ (not_le.mp longer) fits'] at boundary
    cases boundary

theorem sliceTo_of_begins {ε : Type} (within : front <+: text) :
    (sliceTo text (utf8Length front) : Fallible ε (List Char)) = .ok front := by
  induction front generalizing text with
  | nil =>
    cases text <;> rfl
  | cons character front ih =>
    obtain ⟨back, rfl⟩ := within
    have positive := character.utf8Size_pos
    obtain ⟨length, whole⟩ := Nat.exists_eq_succ_of_ne_zero
      (Nat.ne_of_gt (Nat.add_pos_left positive (utf8Length front)))
    rw [utf8Length_cons, whole, List.cons_append, sliceTo, if_pos (by omega), ← Nat.succ_eq_add_one, ← whole,
      Nat.add_sub_cancel_left, ih (List.prefix_append _ _)]
    rfl

end Boundaries

section Scalars

variable {rest : List UInt8} {lead next third last : UInt8} {high middle low final : Nat}

theorem lossy_one (isLead : lead.toNat < 128) :
    lossyCharacters none (lead :: rest) = Char.ofNat lead.toNat :: lossyCharacters none rest := by
  have small : lead < 0x80 := UInt8.lt_iff_toNat_lt.mpr isLead
  rw [lossyCharacters, Option.elim_none, beginScalar, utf8Lead, if_pos small]
  rfl

theorem utf8Lead_eq (isLead : 194 ≤ lead.toNat ∧ lead.toNat ≤ 244) : utf8Lead lead =
    if lead.toNat < 224 then some ⟨1, 0x80, 0xBF, lead.toNat - 192⟩
    else if lead.toNat < 240 then
      some ⟨2, if lead.toNat = 224 then 0xA0 else 0x80, if lead.toNat = 237 then 0x9F else 0xBF, lead.toNat - 224⟩
    else some ⟨3, if lead.toNat = 240 then 0x90 else 0x80, if lead.toNat = 244 then 0x8F else 0xBF,
      lead.toNat - 240⟩ := by
  obtain ⟨least, most⟩ := isLead
  simp only [utf8Lead, UInt8.lt_iff_toNat_lt, ← UInt8.toNat_inj, UInt8.reduceToNat]
  split_ifs <;> first | omega | simp_all

theorem continueScalar_eq (pending : Utf8Pending) (inside : pending.lower.toNat ≤ next.toNat ∧ next.toNat ≤ pending.upper.toNat) :
    continueScalar pending next =
      if pending.needed = 1 then ([Char.ofNat (pending.bits * 64 + (next.toNat - 128))], none)
      else ([], some ⟨pending.needed - 1, 0x80, 0xBF, pending.bits * 64 + (next.toNat - 128)⟩) := by
  have accepted : (decide (pending.lower ≤ next) && decide (next ≤ pending.upper)) = true := by
    rw [Bool.and_eq_true, decide_eq_true_iff, decide_eq_true_iff]
    exact ⟨UInt8.le_iff_toNat_le.mpr inside.1, UInt8.le_iff_toNat_le.mpr inside.2⟩
  rw [continueScalar, if_pos accepted]

theorem lossy_begin {pending : Utf8Pending} (begins : beginScalar lead = ([], some pending)) :
    lossyCharacters none (lead :: rest) = lossyCharacters (some pending) rest := by
  rw [lossyCharacters, Option.elim_none, begins]
  rfl

theorem lossy_continue {pending : Utf8Pending} {characters : List Char} {behind : Option Utf8Pending}
    (continues : continueScalar pending next = (characters, behind)) :
    lossyCharacters (some pending) (next :: rest) = characters ++ lossyCharacters behind rest := by
  rw [lossyCharacters, Option.elim_some, continues]

theorem lossy_last {lower upper : UInt8} {bits : Nat} (isLast : last.toNat = 128 + final)
    (inside : lower.toNat ≤ last.toNat ∧ last.toNat ≤ upper.toNat) :
    lossyCharacters (some ⟨1, lower, upper, bits⟩) (last :: rest) =
      Char.ofNat (bits * 64 + final) :: lossyCharacters none rest := by
  have continues := continueScalar_eq ⟨1, lower, upper, bits⟩ inside
  simp only [if_true, isLast, Nat.add_sub_cancel_left] at continues
  exact lossy_continue continues

theorem lossy_next {lower upper : UInt8} {bits needed : Nat} (isNext : next.toNat = 128 + middle)
    (inside : lower.toNat ≤ next.toNat ∧ next.toNat ≤ upper.toNat) :
    lossyCharacters (some ⟨needed + 2, lower, upper, bits⟩) (next :: rest) =
      lossyCharacters (some ⟨needed + 1, 0x80, 0xBF, bits * 64 + middle⟩) rest := by
  have continues := continueScalar_eq ⟨needed + 2, lower, upper, bits⟩ inside
  have several : ¬ needed + 2 = 1 := by omega
  simp only [several, if_false, isNext, Nat.add_sub_cancel_left] at continues
  exact lossy_continue continues

theorem lossy_two (isLead : lead.toNat = 192 + high) (isLast : last.toNat = 128 + final)
    (bounds : 2 ≤ high ∧ high < 32) (small : final < 64) :
    lossyCharacters none (lead :: last :: rest) = Char.ofNat (high * 64 + final) :: lossyCharacters none rest := by
  have begins : beginScalar lead = ([], some ⟨1, 0x80, 0xBF, high⟩) := by
    rw [beginScalar, utf8Lead_eq (by omega), if_pos (by omega), isLead, Nat.add_sub_cancel_left]
    rfl
  have inside : 128 ≤ last.toNat ∧ last.toNat ≤ 191 := by omega
  exact (lossy_begin begins).trans (lossy_last isLast inside)

theorem lossy_three (isLead : lead.toNat = 224 + high) (isNext : next.toNat = 128 + middle)
    (isLast : last.toNat = 128 + final) (bounds : high < 16) (small : middle < 64) (small' : final < 64)
    (shortest : high = 0 → 32 ≤ middle) (noSurrogate : high = 13 → middle < 32) :
    lossyCharacters none (lead :: next :: last :: rest) =
      Char.ofNat ((high * 64 + middle) * 64 + final) :: lossyCharacters none rest := by
  have begins : beginScalar lead = ([], some ⟨2, if lead.toNat = 224 then 0xA0 else 0x80,
      if lead.toNat = 237 then 0x9F else 0xBF, high⟩) := by
    rw [beginScalar, utf8Lead_eq (by omega), if_neg (by omega), if_pos (by omega)]
    simp only [isLead, Nat.add_sub_cancel_left]
  have lower : (if lead.toNat = 224 then (0xA0 : UInt8) else 0x80).toNat ≤ next.toNat := by
    split
    · have least : (160 : Nat) ≤ next.toNat := by omega
      exact least
    · have least : (128 : Nat) ≤ next.toNat := by omega
      exact least
  have upper : next.toNat ≤ (if lead.toNat = 237 then (0x9F : UInt8) else 0xBF).toNat := by
    split
    · have most : next.toNat ≤ 159 := by omega
      exact most
    · have most : next.toNat ≤ 191 := by omega
      exact most
  have inside : 128 ≤ last.toNat ∧ last.toNat ≤ 191 := by omega
  exact (lossy_begin begins).trans ((lossy_next isNext ⟨lower, upper⟩).trans (lossy_last isLast inside))

theorem lossy_four (isLead : lead.toNat = 240 + high) (isNext : next.toNat = 128 + middle)
    (isThird : third.toNat = 128 + low) (isLast : last.toNat = 128 + final) (bounds : high < 5) (small : middle < 64)
    (small' : low < 64) (small'' : final < 64) (shortest : high = 0 → 16 ≤ middle) (scalar : high = 4 → middle < 16) :
    lossyCharacters none (lead :: next :: third :: last :: rest) =
      Char.ofNat (((high * 64 + middle) * 64 + low) * 64 + final) :: lossyCharacters none rest := by
  have begins : beginScalar lead = ([], some ⟨3, if lead.toNat = 240 then 0x90 else 0x80,
      if lead.toNat = 244 then 0x8F else 0xBF, high⟩) := by
    rw [beginScalar, utf8Lead_eq (by omega), if_neg (by omega), if_neg (by omega)]
    simp only [isLead, Nat.add_sub_cancel_left]
  have lower : (if lead.toNat = 240 then (0x90 : UInt8) else 0x80).toNat ≤ next.toNat := by
    split
    · have least : (144 : Nat) ≤ next.toNat := by omega
      exact least
    · have least : (128 : Nat) ≤ next.toNat := by omega
      exact least
  have upper : next.toNat ≤ (if lead.toNat = 244 then (0x8F : UInt8) else 0xBF).toNat := by
    split
    · have most : next.toNat ≤ 143 := by omega
      exact most
    · have most : next.toNat ≤ 191 := by omega
      exact most
  have inside : (0x80 : UInt8).toNat ≤ third.toNat ∧ third.toNat ≤ (0xBF : UInt8).toNat := by
    have bounds : 128 ≤ third.toNat ∧ third.toNat ≤ 191 := by omega
    exact bounds
  have inside' : 128 ≤ last.toNat ∧ last.toNat ≤ 191 := by omega
  exact (lossy_begin begins).trans ((lossy_next isNext ⟨lower, upper⟩).trans
    ((lossy_next isThird inside).trans (lossy_last isLast inside')))

theorem toNat_leadByte {value lead : Nat} (small : value + lead < 256) :
    (UInt8.ofNat (value + lead)).toNat = lead + value := by
  exact (UInt8.toNat_ofNat_of_lt small).trans (Nat.add_comm value lead)

theorem lossyCharacters_encoded (character : Char) :
    lossyCharacters none (String.utf8EncodeChar character ++ rest) = character :: lossyCharacters none rest := by
  have valid := character.valid
  have back : Char.ofNat character.val.toNat = character := Char.ofNat_toNat character
  simp only [UInt32.isValidChar, Nat.isValidChar] at valid
  rw [String.utf8EncodeChar]
  generalize character.val.toNat = value at valid back ⊢
  have follows (bits : Nat) : (UInt8.ofNat (bits % 64 + 128)).toNat = 128 + bits % 64 := toNat_leadByte (by omega)
  split_ifs with one two three
  · have single : (UInt8.ofNat value).toNat = value := UInt8.toNat_ofNat_of_lt (show value < 256 by omega)
    rw [List.singleton_append, lossy_one (by omega), single, back]
  · have read := @lossy_two rest _ _ _ _ (toNat_leadByte (by omega) :
      (UInt8.ofNat (value / 64 % 32 + 192)).toNat = _) (follows value) (by omega) (by omega)
    have whole : value / 64 % 32 * 64 + value % 64 = value := by omega
    rwa [whole, back] at read
  · have read := @lossy_three rest _ _ _ _ _ _ (toNat_leadByte (by omega) :
      (UInt8.ofNat (value / 4096 % 16 + 224)).toNat = _) (follows (value / 64)) (follows value)
      (by omega) (by omega) (by omega) (by omega) (by omega)
    have whole : (value / 4096 % 16 * 64 + value / 64 % 64) * 64 + value % 64 = value := by omega
    rwa [whole, back] at read
  · have read := @lossy_four rest _ _ _ _ _ _ _ _ (toNat_leadByte (by omega) :
      (UInt8.ofNat (value / 262144 % 8 + 240)).toNat = _) (follows (value / 4096)) (follows (value / 64))
      (follows value) (by omega) (by omega) (by omega) (by omega) (by omega) (by omega)
    have whole : ((value / 262144 % 8 * 64 + value / 4096 % 64) * 64 + value / 64 % 64) * 64 + value % 64 =
      value := by omega
    rwa [whole, back] at read

theorem lossyCharacters_utf8Bytes (text : List Char) :
    lossyCharacters none (utf8Bytes text ++ rest) = text ++ lossyCharacters none rest := by
  induction text with
  | nil => rfl
  | cons character text ih =>
    rw [utf8Bytes, List.flatMap_cons, List.append_assoc, lossyCharacters_encoded, ← utf8Bytes, ih,
      List.cons_append]

end Scalars

section Reading

variable {text : List Char}

theorem fromUtf8Lossy_utf8Bytes : (fromUtf8Lossy (utf8Bytes text)).toList = text := by
  have read := @lossyCharacters_utf8Bytes [] text
  rw [List.append_nil, lossyCharacters, List.append_nil] at read
  rw [fromUtf8Lossy, read, String.toList_ofList]

theorem fromUtf8_utf8Bytes : fromUtf8 (utf8Bytes text) = some (.ofList text) := by
  have same : fromUtf8Lossy (utf8Bytes text) = .ofList text :=
    String.toList_injective (fromUtf8Lossy_utf8Bytes.trans String.toList_ofList.symm)
  rw [fromUtf8, fromUtf8Lossy_utf8Bytes, if_pos rfl, same]

theorem utf8Bytes_of_fromUtf8 {bytes : List UInt8} {read : String} (reads : fromUtf8 bytes = some read) :
    utf8Bytes read.toList = bytes := by
  rw [fromUtf8, Option.ite_none_right_eq_some] at reads
  rw [← Option.some_inj.mp reads.2, reads.1]

theorem begins_of_utf8Bytes {front : List Char} (begins : utf8Bytes front <+: utf8Bytes text) :
    front <+: text := by
  obtain ⟨rest, same⟩ := begins
  have read := @lossyCharacters_utf8Bytes [] text
  rw [List.append_nil, ← same, lossyCharacters_utf8Bytes, lossyCharacters, List.append_nil] at read
  exact ⟨_, read⟩

theorem utf8Bytes_append (left right : List Char) : utf8Bytes (left ++ right) = utf8Bytes left ++ utf8Bytes right :=
  List.flatMap_append

theorem length_utf8Bytes : (utf8Bytes text).length = utf8Length text := by
  rw [utf8Bytes, List.length_flatMap, utf8Length]
  simp only [String.length_utf8EncodeChar]

theorem fromUtf8_take_eq_some {index : Nat} {read : String} (inside : index ≤ utf8Length text) :
    fromUtf8 ((utf8Bytes text).take index) = some read ↔
      read.toList <+: text ∧ utf8Length read.toList = index := by
  constructor
  · intro reads
    have same := utf8Bytes_of_fromUtf8 reads
    refine ⟨begins_of_utf8Bytes (by rw [same]; exact List.take_prefix _ _), ?_⟩
    rw [← length_utf8Bytes, same, List.length_take, length_utf8Bytes, min_eq_left inside]
  · rintro ⟨⟨back, whole⟩, rfl⟩
    rw [← whole, utf8Bytes_append, ← length_utf8Bytes, List.take_left, fromUtf8_utf8Bytes, String.ofList_toList]

end Reading

end AgentMod
