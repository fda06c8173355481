import AgentMod.Primitives.Text

/-! Bytes as hexadecimal digits, and back. -/

namespace AgentMod

/-- The two lowercase digits of a byte, high half first. -/
def digitPair (byte : UInt8) : List Char :=
  [Nat.digitChar (byte.toNat / 16), Nat.digitChar (byte.toNat % 16)]

/-- The lowercase hexadecimal digits of some bytes. -/
def encodeHex (bytes : List UInt8) : String := .ofList (bytes.flatMap digitPair)

/-- The value of a hexadecimal digit of either case. -/
def hexNibble (byte : UInt8) : Option UInt8 :=
  if 48 ≤ byte ∧ byte ≤ 57 then some (byte - 48)
  else if 97 ≤ byte ∧ byte ≤ 102 then some (byte - 97 + 10)
  else if 65 ≤ byte ∧ byte ≤ 70 then some (byte - 65 + 10)
  else none

/-- Reads two digits at a time; a digit that is left alone is skipped. -/
def decodePairs : List UInt8 → Option (List UInt8)
  | high :: low :: rest => do
    let high ← hexNibble high
    let low ← hexNibble low
    let bytes ← decodePairs rest
    return (high <<< 4 ||| low) :: bytes
  | _ => some []

/-- The bytes of a text. -/
def textBytes (text : String) : List UInt8 := utf8Bytes text.toList

theorem hexNibble_digitChar {value : Nat} (small : value < 16) :
    ∃ byte, String.utf8EncodeChar (Nat.digitChar value) = [byte] ∧
      hexNibble byte = some value.toUInt8 := by
  have reads : ∀ value < 16, hexNibble ((String.utf8EncodeChar (Nat.digitChar value)).headD 0) =
      some value.toUInt8 ∧ (String.utf8EncodeChar (Nat.digitChar value)).length = 1 := by decide
  obtain ⟨nibble, single⟩ := reads value small
  obtain ⟨byte, only⟩ := List.length_eq_one_iff.mp single
  rw [only] at nibble
  exact ⟨byte, only, nibble⟩

set_option maxRecDepth 4000 in
theorem byte_of_halves (byte : UInt8) :
    (byte.toNat / 16).toUInt8 <<< 4 ||| (byte.toNat % 16).toUInt8 = byte := by
  have halves : ∀ value < 256,
      ((value / 16 : Nat).toUInt8 <<< 4 ||| (value % 16 : Nat).toUInt8 : UInt8) =
        value.toUInt8 := by decide
  have small : byte.toNat < 256 := byte.toNat_lt
  rw [halves byte.toNat small]
  exact UInt8.ofNat_toNat

theorem digitPair_reads (byte : UInt8) : ∃ high low,
    (digitPair byte).flatMap String.utf8EncodeChar = [high, low] ∧
      hexNibble high = some (byte.toNat / 16).toUInt8 ∧
      hexNibble low = some (byte.toNat % 16).toUInt8 := by
  have small : byte.toNat < 256 := byte.toNat_lt
  obtain ⟨high, encodesHigh, readsHigh⟩ := hexNibble_digitChar (show byte.toNat / 16 < 16 by omega)
  obtain ⟨low, encodesLow, readsLow⟩ := hexNibble_digitChar (show byte.toNat % 16 < 16 by omega)
  refine ⟨high, low, ?_, readsHigh, readsLow⟩
  simp [digitPair, encodesHigh, encodesLow]

theorem textBytes_encodeHex (bytes : List UInt8) : textBytes (encodeHex bytes) =
    bytes.flatMap fun byte => (digitPair byte).flatMap String.utf8EncodeChar := by
  rw [textBytes, encodeHex, String.toList_ofList, utf8Bytes, List.flatMap_assoc]

theorem decodePairs_encodeHex (bytes : List UInt8) :
    decodePairs (textBytes (encodeHex bytes)) = some bytes := by
  rw [textBytes_encodeHex]
  induction bytes with
  | nil => rfl
  | cons byte rest ih =>
    obtain ⟨high, low, front, readsHigh, readsLow⟩ := digitPair_reads byte
    rw [List.flatMap_cons, front]
    simp [decodePairs, readsHigh, readsLow, ih, byte_of_halves]

theorem length_textBytes_encodeHex (bytes : List UInt8) :
    (textBytes (encodeHex bytes)).length = 2 * bytes.length := by
  rw [textBytes_encodeHex]
  induction bytes with
  | nil => rfl
  | cons byte rest ih =>
    obtain ⟨high, low, front, -, -⟩ := digitPair_reads byte
    rw [List.flatMap_cons, front, List.length_append, ih]
    simp only [List.length_cons, List.length_nil]
    omega

theorem not_mem_encodeHex {character : Char} (bytes : List UInt8)
    (other : ∀ value < 16, Nat.digitChar value ≠ character) :
    character ∉ (encodeHex bytes).toList := by
  rw [encodeHex, String.toList_ofList, List.mem_flatMap]
  rintro ⟨byte, _, member⟩
  have small : byte.toNat < 256 := byte.toNat_lt
  simp only [digitPair, List.mem_cons, List.not_mem_nil, or_false] at member
  rcases member with same | same
  · exact other (byte.toNat / 16) (by omega) same.symm
  · exact other (byte.toNat % 16) (by omega) same.symm

end AgentMod
