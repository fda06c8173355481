import AgentMod.Library.Result

/-! Self-delimiting byte strings: what was written is read back, and no proper part of it is read. -/

namespace AgentMod

/-- Writes a byte string: every byte behind a flag, and a zero at the end. -/
def encodeSegment (segment : List UInt8) : List UInt8 :=
  segment.flatMap (fun byte => [1, byte]) ++ [0]

/-- Reads a byte string from the front. -/
def decodeSegment : List UInt8 → Option (List UInt8 × List UInt8)
  | flag :: byte :: rest =>
    if flag = 0 then some ([], byte :: rest)
    else (decodeSegment rest).map fun decoded => (byte :: decoded.1, decoded.2)
  | [flag] => if flag = 0 then some ([], []) else none
  | [] => none

/-- Writes byte strings one behind the other. -/
def encodeSegments (segments : List (List UInt8)) : List UInt8 := segments.flatMap encodeSegment

/-- Reads the given number of byte strings from the front. -/
def decodeSegments : Nat → List UInt8 → Option (List (List UInt8) × List UInt8)
  | 0, bytes => some ([], bytes)
  | count + 1, bytes => do
    let (segment, rest) ← decodeSegment bytes
    let (segments, left) ← decodeSegments count rest
    return (segment :: segments, left)

theorem decodeSegment_zero (rest : List UInt8) : decodeSegment (0 :: rest) = some ([], rest) := by
  cases rest <;> rfl

theorem decodeSegment_byte {flag : UInt8} (nonzero : ¬ flag = 0) (byte : UInt8) (rest : List UInt8) :
    decodeSegment (flag :: byte :: rest) =
      (decodeSegment rest).map fun decoded => (byte :: decoded.1, decoded.2) :=
  if_neg nonzero

theorem decodeSegment_encodeSegment (segment rest : List UInt8) :
    decodeSegment (encodeSegment segment ++ rest) = some (segment, rest) := by
  rw [encodeSegment, List.append_assoc]
  induction segment with
  | nil => exact decodeSegment_zero rest
  | cons byte segment ih =>
    rw [List.flatMap_cons, List.append_assoc]
    simp only [List.cons_append, List.nil_append] at ih ⊢
    rw [decodeSegment_byte (by decide), ih, Option.map_some]

theorem decodeSegment_append {bytes segment rest : List UInt8} (extra : List UInt8)
    (reads : decodeSegment bytes = some (segment, rest)) :
    decodeSegment (bytes ++ extra) = some (segment, rest ++ extra) := by
  fun_induction decodeSegment bytes generalizing segment rest with
  | case1 => cases reads; exact decodeSegment_zero _
  | case2 flag byte later nonzero ih =>
    obtain ⟨⟨_, _⟩, decoded, same⟩ := Option.map_eq_some_iff.mp reads
    cases same
    rw [List.cons_append, List.cons_append, decodeSegment_byte nonzero, ih decoded, Option.map_some]
  | case3 => cases reads; exact decodeSegment_zero _
  | case4 => cases reads
  | case5 => cases reads

theorem decodeSegments_succ (count : Nat) (bytes : List UInt8) : decodeSegments (count + 1) bytes =
    (decodeSegment bytes).bind fun first =>
      (decodeSegments count first.2).map fun others => (first.1 :: others.1, others.2) := by
  change ((decodeSegment bytes).bind fun first => (decodeSegments count first.2).bind fun others =>
    some (first.1 :: others.1, others.2)) = _
  simp only [Option.map_eq_bind, Function.comp_def]

theorem decodeSegments_encodeSegments (segments : List (List UInt8)) (rest : List UInt8) :
    decodeSegments segments.length (encodeSegments segments ++ rest) = some (segments, rest) := by
  induction segments with
  | nil => rfl
  | cons segment segments ih =>
    change decodeSegments segments.length (segments.flatMap encodeSegment ++ rest) = _ at ih
    change decodeSegments (segments.length + 1) ((segment :: segments).flatMap encodeSegment ++ rest) = _
    rw [List.flatMap_cons, List.append_assoc, decodeSegments_succ, decodeSegment_encodeSegment,
      Option.bind_some, ih, Option.map_some]

theorem decodeSegments_append {count : Nat} {bytes rest : List UInt8} {segments : List (List UInt8)}
    (extra : List UInt8) (reads : decodeSegments count bytes = some (segments, rest)) :
    decodeSegments count (bytes ++ extra) = some (segments, rest ++ extra) := by
  induction count generalizing bytes segments rest with
  | zero => cases reads; rfl
  | succ count ih =>
    rw [decodeSegments_succ] at reads ⊢
    obtain ⟨first, reading, mapped⟩ := Option.bind_eq_some_iff.mp reads
    obtain ⟨others, remaining, same⟩ := Option.map_eq_some_iff.mp mapped
    cases same
    rw [decodeSegment_append extra reading, Option.bind_some, ih remaining, Option.map_some]

/-- How values are written as a number of byte strings. -/
structure SegmentCodec (α : Type) where
  count : Nat
  segments : α → List (List UInt8)
  parse : List (List UInt8) → Option α
  length : ∀ value, (segments value).length = count
  parses : ∀ value, parse (segments value) = some value

namespace SegmentCodec

variable {α : Type} (codec : SegmentCodec α)

/-- The bytes of a value. -/
def toVec (value : α) : Except String (List UInt8) := .ok (encodeSegments (codec.segments value))

/-- The value of some bytes, which hold nothing else. -/
def fromSlice (bytes : List UInt8) : Except String α :=
  match decodeSegments codec.count bytes with
  | some (segments, []) => okOr (codec.parse segments) "unexpected value"
  | _ => .error "unexpected end"

theorem reads {value : α} {bytes : List UInt8} (writes : codec.toVec value = .ok bytes) :
    codec.fromSlice bytes = .ok value := by
  cases writes
  have decodes := decodeSegments_encodeSegments (codec.segments value) []
  rw [List.append_nil, codec.length] at decodes
  rw [fromSlice, decodes, okOr_eq_ok]
  exact codec.parses value

theorem torn {value : α} {bytes part : List UInt8} (writes : codec.toVec value = .ok bytes)
    (front : part <+: bytes) (proper : part ≠ bytes) :
    ∃ detail, codec.fromSlice part = .error detail := by
  cases writes
  obtain ⟨extra, same⟩ := front
  have decodes := decodeSegments_encodeSegments (codec.segments value) []
  rw [List.append_nil, codec.length, ← same] at decodes
  rw [fromSlice]
  split
  · next segments reads =>
    -- A part that is read leaves nothing, so nothing is behind it in the whole.
    have nothing := (decodeSegments_append extra reads).symm.trans decodes
    simp only [List.nil_append, Option.some.injEq, Prod.mk.injEq] at nothing
    rw [nothing.2, List.append_nil] at same
    exact absurd same proper
  · exact ⟨_, rfl⟩

end SegmentCodec

/-- A character as three bytes. -/
def charSegment (character : Char) : List UInt8 :=
  [(character.toNat % 256).toUInt8, (character.toNat / 256 % 256).toUInt8,
    (character.toNat / 65536).toUInt8]

/-- The characters of three bytes each. -/
def parseChars : List UInt8 → List Char
  | low :: middle :: high :: rest =>
    .ofNat (low.toNat + 256 * middle.toNat + 65536 * high.toNat) :: parseChars rest
  | _ => []

/-- A text as bytes. -/
def textSegment (text : String) : List UInt8 := text.toList.flatMap charSegment

/-- The text of some bytes. -/
def parseText (bytes : List UInt8) : String := .ofList (parseChars bytes)

@[simp] theorem parseText_textSegment (text : String) : parseText (textSegment text) = text := by
  have characters : ∀ characters : List Char,
      parseChars (characters.flatMap charSegment) = characters := by
    intro characters
    induction characters with
    | nil => rfl
    | cons character rest ih =>
      have valid : character.toNat < 55296 ∨ 57343 < character.toNat ∧ character.toNat < 1114112 :=
        character.valid
      have value : character.toNat % 256 % 256 + 256 * (character.toNat / 256 % 256 % 256) +
          65536 * (character.toNat / 65536 % 256) = character.toNat := by omega
      rw [List.flatMap_cons, charSegment, List.cons_append, List.cons_append, List.cons_append,
        List.nil_append, parseChars, ih]
      simp only [Nat.toUInt8_eq, UInt8.toNat_ofNat', value, Char.ofNat_toNat]
  rw [parseText, textSegment, characters, String.ofList_toList]

/-- A number as that many bytes. -/
def countSegment (value : Nat) : List UInt8 := .replicate value 1

/-- A 64-bit integer that may be absent, as some bytes. -/
def instantSegment : Option Int64 → List UInt8
  | none => []
  | some value => countSegment ((value.toInt + 2 ^ 63).toNat + 1)

/-- The 64-bit integer of some bytes. -/
def parseInstant (bytes : List UInt8) : Option Int64 :=
  match bytes.length with
  | 0 => none
  | length + 1 => some (.ofInt (length - 2 ^ 63))

@[simp] theorem parseInstant_instantSegment (value : Option Int64) :
    parseInstant (instantSegment value) = value := by
  cases value with
  | none => rfl
  | some value =>
    have low := value.le_toInt
    have exact : (((value.toInt + 2 ^ 63).toNat : Int) - 2 ^ 63) = value.toInt := by omega
    rw [instantSegment, countSegment, parseInstant, List.length_replicate]
    simp only [exact, Int64.ofInt_toInt]

end AgentMod
