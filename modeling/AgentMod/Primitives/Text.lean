import AgentMod.Library.Result

/-! Character classes and byte slices of Rust strings, and reading bytes as UTF-8. -/

namespace AgentMod

/-- The characters of Unicode general category `Cc`, as `char::is_control` tests them. -/
def isControl (character : Char) : Bool :=
  character.toNat < 32 || (127 ≤ character.toNat && character.toNat < 160)

/-- The characters with the Unicode `White_Space` property, as `char::is_whitespace` tests them. -/
def isWhitespace (character : Char) : Bool :=
  let code := character.toNat
  (9 ≤ code && code ≤ 13) || code == 32 || code == 133 || code == 160 || code == 5760 ||
    (8192 ≤ code && code ≤ 8202) || code == 8232 || code == 8233 || code == 8239 ||
    code == 8287 || code == 12288

/-- `char::is_ascii_digit`. -/
def isAsciiDigit (character : Char) : Bool :=
  48 ≤ character.toNat && character.toNat ≤ 57

/-- `char::is_ascii_alphabetic`. -/
def isAsciiAlphabetic (character : Char) : Bool :=
  (65 ≤ character.toNat && character.toNat ≤ 90) || (97 ≤ character.toNat && character.toNat ≤ 122)

/-- `char::is_ascii_alphanumeric`. -/
def isAsciiAlphanumeric (character : Char) : Bool :=
  isAsciiAlphabetic character || isAsciiDigit character

/-- `str::to_ascii_lowercase`. -/
def toAsciiLowercase (text : String) : String :=
  text.map fun character =>
    if 65 ≤ character.toNat && character.toNat ≤ 90 then Char.ofNat (character.toNat + 32)
    else character

/-- `str::to_ascii_uppercase`. -/
def toAsciiUppercase (text : String) : String :=
  text.map fun character =>
    if 97 ≤ character.toNat && character.toNat ≤ 122 then Char.ofNat (character.toNat - 32)
    else character

/-- Whether `str::trim` leaves nothing of the text. -/
def isBlank (text : String) : Bool :=
  text.toList.all isWhitespace

/-- The UTF-8 bytes of a text. -/
def utf8Bytes (text : List Char) : List UInt8 :=
  text.flatMap String.utf8EncodeChar

/-- The number of UTF-8 bytes of a text. -/
def utf8Length (text : List Char) : Nat :=
  (text.map Char.utf8Size).sum

/-- `&text[offset..]`, which panics when the offset splits a character or lies past the end. -/
def sliceFrom {ε : Type} : List Char → Nat → Fallible ε (List Char)
  | text, 0 => .ok text
  | [], _ + 1 => .error .panic
  | character :: rest, offset + 1 =>
    if character.utf8Size ≤ offset + 1 then sliceFrom rest (offset + 1 - character.utf8Size)
    else .error .panic

/-- `&text[..length]`, which panics when the length splits a character or exceeds the text. -/
def sliceTo {ε : Type} : List Char → Nat → Fallible ε (List Char)
  | _, 0 => .ok []
  | [], _ + 1 => .error .panic
  | character :: rest, length + 1 =>
    if character.utf8Size ≤ length + 1 then do
      let taken ← sliceTo rest (length + 1 - character.utf8Size)
      return character :: taken
    else .error .panic

/-- `&text[start..finish]`. -/
def slice {ε : Type} (text : List Char) (start finish : Nat) : Fallible ε (List Char) := do
  let remaining ← sliceFrom text start
  sliceTo remaining (finish - start)

/-- What a scalar value in UTF-8 still needs: its continuation bytes, the range of the next one, and the
bits so far. -/
structure Utf8Pending where
  needed : Nat
  lower : UInt8
  upper : UInt8
  bits : Nat

/-- What the first byte of a scalar value announces, which is nothing where no value begins so. -/
def utf8Lead (byte : UInt8) : Option Utf8Pending :=
  if byte < 0x80 then some ⟨0, 0x80, 0xBF, byte.toNat⟩
  else if byte < 0xC2 then none
  else if byte < 0xE0 then some ⟨1, 0x80, 0xBF, byte.toNat - 0xC0⟩
  else if byte = 0xE0 then some ⟨2, 0xA0, 0xBF, 0⟩
  else if byte = 0xED then some ⟨2, 0x80, 0x9F, 0xD⟩
  else if byte < 0xF0 then some ⟨2, 0x80, 0xBF, byte.toNat - 0xE0⟩
  else if byte = 0xF0 then some ⟨3, 0x90, 0xBF, 0⟩
  else if byte < 0xF4 then some ⟨3, 0x80, 0xBF, byte.toNat - 0xF0⟩
  else if byte = 0xF4 then some ⟨3, 0x80, 0x8F, 4⟩
  else none

/-- The character that stands for bytes that are not UTF-8. -/
def replacementCharacter : Char := Char.ofNat 0xFFFD

/-- Goes on with the first byte of a scalar value. -/
def beginScalar (byte : UInt8) : List Char × Option Utf8Pending :=
  match utf8Lead byte with
  | none => ([replacementCharacter], none)
  | some ⟨0, _, _, bits⟩ => ([Char.ofNat bits], none)
  | some pending => ([], some pending)

/-- Goes on with the next byte, which ends, continues or breaks off a scalar value that has begun. -/
def continueScalar (pending : Utf8Pending) (byte : UInt8) : List Char × Option Utf8Pending :=
  if pending.lower ≤ byte && byte ≤ pending.upper then
    let bits := pending.bits * 64 + (byte.toNat - 0x80)
    if pending.needed = 1 then ([Char.ofNat bits], none)
    else ([], some ⟨pending.needed - 1, 0x80, 0xBF, bits⟩)
  else
    let (characters, next) := beginScalar byte
    (replacementCharacter :: characters, next)

/-- The characters of bytes behind what has begun. -/
def lossyCharacters : Option Utf8Pending → List UInt8 → List Char
  | none, [] => []
  | some _, [] => [replacementCharacter]
  | pending, byte :: rest =>
    let (characters, next) := pending.elim (beginScalar byte) (continueScalar · byte)
    characters ++ lossyCharacters next rest

/-- `String::from_utf8_lossy`: a replacement character for each maximal part that no UTF-8 text has. -/
def fromUtf8Lossy (bytes : List UInt8) : String :=
  String.ofList (lossyCharacters none bytes)

/-- `String::from_utf8`: the text that the bytes are the UTF-8 of. -/
def fromUtf8 (bytes : List UInt8) : Option String :=
  if utf8Bytes (fromUtf8Lossy bytes).toList = bytes then some (fromUtf8Lossy bytes) else none

/-- `str::trim`. -/
def trimText (text : String) : String :=
  String.ofList ((text.toList.dropWhile isWhitespace).reverse.dropWhile isWhitespace).reverse

/-- `str::split_whitespace`. -/
def splitWhitespace (text : String) : List String :=
  ((text.toList.splitOnP isWhitespace).filter (!·.isEmpty)).map .ofList

end AgentMod
