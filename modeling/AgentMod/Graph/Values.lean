import AgentMod.Graph.Error

/-! Checks on the values that a graph embeds: JSON, media types, pointers and timestamps. -/

namespace AgentMod

mutual

/-- The nesting depth of a JSON value. -/
def jsonDepth : Json → Nat
  | .array items => 1 + jsonItemsDepth items
  | .object entries => 1 + jsonEntriesDepth entries
  | .null | .bool _ | .number _ | .string _ => 1

/-- The greatest depth of an array's items. -/
def jsonItemsDepth : List Json → Nat
  | [] => 0
  | item :: rest => max (jsonDepth item) (jsonItemsDepth rest)

/-- The greatest depth of an object's values. -/
def jsonEntriesDepth : List (String × Json) → Nat
  | [] => 0
  | (_, value) :: rest => max (jsonDepth value) (jsonEntriesDepth rest)

end

mutual

/-- Orders the keys of every object in a JSON value. -/
def canonicalizeJson : Json → Json
  | .array items => .array (canonicalizeItems items)
  | .object entries => .object (canonicalizeEntries entries).toList
  | .null => .null
  | .bool value => .bool value
  | .number value => .number value
  | .string value => .string value

/-- Canonicalizes an array's items in place. -/
def canonicalizeItems : List Json → List Json
  | [] => []
  | item :: rest => canonicalizeJson item :: canonicalizeItems rest

/-- Collects an object's canonical values by key; its keys are distinct. -/
def canonicalizeEntries : List (String × Json) → StringMap Json
  | [] => ∅
  | (key, value) :: rest => (canonicalizeEntries rest).insert key (canonicalizeJson value)

end

/-- A JSON value that is a text with more than white space in it. -/
def isPresentText : Json → Bool
  | .string value => !isBlank value
  | _ => false

/-- Whether a static task input is one task, or few enough tasks in a list or a map. -/
def validStaticChildTasks (value : Json) (maximumChildren : Nat) : Bool :=
  match value with
  | .string value => !isBlank value && maximumChildren ≥ 1
  | .array values =>
    !values.isEmpty && values.length ≤ maximumChildren && values.all isPresentText
  | .object values =>
    !values.isEmpty && values.length ≤ maximumChildren &&
      values.all fun entry => !isBlank entry.1 && isPresentText entry.2
  | _ => false

/-- The object keys under which inline secrets are refused. -/
def isForbiddenKey (key : String) : Bool :=
  ["secret", "password", "token", "api_key", "private_key"].contains (toAsciiLowercase key)

mutual

/-- Whether an object key anywhere in a JSON value names an inline secret. -/
def containsForbiddenInlineSecret : Json → Bool
  | .object values => entriesContainForbiddenInlineSecret values
  | .array values => itemsContainForbiddenInlineSecret values
  | .null | .bool _ | .number _ | .string _ => false

/-- Whether an item of an array contains an inline secret. -/
def itemsContainForbiddenInlineSecret : List Json → Bool
  | [] => false
  | item :: rest => containsForbiddenInlineSecret item || itemsContainForbiddenInlineSecret rest

/-- Whether an entry of an object is or contains an inline secret. -/
def entriesContainForbiddenInlineSecret : List (String × Json) → Bool
  | [] => false
  | (key, value) :: rest =>
    isForbiddenKey key || containsForbiddenInlineSecret value ||
      entriesContainForbiddenInlineSecret rest

end

/-- The bytes of media type tokens. -/
def isMimeTokenByte (value : UInt8) : Bool :=
  (48 ≤ value && value ≤ 57) || (65 ≤ value && value ≤ 90) || (97 ≤ value && value ≤ 122) ||
    [33, 35, 36, 38, 94, 95, 46, 43, 45].contains value

/-- Whether a text is a bounded ASCII type and subtype. -/
def validMimeType (value : String) (maximum : Nat) : Bool :=
  let characters := value.toList
  match characters.dropWhile (· != '/') with
  | [] => false
  | _ :: subtype =>
    let typeName := characters.takeWhile (· != '/')
    value.utf8ByteSize ≤ maximum && !typeName.isEmpty && !subtype.isEmpty &&
      !subtype.contains '/' && (utf8Bytes typeName).all isMimeTokenByte &&
      (utf8Bytes subtype).all isMimeTokenByte

/-- Whether every tilde of a JSON pointer is followed by a zero or a one. -/
def validJsonPointerEscapes : List Char → Bool
  | [] => true
  | '~' :: '0' :: rest | '~' :: '1' :: rest => validJsonPointerEscapes rest
  | '~' :: _ => false
  | _ :: rest => validJsonPointerEscapes rest

/-- Whether a text is the empty pointer or a bounded JSON pointer. -/
def isJsonPointer (pointer : String) (maximum : Nat) : Bool :=
  pointer.isEmpty ||
    (pointer.toList.head? == some '/' && pointer.utf8ByteSize ≤ maximum &&
      !pointer.toList.any isControl && validJsonPointerEscapes pointer.toList)

/-- `u8::is_ascii_digit`. -/
def isAsciiDigitByte (byte : UInt8) : Bool := 48 ≤ byte && byte ≤ 57

/-- The number that the bytes of a range spell. -/
def decimalComponent (bytes : List UInt8) (start finish : Nat) : Option Nat :=
  if finish ≤ bytes.length then
    let component := (bytes.drop start).take (finish - start)
    let value := component.foldl (fun value byte => value * 10 + (byte.toNat - 48)) 0
    if !component.isEmpty && component.all isAsciiDigitByte && value < 2 ^ 32 then some value
    else none
  else none

/-- The number of days of a month. -/
def daysInMonth (year month : Nat) : Nat :=
  if [1, 3, 5, 7, 8, 10, 12].contains month then 31
  else if [4, 6, 9, 11].contains month then 30
  else if month = 2 then
    if year % 4 = 0 ∧ (year % 100 ≠ 0 ∨ year % 400 = 0) then 29 else 28
  else 0

/-- Whether the bytes from an index on are a `Z` or a numeric offset. -/
def isTimestampOffset (bytes : List UInt8) (index : Nat) : Bool :=
  match bytes[index]? with
  | some 90 => index + 1 == bytes.length
  | some 43 | some 45 =>
    (decimalComponent bytes (index + 1) (index + 3)).any (· ≤ 23) &&
      bytes[index + 3]? == some 58 &&
      (decimalComponent bytes (index + 4) (index + 6)).any (· ≤ 59) &&
      index + 6 == bytes.length
  | _ => false

/-- Whether a text is an RFC 3339 timestamp. -/
def isRfc3339Timestamp (value : String) : Bool :=
  let bytes := utf8Bytes value.toList
  if bytes.length < 20 || bytes[4]? != some 45 || bytes[7]? != some 45 || bytes[10]? != some 84 ||
      bytes[13]? != some 58 || bytes[16]? != some 58 then false
  else
    match decimalComponent bytes 0 4, decimalComponent bytes 5 7, decimalComponent bytes 8 10,
      decimalComponent bytes 11 13, decimalComponent bytes 14 16, decimalComponent bytes 17 19 with
    | some year, some month, some day, some hour, some minute, some second =>
      if month = 0 ∨ month > 12 ∨ day = 0 ∨ day > daysInMonth year month ∨ hour > 23 ∨
          minute > 59 ∨ second > 60 then false
      else if bytes[19]? = some 46 then
        let fraction := (bytes.drop 20).takeWhile isAsciiDigitByte
        if fraction.isEmpty then false else isTimestampOffset bytes (20 + fraction.length)
      else isTimestampOffset bytes 19
    | _, _, _, _, _, _ => false

/-- Validates a bounded timestamp. -/
def validateTimestamp (kind timestamp : String) (limits : CompilerLimits) : Compiled Unit :=
  rejectIf (timestamp.utf8ByteSize > limits.maxNameBytes ∨ !isRfc3339Timestamp timestamp)
    (.invalidTimestamp kind timestamp)

/-- The serializers that configuration and JSON values are handed to. -/
class GraphCodec where
  /-- `toml::from_str::<GraphDefinition>`, with the message of its error. -/
  definitionFromToml : String → Except String GraphDefinition
  /-- `serde_json::to_vec` of a configuration, with the text of its error. -/
  configurationToVec : NodeConfiguration → Except String (List UInt8)
  /-- `serde_json::to_vec` of a JSON value, with the text of its error. -/
  jsonToVec : Json → Except String (List UInt8)

variable [GraphCodec]

/-- The serialized bytes of a JSON value's canonical form. -/
def canonicalJsonBytes (value : Json) : Compiled (List UInt8) :=
  match GraphCodec.jsonToVec (canonicalizeJson value) with
  | .ok bytes => .ok bytes
  | .error detail => reject (.inspection detail)

/-- Validates the size and the depth of a JSON value. -/
def validateJsonValue (node field : String) (value : Json) (limits : CompilerLimits) :
    Compiled Unit := do
  let serialized ← canonicalJsonBytes value
  rejectIf (serialized.length > limits.maxConfigurationBytes)
    (.nodeConfigurationTooLarge node serialized.length limits.maxConfigurationBytes)
  rejectIf (jsonDepth value > limits.maxValueDepth)
    (.nodeConfigurationTooDeep node field limits.maxValueDepth)

end AgentMod
