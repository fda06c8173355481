import AgentMod.Expression.Syntax
import AgentMod.Primitives.Text
import Mathlib.Data.List.DropRight

/-! JSON values as trees: their size, their height, their encoding, their equality, and the order of their numbers. -/

namespace AgentMod

/-- The keys of an object, in their order. -/
abbrev keysOf (entries : List (String × Json)) : List String := entries.map Prod.fst

/-- The text of a finite double, which the formatter chooses. -/
class DoubleText where
  /-- The text, for the bits of the double. -/
  text : BitVec 64 → String

/-- `Number::to_string`. -/
def Number.text [DoubleText] : Number → String
  | .posInt value _ => toString value
  | .negInt value _ => toString value
  | .float bits _ => DoubleText.text bits

/-- Equality of numbers: the two zeros are equal doubles. -/
def Number.equal : Number → Number → Bool
  | .float left _, .float right _ => left == right || (left <<< 1 == 0 && right <<< 1 == 0)
  | left, right => left == right

/-- The number of bytes that a character of a string is encoded with. -/
def encodedCharLength (character : Char) : Nat :=
  if ['"', '\\', '\x08', '\t', '\n', '\x0c', '\r'].contains character then 2
  else if character.toNat < 32 then 6
  else character.utf8Size

/-- The number of bytes that a string is encoded with. -/
def encodedTextLength (text : String) : Nat := 2 + (text.toList.map encodedCharLength).sum

namespace Json

/-- The values directly below a value. -/
def children : Json → List Json
  | array items => items
  | object entries => entries.map Prod.snd
  | null | bool _ | number _ | string _ => []

mutual

/-- The number of values in a tree. -/
def nodes : Json → Nat
  | array items => 1 + itemNodes items
  | object entries => 1 + entryNodes entries
  | null | bool _ | number _ | string _ => 1

/-- The number of values in the items of an array. -/
def itemNodes : List Json → Nat
  | [] => 0
  | item :: rest => nodes item + itemNodes rest

/-- The number of values in the members of an object. -/
def entryNodes : List (String × Json) → Nat
  | [] => 0
  | (_, value) :: rest => nodes value + entryNodes rest

end

mutual

/-- The number of levels below a value. -/
def height : Json → Nat
  | array items => itemsHeight items
  | object entries => entriesHeight entries
  | null | bool _ | number _ | string _ => 0

/-- The number of levels that the items of an array take. -/
def itemsHeight : List Json → Nat
  | [] => 0
  | item :: rest => max (height item + 1) (itemsHeight rest)

/-- The number of levels that the members of an object take. -/
def entriesHeight : List (String × Json) → Nat
  | [] => 0
  | (_, value) :: rest => max (height value + 1) (entriesHeight rest)

end

mutual

variable [DoubleText]

/-- The number of bytes of the compact encoding. -/
def encodedLength : Json → Nat
  | null => 4
  | bool value => if value then 4 else 5
  | number value => value.text.utf8ByteSize
  | string value => encodedTextLength value
  | array items => 2 + (items.length - 1) + itemsLength items
  | object entries => 2 + (entries.length - 1) + entriesLength entries

/-- The number of bytes of an array's items. -/
def itemsLength : List Json → Nat
  | [] => 0
  | item :: rest => encodedLength item + itemsLength rest

/-- The number of bytes of an object's members. -/
def entriesLength : List (String × Json) → Nat
  | [] => 0
  | (key, value) :: rest => encodedTextLength key + 1 + encodedLength value + entriesLength rest

end

mutual

/-- Equality of values, in which the members of an object have no order. -/
def equal : Json → Json → Bool
  | null, null => true
  | bool left, bool right => left == right
  | number left, number right => left.equal right
  | string left, string right => left == right
  | array left, array right => itemsEqual left right
  | object left, object right => left.length == right.length && entriesIncluded left right
  | _, _ => false

/-- Equality of arrays. -/
def itemsEqual : List Json → List Json → Bool
  | [], [] => true
  | left :: lefts, right :: rights => equal left right && itemsEqual lefts rights
  | _, _ => false

/-- Whether an object has equal values for all members of another one. -/
def entriesIncluded : List (String × Json) → List (String × Json) → Bool
  | [], _ => true
  | (key, value) :: rest, others =>
    (others.lookup key).any (fun other => equal value other) && entriesIncluded rest others

end

/-- All objects of a value have distinct keys. -/
inductive Keyed : Json → Prop where
  | null : Keyed null
  | bool {value : Bool} : Keyed (bool value)
  | number {value : Number} : Keyed (number value)
  | string {value : String} : Keyed (string value)
  | array {items : List Json} (each : ∀ item ∈ items, Keyed item) : Keyed (array items)
  | object {entries : List (String × Json)} (distinct : (keysOf entries).Nodup)
      (each : ∀ entry ∈ entries, Keyed entry.2) : Keyed (object entries)

/-- Two values that differ only in the order of object members, and in numbers that count as the same. -/
inductive Alike (same : Number → Number → Prop) : Json → Json → Prop where
  | null : Alike same null null
  | bool {value : Bool} : Alike same (bool value) (bool value)
  | number {left right : Number} (numbers : same left right) : Alike same (number left) (number right)
  | string {value : String} : Alike same (string value) (string value)
  | array {left right : List Json} (length : left.length = right.length)
      (each : ∀ (index : Nat) (item other : Json), left[index]? = some item →
        right[index]? = some other → Alike same item other) : Alike same (array left) (array right)
  | object {left right : List (String × Json)} (keys : (keysOf left).Perm (keysOf right))
      (each : ∀ (key : String) (item other : Json), left.lookup key = some item →
        right.lookup key = some other → Alike same item other) : Alike same (object left) (object right)

/-- Two values that differ only in the order of object members. -/
abbrev Reorders : Json → Json → Prop := Alike (· = ·)

end Json

/-- A JSON value, whose objects have distinct keys as those of `serde_json::Value` do. -/
structure JsonValue where
  json : Json
  keyed : json.Keyed

/-- The greatest magnitude of a decimal exponent. -/
def maxNumericExponentMagnitude : Nat := 1000000

/-- A decimal number without needless zeros. -/
structure SchemaDecimal where
  negative : Bool
  digits : List Char
  exponent : Int
  deriving DecidableEq

/-- An integer that fits `i64`. -/
def checkedI64 (value : Int) : Option Int :=
  if -2 ^ 63 ≤ value ∧ value < 2 ^ 63 then some value else none

/-- `str::split_once` at a character. -/
def splitOnce (delimiter : Char) : List Char → Option (List Char × List Char)
  | [] => none
  | character :: rest =>
    if character = delimiter then some ([], rest)
    else (splitOnce delimiter rest).map fun parts => (character :: parts.1, parts.2)

/-- `str::parse::<i64>`. -/
def parseI64 (text : List Char) : Option Int :=
  let (negative, digits) := match text with
    | '-' :: rest => (true, rest)
    | '+' :: rest => (false, rest)
    | _ => (false, text)
  if digits = [] ∨ !digits.all isAsciiDigit then none
  else
    let magnitude : Nat := digits.foldl (fun value digit => value * 10 + (digit.toNat - 48)) 0
    checkedI64 (if negative then -(magnitude : Int) else magnitude)

/-- The decimal that a number's text denotes. -/
def schemaDecimal (value : List Char) : Option SchemaDecimal := do
  let (negative, unsigned) := match value with
    | '-' :: rest => (true, rest)
    | _ => (false, value)
  let (mantissa, exponent) ← match (splitOnce 'e' unsigned).or (splitOnce 'E' unsigned) with
    | some (mantissa, exponent) => (parseI64 exponent).map fun exponent => (mantissa, exponent)
    | none => some (unsigned, 0)
  if exponent.natAbs > maxNumericExponentMagnitude then none
  let (whole, fractional) := (splitOnce '.' mantissa).getD (mantissa, [])
  let digits := whole ++ fractional
  if !digits.all isAsciiDigit then none
  match digits.dropWhile (· == '0') with
  | [] => return ⟨false, ['0'], 0⟩
  | first :: rest =>
    let shift ← checkedI64 fractional.length
    let shifted ← checkedI64 (exponent - shift)
    let trimmed := (first :: rest).rdropWhile (· == '0')
    let exponent ← checkedI64 (shifted + (first :: rest).length - trimmed.length)
    return ⟨negative, trimmed, exponent⟩

/-- The order of two decimals without their signs. -/
def compareDecimalMagnitude (left right : SchemaDecimal) : Option Ordering := do
  let leftLength ← checkedI64 left.digits.length
  let leftMagnitude ← checkedI64 (leftLength + left.exponent)
  let rightLength ← checkedI64 right.digits.length
  let rightMagnitude ← checkedI64 (rightLength + right.exponent)
  match compare leftMagnitude rightMagnitude with
  | .eq =>
    let width := max left.digits.length right.digits.length
    let padded (digits : List Char) : List Char := digits ++ .replicate (width - digits.length) '0'
    return compare (padded left.digits) (padded right.digits)
  | ordering => return ordering

variable [DoubleText]

/-- The order of two numbers, where both have a bounded decimal. -/
def compareSchemaNumbers (left right : Number) : Option Ordering := do
  let left ← schemaDecimal left.text.toList
  let right ← schemaDecimal right.text.toList
  if left.negative ≠ right.negative then
    return if left.negative then .lt else .gt
  let ordering ← compareDecimalMagnitude left right
  return if left.negative then ordering.swap else ordering

end AgentMod
