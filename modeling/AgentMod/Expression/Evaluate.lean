import AgentMod.Expression.Syntax

/-! Evaluation of parsed expressions against a JSON environment. -/

namespace AgentMod

/-- The double closest to a natural number, with ties to the even mantissa. -/
def natToDouble (value : Nat) : BitVec 64 :=
  if value = 0 then 0 else
  let exponent := Nat.log2 value
  let mantissa :=
    if exponent ≤ 52 then value * 2 ^ (52 - exponent)
    else
      let unit := 2 ^ (exponent - 52)
      let quotient := value / unit
      let rest := value % unit
      if 2 * rest > unit ∨ (2 * rest = unit ∧ quotient % 2 = 1) then quotient + 1 else quotient
  -- A mantissa rounded up to the next power of two carries into the exponent field.
  BitVec.ofNat 64 ((exponent + 1022) * 2 ^ 52 + mantissa)

/-- `Number::as_f64`, as the bits of the double. -/
def Number.asF64 : Number → BitVec 64
  | .posInt value _ => natToDouble value
  | .negInt value _ => natToDouble value.natAbs ||| (1#64 <<< 63)
  | .float bits _ => bits

/-- The integer by which `f64::total_cmp` orders doubles. -/
def totalKey (bits : BitVec 64) : Int :=
  (bits ^^^ (bits.sshiftRight 63 >>> 1)).toInt

/-- Compares two numbers, exactly where both fit one integer type. -/
def compareNumbers (left right : Number) : Ordering :=
  match left.asI64, right.asI64 with
  | some left, some right => compare left right
  | _, _ =>
    match left.asU64, right.asU64 with
    | some left, some right => compare left right
    | _, _ => compare (totalKey left.asF64) (totalKey right.asF64)

/-- A scalar that an operand resolves to. -/
inductive Resolved where
  | null
  | boolean (value : Bool)
  | number (value : Number)
  | string (value : String)
  deriving DecidableEq

/-- The name of a resolved scalar's type. -/
def Resolved.kind : Resolved → String
  | .null => "null"
  | .boolean _ => "boolean"
  | .number _ => "number"
  | .string _ => "string"

/-- Descends one segment into a JSON value. -/
def lookupSegment (current : Json) : PathSegment → Option Json
  | .key key =>
    match current with
    | .object entries => entries.lookup key
    | _ => none
  | .index position =>
    match current with
    | .array items => items[position]?
    | _ => none

/-- Follows a path from the environment's root. -/
def lookup (environment : Json) (path : EnvironmentPath) : Option Json :=
  path.segments.foldlM lookupSegment environment

/-- The scalar an operand stands for. -/
def resolveOperand (operand : Operand) (environment : Json) : Except EvaluationError Resolved :=
  match operand with
  | .literal .null => .ok .null
  | .literal (.boolean value) => .ok (.boolean value)
  | .literal (.number value) => .ok (.number value)
  | .literal (.string value) => .ok (.string value)
  | .path path =>
    match lookup environment path with
    | none => .error (.missingPath path.toText)
    | some .null => .ok .null
    | some (.bool value) => .ok (.boolean value)
    | some (.number value) => .ok (.number value)
    | some (.string value) => .ok (.string value)
    | some (.array _) => .error (.expectedBoolean "array")
    | some (.object _) => .error (.expectedBoolean "object")

/-- Whether two scalars are equal. -/
def equalValues : Resolved → Resolved → Bool
  | .null, .null => true
  | .boolean left, .boolean right => left == right
  | .number left, .number right => compareNumbers left right == .eq
  | .string left, .string right => left == right
  | _, _ => false

/-- The order of two scalars of a type that has one. -/
def orderingOf : Resolved → Resolved → Option Ordering
  | .number left, .number right => some (compareNumbers left right)
  | .string left, .string right => some (compare left right)
  | _, _ => none

/-- Applies a comparison operator to two scalars. -/
def compareResolved (left : Resolved) (operator : ComparisonOperator) (right : Resolved) :
    Except EvaluationError Bool :=
  if left.kind ≠ right.kind then .error (.typeMismatch left.kind right.kind) else
  let ordered (test : Ordering → Bool) : Except EvaluationError Bool :=
    okOr ((orderingOf left right).map test) (.unsupportedOrdering left.kind)
  match operator with
  | .equal => .ok (equalValues left right)
  | .notEqual => .ok !(equalValues left right)
  | .less => ordered (· == .lt)
  | .lessOrEqual => ordered (· != .gt)
  | .greater => ordered (· == .gt)
  | .greaterOrEqual => ordered (· != .lt)

/-- Evaluates the expression against a JSON-like immutable environment. -/
def Expression.evaluate (environment : Json) : Expression → Except EvaluationError Bool
  | .value operand => do
    match ← resolveOperand operand environment with
    | .boolean truth => return truth
    | other => .error (.expectedBoolean other.kind)
  | .not inner => do return !(← inner.evaluate environment)
  | .and left right => do
    if ← left.evaluate environment then right.evaluate environment else return false
  | .or left right => do
    if ← left.evaluate environment then return true else right.evaluate environment
  | .compare left operator right => do
    compareResolved (← resolveOperand left environment) operator (← resolveOperand right environment)
  | .existsPath path => .ok (lookup environment path).isSome

end AgentMod
