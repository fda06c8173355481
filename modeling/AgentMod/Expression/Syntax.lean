import AgentMod.Primitives.Text

/-! Values, expressions and failures of the constrained expression language. -/

namespace AgentMod

/-- Whether a bit pattern is a finite IEEE 754 double. -/
def isFiniteDouble (bits : BitVec 64) : Bool :=
  (bits >>> 52) &&& 0x7ff#64 != 0x7ff#64

theorem one_lt_word : 1 < 2 ^ 64 := by decide

/-- A JSON number: an unsigned integer, a negative integer or a finite double. -/
inductive Number where
  | posInt (value : Nat) (bounded : value < 2 ^ 64)
  | negInt (value : Int) (bounded : -2 ^ 63 ≤ value ∧ value < 0)
  | float (bits : BitVec 64) (finite : isFiniteDouble bits)
  deriving DecidableEq

/-- A JSON value. -/
inductive Json where
  /-- `null`. -/
  | null
  | bool (value : Bool)
  | number (value : Number)
  | string (value : String)
  | array (items : List Json)
  | object (entries : List (String × Json))

namespace Json

/-- `Value::get` at a key of an object. -/
def get? (key : String) : Json → Option Json
  | object entries => entries.lookup key
  | _ => none

/-- `Value::as_str`. -/
def asStr? : Json → Option String
  | string value => some value
  | _ => none

/-- `Value::as_array`. -/
def asArray? : Json → Option (List Json)
  | array items => some items
  | _ => none

/-- `Value::as_u64`. -/
def asU64? : Json → Option Nat
  | number (.posInt value _) => some value
  | _ => none

/-- `Value::as_i64`. -/
def asI64? : Json → Option Int
  | number (.posInt value _) => if value < 2 ^ 63 then some value else none
  | number (.negInt value _) => some value
  | _ => none

/-- `Value::as_object`. -/
def asObject? : Json → Option (List (String × Json))
  | object entries => some entries
  | _ => none

end Json

/-- Parser resource limits. -/
structure ExpressionLimits where
  maxInputBytes : Nat
  maxDepth : Nat
  maxNodes : Nat
  maxStringBytes : Nat
  maxPathSegments : Nat
  deriving DecidableEq

/-- The limits used unless a caller chooses others. -/
def ExpressionLimits.default : ExpressionLimits where
  maxInputBytes := 16 * 1024
  maxDepth := 64
  maxNodes := 1024
  maxStringBytes := 4 * 1024
  maxPathSegments := 64

/-- A deterministic literal. -/
inductive Literal where
  | null
  | boolean (value : Bool)
  | number (value : Number)
  | string (value : String)
  deriving DecidableEq

/-- Comparison operators. -/
inductive ComparisonOperator where
  | equal
  | notEqual
  | less
  | lessOrEqual
  | greater
  | greaterOrEqual
  deriving DecidableEq

/-- One environment path segment. -/
inductive PathSegment where
  | key (name : String)
  | index (position : Nat)
  deriving DecidableEq

/-- A bounded path into a JSON-like environment. -/
structure EnvironmentPath where
  segments : List PathSegment
  deriving DecidableEq

/-- An expression operand. -/
inductive Operand where
  | literal (literal : Literal)
  | path (path : EnvironmentPath)
  deriving DecidableEq

/-- A parsed expression. -/
inductive Expression where
  | value (operand : Operand)
  | not (inner : Expression)
  | and (left right : Expression)
  | or (left right : Expression)
  | compare (left : Operand) (operator : ComparisonOperator) (right : Operand)
  | existsPath (path : EnvironmentPath)
  deriving DecidableEq

/-- Deterministic parse failure. -/
inductive ParseError where
  | inputTooLong (actual maximum : Nat)
  | invalidLimits
  | stringTooLong (position maximum : Nat)
  | unterminatedString (position : Nat)
  | invalidString (position : Nat)
  | invalidNumber (position : Nat)
  | unexpectedCharacter (position : Nat) (character : Char)
  | unexpectedToken (position : Nat) (expected found : String)
  | trailingInput (position : Nat)
  | nodeLimitExceeded (maximum : Nat)
  | depthExceeded (maximum : Nat)
  | pathSegmentsExceeded (position maximum : Nat)
  | invalidArrayIndex (position : Nat)
  deriving DecidableEq, Repr

/-- Deterministic evaluation failure. -/
inductive EvaluationError where
  | missingPath (path : String)
  | expectedBoolean (actual : String)
  | typeMismatch (left right : String)
  | unsupportedOrdering (actual : String)
  deriving DecidableEq, Repr

/-- The stable text of a path: keys after the first behind a dot, indices in brackets. -/
def EnvironmentPath.toText (path : EnvironmentPath) : String :=
  let segment : PathSegment × Nat → String
    | (.key key, 0) => key
    | (.key key, _ + 1) => "." ++ key
    | (.index position, _) => "[" ++ toString position ++ "]"
  String.join (path.segments.zipIdx.map segment)

/-- `Number::as_u64`. -/
def Number.asU64 : Number → Option Nat
  | .posInt value _ => some value
  | .negInt _ _ => none
  | .float _ _ => none

/-- `Number::as_i64`. -/
def Number.asI64 : Number → Option Int
  | .posInt value _ => if value < 2 ^ 63 then some value else none
  | .negInt value _ => some value
  | .float _ _ => none

/-- The depth of an expression's tree. -/
def expressionDepth : Expression → Nat
  | .value _ | .compare _ _ _ | .existsPath _ => 1
  | .not inner => 1 + expressionDepth inner
  | .and left right | .or left right => 1 + max (expressionDepth left) (expressionDepth right)

end AgentMod
