import AgentMod.Expression.Lexer

/-! The recursive-descent parser of the expression language. -/

namespace AgentMod

/-- The parser's mutable state: the tokens from its index on, and the nodes built so far. -/
structure Parser where
  tokens : List Token
  nodes : Nat

/-- A parsing step, which may move the parser forward. -/
abbrev Parsing (α : Type) := StateT Parser (Except (Halt ParseError)) α

namespace Parser

/-- The token at the parser's index. -/
def current : Parsing Token := fun parser =>
  match parser.tokens with
  | [] => .error .panic
  | token :: _ => .ok (token, parser)

/-- Moves to the next token. -/
def advance : Parsing Unit := fun parser =>
  .ok ((), { parser with tokens := parser.tokens.tail })

/-- Fails with a parse error. -/
def fail {α : Type} (error : ParseError) : Parsing α := fun _ => reject error

/-- Fails because the current token is not the expected one. -/
def unexpected {α : Type} (expected : String) : Parsing α := do
  let token ← current
  fail (.unexpectedToken token.position expected token.kind.description)

/-- Consumes a token of exactly the given kind. -/
def expect (expected : TokenKind) (description : String) : Parsing Unit := do
  let token ← current
  if token.kind = expected then advance else unexpected description

/-- Checks that only the end marker remains. -/
def expectEnd : Parsing Unit := do
  let token ← current
  if token.kind = .finish then return () else fail (.trailingInput token.position)

/-- Counts one more AST node. -/
def node (limits : ExpressionLimits) (expression : Expression) : Parsing Expression := fun parser =>
  let parser := { parser with nodes := parser.nodes + 1 }
  if parser.nodes > limits.maxNodes then reject (.nodeLimitExceeded limits.maxNodes)
  else .ok (expression, parser)

/-- Checks the nesting of the construct being parsed. -/
def ensureDepth (limits : ExpressionLimits) (depth : Nat) : Parsing Unit :=
  if depth > limits.maxDepth then fail (.depthExceeded limits.maxDepth) else return ()

/-- The loop that extends a path by keys and indices. -/
def parsePathSegments (limits : ExpressionLimits) (start : Nat) :
    Nat → List PathSegment → Parsing (List PathSegment)
  | 0, _ => fun _ => .error .fuel
  | fuel + 1, segments => do
    let checked (segments : List PathSegment) : Parsing (List PathSegment) :=
      if segments.length > limits.maxPathSegments then
        fail (.pathSegmentsExceeded start limits.maxPathSegments)
      else parsePathSegments limits start fuel segments
    match (← current).kind with
    | .dot =>
      advance
      match (← current).kind with
      | .identifier key =>
        advance
        checked (segments ++ [.key key])
      | _ => unexpected "a path key"
    | .leftBracket =>
      advance
      let token ← current
      match token.kind with
      | .number number =>
        match number.asU64 with
        | none => fail (.invalidArrayIndex token.position)
        | some index =>
          advance
          expect .rightBracket "\x60]\x60"
          checked (segments ++ [.index index])
      | _ => unexpected "an array index"
    | _ => return segments

/-- Parses a path; each of its loop's iterations consumes a token. -/
def parsePath (limits : ExpressionLimits) : Parsing EnvironmentPath := do
  let start ← current
  match start.kind with
  | .identifier key =>
    advance
    let segments ← fun parser =>
      parsePathSegments limits start.position (parser.tokens.length + 1) [.key key] parser
    return ⟨segments⟩
  | _ => unexpected "a path"

/-- Parses a literal or a path. -/
def parseOperand (limits : ExpressionLimits) : Parsing Operand := do
  let literal (literal : Literal) : Parsing Operand := do
    advance
    return .literal literal
  match (← current).kind with
  | .true => literal (.boolean true)
  | .false => literal (.boolean false)
  | .null => literal .null
  | .string value => literal (.string value)
  | .number value => literal (.number value)
  | .identifier _ => return .path (← parsePath limits)
  | _ => unexpected "an operand"

/-- The comparison a token kind stands for. -/
def comparison : TokenKind → Option ComparisonOperator
  | .equal => some .equal
  | .notEqual => some .notEqual
  | .less => some .less
  | .lessOrEqual => some .lessOrEqual
  | .greater => some .greater
  | .greaterOrEqual => some .greaterOrEqual
  | _ => none

/-- Parses an operand and the comparison that may follow it. -/
def parseComparison (limits : ExpressionLimits) : Parsing Expression := do
  let left ← parseOperand limits
  match comparison (← current).kind with
  | some operator =>
    advance
    let right ← parseOperand limits
    node limits (.compare left operator right)
  | none => node limits (.value left)

/-- Parses an existence check behind its keyword. -/
def parseExists (limits : ExpressionLimits) : Parsing Expression := do
  advance
  expect .leftParen "\x60(\x60"
  let path ← parsePath limits
  expect .rightParen "\x60)\x60"
  node limits (.existsPath path)

mutual

/-- Parses a disjunction. -/
def parseOr (limits : ExpressionLimits) : Nat → Nat → Parsing Expression
  | 0, _ => fun _ => .error .fuel
  | fuel + 1, depth => do
    ensureDepth limits depth
    let expression ← parseAnd limits fuel depth
    parseOrLoop limits fuel depth expression

/-- The loop that extends a disjunction to the right. -/
def parseOrLoop (limits : ExpressionLimits) : Nat → Nat → Expression → Parsing Expression
  | 0, _, _ => fun _ => .error .fuel
  | fuel + 1, depth, expression => do
    if (← current).kind = .or then
      advance
      let right ← parseAnd limits fuel depth
      let expression ← node limits (.or expression right)
      parseOrLoop limits fuel depth expression
    else return expression

/-- Parses a conjunction. -/
def parseAnd (limits : ExpressionLimits) : Nat → Nat → Parsing Expression
  | 0, _ => fun _ => .error .fuel
  | fuel + 1, depth => do
    let expression ← parseUnary limits fuel depth
    parseAndLoop limits fuel depth expression

/-- The loop that extends a conjunction to the right. -/
def parseAndLoop (limits : ExpressionLimits) : Nat → Nat → Expression → Parsing Expression
  | 0, _, _ => fun _ => .error .fuel
  | fuel + 1, depth, expression => do
    if (← current).kind = .and then
      advance
      let right ← parseUnary limits fuel depth
      let expression ← node limits (.and expression right)
      parseAndLoop limits fuel depth expression
    else return expression

/-- Parses a negation or a primary expression. -/
def parseUnary (limits : ExpressionLimits) : Nat → Nat → Parsing Expression
  | 0, _ => fun _ => .error .fuel
  | fuel + 1, depth => do
    ensureDepth limits depth
    if (← current).kind = .bang then
      advance
      let expression ← parseUnary limits fuel (depth + 1)
      node limits (.not expression)
    else parsePrimary limits fuel depth

/-- Parses a parenthesised expression, an existence check or a comparison. -/
def parsePrimary (limits : ExpressionLimits) : Nat → Nat → Parsing Expression
  | 0, _ => fun _ => .error .fuel
  | fuel + 1, depth => do
    let token ← current
    if token.kind = .leftParen then
      advance
      let expression ← parseOr limits fuel (depth + 1)
      expect .rightParen "\x60)\x60"
      return expression
    else if token.kind = .exists_ then parseExists limits
    else parseComparison limits

end

/-- Four nested calls pass between two consumed tokens. -/
def loopFuel (tokens : List Token) : Nat := 4 * tokens.length + 4

/-- Parses a complete expression at the outermost depth. -/
def parseExpression (limits : ExpressionLimits) : Parsing Expression := fun parser =>
  parseOr limits (loopFuel parser.tokens) 1 parser

end Parser

/-- Parses a bounded expression with explicit limits. -/
def Expression.parse [SerdeJson] (source : String) (limits : ExpressionLimits) :
    Fallible ParseError Expression := do
  refuseIf (source.utf8ByteSize > limits.maxInputBytes)
    (.error (.inputTooLong source.utf8ByteSize limits.maxInputBytes))
  refuseIf (limits.maxNodes = 0 ∨ limits.maxDepth = 0 ∨ limits.maxPathSegments = 0)
    (.error .invalidLimits)
  let tokens ← Lexer.tokenize ⟨source.toList, 0, limits⟩
  let (expression, parser) ← Parser.parseExpression limits ⟨tokens, 0⟩
  let _ ← Parser.expectEnd parser
  refuseIf (expressionDepth expression > limits.maxDepth) (.error (.depthExceeded limits.maxDepth))
  return expression

end AgentMod
