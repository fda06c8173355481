import AgentMod.Expression.Syntax

/-! The lexer turns source text into positioned tokens. -/

namespace AgentMod

/-- The `serde_json` readers that the lexer hands string and number literals to. -/
class SerdeJson where
  /-- `serde_json::from_str::<String>`, without its error. -/
  stringFromStr : List Char → Option String
  /-- `serde_json::from_str::<Number>`, without its error. -/
  numberFromStr : List Char → Option Number

/-- The kinds of tokens, with the payload of those that have one. -/
inductive TokenKind where
  | identifier (name : String)
  | string (value : String)
  | number (value : Number)
  | true
  | false
  | null
  | exists_
  | and
  | or
  | equal
  | notEqual
  | less
  | lessOrEqual
  | greater
  | greaterOrEqual
  | bang
  | leftParen
  | rightParen
  | dot
  | leftBracket
  | rightBracket
  | finish
  deriving DecidableEq

/-- A token and the byte it starts at. -/
structure Token where
  kind : TokenKind
  position : Nat
  deriving DecidableEq

/-- The deterministic description of a token kind in error texts. -/
def TokenKind.description : TokenKind → String
  | .identifier name => "identifier \x60" ++ name ++ "\x60"
  | .string _ => "string"
  | .number _ => "number"
  | .true => "\x60true\x60"
  | .false => "\x60false\x60"
  | .null => "\x60null\x60"
  | .exists_ => "\x60exists\x60"
  | .and => "\x60&&\x60"
  | .or => "\x60||\x60"
  | .equal => "\x60==\x60"
  | .notEqual => "\x60!=\x60"
  | .less => "\x60<\x60"
  | .lessOrEqual => "\x60<=\x60"
  | .greater => "\x60>\x60"
  | .greaterOrEqual => "\x60>=\x60"
  | .bang => "\x60!\x60"
  | .leftParen => "\x60(\x60"
  | .rightParen => "\x60)\x60"
  | .dot => "\x60.\x60"
  | .leftBracket => "\x60[\x60"
  | .rightBracket => "\x60]\x60"
  | .finish => "end of input"

/-- A lexer over a source, at a byte offset. -/
structure Lexer where
  source : List Char
  offset : Nat
  limits : ExpressionLimits

namespace Lexer

/-- The loops that advance over the characters a test keeps. -/
def advanceWhile (keep : Char → Bool) : Nat → Lexer → Fallible ParseError Lexer
  | 0, _ => .error .fuel
  | fuel + 1, lexer => do
    match ← sliceFrom lexer.source lexer.offset with
    | [] => return lexer
    | character :: _ =>
      if keep character then
        advanceWhile keep fuel { lexer with offset := lexer.offset + character.utf8Size }
      else return lexer

/-- Every iteration consumes a character, so one more than their number is enough. -/
def loopFuel (lexer : Lexer) : Nat := lexer.source.length + 1

/-- Advances over white space. -/
def skipWhitespace (lexer : Lexer) : Fallible ParseError Lexer :=
  lexer.advanceWhile isWhitespace lexer.loopFuel

/-- Reads an identifier or a keyword that starts at the given position. -/
def identifierToken (lexer : Lexer) (position : Nat) : Fallible ParseError (Token × Lexer) := do
  let keep character := isAsciiAlphanumeric character || character == '_' || character == '-'
  let lexer ← lexer.advanceWhile keep lexer.loopFuel
  let value ← slice lexer.source position lexer.offset
  let kind :=
    match String.ofList value with
    | "true" => .true
    | "false" => .false
    | "null" => .null
    | "exists" => .exists_
    | name => .identifier name
  return (⟨kind, position⟩, lexer)

/-- The offset behind the closing quote of a string whose remaining bytes are given. -/
def stringEnd : List UInt8 → Bool → Nat → Option Nat
  | [], _, _ => none
  | byte :: rest, escaped, offset =>
    if escaped then stringEnd rest false (offset + 1)
    -- A backslash protects the next byte, and an unprotected quote closes the string.
    else if byte == 92 then stringEnd rest true (offset + 1)
    else if byte == 34 then some (offset + 1)
    else stringEnd rest false (offset + 1)

/-- Reads a string literal that starts at the given position. -/
def stringToken [SerdeJson] (lexer : Lexer) (position : Nat) :
    Fallible ParseError (Token × Lexer) := do
  let remaining := (utf8Bytes lexer.source).drop (lexer.offset + 1)
  match stringEnd remaining false (lexer.offset + 1) with
  | none => reject (.unterminatedString position)
  | some offset =>
    let encoded ← slice lexer.source position offset
    let decoded ← okOr (SerdeJson.stringFromStr encoded) (.error (.invalidString position))
    refuseIf (decoded.utf8ByteSize > lexer.limits.maxStringBytes)
      (.error (.stringTooLong position lexer.limits.maxStringBytes))
    return (⟨.string decoded, position⟩, { lexer with offset })

/-- Reads a number literal that starts at the given position. -/
def numberToken [SerdeJson] (lexer : Lexer) (position : Nat) :
    Fallible ParseError (Token × Lexer) := do
  let keep character := isAsciiDigit character || character == '-' || character == '+' ||
    character == '.' || character == 'e' || character == 'E'
  let lexer ← lexer.advanceWhile keep lexer.loopFuel
  let encoded ← slice lexer.source position lexer.offset
  let number ← okOr (SerdeJson.numberFromStr encoded) (.error (.invalidNumber position))
  return (⟨.number number, position⟩, lexer)

/-- The two-character operators, in the order in which they are tried. -/
def operators : List (String × TokenKind) :=
  [("&&", .and), ("||", .or), ("==", .equal), ("!=", .notEqual), ("<=", .lessOrEqual),
    (">=", .greaterOrEqual)]

/-- The single-character tokens. -/
def punctuation : Char → Option TokenKind
  | '!' => some .bang
  | '<' => some .less
  | '>' => some .greater
  | '(' => some .leftParen
  | ')' => some .rightParen
  | '.' => some .dot
  | '[' => some .leftBracket
  | ']' => some .rightBracket
  | _ => none

/-- Reads the next token, which starts at the lexer's offset. -/
def nextToken [SerdeJson] (lexer : Lexer) : Fallible ParseError (Token × Lexer) := do
  let position := lexer.offset
  let remaining ← sliceFrom lexer.source position
  match operators.find? fun operator => operator.1.toList.isPrefixOf remaining with
  | some (text, kind) =>
    return (⟨kind, position⟩, { lexer with offset := position + text.utf8ByteSize })
  | none =>
    match remaining with
    | [] => .error .panic
    | character :: _ =>
      match punctuation character with
      | some kind =>
        return (⟨kind, position⟩, { lexer with offset := position + character.utf8Size })
      | none =>
        if character == '"' then lexer.stringToken position
        else if character == '-' || isAsciiDigit character then lexer.numberToken position
        else if isAsciiAlphabetic character || character == '_' then
          lexer.identifierToken position
        else reject (.unexpectedCharacter position character)

/-- The loop that collects tokens until the source ends. -/
def collectTokens [SerdeJson] : Nat → Lexer → Fallible ParseError (List Token)
  | 0, _ => .error .fuel
  | fuel + 1, lexer => do
    if lexer.offset < utf8Length lexer.source then
      let lexer ← lexer.skipWhitespace
      if lexer.offset = utf8Length lexer.source then return []
      let (token, lexer) ← lexer.nextToken
      let rest ← collectTokens fuel lexer
      return token :: rest
    else return []

/-- Turns the whole source into tokens behind which an end marker stands. -/
def tokenize [SerdeJson] (lexer : Lexer) : Fallible ParseError (List Token) := do
  let tokens ← lexer.collectTokens lexer.loopFuel
  return tokens ++ [⟨.finish, utf8Length lexer.source⟩]

end Lexer

end AgentMod
