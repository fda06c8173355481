import AgentMod.Expression.Parser

/-! The expression grammar as derivations, and the sizes that parser limits bound. -/

namespace AgentMod

namespace Grammar

/-- The keys and indices that follow the first name of a path. -/
inductive PathTail : List TokenKind → List PathSegment → Prop where
  | done : PathTail [] []
  | key {name : String} {kinds : List TokenKind} {segments : List PathSegment}
      (rest : PathTail kinds segments) :
      PathTail (.dot :: .identifier name :: kinds) (.key name :: segments)
  | index {number : Number} {position : Nat} {kinds : List TokenKind}
      {segments : List PathSegment} (unsigned : number.asU64 = some position)
      (rest : PathTail kinds segments) :
      PathTail (.leftBracket :: .number number :: .rightBracket :: kinds)
        (.index position :: segments)

/-- A path is a name and its tail. -/
inductive PathRule : List TokenKind → EnvironmentPath → Prop where
  | path {name : String} {kinds : List TokenKind} {segments : List PathSegment}
      (tail : PathTail kinds segments) :
      PathRule (.identifier name :: kinds) ⟨.key name :: segments⟩

/-- The token kinds of literals. -/
def literalOf : TokenKind → Option Literal
  | .true => some (.boolean true)
  | .false => some (.boolean false)
  | .null => some .null
  | .string value => some (.string value)
  | .number value => some (.number value)
  | _ => none

/-- An operand is a literal or a path. -/
inductive OperandRule : List TokenKind → Operand → Prop where
  | literal {kind : TokenKind} {literal : Literal} (spelled : literalOf kind = some literal) :
      OperandRule [kind] (.literal literal)
  | path {kinds : List TokenKind} {path : EnvironmentPath} (rule : PathRule kinds path) :
      OperandRule kinds (.path path)

/-- The nonterminals; a tail carries the expression that stands to its left. -/
inductive Nonterminal where
  | or
  | orTail (left : Expression)
  | and
  | andTail (left : Expression)
  | unary
  | primary

/-- Derivations, with the tree that each builds: repetitions associate to the left. -/
inductive Derives : Nonterminal → List TokenKind → Expression → Prop where
  | or {first rest : List TokenKind} {left result : Expression}
      (head : Derives .and first left) (tail : Derives (.orTail left) rest result) :
      Derives .or (first ++ rest) result
  | orDone {left : Expression} : Derives (.orTail left) [] left
  | orMore {first rest : List TokenKind} {left right result : Expression}
      (head : Derives .and first right) (tail : Derives (.orTail (.or left right)) rest result) :
      Derives (.orTail left) (.or :: first ++ rest) result
  | and {first rest : List TokenKind} {left result : Expression}
      (head : Derives .unary first left) (tail : Derives (.andTail left) rest result) :
      Derives .and (first ++ rest) result
  | andDone {left : Expression} : Derives (.andTail left) [] left
  | andMore {first rest : List TokenKind} {left right result : Expression}
      (head : Derives .unary first right)
      (tail : Derives (.andTail (.and left right)) rest result) :
      Derives (.andTail left) (.and :: first ++ rest) result
  | not {kinds : List TokenKind} {inner : Expression} (rule : Derives .unary kinds inner) :
      Derives .unary (.bang :: kinds) (.not inner)
  | primary {kinds : List TokenKind} {result : Expression} (rule : Derives .primary kinds result) :
      Derives .unary kinds result
  | paren {kinds : List TokenKind} {inner : Expression} (rule : Derives .or kinds inner) :
      Derives .primary (.leftParen :: kinds ++ [.rightParen]) inner
  | existsPath {kinds : List TokenKind} {path : EnvironmentPath} (rule : PathRule kinds path) :
      Derives .primary (.exists_ :: .leftParen :: kinds ++ [.rightParen]) (.existsPath path)
  | compare {lefts rights : List TokenKind} {kind : TokenKind} {operator : ComparisonOperator}
      {left right : Operand} (before : OperandRule lefts left)
      (compared : Parser.comparison kind = some operator) (after : OperandRule rights right) :
      Derives .primary (lefts ++ kind :: rights) (.compare left operator right)
  | value {kinds : List TokenKind} {operand : Operand} (rule : OperandRule kinds operand) :
      Derives .primary kinds (.value operand)

/-- A token list that the grammar derives: an expression, and the end marker behind it. -/
def Derivable (tokens : List Token) (result : Expression) : Prop :=
  ∃ kinds, tokens.map Token.kind = kinds ++ [.finish] ∧ Derives .or kinds result

end Grammar

/-- The number of nodes of an expression's tree. -/
def Expression.nodeCount : Expression → Nat
  | .value _ | .compare _ _ _ | .existsPath _ => 1
  | .not inner => inner.nodeCount + 1
  | .and left right | .or left right => left.nodeCount + right.nodeCount + 1

/-- The operands of an expression. -/
def Expression.operands : Expression → List Operand
  | .value operand => [operand]
  | .compare left _ right => [left, right]
  | .existsPath path => [.path path]
  | .not inner => inner.operands
  | .and left right | .or left right => left.operands ++ right.operands

/-- An operand whose path or string respects the limits. -/
def Operand.Within (limits : ExpressionLimits) : Operand → Prop
  | .literal (.string value) => value.utf8ByteSize ≤ limits.maxStringBytes
  | .literal _ => True
  | .path selected => selected.segments.length ≤ limits.maxPathSegments

/-- An expression all of whose sizes respect the limits. -/
structure Expression.Within (limits : ExpressionLimits) (expression : Expression) : Prop where
  depth : expressionDepth expression ≤ limits.maxDepth
  nodes : expression.nodeCount ≤ limits.maxNodes
  operands : ∀ operand ∈ expression.operands, operand.Within limits

/-- The failures that report an exceeded limit and say nothing about the grammar. -/
def ParseError.LimitExceeded : ParseError → Prop
  | .inputTooLong _ _ | .invalidLimits | .stringTooLong _ _ | .nodeLimitExceeded _
  | .depthExceeded _ | .pathSegmentsExceeded _ _ => True
  | _ => False

/-- Limits that neither a source nor any tree over its tokens can exceed. -/
structure ExpressionLimits.Suffices (limits : ExpressionLimits) (source : String)
    (tokens : List Token) : Prop where
  input : source.utf8ByteSize ≤ limits.maxInputBytes
  depth : tokens.length ≤ limits.maxDepth
  nodes : tokens.length ≤ limits.maxNodes
  segments : tokens.length ≤ limits.maxPathSegments

end AgentMod
