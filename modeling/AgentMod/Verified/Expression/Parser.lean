import AgentMod.Expression.Grammar
import AgentMod.Expression.Lexer

/-! Whatever the parser returns is derived by the grammar and within the parser's limits. -/

namespace AgentMod

/-- A token kind whose string, if it is one, respects the limits. -/
def TokenKind.Within (limits : ExpressionLimits) (kind : TokenKind) : Prop :=
  ∀ value, kind = .string value → value.utf8ByteSize ≤ limits.maxStringBytes

/-- A token kind within the limits that may stand before the end marker. -/
def TokenKind.Ordinary (limits : ExpressionLimits) (kind : TokenKind) : Prop :=
  kind ≠ .finish ∧ kind.Within limits

namespace Lexer

theorem advanceWhile_limits {keep : Char → Bool} {fuel : Nat} {lexer result : Lexer}
    (advanced : lexer.advanceWhile keep fuel = .ok result) :
    result.limits = lexer.limits ∧ result.source = lexer.source := by
  -- Each iteration moves the offset of an otherwise equal lexer.
  induction fuel generalizing lexer with
  | zero => simp [advanceWhile] at advanced
  | succ fuel ih =>
    simp only [advanceWhile, bind_eq_ok] at advanced
    obtain ⟨remaining, _, advanced⟩ := advanced
    cases remaining with
    | nil => simp only [pure_eq_ok] at advanced; exact advanced ▸ ⟨rfl, rfl⟩
    | cons character rest =>
      by_cases kept : keep character
      · simp only [kept, if_true] at advanced
        have later := ih advanced
        exact later
      · simp only [kept, if_false, pure_eq_ok, Bool.false_eq_true] at advanced
        exact advanced ▸ ⟨rfl, rfl⟩

theorem identifierToken_ordinary {lexer result : Lexer} {position : Nat} {token : Token}
    (read : lexer.identifierToken position = .ok (token, result)) :
    token.kind.Ordinary lexer.limits ∧ result.limits = lexer.limits := by
  simp only [identifierToken, bind_eq_ok, pure_eq_ok, Prod.mk.injEq] at read
  obtain ⟨advanced, moved, value, _, rfl, rfl⟩ := read
  refine ⟨?_, (advanceWhile_limits moved).1⟩
  -- None of the five spellings is the end marker or a string.
  simp only [TokenKind.Ordinary, TokenKind.Within]
  split <;> simp

theorem stringToken_ordinary [SerdeJson] {lexer result : Lexer} {position : Nat} {token : Token}
    (read : lexer.stringToken position = .ok (token, result)) :
    token.kind.Ordinary lexer.limits ∧ result.limits = lexer.limits := by
  simp only [stringToken] at read
  split at read
  · simp at read
  · simp only [bind_eq_ok, okOr_eq_ok, refuseIf_eq_ok, pure_eq_ok, exists_unit,
      Prod.mk.injEq] at read
    obtain ⟨_, _, decoded, _, small, rfl, rfl⟩ := read
    exact ⟨⟨by simp, by simpa [TokenKind.Within] using small⟩, rfl⟩

theorem numberToken_ordinary [SerdeJson] {lexer result : Lexer} {position : Nat} {token : Token}
    (read : lexer.numberToken position = .ok (token, result)) :
    token.kind.Ordinary lexer.limits ∧ result.limits = lexer.limits := by
  simp only [numberToken, bind_eq_ok, okOr_eq_ok, pure_eq_ok, Prod.mk.injEq] at read
  obtain ⟨advanced, moved, _, _, _, _, rfl, rfl⟩ := read
  exact ⟨by simp [TokenKind.Ordinary, TokenKind.Within], (advanceWhile_limits moved).1⟩

theorem operators_ordinary (limits : ExpressionLimits) :
    ∀ operator ∈ operators, operator.2.Ordinary limits := by
  simp [operators, TokenKind.Ordinary, TokenKind.Within]

theorem punctuation_ordinary (limits : ExpressionLimits) {character : Char} {kind : TokenKind}
    (read : punctuation character = some kind) : kind.Ordinary limits := by
  unfold punctuation at read
  split at read <;> simp_all [TokenKind.Ordinary, TokenKind.Within, eq_comm]

theorem nextToken_ordinary [SerdeJson] {lexer result : Lexer} {token : Token}
    (read : lexer.nextToken = .ok (token, result)) :
    token.kind.Ordinary lexer.limits ∧ result.limits = lexer.limits := by
  -- The cases follow the order in which the lexer tries the token classes.
  simp only [nextToken, bind_eq_ok] at read
  obtain ⟨remaining, _, read⟩ := read
  split at read
  · rename_i text kind found
    simp only [pure_eq_ok, Prod.mk.injEq] at read
    obtain ⟨rfl, rfl⟩ := read
    exact ⟨operators_ordinary lexer.limits (text, kind) (List.mem_of_find?_eq_some found), rfl⟩
  · split at read
    · simp at read
    · split at read
      · rename_i kind found
        simp only [pure_eq_ok, Prod.mk.injEq] at read
        obtain ⟨rfl, rfl⟩ := read
        exact ⟨punctuation_ordinary lexer.limits found, rfl⟩
      · split at read
        · exact stringToken_ordinary read
        · split at read
          · exact numberToken_ordinary read
          · split at read
            · exact identifierToken_ordinary read
            · simp at read

theorem collectTokens_ordinary [SerdeJson] {fuel : Nat} {lexer : Lexer} {tokens : List Token}
    (collected : lexer.collectTokens fuel = .ok tokens) :
    ∀ token ∈ tokens, token.kind.Ordinary lexer.limits := by
  -- Each iteration contributes one token and keeps the limits for the next one.
  induction fuel generalizing lexer tokens with
  | zero => simp [collectTokens] at collected
  | succ fuel ih =>
    simp only [collectTokens] at collected
    split at collected
    · simp only [bind_eq_ok] at collected
      obtain ⟨skipped, moved, collected⟩ := collected
      split at collected
      · simp only [pure_eq_ok] at collected
        simp [← collected]
      · simp only [bind_eq_ok, pure_eq_ok] at collected
        obtain ⟨⟨token, next⟩, read, rest, others, rfl⟩ := collected
        obtain ⟨ordinary, kept⟩ := nextToken_ordinary read
        have limits : skipped.limits = lexer.limits := (advanceWhile_limits moved).1
        intro other member
        rcases List.mem_cons.mp member with rfl | member
        · exact limits ▸ ordinary
        · exact limits ▸ kept ▸ ih others other member
    · simp only [pure_eq_ok] at collected
      simp [← collected]

theorem tokenize_shape [SerdeJson] {lexer : Lexer} {tokens : List Token}
    (lexed : lexer.tokenize = .ok tokens) :
    ∃ body, tokens = body ++ [⟨.finish, utf8Length lexer.source⟩] ∧
      ∀ token ∈ body, token.kind.Ordinary lexer.limits := by
  simp only [tokenize, bind_eq_ok, pure_eq_ok] at lexed
  obtain ⟨body, collected, rfl⟩ := lexed
  exact ⟨body, rfl, collectTokens_ordinary collected⟩

end Lexer

open Grammar

namespace Parser

section Steps

variable {α β : Type} {parser result : Parser}

/-- The kinds of the tokens from the parser's index on. -/
def kinds (parser : Parser) : List TokenKind := parser.tokens.map Token.kind

@[simp] theorem sequence_eq_ok {first : Parsing α} {next : α → Parsing β} {value : β} :
    (first >>= next) parser = .ok (value, result) ↔
      ∃ middle moved, first parser = .ok (middle, moved) ∧ next middle moved = .ok (value, result) := by
  simp only [Bind.bind, StateT.bind]
  cases first parser with
  | error halt => simp [Except.bind]
  | ok pair =>
    obtain ⟨middle, moved⟩ := pair
    simp [Except.bind]

@[simp] theorem return_eq_ok {given value : α} :
    (pure given : Parsing α) parser = .ok (value, result) ↔ given = value ∧ parser = result := by
  -- Both the state and the error layer return without effects.
  show Except.ok (given, parser) = .ok (value, result) ↔ _
  simp

@[simp] theorem fail_eq_ok {error : ParseError} {value : α} :
    fail error parser = .ok (value, result) ↔ False := by
  simp [fail]

@[simp] theorem current_eq_ok {token : Token} :
    current parser = .ok (token, result) ↔
      ∃ rest, parser.tokens = token :: rest ∧ parser = result := by
  unfold current
  cases parser.tokens with
  | nil => simp
  | cons head rest => simp

@[simp] theorem unexpected_eq_ok {expected : String} {value : α} :
    unexpected expected parser = .ok (value, result) ↔ False := by
  simp [unexpected]

@[simp] theorem advance_eq_ok {value : Unit} :
    advance parser = .ok (value, result) ↔ ⟨parser.tokens.tail, parser.nodes⟩ = result := by
  simp [advance]

@[simp] theorem expect_eq_ok {kind : TokenKind} {description : String} {value : Unit} :
    expect kind description parser = .ok (value, result) ↔
      ∃ token rest, parser.tokens = token :: rest ∧ token.kind = kind ∧
        ⟨rest, parser.nodes⟩ = result := by
  simp only [expect, sequence_eq_ok, current_eq_ok]
  constructor
  · rintro ⟨token, moved, ⟨rest, tokens, rfl⟩, expected⟩
    by_cases same : token.kind = kind
    · refine ⟨token, rest, tokens, same, ?_⟩
      simpa [same, tokens] using expected
    · simp [same] at expected
  · rintro ⟨token, rest, tokens, same, moved⟩
    exact ⟨token, parser, ⟨rest, tokens, rfl⟩, by simpa [same, tokens] using moved⟩

@[simp] theorem node_eq_ok {limits : ExpressionLimits} {expression value : Expression} :
    node limits expression parser = .ok (value, result) ↔
      expression = value ∧ parser.nodes + 1 ≤ limits.maxNodes ∧
        ⟨parser.tokens, parser.nodes + 1⟩ = result := by
  simp only [node]
  split
  · simp only [reject_eq_ok, false_iff]; omega
  · simp only [Except.ok.injEq, Prod.mk.injEq]
    constructor
    · rintro ⟨rfl, rfl⟩; exact ⟨rfl, by omega, rfl⟩
    · rintro ⟨rfl, _, rfl⟩; exact ⟨rfl, rfl⟩

@[simp] theorem ensureDepth_eq_ok {limits : ExpressionLimits} {depth : Nat} {value : Unit} :
    ensureDepth limits depth parser = .ok (value, result) ↔
      depth ≤ limits.maxDepth ∧ parser = result := by
  unfold ensureDepth
  split
  · simp only [fail_eq_ok, false_iff]; omega
  · simp only [return_eq_ok, true_and]
    exact ⟨fun moved => ⟨by omega, moved⟩, fun moved => moved.2⟩

end Steps

/-- What a parsing step consumed for the value it returned. -/
def Consumes (rule : List TokenKind → Prop) (parser result : Parser) : Prop :=
  ∃ consumed, parser.kinds = consumed ++ result.kinds ∧ rule consumed

/-- The path loop reads a tail of keys and indices and respects the segment limit. -/
theorem parsePathSegments_sound {limits : ExpressionLimits} {start fuel : Nat}
    {segments all : List PathSegment} {parser result : Parser}
    (parsed : parsePathSegments limits start fuel segments parser = .ok (all, result))
    (small : segments.length ≤ limits.maxPathSegments) :
    all.length ≤ limits.maxPathSegments ∧ result.nodes = parser.nodes ∧
      ∃ tail, all = segments ++ tail ∧ Consumes (PathTail · tail) parser result := by
  -- Each iteration reads one key or one index and checks the length it leads to.
  induction fuel generalizing segments parser with
  | zero => simp [parsePathSegments] at parsed
  | succ fuel ih =>
    simp only [parsePathSegments, sequence_eq_ok, current_eq_ok] at parsed
    obtain ⟨token, _, ⟨rest, tokens, rfl⟩, parsed⟩ := parsed
    cases kind : token.kind with
    | dot =>
      simp only [kind, sequence_eq_ok, advance_eq_ok, current_eq_ok, exists_unit, tokens,
        List.tail_cons, exists_eq_left'] at parsed
      obtain ⟨named, _, ⟨rest', tokens', rfl⟩, parsed⟩ := parsed
      cases identifier : named.kind with
      | identifier name =>
        simp only [identifier, sequence_eq_ok, advance_eq_ok, exists_unit, exists_eq_left'] at parsed
        split at parsed
        · simp at parsed
        · rename_i within
          obtain ⟨bounded, same, tail, rfl, consumed, spelled, rule⟩ := ih parsed (by omega)
          refine ⟨bounded, same, .key name :: tail, by simp, _, ?_, .key rule⟩
          simp only [kinds, tokens', List.tail_cons] at spelled
          simp [kinds, tokens, tokens', kind, identifier, spelled]
      | _ => simp [identifier] at parsed
    | leftBracket =>
      simp only [kind, sequence_eq_ok, advance_eq_ok, current_eq_ok, exists_unit, tokens,
        List.tail_cons, exists_eq_left'] at parsed
      obtain ⟨indexed, _, ⟨rest', tokens', rfl⟩, parsed⟩ := parsed
      cases numeric : indexed.kind with
      | number number =>
        cases unsigned : number.asU64 with
        | none => simp [numeric, unsigned] at parsed
        | some position =>
          simp only [numeric, unsigned, sequence_eq_ok, advance_eq_ok, expect_eq_ok, exists_unit,
            exists_eq_left'] at parsed
          obtain ⟨_, ⟨closing, rest'', tokens'', close, rfl⟩, parsed⟩ := parsed
          split at parsed
          · simp at parsed
          · rename_i within
            obtain ⟨bounded, same, tail, rfl, consumed, spelled, rule⟩ := ih parsed (by omega)
            refine ⟨bounded, same, .index position :: tail, by simp, _, ?_, .index unsigned rule⟩
            simp only [tokens', List.tail_cons] at tokens''
            simp only [kinds] at spelled
            simp [kinds, tokens, tokens', tokens'', kind, numeric, close, spelled]
      | _ => simp [numeric] at parsed
    | _ =>
      simp only [kind, return_eq_ok] at parsed
      obtain ⟨rfl, rfl⟩ := parsed
      exact ⟨small, rfl, [], by simp, [], by simp, .done⟩

theorem parsePath_sound {limits : ExpressionLimits} {path : EnvironmentPath}
    {parser result : Parser} (admits : 0 < limits.maxPathSegments)
    (parsed : parsePath limits parser = .ok (path, result)) :
    path.segments.length ≤ limits.maxPathSegments ∧ result.nodes = parser.nodes ∧
      Consumes (PathRule · path) parser result := by
  simp only [parsePath, sequence_eq_ok, current_eq_ok] at parsed
  obtain ⟨token, _, ⟨rest, tokens, rfl⟩, parsed⟩ := parsed
  cases identifier : token.kind with
  | identifier name =>
    simp only [identifier, sequence_eq_ok, advance_eq_ok, exists_unit, exists_eq_left',
      return_eq_ok, tokens, List.tail_cons] at parsed
    obtain ⟨segments, _, loop, rfl, rfl⟩ := parsed
    obtain ⟨bounded, same, tail, rfl, consumed, spelled, rule⟩ :=
      parsePathSegments_sound loop admits
    refine ⟨bounded, same, _, ?_, .path rule⟩
    simp only [kinds] at spelled
    simp [kinds, tokens, identifier, spelled]
  | _ => simp [identifier] at parsed

theorem Consumes.remaining {rule : List TokenKind → Prop} {parser result : Parser}
    (consumes : Consumes rule parser result) :
    ∀ kind ∈ result.kinds, kind ∈ parser.kinds := by
  obtain ⟨consumed, spelled, _⟩ := consumes
  intro kind member
  simp [spelled, member]

/-- A parsed operand is derived by the grammar and within the limits. -/
theorem parseOperand_sound {limits : ExpressionLimits} {operand : Operand}
    {parser result : Parser} (admits : 0 < limits.maxPathSegments)
    (within : ∀ kind ∈ parser.kinds, kind.Within limits)
    (parsed : parseOperand limits parser = .ok (operand, result)) :
    operand.Within limits ∧ result.nodes = parser.nodes ∧
      Consumes (OperandRule · operand) parser result := by
  simp only [parseOperand, sequence_eq_ok, current_eq_ok] at parsed
  obtain ⟨token, _, ⟨rest, tokens, rfl⟩, parsed⟩ := parsed
  -- A literal is one token, whose string the lexer has already bounded.
  have literalCase : ∀ literal : Literal, literalOf token.kind = some literal →
      (Operand.literal literal).Within limits →
      (⟨rest, parser.nodes⟩ : Parser) = result → Operand.literal literal = operand →
      operand.Within limits ∧ result.nodes = parser.nodes ∧
        Consumes (OperandRule · operand) parser result := by
    rintro literal spelled bounded rfl rfl
    exact ⟨bounded, rfl, [token.kind], by simp [kinds, tokens], .literal spelled⟩
  cases kind : token.kind with
  | true | false | null | number =>
    simp only [kind, sequence_eq_ok, advance_eq_ok, return_eq_ok, exists_unit, exists_eq_left',
      tokens, List.tail_cons] at parsed
    refine literalCase _ ?_ ?_ parsed.2 parsed.1
    · simp [kind, literalOf]
    · trivial
  | string value =>
    simp only [kind, sequence_eq_ok, advance_eq_ok, return_eq_ok, exists_unit, exists_eq_left',
      tokens, List.tail_cons] at parsed
    have bounded := within token.kind (by simp [kinds, tokens]) value kind
    exact literalCase (.string value) (by simp [kind, literalOf]) bounded parsed.2 parsed.1
  | identifier name =>
    simp only [kind, sequence_eq_ok, return_eq_ok] at parsed
    obtain ⟨path, _, parsed, rfl, rfl⟩ := parsed
    obtain ⟨bounded, same, consumed, spelled, rule⟩ := parsePath_sound admits parsed
    exact ⟨bounded, same, consumed, spelled, .path rule⟩
  | _ => simp [kind] at parsed

theorem tail_within {property : TokenKind → Prop} {parser : Parser} {token : Token}
    {rest : List Token} (tokens : parser.tokens = token :: rest)
    (within : ∀ kind ∈ parser.kinds, property kind) :
    ∀ kind ∈ kinds ⟨rest, parser.nodes⟩, property kind := by
  intro kind member
  simp only [kinds] at member
  exact within kind (by simp [kinds, tokens, member])

/-- The parsing function of each nonterminal. -/
def run (limits : ExpressionLimits) : Nonterminal → Nat → Nat → Parsing Expression
  | .or => parseOr limits
  | .orTail left => fun fuel depth => parseOrLoop limits fuel depth left
  | .and => parseAnd limits
  | .andTail left => fun fuel depth => parseAndLoop limits fuel depth left
  | .unary => parseUnary limits
  | .primary => parsePrimary limits

/-- The nodes of the expression to the left of a tail. -/
def leftNodes : Nonterminal → Nat
  | .orTail left | .andTail left => left.nodeCount
  | _ => 0

/-- The operands of the expression to the left of a tail. -/
def leftOperands : Nonterminal → List Operand
  | .orTail left | .andTail left => left.operands
  | _ => []

/-- What a nonterminal's parsing function guarantees about the expression it returns. -/
structure Parsed (limits : ExpressionLimits) (rule : Nonterminal) (parser : Parser)
    (expression : Expression) (result : Parser) : Prop where
  consumes : Consumes (Derives rule · expression) parser result
  counted : result.nodes + leftNodes rule = parser.nodes + expression.nodeCount
  bounded : result.nodes ≤ limits.maxNodes
  operands : ∀ operand ∈ expression.operands, operand.Within limits

/-- A comparison or a single operand is derived by the grammar. -/
theorem parseComparison_sound {limits : ExpressionLimits} {expression : Expression}
    {parser result : Parser} (admits : 0 < limits.maxPathSegments)
    (within : ∀ kind ∈ parser.kinds, kind.Within limits)
    (parsed : parseComparison limits parser = .ok (expression, result)) :
    Parsed limits .primary parser expression result := by
  simp only [parseComparison, sequence_eq_ok, current_eq_ok] at parsed
  obtain ⟨left, middle, before, token, _, ⟨rest, tokens, rfl⟩, parsed⟩ := parsed
  obtain ⟨leftWithin, same, lefts, spelled, leftRule⟩ := parseOperand_sound admits within before
  cases compared : comparison token.kind with
  | none =>
    simp only [compared, node_eq_ok] at parsed
    obtain ⟨rfl, small, rfl⟩ := parsed
    refine ⟨⟨lefts, by simpa [kinds] using spelled, .value leftRule⟩, ?_, small, ?_⟩
    · simp [leftNodes, Expression.nodeCount, same]
    · simpa [Expression.operands] using leftWithin
  | some operator =>
    simp only [compared, sequence_eq_ok, advance_eq_ok, exists_unit, exists_eq_left', tokens,
      List.tail_cons, node_eq_ok] at parsed
    obtain ⟨right, after, parsed, rfl, small, rfl⟩ := parsed
    -- The right operand is read from the tokens that the left one and the operator left.
    have restWithin := tail_within tokens fun kind member =>
      within kind (spelled ▸ List.mem_append_right lefts member)
    obtain ⟨rightWithin, same', rights, spelled', rightRule⟩ :=
      parseOperand_sound admits restWithin parsed
    refine ⟨⟨lefts ++ token.kind :: rights, ?_, .compare leftRule compared rightRule⟩, ?_,
      small, ?_⟩
    · simp only [kinds] at spelled spelled'
      simp [kinds, spelled, tokens, spelled']
    · simp only at same'
      simp [leftNodes, Expression.nodeCount, same, same']
    · simp [Expression.operands, leftWithin, rightWithin]

theorem parseExists_sound {limits : ExpressionLimits} {expression : Expression} {token : Token}
    {rest : List Token} {nodes : Nat} {result : Parser} (admits : 0 < limits.maxPathSegments)
    (keyword : token.kind = .exists_)
    (parsed : parseExists limits ⟨token :: rest, nodes⟩ = .ok (expression, result)) :
    Parsed limits .primary ⟨token :: rest, nodes⟩ expression result := by
  simp only [parseExists, sequence_eq_ok, advance_eq_ok, exists_unit, exists_eq_left',
    List.tail_cons, expect_eq_ok, node_eq_ok] at parsed
  obtain ⟨_, ⟨opening, inner, rfl, opens, rfl⟩, path, _, parsed, _, ⟨closing, after, tokens, closes,
    rfl⟩, rfl, small, rfl⟩ := parsed
  obtain ⟨bounded, same, consumed, spelled, rule⟩ := parsePath_sound admits parsed
  refine ⟨⟨_, ?_, .existsPath rule⟩, ?_, small, ?_⟩
  · simp only [kinds, tokens] at spelled
    simp [kinds, keyword, opens, closes, spelled]
  · simp only at same
    simp [leftNodes, Expression.nodeCount, same]
  · simpa [Expression.operands, Operand.Within] using bounded

/-- Every nonterminal's function returns what the grammar derives, within the limits. -/
theorem run_sound {limits : ExpressionLimits} (admits : 0 < limits.maxPathSegments)
    {rule : Nonterminal} {fuel depth : Nat} {parser result : Parser} {expression : Expression}
    (parsed : run limits rule fuel depth parser = .ok (expression, result))
    (within : ∀ kind ∈ parser.kinds, kind.Within limits)
    (small : parser.nodes ≤ limits.maxNodes)
    (lefts : ∀ operand ∈ leftOperands rule, operand.Within limits) :
    Parsed limits rule parser expression result := by
  -- Every call passes on less fuel; the cases are the functions of the parser.
  induction fuel generalizing rule depth parser expression result with
  | zero =>
    cases rule <;> simp [run, parseOr, parseOrLoop, parseAnd, parseAndLoop, parseUnary,
      parsePrimary] at parsed
  | succ fuel ih =>
    cases rule with
    | or =>
      simp only [run, parseOr, sequence_eq_ok, ensureDepth_eq_ok] at parsed
      obtain ⟨_, _, ⟨_, rfl⟩, left, middle, before, after⟩ := parsed
      have first : Parsed limits .and parser left middle :=
        ih before within small (by simp [leftOperands])
      have second : Parsed limits (.orTail left) middle expression result := ih after
        (fun kind member => within kind (first.consumes.remaining kind member)) first.bounded
        first.operands
      obtain ⟨consumed, spelled, derived⟩ := first.consumes
      obtain ⟨consumed', spelled', derived'⟩ := second.consumes
      refine ⟨⟨_, ?_, .or derived derived'⟩, ?_, second.bounded, second.operands⟩
      · simp [spelled, spelled']
      · have := first.counted
        have := second.counted
        simp only [leftNodes] at *
        omega
    | orTail left =>
      simp only [run, parseOrLoop, sequence_eq_ok, current_eq_ok] at parsed
      obtain ⟨token, _, ⟨rest, tokens, rfl⟩, parsed⟩ := parsed
      by_cases more : token.kind = .or
      · simp only [more, if_true, sequence_eq_ok, advance_eq_ok, exists_unit, exists_eq_left',
          tokens, List.tail_cons, node_eq_ok] at parsed
        obtain ⟨right, middle, before, _, _, ⟨rfl, small', rfl⟩, after⟩ := parsed
        have remaining := tail_within tokens within
        have first : Parsed limits .and ⟨rest, parser.nodes⟩ right middle :=
          ih before remaining small (by simp [leftOperands])
        have second : Parsed limits (.orTail (.or left right)) _ expression result := ih after
          (fun kind member => remaining kind (first.consumes.remaining kind member)) small'
          (by simpa [leftOperands, Expression.operands, or_imp, forall_and]
            using ⟨lefts, first.operands⟩)
        obtain ⟨consumed, spelled, derived⟩ := first.consumes
        obtain ⟨consumed', spelled', derived'⟩ := second.consumes
        refine ⟨⟨_, ?_, .orMore derived derived'⟩, ?_, second.bounded, second.operands⟩
        · simp only [kinds] at spelled spelled'
          simp [kinds, tokens, more, spelled, spelled']
        · have := first.counted
          have := second.counted
          simp only [leftNodes, Expression.nodeCount] at *
          omega
      · simp only [more, if_false, return_eq_ok] at parsed
        obtain ⟨rfl, rfl⟩ := parsed
        exact ⟨⟨[], by simp, .orDone⟩, by simp [leftNodes], small, lefts⟩
    | and =>
      simp only [run, parseAnd, sequence_eq_ok] at parsed
      obtain ⟨left, middle, before, after⟩ := parsed
      have first : Parsed limits .unary parser left middle :=
        ih before within small (by simp [leftOperands])
      have second : Parsed limits (.andTail left) middle expression result := ih after
        (fun kind member => within kind (first.consumes.remaining kind member)) first.bounded
        first.operands
      obtain ⟨consumed, spelled, derived⟩ := first.consumes
      obtain ⟨consumed', spelled', derived'⟩ := second.consumes
      refine ⟨⟨_, ?_, .and derived derived'⟩, ?_, second.bounded, second.operands⟩
      · simp [spelled, spelled']
      · have := first.counted
        have := second.counted
        simp only [leftNodes] at *
        omega
    | andTail left =>
      simp only [run, parseAndLoop, sequence_eq_ok, current_eq_ok] at parsed
      obtain ⟨token, _, ⟨rest, tokens, rfl⟩, parsed⟩ := parsed
      by_cases more : token.kind = .and
      · simp only [more, if_true, sequence_eq_ok, advance_eq_ok, exists_unit, exists_eq_left',
          tokens, List.tail_cons, node_eq_ok] at parsed
        obtain ⟨right, middle, before, _, _, ⟨rfl, small', rfl⟩, after⟩ := parsed
        have remaining := tail_within tokens within
        have first : Parsed limits .unary ⟨rest, parser.nodes⟩ right middle :=
          ih before remaining small (by simp [leftOperands])
        have second : Parsed limits (.andTail (.and left right)) _ expression result := ih after
          (fun kind member => remaining kind (first.consumes.remaining kind member)) small'
          (by simpa [leftOperands, Expression.operands, or_imp, forall_and]
            using ⟨lefts, first.operands⟩)
        obtain ⟨consumed, spelled, derived⟩ := first.consumes
        obtain ⟨consumed', spelled', derived'⟩ := second.consumes
        refine ⟨⟨_, ?_, .andMore derived derived'⟩, ?_, second.bounded, second.operands⟩
        · simp only [kinds] at spelled spelled'
          simp [kinds, tokens, more, spelled, spelled']
        · have := first.counted
          have := second.counted
          simp only [leftNodes, Expression.nodeCount] at *
          omega
      · simp only [more, if_false, return_eq_ok] at parsed
        obtain ⟨rfl, rfl⟩ := parsed
        exact ⟨⟨[], by simp, .andDone⟩, by simp [leftNodes], small, lefts⟩
    | unary =>
      simp only [run, parseUnary, sequence_eq_ok, ensureDepth_eq_ok, current_eq_ok] at parsed
      obtain ⟨_, _, ⟨_, rfl⟩, token, _, ⟨rest, tokens, rfl⟩, parsed⟩ := parsed
      by_cases negated : token.kind = .bang
      · simp only [negated, if_true, sequence_eq_ok, advance_eq_ok, exists_unit, exists_eq_left',
          tokens, List.tail_cons, node_eq_ok] at parsed
        obtain ⟨inner, middle, before, rfl, small', rfl⟩ := parsed
        have remaining := tail_within tokens within
        have first : Parsed limits .unary ⟨rest, parser.nodes⟩ inner middle :=
          ih before remaining small (by simp [leftOperands])
        obtain ⟨consumed, spelled, derived⟩ := first.consumes
        refine ⟨⟨_, ?_, .not derived⟩, ?_, small', first.operands⟩
        · simp only [kinds] at spelled
          simp [kinds, tokens, negated, spelled]
        · have := first.counted
          simp only [leftNodes, Expression.nodeCount] at *
          omega
      · simp only [negated, if_false] at parsed
        have first : Parsed limits .primary parser expression result :=
          ih parsed within small (by simp [leftOperands])
        obtain ⟨consumed, spelled, derived⟩ := first.consumes
        exact ⟨⟨_, spelled, .primary derived⟩, first.counted, first.bounded, first.operands⟩
    | primary =>
      simp only [run, parsePrimary, sequence_eq_ok, current_eq_ok] at parsed
      obtain ⟨token, _, ⟨rest, tokens, rfl⟩, parsed⟩ := parsed
      by_cases opened : token.kind = .leftParen
      · simp only [opened, if_true, sequence_eq_ok, advance_eq_ok, exists_unit, exists_eq_left',
          tokens, List.tail_cons, expect_eq_ok, return_eq_ok] at parsed
        obtain ⟨inner, middle, before, _, ⟨closing, after, tokens', closes, rfl⟩, rfl, rfl⟩ := parsed
        have remaining := tail_within tokens within
        have first : Parsed limits .or ⟨rest, parser.nodes⟩ inner middle :=
          ih before remaining small (by simp [leftOperands])
        obtain ⟨consumed, spelled, derived⟩ := first.consumes
        refine ⟨⟨_, ?_, .paren derived⟩, first.counted, first.bounded, first.operands⟩
        simp only [kinds, tokens'] at spelled
        simp [kinds, tokens, opened, closes, spelled]
      · simp only [opened, if_false] at parsed
        by_cases keyword : token.kind = .exists_
        · simp only [keyword, if_true] at parsed
          obtain ⟨tokenList, nodes⟩ := parser
          obtain rfl : tokenList = token :: rest := tokens
          exact parseExists_sound admits keyword parsed
        · simp only [keyword, if_false] at parsed
          exact parseComparison_sound admits within parsed

end Parser

end AgentMod
