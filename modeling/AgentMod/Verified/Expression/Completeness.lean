import AgentMod.Verified.Expression.Parser

/-! Whatever the grammar derives is parsed, unless a limit is exceeded on the way. -/

namespace AgentMod

open Grammar

namespace Parser

/-- A step returns the value, or stops at a limit that the given room does not leave. -/
def Yields {α : Type} (room : Prop) (step : Parsing α) (parser : Parser) (value : α)
    (result : Parser) : Prop :=
  step parser = .ok (value, result) ∨
    ¬ room ∧ ∃ error : ParseError, error.LimitExceeded ∧ step parser = reject error

section Steps

variable {α β : Type} {room : Prop} {parser middle result : Parser} {token : Token}
  {rest : List Token} {nodes : Nat}

theorem Yields.bind {first : Parsing α} {next : α → Parsing β} {value : α} {final : β}
    (before : Yields room first parser value middle)
    (after : Yields room (next value) middle final result) :
    Yields room (first >>= next) parser final result := by
  rcases before with before | ⟨cramped, error, exceeded, stopped⟩
  · rcases after with after | ⟨cramped, error, exceeded, stopped⟩
    · exact .inl (sequence_eq_ok.mpr ⟨value, middle, before, after⟩)
    · refine .inr ⟨cramped, error, exceeded, ?_⟩
      simp [Bind.bind, StateT.bind, Except.bind, before, stopped]
  · refine .inr ⟨cramped, error, exceeded, ?_⟩
    simp [Bind.bind, StateT.bind, Except.bind, stopped, reject]

theorem Yields.current {next : Token → Parsing β} {final : β}
    (after : Yields room (next token) ⟨token :: rest, nodes⟩ final result) :
    Yields room (Parser.current >>= next) ⟨token :: rest, nodes⟩ final result :=
  .bind (.inl rfl) after

theorem Yields.advance {next : Unit → Parsing β} {final : β}
    (after : Yields room (next ()) ⟨rest, nodes⟩ final result) :
    Yields room (Parser.advance >>= next) ⟨token :: rest, nodes⟩ final result :=
  .bind (.inl rfl) after

theorem Yields.expect {next : Unit → Parsing β} {final : β} {kind : TokenKind}
    {description : String} (same : token.kind = kind)
    (after : Yields room (next ()) ⟨rest, nodes⟩ final result) :
    Yields room (Parser.expect kind description >>= next) ⟨token :: rest, nodes⟩ final result :=
  .bind (.inl (expect_eq_ok.mpr ⟨token, rest, rfl, same, rfl⟩)) after

theorem Yields.ensureDepth {limits : ExpressionLimits} {depth : Nat} {next : Unit → Parsing β}
    {final : β} (fits : room → depth ≤ limits.maxDepth)
    (after : Yields room (next ()) parser final result) :
    Yields room (Parser.ensureDepth limits depth >>= next) parser final result := by
  have checked : Yields room (Parser.ensureDepth limits depth) parser () parser := by
    by_cases bounded : depth ≤ limits.maxDepth
    · exact .inl (ensureDepth_eq_ok.mpr ⟨bounded, rfl⟩)
    · refine .inr ⟨fun held => bounded (fits held), .depthExceeded limits.maxDepth, trivial, ?_⟩
      simp only [Parser.ensureDepth, Nat.lt_of_not_le bounded, if_true]
      rfl
  exact .bind checked after

theorem Yields.unless {exceeded : Prop} [Decidable exceeded] {error : ParseError}
    {step : Parsing β} {final : β} (limit : error.LimitExceeded) (fits : room → ¬ exceeded)
    (after : Yields room step parser final result) :
    Yields room (if exceeded then fail error else step) parser final result := by
  split
  · next beyond => exact .inr ⟨fun held => fits held beyond, error, limit, rfl⟩
  · exact after

theorem Yields.node {limits : ExpressionLimits} {expression : Expression}
    (fits : room → nodes + 1 ≤ limits.maxNodes) {tokens : List Token} :
    Yields room (Parser.node limits expression) ⟨tokens, nodes⟩ expression
      ⟨tokens, nodes + 1⟩ := by
  by_cases bounded : nodes + 1 ≤ limits.maxNodes
  · exact .inl (node_eq_ok.mpr ⟨rfl, bounded, rfl⟩)
  · refine .inr ⟨fun held => bounded (fits held), .nodeLimitExceeded limits.maxNodes, trivial, ?_⟩
    simp only [Parser.node, Nat.lt_of_not_le bounded, if_true]

end Steps

theorem operand_nonempty {kinds : List TokenKind} {operand : Operand}
    (derived : OperandRule kinds operand) : 0 < kinds.length := by
  cases derived with
  | literal => simp
  | path rule => cases rule with | path => simp

/-- A kind with which the loop over a path's segments stops. -/
def EndsPath (kind : TokenKind) : Prop := kind ≠ .dot ∧ kind ≠ .leftBracket

/-- The path loop yields every derived tail. -/
theorem parsePathSegments_complete {room : Prop} {limits : ExpressionLimits} {start fuel : Nat}
    {kinds : List TokenKind} {segments tail : List PathSegment} {consumed rest : List Token}
    {token : Token} {nodes : Nat} (derived : PathTail kinds tail)
    (spelled : consumed.map Token.kind = kinds) (ends : EndsPath token.kind)
    (enough : kinds.length < fuel)
    (fits : room → segments.length + kinds.length ≤ limits.maxPathSegments) :
    Yields room (parsePathSegments limits start fuel segments)
      ⟨consumed ++ token :: rest, nodes⟩ (segments ++ tail) ⟨token :: rest, nodes⟩ := by
  -- Each rule for a tail is one iteration of the loop.
  induction derived generalizing consumed segments fuel with
  | done =>
    obtain rfl : consumed = [] := by simpa using spelled
    obtain ⟨fuel, rfl⟩ : ∃ less, fuel = less + 1 := ⟨fuel - 1, by omega⟩
    obtain ⟨notDot, notBracket⟩ := ends
    refine .current ?_
    rw [List.append_nil]
    split
    · contradiction
    · contradiction
    · exact .inl rfl
  | @key name kinds tail later ih =>
    obtain ⟨dot, _, rfl, isDot, spelled⟩ := List.map_eq_cons_iff.mp spelled
    obtain ⟨named, consumed, rfl, isName, spelled⟩ := List.map_eq_cons_iff.mp spelled
    obtain ⟨fuel, rfl⟩ : ∃ less, fuel = less + 1 := ⟨fuel - 1, by omega⟩
    simp only [List.length_cons] at enough fits
    simp only [List.cons_append]
    refine .current ?_
    simp only [isDot]
    refine .advance (.current ?_)
    simp only [isName]
    refine .advance (.unless trivial (fun held => ?_) ?_)
    · have := fits held
      simp only [List.length_append, List.length_singleton]
      omega
    · rw [List.append_cons segments _ tail]
      refine ih spelled ?_ fun held => ?_
      · omega
      · have := fits held
        simp only [List.length_append, List.length_singleton]
        omega
  | @index number position kinds tail unsigned later ih =>
    obtain ⟨bracket, _, rfl, isBracket, spelled⟩ := List.map_eq_cons_iff.mp spelled
    obtain ⟨indexed, _, rfl, isNumber, spelled⟩ := List.map_eq_cons_iff.mp spelled
    obtain ⟨closing, consumed, rfl, closes, spelled⟩ := List.map_eq_cons_iff.mp spelled
    obtain ⟨fuel, rfl⟩ : ∃ less, fuel = less + 1 := ⟨fuel - 1, by omega⟩
    simp only [List.length_cons] at enough fits
    simp only [List.cons_append]
    refine .current ?_
    simp only [isBracket]
    refine .advance (.current ?_)
    simp only [isNumber, unsigned]
    refine .advance (.expect closes (.unless trivial (fun held => ?_) ?_))
    · have := fits held
      simp only [List.length_append, List.length_singleton]
      omega
    · rw [List.append_cons segments _ tail]
      refine ih spelled ?_ fun held => ?_
      · omega
      · have := fits held
        simp only [List.length_append, List.length_singleton]
        omega

theorem parsePath_complete {room : Prop} {limits : ExpressionLimits} {kinds : List TokenKind}
    {path : EnvironmentPath} {consumed rest : List Token} {token : Token} {nodes : Nat}
    (derived : PathRule kinds path) (spelled : consumed.map Token.kind = kinds)
    (ends : EndsPath token.kind) (fits : room → kinds.length ≤ limits.maxPathSegments) :
    Yields room (parsePath limits) ⟨consumed ++ token :: rest, nodes⟩ path
      ⟨token :: rest, nodes⟩ := by
  obtain ⟨tail⟩ := derived
  obtain ⟨named, consumed, rfl, isName, spelled⟩ := List.map_eq_cons_iff.mp spelled
  simp only [List.cons_append]
  refine .current ?_
  simp only [isName]
  refine .advance (.bind (parsePathSegments_complete tail spelled ends ?_ ?_) (.inl rfl))
  · simp only [← spelled, List.length_map, List.length_append, List.length_cons]
    omega
  · simpa [Nat.add_comm] using fits

theorem parseOperand_complete {room : Prop} {limits : ExpressionLimits} {kinds : List TokenKind}
    {operand : Operand} {consumed rest : List Token} {token : Token} {nodes : Nat}
    (derived : OperandRule kinds operand) (spelled : consumed.map Token.kind = kinds)
    (ends : EndsPath token.kind) (fits : room → kinds.length ≤ limits.maxPathSegments) :
    Yields room (parseOperand limits) ⟨consumed ++ token :: rest, nodes⟩ operand
      ⟨token :: rest, nodes⟩ := by
  cases derived with
  | @literal kind literal read =>
    obtain ⟨spelling, rfl, same⟩ := List.map_eq_singleton_iff.mp spelled
    refine .current ?_
    cases kind with
    | true | false | null | string | number =>
      simp only [literalOf, Option.some.injEq] at read
      simp only [same]
      exact .advance (.inl (by simp [read]))
    | _ => simp [literalOf] at read
  | path rule =>
    have inner := @parsePath_complete room limits _ _ consumed rest token nodes rule spelled ends fits
    obtain ⟨tail⟩ := rule
    obtain ⟨named, consumed, rfl, isName, _⟩ := List.map_eq_cons_iff.mp spelled
    refine .current ?_
    simp only [isName]
    exact .bind inner (.inl rfl)

/-- A kind that can stand behind a complete phrase of the nonterminal. -/
def Ends : Nonterminal → TokenKind → Prop
  | .primary, kind | .unary, kind => EndsPath kind ∧ comparison kind = none
  | .and, kind | .andTail _, kind => EndsPath kind ∧ comparison kind = none ∧ kind ≠ .and
  | .or, kind | .orTail _, kind =>
    EndsPath kind ∧ comparison kind = none ∧ kind ≠ .and ∧ kind ≠ .or

/-- The nested calls between a nonterminal's function and the next consumed token. -/
def level : Nonterminal → Nat
  | .or => 4
  | .and => 3
  | .unary => 2
  | .orTail _ | .andTail _ | .primary => 1

theorem fuel_positive {rule : Nonterminal} {length fuel : Nat}
    (enough : 4 * length + level rule ≤ fuel) : ∃ less, fuel = less + 1 := by
  refine ⟨fuel - 1, ?_⟩
  cases rule <;> simp only [level] at enough <;> omega

theorem derives_nodes {rule : Nonterminal} {kinds : List TokenKind}
    {expression : Expression} (derived : Derives rule kinds expression) :
    leftNodes rule ≤ expression.nodeCount ∧
      expression.nodeCount ≤ kinds.length + leftNodes rule := by
  -- Only operators, keywords and operands add nodes, and each is spelled by a token.
  induction derived with
  | or _ _ head tail | and _ _ head tail =>
    simp only [leftNodes, List.length_append] at *
    omega
  | orDone | andDone => simp [leftNodes]
  | orMore _ _ head tail | andMore _ _ head tail =>
    simp only [leftNodes, List.length_append, List.length_cons, Expression.nodeCount] at *
    omega
  | not _ ih =>
    simp only [leftNodes, List.length_cons, Expression.nodeCount] at *
    omega
  | primary _ ih => exact ih
  | paren _ ih =>
    simp only [leftNodes, List.length_append, List.length_cons] at *
    omega
  | existsPath | compare =>
    simp only [leftNodes, List.length_append, List.length_cons, Expression.nodeCount]
    omega
  | value rule =>
    have := operand_nonempty rule
    simp only [leftNodes, Expression.nodeCount]
    omega

theorem orTail_head {left result : Expression} {kinds : List TokenKind}
    (derived : Derives (.orTail left) kinds result) :
    kinds = [] ∨ ∃ rest, kinds = .or :: rest := by
  cases derived with
  | orDone => exact .inl rfl
  | orMore => exact .inr ⟨_, rfl⟩

theorem andTail_head {left result : Expression} {kinds : List TokenKind}
    (derived : Derives (.andTail left) kinds result) :
    kinds = [] ∨ ∃ rest, kinds = .and :: rest := by
  cases derived with
  | andDone => exact .inl rfl
  | andMore => exact .inr ⟨_, rfl⟩

theorem behind_phrase {mark : TokenKind} {kinds : List TokenKind} {lasts : List Token}
    (shape : kinds = [] ∨ ∃ rest, kinds = mark :: rest)
    (spelled : lasts.map Token.kind = kinds) (token : Token) (rest : List Token) :
    ∃ next more, lasts ++ token :: rest = next :: more ∧
      (next.kind = mark ∨ next.kind = token.kind) := by
  rcases shape with rfl | ⟨others, rfl⟩
  · obtain rfl : lasts = [] := by simpa using spelled
    exact ⟨token, rest, rfl, .inr rfl⟩
  · obtain ⟨next, more, rfl, same, _⟩ := List.map_eq_cons_iff.mp spelled
    exact ⟨next, more ++ token :: rest, rfl, .inl same⟩

theorem operand_head {kinds : List TokenKind} {operand : Operand}
    (derived : OperandRule kinds operand) :
    ∃ kind rest, kinds = kind :: rest ∧ kind ≠ .bang ∧ kind ≠ .leftParen ∧ kind ≠ .exists_ := by
  cases derived with
  | @literal kind literal read =>
    exact ⟨kind, [], rfl, by rintro rfl; simp [literalOf] at read,
      by rintro rfl; simp [literalOf] at read, by rintro rfl; simp [literalOf] at read⟩
  | path rule => cases rule with | path => exact ⟨_, _, rfl, by simp, by simp, by simp⟩

theorem primary_head {kinds : List TokenKind} {expression : Expression}
    (derived : Derives .primary kinds expression) :
    ∃ kind rest, kinds = kind :: rest ∧ kind ≠ .bang := by
  cases derived with
  | paren | existsPath => exact ⟨_, _, rfl, by simp⟩
  | compare before =>
    obtain ⟨kind, rest, rfl, other, _⟩ := operand_head before
    exact ⟨kind, _, rfl, other⟩
  | value rule =>
    obtain ⟨kind, rest, rfl, other, _⟩ := operand_head rule
    exact ⟨kind, rest, rfl, other⟩

theorem ends_and {kind follow : TokenKind} (ends : Ends .or kind)
    (next : follow = .or ∨ follow = kind) : Ends .and follow := by
  rcases next with rfl | rfl
  · exact ⟨⟨by simp, by simp⟩, rfl, by simp⟩
  · exact ⟨ends.1, ends.2.1, ends.2.2.1⟩

theorem ends_unary {kind follow : TokenKind} (ends : Ends .and kind)
    (next : follow = .and ∨ follow = kind) : Ends .unary follow := by
  rcases next with rfl | rfl
  · exact ⟨⟨by simp, by simp⟩, rfl⟩
  · exact ⟨ends.1, ends.2.1⟩

/-- Every nonterminal's function yields every derived phrase. -/
theorem run_complete {room : Prop} {limits : ExpressionLimits} {rule : Nonterminal}
    {kinds : List TokenKind} {expression : Expression} (derived : Derives rule kinds expression)
    {fuel depth nodes after : Nat} {consumed rest : List Token} {token : Token}
    (spelled : consumed.map Token.kind = kinds) (ends : Ends rule token.kind)
    (enough : 4 * kinds.length + level rule ≤ fuel)
    (counted : after + leftNodes rule = nodes + expression.nodeCount)
    (fits : room → depth + kinds.length ≤ limits.maxDepth ∧
      kinds.length ≤ limits.maxPathSegments ∧ after ≤ limits.maxNodes) :
    Yields room (run limits rule fuel depth) ⟨consumed ++ token :: rest, nodes⟩ expression
      ⟨token :: rest, after⟩ := by
  -- Each rule of the grammar is one way through the function of its nonterminal.
  induction derived generalizing fuel depth nodes after consumed rest token with
  | @or first others left result head tail headIh tailIh =>
    obtain ⟨fuel, rfl⟩ := fuel_positive enough
    obtain ⟨firsts, lasts, rfl, spelledFirst, spelledRest⟩ := List.map_eq_append_iff.mp spelled
    obtain ⟨next, more, tokens, follow⟩ := behind_phrase (orTail_head tail) spelledRest token rest
    have grows := (derives_nodes tail).1
    simp only [leftNodes, level, List.length_append] at grows counted enough fits
    have endsFirst := ends_and ends follow
    simp only [run, parseOr]
    refine .ensureDepth (fun held => by have := fits held; omega) ?_
    rw [List.append_assoc, tokens]
    refine .bind (@headIh _ _ _ (nodes + left.nodeCount) _ _ _ spelledFirst endsFirst ?_ ?_ ?_) ?_
    · simp only [level]; omega
    · simp only [leftNodes]; omega
    · intro held; have := fits held; omega
    · rw [← tokens]
      refine tailIh spelledRest ends ?_ ?_ ?_
      · simp only [level]; omega
      · simp only [leftNodes]; omega
      · intro held; have := fits held; omega
  | @orDone left =>
    obtain ⟨fuel, rfl⟩ := fuel_positive enough
    obtain rfl : consumed = [] := by simpa using spelled
    obtain rfl : after = nodes := by simp only [leftNodes] at counted; omega
    simp only [run, parseOrLoop, List.nil_append]
    refine .current ?_
    rw [if_neg ends.2.2.2]
    exact .inl rfl
  | @orMore first others left right result head tail headIh tailIh =>
    obtain ⟨fuel, rfl⟩ := fuel_positive enough
    obtain ⟨_, lasts, rfl, spelledFirst, spelledRest⟩ := List.map_eq_append_iff.mp spelled
    obtain ⟨operator, firsts, rfl, isOr, spelledFirst⟩ := List.map_eq_cons_iff.mp spelledFirst
    obtain ⟨next, more, tokens, follow⟩ := behind_phrase (orTail_head tail) spelledRest token rest
    have grows := (derives_nodes tail).1
    have endsFirst := ends_and ends follow
    simp only [leftNodes, level, List.length_append, List.length_cons,
      Expression.nodeCount] at grows counted enough fits
    simp only [run, parseOrLoop, List.cons_append]
    refine .current ?_
    rw [if_pos isOr, List.append_assoc, tokens]
    refine .advance (.bind (@headIh _ _ _ (nodes + right.nodeCount) _ _ _ spelledFirst endsFirst
      ?_ ?_ ?_) (.bind (.node ?_) ?_))
    · simp only [level]; omega
    · simp only [leftNodes]; omega
    · intro held; have := fits held; omega
    · intro held; have := fits held; omega
    · rw [← tokens]
      refine tailIh spelledRest ends ?_ ?_ ?_
      · simp only [level]; omega
      · simp only [leftNodes, Expression.nodeCount]; omega
      · intro held; have := fits held; omega
  | @and first others left result head tail headIh tailIh =>
    obtain ⟨fuel, rfl⟩ := fuel_positive enough
    obtain ⟨firsts, lasts, rfl, spelledFirst, spelledRest⟩ := List.map_eq_append_iff.mp spelled
    obtain ⟨next, more, tokens, follow⟩ := behind_phrase (andTail_head tail) spelledRest token rest
    have grows := (derives_nodes tail).1
    have endsFirst := ends_unary ends follow
    simp only [leftNodes, level, List.length_append] at grows counted enough fits
    simp only [run, parseAnd]
    rw [List.append_assoc, tokens]
    refine .bind (@headIh _ _ _ (nodes + left.nodeCount) _ _ _ spelledFirst endsFirst ?_ ?_ ?_) ?_
    · simp only [level]; omega
    · simp only [leftNodes]; omega
    · intro held; have := fits held; omega
    · rw [← tokens]
      refine tailIh spelledRest ends ?_ ?_ ?_
      · simp only [level]; omega
      · simp only [leftNodes]; omega
      · intro held; have := fits held; omega
  | @andDone left =>
    obtain ⟨fuel, rfl⟩ := fuel_positive enough
    obtain rfl : consumed = [] := by simpa using spelled
    obtain rfl : after = nodes := by simp only [leftNodes] at counted; omega
    simp only [run, parseAndLoop, List.nil_append]
    refine .current ?_
    rw [if_neg ends.2.2]
    exact .inl rfl
  | @andMore first others left right result head tail headIh tailIh =>
    obtain ⟨fuel, rfl⟩ := fuel_positive enough
    obtain ⟨_, lasts, rfl, spelledFirst, spelledRest⟩ := List.map_eq_append_iff.mp spelled
    obtain ⟨operator, firsts, rfl, isAnd, spelledFirst⟩ := List.map_eq_cons_iff.mp spelledFirst
    obtain ⟨next, more, tokens, follow⟩ := behind_phrase (andTail_head tail) spelledRest token rest
    have grows := (derives_nodes tail).1
    have endsFirst := ends_unary ends follow
    simp only [leftNodes, level, List.length_append, List.length_cons,
      Expression.nodeCount] at grows counted enough fits
    simp only [run, parseAndLoop, List.cons_append]
    refine .current ?_
    rw [if_pos isAnd, List.append_assoc, tokens]
    refine .advance (.bind (@headIh _ _ _ (nodes + right.nodeCount) _ _ _ spelledFirst endsFirst
      ?_ ?_ ?_) (.bind (.node ?_) ?_))
    · simp only [level]; omega
    · simp only [leftNodes]; omega
    · intro held; have := fits held; omega
    · intro held; have := fits held; omega
    · rw [← tokens]
      refine tailIh spelledRest ends ?_ ?_ ?_
      · simp only [level]; omega
      · simp only [leftNodes, Expression.nodeCount]; omega
      · intro held; have := fits held; omega
  | @not kinds inner derived ih =>
    obtain ⟨fuel, rfl⟩ := fuel_positive enough
    obtain ⟨operator, inners, rfl, isBang, spelledInner⟩ := List.map_eq_cons_iff.mp spelled
    simp only [leftNodes, level, List.length_cons, Expression.nodeCount] at counted enough fits
    simp only [run, parseUnary, List.cons_append]
    refine .ensureDepth (fun held => by have := fits held; omega) (.current ?_)
    rw [if_pos isBang]
    obtain rfl : after = nodes + inner.nodeCount + 1 := by omega
    refine .advance (.bind (ih spelledInner ends ?_ ?_ ?_) (.node ?_))
    · simp only [level]; omega
    · simp only [leftNodes]; omega
    · intro held; have := fits held; omega
    · intro held; have := fits held; omega
  | @primary kinds result derived ih =>
    obtain ⟨fuel, rfl⟩ := fuel_positive enough
    obtain ⟨kind, others, rfl, notBang⟩ := primary_head derived
    have inner := @ih fuel depth nodes after consumed rest token spelled ends
      (by simp only [level] at *; omega) counted fits
    obtain ⟨first, lasts, rfl, same, spelledRest⟩ := List.map_eq_cons_iff.mp spelled
    simp only [run, parseUnary, List.cons_append] at inner ⊢
    refine .ensureDepth (fun held => by have := fits held; omega) (.current ?_)
    rw [if_neg (same ▸ notBang)]
    exact inner
  | @paren kinds inner derived ih =>
    obtain ⟨fuel, rfl⟩ := fuel_positive enough
    obtain ⟨_, closers, rfl, spelledInner, spelledLast⟩ := List.map_eq_append_iff.mp spelled
    obtain ⟨opening, inners, rfl, opens, spelledInner⟩ := List.map_eq_cons_iff.mp spelledInner
    obtain ⟨closing, rfl, closes⟩ := List.map_eq_singleton_iff.mp spelledLast
    simp only [leftNodes, level, List.length_append, List.length_cons,
      List.length_nil] at counted enough fits
    simp only [run, parsePrimary, List.cons_append, List.append_assoc, List.nil_append]
    refine .current ?_
    rw [if_pos opens]
    refine .advance (.bind (@ih _ _ _ after _ _ _ spelledInner ?_ ?_ ?_ ?_) (.expect closes (.inl rfl)))
    · rw [closes]
      exact ⟨⟨by simp, by simp⟩, rfl, by simp, by simp⟩
    · simp only [level]; omega
    · simp only [leftNodes]; omega
    · intro held; have := fits held; omega
  | @existsPath kinds path derived =>
    obtain ⟨fuel, rfl⟩ := fuel_positive enough
    obtain ⟨_, closers, rfl, spelledInner, spelledLast⟩ := List.map_eq_append_iff.mp spelled
    obtain ⟨keyword, _, rfl, isKeyword, spelledInner⟩ := List.map_eq_cons_iff.mp spelledInner
    obtain ⟨opening, inners, rfl, opens, spelledInner⟩ := List.map_eq_cons_iff.mp spelledInner
    obtain ⟨closing, rfl, closes⟩ := List.map_eq_singleton_iff.mp spelledLast
    simp only [leftNodes, List.length_append, List.length_cons, List.length_nil,
      Expression.nodeCount] at counted fits
    obtain rfl : after = nodes + 1 := by omega
    simp only [run, parsePrimary, List.cons_append, List.append_assoc, List.nil_append]
    refine .current ?_
    rw [if_neg (by simp [isKeyword]), if_pos isKeyword]
    refine .advance (.expect opens (.bind (parsePath_complete derived spelledInner ?_ ?_)
      (.expect closes (.node ?_))))
    · rw [closes]
      exact ⟨by simp, by simp⟩
    · intro held; have := fits held; omega
    · intro held; have := fits held; omega
  | @compare lefts rights kind operator left right before compared behind =>
    obtain ⟨fuel, rfl⟩ := fuel_positive enough
    obtain ⟨head, others, rfl, _, notParen, notExists⟩ := operand_head before
    obtain ⟨firsts, _, rfl, spelledFirst, spelledRest⟩ := List.map_eq_append_iff.mp spelled
    obtain ⟨comparing, lasts, rfl, isComparison, spelledRest⟩ := List.map_eq_cons_iff.mp spelledRest
    simp only [leftNodes, List.length_append, List.length_cons,
      Expression.nodeCount] at counted fits
    obtain rfl : after = nodes + 1 := by omega
    have leftYields := @parseOperand_complete room limits _ _ firsts (lasts ++ token :: rest)
      comparing nodes before spelledFirst ?_ ?_
    · obtain ⟨first, firsts, rfl, same, _⟩ := List.map_eq_cons_iff.mp spelledFirst
      simp only [run, parsePrimary, List.cons_append, List.append_assoc] at leftYields ⊢
      refine .current ?_
      rw [if_neg (same ▸ notParen), if_neg (same ▸ notExists)]
      refine .bind leftYields (.current ?_)
      simp only [isComparison, compared]
      refine .advance (.bind (parseOperand_complete behind spelledRest ends.1 ?_) (.node ?_))
      · intro held; have := fits held; omega
      · intro held; have := fits held; omega
    · rw [isComparison]
      constructor <;> rintro rfl <;> simp [comparison] at compared
    · intro held; have := fits held; simp only [List.length_cons]; omega
  | @value kinds operand derived =>
    obtain ⟨fuel, rfl⟩ := fuel_positive enough
    obtain ⟨head, others, rfl, _, notParen, notExists⟩ := operand_head derived
    simp only [leftNodes, Expression.nodeCount] at counted
    obtain rfl : after = nodes + 1 := by omega
    have inner := @parseOperand_complete room limits _ _ consumed rest token nodes derived spelled
      ends.1 fun held => (fits held).2.1
    obtain ⟨first, firsts, rfl, same, _⟩ := List.map_eq_cons_iff.mp spelled
    simp only [run, parsePrimary, List.cons_append] at inner ⊢
    refine .current ?_
    rw [if_neg (same ▸ notParen), if_neg (same ▸ notExists)]
    refine .bind inner (.current ?_)
    rw [ends.2]
    exact .node fun held => (fits held).2.2

end Parser

end AgentMod
