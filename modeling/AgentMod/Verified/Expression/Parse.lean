import AgentMod.Verified.Expression.Completeness

/-! The parser accepts exactly the grammar, and what it returns respects the limits. -/

namespace AgentMod

open Grammar

/-- Readers of the literals that need neither an escape nor a sign, a fraction or an exponent. -/
@[reducible] def plainLiterals : SerdeJson where
  stringFromStr encoded :=
    let text := encoded.tail.dropLast
    if text.all fun character => !isControl character && character ≠ '\\' then
      some (String.ofList text)
    else none
  numberFromStr encoded :=
    let value := encoded.foldl (fun value digit => value * 10 + (digit.toNat - 48)) 0
    if bounded : value < 2 ^ 64 then
      if encoded.all isAsciiDigit && (encoded.length = 1 || encoded.head? ≠ some '0') then
        some (.posInt value bounded)
      else none
    else none

theorem derivable_unique {left right : Expression} (first : Derivable tokens left)
    (second : Derivable tokens right) : left = right := by
  -- Under limits that the list cannot exceed, the deterministic parser yields both trees.
  obtain ⟨kinds, spelled, derivedLeft⟩ := first
  obtain ⟨others, spelled', derivedRight⟩ := second
  obtain rfl : kinds = others := by
    rw [spelled] at spelled'
    exact List.append_cancel_right spelled'
  obtain ⟨consumed, last, rfl, same, isEnd⟩ := List.map_eq_append_iff.mp spelled
  obtain ⟨token, rfl, ends⟩ := List.map_eq_singleton_iff.mp isEnd
  have endsOr : Parser.Ends .or token.kind := by
    rw [ends]
    exact ⟨⟨by simp, by simp⟩, rfl, by simp, by simp⟩
  have yields : ∀ {tree}, Derives .or kinds tree →
      Parser.parseOr ⟨0, 1 + kinds.length, kinds.length, 0, kinds.length⟩ (4 * kinds.length + 4) 1
        ⟨consumed ++ [token], 0⟩ = .ok (tree, ⟨[token], tree.nodeCount⟩) := by
    intro tree derived
    have bounded := (Parser.derives_nodes derived).2
    have yielded : Parser.Yields True
        (Parser.run ⟨0, 1 + kinds.length, kinds.length, 0, kinds.length⟩ .or (4 * kinds.length + 4) 1)
        ⟨consumed ++ token :: [], 0⟩ tree ⟨token :: [], tree.nodeCount⟩ :=
      Parser.run_complete derived same endsOr (Nat.le_refl _) (by simp [Parser.leftNodes])
        (fun _ => ⟨Nat.le_refl _, Nat.le_refl _, by simpa [Parser.leftNodes] using bounded⟩)
    rcases yielded with parsed | ⟨cramped, _⟩
    · exact parsed
    · exact absurd trivial cramped
  have both := (yields derivedLeft).symm.trans (yields derivedRight)
  simp only [Except.ok.injEq, Prod.mk.injEq] at both
  exact both.1

theorem expressionDepth_le_nodeCount (expression : Expression) :
    expressionDepth expression ≤ expression.nodeCount := by
  induction expression with
  | value | compare | existsPath => exact Nat.le_refl _
  | not _ ih => simp only [expressionDepth, Expression.nodeCount]; omega
  | and _ _ left right | or _ _ left right =>
    simp only [expressionDepth, Expression.nodeCount]
    omega

namespace Expression

theorem expectEnd_eq_ok {parser : Parser} {value : Unit × Parser} :
    Parser.expectEnd parser = .ok value ↔
      ∃ token rest, parser.tokens = token :: rest ∧ token.kind = .finish ∧ ((), parser) = value := by
  obtain ⟨⟨⟩, result⟩ := value
  simp only [Parser.expectEnd, Parser.sequence_eq_ok, Parser.current_eq_ok]
  constructor
  · rintro ⟨token, _, ⟨rest, tokens, rfl⟩, checked⟩
    by_cases ended : token.kind = .finish
    · simp only [ended, if_true, Parser.return_eq_ok] at checked
      exact ⟨token, rest, tokens, ended, by rw [checked.2]⟩
    · simp [ended] at checked
  · rintro ⟨token, rest, tokens, ended, same⟩
    obtain rfl : parser = result := by simpa using same
    exact ⟨token, parser, ⟨rest, tokens, rfl⟩, by simp [ended]⟩

section Contract

variable [SerdeJson] {source : String} {limits : ExpressionLimits} {tokens : List Token}
  {expression : Expression}

theorem parse_eq_ok : Expression.parse source limits = .ok expression ↔
    source.utf8ByteSize ≤ limits.maxInputBytes ∧
    ¬ (limits.maxNodes = 0 ∨ limits.maxDepth = 0 ∨ limits.maxPathSegments = 0) ∧
    ∃ tokens, Lexer.tokenize ⟨source.toList, 0, limits⟩ = .ok tokens ∧
      ∃ parser, Parser.parseExpression limits ⟨tokens, 0⟩ = .ok (expression, parser) ∧
        (∃ token rest, parser.tokens = token :: rest ∧ token.kind = .finish) ∧
        expressionDepth expression ≤ limits.maxDepth := by
  simp only [Expression.parse, bind_eq_ok, refuseIf_eq_ok, exists_unit, gt_iff_lt, Nat.not_lt]
  refine and_congr_right fun _ => and_congr_right fun _ => exists_congr fun tokens =>
    and_congr_right fun _ => ?_
  constructor
  · rintro ⟨⟨tree, parser⟩, parsed, value, ended, bounded, same⟩
    obtain ⟨token, rest, tokens, last, _⟩ := expectEnd_eq_ok.mp ended
    obtain rfl : tree = expression := by simpa using same
    exact ⟨parser, parsed, ⟨token, rest, tokens, last⟩, bounded⟩
  · rintro ⟨parser, parsed, ⟨token, rest, tokens, last⟩, bounded⟩
    exact ⟨(expression, parser), parsed, _,
      expectEnd_eq_ok.mpr ⟨token, rest, tokens, last, rfl⟩, bounded, rfl⟩

/-- A returned expression is derived from all tokens in front of the end marker, within limits. -/
theorem parse_sound (parsed : Expression.parse source limits = .ok expression) :
    expression.Within limits ∧
      ∃ tokens, Lexer.tokenize ⟨source.toList, 0, limits⟩ = .ok tokens ∧
        Derivable tokens expression := by
  obtain ⟨_, admits, tokens, lexed, parser, parsed, ⟨token, rest, remaining, last⟩, depth⟩ :=
    parse_eq_ok.mp parsed
  obtain ⟨body, shape, ordinary⟩ := Lexer.tokenize_shape lexed
  have within : ∀ kind ∈ Parser.kinds ⟨tokens, 0⟩, kind.Within limits := by
    intro kind member
    simp only [Parser.kinds, shape, List.map_append, List.mem_append, List.mem_map] at member
    rcases member with ⟨token, member, rfl⟩ | ⟨token, member, rfl⟩
    · exact (ordinary token member).2
    · obtain rfl := List.mem_singleton.mp member
      simp [TokenKind.Within]
  have sound : Parser.Parsed limits .or _ _ _ :=
    Parser.run_sound (by omega) parsed within (Nat.zero_le _) (by simp [Parser.leftOperands])
  have counted := sound.counted
  have bounded := sound.bounded
  simp only [Parser.leftNodes] at counted
  refine ⟨⟨depth, by omega, sound.operands⟩, tokens, lexed, ?_⟩
  -- The end marker is the last token, so nothing stands behind the one the parser stopped at.
  obtain ⟨consumed, spelled, derived⟩ := sound.consumes
  refine ⟨consumed, ?_, derived⟩
  simp only [Parser.kinds, remaining, List.map_cons, last] at spelled
  suffices rest = [] by simpa [this] using spelled
  rcases List.eq_nil_or_concat rest with none | ⟨front, final, some⟩
  · exact none
  · simp only [shape, some, List.map_append, List.concat_eq_append, List.map_cons, List.map_nil,
      ← List.append_assoc, ← List.cons_append] at spelled
    have before := (List.append_inj' spelled rfl).1
    obtain ⟨token, member, isEnd⟩ := List.mem_map.mp
      (before ▸ List.mem_append_right consumed List.mem_cons_self)
    exact absurd isEnd (ordinary token member).1

/-- A derivable token list is parsed into its tree, unless a limit is exceeded on the way. -/
theorem parse_complete (lexed : Lexer.tokenize ⟨source.toList, 0, limits⟩ = .ok tokens)
    (derived : Derivable tokens expression) :
    Expression.parse source limits = .ok expression ∨
      ¬ limits.Suffices source tokens ∧
        ∃ error : ParseError, error.LimitExceeded ∧
          Expression.parse source limits = reject error := by
  obtain ⟨kinds, spelled, derived⟩ := derived
  obtain ⟨consumed, last, rfl, same, isEnd⟩ := List.map_eq_append_iff.mp spelled
  obtain ⟨token, rfl, ends⟩ := List.map_eq_singleton_iff.mp isEnd
  have length : consumed.length = kinds.length := by rw [← same, List.length_map]
  have endsOr : Parser.Ends .or token.kind := by
    rw [ends]
    exact ⟨⟨by simp, by simp⟩, rfl, by simp, by simp⟩
  have nodes := (Parser.derives_nodes derived).2
  have depth := expressionDepth_le_nodeCount expression
  simp only [Parser.leftNodes, Nat.add_zero] at nodes
  have positive : 0 < (consumed ++ [token]).length := by simp
  simp only [List.length_append, List.length_singleton] at positive
  -- The checks before the lexer and the one behind the parser are all about limits.
  by_cases input : source.utf8ByteSize > limits.maxInputBytes
  · refine .inr ⟨fun room => Nat.not_le_of_lt input room.input,
      .inputTooLong source.utf8ByteSize limits.maxInputBytes, trivial, ?_⟩
    simp only [Expression.parse, refuseIf, if_pos input]
    rfl
  by_cases admits : limits.maxNodes = 0 ∨ limits.maxDepth = 0 ∨ limits.maxPathSegments = 0
  · refine .inr ⟨fun room => ?_, .invalidLimits, trivial, ?_⟩
    · have := room.nodes
      have := room.depth
      have := room.segments
      simp only [List.length_append, List.length_singleton] at *
      omega
    · simp only [Expression.parse, refuseIf, if_neg input, if_pos admits]
      rfl
  have yielded : Parser.Yields (limits.Suffices source (consumed ++ [token]))
      (Parser.run limits .or (Parser.loopFuel (consumed ++ [token])) 1)
      ⟨consumed ++ token :: [], 0⟩ expression ⟨token :: [], expression.nodeCount⟩ := by
    refine Parser.run_complete derived same endsOr ?_ (by simp [Parser.leftNodes]) ?_
    · simp only [Parser.level, Parser.loopFuel, List.length_append, List.length_singleton]
      omega
    · intro room
      have := room.nodes
      have := room.depth
      have := room.segments
      simp only [List.length_append, List.length_singleton] at *
      omega
  rcases yielded with parsed | ⟨cramped, error, exceeded, stopped⟩
  · by_cases deep : expressionDepth expression > limits.maxDepth
    · refine .inr ⟨fun room => ?_, .depthExceeded limits.maxDepth, trivial, ?_⟩
      · have := room.depth
        simp only [List.length_append, List.length_singleton] at this
        omega
      · have ended : Parser.expectEnd ⟨[token], expression.nodeCount⟩ = .ok ((), _) :=
          expectEnd_eq_ok.mpr ⟨token, [], rfl, ends, rfl⟩
        change Parser.parseExpression limits ⟨_, 0⟩ = _ at parsed
        simp only [Expression.parse, refuseIf, if_neg input, if_neg admits, lexed, parsed, ended,
          if_pos deep, Bind.bind, Except.bind]
        rfl
    · refine .inl (parse_eq_ok.mpr ⟨by omega, admits, _, lexed, _, parsed,
        ⟨token, [], rfl, ends⟩, by omega⟩)
  · refine .inr ⟨cramped, error, exceeded, ?_⟩
    change Parser.parseExpression limits ⟨_, 0⟩ = _ at stopped
    simp only [Expression.parse, refuseIf, if_neg input, if_neg admits, lexed, stopped,
      Bind.bind, Except.bind, reject]

/-- The parser accepts exactly the grammar, with its one tree, and never exceeds its limits. -/
theorem parse_grammar (source : String) (limits : ExpressionLimits) :
    (∀ tokens, Lexer.tokenize ⟨source.toList, 0, limits⟩ = .ok tokens →
      (limits.Suffices source tokens ∨ (∀ error : ParseError, error.LimitExceeded →
          Expression.parse source limits ≠ reject error) →
        ((∃ expression, Expression.parse source limits = .ok expression) ↔
          ∃ expression, Derivable tokens expression)) ∧
      ∀ expression, Expression.parse source limits = .ok expression →
        Derivable tokens expression ∧
          ∀ other, Derivable tokens other → other = expression) ∧
    ∀ expression, Expression.parse source limits = .ok expression →
      expression.Within limits := by
  refine ⟨fun tokens lexed => ?_, fun expression parsed => (parse_sound parsed).1⟩
  have sound : ∀ expression, Expression.parse source limits = .ok expression →
      Derivable tokens expression := by
    intro expression parsed
    obtain ⟨_, others, again, derived⟩ := parse_sound parsed
    obtain rfl : tokens = others := by simpa [lexed] using again
    exact derived
  refine ⟨fun room => ⟨?_, ?_⟩, fun expression parsed =>
    ⟨sound expression parsed, fun other derived => derivable_unique derived (sound _ parsed)⟩⟩
  · rintro ⟨expression, parsed⟩
    exact ⟨expression, sound expression parsed⟩
  · rintro ⟨expression, derived⟩
    rcases parse_complete lexed derived with parsed | ⟨cramped, error, exceeded, stopped⟩
    · exact ⟨expression, parsed⟩
    · rcases room with suffices' | spared
      · exact absurd suffices' cramped
      · exact absurd stopped (spared error exceeded)

end Contract

/-- Negation binds tighter than conjunction, and conjunction tighter than disjunction. -/
theorem parse_grammar_mixed :
    let _ := plainLiterals
    let source := "!ready && b || c[1] == \"x\""
    let tree := Expression.or
      (.and (.not (.value (.path ⟨[.key "ready"]⟩))) (.value (.path ⟨[.key "b"]⟩)))
      (.compare (.path ⟨[.key "c", .index 1]⟩) .equal (.literal (.string "x")))
    ∃ tokens, Lexer.tokenize ⟨source.toList, 0, .default⟩ = .ok tokens ∧
      (∃ expression, Derivable tokens expression) ∧
      Derivable tokens tree ∧ (∀ other, Derivable tokens other → other = tree) ∧
      tree.Within .default := by
  intro _ source tree
  let kinds : List (TokenKind × Nat) := [(.bang, 0), (.identifier "ready", 1), (.and, 7),
    (.identifier "b", 10), (.or, 12), (.identifier "c", 15), (.leftBracket, 16),
    (.number (.posInt 1 one_lt_word), 17), (.rightBracket, 18), (.equal, 20), (.string "x", 23),
    (.finish, 26)]
  let tokens := kinds.map fun kind => Token.mk kind.1 kind.2
  have lexed : Lexer.tokenize ⟨source.toList, 0, .default⟩ = .ok tokens := by decide
  have parsed : Expression.parse source .default = .ok tree := by decide +kernel
  have room : ExpressionLimits.default.Suffices source tokens :=
    ⟨by decide, by decide, by decide, by decide⟩
  obtain ⟨grammar, within⟩ := parse_grammar source .default
  obtain ⟨accepts, unique⟩ := grammar tokens lexed
  obtain ⟨derived, only⟩ := unique tree parsed
  exact ⟨tokens, lexed, (accepts (.inl room)).mp ⟨tree, parsed⟩, derived, only, within tree parsed⟩

end Expression

end AgentMod
