import AgentMod.Verified.Pipeline.Ordering

/-! When the diagnostics, and so the outcome, do not depend on the order of the registrations. -/

namespace AgentMod

section Texts

theorem append_separator_inj {α : Type} {separator : α} {left right first second : List α}
    (clean : separator ∉ first) (clean' : separator ∉ second)
    (same : left ++ separator :: first = right ++ separator :: second) : left = right := by
  -- A longer left part would leave a separator behind the other one.
  rcases List.append_eq_append_iff.mp same with ⟨between, rfl, rest⟩ | ⟨between, rfl, rest⟩
  all_goals
    cases between with
    | nil => simp
    | cons head tail =>
      rw [List.cons_append] at rest
      cases rest
      simp_all

theorem duplicateHandler_display_inj {handler other : HandlerId} {count counted : Nat}
    (same : (CompileDiagnostic.duplicateHandler handler count).display =
      (CompileDiagnostic.duplicateHandler other counted).display) : handler = other := by
  simp only [CompileDiagnostic.display, CompileDiagnostic.code, String.append_assoc,
    String.append_right_inj] at same
  have digits : ∀ number : Nat, '`' ∉ (toString number).toList := by
    intro number listed
    have digit := Nat.isDigit_of_mem_toDigits (by decide) (by decide)
      (by simpa [toString, Nat.repr] using listed : '`' ∈ Nat.toDigits 10 number)
    exact absurd digit (by decide)
  have clean : ∀ number : Nat,
      '`' ∉ " is registered ".toList ++ ((toString number).toList ++ " times".toList) := by
    intro number
    simp only [List.mem_append, not_or]
    exact ⟨by decide, digits number, by decide⟩
  have listed := congrArg String.toList same
  simp only [String.toList_append] at listed
  exact String.toList_inj.mp (append_separator_inj (clean count) (clean counted) listed)

theorem missingDependency_display_inj {handler missing missed : HandlerId}
    {relation direction : ConstraintRelation}
    (same : (CompileDiagnostic.missingDependency handler missing relation).display =
      (CompileDiagnostic.missingDependency handler missed direction).display) :
    missing = missed ∧ relation = direction := by
  simp only [CompileDiagnostic.display, CompileDiagnostic.code, String.append_assoc,
    String.append_right_inj] at same
  have directions : relation = direction := by
    have first := congrArg (fun text => text.toList.head?) same
    revert first
    cases relation <;> cases direction <;> simp [ConstraintRelation.text]
  subst directions
  simpa only [String.append_right_inj, String.append_left_inj, and_true] using same

end Texts

section Diagnostics

variable {specifications permuted : List OrderingSpec}

/-- All diagnostics of some registrations, before they are sorted. -/
def allDiagnostics (specifications : List OrderingSpec) : List CompileDiagnostic :=
  duplicateHandlers (registrationCounts specifications) ++
    specifications.flatMap (missingDependencies (knownHandlers specifications))

theorem allDiagnostics_eq_nil : allDiagnostics specifications = [] ↔ Declared specifications := by
  rw [allDiagnostics, List.append_eq_nil_iff, duplicateHandlers_eq_nil, missingDependencies_eq_nil]
  exact ⟨fun ⟨unique, exist⟩ => ⟨unique, exist⟩, fun declared => ⟨declared.unique, declared.exist⟩⟩

theorem compileOrder_of_declared (declared : Declared specifications) :
    compileOrder specifications = orderHandlers (specificationsById specifications)
      (declaredGraph specifications) specifications.length :=
  if_neg (not_not.mpr (allDiagnostics_eq_nil.mpr declared))

theorem compileOrder_of_not_declared (invalid : ¬ Declared specifications) :
    compileOrder specifications = reject ⟨sortDiagnostics (allDiagnostics specifications)⟩ :=
  if_pos (mt allDiagnostics_eq_nil.mp invalid)

theorem mem_missingDependencies {diagnostic : CompileDiagnostic} :
    diagnostic ∈ specifications.flatMap (missingDependencies (knownHandlers specifications)) ↔
      ∃ handler missing relation, Unresolved specifications handler missing relation ∧
        diagnostic = .missingDependency handler missing relation := by
  simp only [List.mem_flatMap, missingDependencies, List.mem_map, List.mem_filter,
    Bool.not_eq_true', ← Bool.not_eq_true, Std.ExtTreeSet.contains_iff_mem, mem_knownHandlers,
    Unresolved]
  constructor
  · rintro ⟨specification, member, relation, _, missing, ⟨listed, absent⟩, rfl⟩
    exact ⟨_, missing, relation, ⟨absent, specification, member, rfl, listed⟩, rfl⟩
  · rintro ⟨_, missing, relation, ⟨absent, specification, member, rfl, listed⟩, rfl⟩
    exact ⟨specification, member, relation, by cases relation <;> simp, missing, ⟨listed, absent⟩, rfl⟩

theorem mem_duplicateHandlers {diagnostic : CompileDiagnostic}
    (reported : diagnostic ∈ duplicateHandlers (registrationCounts specifications)) :
    ∃ handler, diagnostic = .duplicateHandler handler
      ((specifications.map OrderingSpec.handler).count handler) := by
  obtain ⟨⟨handler, count⟩, listed, rfl⟩ := List.mem_map.mp reported
  have found := Std.ExtTreeMap.mem_toList_iff_getElem?_eq_some.mp (List.mem_filter.mp listed).1
  exact ⟨handler, by rw [(getElem?_registrationCounts.mp found).2]⟩

theorem Unambiguous.apart (unambiguous : Unambiguous specifications)
    {first second : CompileDiagnostic} (inFirst : first ∈ allDiagnostics specifications)
    (inSecond : second ∈ allDiagnostics specifications)
    (equal : CompileDiagnostic.order first second = .eq) : first = second := by
  simp only [CompileDiagnostic.order, compareLex_eq_eq, compareOn,
    Std.LawfulEqCmp.compare_eq_iff_eq] at equal
  obtain ⟨code, text⟩ := equal
  rcases List.mem_append.mp inFirst with duplicate | missing <;>
    rcases List.mem_append.mp inSecond with duplicate' | missing'
  · obtain ⟨handler, rfl⟩ := mem_duplicateHandlers duplicate
    obtain ⟨other, rfl⟩ := mem_duplicateHandlers duplicate'
    rw [duplicateHandler_display_inj text]
  · obtain ⟨handler, rfl⟩ := mem_duplicateHandlers duplicate
    obtain ⟨_, _, _, _, rfl⟩ := mem_missingDependencies.mp missing'
    simp [CompileDiagnostic.code] at code
  · obtain ⟨handler, rfl⟩ := mem_duplicateHandlers duplicate'
    obtain ⟨_, _, _, _, rfl⟩ := mem_missingDependencies.mp missing
    simp [CompileDiagnostic.code] at code
  · obtain ⟨handler, _, _, unresolved, rfl⟩ := mem_missingDependencies.mp missing
    obtain ⟨_, _, _, unresolved', rfl⟩ := mem_missingDependencies.mp missing'
    obtain rfl := unambiguous _ _ _ _ _ _ unresolved unresolved' text
    obtain ⟨rfl, rfl⟩ := missingDependency_display_inj text
    rfl

/-- Diagnostics are ordered transitively. -/
instance : Std.TransCmp CompileDiagnostic.order :=
  inferInstanceAs (Std.TransCmp (compareLex _ _))

theorem allDiagnostics_perm (same : specifications.Perm permuted) :
    (allDiagnostics specifications).Perm (allDiagnostics permuted) := by
  rw [allDiagnostics, allDiagnostics, registrationCounts_perm same, knownHandlers_perm same]
  exact (same.flatMap_right _).append_left _

theorem Unambiguous.deterministic (unambiguous : Unambiguous specifications)
    (same : specifications.Perm permuted) : compileOrder permuted = compileOrder specifications := by
  by_cases declared : Declared specifications
  · rw [compileOrder_of_declared declared, compileOrder_of_declared (declared.perm same),
      declared.graph_perm same, declared.byId_perm same, same.length_eq]
  · have invalid : ¬ Declared permuted := fun valid => declared (valid.perm same.symm)
    rw [compileOrder_of_not_declared declared, compileOrder_of_not_declared invalid, sortDiagnostics,
      sortDiagnostics, sortBy_eq (allDiagnostics_perm same)
        fun first inFirst second inSecond => unambiguous.apart inFirst inSecond]

/-- Whether a diagnostic reports a missing dependency with a text. -/
def reports (text : String) (diagnostic : CompileDiagnostic) : Bool :=
  diagnostic.code == "PIPE002" && diagnostic.display == text

theorem order_of_reports {text : String} (first second : CompileDiagnostic)
    (reported : reports text first) (reported' : reports text second) :
    CompileDiagnostic.order first second = .eq := by
  simp only [reports, Bool.and_eq_true, beq_iff_eq] at reported reported'
  simp only [CompileDiagnostic.order, compareLex_eq_eq, compareOn,
    Std.LawfulEqCmp.compare_eq_iff_eq]
  exact ⟨reported.1.trans reported'.1.symm, reported.2.trans reported'.2.symm⟩

/-- The first diagnostic with the text of an unresolved constraint comes from the first registration,
when that declares it. -/
theorem filter_reports {specification : OrderingSpec} {rest : List OrderingSpec}
    {missing : HandlerId} {relation : ConstraintRelation}
    (listed : missing ∈ specification.named relation)
    (absent : ¬ Registered (specification :: rest) missing) : ∃ missed direction tail,
      (allDiagnostics (specification :: rest)).filter (reports
        (CompileDiagnostic.missingDependency specification.handler missing relation).display) =
          .missingDependency specification.handler missed direction :: tail := by
  let text := (CompileDiagnostic.missingDependency specification.handler missing relation).display
  let known := knownHandlers (specification :: rest)
  have duplicates : (duplicateHandlers (registrationCounts (specification :: rest))).filter
      (reports text) = [] := by
    refine List.filter_eq_nil_iff.mpr fun diagnostic reported => ?_
    obtain ⟨handler, rfl⟩ := mem_duplicateHandlers reported
    simp [reports, CompileDiagnostic.code]
  have found : CompileDiagnostic.missingDependency specification.handler missing relation ∈
      (missingDependencies known specification).filter (reports text) := by
    refine List.mem_filter.mpr ⟨?_, by simp [reports, CompileDiagnostic.code, text]⟩
    simp only [missingDependencies, List.mem_flatMap, List.mem_map, List.mem_filter]
    refine ⟨relation, by cases relation <;> simp, missing, ⟨listed, ?_⟩, rfl⟩
    rw [Bool.not_eq_true', ← Bool.not_eq_true, Std.ExtTreeSet.contains_iff_mem]
    exact mt mem_knownHandlers.mp absent
  -- All diagnostics of the first registration name its handler.
  obtain ⟨first, tail, split⟩ := List.exists_cons_of_ne_nil (List.ne_nil_of_mem found)
  have member : first ∈ missingDependencies known specification :=
    (List.mem_filter.mp (split ▸ List.mem_cons_self)).1
  simp only [missingDependencies, List.mem_flatMap, List.mem_map] at member
  obtain ⟨direction, _, missed, _, rfl⟩ := member
  refine ⟨missed, direction, tail ++ (rest.flatMap (missingDependencies known)).filter (reports text),
    ?_⟩
  rw [allDiagnostics, List.filter_append, duplicates, List.nil_append, List.flatMap_cons,
    List.filter_append, split, List.cons_append]

theorem Unresolved.not_declared {handler missing : HandlerId} {relation : ConstraintRelation}
    (unresolved : Unresolved specifications handler missing relation) : ¬ Declared specifications := by
  obtain ⟨absent, specification, member, _, listed⟩ := unresolved
  exact fun declared => absent (declared.exist specification member relation missing listed)

theorem unambiguous_of_deterministic (deterministic : ∀ permuted, specifications.Perm permuted →
    compileOrder permuted = compileOrder specifications) : Unambiguous specifications := by
  intro handler missing relation other missed direction unresolved unresolved' same
  -- Whichever of the two handlers registers first is reported first.
  have sorted : ∀ specification ∈ specifications, ∃ rest,
      specifications.Perm (specification :: rest) ∧
      sortDiagnostics (allDiagnostics (specification :: rest)) =
        sortDiagnostics (allDiagnostics specifications) := by
    intro specification member
    obtain ⟨earlier, later, split⟩ := List.append_of_mem member
    have perm : specifications.Perm (specification :: (earlier ++ later)) :=
      split ▸ List.perm_middle
    have invalid := unresolved.not_declared
    have compiled := deterministic _ perm
    rw [compileOrder_of_not_declared invalid,
      compileOrder_of_not_declared fun valid => invalid (valid.perm perm.symm)] at compiled
    simp only [reject, Except.error.injEq, Halt.error.injEq, CompileError.mk.injEq] at compiled
    exact ⟨_, perm, compiled⟩
  obtain ⟨absent, specification, member, rfl, listed⟩ := unresolved
  obtain ⟨absent', specification', member', rfl, listed'⟩ := unresolved'
  obtain ⟨rest, perm, first⟩ := sorted specification member
  obtain ⟨rest', perm', second⟩ := sorted specification' member'
  obtain ⟨_, _, tail, found⟩ := filter_reports listed (mt (registered_perm perm).mpr absent)
  obtain ⟨_, _, tail', found'⟩ := filter_reports listed' (mt (registered_perm perm').mpr absent')
  have filtered := congrArg (List.filter (reports (CompileDiagnostic.missingDependency
    specification.handler missing relation).display)) (first.trans second.symm)
  rw [sortDiagnostics, sortDiagnostics, filter_sortBy order_of_reports,
    filter_sortBy order_of_reports, found, same, found'] at filtered
  exact (CompileDiagnostic.missingDependency.inj (List.cons.inj filtered).1).1

theorem follows_of_compileOrder {order : CompiledOrder}
    (compiled : compileOrder specifications = .ok order) :
    Declared specifications ∧ FollowsConstraints specifications order.handlers := by
  by_cases declared : Declared specifications
  · refine ⟨declared, ?_⟩
    rw [compileOrder_of_declared declared] at compiled
    rcases declared.ordersOrCycles with ⟨other, ordered, _, follows⟩ | ⟨path, cycled, _⟩
    · rw [ordered] at compiled
      cases compiled
      exact follows
    · rw [cycled] at compiled
      cases compiled
  · rw [compileOrder_of_not_declared declared] at compiled
    cases compiled

theorem OrdersHandlers.of_ok {order : CompiledOrder}
    (compiled : compileOrder specifications = .ok order) (well : WellDeclared specifications)
    (follows : FollowsConstraints specifications order.handlers)
    (deterministic : ∀ permuted, specifications.Perm permuted →
      compileOrder permuted = compileOrder specifications) : OrdersHandlers specifications where
  returns := ⟨.ok order, compiled⟩
  succeeds := ⟨fun _ => well, fun _ => ⟨order, compiled⟩⟩
  follows other same := by
    rw [compiled] at same
    cases same
    exact follows
  cycles error path same := by
    rw [compiled] at same
    cases same
  deterministic := deterministic

theorem OrdersHandlers.of_rejected {error : CompileError}
    (compiled : compileOrder specifications = reject error) (invalid : ¬ WellDeclared specifications)
    (cycles : ∀ path, .orderingCycle path ∈ error.diagnostics → ClosedCycle specifications path)
    (deterministic : ∀ permuted, specifications.Perm permuted →
      compileOrder permuted = compileOrder specifications) : OrdersHandlers specifications where
  returns := ⟨.error error, compiled⟩
  succeeds := by
    refine ⟨fun ⟨order, same⟩ => ?_, fun well => absurd well invalid⟩
    rw [compiled] at same
    cases same
  follows order same := by
    rw [compiled] at same
    cases same
  cycles other path same := by
    rw [compiled] at same
    cases same
    exact cycles path
  deterministic := deterministic

/-- Handlers compile into an order that follows their constraints, or are reported: always in the same
way exactly when the texts of unresolved constraints tell their handlers apart. -/
theorem orders_handlers_iff :
    OrdersHandlers specifications ↔ Unambiguous specifications := by
  refine ⟨fun orders => unambiguous_of_deterministic orders.deterministic, fun unambiguous => ?_⟩
  have deterministic := fun permuted (same : specifications.Perm permuted) =>
    unambiguous.deterministic same
  by_cases declared : Declared specifications
  · have compiled := compileOrder_of_declared declared
    rcases declared.ordersOrCycles with ⟨order, ordered, acyclic, follows⟩ | ⟨path, cycled, cyclic, closed⟩
    · exact .of_ok (compiled.trans ordered) ⟨declared.unique, declared.exist, acyclic⟩ follows
        deterministic
    · refine .of_rejected (compiled.trans cycled) (fun well => cyclic well.acyclic) ?_ deterministic
      intro other reported
      cases List.mem_singleton.mp reported
      exact closed
  · refine .of_rejected (compileOrder_of_not_declared declared)
      (fun well => declared ⟨well.unique, well.exist⟩) ?_ deterministic
    -- Only duplicates and missing dependencies are reported together.
    intro path reported
    rcases List.mem_append.mp (sortBy_perm.subset reported) with duplicate | missing
    · obtain ⟨_, same⟩ := mem_duplicateHandlers duplicate
      cases same
    · obtain ⟨_, _, _, _, same⟩ := mem_missingDependencies.mp missing
      cases same

end Diagnostics

/-- Two registrations whose unresolved constraints are reported with the same text. -/
def ambiguousRegistrations : List OrderingSpec :=
  [ { handler := "a", plugin := "p", stage := 0, priority := 0
      before := ["b` declares `before` constraint on missing handler `c"], after := [] },
    { handler := "a` declares `before` constraint on missing handler `b", plugin := "p", stage := 0
      priority := 0, before := ["c"], after := [] } ]

set_option maxRecDepth 8000 in
/-- The ambiguous registrations are reported in the order in which they register. -/
theorem not_orders_handlers : ¬ OrdersHandlers ambiguousRegistrations := by
  intro orders
  have swapped := orders.deterministic ambiguousRegistrations.reverse
    (List.reverse_perm ambiguousRegistrations).symm
  exact absurd swapped (by decide)

end AgentMod
