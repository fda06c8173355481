import AgentMod.Verified.Graph.Build
import AgentMod.Verified.Graph.Region
import AgentMod.Verified.Primitives.Collections
import AgentMod.Variables.Runs

/-! Which compiled graphs the runtime can create an environment for. -/

namespace AgentMod

section Limits

/-- What the compiler lets pass is in bounds at runtime, up to the number of variables. -/
structure CompilerLimits.Fits (limits : CompilerLimits) (runtime : VariableEnvironmentLimits) :
    Prop where
  names : limits.maxNameBytes ≤ 256
  depth : limits.maxValueDepth ≤ runtime.maxValueDepth
  items : limits.maxConfigurationItems ≤ runtime.maxValueItems
  bytes : limits.maxConfigurationBytes ≤ runtime.maxEnvironmentBytes

theorem CompilerLimits.fits_default : CompilerLimits.default.Fits .default where
  names := by decide
  depth := by decide
  items := by decide
  bytes := by decide

variable {limits : CompilerLimits} {runtime : VariableEnvironmentLimits}

theorem isControl_eq_false {character : Char}
    (named : isAsciiAlphanumeric character || "_.:/-".toList.contains character) :
    isControl character = false := by
  rw [Bool.or_eq_true] at named
  rcases named with alphanumeric | special
  · simp only [isAsciiAlphanumeric, isAsciiAlphabetic, isAsciiDigit, Bool.or_eq_true,
      Bool.and_eq_true, decide_eq_true_eq] at alphanumeric
    simp only [isControl, Bool.or_eq_false_iff, decide_eq_false_iff_not, Bool.and_eq_false_iff]
    omega
  · have listed : character ∈ ['_', '.', ':', '/', '-'] := by simpa using special
    simp only [List.mem_cons, List.not_mem_nil, or_false] at listed
    rcases listed with rfl | rfl | rfl | rfl | rfl <;> rfl

theorem isName_spec {value : String} {maximum : Nat} (named : isName value maximum) :
    value.isEmpty = false ∧ value.utf8ByteSize ≤ maximum ∧ value.toList.any isControl = false := by
  simp only [isName, Bool.and_eq_true, Bool.not_eq_true', decide_eq_true_eq, List.all_eq_true]
    at named
  obtain ⟨⟨nonempty, bounded⟩, characters⟩ := named
  exact ⟨nonempty, bounded, List.any_eq_false.mpr fun character member =>
    Bool.not_eq_true _ ▸ isControl_eq_false (characters character member)⟩

/-- The runtime accepts every type that the compiler accepts. -/
theorem validateDeclaredType_of_compiled (fits : limits.Fits runtime) {name : String}
    {type : VariableValueType} {depth : Nat}
    (accepted : validateVariableType limits name type depth = .ok ()) :
    validateDeclaredType runtime type depth = .ok () := by
  have shallow (nested : Nat) (bounded : ¬ nested > limits.maxValueDepth) :
      ¬ nested > runtime.maxValueDepth := by
    have := fits.depth
    omega
  have few (items : Nat) (bounded : items ≠ 0 ∧ ¬ items > limits.maxConfigurationItems) :
      items ≠ 0 ∧ ¬ items > runtime.maxValueItems := by
    have := fits.items
    omega
  induction type, depth using validateDeclaredType.induct with
  | case1 values depth =>
    simp only [validateVariableType, validateDeclaredType, bind_eq_ok, exists_unit, rejectIf_eq_ok,
      refuseIf_eq_ok, forM_eq_ok, validateName_eq_ok, not_or] at accepted ⊢
    obtain ⟨bounded, ⟨nonempty, _⟩, names⟩ := accepted
    refine ⟨shallow depth bounded, nonempty, ?_⟩
    rw [List.any_eq_true]
    rintro ⟨value, member, invalid⟩
    obtain ⟨present, _, characters⟩ := isName_spec (names value member)
    simp [present, characters] at invalid
  | case2 itemType maxItems depth ih =>
    simp only [validateVariableType, validateDeclaredType, bind_eq_ok, exists_unit, rejectIf_eq_ok,
      refuseIf_eq_ok, not_or] at accepted ⊢
    obtain ⟨bounded, items, nested⟩ := accepted
    exact ⟨shallow depth bounded, few maxItems items, ih nested⟩
  | case3 valueType maxEntries depth ih =>
    simp only [validateVariableType, validateDeclaredType, bind_eq_ok, exists_unit, rejectIf_eq_ok,
      refuseIf_eq_ok, not_or] at accepted ⊢
    obtain ⟨bounded, entries, nested⟩ := accepted
    exact ⟨shallow depth bounded, few maxEntries entries, ih nested⟩
  | case4 type depth notEnum notList notMap =>
    -- A type without parts is only bounded in its depth.
    cases type with
    | enum values => exact absurd rfl (notEnum values)
    | list itemType maxItems => exact absurd rfl (notList itemType maxItems)
    | map valueType maxEntries => exact absurd rfl (notMap valueType maxEntries)
    | _ =>
      simp only [validateVariableType, validateDeclaredType, rejectIf_eq_ok,
        refuseIf_eq_ok] at accepted ⊢
      exact shallow depth accepted

theorem mergeCompatible_of_compiled {declaration : VariableDeclaration}
    (accepted : validateVariableMergePolicy declaration = .ok ()) :
    mergeCompatible declaration.mergePolicy declaration.valueType ∧
      (declaration.mergePolicy.isSome → declaration.mutability = .mutable) := by
  unfold validateVariableMergePolicy at accepted
  cases declared : declaration.mergePolicy with
  | none => exact ⟨rfl, by simp⟩
  | some policy =>
    simp only [declared, bind_eq_ok, exists_unit, rejectIf_eq_ok, ne_eq, not_not] at accepted
    obtain ⟨mutable, compatible⟩ := accepted
    refine ⟨?_, fun _ => mutable⟩
    cases policy <;> cases type : declaration.valueType <;>
      simp_all [VariableMergePolicy.isCompatible, mergeCompatible]

theorem validateRuntimeDeclaration_of_compiled (fits : limits.Fits runtime)
    {definition : GraphDefinition} {nodes : StringMap NodeDefinition}
    {declaration : VariableDeclaration}
    (accepted : validateDeclaration limits definition nodes declaration = .ok ()) :
    validateRuntimeDeclaration declaration runtime = .ok () := by
  simp only [validateDeclaration, bind_eq_ok, exists_unit, rejectIf_eq_ok,
    validateName_eq_ok] at accepted
  obtain ⟨named, producerNamed, sized, _, typed, secure, merges, _⟩ := accepted
  obtain ⟨nonempty, bounded, characters⟩ := isName_spec named
  obtain ⟨compatible, mutable⟩ := mergeCompatible_of_compiled merges
  have produced : declaration.producer.isEmpty = false := by
    unfold validateProducerName at producerNamed
    split at producerNamed
    · next runtime =>
      rw [runtime]
      rfl
    · exact (isName_spec (validateName_eq_ok.mp producerNamed)).1
  have := fits.names
  have := fits.bytes
  simp only [validateRuntimeDeclaration, bind_eq_ok, exists_unit, refuseIf_eq_ok]
  refine ⟨?_, validateDeclaredType_of_compiled fits typed, ?_, ?_⟩
  · simp only [nonempty, characters, produced, Bool.false_eq_true, false_or]
    omega
  · simpa [validateVariableSecurity] using secure
  · rintro (incompatible | ⟨merged, fixed⟩)
    · simp [compatible] at incompatible
    · exact fixed (mutable merged)

end Limits

section Collected

variable {limits : VariableEnvironmentLimits} {declarations : List VariableDeclaration}

theorem collectDeclaration_isOk
    (valid : ∀ declaration ∈ declarations, validateRuntimeDeclaration declaration limits = .ok ())
    (distinct : (declarations.map VariableDeclaration.name).Nodup)
    (start : StringMap VariableDeclaration)
    (fresh : ∀ declaration ∈ declarations, ¬ start.contains declaration.name) :
    ∃ collected, declarations.foldlM
      (CanonicalVariableEnvironment.collectDeclaration limits) start = .ok collected ∧
        collected.size = start.size + declarations.length := by
  induction declarations generalizing start with
  | nil => exact ⟨start, rfl, rfl⟩
  | cons declaration rest ih =>
    rw [List.map_cons, List.nodup_cons] at distinct
    obtain ⟨unlisted, distinct⟩ := distinct
    rw [List.forall_mem_cons] at valid fresh
    have later : ∀ other ∈ rest,
        ¬ (start.insert declaration.name declaration).contains other.name := by
      intro other member present
      rw [Std.ExtTreeMap.contains_insert, Bool.or_eq_true] at present
      rcases present with same | earlier
      · have named : declaration.name = other.name := by simpa using same
        exact unlisted (List.mem_map.mpr ⟨other, member, named.symm⟩)
      · exact fresh.2 other member earlier
    obtain ⟨collected, collects, size⟩ := ih valid.2 distinct _ later
    refine ⟨collected, ?_, ?_⟩
    · simp only [List.foldlM_cons, CanonicalVariableEnvironment.collectDeclaration, bind_eq_ok,
        exists_unit, refuseIf_eq_ok, pure_eq_ok]
      exact ⟨_, ⟨valid.1, fresh.1, rfl⟩, collects⟩
    · rw [size, Std.ExtTreeMap.size_insert, if_neg fresh.1, List.length_cons]
      omega

theorem CanonicalVariableEnvironment.new_isOk (positive : validateLimits limits = .ok ())
    (valid : ∀ declaration ∈ declarations, validateRuntimeDeclaration declaration limits = .ok ())
    (distinct : (declarations.map VariableDeclaration.name).Nodup) :
    (∃ environment, CanonicalVariableEnvironment.new declarations limits = .ok environment) ↔
      declarations.length ≤ limits.maxVariables := by
  obtain ⟨collected, collects, size⟩ := collectDeclaration_isOk valid distinct ∅ (by simp)
  simp only [Std.ExtTreeMap.size_empty, Nat.zero_add] at size
  simp only [CanonicalVariableEnvironment.new, bind_eq_ok, exists_unit, refuseIf_eq_ok, positive,
    true_and, collects, Except.ok.injEq, pure_eq_ok]
  constructor
  · rintro ⟨_, _, rfl, bounded, _⟩
    omega
  · intro bounded
    exact ⟨_, collected, rfl, by omega, rfl⟩

end Collected

section Accepted

variable [GraphCodec] [SerdeJson] [Hashing] {source : String} {inputs : GraphCacheInputs}
  {limits : CompilerLimits} {definition : GraphDefinition} {executable : ExecutableGraph}

omit [GraphCodec] in
theorem variables_of_build (built : definition.build source inputs limits = .ok executable) :
    executable.variables = sortBy (compareOn VariableDeclaration.name) definition.variables := by
  simp only [GraphDefinition.build, bind_eq_ok, pure_eq_ok] at built
  obtain ⟨_, _, _, _, _, _, rfl⟩ := built
  rfl

theorem environment_isOk_iff {runtime : VariableEnvironmentLimits} (fits : limits.Fits runtime)
    (positive : validateLimits runtime = .ok ())
    (compiles : compile source inputs limits = .ok executable) :
    (∃ environment, CanonicalVariableEnvironment.new executable.variables runtime =
      .ok environment) ↔ executable.variables.length ≤ runtime.maxVariables := by
  obtain ⟨definition, _, accepts, built⟩ := compile_eq_ok.mp compiles
  obtain ⟨nodes, variableMap, valid⟩ := validate_eq_ok.mp accepts
  have perm : executable.variables.Perm definition.variables :=
    variables_of_build built ▸ sortBy_perm
  refine CanonicalVariableEnvironment.new_isOk positive (fun declaration member => ?_) ?_
  · exact validateRuntimeDeclaration_of_compiled fits (valid.declaration (perm.subset member))
  · exact (perm.map _).nodup_iff.mpr (collectBy_spec valid.collectedVariables).1

/-- The runtime creates an environment for a compiled graph exactly where it has no more than 1024
variables; the compiler lets 10000 of them pass. -/
theorem environment_starts_iff
    (compiles : compile source inputs .default = .ok executable) :
    (∃ environment, CanonicalVariableEnvironment.new executable.variables .default =
      .ok environment) ↔ executable.variables.length ≤ 1024 :=
  environment_isOk_iff CompilerLimits.fits_default (by decide) compiles

end Accepted

section Sample

attribute [local instance] sampleCodec noLiterals prefixHash

/-- The runtime creates an environment for the sample graph. -/
theorem environment_starts_iff_sample : ∃ executable environment,
    compile sampleSource agentInputs .default = .ok executable ∧
      CanonicalVariableEnvironment.new executable.variables .default = .ok environment := by
  obtain ⟨executable, compiles⟩ := accepts_sample.compiles
  obtain ⟨definition, spells, _, built⟩ := compile_eq_ok.mp compiles
  obtain rfl : sampleGraph = definition := Except.ok.inj (parse_sample.symm.trans spells)
  have few : executable.variables.length ≤ 1024 := by
    rw [variables_of_build built, sortBy_perm.length_eq]
    decide
  obtain ⟨environment, starts⟩ := (environment_starts_iff compiles).mpr few
  exact ⟨executable, environment, compiles, starts⟩

end Sample

section Crowded

theorem utf8ByteSize_repr_le {index digits : Nat} (few : index < 10 ^ (digits + 1)) :
    index.repr.utf8ByteSize ≤ digits + 1 := by
  have single : ∀ digit < 10, (Nat.repr digit).utf8ByteSize ≤ 1 := by decide
  induction digits generalizing index with
  | zero => exact single index (by simpa using few)
  | succ digits ih =>
    by_cases last : index < 10
    · have := single index last
      omega
    · rw [Nat.repr_eq_repr_append_repr (by omega), String.utf8ByteSize_append]
      have front : (index / 10).repr.utf8ByteSize ≤ digits + 1 := by
        refine ih (Nat.div_lt_of_lt_mul ?_)
        rw [Nat.pow_succ] at few
        omega
      have := single (index % 10) (Nat.mod_lt _ (by decide))
      omega

theorem isName_crowdedName {index : Nat} (few : index < 10000) : isName (crowdedName index) 256 := by
  have bound : index < 10 ^ (3 + 1) := lt_of_lt_of_eq few (by simp)
  have size := utf8ByteSize_repr_le bound
  simp only [isName, crowdedName, Nat.toString_eq_repr, String.toList_append, Nat.toList_repr,
    Bool.and_eq_true, Bool.not_eq_true', decide_eq_true_eq, List.all_append, List.all_eq_true]
  have first : "v".utf8ByteSize = 1 := rfl
  refine ⟨⟨?_, ?_⟩, ?_, fun character member => ?_⟩
  · rw [Bool.eq_false_iff, ne_eq, String.isEmpty_iff, ← String.utf8ByteSize_eq_zero_iff,
      String.utf8ByteSize_append]
    omega
  · rw [String.utf8ByteSize_append]
    omega
  · simp [isAsciiAlphanumeric, isAsciiAlphabetic, isAsciiDigit]
  · have digit := Nat.isDigit_of_mem_toDigits (by decide) (by decide) member
    simp only [Char.isDigit, Bool.and_eq_true, decide_eq_true_eq] at digit
    have decimal : isAsciiDigit character := by
      simp only [isAsciiDigit, Bool.and_eq_true, decide_eq_true_eq]
      exact digit
    simp [isAsciiAlphanumeric, decimal]

theorem crowdedName_injective : Function.Injective crowdedName := by
  intro left right same
  have digits := congrArg String.toList same
  simp only [crowdedName, Nat.toString_eq_repr, String.toList_append, Nat.toList_repr,
    List.append_cancel_left_eq] at digits
  rw [← @Nat.ofDigitChars_ten_toDigits left, digits, Nat.ofDigitChars_ten_toDigits]

theorem validateDeclaration_crowded {definition : GraphDefinition}
    {nodes : StringMap NodeDefinition} (outside : nodes[runtimeProducer]? = none) {index : Nat}
    (few : index < 10000) :
    validateDeclaration .default definition nodes (crowdedVariable index) = .ok () := by
  simp only [validateDeclaration, bind_eq_ok, exists_unit, rejectIf_eq_ok, validateName_eq_ok,
    forM_eq_ok]
  refine ⟨isName_crowdedName few, rfl, ?_, ?_, ?_, rfl, rfl, ?_, ?_, rfl, ?_, ?_, ?_, rfl⟩
  · simp [crowdedVariable, flagDeclaration, CompilerLimits.default]
  · simp [crowdedVariable, flagDeclaration]
  · simp [crowdedVariable, flagDeclaration, validateVariableType, CompilerLimits.default]
  · simp [crowdedVariable, flagDeclaration, runtimeProducer]
  · simp [crowdedVariable, flagDeclaration, outside]
  · simp [crowdedVariable, flagDeclaration]
  · simp [crowdedVariable, flagDeclaration]
  · simp [crowdedVariable, flagDeclaration]

attribute [local instance] crowdedCodec noLiterals prefixHash

theorem validate_crowded_zero : (crowdedGraph 0).validate agentInputs .default = .ok () := by
  decide

/-- The compiler accepts the sample's graph with many variables. -/
theorem validate_crowded {count : Nat} (few : count ≤ 10000) :
    (crowdedGraph count).validate agentInputs .default = .ok () := by
  obtain ⟨nodes, _, valid⟩ := validate_eq_ok.mp validate_crowded_zero
  have only : ∀ node ∈ nodes.values, node = .plain "done" .completeTurn := by
    intro node member
    simpa [crowdedGraph] using (mem_values_collectNodes valid.collected).mp member
  have distinct : (((List.range count).map crowdedVariable).map VariableDeclaration.name).Nodup := by
    rw [List.map_map]
    exact List.nodup_range.map crowdedName_injective
  obtain ⟨variableMap, collected⟩ := collectBy_isOk distinct
  -- The passes that read no variables accept what they accept without any.
  refine validate_eq_ok.mpr ⟨nodes, variableMap, valid.bounds, valid.names, valid.collected,
    collected, valid.edges, valid.entry, valid.termination, valid.contracts, ?_, ?_, valid.cycles,
    ?_⟩
  · simp only [validateVariables, bind_eq_ok, exists_unit, rejectIf_eq_ok, forM_eq_ok]
    refine ⟨?_, fun declaration member => ?_, ?_, by simp [crowdedGraph]⟩
    · simpa [crowdedGraph, CompilerLimits.default] using few
    · obtain ⟨index, listed, rfl⟩ := List.mem_map.mp member
      refine validateDeclaration_crowded ?_ (by have := List.mem_range.mp listed; omega)
      rw [Option.eq_none_iff_forall_ne_some]
      intro node found
      obtain ⟨known, named⟩ := (getElem?_collectNodes valid.collected).mp found
      rw [only node ((mem_values_collectNodes valid.collected).mpr known)] at named
      exact absurd named (by decide)
    · intro node member
      rw [only node ((mem_values_collectNodes valid.collected).mpr member)]
      exact ⟨rfl, rfl, rfl⟩
  · rw [validateEffectOutputWrites, forM_eq_ok]
    intro node member
    rw [only node member]
    rfl
  · have sequential : parallelNodes nodes = [] := by
      rw [parallelNodes, List.filter_eq_nil_iff]
      intro node member
      rw [only node member]
      decide
    have unmerged : (variableMap.values.filter fun declaration =>
        !declaration.mergeContributors.isEmpty) = [] := by
      rw [List.filter_eq_nil_iff]
      intro declaration member
      obtain ⟨name, found⟩ := StringMap.mem_values.mp member
      obtain ⟨listed, _⟩ := ((collectBy_spec collected).2 name declaration).mp found
      obtain ⟨index, _, rfl⟩ := List.mem_map.mp listed
      simp [crowdedVariable, flagDeclaration]
    simp only [validateParallelWrites, validateParallelMergeContributorOwnership,
      collectParallelRegions, sequential, unmerged]
    rfl

theorem utf8ByteSize_crowdedTable {index : Nat} (few : index < 10000) :
    ∀ line ∈ crowdedTable index, line.utf8ByteSize ≤ 40 := by
  have bound : index < 10 ^ (3 + 1) := lt_of_lt_of_eq few (by simp)
  have size := utf8ByteSize_repr_le bound
  have literals : "name = '".utf8ByteSize = 8 ∧ "v".utf8ByteSize = 1 ∧ "'".utf8ByteSize = 1 := by
    decide
  have named : ("name = '" ++ crowdedName index ++ "'").utf8ByteSize ≤ 40 := by
    simp only [crowdedName, String.utf8ByteSize_append, Nat.toString_eq_repr]
    omega
  rw [crowdedTable, List.forall_mem_cons, List.forall_mem_cons]
  exact ⟨by decide, named, by decide⟩

theorem parse_crowded : GraphDefinition.parse (crowdedSource crowd) .default =
    .ok (crowdedGraph crowd) := by
  have short : ∀ line ∈ crowdedKeys ++ (List.range crowd).flatMap crowdedTable,
      line.utf8ByteSize ≤ 40 := by
    intro line member
    rw [List.mem_append, List.mem_flatMap] at member
    rcases member with key | ⟨index, listed, member⟩
    · exact (by decide : ∀ line ∈ crowdedKeys, line.utf8ByteSize ≤ 40) line key
    · have := List.mem_range.mp listed
      exact utf8ByteSize_crowdedTable (by rw [crowd] at this; omega) line member
  refine parse_tomlText ?_ ?_
  · refine (List.sum_le_card_nsmul _ 41 ?_).trans ?_
    · intro size listed
      obtain ⟨line, member, rfl⟩ := List.mem_map.mp listed
      exact Nat.succ_le_succ (short line member)
    · have keys : crowdedKeys.length = 12 := by decide
      have tables : ((List.range crowd).map fun index => (crowdedTable index).length).sum =
          crowd * 9 := by
        simp [crowdedTable]
      rw [List.length_map, List.length_append, List.length_flatMap, keys, tables]
      decide
  · change okOr (List.lookup (crowdedSource crowd) _) _ = _
    rw [List.lookup_cons_self]
    rfl

/-- The compiler accepts a graph that the runtime cannot start. -/
theorem not_environment_starts : ∃ executable,
    compile (crowdedSource crowd) agentInputs .default = .ok executable ∧
      ∀ environment, CanonicalVariableEnvironment.new executable.variables .default ≠
        .ok environment := by
  obtain ⟨executable, compiles⟩ := (accepts_iff.mpr
    ⟨parse_crowded, validate_crowded (by decide)⟩).compiles
  refine ⟨executable, compiles, fun environment starts => ?_⟩
  have few := (environment_isOk_iff CompilerLimits.fits_default (by decide) compiles).mp
    ⟨environment, starts⟩
  obtain ⟨definition, spells, _, built⟩ := compile_eq_ok.mp compiles
  obtain rfl : crowdedGraph crowd = definition := Except.ok.inj (parse_crowded.symm.trans spells)
  rw [variables_of_build built, sortBy_perm.length_eq] at few
  simp [crowdedGraph, crowd, VariableEnvironmentLimits.default] at few

end Crowded

end AgentMod
