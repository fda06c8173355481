import AgentMod.Graph.Sample
import AgentMod.Verified.Graph.Structure

/-! Building cannot fail behind validation: a source is accepted exactly when its graph is valid. -/

namespace AgentMod

section Build

theorem mem_sortBy {α : Type} {order : α → α → Ordering} {items : List α} {item : α} :
    item ∈ sortBy order items ↔ item ∈ items :=
  (List.perm_insertionSort _ items).mem_iff

theorem exists_getElem?_ofList {α : Type} {entries : List (String × α)} {key : String}
    (listed : key ∈ entries.map Prod.fst) :
    ∃ value, (Std.ExtTreeMap.ofList entries : StringMap α)[key]? = some value := by
  rw [← StringMap.contains_iff, ← Std.ExtTreeMap.mem_iff_contains, Std.ExtTreeMap.mem_ofList]
  exact List.contains_iff_mem.mpr listed

variable {definition : GraphDefinition} {inputs : GraphCacheInputs} {limits : CompilerLimits}
  {nodes : StringMap NodeDefinition} {variableMap : StringMap VariableDeclaration} {source : String}

theorem exists_index {id : String} (known : ∃ node ∈ definition.nodes, node.id = id) :
    ∃ index, (Std.ExtTreeMap.ofList ((sortBy (compareOn NodeDefinition.id)
      definition.nodes).zipIdx.map fun entry => (entry.1.id, entry.2)) : StringMap Nat)[id]? =
        some index := by
  obtain ⟨node, member, rfl⟩ := known
  refine exists_getElem?_ofList ?_
  have sorted : node ∈ sortBy (compareOn NodeDefinition.id) definition.nodes :=
    mem_sortBy.mpr member
  rw [← List.zipIdx_map_fst 0 (sortBy _ _)] at sorted
  obtain ⟨entry, listed, rfl⟩ := List.mem_map.mp sorted
  exact List.mem_map.mpr ⟨_, List.mem_map.mpr ⟨entry, listed, rfl⟩, rfl⟩

variable [GraphCodec] [SerdeJson]

theorem Validated.conditions (valid : Validated definition inputs limits nodes variableMap) :
    (∀ node ∈ definition.nodes, ∃ parsed,
      parseCondition node.condition node.id limits.expression = .ok parsed) ∧
    ∀ edge ∈ definition.edges, ∃ parsed,
      parseCondition edge.condition edge.toText limits.expression = .ok parsed := by
  have contracts := valid.contracts
  simp only [validateNodeContracts, bind_eq_ok, exists_unit, forM_eq_ok, pure_eq_ok] at contracts
  obtain ⟨_, ofNodes, ofEdges⟩ := contracts
  refine ⟨fun node member => ?_, fun edge member => ?_⟩
  · obtain ⟨_, _, _, _, _, parsed, parses, _⟩ := ofNodes node member
    exact ⟨parsed, parses⟩
  · obtain ⟨parsed, parses, _⟩ := ofEdges edge member
    exact ⟨parsed, parses⟩

theorem Validated.build_isOk [Hashing]
    (valid : Validated definition inputs limits nodes variableMap) :
    ∃ executable, definition.build source inputs limits = .ok executable := by
  obtain ⟨ofNodes, ofEdges⟩ := valid.conditions
  have nodesBuilt : ∀ entry ∈ (sortBy (compareOn NodeDefinition.id) definition.nodes).zipIdx,
      ∃ built, executableNode limits entry.1 entry.2 = .ok built := by
    intro entry member
    obtain ⟨parsed, parses⟩ := ofNodes entry.1 (mem_sortBy.mp (List.fst_mem_of_mem_zipIdx member))
    exact ⟨_, bind_eq_ok.mpr ⟨parsed, parses, rfl⟩⟩
  have edgesBuilt : ∀ edge ∈ sortBy EdgeDefinition.order definition.edges, ∃ built,
      executableEdge limits (.ofList ((sortBy (compareOn NodeDefinition.id)
        definition.nodes).zipIdx.map fun entry => (entry.1.id, entry.2))) edge = .ok built := by
    intro edge member
    have known := valid.resolved edge (mem_sortBy.mp member)
    obtain ⟨first, firstFound⟩ := exists_index known.1
    obtain ⟨second, secondFound⟩ := exists_index known.2
    obtain ⟨parsed, parses⟩ := ofEdges edge (mem_sortBy.mp member)
    refine ⟨⟨first, second, parsed, edge.label⟩, ?_⟩
    simp only [executableEdge, bind_eq_ok, okOr_eq_ok, pure_eq_ok]
    exact ⟨first, firstFound, second, secondFound, parsed, parses, rfl⟩
  obtain ⟨builtNodes, allNodes⟩ := mapM_isOk.mpr nodesBuilt
  obtain ⟨builtEdges, allEdges⟩ := mapM_isOk.mpr edgesBuilt
  obtain ⟨index, found⟩ := exists_index valid.entry_known
  simp only [GraphDefinition.build, bind_eq_ok, okOr_eq_ok, pure_eq_ok]
  exact ⟨_, builtNodes, allNodes, builtEdges, allEdges, index, found, rfl⟩

theorem accepts_iff [Hashing] : Accepts source inputs limits definition ↔
    GraphDefinition.parse source limits = .ok definition ∧
      definition.validate inputs limits = .ok () := by
  constructor
  · intro accepted
    exact ⟨accepted.spells, validate_eq_ok.mpr accepted.validated⟩
  · rintro ⟨spells, accepts⟩
    obtain ⟨nodes, variableMap, valid⟩ := validate_eq_ok.mp accepts
    obtain ⟨executable, built⟩ := valid.build_isOk
    exact ⟨spells, executable, compile_eq_ok.mpr ⟨definition, spells, accepts, built⟩⟩

end Build

section Sample

theorem utf8ByteSize_tomlText (lines : List String) :
    (tomlText lines).utf8ByteSize = (lines.map fun line => line.utf8ByteSize + 1).sum := by
  induction lines with
  | nil => rfl
  | cons line rest ih =>
    simp only [tomlText, String.utf8ByteSize_append, ih, List.map_cons, List.sum_cons]
    rfl

theorem parse_tomlText [GraphCodec] {lines : List String} {definition : GraphDefinition}
    {limits : CompilerLimits}
    (fits : (lines.map fun line => line.utf8ByteSize + 1).sum ≤ limits.maxSourceBytes)
    (read : GraphCodec.definitionFromToml (tomlText lines) = .ok definition) :
    GraphDefinition.parse (tomlText lines) limits = .ok definition := by
  rw [← utf8ByteSize_tomlText] at fits
  simp only [GraphDefinition.parse, bind_eq_ok, exists_unit, rejectIf_eq_ok, read, pure_eq_ok,
    not_lt.mpr fits, not_false_eq_true, and_self]

theorem isParallel_sampleFan : sampleGraph.IsParallel sampleFan sampleFanOut :=
  ⟨by simp [sampleGraph], rfl, rfl⟩

theorem tomlText_ne {first second : String} {others rest : List String} {left right : Char}
    (one : first.toList.head? = some left) (two : second.toList.head? = some right)
    (differ : left ≠ right) : tomlText (first :: others) ≠ tomlText (second :: rest) := by
  intro same
  have heads := congrArg (fun text => text.toList.head?) same
  simp only [tomlText, String.toList_append, List.head?_append, one, two, Option.some_or] at heads
  exact differ (Option.some.inj heads)

attribute [local instance] sampleCodec noLiterals prefixHash

set_option maxRecDepth 8000 in
theorem parse_sample : GraphDefinition.parse sampleSource .default = .ok sampleGraph :=
  parse_tomlText (by decide) (by simp [GraphCodec.definitionFromToml, sampleSource, okOr])

/-- The evaluation of the compiler on the sample graph. -/
instance accepted_sample : Fact (Accepts sampleSource agentInputs .default sampleGraph) where
  out := accepts_iff.mpr ⟨parse_sample, by decide +kernel⟩

theorem accepts_sample : Accepts sampleSource agentInputs .default sampleGraph := Fact.out

set_option maxRecDepth 8000 in
theorem parse_reordered : GraphDefinition.parse reorderedSource .default = .ok reorderedGraph := by
  have differ : reorderedSource ≠ sampleSource :=
    @tomlText_ne _ _ _ _ 'e' 'f' (by decide) (by decide) (by decide)
  refine parse_tomlText (by decide) ?_
  change okOr (List.lookup reorderedSource _) _ = _
  simp [List.lookup_cons, beq_eq_false_iff_ne.mpr differ, okOr]

end Sample

end AgentMod
