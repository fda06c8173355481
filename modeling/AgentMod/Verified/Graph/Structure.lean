import AgentMod.Graph.Walks
import AgentMod.Verified.Primitives.Collections
import Mathlib.Algebra.Order.BigOperators.Group.List

/-! What the structural passes compute and accept. -/

namespace AgentMod

section Collect

variable {α : Type} {key : α → String} {duplicate : String → GraphError} {items : List α}
  {collected start : StringMap α}

/-- Collecting continues exactly while keys are new. -/
theorem collect_from : items.foldlM (fun collected item => do
      rejectIf (collected.contains (key item)) (duplicate (key item))
      return collected.insert (key item) item) start = .ok collected ↔
    (items.map key).Nodup ∧ (∀ item ∈ items, key item ∉ start) ∧
      items.foldl (fun collected item => collected.insert (key item) item) start = collected := by
  induction items generalizing start with
  | nil => simp
  | cons item rest ih =>
    have split : ∀ other ∈ rest,
        (key other ∉ start.insert (key item) item ↔ key other ≠ key item ∧ key other ∉ start) := by
      intro other _
      simp only [Std.ExtTreeMap.mem_insert, Std.LawfulEqCmp.compare_eq_iff_eq, not_or, ne_eq]
      rw [eq_comm]
    rw [List.foldlM_cons, bind_eq_ok, List.map_cons, List.nodup_cons, List.foldl_cons]
    constructor
    · rintro ⟨next, step, later⟩
      simp only [bind_eq_ok, rejectIf_eq_ok, exists_unit, pure_eq_ok] at step
      obtain ⟨fresh, step⟩ := step
      rw [← step, ih] at later
      obtain ⟨distinct, new, result⟩ := later
      refine ⟨⟨?_, distinct⟩, ?_, result⟩
      · rw [List.mem_map]
        rintro ⟨other, member, same⟩
        exact ((split other member).mp (new other member)).1 same
      · rw [List.forall_mem_cons]
        exact ⟨by simpa using fresh, fun other member => ((split other member).mp (new other member)).2⟩
    · rintro ⟨⟨apart, distinct⟩, new, result⟩
      rw [List.forall_mem_cons] at new
      refine ⟨start.insert (key item) item, by simpa using new.1, ih.mpr ⟨distinct, ?_, result⟩⟩
      intro other member
      exact (split other member).mpr
        ⟨fun same => apart (List.mem_map.mpr ⟨other, member, same⟩), new.2 other member⟩

/-- Inserting items with distinct keys makes each of them the value of its key. -/
theorem getElem?_foldl_insert (distinct : (items.map key).Nodup) (name : String) (value : α) :
    (items.foldl (fun collected item => collected.insert (key item) item) start)[name]? =
        some value ↔
      (value ∈ items ∧ key value = name) ∨
        start[name]? = some value ∧ ∀ item ∈ items, key item ≠ name := by
  induction items generalizing start with
  | nil => simp
  | cons item rest ih =>
    obtain ⟨apart, distinct⟩ := List.nodup_cons.mp distinct
    rw [List.foldl_cons, ih distinct]
    simp only [Std.ExtTreeMap.getElem?_insert, Std.LawfulEqCmp.compare_eq_iff_eq, List.mem_cons,
      forall_eq_or_imp]
    by_cases same : key item = name
    · subst same
      have others : ∀ other ∈ rest, key other ≠ key item := fun other member equal =>
        apart (List.mem_map.mpr ⟨other, member, equal⟩)
      simp only [if_true, Option.some.injEq]
      constructor
      · rintro (⟨member, equal⟩ | ⟨rfl, _⟩)
        · exact absurd equal (others value member)
        · exact .inl ⟨.inl rfl, rfl⟩
      · rintro (⟨rfl | member, equal⟩ | ⟨_, differs, _⟩)
        · exact .inr ⟨rfl, others⟩
        · exact absurd equal (others value member)
        · exact absurd rfl differs
    · simp only [same, if_false, ne_eq, not_false_eq_true, true_and]
      constructor
      · rintro (⟨member, equal⟩ | present)
        · exact .inl ⟨.inr member, equal⟩
        · exact .inr present
      · rintro (⟨rfl | member, equal⟩ | present)
        · exact absurd equal same
        · exact .inl ⟨member, equal⟩
        · exact .inr present

theorem collectBy_spec (collects : collectBy key duplicate items = .ok collected) :
    (items.map key).Nodup ∧
      ∀ name value, collected[name]? = some value ↔ value ∈ items ∧ key value = name := by
  obtain ⟨distinct, _, result⟩ := collect_from.mp collects
  refine ⟨distinct, fun name value => ?_⟩
  rw [← result, getElem?_foldl_insert distinct]
  simp

theorem collectBy_isOk (distinct : (items.map key).Nodup) :
    ∃ collected, collectBy key duplicate items = .ok collected :=
  ⟨_, collect_from.mpr ⟨distinct, by simp, rfl⟩⟩

end Collect

section Neighbours

variable {definition : GraphDefinition} {near far : EdgeDefinition → String} {node source target : String}

theorem getElem?_foldl_insertIfNew {nodes : List NodeDefinition} {start : StringMap (List String)} :
    (nodes.foldl (fun result node => result.insertIfNew node.id []) start)[node]? =
      if node ∉ start ∧ ∃ item ∈ nodes, item.id = node then some [] else start[node]? := by
  induction nodes generalizing start with
  | nil => simp
  | cons item rest ih =>
    rw [List.foldl_cons, ih]
    by_cases same : item.id = node
    · subst same
      by_cases present : item.id ∈ start <;>
        simp [present, Std.ExtTreeMap.getElem_insertIfNew]
    · simp [same, Std.ExtTreeMap.getElem?_insertIfNew]

theorem getElem?_foldl_alter {edges : List EdgeDefinition} {start : StringMap (List String)} :
    (edges.foldl (fun result edge =>
        result.alter (near edge) fun targets => some (targets.getD [] ++ [far edge])) start)[node]? =
      if ∃ edge ∈ edges, near edge = node then
        some (start[node]?.getD [] ++ (edges.filter (near · == node)).map far)
      else start[node]? := by
  induction edges generalizing start with
  | nil => simp
  | cons edge rest ih =>
    rw [List.foldl_cons, ih]
    by_cases same : near edge = node
    · subst same
      by_cases later : ∃ other ∈ rest, near other = near edge
      · simp [later]
      · have none_later : rest.filter (near · == near edge) = [] := by
          simpa [List.filter_eq_nil_iff] using later
        simp [later, none_later]
    · simp [same, Std.ExtTreeMap.getElem?_alter]

theorem getElem?_collectNeighbours : (collectNeighbours near far definition)[node]? =
    if (∃ item ∈ definition.nodes, item.id = node) ∨ ∃ edge ∈ definition.edges, near edge = node then
      some ((definition.edges.filter (near · == node)).map far)
    else none := by
  rw [collectNeighbours, getElem?_foldl_alter, getElem?_foldl_insertIfNew]
  by_cases ends : ∃ edge ∈ definition.edges, near edge = node
  · by_cases known : ∃ item ∈ definition.nodes, item.id = node <;> simp [ends, known]
  · have isolated : definition.edges.filter (near · == node) = [] := by
      simpa [List.filter_eq_nil_iff] using ends
    by_cases known : ∃ item ∈ definition.nodes, item.id = node <;> simp [ends, known, isolated]

theorem neighbours_collectNeighbours : neighbours (collectNeighbours near far definition) node =
    (definition.edges.filter (near · == node)).map far := by
  rw [neighbours, getElem?_collectNeighbours]
  split
  · rfl
  · next unknown =>
    have isolated : definition.edges.filter (near · == node) = [] := by
      simpa [List.filter_eq_nil_iff] using (not_or.mp unknown).2
    rw [isolated]
    rfl

theorem neighbours_adjacency : neighbours (adjacency definition) source =
    (Std.ExtTreeSet.ofList (neighbours (collectNeighbours EdgeDefinition.source EdgeDefinition.target
      definition) source)).toList := by
  rw [neighbours, adjacency, Std.ExtTreeMap.getElem?_map, neighbours]
  cases (collectNeighbours EdgeDefinition.source EdgeDefinition.target definition)[source]? with
  | none => simp
  | some targets => simp

@[simp] theorem mem_neighbours_adjacency :
    target ∈ neighbours (adjacency definition) source ↔ definition.Step source target := by
  simp only [neighbours_adjacency, neighbours_collectNeighbours, GraphDefinition.Step]
  simp [and_assoc]

@[simp] theorem mem_neighbours_reverseAdjacency :
    source ∈ neighbours (reverseAdjacency definition) target ↔ definition.Step source target := by
  simp only [reverseAdjacency, neighbours_collectNeighbours, GraphDefinition.Step]
  simp [and_assoc, and_comm]

theorem nodup_neighbours_adjacency : (neighbours (adjacency definition) source).Nodup := by
  rw [neighbours_adjacency]
  exact StringSet.nodup_toList

theorem mem_keys_adjacency : node ∈ (adjacency definition).keys ↔
    (∃ item ∈ definition.nodes, item.id = node) ∨ ∃ edge ∈ definition.edges, edge.source = node := by
  rw [StringMap.mem_keys, adjacency]
  simp only [Std.ExtTreeMap.getElem?_map, getElem?_collectNeighbours]
  split <;> simp_all

end Neighbours

section Traversal

variable {graph : StringMap (List String)} {targets : String → List String} {skip : String → Bool}
  {visit : String → Compiled (List String)} {start node : String} {result : List String}

theorem neighbours_eq_nil (outside : node ∉ graph.keys) : neighbours graph node = [] := by
  rw [neighbours, StringMap.getElem?_of_not_mem_keys outside, Option.getD_none]

theorem pending_lt_traversalFuel
    (fewer : ∀ node, (targets node).length ≤ (neighbours graph node).length) :
    [start].length + Worklist.pending targets graph.keys [] < traversalFuel graph := by
  -- Each entry of the graph lists the neighbours of its key.
  have listed : graph.keys.map (fun node => (neighbours graph node).length) =
      graph.toList.map fun entry => entry.2.length := by
    rw [← Std.ExtTreeMap.map_fst_toList_eq_keys, List.map_map]
    refine List.map_congr_left fun entry member => ?_
    have found := Std.ExtTreeMap.mem_toList_iff_getElem?_eq_some.mp member
    simp [neighbours, found]
  have bounded : Worklist.pending targets graph.keys [] ≤
      (graph.keys.map fun node => (neighbours graph node).length).sum := by
    simp only [Worklist.pending, List.not_mem_nil, not_false_eq_true, decide_true, List.filter_true]
    exact List.sum_le_sum fun node _ => fewer node
  rw [traversalFuel, ← listed, List.length_singleton]
  omega

theorem traversal_isOk
    (fewer : ∀ node, (targets node).length ≤ (neighbours graph node).length)
    (visits : ∀ node returned, visit node = .ok returned → returned = targets node) :
    (∃ result, Worklist.run skip visit (traversalFuel graph) [start] [] = .ok result) ↔
      ∀ node, Reaches (skip · = true) targets start node → visit node = .ok (targets node) := by
  have outside : ∀ node ∉ graph.keys, targets node = [] := by
    intro node unknown
    have := fewer node
    rw [neighbours_eq_nil unknown] at this
    exact List.length_eq_zero_iff.mp (Nat.le_zero.mp this)
  constructor
  · rintro ⟨result, ran⟩ node reached
    exact (Worklist.run_invariant ran visits .initial).returned node
      ((Worklist.mem_run ran visits node).mpr reached)
  · intro allowed
    rcases Worklist.run_enough outside StringMap.nodup_keys visits
      (pending_lt_traversalFuel fewer) .initial with ends | ⟨node, halt, reached, fails, _⟩
    · exact ends
    · rw [allowed node reached] at fails
      exact nomatch fails

theorem reachableFrom_spec : ∃ reached, reachableFrom start graph = .ok reached ∧
    ∀ node, node ∈ reached ↔
      Relation.ReflTransGen (fun source target => target ∈ neighbours graph source) start node := by
  have visits : ∀ node returned, (.ok (neighbours graph node) : Compiled (List String)) =
      .ok returned → returned = neighbours graph node := by simp
  obtain ⟨result, ran⟩ : ∃ result, Worklist.run (fun _ => false)
      (fun node => (.ok (neighbours graph node) : Compiled (List String)))
      (traversalFuel graph) [start] [] = .ok result :=
    (traversal_isOk (fun _ => Nat.le_refl _) visits).mpr fun _ _ => rfl
  refine ⟨.ofList result, by simp [reachableFrom, ran], fun node => ?_⟩
  simp [Worklist.mem_run ran visits, Reaches]

end Traversal

section Passes

variable {definition : GraphDefinition} {nodes : StringMap NodeDefinition} {limits : CompilerLimits}

theorem getElem?_collectNodes (collects : collectNodes definition = .ok nodes) {id : String}
    {node : NodeDefinition} : nodes[id]? = some node ↔ node ∈ definition.nodes ∧ node.id = id :=
  (collectBy_spec collects).2 id node

theorem mem_values_collectNodes (collects : collectNodes definition = .ok nodes)
    {node : NodeDefinition} : node ∈ nodes.values ↔ node ∈ definition.nodes := by
  rw [StringMap.mem_values]
  simp [getElem?_collectNodes collects]

theorem mem_keys_collectNodes (collects : collectNodes definition = .ok nodes) {id : String} :
    id ∈ nodes.keys ↔ ∃ node ∈ definition.nodes, node.id = id := by
  rw [StringMap.mem_keys]
  simp [getElem?_collectNodes collects]

theorem eq_of_id_eq (collects : collectNodes definition = .ok nodes) {left right : NodeDefinition}
    (first : left ∈ definition.nodes) (second : right ∈ definition.nodes)
    (same : left.id = right.id) : left = right :=
  List.inj_on_of_nodup_map (collectBy_spec collects).1 first second same

/-- What the pass over edges demands of each edge. -/
structure EdgeDefinition.IsValid (nodes : StringMap NodeDefinition) (limits : CompilerLimits)
    (edge : EdgeDefinition) : Prop where
  sourceName : isName edge.source limits.maxNameBytes
  targetName : isName edge.target limits.maxNameBytes
  sourceKnown : nodes.contains edge.source
  targetKnown : nodes.contains edge.target
  labelName : ∀ label ∈ edge.label, isName label limits.maxNameBytes

theorem validateEdge_eq_ok {seen result : List EdgeDefinition} {edge : EdgeDefinition} :
    validateEdge nodes limits seen edge = .ok result ↔
      edge.IsValid nodes limits ∧ edge ∉ seen ∧ edge :: seen = result := by
  simp only [validateEdge, bind_eq_ok, exists_unit, validateName_eq_ok, rejectIf_eq_ok, forM_eq_ok,
    pure_eq_ok, Bool.not_eq_true', Bool.not_eq_false, Option.mem_toList]
  constructor
  · rintro ⟨sourceName, targetName, sourceKnown, targetKnown, labelName, fresh, result⟩
    exact ⟨⟨sourceName, targetName, sourceKnown, targetKnown, labelName⟩, fresh, result⟩
  · rintro ⟨valid, fresh, result⟩
    exact ⟨valid.sourceName, valid.targetName, valid.sourceKnown, valid.targetKnown,
      valid.labelName, fresh, result⟩

theorem foldlM_validateEdge {edges seen result : List EdgeDefinition} :
    edges.foldlM (validateEdge nodes limits) seen = .ok result ↔
      (∀ edge ∈ edges, edge.IsValid nodes limits) ∧ edges.Nodup ∧ (∀ edge ∈ edges, edge ∉ seen) ∧
        edges.reverse ++ seen = result := by
  induction edges generalizing seen with
  | nil => simp
  | cons edge rest ih =>
    simp only [List.foldlM_cons, bind_eq_ok, validateEdge_eq_ok, List.forall_mem_cons,
      List.nodup_cons, List.reverse_cons, List.append_assoc, List.singleton_append]
    constructor
    · rintro ⟨_, ⟨valid, fresh, rfl⟩, later⟩
      obtain ⟨rest, distinct, new, result⟩ := ih.mp later
      exact ⟨⟨valid, rest⟩, ⟨fun member => new edge member List.mem_cons_self, distinct⟩,
        ⟨fresh, fun other member old => new other member (List.mem_cons_of_mem edge old)⟩, result⟩
    · rintro ⟨⟨valid, rest⟩, ⟨apart, distinct⟩, ⟨fresh, new⟩, result⟩
      refine ⟨edge :: seen, ⟨valid, fresh, rfl⟩, ih.mpr ⟨rest, distinct, ?_, result⟩⟩
      intro other member old
      rcases List.mem_cons.mp old with same | old
      · exact apart (same ▸ member)
      · exact new other member old

theorem validateEdges_eq_ok : validateEdges definition nodes limits = .ok () ↔
    (∀ edge ∈ definition.edges, edge.IsValid nodes limits) ∧ definition.edges.Nodup := by
  rw [validateEdges, bind_eq_ok]
  simp only [foldlM_validateEdge]
  simp

theorem validateEntryAndReachability_eq_ok :
    validateEntryAndReachability definition nodes = .ok () ↔ nodes.contains definition.entry ∧
      ∀ node ∈ nodes.keys, Relation.ReflTransGen definition.Step definition.entry node := by
  obtain ⟨reached, collects, member⟩ :=
    @reachableFrom_spec (adjacency definition) definition.entry
  simp only [mem_neighbours_adjacency] at member
  simp only [validateEntryAndReachability, collects, bind_eq_ok, rejectIf_eq_ok, exists_unit,
    Except.ok.injEq, exists_eq_left', ne_eq, Decidable.not_not, List.filter_eq_nil_iff,
    Bool.not_eq_true', Bool.not_eq_false, ← Std.ExtTreeSet.mem_iff_contains, member]

theorem foldlM_reachableFrom {graph : StringMap (List String)} {starts : List String}
    {collected : StringSet} : ∃ reached, starts.foldlM (fun (collected : StringSet) start => do
        return collected ∪ (← reachableFrom start graph)) collected = .ok reached ∧
      ∀ node, node ∈ reached ↔ node ∈ collected ∨ ∃ start ∈ starts,
        Relation.ReflTransGen (fun source target => target ∈ neighbours graph source) start node := by
  induction starts generalizing collected with
  | nil => exact ⟨collected, rfl, by simp⟩
  | cons start rest ih =>
    obtain ⟨first, collects, member⟩ := @reachableFrom_spec graph start
    obtain ⟨reached, later, members⟩ := @ih (collected ∪ first)
    refine ⟨reached, ?_, fun node => ?_⟩
    · rw [List.foldlM_cons, collects]
      exact later
    · rw [members, Std.ExtTreeSet.mem_union_iff, member, or_assoc, List.exists_mem_cons_iff]

theorem validateTermination_eq_ok (collects : collectNodes definition = .ok nodes) :
    validateTermination definition nodes = .ok () ↔ (∃ terminal, definition.IsTerminal terminal) ∧
      (∀ terminal, definition.IsTerminal terminal → ∀ target, ¬ definition.Step terminal target) ∧
      ∀ node ∈ nodes.keys, ∃ terminal, definition.IsTerminal terminal ∧
        Relation.ReflTransGen definition.Step node terminal := by
  have terminals : ∀ id, id ∈ (nodes.values.filter fun node => node.kind.isTerminal).map
      NodeDefinition.id ↔ definition.IsTerminal id := by
    intro id
    simp only [List.mem_map, List.mem_filter, mem_values_collectNodes collects]
    constructor
    · rintro ⟨node, ⟨member, kind⟩, same⟩
      exact ⟨node, member, same, kind⟩
    · rintro ⟨node, member, same, kind⟩
      exact ⟨node, ⟨member, kind⟩, same⟩
  obtain ⟨reached, collects, member⟩ := @foldlM_reachableFrom (reverseAdjacency definition)
    ((nodes.values.filter fun node => node.kind.isTerminal).map NodeDefinition.id) ∅
  -- Walking along incoming edges finds the nodes from which the terminal is reached.
  have swapped : ∀ terminal node, Relation.ReflTransGen
      (fun source target => target ∈ neighbours (reverseAdjacency definition) source) terminal node ↔
        Relation.ReflTransGen definition.Step node terminal := by
    intro terminal node
    simp only [mem_neighbours_reverseAdjacency]
    exact Relation.reflTransGen_swap
  simp only [Std.ExtTreeSet.not_mem_empty, false_or, terminals, swapped] at member
  simp only [validateTermination, collects, bind_eq_ok, rejectIf_eq_ok, exists_unit,
    forM_eq_ok, Except.ok.injEq, exists_eq_left', ne_eq, Decidable.not_not,
    List.filter_eq_nil_iff, Bool.not_eq_true', Bool.not_eq_false,
    ← Std.ExtTreeSet.mem_iff_contains, member, terminals]
  simp only [List.eq_nil_iff_forall_not_mem, terminals, mem_neighbours_adjacency, not_forall,
    not_not]

end Passes

variable [GraphCodec] [SerdeJson]

/-- Every validation pass accepts the definition, whose nodes and variables are collected. -/
structure Validated (definition : GraphDefinition) (inputs : GraphCacheInputs)
    (limits : CompilerLimits) (nodes : StringMap NodeDefinition)
    (variableMap : StringMap VariableDeclaration) : Prop where
  bounds : validateVersionAndBounds definition limits = .ok ()
  names : validateNames definition limits = .ok ()
  collected : collectNodes definition = .ok nodes
  collectedVariables : collectVariables definition = .ok variableMap
  edges : validateEdges definition nodes limits = .ok ()
  entry : validateEntryAndReachability definition nodes = .ok ()
  termination : validateTermination definition nodes = .ok ()
  contracts : validateNodeContracts definition nodes inputs limits = .ok ()
  accesses : validateVariables definition nodes variableMap limits = .ok ()
  outputs : validateEffectOutputWrites nodes variableMap = .ok ()
  cycles : validateCycles definition nodes = .ok ()
  parallels : validateParallelWrites definition nodes variableMap limits = .ok ()

variable {definition : GraphDefinition} {inputs : GraphCacheInputs} {limits : CompilerLimits}
  {nodes : StringMap NodeDefinition} {variableMap : StringMap VariableDeclaration} {source : String}

theorem validate_eq_ok : definition.validate inputs limits = .ok () ↔
    ∃ nodes variableMap, Validated definition inputs limits nodes variableMap := by
  simp only [GraphDefinition.validate, bind_eq_ok, exists_unit]
  constructor
  · rintro ⟨bounds, names, nodes, collected, variableMap, collectedVariables, edges, entry,
      termination, contracts, accesses, outputs, cycles, parallels⟩
    exact ⟨nodes, variableMap, bounds, names, collected, collectedVariables, edges, entry,
      termination, contracts, accesses, outputs, cycles, parallels⟩
  · rintro ⟨nodes, variableMap, valid⟩
    exact ⟨valid.bounds, valid.names, nodes, valid.collected, variableMap,
      valid.collectedVariables, valid.edges, valid.entry, valid.termination, valid.contracts,
      valid.accesses, valid.outputs, valid.cycles, valid.parallels⟩

theorem compile_eq_ok [Hashing] {executable : ExecutableGraph} :
    compile source inputs limits = .ok executable ↔
      ∃ definition, GraphDefinition.parse source limits = .ok definition ∧
        definition.validate inputs limits = .ok () ∧
        definition.build source inputs limits = .ok executable := by
  simp only [compile, bind_eq_ok, exists_unit]

theorem Accepts.validated [Hashing] (accepted : Accepts source inputs limits definition) :
    ∃ nodes variableMap, Validated definition inputs limits nodes variableMap := by
  obtain ⟨executable, compiles⟩ := accepted.compiles
  obtain ⟨parsed, spells, valid, _⟩ := compile_eq_ok.mp compiles
  obtain rfl : definition = parsed := Except.ok.inj (accepted.spells.symm.trans spells)
  exact validate_eq_ok.mp valid

namespace Validated

variable (valid : Validated definition inputs limits nodes variableMap)
include valid

theorem resolved : definition.Resolved := by
  intro edge member
  obtain ⟨edges, _⟩ := validateEdges_eq_ok.mp valid.edges
  rw [← mem_keys_collectNodes valid.collected, ← mem_keys_collectNodes valid.collected,
    StringMap.mem_keys, StringMap.mem_keys, ← StringMap.contains_iff, ← StringMap.contains_iff]
  exact ⟨(edges edge member).sourceKnown, (edges edge member).targetKnown⟩

theorem entry_known : ∃ node ∈ definition.nodes, node.id = definition.entry := by
  have known := (validateEntryAndReachability_eq_ok.mp valid.entry).1
  rwa [StringMap.contains_iff, ← StringMap.mem_keys, mem_keys_collectNodes valid.collected] at known

theorem reachable {node : NodeDefinition} (member : node ∈ definition.nodes) :
    Relation.ReflTransGen definition.Step definition.entry node.id :=
  (validateEntryAndReachability_eq_ok.mp valid.entry).2 node.id
    ((mem_keys_collectNodes valid.collected).mpr ⟨node, member, rfl⟩)

theorem terminates {node : NodeDefinition} (member : node ∈ definition.nodes) :
    ∃ terminal, definition.IsTerminal terminal ∧
      Relation.ReflTransGen definition.Step node.id terminal :=
  ((validateTermination_eq_ok valid.collected).mp valid.termination).2.2 node.id
    ((mem_keys_collectNodes valid.collected).mpr ⟨node, member, rfl⟩)

theorem terminal_final {terminal target : String} (isTerminal : definition.IsTerminal terminal) :
    ¬ definition.Step terminal target :=
  ((validateTermination_eq_ok valid.collected).mp valid.termination).2.1 terminal isTerminal target

end Validated

end AgentMod
