import AgentMod.Verified.Graph.Structure
import AgentMod.Verified.Graph.Build

/-! The cycle pass is exact, and loop nodes bound every walk of an accepted graph. -/

namespace AgentMod

section Pass

variable {definition : GraphDefinition} {nodes : StringMap NodeDefinition}

theorem mem_loopNodes (collects : collectNodes definition = .ok nodes) {id : String} :
    id ∈ loopNodes nodes ↔ definition.HasKind .loop id := by
  simp only [loopNodes, Std.ExtTreeSet.mem_ofList, List.contains_iff_mem, List.mem_map,
    List.mem_filter, mem_values_collectNodes collects, beq_iff_eq, GraphDefinition.HasKind]
  constructor
  · rintro ⟨node, ⟨member, kind⟩, same⟩
    exact ⟨node, member, same, kind⟩
  · rintro ⟨node, member, same, kind⟩
    exact ⟨node, ⟨member, kind⟩, same⟩

theorem GraphDefinition.Resolved.step (resolved : definition.Resolved) {source target : String}
    (step : definition.Step source target) : (∃ node ∈ definition.nodes, node.id = source) ∧
      ∃ node ∈ definition.nodes, node.id = target := by
  obtain ⟨edge, member, rfl, rfl⟩ := step
  exact resolved edge member

theorem keys_adjacency_perm (collects : collectNodes definition = .ok nodes)
    (resolved : definition.Resolved) : (adjacency definition).keys.Perm nodes.keys := by
  refine (List.perm_ext_iff_of_nodup StringMap.nodup_keys StringMap.nodup_keys).mpr fun id => ?_
  rw [mem_keys_adjacency, mem_keys_collectNodes collects, or_iff_left_iff_imp]
  rintro ⟨edge, member, rfl⟩
  exact (resolved edge member).1

/-- The counters start with the number of counted sources of every counted node. -/
theorem count_sources (counted : String → Bool) (collects : collectNodes definition = .ok nodes)
    (resolved : definition.Resolved) : ∃ incoming,
      ((adjacency definition).toList.filter fun entry => counted entry.1).foldlM
          (fun incoming entry => (entry.2.filter counted).foldlM (Kahn.count (ε := GraphError)) incoming)
          (.ofList ((nodes.keys.filter counted).map fun node => (node, 0))) = .ok incoming ∧
        Kahn.Counts (nodes.keys.filter counted) incoming fun node =>
          (nodes.keys.filter counted).countP fun source =>
            node ∈ (neighbours (adjacency definition) source).filter counted := by
  let kept := nodes.keys.filter counted
  have zeros : Kahn.Counts kept (.ofList (kept.map fun node => (node, 0))) fun _ => 0 := by
    intro node
    exact StringMap.getElem?_ofList_const (StringMap.nodup_keys.filter counted)
  let entries := (adjacency definition).toList.filter fun entry => counted entry.1
  have found : ∀ entry ∈ entries, entry.2 = neighbours (adjacency definition) entry.1 := by
    intro entry member
    have listed := Std.ExtTreeMap.mem_toList_iff_getElem?_eq_some.mp (List.mem_filter.mp member).1
    rw [neighbours, listed, Option.getD_some]
  have known : ∀ entry ∈ entries, (entry.2.filter counted).Nodup ∧
      entry.2.filter counted ⊆ kept := by
    intro entry member
    rw [found entry member]
    refine ⟨nodup_neighbours_adjacency.filter _, fun target member => ?_⟩
    obtain ⟨listed, kind⟩ := List.mem_filter.mp member
    exact List.mem_filter.mpr ⟨(mem_keys_collectNodes collects).mpr
      (resolved.step (mem_neighbours_adjacency.mp listed)).2, kind⟩
  obtain ⟨incoming, counting, counts⟩ := Kahn.count_entries (ε := GraphError) zeros known
  refine ⟨incoming, counting, ?_⟩
  -- The entries are those of the counted nodes, in some order.
  have sources : (entries.map Prod.fst).Perm kept := by
    have filtered := (keys_adjacency_perm collects resolved).filter counted
    rwa [← Std.ExtTreeMap.map_fst_toList_eq_keys, List.filter_map] at filtered
  have same : ∀ node, (0 + entries.countP fun entry => node ∈ entry.2.filter counted) =
      kept.countP fun source => node ∈ (neighbours (adjacency definition) source).filter counted := by
    intro node
    rw [Nat.zero_add, ← sources.countP_eq, List.countP_map]
    refine List.countP_congr fun entry member => ?_
    simp only [found entry member, Function.comp_apply]
  simpa only [same] using counts

/-- The cycle pass accepts exactly definitions each of whose cycles passes through a loop node. -/
theorem validateCycles_eq_ok (collects : collectNodes definition = .ok nodes)
    (resolved : definition.Resolved) : validateCycles definition nodes = .ok () ↔
      ∀ cycle, IsCycle definition.Step cycle → ∃ node ∈ cycle, definition.HasKind .loop node := by
  let counted (node : String) : Bool := !(loopNodes nodes).contains node
  let targets (node : String) : List String := (neighbours (adjacency definition) node).filter counted
  let kept := nodes.keys.filter counted
  have countedIff : ∀ node, counted node = true ↔ ¬ definition.HasKind .loop node := by
    intro node
    rw [← mem_loopNodes collects]
    simp [counted, ← Bool.not_eq_true, Std.ExtTreeSet.contains_iff_mem]
  have distinct : kept.Nodup := StringMap.nodup_keys.filter _
  have inside : ∀ source, (targets source).Nodup ∧ targets source ⊆ kept := by
    refine fun source => ⟨nodup_neighbours_adjacency.filter _, fun target member => ?_⟩
    obtain ⟨listed, kind⟩ := List.mem_filter.mp member
    exact List.mem_filter.mpr ⟨(mem_keys_collectNodes collects).mpr
      (resolved.step (mem_neighbours_adjacency.mp listed)).2, kind⟩
  -- The counted edges are the steps around the loop nodes.
  have edges : Kahn.Edge targets kept = Avoiding (definition.HasKind .loop) definition.Step := by
    funext source target
    simp only [Kahn.Edge, kept, targets, List.mem_filter, countedIff, Avoiding,
      mem_neighbours_adjacency, mem_keys_collectNodes collects, eq_iff_iff]
    constructor
    · rintro ⟨⟨_, first⟩, step, second⟩
      exact ⟨step, first, second⟩
    · rintro ⟨step, first, second⟩
      exact ⟨⟨(resolved.step step).1, first⟩, step, second⟩
  obtain ⟨incoming, counting, counts⟩ := count_sources counted collects resolved
  let ready := (incoming.toList.filter fun entry => entry.2 == 0).map Prod.fst
  have initial : Kahn.Invariant targets kept [] kept ⟨incoming, .ofList ready, 0⟩ :=
    { split := List.Perm.refl kept
      counts
      ready := by
        intro node
        have listed : node ∈ ready ↔ incoming[node]? = some 0 := by
          simp [ready, Std.ExtTreeMap.mem_toList_iff_getElem?_eq_some]
        rw [Std.ExtTreeSet.mem_ofList, List.contains_iff_mem, listed, iff_and_self]
        intro zero
        rw [counts node] at zero
        by_contra outside
        rw [if_neg outside] at zero
        cases zero
      processed := rfl
      closed := by simp
      acyclic := by simp }
  obtain ⟨result, drained, exact⟩ := Kahn.drain_spec (ε := GraphError) distinct
    (fun source _ => inside source) initial (Nat.lt_succ_of_le (counts.size distinct).ge)
  rw [cycles_meet_iff, ← edges, ← exact]
  have run : validateCycles definition nodes = rejectIf (result.processed ≠ result.incoming.size)
      (.illegalCycle ((result.incoming.toList.filter fun entry => entry.2 > 0).map Prod.fst)) := by
    unfold validateCycles
    simp only
    rw [counting]
    change (Kahn.drain targets (incoming.size + 1) ⟨incoming, .ofList ready, 0⟩ >>= _) = _
    rw [drained]
    rfl
  rw [run, rejectIf_eq_ok, ne_eq, not_not]

end Pass

section Bounds

variable {definition : GraphDefinition} {nodes : StringMap NodeDefinition} {walk : List String}

theorem mem_otherIds {id : String} (collects : collectNodes definition = .ok nodes)
    (known : ∃ node ∈ definition.nodes, node.id = id) :
    id ∈ definition.otherIds ↔ ¬ definition.HasKind .loop id := by
  obtain ⟨node, member, rfl⟩ := known
  simp only [GraphDefinition.otherIds, List.mem_map, List.mem_filter, bne_iff_ne,
    GraphDefinition.HasKind]
  constructor
  · rintro ⟨other, ⟨first, kind⟩, same⟩ ⟨loop, second, equal, isLoop⟩
    obtain rfl := eq_of_id_eq collects first second (same.trans equal.symm)
    exact kind isLoop
  · intro notLoop
    exact ⟨node, ⟨member, fun kind => notLoop ⟨node, member, rfl, kind⟩⟩, rfl⟩

theorem GraphDefinition.Resolved.isWalk {head : String} {tail : List String}
    (resolved : definition.Resolved) (known : ∃ node ∈ definition.nodes, node.id = head)
    (steps : (head :: tail).IsChain definition.Step) : definition.IsWalk (head :: tail) where
  steps
  visited := steps.induction (fun id => ∃ node ∈ definition.nodes, node.id = id) _
    (fun _ _ step _ => (resolved.step step).2) fun _ => known

theorem length_le_otherIds (collects : collectNodes definition = .ok nodes)
    (resolved : definition.Resolved) (accepts : validateCycles definition nodes = .ok ())
    (isWalk : definition.IsWalk walk) (around : ∀ id ∈ walk, ¬ definition.HasKind .loop id) :
    walk.length ≤ definition.otherIds.length := by
  have acyclic := cycles_meet_iff.mp ((validateCycles_eq_ok collects resolved).mp accepts)
  exact acyclic.length_le (isChain_avoiding isWalk.steps around) fun id member =>
    (mem_otherIds collects (isWalk.visited id member)).mpr (around id member)

theorem GraphDefinition.IsWalk.within {run : List String} (isWalk : definition.IsWalk walk)
    (inside : run <:+: walk) : definition.IsWalk run where
  steps := isWalk.steps.infix inside
  visited id member := isWalk.visited id (inside.subset member)

theorem length_le_of_visits {visits : String → Nat} (collects : collectNodes definition = .ok nodes)
    (resolved : definition.Resolved) (accepts : validateCycles definition nodes = .ok ())
    (isWalk : definition.IsWalk walk)
    (bounded : ∀ id, definition.HasKind .loop id → walk.count id ≤ visits id) :
    walk.length ≤ (1 + (definition.loopIds.map visits).sum) * definition.otherIds.length +
      (definition.loopIds.map visits).sum := by
  classical
  have loops : ∀ id, id ∈ definition.loopIds ↔ definition.HasKind .loop id := by
    simp [GraphDefinition.loopIds, GraphDefinition.HasKind, and_assoc, and_comm]
  -- Between two loop nodes a walk repeats nothing.
  have runs := @length_le_of_runs _ (fun id => definition.HasKind .loop id)
    definition.otherIds.length walk [] (by simp) fun run inside unmarked =>
      length_le_otherIds collects resolved accepts (isWalk.within (by simpa using inside))
        (by simpa using unmarked)
  have counted : walk.countP (fun id => decide (definition.HasKind .loop id)) ≤
      (definition.loopIds.map visits).sum := by
    refine (countP_le_sum_count fun id _ isLoop => (loops id).mpr (by simpa using isLoop)).trans ?_
    exact List.sum_le_sum fun id member => bounded id ((loops id).mp member)
  refine runs.trans (Nat.add_le_add (Nat.mul_le_mul_right _ (by omega)) counted)

end Bounds

section Accepted

variable [GraphCodec] [SerdeJson] [Hashing]

/-- The cycle pass is exact, and in accepted graphs loop nodes bound every walk to a terminal. -/
theorem cycles_exact_and_bounding :
    (∀ definition nodes, collectNodes definition = .ok nodes → definition.Resolved →
      (validateCycles definition nodes = .ok () ↔ ∀ cycle, IsCycle definition.Step cycle →
        ∃ node ∈ cycle, definition.HasKind .loop node)) ∧
    ∀ source inputs limits definition, Accepts source inputs limits definition →
      (∀ walk run, definition.IsWalk walk → run <:+: walk →
        (∀ id ∈ run, ¬ definition.HasKind .loop id) → run.length < definition.otherIds.length + 1) ∧
      (∀ walk (visits : String → Nat), definition.IsWalk walk →
        (∀ id, definition.HasKind .loop id → walk.count id ≤ visits id) →
        walk.length ≤ (1 + (definition.loopIds.map visits).sum) * definition.otherIds.length +
          (definition.loopIds.map visits).sum) ∧
      ∀ node ∈ definition.nodes, ∃ walk terminal, definition.IsWalk walk ∧
        walk.head? = some definition.entry ∧ node.id ∈ walk ∧ walk.getLast? = some terminal ∧
        definition.IsTerminal terminal := by
  refine ⟨fun definition nodes => validateCycles_eq_ok, ?_⟩
  intro source inputs limits definition accepted
  obtain ⟨nodes, variableMap, valid⟩ := accepted.validated
  refine ⟨fun walk run isWalk inside around => ?_, fun walk visits isWalk bounded => ?_,
    fun node member => ?_⟩
  · exact Nat.lt_succ_of_le (length_le_otherIds valid.collected valid.resolved valid.cycles
      (isWalk.within inside) around)
  · exact length_le_of_visits valid.collected valid.resolved valid.cycles isWalk bounded
  · obtain ⟨terminal, isTerminal, ends⟩ := valid.terminates member
    obtain ⟨walk, steps, starts, through, last⟩ := exists_walk_through (valid.reachable member) ends
    cases walk with
    | nil => simp at through
    | cons head tail =>
      obtain rfl := Option.some.inj starts
      exact ⟨_, terminal, valid.resolved.isWalk valid.entry_known steps, rfl, through,
        last, isTerminal⟩

end Accepted

section Sample

attribute [local instance] sampleCodec noLiterals prefixHash

/-- The sample graph's cycles pass its loop, its runs are bounded and reach all of its nodes. -/
theorem cycles_exact_and_bounding_sample :
    (validateCycles sampleGraph sampleGraph.nodeMap = .ok () ↔
      ∀ cycle, IsCycle sampleGraph.Step cycle → ∃ node ∈ cycle, sampleGraph.HasKind .loop node) ∧
    (∀ walk, sampleGraph.IsWalk walk → walk.count "again" ≤ 2 → walk.length ≤ 20) ∧
    ∃ walk terminal, sampleGraph.IsWalk walk ∧ walk.head? = some "start" ∧ "fan" ∈ walk ∧
      walk.getLast? = some terminal ∧ sampleGraph.IsTerminal terminal := by
  obtain ⟨nodes, _, valid⟩ := accepts_sample.validated
  have collected : collectNodes sampleGraph = .ok sampleGraph.nodeMap := by
    rw [GraphDefinition.nodeMap, valid.collected]
  obtain ⟨exact, bounds⟩ := cycles_exact_and_bounding
  obtain ⟨_, bounded, reached⟩ := bounds _ _ _ _ accepts_sample
  refine ⟨exact _ _ collected valid.resolved, fun walk isWalk visits => ?_,
    reached sampleFan isParallel_sampleFan.member⟩
  have loops : ∀ id, sampleGraph.HasKind .loop id → walk.count id ≤ 2 := by
    rintro id ⟨node, member, rfl, kind⟩
    have only : node.id = "again" := by
      revert kind
      revert node
      decide
    rwa [only]
  exact bounded walk (fun _ => 2) isWalk loops

end Sample

end AgentMod
