import AgentMod.Library.Kahn
import AgentMod.Pipeline.Ordering
import AgentMod.Verified.Primitives.Collections

/-! The counters and edges that an execution order is compiled from hold the declared constraints. -/

namespace AgentMod

section Counts

variable {specifications permuted : List OrderingSpec} {handler : HandlerId}

theorem mem_handlers :
    handler ∈ specifications.map OrderingSpec.handler ↔ Registered specifications handler := by
  simp [Registered]

theorem getElem?_foldl_counts (counts : StringMap Nat) :
    (specifications.foldl (fun counts specification =>
      counts.alter specification.handler fun count => some (count.getD 0 + 1)) counts)[handler]? =
      if (specifications.map OrderingSpec.handler).count handler = 0 then counts[handler]?
      else some (counts[handler]?.getD 0 +
        (specifications.map OrderingSpec.handler).count handler) := by
  induction specifications generalizing counts with
  | nil => simp
  | cons specification rest ih =>
    simp only [List.foldl_cons, ih, Std.ExtTreeMap.getElem?_alter, List.map_cons, List.count_cons,
      Std.LawfulEqCmp.compare_eq_iff_eq, beq_iff_eq]
    by_cases same : specification.handler = handler
    · simp only [same, if_true, Option.getD_some]
      split
      · next zero => simp [zero]
      · next some =>
        rw [if_neg (Nat.succ_ne_zero _), Nat.add_assoc, Nat.add_comm 1]
    · simp only [same, if_false, Nat.add_zero]

theorem getElem?_registrationCounts {count : Nat} :
    (registrationCounts specifications)[handler]? = some count ↔
      Registered specifications handler ∧
        (specifications.map OrderingSpec.handler).count handler = count := by
  rw [registrationCounts, getElem?_foldl_counts, ← mem_handlers, ← List.count_pos_iff]
  split
  · next zero => simp [zero]
  · next some => simp [Nat.pos_of_ne_zero some]

theorem registrationCounts_perm (same : specifications.Perm permuted) :
    registrationCounts specifications = registrationCounts permuted := by
  apply Std.ExtTreeMap.ext_getElem?
  intro handler
  have counted := (same.map OrderingSpec.handler).count_eq handler
  simp only [registrationCounts, getElem?_foldl_counts, counted]

/-- The known handlers of some registrations. -/
def knownHandlers (specifications : List OrderingSpec) : StringSet :=
  .ofList (registrationCounts specifications).keys

theorem mem_knownHandlers :
    handler ∈ knownHandlers specifications ↔ Registered specifications handler := by
  rw [knownHandlers, Std.ExtTreeSet.mem_ofList, List.contains_iff_mem, StringMap.mem_keys]
  simp [getElem?_registrationCounts]

theorem duplicateHandlers_eq_nil : duplicateHandlers (registrationCounts specifications) = [] ↔
    (specifications.map OrderingSpec.handler).Nodup := by
  rw [duplicateHandlers, List.map_eq_nil_iff, List.filter_eq_nil_iff, List.nodup_iff_count_le_one]
  constructor
  · intro single handler
    by_cases registered : Registered specifications handler
    · have counted := getElem?_registrationCounts.mpr ⟨registered, rfl⟩
      simpa using single _ (Std.ExtTreeMap.mem_toList_iff_getElem?_eq_some.mpr counted)
    · rw [← mem_handlers] at registered
      simp [List.count_eq_zero.mpr registered]
  · rintro once ⟨handler, count⟩ listed
    have found := Std.ExtTreeMap.mem_toList_iff_getElem?_eq_some.mp listed
    have := once handler
    rw [(getElem?_registrationCounts.mp found).2] at this
    simpa using this

theorem missingDependencies_eq_nil :
    specifications.flatMap (missingDependencies (knownHandlers specifications)) = [] ↔
      ∀ specification ∈ specifications, ∀ relation, ∀ handler ∈ specification.named relation,
        Registered specifications handler := by
  simp only [List.flatMap_eq_nil_iff, missingDependencies, List.map_eq_nil_iff,
    List.filter_eq_nil_iff, Bool.not_eq_true', Bool.not_eq_false, Std.ExtTreeSet.contains_iff_mem,
    mem_knownHandlers]
  refine forall₂_congr fun specification _ => ⟨fun all relation => ?_, fun all relation _ => all relation⟩
  exact all relation (by cases relation <;> simp)

end Counts

section Graph

variable {specifications permuted : List OrderingSpec} {nodes : List HandlerId}

/-- The constraints that a specification declares, in the order in which they are added. -/
def OrderingSpec.constraints (specification : OrderingSpec) : List (HandlerId × HandlerId) :=
  specification.before.map (fun target => (specification.handler, target)) ++
    specification.after.map fun source => (source, specification.handler)

theorem mem_constraints {source target : HandlerId} :
    (source, target) ∈ specifications.flatMap OrderingSpec.constraints ↔
      Constrains specifications source target := by
  simp only [List.mem_flatMap, OrderingSpec.constraints, List.mem_append, List.mem_map,
    Prod.mk.injEq, Constrains]
  refine exists_congr fun specification => and_congr_right fun _ => or_congr ?_ ?_
  · exact ⟨fun ⟨_, listed, same, rfl⟩ => ⟨same, listed⟩, fun ⟨same, listed⟩ => ⟨_, listed, same, rfl⟩⟩
  · exact ⟨fun ⟨_, listed, rfl, same⟩ => ⟨same, listed⟩, fun ⟨same, listed⟩ => ⟨_, listed, rfl, same⟩⟩

/-- A graph holds the listed constraints between some handlers, and counts them. -/
structure Holds (nodes : List HandlerId) (edges : List (HandlerId × HandlerId))
    (graph : OrderingGraph) : Prop where
  sources : ∀ source, graph.outgoing[source]?.isSome ↔ source ∈ nodes
  targets : ∀ source target, target ∈ graph.outgoing[source]?.getD ∅ ↔
    source ∈ nodes ∧ (source, target) ∈ edges
  counts : Kahn.Counts nodes graph.incoming fun target =>
    nodes.countP fun source => (source, target) ∈ edges

/-- A constraint is held and counted once it is added. -/
theorem Holds.addEdge {edges : List (HandlerId × HandlerId)} {graph : OrderingGraph}
    {source target : HandlerId} (holds : Holds nodes edges graph) (distinct : nodes.Nodup)
    (first : source ∈ nodes) (second : target ∈ nodes) :
    Holds nodes (edges ++ [(source, target)]) (addEdge source target graph) := by
  obtain ⟨targets, found⟩ := Option.isSome_iff_exists.mp ((holds.sources source).mpr first)
  have listed := holds.targets source
  simp only [found, Option.getD_some, first, true_and] at listed
  unfold AgentMod.addEdge
  simp only [found]
  by_cases there : target ∈ targets
  · -- The constraint is there already.
    rw [if_pos (Std.ExtTreeSet.contains_iff_mem.mpr there)]
    have held := (listed target).mp there
    have same : ∀ edge, edge ∈ edges ++ [(source, target)] ↔ edge ∈ edges := by
      intro edge
      rw [List.mem_append, List.mem_singleton, or_iff_left_iff_imp]
      rintro rfl
      exact held
    exact ⟨holds.sources, by simpa only [same] using holds.targets,
      by simpa only [same] using holds.counts⟩
  · rw [if_neg (by simpa using there)]
    have fresh : (source, target) ∉ edges := fun held => there ((listed target).mpr held)
    have counted := holds.counts target
    rw [if_pos second] at counted
    simp only [counted]
    refine ⟨fun other => ?_, fun other next => ?_, fun other => ?_⟩
    · rw [Std.ExtTreeMap.getElem?_insert, ← holds.sources other]
      split
      · next same =>
        rw [Std.LawfulEqCmp.compare_eq_iff_eq] at same
        simp [← same, found]
      · rfl
    · rw [Std.ExtTreeMap.getElem?_insert]
      simp only [Std.LawfulEqCmp.compare_eq_iff_eq]
      by_cases same : source = other
      · subst same
        simp only [if_true, Option.getD_some, Std.ExtTreeSet.mem_insert,
          Std.LawfulEqCmp.compare_eq_iff_eq, listed, first, List.mem_append, List.mem_singleton,
          Prod.mk.injEq, true_and]
        rw [or_comm, @eq_comm _ next]
      · simp [same, Ne.symm same, holds.targets]
    · rw [Std.ExtTreeMap.getElem?_insert]
      simp only [Std.LawfulEqCmp.compare_eq_iff_eq]
      by_cases same : target = other
      · -- Only the source of the constraint waits before it and did not before.
        subst same
        have total := fun edges : List (HandlerId × HandlerId) =>
          (List.perm_cons_erase first).countP_eq fun source => decide ((source, target) ∈ edges)
        have others : ((nodes.erase source).countP fun other =>
            decide ((other, target) ∈ edges ++ [(source, target)])) =
              (nodes.erase source).countP fun other => decide ((other, target) ∈ edges) := by
          refine List.countP_congr fun other member => ?_
          have apart := (distinct.mem_erase_iff.mp member).1
          simp [apart]
        have raised : (nodes.countP fun other => decide ((other, target) ∈ edges ++ [(source, target)])) =
            (nodes.countP fun other => decide ((other, target) ∈ edges)) + 1 := by
          rw [total, total, List.countP_cons_of_pos (by simp),
            List.countP_cons_of_neg (by simpa using fresh), others]
        simp only [if_true, second, raised]
      · simp [same, Ne.symm same, holds.counts other]

theorem holds_nil (known : StringSet) : Holds known.toList [] (orderingGraph known []) := by
  refine ⟨fun source => ?_, fun source target => ?_, fun target => ?_⟩
  · simp only [orderingGraph, List.foldl_nil,
      StringMap.getElem?_ofList_const StringSet.nodup_toList]
    split <;> simp_all
  · simp only [orderingGraph, List.foldl_nil,
      StringMap.getElem?_ofList_const StringSet.nodup_toList]
    split <;> simp
  · simp only [orderingGraph, List.foldl_nil,
      StringMap.getElem?_ofList_const StringSet.nodup_toList]
    simp

theorem holds_orderingGraph {known : StringSet}
    (registered : ∀ source target, Constrains specifications source target →
      source ∈ known ∧ target ∈ known) :
    Holds known.toList (specifications.flatMap OrderingSpec.constraints)
      (orderingGraph known specifications) := by
  have added : ∀ (edges held : List (HandlerId × HandlerId)) (graph : OrderingGraph),
      Holds known.toList held graph → (∀ edge ∈ edges, edge.1 ∈ known ∧ edge.2 ∈ known) →
      Holds known.toList (held ++ edges)
        (edges.foldl (fun graph edge => addEdge edge.1 edge.2 graph) graph) := by
    intro edges
    induction edges with
    | nil => simp
    | cons edge rest ih =>
      intro held graph holds inside
      obtain ⟨⟨first, second⟩, later⟩ := List.forall_mem_cons.mp inside
      have next := holds.addEdge StringSet.nodup_toList (Std.ExtTreeSet.mem_toList.mpr first)
        (Std.ExtTreeSet.mem_toList.mpr second)
      simpa using ih _ _ next later
  -- The nested loops add the declared constraints one by one.
  have flat : orderingGraph known specifications =
      (specifications.flatMap OrderingSpec.constraints).foldl
        (fun graph edge => addEdge edge.1 edge.2 graph) (orderingGraph known []) := by
    simp only [orderingGraph, List.foldl_nil, List.foldl_flatMap, OrderingSpec.constraints,
      List.foldl_append, List.foldl_map]
    rfl
  rw [flat]
  simpa using added _ [] _ (holds_nil known) fun edge member =>
    registered edge.1 edge.2 (mem_constraints.mp member)

end Graph

end AgentMod
