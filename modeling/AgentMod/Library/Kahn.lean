import AgentMod.Library.Result
import AgentMod.Library.Walk
import Mathlib.Data.List.Sort

/-! Kahn's algorithm: counting and releasing incoming edges until no node is ready. -/

namespace AgentMod

namespace Kahn

variable {ε α : Type} [Ord α] [Std.TransOrd α] [Std.LawfulEqOrd α]

/-- The counters of incoming edges, the nodes that wait for none, and the processed nodes. -/
structure State (α : Type) [Ord α] where
  incoming : Std.ExtTreeMap α Nat
  ready : Std.ExtTreeSet α
  processed : Nat

/-- Counts one more edge into a node; a node without a counter panics. -/
def count (incoming : Std.ExtTreeMap α Nat) (target : α) :
    Except (Halt ε) (Std.ExtTreeMap α Nat) :=
  match incoming[target]? with
  | none => .error .panic
  | some edges => .ok (incoming.insert target (edges + 1))

/-- Counts one edge less into a node and readies it when none is left. -/
def release (state : State α) (target : α) : Except (Halt ε) (State α) :=
  match state.incoming[target]? with
  | none | some 0 => .error .panic
  | some (edges + 1) => .ok { state with
      incoming := state.incoming.insert target edges
      ready := if edges = 0 then state.ready.insert target else state.ready }

/-- Processes the first ready node until there is none. -/
def drain (targets : α → List α) : Nat → State α → Except (Halt ε) (State α)
  | 0, _ => .error .fuel
  | fuel + 1, state =>
    match state.ready.toList.head? with
    | none => .ok state
    | some node => do
      let state ← (targets node).foldlM release
        { state with ready := state.ready.erase node, processed := state.processed + 1 }
      drain targets fuel state

/-- The edges between counted nodes. -/
def Edge (targets : α → List α) (nodes : List α) (source target : α) : Prop :=
  source ∈ nodes ∧ target ∈ targets source

variable [DecidableEq α] {targets : α → List α} {nodes remaining done : List α}

/-- Counters of exactly the listed nodes, with the given values. -/
def Counts (nodes : List α) (incoming : Std.ExtTreeMap α Nat) (value : α → Nat) : Prop :=
  ∀ node, incoming[node]? = if node ∈ nodes then some (value node) else none

/-- Counting a list of edges adds the number of edges into each node. -/
theorem count_all {edges : List α} {incoming : Std.ExtTreeMap α Nat} {value : α → Nat}
    (counts : Counts nodes incoming value) (known : edges ⊆ nodes) :
    ∃ result, edges.foldlM (count (ε := ε)) incoming = .ok result ∧
      Counts nodes result fun node => value node + edges.count node := by
  -- Each edge raises the counter of its own target.
  induction edges generalizing incoming value with
  | nil => exact ⟨incoming, rfl, by simpa using counts⟩
  | cons target rest ih =>
    have here : incoming[target]? = some (value target) := by
      simp [counts target, known List.mem_cons_self]
    have raised : Counts nodes (incoming.insert target (value target + 1))
        fun node => value node + if node = target then 1 else 0 := by
      intro node
      simp only [Std.ExtTreeMap.getElem?_insert, Std.LawfulEqCmp.compare_eq_iff_eq]
      by_cases same : target = node
      · subst same
        simp [known List.mem_cons_self]
      · simp [same, Ne.symm same, counts node]
    obtain ⟨result, returned, final⟩ := ih raised fun node member =>
      known (List.mem_cons_of_mem target member)
    refine ⟨result, ?_, ?_⟩
    · simp only [List.foldlM_cons, count, here]
      exact returned
    · intro node
      rw [final node]
      simp only [List.count_cons]
      by_cases same : node = target
      · subst same
        have moved : value node + 1 + rest.count node = value node + (rest.count node + 1) := by omega
        simp [moved]
      · simp [same, Ne.symm same]

theorem count_entries {β : Type} {listed : β → List α} {entries : List β}
    {incoming : Std.ExtTreeMap α Nat} {value : α → Nat} (counts : Counts nodes incoming value)
    (known : ∀ entry ∈ entries, (listed entry).Nodup ∧ listed entry ⊆ nodes) :
    ∃ result, entries.foldlM (fun incoming entry => (listed entry).foldlM (count (ε := ε)) incoming)
        incoming = .ok result ∧
      Counts nodes result fun node => value node + entries.countP fun entry => node ∈ listed entry := by
  induction entries generalizing incoming value with
  | nil => exact ⟨incoming, rfl, by simpa using counts⟩
  | cons entry rest ih =>
    obtain ⟨⟨distinct, inside⟩, later⟩ := List.forall_mem_cons.mp known
    obtain ⟨next, counted, raised⟩ := count_all (ε := ε) counts inside
    obtain ⟨result, returned, final⟩ := ih raised later
    refine ⟨result, ?_, fun node => ?_⟩
    · rw [List.foldlM_cons, counted]
      exact returned
    · have added : value node + (listed entry).count node +
          (rest.countP fun entry => node ∈ listed entry) =
            value node + (entry :: rest).countP fun entry => node ∈ listed entry := by
        rw [List.countP_cons, distinct.count]
        simp only [decide_eq_true_eq]
        omega
      exact (final node).trans
        (congrArg (fun total => if node ∈ nodes then some total else none) added)

theorem Counts.size {incoming : Std.ExtTreeMap α Nat} {value : α → Nat}
    (counts : Counts nodes incoming value) (distinct : nodes.Nodup) :
    incoming.size = nodes.length := by
  have keys : incoming.keys.Nodup := Std.ExtTreeMap.distinct_keys.imp fun {left right} differs same => by
    subst same
    exact differs Std.ReflCmp.compare_self
  rw [← Std.ExtTreeMap.length_keys]
  refine ((List.perm_ext_iff_of_nodup keys distinct).mpr fun node => ?_).length_eq
  rw [Std.ExtTreeMap.mem_keys, Std.ExtTreeMap.mem_iff_isSome_getElem?, counts node]
  split <;> simp_all

/-- The nodes that are neither processed nor wait for an edge are the ready ones. -/
def Ready (remaining : List α) (state : State α) : Prop :=
  ∀ node, node ∈ state.ready ↔ node ∈ remaining ∧ state.incoming[node]? = some 0

/-- Releasing distinct targets takes one edge from the counter of each. -/
theorem release_all {released : List α} (state : State α) {value : α → Nat}
    (counts : Counts nodes state.incoming fun node =>
      value node + if node ∈ released then 1 else 0)
    (ready : Ready remaining state) (distinct : released.Nodup) (known : released ⊆ remaining)
    (listed : remaining ⊆ nodes) :
    ∃ result, released.foldlM (release (ε := ε)) state = .ok result ∧
      Counts nodes result.incoming value ∧ Ready remaining result ∧
      result.processed = state.processed := by
  -- Only the first target's counter changes, and it is ready when its counter drops to zero.
  induction released generalizing state with
  | nil => exact ⟨state, rfl, by simpa using counts, ready, rfl⟩
  | cons target rest ih =>
    obtain ⟨fresh, distinct⟩ := List.nodup_cons.mp distinct
    have member : target ∈ nodes := listed (known List.mem_cons_self)
    have here : state.incoming[target]? = some (value target + 1) := by
      simp [counts target, member]
    let next : State α := { state with
      incoming := state.incoming.insert target (value target)
      ready := if value target = 0 then state.ready.insert target else state.ready }
    have lowered : Counts nodes next.incoming fun node =>
        value node + if node ∈ rest then 1 else 0 := by
      intro node
      simp only [next]
      simp only [Std.ExtTreeMap.getElem?_insert, Std.LawfulEqCmp.compare_eq_iff_eq]
      by_cases same : target = node
      · subst same
        simp [member, fresh]
      · simp [same, Ne.symm same, counts node]
    have readied : Ready remaining next := by
      intro node
      simp only [next]
      simp only [Std.ExtTreeMap.getElem?_insert, Std.LawfulEqCmp.compare_eq_iff_eq]
      by_cases same : target = node
      · subst same
        have waiting : target ∉ state.ready := by simp [ready target, here]
        by_cases zero : value target = 0 <;>
          simp [zero, waiting, known List.mem_cons_self]
      · by_cases zero : value target = 0 <;>
          simp [zero, same, ready node, Std.LawfulEqCmp.compare_eq_iff_eq]
    obtain ⟨result, returned, final, readyFinal, processed⟩ := ih next lowered readied distinct
      fun node inside => known (List.mem_cons_of_mem target inside)
    refine ⟨result, ?_, final, readyFinal, processed⟩
    simp only [List.foldlM_cons, release, here]
    exact returned

/-- What holds between two iterations, for the processed and the remaining nodes. -/
structure Invariant (targets : α → List α) (nodes done remaining : List α) (state : State α) :
    Prop where
  split : (done ++ remaining).Perm nodes
  counts : Counts nodes state.incoming fun node =>
    remaining.countP fun source => node ∈ targets source
  ready : Ready remaining state
  processed : state.processed = done.length
  closed : ∀ target ∈ done, ∀ source, Edge targets nodes source target → source ∈ done
  acyclic : ∀ node ∈ done, ¬ Relation.TransGen (Edge targets nodes) node node

omit [Std.LawfulEqOrd α] in
theorem Invariant.mem_ready {state : State α} {node : α} (distinct : nodes.Nodup)
    (holds : Invariant targets nodes done remaining state) : node ∈ state.ready ↔
      node ∈ remaining ∧ ∀ source, Edge targets nodes source node → source ∈ done := by
  rw [holds.ready node]
  refine and_congr_right fun there => ?_
  rw [holds.counts node, if_pos (holds.split.subset (List.mem_append_right done there)),
    Option.some_inj, List.countP_eq_zero]
  constructor
  · intro none source edge
    refine (List.mem_append.mp (holds.split.symm.subset edge.1)).resolve_right fun waiting => ?_
    exact none source waiting (by simpa using edge.2)
  · intro before source waiting edge
    have member := holds.split.subset (List.mem_append_right done waiting)
    have apart := (List.nodup_append.mp (holds.split.nodup_iff.mpr distinct)).2.2
    exact apart source (before source ⟨member, by simpa using edge⟩) source waiting rfl

/-- Processing a ready node keeps the invariant. -/
theorem Invariant.step {state : State α} {node : α} (distinct : nodes.Nodup)
    (targeted : ∀ source ∈ nodes, (targets source).Nodup ∧ targets source ⊆ nodes)
    (holds : Invariant targets nodes done remaining state) (member : node ∈ state.ready) :
    ∃ next, (targets node).foldlM (release (ε := ε))
        { state with ready := state.ready.erase node, processed := state.processed + 1 } = .ok next ∧
      Invariant targets nodes (node :: done) (remaining.erase node) next := by
  obtain ⟨unprocessed, before⟩ := (holds.mem_ready distinct).mp member
  have perm := holds.split
  have inside : ∀ other ∈ remaining, other ∈ nodes := fun other there =>
    perm.subset (List.mem_append_right done there)
  have apart := List.nodup_append.mp (perm.nodup_iff.mpr distinct)
  -- A ready node has no predecessor left.
  have none : ∀ source ∈ remaining, node ∉ targets source := fun source there edge =>
    apart.2.2 source (before source ⟨inside source there, edge⟩) source there rfl
  obtain ⟨once, known⟩ := targeted node (inside node unprocessed)
  have ahead : targets node ⊆ remaining.erase node := by
    intro target there
    rcases List.mem_append.mp (perm.symm.subset (known there)) with early | late
    · have := holds.closed target early node ⟨inside node unprocessed, there⟩
      exact absurd rfl (apart.2.2 node this node unprocessed)
    · refine (List.mem_erase_of_ne ?_).mpr late
      rintro rfl
      exact none target unprocessed there
  have counted : Counts nodes state.incoming fun target =>
      ((remaining.erase node).countP fun source => target ∈ targets source) +
        if target ∈ targets node then 1 else 0 := by
    intro target
    have total := (List.perm_cons_erase unprocessed).countP_eq fun source =>
      decide (target ∈ targets source)
    rw [holds.counts target]
    simp only [total, List.countP_cons, decide_eq_true_eq]
  have readied : Ready (remaining.erase node)
      { state with ready := state.ready.erase node, processed := state.processed + 1 } := by
    intro other
    simp only [Std.ExtTreeSet.mem_erase, ne_eq, Std.LawfulEqCmp.compare_eq_iff_eq,
      holds.ready other, apart.2.1.mem_erase_iff, eq_comm (a := node), and_assoc]
  obtain ⟨next, returned, counts, ready, processed⟩ :=
    release_all { state with ready := state.ready.erase node, processed := state.processed + 1 }
      counted readied once ahead fun other there => inside other (List.mem_of_mem_erase there)
  refine ⟨next, returned, ?_, counts, ready, ?_, ?_, ?_⟩
  · exact (List.perm_middle.symm.trans
      (List.Perm.append_left done (List.perm_cons_erase unprocessed).symm)).trans perm
  · simp [processed, holds.processed]
  · intro target there source edge
    rcases List.mem_cons.mp there with rfl | there
    · exact List.mem_cons_of_mem _ (before source edge)
    · exact List.mem_cons_of_mem _ (holds.closed target there source edge)
  · intro other member cycle
    rcases List.mem_cons.mp member with same | there
    · subst same
      obtain ⟨source, path, edge⟩ := Relation.TransGen.tail'_iff.mp cycle
      have early := mem_of_closed holds.closed path (before source edge)
      exact apart.2.2 other early other unprocessed rfl
    · exact holds.acyclic other there cycle

omit [Std.LawfulEqOrd α] in
theorem Invariant.waits {state : State α} (holds : Invariant targets nodes done remaining state)
    (none : ∀ node, node ∉ state.ready) :
    ∀ target ∈ remaining, ∃ source ∈ remaining, Edge targets nodes source target := by
  intro target there
  have inside : ∀ node ∈ remaining, node ∈ nodes := fun node member =>
    holds.split.subset (List.mem_append_right done member)
  have counted := holds.counts target
  rw [if_pos (inside target there)] at counted
  have positive : (remaining.countP fun source => target ∈ targets source) ≠ 0 := fun zero =>
    none target ((holds.ready target).mpr ⟨there, counted.trans (congrArg some zero)⟩)
  obtain ⟨source, member, edge⟩ := List.countP_pos_iff.mp (Nat.pos_of_ne_zero positive)
  exact ⟨source, member, inside source member, by simpa using edge⟩

omit [Std.LawfulEqOrd α] in
theorem Invariant.mem_remaining {state : State α} {node : α} (distinct : nodes.Nodup)
    (holds : Invariant targets nodes done remaining state) (none : ∀ node, node ∉ state.ready) :
    node ∈ remaining ↔ ∃ edges, state.incoming[node]? = some edges ∧ 0 < edges := by
  have counted := holds.counts node
  constructor
  · intro there
    rw [if_pos (holds.split.subset (List.mem_append_right done there))] at counted
    refine ⟨_, counted, Nat.pos_of_ne_zero fun zero => ?_⟩
    exact none node ((holds.ready node).mpr ⟨there, counted.trans (congrArg some zero)⟩)
  · rintro ⟨edges, found, positive⟩
    rw [found] at counted
    split at counted
    · next inside =>
      -- A processed node has no remaining source.
      cases counted
      obtain ⟨source, waiting, edge⟩ := List.countP_pos_iff.mp positive
      refine (List.mem_append.mp (holds.split.symm.subset inside)).resolve_left fun early => ?_
      have member := holds.split.subset (List.mem_append_right done waiting)
      have before := holds.closed node early source ⟨member, by simpa using edge⟩
      have apart := (List.nodup_append.mp (holds.split.nodup_iff.mpr distinct)).2.2
      exact apart source before source waiting rfl
    · cases counted

omit [Std.LawfulEqOrd α] in
theorem Invariant.finished {state : State α} (holds : Invariant targets nodes done remaining state)
    (none : ∀ node, node ∉ state.ready) :
    remaining = [] ↔ Acyclic (Edge targets nodes) := by
  constructor
  · intro empty node cycle
    obtain ⟨next, step, _⟩ := Relation.TransGen.head'_iff.mp cycle
    have there := holds.split.symm.subset step.1
    rw [empty, List.append_nil] at there
    exact holds.acyclic node there cycle
  · intro acyclic
    exact acyclic.eq_nil (holds.waits none)

/-- The loop processes as many nodes as there are exactly when the edges are acyclic. -/
theorem drain_spec {fuel : Nat} {state : State α} (distinct : nodes.Nodup)
    (targeted : ∀ source ∈ nodes, (targets source).Nodup ∧ targets source ⊆ nodes)
    (holds : Invariant targets nodes done remaining state) (enough : remaining.length < fuel) :
    ∃ result, drain (ε := ε) targets fuel state = .ok result ∧
      (result.processed = result.incoming.size ↔ Acyclic (Edge targets nodes)) := by
  induction fuel generalizing state done remaining with
  | zero => omega
  | succ fuel ih =>
    cases first : state.ready.toList.head? with
    | some node =>
      have member : node ∈ state.ready :=
        Std.ExtTreeSet.mem_toList.mp (List.mem_of_mem_head? (by rw [first]; rfl))
      obtain ⟨next, returned, kept⟩ := holds.step (ε := ε) distinct targeted member
      have unprocessed := ((holds.ready node).mp member).1
      have fewer := List.length_erase_of_mem unprocessed
      have some := List.length_pos_of_mem unprocessed
      obtain ⟨result, drained, exact⟩ := ih kept (by omega)
      refine ⟨result, ?_, exact⟩
      simp only [drain, first]
      rw [returned]
      exact drained
    | none =>
      refine ⟨state, by simp [drain, first], ?_⟩
      have none : ∀ node, node ∉ state.ready := by
        intro node
        simp [← Std.ExtTreeSet.mem_toList, List.head?_eq_none_iff.mp first]
      have length := holds.split.length_eq
      rw [List.length_append] at length
      rw [holds.processed, holds.counts.size distinct, ← holds.finished none,
        ← List.length_eq_zero_iff]
      omega

end Kahn

end AgentMod
