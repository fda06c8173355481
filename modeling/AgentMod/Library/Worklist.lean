import AgentMod.Library.Result
import Mathlib.Logic.Relation
import Mathlib.Algebra.BigOperators.Group.List.Basic

/-! Worklist traversal: what a queue of pending nodes visits, and how long it takes. -/

namespace AgentMod

/-- The nodes that a walk from the start reaches through targets, none of them skipped. -/
def Reaches {α : Type} (skip : α → Prop) (targets : α → List α) (start node : α) : Prop :=
  ¬ skip start ∧
    Relation.ReflTransGen (fun source target => target ∈ targets source ∧ ¬ skip target) start node

namespace Reaches

variable {α : Type} {skip : α → Prop} {targets : α → List α} {start source target : α}

theorem refl (kept : ¬ skip start) : Reaches skip targets start start :=
  ⟨kept, .refl⟩

theorem tail (before : Reaches skip targets start source) (member : target ∈ targets source)
    (kept : ¬ skip target) : Reaches skip targets start target :=
  ⟨before.1, before.2.tail ⟨member, kept⟩⟩

theorem kept (reached : Reaches skip targets start target) : ¬ skip target := by
  cases reached.2 with
  | refl => exact reached.1
  | tail _ step => exact step.2

theorem induct {property : α → Prop} (initial : property start)
    (passes : ∀ source target, Reaches skip targets start source → property source →
      target ∈ targets source → ¬ skip target → property target)
    (reached : Reaches skip targets start target) : property target := by
  obtain ⟨begins, path⟩ := reached
  induction path with
  | refl => exact initial
  | tail before step ih => exact passes _ _ ⟨begins, before⟩ ih step.1 step.2

end Reaches

namespace Worklist

variable {ε α : Type}

/-- What holds between two iterations of a traversal from the start. -/
structure Invariant (skip : α → Bool) (visit : α → Except (Halt ε) (List α))
    (targets : α → List α) (start : α) (queue visited : List α) : Prop where
  begun : skip start ∨ start ∈ visited ∨ start ∈ queue
  queued : ∀ node ∈ queue, skip node ∨ Reaches (skip · = true) targets start node
  reached : ∀ node ∈ visited, Reaches (skip · = true) targets start node
  closed : ∀ node ∈ visited, ∀ target ∈ targets node,
    skip target ∨ target ∈ visited ∨ target ∈ queue
  distinct : visited.Nodup
  returned : ∀ node ∈ visited, visit node = .ok (targets node)

section Run

variable {skip : α → Bool} {visit : α → Except (Halt ε) (List α)} {targets : α → List α}
  {start : α} {queue visited result : List α} {node : α}

theorem Invariant.initial : Invariant skip visit targets start [start] [] where
  begun := by simp
  queued := by
    intro node member
    obtain rfl := List.mem_singleton.mp member
    by_cases skipped : skip node
    · exact .inl skipped
    · exact .inr (.refl skipped)
  reached := by simp
  closed := by simp
  distinct := .nil
  returned := by simp

theorem Invariant.drop (holds : Invariant skip visit targets start (node :: queue) visited)
    (dropped : skip node ∨ node ∈ visited) :
    Invariant skip visit targets start queue visited where
  begun := by
    rcases holds.begun with skipped | member | member
    · exact .inl skipped
    · exact .inr (.inl member)
    · rcases List.mem_cons.mp member with rfl | member
      · exact dropped.imp id .inl
      · exact .inr (.inr member)
  queued other member := holds.queued other (List.mem_cons_of_mem node member)
  reached := holds.reached
  closed source member target targeted := by
    rcases holds.closed source member target targeted with skipped | before | behind
    · exact .inl skipped
    · exact .inr (.inl before)
    · rcases List.mem_cons.mp behind with rfl | behind
      · exact dropped.imp id .inl
      · exact .inr (.inr behind)
  distinct := holds.distinct
  returned := holds.returned

/-- Visiting a new node and queueing its targets keeps the invariant. -/
theorem Invariant.expand (holds : Invariant skip visit targets start (node :: queue) visited)
    (kept : ¬ skip node) (fresh : node ∉ visited) (returns : visit node = .ok (targets node)) :
    Invariant skip visit targets start (queue ++ targets node) (visited ++ [node]) := by
  have reaches : Reaches (skip · = true) targets start node :=
    (holds.queued node List.mem_cons_self).resolve_left kept
  refine ⟨?_, ?_, ?_, ?_, ?_, ?_⟩
  · rcases holds.begun with skipped | member | member
    · exact .inl skipped
    · exact .inr (.inl (List.mem_append_left _ member))
    · rcases List.mem_cons.mp member with rfl | member
      · exact .inr (.inl (by simp))
      · exact .inr (.inr (List.mem_append_left _ member))
  · intro other member
    rcases List.mem_append.mp member with member | member
    · exact holds.queued other (List.mem_cons_of_mem node member)
    · by_cases skipped : skip other
      · exact .inl skipped
      · exact .inr (reaches.tail member skipped)
  · intro other member
    rcases List.mem_append.mp member with member | member
    · exact holds.reached other member
    · exact List.mem_singleton.mp member ▸ reaches
  · intro source member target targeted
    rcases List.mem_append.mp member with member | member
    · rcases holds.closed source member target targeted with skipped | before | behind
      · exact .inl skipped
      · exact .inr (.inl (List.mem_append_left _ before))
      · rcases List.mem_cons.mp behind with rfl | behind
        · exact .inr (.inl (by simp))
        · exact .inr (.inr (List.mem_append_left _ behind))
    · obtain rfl := List.mem_singleton.mp member
      exact .inr (.inr (List.mem_append_right _ targeted))
  · exact List.nodup_append.mpr ⟨holds.distinct, by simp,
      fun other member another same => by
        obtain rfl := List.mem_singleton.mp same
        exact fun equal => fresh (equal ▸ member)⟩
  · intro other member
    rcases List.mem_append.mp member with member | member
    · exact holds.returned other member
    · exact List.mem_singleton.mp member ▸ returns

variable [DecidableEq α]

/-- Visits the queued nodes once each, except for skipped ones, and queues their targets. -/
def run (skip : α → Bool) (visit : α → Except (Halt ε) (List α)) :
    Nat → List α → List α → Except (Halt ε) (List α)
  | 0, _, _ => .error .fuel
  | _ + 1, [], visited => .ok visited
  | fuel + 1, node :: queue, visited =>
    if skip node ∨ node ∈ visited then run skip visit fuel queue visited
    else do
      let targets ← visit node
      run skip visit fuel (queue ++ targets) (visited ++ [node])

/-- The number of targets that the unvisited nodes can still queue. -/
def pending (targets : α → List α) (nodes visited : List α) : Nat :=
  ((nodes.filter (· ∉ visited)).map fun node => (targets node).length).sum

theorem run_invariant {fuel : Nat} (ran : run skip visit fuel queue visited = .ok result)
    (visits : ∀ node returned, visit node = .ok returned → returned = targets node)
    (holds : Invariant skip visit targets start queue visited) :
    Invariant skip visit targets start [] result := by
  induction fuel generalizing queue visited with
  | zero => simp [run] at ran
  | succ fuel ih =>
    cases queue with
    | nil =>
      obtain rfl : visited = result := by simpa [run] using ran
      exact holds
    | cons node queue =>
      simp only [run] at ran
      split at ran
      · next dropped => exact ih ran (holds.drop dropped)
      · next new =>
        obtain ⟨kept, fresh⟩ := not_or.mp new
        obtain ⟨returned, returns, ran⟩ := bind_eq_ok.mp ran
        obtain rfl := visits node returned returns
        exact ih ran (holds.expand kept fresh returns)

theorem mem_run {fuel : Nat} (ran : run skip visit fuel [start] [] = .ok result)
    (visits : ∀ node returned, visit node = .ok returned → returned = targets node) :
    ∀ node, node ∈ result ↔ Reaches (skip · = true) targets start node := by
  have holds := run_invariant ran visits .initial
  intro node
  refine ⟨holds.reached node, fun reached => reached.induct ?_ ?_⟩
  · rcases holds.begun with skipped | member | member
    · exact absurd skipped reached.1
    · exact member
    · simp at member
  · intro source target _ member targeted kept
    rcases holds.closed source member target targeted with skipped | before | behind
    · exact absurd skipped kept
    · exact before
    · simp at behind

theorem pending_expand {nodes : List α} (outside : ∀ node ∉ nodes, targets node = [])
    (distinct : nodes.Nodup) (fresh : node ∉ visited) :
    (targets node).length + pending targets nodes (visited ++ [node]) ≤
      pending targets nodes visited := by
  -- The node's own targets leave the sum, and no other summand changes.
  have remaining : nodes.filter (· ∉ visited ++ [node]) = (nodes.filter (· ∉ visited)).erase node := by
    rw [List.Nodup.erase_eq_filter (distinct.filter _), List.filter_filter]
    refine List.filter_congr fun other _ => ?_
    by_cases before : other ∈ visited <;> by_cases same : other = node <;> simp [before, same]
  rw [pending, pending, remaining]
  by_cases member : node ∈ nodes
  · have left : node ∈ nodes.filter (· ∉ visited) := by simpa [fresh] using member
    exact Nat.le_of_eq (List.sum_map_erase (fun node => (targets node).length) left)
  · rw [outside node member, List.erase_of_not_mem fun left => member (List.mem_filter.mp left).1]
    simp

theorem run_enough {nodes : List α} {fuel : Nat} (outside : ∀ node ∉ nodes, targets node = [])
    (distinct : nodes.Nodup) (visits : ∀ node returned, visit node = .ok returned →
      returned = targets node)
    (enough : queue.length + pending targets nodes visited < fuel)
    (holds : Invariant skip visit targets start queue visited) :
    (∃ result, run skip visit fuel queue visited = .ok result) ∨
      ∃ node halt, Reaches (skip · = true) targets start node ∧ visit node = .error halt ∧
        run skip visit fuel queue visited = .error halt := by
  induction fuel generalizing queue visited with
  | zero => omega
  | succ fuel ih =>
    cases queue with
    | nil => exact .inl ⟨visited, rfl⟩
    | cons node queue =>
      simp only [List.length_cons] at enough
      by_cases dropped : skip node ∨ node ∈ visited
      · simp only [run, if_pos dropped]
        exact ih (by omega) (holds.drop dropped)
      · simp only [run, if_neg dropped]
        obtain ⟨kept, fresh⟩ := not_or.mp dropped
        cases returns : visit node with
        | error halt =>
          have reaches := (holds.queued node List.mem_cons_self).resolve_left kept
          exact .inr ⟨node, halt, reaches, returns, rfl⟩
        | ok returned =>
          obtain rfl := visits node returned returns
          have moved := pending_expand outside distinct fresh
          refine ih ?_ (holds.expand kept fresh returns)
          simp only [List.length_append]
          omega

end Run

end Worklist

end AgentMod
