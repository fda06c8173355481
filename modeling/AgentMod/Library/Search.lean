import AgentMod.Library.Result
import AgentMod.Library.Walk

/-! A depth-first search for a cycle, which returns the path of the first one that it closes. -/

namespace AgentMod

namespace Search

variable {α : Type}

/-- The nodes that a search has left, latest first: it has left the targets of each before. -/
inductive Left (targets : α → List α) : List α → Prop where
  | nil : Left targets []
  | cons {node : α} {left : List α} :
      targets node ⊆ left → Left targets left → Left targets (node :: left)

/-- A path that repeats its first node at its end, along the steps to the targets. -/
def Closed (targets : α → List α) (path : List α) : Prop :=
  ∃ head tail, path = head :: (tail ++ [head]) ∧
    IsCycle (fun source target => target ∈ targets source) (head :: tail)

section Left

variable {targets : α → List α} {left : List α}

theorem Left.targets_subset (leaves : Left targets left) {node : α} (member : node ∈ left) :
    targets node ⊆ left := by
  induction leaves with
  | nil => cases member
  | cons targeted _ ih =>
    intro next listed
    rcases List.mem_cons.mp member with rfl | there
    · exact List.mem_cons_of_mem _ (targeted listed)
    · exact List.mem_cons_of_mem _ (ih there listed)

theorem Left.reaches (leaves : Left targets left) {source target : α} (member : source ∈ left)
    (path : Relation.ReflTransGen (fun source target => target ∈ targets source) source target) :
    target ∈ left := by
  induction path with
  | refl => exact member
  | tail _ edge ih => exact leaves.targets_subset ih edge

theorem Left.acyclic (leaves : Left targets left) {node : α} (member : node ∈ left) :
    ¬ Relation.TransGen (fun source target => target ∈ targets source) node node := by
  intro cycle
  induction leaves with
  | nil => cases member
  | cons targeted earlier ih =>
    -- A cycle through the node that was left last leads back to it from an earlier one.
    rcases List.mem_cons.mp member with rfl | there
    · obtain ⟨next, step, path⟩ := Relation.TransGen.head'_iff.mp cycle
      exact ih (earlier.reaches (targeted step) path)
    · exact ih there

end Left

/-- Visits a node below the nodes on the current path, and returns what has been visited; the search
stops early with the cycle when the node is on the path. -/
def visit [DecidableEq α] (targets : α → List α) : Nat → List α → List α → α → Except (Halt (List α)) (List α)
  | 0, _, _, _ => .error .fuel
  | fuel + 1, visiting, visited, node =>
    match visiting.idxOf? node with
    | some index => reject (visiting.drop index ++ [node])
    | none =>
      if node ∈ visited then .ok visited
      else (targets node).foldlM (visit targets fuel (visiting ++ [node])) (node :: visited)

/-- What a search for some nodes achieves: it closes a cycle, or it has left all of them. -/
inductive Searched (targets : α → List α) (visiting left sought : List α) :
    Except (Halt (List α)) (List α) → Prop where
  | closed {path : List α} : Closed targets path → Searched targets visiting left sought (reject path)
  | left {visited later : List α} : left ⊆ later → Left targets later → sought ⊆ later →
      (∀ node, node ∈ visited ↔ node ∈ visiting ∨ node ∈ later) →
      Searched targets visiting left sought (.ok visited)

variable {targets : α → List α} {nodes visiting visited left : List α}

theorem Searched.weaken {more sought found : List α} {outcome : Except (Halt (List α)) (List α)}
    (searched : Searched targets visiting more found outcome) (grows : left ⊆ more)
    (covers : sought ⊆ more ++ found) : Searched targets visiting left sought outcome := by
  cases searched with
  | closed path => exact .closed path
  | left keeps leaves reached mem =>
    refine .left (fun node there => keeps (grows there)) leaves (fun node there => ?_) mem
    rcases List.mem_append.mp (covers there) with before | listed
    · exact keeps before
    · exact reached listed

theorem searched_foldlM {search : List α → α → Except (Halt (List α)) (List α)} {sought : List α}
    (searches : ∀ node ∈ sought, ∀ visited left, Left targets left →
      (∀ node, node ∈ visited ↔ node ∈ visiting ∨ node ∈ left) →
      Searched targets visiting left [node] (search visited node))
    (leaves : Left targets left) (mem : ∀ node, node ∈ visited ↔ node ∈ visiting ∨ node ∈ left) :
    Searched targets visiting left sought (sought.foldlM search visited) := by
  induction sought generalizing visited left with
  | nil => exact .left (fun _ there => there) leaves (List.nil_subset _) mem
  | cons node rest ih =>
    obtain ⟨first, later⟩ := List.forall_mem_cons.mp searches
    have searched := first visited left leaves mem
    rw [List.foldlM_cons]
    cases outcome : search visited node with
    | error =>
      rw [outcome] at searched
      cases searched with
      | closed path => exact .closed path
    | ok reached =>
      rw [outcome] at searched
      cases searched with
      | left grows leaves found mem =>
        refine (ih later leaves mem).weaken grows fun other there => ?_
        rcases List.mem_cons.mp there with rfl | there
        · exact List.mem_append_left _ (found List.mem_cons_self)
        · exact List.mem_append_right _ there

variable [DecidableEq α]

/-- A visit of a node below a path to it closes a cycle, or it leaves the node. -/
theorem searched_visit (known : ∀ source ∈ nodes, targets source ⊆ nodes) {fuel : Nat} {node : α}
    (inside : visiting ⊆ nodes) (member : node ∈ nodes) (distinct : visiting.Nodup)
    (chain : (visiting ++ [node]).IsChain fun source target => target ∈ targets source)
    (enough : nodes.length < fuel + visiting.length) (leaves : Left targets left)
    (mem : ∀ node, node ∈ visited ↔ node ∈ visiting ∨ node ∈ left) :
    Searched targets visiting left [node] (visit targets fuel visiting visited node) := by
  induction fuel generalizing visiting visited left node with
  | zero =>
    have := (List.subperm_of_subset distinct inside).length_le
    omega
  | succ fuel ih =>
    unfold visit
    split
    · next index found =>
      -- The path from the node's first visit back to it is a cycle.
      obtain ⟨bound, rfl, _⟩ := List.idxOf?_eq_some_iff.mp found
      have split := List.drop_eq_getElem_cons bound
      have closed := chain.drop index
      rw [List.drop_append_of_le_length bound.le, split] at closed
      exact .closed ⟨_, visiting.drop (index + 1), by rw [split, List.cons_append], closed⟩
    · next absent =>
      have fresh : node ∉ visiting := List.idxOf?_eq_none_iff.mp absent
      split
      · next seen =>
        have before : node ∈ left := ((mem node).mp seen).resolve_left fresh
        exact .left (fun _ there => there) leaves (by simpa using before) mem
      · next unseen =>
        have below : ∀ target ∈ targets node, ∀ visited left, Left targets left →
            (∀ other, other ∈ visited ↔ other ∈ visiting ++ [node] ∨ other ∈ left) →
            Searched targets (visiting ++ [node]) left [target]
              (visit targets fuel (visiting ++ [node]) visited target) := by
          intro target listed visited left leaves mem
          refine ih ?_ (known node member listed) ?_ ?_ ?_ leaves mem
          · simpa using ⟨inside, member⟩
          · rw [List.nodup_append]
            refine ⟨distinct, by simp, fun other there last same equal => ?_⟩
            exact fresh (List.mem_singleton.mp same ▸ equal ▸ there)
          · refine List.isChain_append.mpr ⟨chain, List.isChain_singleton target, ?_⟩
            simpa using listed
          · rw [List.length_append, List.length_singleton]
            omega
        -- The node is left behind its targets.
        have reached : ∀ other, other ∈ node :: visited ↔ other ∈ visiting ++ [node] ∨ other ∈ left := by
          intro other
          rw [List.mem_cons, List.mem_append, List.mem_singleton, mem other, or_comm, or_right_comm]
        have searched := searched_foldlM below leaves reached
        cases outcome : (targets node).foldlM (visit targets fuel (visiting ++ [node]))
            (node :: visited) with
        | error =>
          rw [outcome] at searched
          cases searched with
          | closed path => exact .closed path
        | ok reached =>
          rw [outcome] at searched
          cases searched with
          | left grows leaves found mem =>
            refine .left (fun other there => List.mem_cons_of_mem _ (grows there))
              (.cons found leaves) (by simp) fun other => ?_
            rw [mem other, List.mem_append, List.mem_singleton, List.mem_cons, or_assoc]

theorem search_closes (known : ∀ source ∈ nodes, targets source ⊆ nodes) (some : nodes ≠ [])
    (preceded : ∀ target ∈ nodes, ∃ source ∈ nodes, target ∈ targets source) {fuel : Nat}
    (enough : nodes.length < fuel) : ∃ path,
      nodes.foldlM (visit targets fuel []) [] = reject path ∧ Closed targets path := by
  have searched : Searched targets [] [] nodes (nodes.foldlM (visit targets fuel []) []) :=
    searched_foldlM (fun node member visited left leaves mem =>
      searched_visit known (List.nil_subset _) member List.nodup_nil (List.isChain_singleton node)
        (by simpa using enough) leaves mem) .nil (by simp)
  generalize outcome : nodes.foldlM (visit targets fuel []) [] = result at searched
  cases searched with
  | closed path => exact ⟨_, rfl, path⟩
  | left _ leaves found _ =>
    -- Nodes that were all left have no cycle, so one of them had no predecessor.
    have acyclic : Acyclic fun source target => source ∈ nodes ∧ target ∈ targets source := by
      intro node cycle
      obtain ⟨_, ⟨member, _⟩, _⟩ := Relation.TransGen.head'_iff.mp cycle
      exact leaves.acyclic (found member) (cycle.lift id fun _ _ edge => edge.2)
    refine absurd (acyclic.eq_nil fun target member => ?_) some
    obtain ⟨source, there, edge⟩ := preceded target member
    exact ⟨source, there, there, edge⟩

end Search

end AgentMod
