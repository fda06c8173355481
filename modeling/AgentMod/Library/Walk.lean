import Mathlib.Algebra.BigOperators.Group.List.Basic
import Mathlib.Algebra.Order.Ring.Nat
import Mathlib.Data.List.Chain
import Mathlib.Tactic.Ring

/-! Walks along a relation: closed walks, acyclicity, and how long a walk can be. -/

namespace AgentMod

variable {α : Type} {edge : α → α → Prop}

/-- A closed walk: the relation leads through the list and from its end back to its head. -/
def IsCycle (edge : α → α → Prop) : List α → Prop
  | [] => False
  | head :: tail => List.IsChain edge (head :: (tail ++ [head]))

/-- No node precedes itself. -/
def Acyclic (edge : α → α → Prop) : Prop := ∀ node, ¬ Relation.TransGen edge node node

/-- The steps of a relation that avoid some nodes at both ends. -/
def Avoiding (avoided : α → Prop) (edge : α → α → Prop) (source target : α) : Prop :=
  edge source target ∧ ¬ avoided source ∧ ¬ avoided target

theorem isChain_avoiding {avoided : α → Prop} {walk : List α} (chain : walk.IsChain edge)
    (kept : ∀ node ∈ walk, ¬ avoided node) : walk.IsChain (Avoiding avoided edge) :=
  chain.imp_of_mem_imp fun source target first second step =>
    ⟨step, kept source first, kept target second⟩

theorem transGen_of_isChain {head node : α} {tail : List α}
    (chain : (head :: tail).IsChain edge) (member : node ∈ tail) :
    Relation.TransGen edge head node :=
  (chain.imp fun _ _ step => Relation.TransGen.single step).rel_cons member

theorem exists_walk_through {start node last : α} (first : Relation.ReflTransGen edge start node)
    (second : Relation.ReflTransGen edge node last) : ∃ walk : List α, walk.IsChain edge ∧
      walk.head? = some start ∧ node ∈ walk ∧ walk.getLast? = some last := by
  -- The walk is extended backwards, from the node to the start.
  induction first using Relation.ReflTransGen.head_induction_on with
  | refl =>
    obtain ⟨tail, chain, ends⟩ := List.exists_isChain_cons_of_relationReflTransGen second
    exact ⟨node :: tail, chain, rfl, List.mem_cons_self,
      (List.getLast?_eq_some_getLast (by simp)).trans (congrArg some ends)⟩
  | head step _ ih =>
    obtain ⟨walk, chain, starts, member, ends⟩ := ih
    cases walk with
    | nil => simp at member
    | cons next tail =>
      obtain rfl := Option.some.inj starts
      exact ⟨_, chain.cons_cons step, rfl, List.mem_cons_of_mem _ member, by simpa using ends⟩

theorem entered_through {inside : α → Prop} {gate first node : α} {before : List α}
    (entries : ∀ source target, edge source target → inside target →
      target = first ∧ source = gate ∨ inside source)
    (chain : (before ++ [node]).IsChain edge) (member : inside node)
    (outside : ∀ start ∈ (before ++ [node]).head?, ¬ inside start) :
    ∃ earlier between, before ++ [node] = earlier ++ gate :: between ∧
      between.head? = some first ∧ ∀ visited ∈ between, inside visited := by
  -- Walking backwards from the node, the region can only be left through the gate.
  induction before using List.reverseRecOn generalizing node with
  | nil => exact absurd member (outside node rfl)
  | append_singleton init previous ih =>
    have step : edge previous node := by
      rw [List.append_assoc] at chain
      exact (List.isChain_append.mp chain).2.1.rel
    rcases entries previous node step member with ⟨rfl, rfl⟩ | there
    · exact ⟨init, [node], by simp, rfl, by simpa using member⟩
    · have shorter : (init ++ [previous]).IsChain edge := (List.isChain_append.mp chain).1
      obtain ⟨earlier, between, same, starts, stays⟩ := ih shorter there (by simpa using outside)
      refine ⟨earlier, between ++ [node], by rw [same, List.append_assoc, List.cons_append], ?_, ?_⟩
      · cases between with
        | nil => simp at starts
        | cons => exact starts
      · intro visited listed
        rcases List.mem_append.mp listed with before | last
        · exact stays visited before
        · exact List.mem_singleton.mp last ▸ member

theorem left_through {inside : α → Prop} {exit head : α} {tail : List α}
    (exits : ∀ source target, edge source target → inside source → inside target ∨ target = exit)
    (chain : (head :: tail).IsChain edge) (member : inside head) :
    ∃ between after, head :: tail = between ++ after ∧ (∀ visited ∈ between, inside visited) ∧
      (after = [] ∨ after.head? = some exit) := by
  induction tail generalizing head with
  | nil => exact ⟨[head], [], rfl, by simpa using member, .inl rfl⟩
  | cons next rest ih =>
    obtain ⟨step, chain⟩ := List.isChain_cons_cons.mp chain
    rcases exits head next step member with there | rfl
    · obtain ⟨between, after, same, stays, ends⟩ := ih chain there
      exact ⟨head :: between, after, by rw [same, List.cons_append],
        List.forall_mem_cons.mpr ⟨member, stays⟩, ends⟩
    · exact ⟨[head], next :: rest, rfl, by simpa using member, .inr rfl⟩

theorem endless_left_through {inside : α → Prop} {exit : α} {run : Nat → α}
    (exits : ∀ source target, edge source target → inside source → inside target ∨ target = exit)
    (steps : ∀ time, edge (run time) (run (time + 1))) (member : inside (run 0)) :
    (∀ time, inside (run time)) ∨
      ∃ last, run last = exit ∧ ∀ time < last, inside (run time) := by
  by_cases left : ∃ last, run last = exit
  · classical
    refine .inr ⟨Nat.find left, Nat.find_spec left, fun time => ?_⟩
    induction time with
    | zero => exact fun _ => member
    | succ time ih =>
      intro early
      have before := ih (Nat.lt_of_succ_lt early)
      exact (exits _ _ (steps time) before).resolve_right (Nat.find_min left early)
  · refine .inl fun time => ?_
    induction time with
    | zero => exact member
    | succ time ih => exact (exits _ _ (steps time) ih).resolve_right fun here => left ⟨_, here⟩

theorem mem_of_closed {nodes : List α} {node target : α}
    (closed : ∀ target ∈ nodes, ∀ source, edge source target → source ∈ nodes)
    (path : Relation.ReflTransGen edge node target) (member : target ∈ nodes) : node ∈ nodes := by
  induction path using Relation.ReflTransGen.head_induction_on with
  | refl => exact member
  | head step _ later => exact closed _ later _ step

theorem cycles_meet_iff {met : α → Prop} :
    (∀ cycle, IsCycle edge cycle → ∃ node ∈ cycle, met node) ↔ Acyclic (Avoiding met edge) := by
  constructor
  · intro meets node closed
    -- The steps from the node back to itself are the edges of a closed walk.
    obtain ⟨next, first, back⟩ := Relation.TransGen.head'_iff.mp closed
    obtain ⟨rest, chain, ends⟩ := List.exists_isChain_cons_of_relationReflTransGen back
    have around : (node :: ((next :: rest).dropLast ++ [node])).IsChain (Avoiding met edge) := by
      rw [← ends, List.dropLast_append_getLast, ends]
      exact chain.cons_cons first
    obtain ⟨bad, member, hit⟩ := meets (node :: (next :: rest).dropLast)
      (around.imp fun _ _ step => step.1)
    have avoids := around.induction (fun other => ¬ met other) _
      (fun _ _ step _ => step.2.2) fun _ => first.2.1
    exact avoids bad (by simp only [List.mem_cons, List.mem_append] at member ⊢; tauto) hit
  · intro acyclic cycle closed
    by_contra avoids
    simp only [not_exists, not_and] at avoids
    cases cycle with
    | nil => exact closed
    | cons head tail =>
      have around : ∀ node ∈ head :: (tail ++ [head]), ¬ met node := fun node member =>
        avoids node <| by
          simp only [List.mem_cons, List.mem_append, List.not_mem_nil, or_false] at member ⊢
          tauto
      have chain := isChain_avoiding closed around
      exact acyclic head (transGen_of_isChain chain (by simp))

theorem Acyclic.nodup (acyclic : Acyclic edge) {walk : List α} (chain : walk.IsChain edge) :
    walk.Nodup := by
  have later := List.isChain_iff_pairwise.mp
    (chain.imp fun _ _ step => Relation.TransGen.single step)
  refine later.imp fun {source target} precedes same => ?_
  subst same
  exact acyclic source precedes

theorem Acyclic.length_le [DecidableEq α] (acyclic : Acyclic edge) {walk nodes : List α}
    (chain : walk.IsChain edge) (listed : walk ⊆ nodes) : walk.length ≤ nodes.length :=
  (List.subperm_of_subset (acyclic.nodup chain) listed).length_le

theorem Acyclic.eq_nil [DecidableEq α] (acyclic : Acyclic edge) {rest : List α}
    (preceded : ∀ target ∈ rest, ∃ source ∈ rest, edge source target) : rest = [] := by
  -- Walking backwards would never end, but no walk is longer than the rest.
  rcases List.eq_nil_or_concat rest with empty | ⟨_, last, nonempty⟩
  · exact empty
  · have walks : ∀ length, ∃ head tail, tail.length = length ∧
        (head :: tail).IsChain edge ∧ head :: tail ⊆ rest := by
      intro length
      induction length with
      | zero => exact ⟨last, [], rfl, .singleton last, by simp [nonempty]⟩
      | succ length ih =>
        obtain ⟨head, tail, measured, chain, inside⟩ := ih
        obtain ⟨source, member, step⟩ := preceded head (inside List.mem_cons_self)
        exact ⟨source, head :: tail, by simp [measured], chain.cons_cons step,
          List.cons_subset.mpr ⟨member, inside⟩⟩
    obtain ⟨head, tail, measured, chain, inside⟩ := walks rest.length
    have bounded := acyclic.length_le chain inside
    simp only [List.length_cons] at bounded
    omega

theorem length_le_of_runs {marked : α → Bool} {longest : Nat} (walk open_ : List α)
    (unmarked : ∀ node ∈ open_, marked node = false)
    (runs : ∀ run, run <:+: open_ ++ walk → (∀ node ∈ run, marked node = false) →
      run.length ≤ longest) :
    (open_ ++ walk).length ≤ (1 + walk.countP marked) * longest + walk.countP marked := by
  -- The open run grows with every unmarked element and starts anew behind a marked one.
  induction walk generalizing open_ with
  | nil => simpa using runs open_ (by simp) unmarked
  | cons node rest ih =>
    cases mark : marked node with
    | false =>
      have extended := ih (open_ ++ [node])
        (by simpa [or_imp, forall_and] using ⟨unmarked, mark⟩) (by simpa using runs)
      simpa [mark] using extended
    | true =>
      have before := runs open_ (List.prefix_append open_ _).isInfix unmarked
      have behind := ih [] (by simp) fun run inside =>
        runs run (inside.trans ⟨open_ ++ [node], [], by simp⟩)
      simp only [List.nil_append] at behind
      simp only [List.length_append, List.length_cons, List.countP_cons, mark, if_true]
      calc open_.length + (rest.length + 1)
          ≤ longest + ((1 + rest.countP marked) * longest + rest.countP marked + 1) := by omega
        _ = (1 + (rest.countP marked + 1)) * longest + (rest.countP marked + 1) := by ring

theorem countP_le_sum_count [DecidableEq α] {marked : α → Bool} {walk nodes : List α}
    (listed : ∀ node ∈ walk, marked node → node ∈ nodes) :
    walk.countP marked ≤ (nodes.map fun node => walk.count node).sum := by
  induction walk with
  | nil => simp
  | cons head rest ih =>
    have before := ih fun node member => listed node (List.mem_cons_of_mem head member)
    have added : (nodes.map fun node => (head :: rest).count node).sum =
        (nodes.map fun node => rest.count node).sum + nodes.count head := by
      clear ih listed before
      induction nodes with
      | nil => simp
      | cons node others ih =>
        rw [List.map_cons, List.sum_cons, ih, List.map_cons, List.sum_cons, List.count_cons,
          List.count_cons, BEq.comm (a := head)]
        omega
    rw [added, List.countP_cons]
    split
    · next mark =>
      have := List.count_pos_iff.mpr (listed head List.mem_cons_self mark)
      omega
    · omega

end AgentMod
