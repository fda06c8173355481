import AgentMod.Library.Worklist
import Mathlib.Tactic.Tauto

/-! Fan-outs in a graph: regions between a gate and a join, and how two such regions can overlap. -/

namespace AgentMod

section Paths

variable {α : Type} {targets : α → List α} {join start node : α}

theorem exists_before_join (apart : start ≠ join)
    (path : Relation.ReflTransGen (fun source target => target ∈ targets source) start join) :
    ∃ last, Reaches (· = join) targets start last ∧ join ∈ targets last := by
  -- Walking backwards from the join, the start reaches each node or meets the join earlier.
  have reached : ∀ node, Relation.ReflTransGen (fun source target => target ∈ targets source)
      start node → Reaches (· = join) targets start node ∨
        ∃ last, Reaches (· = join) targets start last ∧ join ∈ targets last := by
    intro node path
    induction path with
    | refl => exact .inl (.refl apart)
    | @tail source target _ step ih =>
      rcases ih with before | met
      · by_cases here : target = join
        · -- The first visit of the join comes straight from the node in front of it.
          subst here
          exact .inr ⟨source, before, step⟩
        · exact .inl (before.tail step here)
      · exact .inr met
  rcases reached join path with inside | met
  · exact absurd rfl inside.kept
  · exact met

theorem join_reaches_of_left {outside : α} (inside : Reaches (· = join) targets start node)
    (left : ¬ Reaches (· = join) targets start outside)
    (path : Relation.ReflTransGen (fun source target => target ∈ targets source) node outside) :
    Relation.ReflTransGen (fun source target => target ∈ targets source) join outside := by
  -- Either the next node is still inside, or it is the join and the rest of the path starts there.
  induction path using Relation.ReflTransGen.head_induction_on with
  | refl => exact absurd inside left
  | @head source target step rest ih =>
    by_cases here : target = join
    · subst here
      exact rest
    · exact ih (inside.tail step here)

end Paths

/-- A gate with several branches, whose regions are disjoint, entered through the gate only, and each
lead to the join. -/
structure Fan {α : Type} (targets : α → List α) (gate join : α) (branches : α → Prop) : Prop where
  fanned : ∀ branch, branches branch ↔ branch ∈ targets gate
  apart : ∀ branch, branches branch → branch ≠ join
  several : ∀ branch, branches branch → ∃ other, branches other ∧ other ≠ branch
  disjoint : ∀ left right, branches left → branches right → left ≠ right →
    ∀ node, Reaches (· = join) targets left node → ¬ Reaches (· = join) targets right node
  entered : ∀ branch, branches branch → ∀ source target, target ∈ targets source →
    Reaches (· = join) targets branch target →
      target = branch ∧ source = gate ∨ Reaches (· = join) targets branch source
  joins : ∀ branch, branches branch →
    Relation.ReflTransGen (fun source target => target ∈ targets source) branch join

namespace Fan

variable {α : Type} {targets : α → List α} {gate join : α} {branches : α → Prop}
  {otherGate otherJoin : α} {otherBranches : α → Prop} {branch other node : α}

theorem inside_branch (fan : Fan targets gate join branches) (isBranch : branches branch) :
    Reaches (· = join) targets branch branch :=
  .refl (fan.apart branch isBranch)

theorem gate_outside (fan : Fan targets gate join branches) (isBranch : branches branch) :
    ¬ Reaches (· = join) targets branch gate := by
  intro inside
  -- A region that held the gate would hold the entry of another branch as well.
  obtain ⟨sibling, isSibling, differs⟩ := fan.several branch isBranch
  have entry := inside.tail ((fan.fanned sibling).mp isSibling) (fan.apart sibling isSibling)
  exact fan.disjoint sibling branch isSibling isBranch differs sibling
    (fan.inside_branch isSibling) entry

theorem entered_on_path (fan : Fan targets gate join branches) (isBranch : branches branch)
    {skip : α → Prop} {start : α} (path : Reaches skip targets start node)
    (inside : Reaches (· = join) targets branch node) :
    Reaches (· = join) targets branch start ∨
      Reaches skip targets start gate ∧ Reaches skip targets start branch := by
  obtain ⟨kept, path⟩ := path
  -- The last edge of the path either enters the region or starts inside it already.
  induction path with
  | refl => exact .inl inside
  | @tail source target before step ih =>
    rcases fan.entered branch isBranch source target step.1 inside with ⟨rfl, rfl⟩ | earlier
    · exact .inr ⟨⟨kept, before⟩, kept, before.tail step⟩
    · exact ih earlier

/-- Each of two fan-outs lies, with its gate and its join, in a region of the other. -/
structure Mutual (targets : α → List α) (gate join branch otherGate otherJoin other : α) : Prop where
  otherGateInside : Reaches (· = join) targets branch otherGate
  gateInside : Reaches (· = otherJoin) targets other gate
  otherJoinInside : Reaches (· = join) targets branch otherJoin
  joinInside : Reaches (· = otherJoin) targets other join

theorem subset_of_entry (entry : Reaches (· = otherJoin) targets other branch)
    (outside : ¬ Reaches (· = join) targets branch otherJoin)
    (inside : Reaches (· = join) targets branch node) :
    Reaches (· = otherJoin) targets other node := by
  refine inside.induct entry fun source target before within step kept => ?_
  refine within.tail step fun here => ?_
  -- The other join is none of the nodes that this region holds.
  subst here
  exact outside (before.tail step kept)

theorem gate_inside (fan : Fan targets gate join branches)
    (otherFan : Fan targets otherGate otherJoin otherBranches) (isBranch : branches branch)
    (isOther : otherBranches other) (entry : Reaches (· = otherJoin) targets other branch)
    (holds : Reaches (· = join) targets branch otherJoin) :
    Reaches (· = join) targets branch otherGate := by
  -- A second branch of the other fan-out leads to its join, from a node in front of it.
  obtain ⟨sibling, isSibling, differs⟩ := otherFan.several other isOther
  obtain ⟨last, reached, step⟩ :=
    exists_before_join (otherFan.apart sibling isSibling) (otherFan.joins sibling isSibling)
  have lastInside : Reaches (· = join) targets branch last := by
    rcases fan.entered branch isBranch last otherJoin step holds with ⟨same, _⟩ | inside
    · exact absurd same.symm entry.kept
    · exact inside
  -- Walking back to the entry of the second branch never crosses this region's gate.
  have siblingInside : Reaches (· = join) targets branch sibling := by
    rcases fan.entered_on_path isBranch reached lastInside with inside | ⟨_, crossed⟩
    · exact inside
    · exact absurd entry (otherFan.disjoint sibling other isSibling isOther differs branch crossed)
  rcases fan.entered branch isBranch otherGate sibling ((otherFan.fanned sibling).mp isSibling)
    siblingInside with ⟨rfl, _⟩ | inside
  · exact absurd entry (otherFan.disjoint sibling other isSibling isOther differs sibling
      (otherFan.inside_branch isSibling))
  · exact inside

/-- A region that holds another gate, and starts that gate's branch with its own join, is held by
that branch. -/
theorem gate_inside_of_join (fan : Fan targets gate join branches)
    (otherFan : Fan targets otherGate otherJoin otherBranches) (isBranch : branches branch)
    (isOther : otherBranches join) (holds : Reaches (· = join) targets branch otherGate) :
    Reaches (· = otherJoin) targets join gate := by
  obtain ⟨sibling, isSibling, differs⟩ := fan.several branch isBranch
  obtain ⟨last, reached, step⟩ :=
    exists_before_join (fan.apart sibling isSibling) (fan.joins sibling isSibling)
  -- The sibling's last node cannot be the other gate, which lies in the first branch.
  have crossing : ¬ Reaches (· = join) targets sibling otherGate := fun inside =>
    fan.disjoint sibling branch isSibling isBranch differs otherGate inside holds
  have lastInside : Reaches (· = otherJoin) targets join last := by
    rcases otherFan.entered join isOther last join step (otherFan.inside_branch isOther) with
      ⟨_, rfl⟩ | inside
    · exact absurd reached crossing
    · exact inside
  have siblingInside : Reaches (· = otherJoin) targets join sibling := by
    rcases otherFan.entered_on_path isOther reached lastInside with inside | ⟨crossed, _⟩
    · exact inside
    · exact absurd crossed crossing
  rcases otherFan.entered join isOther gate sibling ((fan.fanned sibling).mp isSibling)
    siblingInside with ⟨_, rfl⟩ | inside
  · exact absurd holds (fan.gate_outside isBranch)
  · exact inside

/-- Where each of two entries lies in the other's region or is the other's join, and one region holds
the other's gate and join, both hold each other. -/
theorem mutual_of_gate (fan : Fan targets gate join branches)
    (otherFan : Fan targets otherGate otherJoin otherBranches) (isBranch : branches branch)
    (isOther : otherBranches other)
    (otherGateInside : Reaches (· = join) targets branch otherGate)
    (otherJoinInside : Reaches (· = join) targets branch otherJoin)
    (joinInside : Reaches (· = join) targets branch other →
      Reaches (· = otherJoin) targets other join) :
    Mutual targets gate join branch otherGate otherJoin other := by
  by_cases here : other = join
  · -- The other branch starts with this fan-out's join.
    subst here
    exact ⟨otherGateInside, gate_inside_of_join fan otherFan isBranch isOther otherGateInside,
      otherJoinInside, otherFan.inside_branch isOther⟩
  · -- The other branch starts inside this region, and holds this region's join.
    have entry := otherGateInside.tail ((otherFan.fanned other).mp isOther) here
    have holds := joinInside entry
    exact ⟨otherGateInside, gate_inside otherFan fan isOther isBranch entry holds,
      otherJoinInside, holds⟩

theorem nested_or_mutual (fan : Fan targets gate join branches)
    (otherFan : Fan targets otherGate otherJoin otherBranches) (isBranch : branches branch)
    (isOther : otherBranches other) (inside : Reaches (· = join) targets branch node)
    (otherInside : Reaches (· = otherJoin) targets other node) :
    (∀ visited, Reaches (· = join) targets branch visited →
        Reaches (· = otherJoin) targets other visited) ∨
      (∀ visited, Reaches (· = otherJoin) targets other visited →
        Reaches (· = join) targets branch visited) ∨
      Mutual targets gate join branch otherGate otherJoin other := by
  by_cases entry : Reaches (· = otherJoin) targets other branch
  · by_cases holds : Reaches (· = join) targets branch otherJoin
    · -- This region holds the other fan-out, whose branch may in turn hold this one.
      have gateHeld := gate_inside fan otherFan isBranch isOther entry holds
      by_cases nested : Reaches (· = join) targets branch other →
          Reaches (· = otherJoin) targets other join
      · exact .inr (.inr (mutual_of_gate fan otherFan isBranch isOther gateHeld holds nested))
      · obtain ⟨started, outside⟩ := Classical.not_imp.mp nested
        exact .inr (.inl fun visited => subset_of_entry started outside)
    · exact .inl fun visited => subset_of_entry entry holds
  · -- The path to the shared node enters the other region behind this region's entry.
    obtain ⟨gateHeld, started⟩ := (otherFan.entered_on_path isOther inside otherInside).resolve_left entry
    by_cases holds : Reaches (· = otherJoin) targets other join
    · have back := gate_inside otherFan fan isOther isBranch started holds
      by_cases here : branch = otherJoin
      · subst here
        exact .inr (.inr ⟨gateHeld, back, fan.inside_branch isBranch, holds⟩)
      · exact absurd (back.tail ((fan.fanned branch).mp isBranch) here) entry
    · exact .inr (.inl fun visited => subset_of_entry started holds)

theorem Mutual.join_reaches (fan : Fan targets gate join branches)
    (otherFan : Fan targets otherGate otherJoin otherBranches) (isBranch : branches branch)
    (isOther : otherBranches other)
    (held : Mutual targets gate join branch otherGate otherJoin other) :
    Relation.ReflTransGen (fun source target => target ∈ targets source) join otherJoin := by
  -- The gate is reached from the other branch, and so from this fan-out's join in front of it.
  have path : ∀ {skip : α → Prop} {start node : α}, Reaches skip targets start node →
      Relation.ReflTransGen (fun source target => target ∈ targets source) start node :=
    fun reached => Relation.ReflTransGen.mono (fun _ _ step => step.1) _ _ reached.2
  have toGate : Relation.ReflTransGen (fun source target => target ∈ targets source) join gate := by
    by_cases here : other = join
    · subst here
      exact path held.gateInside
    · have entry := held.otherGateInside.tail ((otherFan.fanned other).mp isOther) here
      exact join_reaches_of_left entry (fan.gate_outside isBranch) (path held.gateInside)
  -- From the gate the branch leads on to the other join.
  exact (toGate.tail ((fan.fanned branch).mp isBranch)).trans (path held.otherJoinInside)

theorem Mutual.symm (held : Mutual targets gate join branch otherGate otherJoin other) :
    Mutual targets otherGate otherJoin other gate join branch :=
  ⟨held.gateInside, held.otherGateInside, held.joinInside, held.otherJoinInside⟩

end Fan

end AgentMod
