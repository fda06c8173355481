import AgentMod.Permission.Policy
import Mathlib.Order.Bounds.Basic

/-! Layers of permission policies restrict, in whatever order they are given. -/

namespace AgentMod

section Layers

variable {proposal : ActionProposal} {users more : List PermissionPolicy}
variable {mandatory : PermissionPolicy}

theorem le_iff_permissionRank {left right : PermissionEffect} :
    left ≤ right ↔ permissionRank left ≤ permissionRank right := Iff.rfl

theorem restrict_fst (found : PermissionEffect × String) (matched : PolicyMatch) :
    (restrict found matched).1 = max found.1 matched.effect := by
  rw [restrict]
  split
  · rename_i greater
    have below : found.1 ≤ matched.effect := le_iff_permissionRank.mpr greater.le
    exact (max_eq_right below).symm
  · rename_i least
    have below : matched.effect ≤ found.1 := le_iff_permissionRank.mpr (not_lt.mp least)
    exact (max_eq_left below).symm

theorem allow_le (effect : PermissionEffect) : .allow ≤ effect :=
  Nat.zero_le (permissionRank effect)

theorem le_foldl_restrict {found : PermissionEffect × String} {matches_ : List PolicyMatch} :
    found.1 ≤ (matches_.foldl restrict found).1 := by
  induction matches_ generalizing found with
  | nil => exact le_rfl
  | cons matched rest ih => exact (le_max_left _ _).trans ((restrict_fst found matched).symm.le.trans ih)

theorem effect_le_foldl_restrict {found : PermissionEffect × String} {matches_ : List PolicyMatch}
    {matched : PolicyMatch} (inside : matched ∈ matches_) :
    matched.effect ≤ (matches_.foldl restrict found).1 := by
  induction matches_ generalizing found with
  | nil => cases inside
  | cons first rest ih =>
    rcases List.mem_cons.mp inside with rfl | later
    · exact (le_max_right _ _).trans ((restrict_fst found matched).symm.le.trans le_foldl_restrict)
    · exact ih later

theorem foldl_restrict_mem {found : PermissionEffect × String} {matches_ : List PolicyMatch} :
    (matches_.foldl restrict found).1 = found.1 ∨
      ∃ matched ∈ matches_, (matches_.foldl restrict found).1 = matched.effect := by
  induction matches_ generalizing found with
  | nil => exact .inl rfl
  | cons first rest ih =>
    rw [List.foldl_cons]
    rcases @ih (restrict found first) with same | ⟨matched, inside, equal⟩
    · rw [same, restrict_fst]
      rcases max_choice found.1 first.effect with left | right
      · exact .inl left
      · exact .inr ⟨first, by simp, right⟩
    · exact .inr ⟨matched, by simp [inside], equal⟩

theorem effect_evaluateLayeredPermissions :
    (evaluateLayeredPermissions proposal users mandatory).effect =
      max ((users.map fun policy => policy.evaluate proposal).foldl restrict (.allow, "")).1
        (mandatory.evaluate proposal).effect := by
  rw [evaluateLayeredPermissions]
  generalize (users.map fun policy => policy.evaluate proposal).foldl restrict (.allow, "") = found
  generalize mandatory.evaluate proposal = matched
  obtain ⟨effect, reason⟩ := found
  obtain ⟨policyId, ruleId, floor, because⟩ := matched
  cases effect <;> cases floor <;> rfl

theorem isGreatest_evaluateLayeredPermissions :
    IsGreatest {effect | ∃ policy ∈ mandatory :: users, (policy.evaluate proposal).effect = effect}
      (evaluateLayeredPermissions proposal users mandatory).effect := by
  rw [effect_evaluateLayeredPermissions]
  constructor
  · rcases max_choice ((users.map fun policy => policy.evaluate proposal).foldl restrict
      (.allow, "")).1 (mandatory.evaluate proposal).effect with layer | floor
    · rw [layer]
      rcases @foldl_restrict_mem (.allow, "") (users.map fun policy => policy.evaluate proposal) with
        start | ⟨matched, inside, equal⟩
      · -- Where no layer restricts, the mandatory outcome is to allow, too.
        refine ⟨mandatory, by simp, le_antisymm ?_ ?_⟩
        · exact max_eq_left_iff.mp layer
        · rw [start]
          exact allow_le _
      · obtain ⟨policy, user, rfl⟩ := List.mem_map.mp inside
        exact ⟨policy, by simp [user], equal.symm⟩
    · rw [floor]
      exact ⟨mandatory, by simp, rfl⟩
  · rintro effect ⟨policy, inside, rfl⟩
    rcases List.mem_cons.mp inside with rfl | user
    · exact le_max_right _ _
    · have inside : policy.evaluate proposal ∈ users.map fun policy => policy.evaluate proposal :=
        List.mem_map.mpr ⟨policy, user, rfl⟩
      exact (effect_le_foldl_restrict inside).trans (le_max_left _ _)

theorem evaluateLayeredPermissions_mono (included : users ⊆ more) :
    (evaluateLayeredPermissions proposal users mandatory).effect ≤
      (evaluateLayeredPermissions proposal more mandatory).effect := by
  obtain ⟨policy, inside, equal⟩ :=
    (@isGreatest_evaluateLayeredPermissions proposal users mandatory).1
  rw [← equal]
  exact isGreatest_evaluateLayeredPermissions.2 ⟨policy, List.cons_subset_cons _ included inside, rfl⟩

theorem evaluate_new {id reason : String} {rules : List PermissionRule} {effect : PermissionEffect} :
    (PermissionPolicy.new id rules effect reason).evaluate proposal =
      (((sortBy PermissionRule.order rules).find? fun rule => rule.matcher.accepts proposal).map
        fun rule => (⟨id, some rule.id, rule.effect, rule.reason⟩ : PolicyMatch)).getD
          ⟨id, none, effect, reason⟩ := by
  rw [PermissionPolicy.evaluate, PermissionPolicy.new]
  dsimp only
  cases (sortBy PermissionRule.order rules).find? fun rule => rule.matcher.accepts proposal <;> rfl

theorem Decides.id_eq {rules : List PermissionRule} {first second : PermissionRule}
    (decides : Decides rules proposal first) (deciding : Decides rules proposal second) :
    first.id = second.id := by
  have ordered : (first.order second).isLE := decides.2.2 second deciding.1 deciding.2.1
  have reversed : (second.order first).isLE := deciding.2.2 first decides.1 decides.2.1
  have equal : first.order second = .eq := by
    rw [@Std.OrientedCmp.eq_swap _ PermissionRule.order] at reversed
    revert ordered reversed
    cases first.order second <;> simp
  rw [PermissionRule.order, compareLex_eq_eq] at equal
  exact Std.LawfulEqCmp.compare_eq_iff_eq.mp equal.2

/-- What a policy decides does not depend on the order in which its rules were given exactly when the
rules that decide say the same. -/
theorem evaluate_new_perm_iff {id reason : String} {rules : List PermissionRule}
    {effect : PermissionEffect} :
    (∀ other, rules.Perm other →
      (PermissionPolicy.new id other effect reason).evaluate proposal =
        (PermissionPolicy.new id rules effect reason).evaluate proposal) ↔
    Untied rules proposal := by
  -- A decision of the default has no rule, so decisions agree exactly when what is found does.
  have found : ∀ left right : Option PermissionRule,
      (left.map fun rule => (⟨id, some rule.id, rule.effect, rule.reason⟩ : PolicyMatch)).getD
          ⟨id, none, effect, reason⟩ =
        (right.map fun rule => (⟨id, some rule.id, rule.effect, rule.reason⟩ : PolicyMatch)).getD
          ⟨id, none, effect, reason⟩ ↔
      left.map (fun rule => (rule.id, rule.effect, rule.reason)) =
        right.map fun rule => (rule.id, rule.effect, rule.reason) := by
    intro left right
    cases left <;> cases right <;> simp
  simp only [evaluate_new, found]
  rw [find_sortBy_perm_iff]
  constructor
  · intro same first second decides deciding
    have equal := same first second decides deciding
    simp only [Prod.mk.injEq] at equal
    exact equal.2
  · intro untied first second decides deciding
    obtain ⟨effects, reasons⟩ := untied first second decides deciding
    rw [Decides.id_eq decides deciding, effects, reasons]

/-- Layers restrict in any order, and the order of a policy's rules matters exactly where rules of one
priority and identifier disagree. -/
theorem permission_layering (proposal : ActionProposal) (users : List PermissionPolicy)
    (mandatory : PermissionPolicy) (id : String) (rules : List PermissionRule)
    (defaultEffect : PermissionEffect) (defaultReason : String) :
    IsGreatest {effect | ∃ policy ∈ mandatory :: users, (policy.evaluate proposal).effect = effect}
        (evaluateLayeredPermissions proposal users mandatory).effect ∧
    (∀ other, users.Perm other → (evaluateLayeredPermissions proposal other mandatory).effect =
        (evaluateLayeredPermissions proposal users mandatory).effect) ∧
    (∀ before layer after, users = before ++ after →
      (evaluateLayeredPermissions proposal users mandatory).effect ≤
        (evaluateLayeredPermissions proposal (before ++ layer :: after) mandatory).effect) ∧
    ((∀ other, rules.Perm other →
      (PermissionPolicy.new id other defaultEffect defaultReason).evaluate proposal =
        (PermissionPolicy.new id rules defaultEffect defaultReason).evaluate proposal) ↔
      Untied rules proposal) := by
  refine ⟨isGreatest_evaluateLayeredPermissions, fun other same => ?_, ?_, evaluate_new_perm_iff⟩
  · exact le_antisymm (evaluateLayeredPermissions_mono same.symm.subset)
      (evaluateLayeredPermissions_mono same.subset)
  · rintro before layer after rfl
    exact evaluateLayeredPermissions_mono fun policy inside => by
      rcases List.mem_append.mp inside with earlier | later
      · simp [earlier]
      · simp [later]

/-- A rule for every proposal. -/
def blanketRule (effect : PermissionEffect) : PermissionRule where
  id := "r"
  priority := 0
  matcher := {}
  effect := effect
  reason := ""

/-- Two rules of one priority and identifier decide as they are given. -/
theorem not_permission_layering :
    [blanketRule .allow, blanketRule .deny].Perm [blanketRule .deny, blanketRule .allow] ∧
    ((PermissionPolicy.new "p" [blanketRule .allow, blanketRule .deny] .ask "").evaluate
      ⟨.contextReplacement, "s", "w"⟩).effect = .allow ∧
    ((PermissionPolicy.new "p" [blanketRule .deny, blanketRule .allow] .ask "").evaluate
      ⟨.contextReplacement, "s", "w"⟩).effect = .deny :=
  ⟨List.Perm.swap _ _ _, by decide, by decide⟩

end Layers

end AgentMod
