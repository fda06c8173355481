import AgentMod.Library.Associations
import AgentMod.PluginSchema.Semantics

/-! JSON trees: what bounds their traversal, and their equality up to the order of object members. -/

namespace AgentMod

namespace Json

variable {value left right third : Json} {same : Number → Number → Prop}

theorem itemNodes_eq {items : List Json} : itemNodes items = (items.map nodes).sum := by
  induction items with
  | nil => rfl
  | cons item rest ih => rw [itemNodes, ih, List.map_cons, List.sum_cons]

theorem entryNodes_eq {entries : List (String × Json)} :
    entryNodes entries = (entries.map fun entry => entry.2.nodes).sum := by
  induction entries with
  | nil => rfl
  | cons entry rest ih =>
    obtain ⟨key, value⟩ := entry
    rw [entryNodes, ih, List.map_cons, List.sum_cons]

theorem nodes_eq : value.nodes = 1 + (value.children.map nodes).sum := by
  cases value with
  | array items => rw [nodes, itemNodes_eq, children]
  | object entries => rw [nodes, entryNodes_eq, children, List.map_map]; rfl
  | _ => rfl

theorem nodes_pos : 0 < value.nodes := by
  rw [nodes_eq]
  omega

theorem height_le_iff {levels : Nat} :
    value.height ≤ levels ↔ ∀ child ∈ value.children, child.height + 1 ≤ levels := by
  have items_ : ∀ items : List Json,
      itemsHeight items ≤ levels ↔ ∀ item ∈ items, item.height + 1 ≤ levels := by
    intro items
    induction items with
    | nil => simp [itemsHeight]
    | cons item rest ih => rw [itemsHeight, max_le_iff, ih, List.forall_mem_cons]
  have entries_ : ∀ entries : List (String × Json),
      entriesHeight entries ≤ levels ↔ ∀ item ∈ entries.map Prod.snd, item.height + 1 ≤ levels := by
    intro entries
    induction entries with
    | nil => simp [entriesHeight]
    | cons entry rest ih =>
      obtain ⟨key, value⟩ := entry
      rw [entriesHeight, max_le_iff, ih, List.map_cons, List.forall_mem_cons]
  cases value with
  | array items => exact items_ items
  | object entries => exact entries_ entries
  | _ => simp [height, children]

theorem height_lt {child : Json} (below : child ∈ value.children) : child.height < value.height :=
  height_le_iff.mp le_rfl child below

theorem Keyed.distinct {entries : List (String × Json)} (keyed : Keyed (.object entries)) :
    (keysOf entries).Nodup := by
  cases keyed
  assumption

theorem Keyed.child (keyed : Keyed value) {child : Json} (below : child ∈ value.children) :
    Keyed child := by
  cases keyed with
  | array each => exact each child below
  | object _ each =>
    obtain ⟨entry, inside, rfl⟩ := List.mem_map.mp below
    exact each entry inside
  | _ => cases below

theorem Keyed.lookup {entries : List (String × Json)} (keyed : Keyed (.object entries)) {key : String}
    (found : entries.lookup key = some value) : Keyed value :=
  keyed.child (List.mem_map.mpr ⟨_, mem_of_lookup found, rfl⟩)

theorem mem_children_of_lookup {entries : List (String × Json)} {key : String}
    (found : entries.lookup key = some value) : value ∈ (object entries).children :=
  List.mem_map.mpr ⟨_, mem_of_lookup found, rfl⟩

theorem childInduction {property : Json → Prop}
    (step : ∀ value, (∀ child ∈ value.children, property child) → property value) (value : Json) :
    property value := by
  -- Every value below has fewer nodes.
  induction nodes : value.nodes using Nat.strong_induction_on generalizing value with
  | _ count ih =>
    refine step value fun child below => ih child.nodes ?_ child rfl
    have part := List.single_le_sum (l := value.children.map Json.nodes) (fun _ _ => Nat.zero_le _)
      child.nodes (List.mem_map.mpr ⟨child, below, rfl⟩)
    rw [← nodes, @nodes_eq value]
    omega

end Json

/-- The stack of a traversal is taken to its end exactly when its trees have no more nodes than may be
taken, and no value lies too deep. -/
theorem visitTree_eq_ok {schema : Bool} {remaining : Nat} {stack : List (Json × Nat)}
    (within : remaining ≤ maxPluginSchemaNodes) :
    visitTree schema remaining stack = .ok () ↔
      (stack.map fun entry => entry.1.nodes).sum ≤ remaining ∧
      ∀ entry ∈ stack, entry.2 + entry.1.height ≤ maxPluginSchemaDepth := by
  induction remaining generalizing stack with
  | zero =>
    cases stack with
    | nil => simp [visitTree]
    | cons entry rest =>
      have positive := entry.1.nodes_pos
      rw [visitTree]
      simp only [reduceCtorEq, false_iff, List.map_cons, List.sum_cons, not_and]
      omega
  | succ remaining ih =>
    cases stack with
    | nil => simp [visitTree]
    | cons entry rest =>
      obtain ⟨value, depth⟩ := entry
      rw [visitTree, List.map_cons, List.sum_cons, List.forall_mem_cons]
      have counted : value.children.length ≤ (value.children.map Json.nodes).sum := by
        have each := List.length_le_sum_of_one_le (value.children.map Json.nodes) fun nodes inside => by
          obtain ⟨child, -, rfl⟩ := List.mem_map.mp inside
          exact child.nodes_pos
        rwa [List.length_map] at each
      have waiting : rest.length ≤ (rest.map fun entry => entry.1.nodes).sum := by
        have each := List.length_le_sum_of_one_le (rest.map fun entry => entry.1.nodes)
          fun nodes inside => by
            obtain ⟨entry, -, rfl⟩ := List.mem_map.mp inside
            exact entry.1.nodes_pos
        rwa [List.length_map] at each
      have total : value.nodes = 1 + (value.children.map Json.nodes).sum := value.nodes_eq
      split
      · simp only [reduceCtorEq, false_iff, not_and]
        intro _ bounded
        omega
      · rename_i shallow
        dsimp only
        split
        · simp only [reduceCtorEq, false_iff, not_and]
          omega
        · rw [ih (by omega)]
          have pushed : ((value.children.reverse.map fun child => (child, depth + 1)).map
              fun entry => entry.1.nodes).sum = (value.children.map Json.nodes).sum := by
            rw [List.map_map]
            exact (value.children.reverse_perm.map Json.nodes).sum_eq
          have deeper : (∀ entry ∈ value.children.reverse.map fun child => (child, depth + 1),
              entry.2 + entry.1.height ≤ maxPluginSchemaDepth) ↔
              depth + value.height ≤ maxPluginSchemaDepth := by
            have levels : value.height ≤ maxPluginSchemaDepth - depth ↔
                ∀ child ∈ value.children, child.height + 1 ≤ maxPluginSchemaDepth - depth :=
              value.height_le_iff
            simp only [List.forall_mem_map, List.mem_reverse]
            constructor
            · intro each
              have below := levels.mpr fun child inside => by
                have bounded := each child inside
                omega
              omega
            · intro bounded child inside
              have below := levels.mp (by omega) child inside
              omega
          have taken : (value.children.map Json.nodes).sum + (rest.map fun entry => entry.1.nodes).sum ≤
              remaining ↔ value.nodes + (rest.map fun entry => entry.1.nodes).sum ≤ remaining + 1 := by
            omega
          rw [List.map_append, List.sum_append, pushed, List.forall_mem_append, deeper, taken]

theorem validateTreeLimits_eq_ok {root : Json} {schema : Bool} :
    validateTreeLimits root schema = .ok () ↔ TreeBounded root := by
  rw [validateTreeLimits, visitTree_eq_ok le_rfl]
  simp only [List.map_cons, List.map_nil, List.sum_cons, List.sum_nil, List.mem_singleton, forall_eq]
  constructor
  · rintro ⟨nodes, height⟩
    exact ⟨by omega, by omega⟩
  · rintro ⟨nodes, height⟩
    exact ⟨by omega, by omega⟩

end AgentMod
