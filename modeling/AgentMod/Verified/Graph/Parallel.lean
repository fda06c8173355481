import AgentMod.Verified.Graph.Structure
import AgentMod.Verified.Graph.Region
import Mathlib.Data.List.Dedup
import Mathlib.Data.List.ReduceOption

/-! What the passes over parallel nodes accept. -/

namespace AgentMod

theorem forPairs_eq_ok {α : Type} {body : α → α → Compiled Unit} {items : List α} :
    forPairs body items = .ok () ↔ items.Pairwise fun left right => body left right = .ok () := by
  induction items with
  | nil => simp [forPairs]
  | cons item rest ih => simp [forPairs, forM_eq_ok, ih]

section Fanout

variable {parallel : NodeDefinition} {joinTarget : String} {limits : CompilerLimits}
  {outgoing : List EdgeDefinition}

/-- An unconditional labelled edge into a branch. -/
structure EdgeDefinition.IsFanout (joinTarget : String) (limits : CompilerLimits)
    (edge : EdgeDefinition) : Prop where
  unconditional : edge.condition = none
  labelled : ∃ label, edge.label = some label ∧ isName label limits.maxNameBytes
  apart : edge.target ≠ joinTarget

theorem validateFanoutEdge_eq_ok {labels targets : StringSet} {edge : EdgeDefinition}
    {result : StringSet × StringSet} :
    validateFanoutEdge parallel joinTarget limits (labels, targets) edge = .ok result ↔
      edge.IsFanout joinTarget limits ∧ edge.target ∉ targets ∧
        ∃ label, edge.label = some label ∧ label ∉ labels ∧
          (labels.insert label, targets.insert edge.target) = result := by
  simp only [validateFanoutEdge, bind_eq_ok, exists_unit, rejectIf_eq_ok, okOr_eq_ok,
    validateName_eq_ok, pure_eq_ok, Option.not_isSome_iff_eq_none, Std.ExtTreeSet.contains_iff_mem]
  constructor
  · rintro ⟨unconditional, label, labelled, named, fresh, apart, new, result⟩
    exact ⟨⟨unconditional, ⟨label, labelled, named⟩, apart⟩, new, label, labelled, fresh, result⟩
  · rintro ⟨⟨unconditional, ⟨label, labelled, named⟩, apart⟩, new, other, same, fresh, result⟩
    obtain rfl : label = other := Option.some.inj (labelled.symm.trans same)
    exact ⟨unconditional, label, labelled, named, fresh, apart, new, result⟩

theorem StringSet.insert_ofList {listed : List String} {item : String} :
    (Std.ExtTreeSet.ofList listed : StringSet).insert item = .ofList (listed ++ [item]) := by
  refine Std.ExtTreeSet.ext_mem fun other => ?_
  simp only [Std.ExtTreeSet.mem_insert, Std.ExtTreeSet.mem_ofList, List.contains_iff_mem,
    Std.LawfulEqCmp.compare_eq_iff_eq, List.mem_append, List.mem_singleton]
  rw [or_comm, eq_comm]

/-- The labels and the targets of a list of edges. -/
def collectedOf (edges : List EdgeDefinition) : StringSet × StringSet :=
  (.ofList (edges.filterMap EdgeDefinition.label), .ofList (edges.map EdgeDefinition.target))

/-- Behind accepted edges, the pass accepts edges that repeat no label and no target. -/
theorem foldlM_validateFanoutEdge (done : List EdgeDefinition) {rest : List EdgeDefinition} {result : StringSet × StringSet}
    (labels : (done.filterMap EdgeDefinition.label).Nodup)
    (targets : (done.map EdgeDefinition.target).Nodup) :
    rest.foldlM (validateFanoutEdge parallel joinTarget limits) (collectedOf done) = .ok result ↔
      (∀ edge ∈ rest, edge.IsFanout joinTarget limits) ∧
      ((done ++ rest).filterMap EdgeDefinition.label).Nodup ∧
      ((done ++ rest).map EdgeDefinition.target).Nodup ∧ collectedOf (done ++ rest) = result := by
  induction rest generalizing done with
  | nil => simp [labels, targets]
  | cons edge rest ih =>
    rw [List.foldlM_cons, bind_eq_ok, List.append_cons]
    simp only [collectedOf, validateFanoutEdge_eq_ok, StringSet.insert_ofList]
    constructor
    · rintro ⟨_, ⟨isFanout, newTarget, label, labelled, newLabel, rfl⟩, later⟩
      have spelled : [edge].filterMap EdgeDefinition.label = [label] := by simp [labelled]
      have more : ((done ++ [edge]).filterMap EdgeDefinition.label).Nodup := by
        rw [List.filterMap_append, spelled]
        exact labels.append (List.nodup_singleton label) (by simpa using newLabel)
      have further : ((done ++ [edge]).map EdgeDefinition.target).Nodup := by
        rw [List.map_append]
        exact targets.append (List.nodup_singleton edge.target) (by simpa using newTarget)
      have moved := (ih _ more further).mp (by
        simpa only [collectedOf, List.filterMap_append, List.map_append, List.map_cons,
          List.map_nil, spelled] using later)
      exact ⟨List.forall_mem_cons.mpr ⟨isFanout, moved.1⟩, moved.2⟩
    · rintro ⟨fanouts, distinctLabels, distinctTargets, ends⟩
      obtain ⟨isFanout, others⟩ := List.forall_mem_cons.mp fanouts
      obtain ⟨label, labelled, _⟩ := isFanout.labelled
      have spelled : [edge].filterMap EdgeDefinition.label = [label] := by simp [labelled]
      have more : ((done ++ [edge]).filterMap EdgeDefinition.label).Nodup := by
        rw [List.filterMap_append] at distinctLabels
        exact distinctLabels.of_append_left
      have further : ((done ++ [edge]).map EdgeDefinition.target).Nodup := by
        rw [List.map_append] at distinctTargets
        exact distinctTargets.of_append_left
      refine ⟨_, ⟨isFanout, ?_, label, labelled, ?_, rfl⟩, ?_⟩
      · rw [List.map_append] at further
        simpa using List.disjoint_of_nodup_append further
      · rw [List.filterMap_append, spelled] at more
        simpa using List.disjoint_of_nodup_append more
      · have moved := (ih _ more further).mpr ⟨others, distinctLabels, distinctTargets, ends⟩
        simpa only [collectedOf, List.filterMap_append, List.map_append, List.map_cons, List.map_nil,
          spelled] using moved

theorem validateFanout_eq_ok {result : StringSet × StringSet} :
    validateFanout parallel joinTarget outgoing limits = .ok result ↔
      (∀ edge ∈ outgoing, edge.IsFanout joinTarget limits) ∧
      (outgoing.filterMap EdgeDefinition.label).Nodup ∧
      (outgoing.map EdgeDefinition.target).Nodup ∧ collectedOf outgoing = result :=
  foldlM_validateFanoutEdge [] List.nodup_nil List.nodup_nil

end Fanout

theorem pairwise_iff_of_nodup {α : Type} {related : α → α → Prop} {items : List α}
    (symmetric : ∀ left right, related left right → related right left) (distinct : items.Nodup) :
    items.Pairwise related ↔
      ∀ left ∈ items, ∀ right ∈ items, left ≠ right → related left right := by
  constructor
  · intro pairs left first right second differs
    have : Std.Symm related := ⟨symmetric⟩
    exact pairs.forall first second differs
  · intro all
    exact distinct.imp_of_mem fun first second differs => all _ first _ second differs

theorem forPairs_zip_eq_ok {body : String × StringSet → String × StringSet → Compiled Unit}
    {branches : List String} {owned : String → StringSet} (distinct : branches.Nodup)
    (symmetric : ∀ left right, body left right = .ok () → body right left = .ok ()) :
    forPairs body (branches.zip (branches.map owned)) = .ok () ↔
      ∀ left ∈ branches, ∀ right ∈ branches, left ≠ right →
        body (left, owned left) (right, owned right) = .ok () := by
  rw [← List.map_prod_left_eq_zip, forPairs_eq_ok, List.pairwise_map]
  exact pairwise_iff_of_nodup (fun _ _ => symmetric _ _) distinct

theorem head?_inter_eq_none {left right : StringSet} :
    (left ∩ right).toList.head? = none ↔ ∀ item, item ∈ left → item ∉ right := by
  rw [StringSet.head?_toList_eq_none]
  simp [Std.ExtTreeSet.mem_inter_iff]

section Topology

variable {parallel : NodeDefinition} {outgoing : List EdgeDefinition}
  {graph reverse : StringMap (List String)} {nodes : StringMap NodeDefinition}
  {limits : CompilerLimits}

theorem parallelConfiguration_eq_ok {configuration : ParallelBranch} :
    parallelConfiguration parallel = .ok configuration ↔
      parallel.configuration = some (.parallelBranch configuration) := by
  unfold parallelConfiguration
  split <;> simp_all

theorem joinConfiguration_eq_ok {joinTarget : String} {join : NodeDefinition} {joined : JoinResults} :
    joinConfiguration parallel joinTarget nodes = .ok (join, joined) ↔
      nodes[joinTarget]? = some join ∧ join.configuration = some (.joinResults joined) := by
  simp only [joinConfiguration, bind_eq_ok, okOr_eq_ok]
  constructor
  · rintro ⟨found, present, configured⟩
    split at configured
    · next configuration same =>
      obtain ⟨rfl, rfl⟩ := Prod.mk.inj (pure_eq_ok.mp configured)
      exact ⟨present, same⟩
    · exact (reject_eq_ok.mp configured).elim
  · rintro ⟨present, configured⟩
    exact ⟨join, present, by simp [configured]⟩

theorem validateBranchEntries_eq_ok {branch : String} {region : StringSet} :
    validateBranchEntries parallel reverse branch region = .ok () ↔
      ∀ member ∈ region, ∀ source ∈ neighbours reverse member,
        member = branch ∧ source = parallel.id ∨ source ∈ region := by
  simp only [validateBranchEntries, forM_eq_ok, rejectIf_eq_ok, Std.ExtTreeSet.mem_toList,
    Bool.not_eq_true', ← Bool.not_eq_true, Std.ExtTreeSet.contains_iff_mem]
  refine forall₄_congr fun member _ source _ => ?_
  tauto

theorem validateDisjointRegions_eq_ok {left right : String × StringSet} :
    validateDisjointRegions parallel left right = .ok () ↔ ∀ node, node ∈ left.2 → node ∉ right.2 := by
  rw [← head?_inter_eq_none, validateDisjointRegions]
  split <;> simp_all

/-- What a parallel node's fan-out, join and branch regions must satisfy. -/
structure IsTopology (parallel : NodeDefinition) (outgoing : List EdgeDefinition)
    (graph reverse : StringMap (List String)) (nodes : StringMap NodeDefinition)
    (limits : CompilerLimits) (configuration : ParallelBranch) (join : NodeDefinition)
    (joined : JoinResults) (region : String → StringSet) : Prop where
  several : 2 ≤ outgoing.length
  configured : parallel.configuration = some (.parallelBranch configuration)
  capacity : outgoing.length ≤
    (if configuration.serializationPolicy.isSome then 1 else configuration.maxParallelism) +
      configuration.maxQueueDepth
  joinNode : nodes[configuration.joinTarget]? = some join
  joinConfigured : join.configuration = some (.joinResults joined)
  fanouts : ∀ edge ∈ outgoing, edge.IsFanout configuration.joinTarget limits
  labels : (outgoing.filterMap EdgeDefinition.label).Nodup
  targets : (outgoing.map EdgeDefinition.target).Nodup
  members : ∀ label, label ∈ joined.required ∪ joined.optional ↔
    ∃ edge ∈ outgoing, edge.label = some label
  policy : joinPolicyMismatch configuration.joinPolicy joined outgoing.length = false
  regions : ∀ branch ∈ outgoing.map EdgeDefinition.target, parallelBranchRegion parallel.id branch
    configuration.joinTarget graph nodes = .ok (region branch)
  disjoint : ∀ left ∈ outgoing.map EdgeDefinition.target,
    ∀ right ∈ outgoing.map EdgeDefinition.target, left ≠ right →
      ∀ node, node ∈ region left → node ∉ region right
  entries : ∀ branch ∈ outgoing.map EdgeDefinition.target, ∀ member ∈ region branch,
    ∀ source ∈ neighbours reverse member,
      member = branch ∧ source = parallel.id ∨ source ∈ region branch
  joinEntries : ∀ source ∈ neighbours reverse configuration.joinTarget,
    ∃ branch ∈ outgoing.map EdgeDefinition.target, source ∈ region branch

theorem labels_eq_iff {labels : StringSet} :
    .ofList (outgoing.filterMap EdgeDefinition.label) = labels ↔
      ∀ label, label ∈ labels ↔ ∃ edge ∈ outgoing, edge.label = some label := by
  constructor
  · rintro rfl label
    simp
  · intro same
    refine Std.ExtTreeSet.ext_mem fun label => ?_
    simp [same]

theorem size_targets (distinct : (outgoing.map EdgeDefinition.target).Nodup) :
    (Std.ExtTreeSet.ofList (outgoing.map EdgeDefinition.target) : StringSet).size =
      outgoing.length := by
  rw [Std.ExtTreeSet.size_ofList, List.length_map]
  exact distinct.imp fun differs same => differs (Std.LawfulEqCmp.compare_eq_iff_eq.mp same)

/-- The topology pass accepts exactly these fan-outs, and returns the targets of their edges. -/
theorem validateParallelTopology_eq_ok {branches : List String} :
    validateParallelTopology parallel outgoing graph reverse nodes limits = .ok branches ↔
      outgoing.map EdgeDefinition.target = branches ∧ ∃ configuration join joined region,
        IsTopology parallel outgoing graph reverse nodes limits configuration join joined region := by
  have apart : ∀ left right, validateDisjointRegions parallel left right = .ok () →
      validateDisjointRegions parallel right left = .ok () := by
    simp only [validateDisjointRegions_eq_ok]
    exact fun left right disjoint node inside other => disjoint node other inside
  -- A pass over branches and their regions is a pass over branches.
  have zipped : ∀ region : String → StringSet,
      (∀ owned ∈ (outgoing.map EdgeDefinition.target).zip
          ((outgoing.map EdgeDefinition.target).map region), ∀ member ∈ owned.2,
        ∀ source ∈ neighbours reverse member,
          member = owned.1 ∧ source = parallel.id ∨ source ∈ owned.2) ↔
        ∀ branch ∈ outgoing.map EdgeDefinition.target, ∀ member ∈ region branch,
          ∀ source ∈ neighbours reverse member,
            member = branch ∧ source = parallel.id ∨ source ∈ region branch := by
    intro region
    rw [← List.map_prod_left_eq_zip, List.forall_mem_map]
  have contained : ∀ (region : String → StringSet) (source : String),
      ¬ (!((outgoing.map EdgeDefinition.target).map region).any
          fun region => region.contains source) = true ↔
        ∃ branch ∈ outgoing.map EdgeDefinition.target, source ∈ region branch := by
    simp
  simp only [validateParallelTopology, bind_eq_ok, exists_unit, rejectIf_eq_ok, pure_eq_ok,
    parallelConfiguration_eq_ok, Prod.exists, joinConfiguration_eq_ok, validateFanout_eq_ok,
    forM_eq_ok, mapM_eq_ok_map, validateBranchEntries_eq_ok]
  constructor
  · rintro ⟨several, configuration, configured, capacity, join, joined, ⟨joinNode, joinConfigured⟩,
      labelSet, targetSet, ⟨fanouts, labels, targets, same⟩, members, policy, _,
      ⟨region, regions, rfl⟩, disjoint, entries, joinEntries, result⟩
    obtain ⟨rfl, rfl⟩ := Prod.mk.inj same
    rw [forPairs_zip_eq_ok targets apart] at disjoint
    rw [size_targets targets] at policy
    exact ⟨result, configuration, join, joined, region, {
      several := by omega
      configured
      capacity := by omega
      joinNode
      joinConfigured
      fanouts
      labels
      targets
      members := labels_eq_iff.mp (not_not.mp members)
      policy := Bool.eq_false_iff.mpr policy
      regions
      disjoint := fun left first right second differs =>
        validateDisjointRegions_eq_ok.mp (disjoint left first right second differs)
      entries := (zipped region).mp entries
      joinEntries := fun source member => (contained region source).mp (joinEntries source member) }⟩
  · rintro ⟨result, configuration, join, joined, region, topology⟩
    refine ⟨by have := topology.several; omega, configuration, topology.configured,
      by have := topology.capacity; omega, join, joined,
      ⟨topology.joinNode, topology.joinConfigured⟩, _, _,
      ⟨topology.fanouts, topology.labels, topology.targets, rfl⟩,
      not_not.mpr (labels_eq_iff.mpr topology.members), ?_, _, ⟨region, topology.regions, rfl⟩, ?_,
      (zipped region).mpr topology.entries,
      fun source member => (contained region source).mpr (topology.joinEntries source member), result⟩
    · rw [size_targets topology.targets]
      exact Bool.eq_false_iff.mp topology.policy
    · rw [forPairs_zip_eq_ok topology.targets apart]
      exact fun left first right second differs =>
        validateDisjointRegions_eq_ok.mpr (topology.disjoint left first right second differs)

end Topology

section Writes

variable {definition : GraphDefinition} {nodes : StringMap NodeDefinition}
  {variableMap : StringMap VariableDeclaration} {limits : CompilerLimits}
  {parallel : NodeDefinition} {configuration : ParallelBranch} {join : String}

theorem validateScopeConflict_eq_ok {left right : String × StringSet} :
    validateScopeConflict parallel left right = .ok () ↔
      ∀ scope, scope ∈ left.2 → scope ∉ right.2 := by
  rw [← head?_inter_eq_none, validateScopeConflict]
  split <;> simp_all

/-- A variable may be written by two branches of the parallel node. -/
def MayShare (configuration : ParallelBranch) (variableMap : StringMap VariableDeclaration)
    (name : String) : Prop :=
  ∃ declaration, variableMap[name]? = some declaration ∧
    (declaration.scope = .branch ∨ declaration.mergePolicy.isSome ∨
      name ∈ configuration.variableMergePolicies ∨ configuration.serializationPolicy.isSome)

theorem validateVariableConflict_eq_ok {left right : String × StringSet} :
    validateVariableConflict parallel configuration variableMap left right = .ok () ↔
      ∀ name, name ∈ left.2 → name ∈ right.2 → MayShare configuration variableMap name := by
  simp only [validateVariableConflict, forM_eq_ok, Std.ExtTreeSet.mem_toList,
    Std.ExtTreeSet.mem_inter_iff, and_imp, MayShare]
  refine forall₃_congr fun name _ _ => ?_
  cases variableMap[name]? with
  | none => simp
  | some declaration =>
    simp only [rejectIf_eq_ok, Option.some.injEq, exists_eq_left', Std.ExtTreeMap.contains_iff_mem]
    tauto

theorem mapM_branchWrites {writes : NodeDefinition → StringSet} {branches : List String} :
    ∃ written : String → StringSet,
      branches.mapM (fun branch => branchWrites writes branch join (adjacency definition) nodes) =
        .ok (branches.map written) ∧
      ∀ branch ∈ branches, ∀ item, item ∈ written branch ↔
        ∃ node, definition.Inside join branch node ∧
          ∃ found, nodes[node]? = some found ∧ item ∈ writes found := by
  obtain ⟨_, collected⟩ := mapM_isOk.mpr fun branch (_ : branch ∈ branches) =>
    (@branchWrites_spec (adjacency definition) nodes branch join writes).imp fun _ spec => spec.1
  obtain ⟨written, returns, rfl⟩ := mapM_eq_ok_map.mp collected
  refine ⟨written, collected, fun branch member item => ?_⟩
  obtain ⟨_, returned, listed⟩ :=
    @branchWrites_spec (adjacency definition) nodes branch join writes
  rw [Except.ok.inj ((returns branch member).symm.trans returned)]
  exact listed item

/-- Two nodes lie in different branches of a parallel node. -/
def InDifferentBranches (definition : GraphDefinition) (nodes : StringMap NodeDefinition)
    (parallel : NodeDefinition) (join : String) (first second : NodeDefinition) : Prop :=
  ∃ left ∈ definition.branches parallel, ∃ right ∈ definition.branches parallel,
    left ≠ right ∧ ∃ firstId secondId,
      definition.Inside join left firstId ∧ nodes[firstId]? = some first ∧
      definition.Inside join right secondId ∧ nodes[secondId]? = some second

theorem forPairs_branchWrites {writes : NodeDefinition → StringSet} {written : String → StringSet}
    {body : String × StringSet → String × StringSet → Compiled Unit} {accepts : String → Prop}
    (distinct : (definition.branches parallel).Nodup)
    (judges : ∀ left right, body left right = .ok () ↔
      ∀ item, item ∈ left.2 → item ∈ right.2 → accepts item)
    (listed : ∀ branch ∈ definition.branches parallel, ∀ item, item ∈ written branch ↔
      ∃ node, definition.Inside join branch node ∧
        ∃ found, nodes[node]? = some found ∧ item ∈ writes found) :
    forPairs body ((definition.branches parallel).zip
        ((definition.branches parallel).map written)) = .ok () ↔
      ∀ first second, InDifferentBranches definition nodes parallel join first second →
        ∀ item, item ∈ writes first → item ∈ writes second → accepts item := by
  have symmetric : ∀ left right, body left right = .ok () → body right left = .ok () := by
    simp only [judges]
    exact fun left right accepted item first second => accepted item second first
  rw [forPairs_zip_eq_ok distinct symmetric]
  simp only [judges]
  constructor
  · rintro accepted first second ⟨left, leftBranch, right, rightBranch, differ, firstId, secondId,
      insideLeft, foundFirst, insideRight, foundSecond⟩ item inFirst inSecond
    exact accepted left leftBranch right rightBranch differ item
      ((listed left leftBranch item).mpr ⟨firstId, insideLeft, first, foundFirst, inFirst⟩)
      ((listed right rightBranch item).mpr ⟨secondId, insideRight, second, foundSecond, inSecond⟩)
  · intro accepted left leftBranch right rightBranch differ item inLeft inRight
    obtain ⟨firstId, insideLeft, first, foundFirst, inFirst⟩ := (listed left leftBranch item).mp inLeft
    obtain ⟨secondId, insideRight, second, foundSecond, inSecond⟩ :=
      (listed right rightBranch item).mp inRight
    exact accepted first second ⟨left, leftBranch, right, rightBranch, differ, firstId, secondId,
      insideLeft, foundFirst, insideRight, foundSecond⟩ item inFirst inSecond

theorem validateBranchScopes_eq_ok (distinct : (definition.branches parallel).Nodup) :
    validateBranchScopes parallel configuration (definition.branches parallel)
        (adjacency definition) nodes = .ok () ↔
      (configuration.serializationPolicy = none → ∀ first second,
        InDifferentBranches definition nodes parallel configuration.joinTarget first second →
          ∀ scope, scope ∈ first.writeScopes → scope ∉ second.writeScopes) := by
  obtain ⟨written, collected, listed⟩ := @mapM_branchWrites definition nodes
    configuration.joinTarget NodeDefinition.writeScopes (definition.branches parallel)
  rw [validateBranchScopes, branchWriteScopes, collected, bind_eq_ok]
  simp only [Except.ok.injEq, exists_eq_left']
  cases configuration.serializationPolicy with
  | some policy => simp
  | none =>
    have judges : ∀ left right, validateScopeConflict parallel left right = .ok () ↔
        ∀ scope, scope ∈ left.2 → scope ∈ right.2 → False :=
      fun left right => validateScopeConflict_eq_ok
    simpa using forPairs_branchWrites distinct judges listed

theorem validateBranchVariables_eq_ok (distinct : (definition.branches parallel).Nodup) :
    validateBranchVariables parallel configuration (definition.branches parallel)
        (adjacency definition) nodes variableMap = .ok () ↔
      ∀ first second,
        InDifferentBranches definition nodes parallel configuration.joinTarget first second →
          ∀ name, name ∈ first.writeVariables → name ∈ second.writeVariables →
            MayShare configuration variableMap name := by
  obtain ⟨written, collected, listed⟩ := @mapM_branchWrites definition nodes
    configuration.joinTarget NodeDefinition.writeVariables (definition.branches parallel)
  rw [validateBranchVariables, branchWriteVariables, collected, bind_eq_ok]
  simp only [Except.ok.injEq, exists_eq_left']
  exact forPairs_branchWrites distinct (fun left right => validateVariableConflict_eq_ok) listed

/-- No two branches of a parallel node conflict in what their nodes write. -/
structure IsWriteSafe (definition : GraphDefinition) (nodes : StringMap NodeDefinition)
    (variableMap : StringMap VariableDeclaration) (parallel : NodeDefinition)
    (configuration : ParallelBranch) : Prop where
  scopes : configuration.serializationPolicy = none → ∀ first second,
    InDifferentBranches definition nodes parallel configuration.joinTarget first second →
      ∀ scope, scope ∈ first.writeScopes → scope ∉ second.writeScopes
  shared : ∀ first second,
    InDifferentBranches definition nodes parallel configuration.joinTarget first second →
      ∀ name, name ∈ first.writeVariables → name ∈ second.writeVariables →
        MayShare configuration variableMap name
  merged : ∀ name ∈ configuration.variableMergePolicies.keys, variableMap.contains name

theorem validateParallelNode_eq_ok :
    validateParallelNode definition nodes variableMap limits parallel = .ok () ↔
      ∃ configuration join joined region,
        IsTopology parallel (outgoingEdges definition parallel) (adjacency definition)
          (reverseAdjacency definition) nodes limits configuration join joined region ∧
        IsWriteSafe definition nodes variableMap parallel configuration := by
  simp only [validateParallelNode, bind_eq_ok, exists_unit, rejectIf_eq_ok, forM_eq_ok,
    parallelConfiguration_eq_ok, validateParallelTopology_eq_ok, Bool.not_eq_true', Bool.not_eq_false]
  constructor
  · rintro ⟨_, ⟨rfl, configuration, join, joined, region, topology⟩, _, other, configured, scopes,
      shared, merged⟩
    obtain rfl : configuration = other := by
      have same := topology.configured.symm.trans configured
      simpa using same
    exact ⟨configuration, join, joined, region, topology,
      (validateBranchScopes_eq_ok topology.targets).mp scopes,
      (validateBranchVariables_eq_ok topology.targets).mp shared, merged⟩
  · rintro ⟨configuration, join, joined, region, topology, safe⟩
    refine ⟨_, ⟨rfl, configuration, join, joined, region, topology⟩, ?_, configuration,
      topology.configured, (validateBranchScopes_eq_ok topology.targets).mpr safe.scopes,
      (validateBranchVariables_eq_ok topology.targets).mpr safe.shared, safe.merged⟩
    rw [List.length_map]
    exact Nat.not_lt.mpr topology.several

end Writes

section Ownership

variable {owner : ParallelRegions} {writers : StringSet}

/-- The writers lie in different regions of the owner. -/
def ParallelRegions.Separates (owner : ParallelRegions) (writers : StringSet) : Prop :=
  (∀ writer ∈ writers, ∃ region ∈ owner.regions, writer ∈ region) ∧
    ∀ region ∈ owner.regions, ∀ first ∈ writers, ∀ second ∈ writers,
      first ∈ region → second ∈ region → first = second

/-- No node lies in two of the regions. -/
def ParallelRegions.IsDisjoint (owner : ParallelRegions) : Prop :=
  owner.regions.Pairwise fun left right => ∀ node ∈ left, node ∉ right

theorem size_ofList_eq {listed : List Nat} :
    (Std.ExtTreeSet.ofList listed).size = listed.dedup.length := by
  have distinct : (Std.ExtTreeSet.ofList listed).toList.Nodup :=
    Std.ExtTreeSet.distinct_toList.imp fun {left right} differs same => by
      subst same
      exact differs Std.ReflCmp.compare_self
  rw [← Std.ExtTreeSet.length_toList]
  exact ((List.perm_ext_iff_of_nodup distinct listed.nodup_dedup).mpr (by simp)).length_eq

theorem size_filterMap {index : String → Option Nat} {items : List String} (distinct : items.Nodup) :
    (Std.ExtTreeSet.ofList (items.filterMap index)).size = items.length ↔
      (∀ item ∈ items, (index item).isSome) ∧
        ∀ first ∈ items, ∀ second ∈ items, index first = index second → first = second := by
  have present : (∀ item ∈ items, (index item).isSome) ↔
      (items.filterMap index).length = items.length := by
    rw [List.length_filterMap_eq_countP, List.countP_eq_length]
  -- Once all values are present, the list of values is the list of images.
  have images : (∀ item ∈ items, (index item).isSome) →
      (items.filterMap index).map some = items.map index := by
    intro all
    rw [List.map_filterMap_some_eq_filter_map_isSome, List.filter_eq_self]
    simpa using all
  have shorter := List.dedup_sublist (items.filterMap index)
  rw [size_ofList_eq]
  constructor
  · intro full
    have all := Nat.le_antisymm (List.length_filterMap_le index items) (full ▸ shorter.length_le)
    have same := shorter.eq_of_length (full.trans all.symm)
    have unrepeated : (items.filterMap index).Nodup := same ▸ List.nodup_dedup _
    have mapped : (items.map index).Nodup := by
      rw [← images (present.mpr all)]
      exact unrepeated.map (Option.some_injective Nat)
    exact ⟨present.mpr all, fun first inFirst second inSecond =>
      List.inj_on_of_nodup_map mapped inFirst inSecond⟩
  · rintro ⟨all, injective⟩
    have unrepeated := distinct.map_on fun first inFirst second => injective first inFirst second
    rw [← images all] at unrepeated
    rw [(unrepeated.of_map some).dedup, present.mp all]

/-- Of disjoint regions, the separating ones are found by counting the regions of the writers. -/
theorem separates_iff (disjoint : owner.IsDisjoint) :
    owner.separates writers = true ↔ owner.Separates writers := by
  let index (writer : String) : Option Nat :=
    owner.regions.findIdx? fun region => region.contains writer
  have contains : ∀ writer, (index writer).isSome ↔ ∃ region ∈ owner.regions, writer ∈ region := by
    intro writer
    simp [index, List.findIdx?_isSome]
  have located : ∀ writer position, index writer = some position ↔
      ∃ within : position < owner.regions.length, writer ∈ owner.regions[position] := by
    intro writer position
    simp only [index, List.findIdx?_eq_some_iff_getElem, Std.ExtTreeSet.contains_iff_mem]
    constructor
    · rintro ⟨within, member, _⟩
      exact ⟨within, member⟩
    · rintro ⟨within, member⟩
      exact ⟨within, member, fun earlier before inside =>
        List.pairwise_iff_getElem.mp disjoint earlier position _ within before writer inside member⟩
  rw [ParallelRegions.separates, beq_iff_eq, ← Std.ExtTreeSet.length_toList (t := writers),
    size_filterMap StringSet.nodup_toList, ParallelRegions.Separates]
  simp only [Std.ExtTreeSet.mem_toList]
  constructor
  · rintro ⟨present, injective⟩
    refine ⟨fun writer member => (contains writer).mp (present writer member), ?_⟩
    intro region member first inFirst second inSecond there here
    obtain ⟨position, within, rfl⟩ := List.getElem_of_mem member
    exact injective first inFirst second inSecond <|
      ((located first position).mpr ⟨within, there⟩).trans
        ((located second position).mpr ⟨within, here⟩).symm
  · rintro ⟨covered, apart⟩
    refine ⟨fun writer member => (contains writer).mpr (covered writer member), ?_⟩
    intro first inFirst second inSecond same
    obtain ⟨position, found⟩ :=
      Option.isSome_iff_exists.mp ((contains first).mpr (covered first inFirst))
    obtain ⟨within, there⟩ := (located first position).mp found
    obtain ⟨_, here⟩ := (located second position).mp (same.symm.trans found)
    exact apart _ (List.getElem_mem within) first inFirst second inSecond there here

variable {definition : GraphDefinition} {nodes : StringMap NodeDefinition}
  {variableMap : StringMap VariableDeclaration} {limits : CompilerLimits}

theorem validateContributorOwnership_eq_ok {owners : List ParallelRegions}
    {declaration : VariableDeclaration} :
    validateContributorOwnership owners declaration = .ok () ↔ ∃ owner,
      owners.filter (fun owner => owner.separates declaration.writers) = [owner] ∧
        owner.configuration.variableMergePolicies[declaration.name]? = declaration.mergePolicy := by
  unfold validateContributorOwnership
  split
  · next owner unique =>
    by_cases policy : owner.configuration.variableMergePolicies[declaration.name]? = declaration.mergePolicy
    · simp [unique, policy]
    · cases declared : declaration.mergePolicy <;> simp_all
  · next none => simp [none]
  · next several _ =>
    simp only [reject_eq_ok, false_iff, not_exists, not_and]
    exact fun owner unique => (several owner unique).elim

theorem parallelRegions_eq_ok {parallel join : NodeDefinition} {joined : JoinResults}
    {configuration : ParallelBranch} {region : String → StringSet}
    (topology : IsTopology parallel (outgoingEdges definition parallel) (adjacency definition)
      (reverseAdjacency definition) nodes limits configuration join joined region) :
    parallelRegions definition nodes parallel =
      .ok (some ⟨parallel, configuration, (definition.branches parallel).map region⟩) := by
  have collected := mapM_eq_ok_map.mpr ⟨region, topology.regions, rfl⟩
  simp only [parallelRegions, topology.configured, bind_eq_ok, pure_eq_ok]
  exact ⟨_, collected, rfl⟩

/-- A parallel node with an accepted topology, safe writes and its regions. -/
def IsOwner (definition : GraphDefinition) (nodes : StringMap NodeDefinition)
    (variableMap : StringMap VariableDeclaration) (limits : CompilerLimits)
    (owner : ParallelRegions) : Prop :=
  ∃ join joined region,
    IsTopology owner.parallel (outgoingEdges definition owner.parallel) (adjacency definition)
      (reverseAdjacency definition) nodes limits owner.configuration join joined region ∧
    IsWriteSafe definition nodes variableMap owner.parallel owner.configuration ∧
    owner.regions = (definition.branches owner.parallel).map region

theorem collected_owners {parallels : List NodeDefinition} {collected : List (Option ParallelRegions)}
    (accepted : ∀ parallel ∈ parallels,
      validateParallelNode definition nodes variableMap limits parallel = .ok ())
    (returned : List.Forall₂ (fun parallel result =>
      parallelRegions definition nodes parallel = .ok result) parallels collected) :
    collected.reduceOption.map ParallelRegions.parallel = parallels ∧
      ∀ owner ∈ collected.reduceOption, IsOwner definition nodes variableMap limits owner := by
  induction returned with
  | nil => exact ⟨rfl, by simp⟩
  | cons head _ ih =>
    obtain ⟨first, rest⟩ := List.forall_mem_cons.mp accepted
    obtain ⟨configuration, join, joined, region, topology, safe⟩ := validateParallelNode_eq_ok.mp first
    obtain rfl := Except.ok.inj ((parallelRegions_eq_ok topology).symm.trans head)
    obtain ⟨same, owners⟩ := ih rest
    rw [List.reduceOption_cons_of_some, List.map_cons, same]
    exact ⟨rfl, List.forall_mem_cons.mpr ⟨⟨join, joined, region, topology, safe, rfl⟩, owners⟩⟩

theorem IsOwner.disjoint (isOwner : IsOwner definition nodes variableMap limits owner) :
    owner.IsDisjoint := by
  obtain ⟨_, _, region, topology, _, regions⟩ := isOwner
  rw [ParallelRegions.IsDisjoint, regions, List.pairwise_map]
  exact topology.targets.imp_of_mem fun first second differs =>
    topology.disjoint _ first _ second differs

theorem validateParallelWrites_eq_ok :
    validateParallelWrites definition nodes variableMap limits = .ok () ↔
      ∃ owners : List ParallelRegions,
        owners.map ParallelRegions.parallel = parallelNodes nodes ∧
        (∀ owner ∈ owners, IsOwner definition nodes variableMap limits owner) ∧
        ∀ declaration ∈ variableMap.values, declaration.mergeContributors.isEmpty = false →
          ∃ owner, owners.filter (fun owner => owner.separates declaration.writers) = [owner] ∧
            owner.configuration.variableMergePolicies[declaration.name]? = declaration.mergePolicy := by
  simp only [validateParallelWrites, validateParallelMergeContributorOwnership, bind_eq_ok,
    exists_unit, forM_eq_ok, collectParallelRegions, pure_eq_ok, mapM_eq_ok, List.mem_filter,
    Bool.not_eq_true', and_imp, validateContributorOwnership_eq_ok]
  constructor
  · rintro ⟨accepted, _, ⟨collected, returned, rfl⟩, owned⟩
    obtain ⟨same, owners⟩ := collected_owners accepted returned
    exact ⟨_, same, owners, owned⟩
  · rintro ⟨owners, same, isOwner, owned⟩
    rw [← same]
    refine ⟨?_, owners, ⟨owners.map some, ?_, by simp [List.reduceOption]⟩, owned⟩
    · rw [List.forall_mem_map]
      intro owner member
      obtain ⟨join, joined, region, topology, safe, _⟩ := isOwner owner member
      exact validateParallelNode_eq_ok.mpr ⟨_, join, joined, region, topology, safe⟩
    · rw [List.forall₂_map_left_iff, List.forall₂_map_right_iff, List.forall₂_same]
      intro owner member
      obtain ⟨join, joined, region, topology, _, regions⟩ := isOwner owner member
      rw [parallelRegions_eq_ok topology, ← regions]

end Ownership

end AgentMod
