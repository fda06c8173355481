import AgentMod.Graph.Structure

/-! Validation of parallel fan-outs: their topology, their writes and their merges. -/

namespace AgentMod

/-- Runs a pass on every two items, the earlier one first. -/
def forPairs {α : Type} (body : α → α → Compiled Unit) : List α → Compiled Unit
  | [] => return ()
  | item :: rest => do
    forM rest (body item)
    forPairs body rest

/-- The typed configuration that every parallel node must have. -/
def parallelConfiguration (parallel : NodeDefinition) : Compiled ParallelBranch :=
  match parallel.configuration with
  | some (.parallelBranch configuration) => return configuration
  | _ => reject (.invalidNodeConfiguration parallel.id "parallel_branch requires typed configuration")

/-- The typed configuration of the join that a parallel node names. -/
def joinConfiguration (parallel : NodeDefinition) (joinTarget : String)
    (nodes : StringMap NodeDefinition) : Compiled (NodeDefinition × JoinResults) := do
  let join ← okOr nodes[joinTarget]? (.error (.invalidParallelJoinTarget parallel.id joinTarget))
  match join.configuration with
  | some (.joinResults configuration) => return (join, configuration)
  | _ => reject (.invalidNodeConfiguration join.id
      "configured parallel join requires typed join_results configuration")

/-- Validates one fan-out edge, and adds its label and its target to those of the others. -/
def validateFanoutEdge (parallel : NodeDefinition) (joinTarget : String) (limits : CompilerLimits)
    (collected : StringSet × StringSet) (edge : EdgeDefinition) :
    Compiled (StringSet × StringSet) := do
  rejectIf edge.condition.isSome (.conditionalParallelFanout parallel.id edge.target)
  let label ← okOr edge.label (.error (.unlabeledParallelFanout parallel.id edge.target))
  validateName "parallel member reference" label limits.maxNameBytes
  rejectIf (collected.1.contains label) (.duplicateParallelMemberReference parallel.id label)
  rejectIf (edge.target = joinTarget) (.invalidParallelJoinTarget parallel.id joinTarget)
  rejectIf (collected.2.contains edge.target)
    (.duplicateParallelBranchTarget parallel.id edge.target)
  return (collected.1.insert label, collected.2.insert edge.target)

/-- Validates the fan-out edges of a parallel node and collects their labels and targets. -/
def validateFanout (parallel : NodeDefinition) (joinTarget : String)
    (outgoing : List EdgeDefinition) (limits : CompilerLimits) :
    Compiled (StringSet × StringSet) :=
  outgoing.foldlM (validateFanoutEdge parallel joinTarget limits) (∅, ∅)

/-- Whether a fan-out's readiness policy contradicts its join's thresholds. -/
def joinPolicyMismatch (policy : ParallelJoinPolicy) (join : JoinResults) (branches : Nat) : Bool :=
  match policy with
  | .all =>
    !join.optional.isEmpty || join.required.size != branches || join.minimumSuccesses != branches
  | .minimumSuccess => join.failurePolicy != .minimumSuccess

/-- Validates that two branch regions share no node. -/
def validateDisjointRegions (parallel : NodeDefinition) (left right : String × StringSet) :
    Compiled Unit :=
  match (left.2 ∩ right.2).toList.head? with
  | some shared => reject (.overlappingParallelBranchRegions parallel.id [left.1, right.1] shared)
  | none => return ()

/-- Validates that no branch region of a parallel node is entered from outside it. -/
def validateBranchEntries (parallel : NodeDefinition) (reverse : StringMap (List String))
    (branch : String) (region : StringSet) : Compiled Unit :=
  forM region.toList fun member =>
    forM (neighbours reverse member) fun source =>
      let isFanoutEdge := member = branch ∧ source = parallel.id
      rejectIf (¬ isFanoutEdge ∧ !region.contains source)
        (.externalParallelBranchEntry parallel.id branch source member)

/-- Validates a parallel node's fan-out, join and branch regions, and returns its branches. -/
def validateParallelTopology (parallel : NodeDefinition) (outgoing : List EdgeDefinition)
    (graph reverse : StringMap (List String)) (nodes : StringMap NodeDefinition)
    (limits : CompilerLimits) : Compiled (List String) := do
  rejectIf (outgoing.length < 2) (.parallelNeedsBranches parallel.id)
  let configuration ← parallelConfiguration parallel
  let activeCapacity :=
    if configuration.serializationPolicy.isSome then 1 else configuration.maxParallelism
  rejectIf (outgoing.length > activeCapacity + configuration.maxQueueDepth)
    (.invalidNodeConfiguration parallel.id
      "parallel fan-out exceeds active plus queued branch capacity")
  let joinTarget := configuration.joinTarget
  let (join, joined) ← joinConfiguration parallel joinTarget nodes
  let (labels, targets) ← validateFanout parallel joinTarget outgoing limits
  let configuredMembers := joined.required ∪ joined.optional
  rejectIf (labels ≠ configuredMembers) (.parallelJoinMemberMismatch parallel.id join.id
    labels.toList configuredMembers.toList)
  rejectIf (joinPolicyMismatch configuration.joinPolicy joined targets.size)
    (.parallelJoinPolicyMismatch parallel.id join.id)
  let branches := outgoing.map EdgeDefinition.target
  let regions ← branches.mapM fun branch =>
    parallelBranchRegion parallel.id branch joinTarget graph nodes
  let owned := branches.zip regions
  forPairs (validateDisjointRegions parallel) owned
  forM owned fun (branch, region) => validateBranchEntries parallel reverse branch region
  forM (neighbours reverse joinTarget) fun source =>
    rejectIf (!(regions.any fun region => region.contains source))
      (.externalParallelJoinEntry parallel.id join.id source)
  return branches

/-- The nodes that fan out, in the order of their identities. -/
def parallelNodes (nodes : StringMap NodeDefinition) : List NodeDefinition :=
  nodes.values.filter fun node => node.kind == .parallelBranch

/-- The edges that leave a node, in their declared order. -/
def outgoingEdges (definition : GraphDefinition) (node : NodeDefinition) : List EdgeDefinition :=
  definition.edges.filter fun edge => edge.source == node.id

/-- Validates that two branches write no common state scope. -/
def validateScopeConflict (parallel : NodeDefinition) (left right : String × StringSet) :
    Compiled Unit :=
  match (left.2 ∩ right.2).toList.head? with
  | some scope => reject (.conflictingParallelWrites parallel.id scope [left.1, right.1])
  | none => return ()

/-- Validates that variables which two branches write are branch-scoped, merged or serialized. -/
def validateVariableConflict (parallel : NodeDefinition) (configuration : ParallelBranch)
    (variableMap : StringMap VariableDeclaration) (left right : String × StringSet) :
    Compiled Unit :=
  forM (left.2 ∩ right.2).toList fun variableName =>
    match variableMap[variableName]? with
    | none => .error .panic
    | some declaration =>
      let hasMerge := declaration.mergePolicy.isSome ∨
        configuration.variableMergePolicies.contains variableName
      rejectIf (declaration.scope ≠ .branch ∧ ¬ hasMerge ∧
          ¬ configuration.serializationPolicy.isSome)
        (.conflictingParallelVariableWrites parallel.id variableName [left.1, right.1])

/-- Validates the state scopes of all branches, unless their writes are serialized. -/
def validateBranchScopes (parallel : NodeDefinition) (configuration : ParallelBranch)
    (branches : List String) (graph : StringMap (List String)) (nodes : StringMap NodeDefinition) :
    Compiled Unit := do
  let scopes ← branches.mapM fun branch =>
    branchWriteScopes branch configuration.joinTarget graph nodes
  if configuration.serializationPolicy.isNone then
    forPairs (validateScopeConflict parallel) (branches.zip scopes)

/-- Validates the variables that all branches write. -/
def validateBranchVariables (parallel : NodeDefinition) (configuration : ParallelBranch)
    (branches : List String) (graph : StringMap (List String)) (nodes : StringMap NodeDefinition)
    (variableMap : StringMap VariableDeclaration) : Compiled Unit := do
  let writtenVariables ← branches.mapM fun branch =>
    branchWriteVariables branch configuration.joinTarget graph nodes
  forPairs (validateVariableConflict parallel configuration variableMap)
    (branches.zip writtenVariables)

/-- Validates the topology and the writes of one parallel node. -/
def validateParallelNode (definition : GraphDefinition) (nodes : StringMap NodeDefinition)
    (variableMap : StringMap VariableDeclaration) (limits : CompilerLimits)
    (parallel : NodeDefinition) : Compiled Unit := do
  let graph := adjacency definition
  let reverse := reverseAdjacency definition
  let branches ← validateParallelTopology parallel (outgoingEdges definition parallel) graph reverse
    nodes limits
  rejectIf (branches.length < 2) (.parallelNeedsBranches parallel.id)
  let configuration ← parallelConfiguration parallel
  validateBranchScopes parallel configuration branches graph nodes
  validateBranchVariables parallel configuration branches graph nodes variableMap
  forM configuration.variableMergePolicies.keys fun variableName =>
    rejectIf (!variableMap.contains variableName)
      (.unknownParallelMergeVariable parallel.id variableName)

/-- A parallel node with its configuration and the regions of its branches. -/
structure ParallelRegions where
  parallel : NodeDefinition
  configuration : ParallelBranch
  regions : List StringSet

/-- The regions of a parallel node that is configured as one. -/
def parallelRegions (definition : GraphDefinition) (nodes : StringMap NodeDefinition)
    (parallel : NodeDefinition) : Compiled (Option ParallelRegions) :=
  match parallel.configuration with
  | some (.parallelBranch configuration) => do
    let branches := (outgoingEdges definition parallel).map EdgeDefinition.target
    let regions ← branches.mapM fun branch => parallelBranchRegion parallel.id branch
      configuration.joinTarget (adjacency definition) nodes
    return some ⟨parallel, configuration, regions⟩
  | _ => return none

/-- The regions of every parallel node that is configured as one. -/
def collectParallelRegions (definition : GraphDefinition) (nodes : StringMap NodeDefinition) :
    Compiled (List ParallelRegions) := do
  let collected ← (parallelNodes nodes).mapM (parallelRegions definition nodes)
  return collected.reduceOption

/-- The producer and the merge contributors of a variable. -/
def VariableDeclaration.writers (declaration : VariableDeclaration) : StringSet :=
  declaration.mergeContributors.insert declaration.producer

/-- Whether the writers of a variable lie in pairwise different branches of a parallel node. -/
def ParallelRegions.separates (owner : ParallelRegions) (writers : StringSet) : Bool :=
  let writerRegions : Std.ExtTreeSet Nat := .ofList <| writers.toList.filterMap fun writer =>
    owner.regions.findIdx? fun region => region.contains writer
  writerRegions.size == writers.size

/-- Validates that one parallel node owns the merge of a variable, under the declared policy. -/
def validateContributorOwnership (owners : List ParallelRegions)
    (declaration : VariableDeclaration) : Compiled Unit :=
  match owners.filter fun owner => owner.separates declaration.writers with
  | [owner] =>
    let configured := owner.configuration.variableMergePolicies[declaration.name]?
    if configured ≠ declaration.mergePolicy then
      match declaration.mergePolicy with
      | some declared => reject (.parallelMergeContributorPolicyMismatch declaration.name
          owner.parallel.id declared configured)
      | none => .error .panic
    else return ()
  | [] => reject (.invalidParallelMergeContributorOwnership declaration.name
      "producer and contributors must occupy distinct branches of one exact parallel region before its configured join")
  | _ => reject (.invalidParallelMergeContributorOwnership declaration.name
      "producer and contributors match more than one parallel region")

/-- Validates the owners of all variables with merge contributors. -/
def validateParallelMergeContributorOwnership (definition : GraphDefinition)
    (nodes : StringMap NodeDefinition) (variableMap : StringMap VariableDeclaration) :
    Compiled Unit := do
  let owners ← collectParallelRegions definition nodes
  forM (variableMap.values.filter fun declaration => !declaration.mergeContributors.isEmpty)
    (validateContributorOwnership owners)

/-- Validates every parallel node and the merges that they own. -/
def validateParallelWrites (definition : GraphDefinition) (nodes : StringMap NodeDefinition)
    (variableMap : StringMap VariableDeclaration) (limits : CompilerLimits) : Compiled Unit := do
  forM (parallelNodes nodes) (validateParallelNode definition nodes variableMap limits)
  validateParallelMergeContributorOwnership definition nodes variableMap

end AgentMod
