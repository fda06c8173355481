import AgentMod.Graph.Error
import AgentMod.Library.Kahn
import AgentMod.Library.Worklist

/-! Names, bounds, adjacency and reachability of a graph definition, and the regions of parallel branches. -/

namespace AgentMod

/-- Validates the format version, the collection bounds and the budget. -/
def validateVersionAndBounds (definition : GraphDefinition) (limits : CompilerLimits) :
    Compiled Unit := do
  rejectIf (definition.formatVersion ≠ graphFormatVersion)
    (.unsupportedVersion definition.formatVersion graphFormatVersion)
  rejectIf (definition.nodes.length > limits.maxNodes)
    (.tooManyNodes definition.nodes.length limits.maxNodes)
  rejectIf (definition.edges.length > limits.maxEdges)
    (.tooManyEdges definition.edges.length limits.maxEdges)
  let budget := definition.budget
  forM [("max_steps", budget.maxSteps, limits.maxSteps),
      ("max_tokens", budget.maxTokens, limits.maxTokens),
      ("max_cost_micros", budget.maxCostMicros, limits.maxCostMicros),
      ("max_duration_ms", budget.maxDurationMs, limits.maxDurationMs)]
    fun (name, actual, maximum) =>
      rejectIf (actual = 0 ∨ actual > maximum) (.invalidBudget name actual maximum)

/-- Validates every name that nodes and declarations carry. -/
def validateNames (definition : GraphDefinition) (limits : CompilerLimits) : Compiled Unit := do
  validateName "entry" definition.entry limits.maxNameBytes
  forM definition.nodes fun node => do
    validateName "node" node.id limits.maxNameBytes
    forM (node.requiredCapabilities.toList ++ node.readScopes.toList ++ node.writeScopes.toList ++
        node.readVariables.toList ++ node.writeVariables.toList) fun value =>
      validateName "node declaration" value limits.maxNameBytes
  let declarations := definition.declarations
  forM (declarations.capabilities.toList ++ declarations.tools.toList ++
      declarations.providers.toList ++ declarations.events.toList ++ declarations.plugins.toList)
    fun value => validateName "graph declaration" value limits.maxNameBytes

/-- Collects items by their key and rejects the first repeated one. -/
def collectBy {α : Type} (key : α → String) (duplicate : String → GraphError) (items : List α) :
    Compiled (StringMap α) :=
  items.foldlM (fun collected item => do
    rejectIf (collected.contains (key item)) (duplicate (key item))
    return collected.insert (key item) item) ∅

/-- The nodes by their identity. -/
def collectNodes (definition : GraphDefinition) : Compiled (StringMap NodeDefinition) :=
  collectBy NodeDefinition.id .duplicateNode definition.nodes

/-- The variables by their name. -/
def collectVariables (definition : GraphDefinition) : Compiled (StringMap VariableDeclaration) :=
  collectBy VariableDeclaration.name .duplicateVariable definition.variables

/-- The text by which errors name an edge. -/
def EdgeDefinition.toText (edge : EdgeDefinition) : String :=
  edge.source ++ " -> " ++ edge.target

/-- Validates the names and the ends of one edge, which must not repeat a seen one. -/
def validateEdge (nodes : StringMap NodeDefinition) (limits : CompilerLimits)
    (seen : List EdgeDefinition) (edge : EdgeDefinition) : Compiled (List EdgeDefinition) := do
  validateName "edge source" edge.source limits.maxNameBytes
  validateName "edge destination" edge.target limits.maxNameBytes
  rejectIf (!nodes.contains edge.source) (.unknownEdgeNode edge.toText edge.source)
  rejectIf (!nodes.contains edge.target) (.unknownEdgeNode edge.toText edge.target)
  forM edge.label.toList fun label => validateName "edge label" label limits.maxNameBytes
  -- The four fields of an edge are its identity.
  rejectIf (edge ∈ seen) (.duplicateEdge edge.toText)
  return edge :: seen

/-- Validates every edge of the definition. -/
def validateEdges (definition : GraphDefinition) (nodes : StringMap NodeDefinition)
    (limits : CompilerLimits) : Compiled Unit := do
  let _ ← definition.edges.foldlM (validateEdge nodes limits) []

/-- The neighbours of every node at the other end of its edges, in edge order. -/
def collectNeighbours (near far : EdgeDefinition → String) (definition : GraphDefinition) :
    StringMap (List String) :=
  let result := definition.nodes.foldl (fun result node => result.insertIfNew node.id []) ∅
  definition.edges.foldl (fun result edge =>
    result.alter (near edge) fun targets => some (targets.getD [] ++ [far edge])) result

/-- The distinct targets of every node, in order. -/
def adjacency (definition : GraphDefinition) : StringMap (List String) :=
  (collectNeighbours EdgeDefinition.source EdgeDefinition.target definition).map fun _ targets =>
    (Std.ExtTreeSet.ofList targets).toList

/-- The sources of every node's incoming edges. -/
def reverseAdjacency (definition : GraphDefinition) : StringMap (List String) :=
  collectNeighbours EdgeDefinition.target EdgeDefinition.source definition

/-- The neighbours that an adjacency lists for a node. -/
def neighbours (graph : StringMap (List String)) (node : String) : List String :=
  graph[node]?.getD []

/-- Every queued node is the start or a listed neighbour. -/
def traversalFuel (graph : StringMap (List String)) : Nat :=
  (graph.toList.map fun entry => entry.2.length).sum + 2

/-- The nodes reachable from the start. -/
def reachableFrom (start : String) (graph : StringMap (List String)) : Compiled StringSet := do
  let reached ← Worklist.run (fun _ => false) (fun node => .ok (neighbours graph node))
    (traversalFuel graph) [start] []
  return .ofList reached

/-- Validates that the entry exists and that every node is reachable from it. -/
def validateEntryAndReachability (definition : GraphDefinition)
    (nodes : StringMap NodeDefinition) : Compiled Unit := do
  rejectIf (!nodes.contains definition.entry) (.unknownEntry definition.entry)
  let reached ← reachableFrom definition.entry (adjacency definition)
  let unreachable := nodes.keys.filter fun node => !reached.contains node
  rejectIf (unreachable ≠ []) (.unreachableNodes unreachable)

/-- Validates that terminal nodes have no successors and that every node leads to one. -/
def validateTermination (definition : GraphDefinition) (nodes : StringMap NodeDefinition) :
    Compiled Unit := do
  let terminals := (nodes.values.filter fun node => node.kind.isTerminal).map NodeDefinition.id
  rejectIf (terminals = []) .missingTermination
  let graph := adjacency definition
  forM terminals fun terminal =>
    rejectIf (neighbours graph terminal ≠ []) (.terminalHasOutgoingEdge terminal)
  let reverse := reverseAdjacency definition
  let canTerminate ← terminals.foldlM (fun (collected : StringSet) terminal => do
    return collected ∪ (← reachableFrom terminal reverse)) ∅
  let trapped := nodes.keys.filter fun node => !canTerminate.contains node
  rejectIf (trapped ≠ []) (.noTerminationPath trapped)

/-- The loop nodes, at which every cycle may be cut. -/
def loopNodes (nodes : StringMap NodeDefinition) : StringSet :=
  .ofList ((nodes.values.filter fun node => node.kind == .loop).map NodeDefinition.id)

/-- Validates that the nodes other than loops can be ordered along the edges. -/
def validateCycles (definition : GraphDefinition) (nodes : StringMap NodeDefinition) :
    Compiled Unit := do
  let graph := adjacency definition
  let loops := loopNodes nodes
  let counted (node : String) : Bool := !loops.contains node
  let incoming : StringMap Nat := .ofList ((nodes.keys.filter counted).map fun node => (node, 0))
  let incoming ← (graph.toList.filter fun entry => counted entry.1).foldlM
    (fun incoming entry => (entry.2.filter counted).foldlM Kahn.count incoming) incoming
  let ready := (incoming.toList.filter fun entry => entry.2 == 0).map Prod.fst
  let state ← Kahn.drain (fun node => (neighbours graph node).filter counted) (incoming.size + 1)
    ⟨incoming, .ofList ready, 0⟩
  rejectIf (state.processed ≠ state.incoming.size)
    (.illegalCycle ((state.incoming.toList.filter fun entry => entry.2 > 0).map Prod.fst))

/-- The nodes that a branch visits before the join, in the order of its traversal. -/
def branchOrder (branch join : String) (graph : StringMap (List String)) :
    Compiled (List String) :=
  Worklist.run (fun node => node == join) (fun node => .ok (neighbours graph node))
    (traversalFuel graph) [branch] []

/-- The members of a branch in front of the join. -/
def branchMembers (branch join : String) (graph : StringMap (List String)) :
    Compiled StringSet := do
  return .ofList (← branchOrder branch join graph)

/-- The targets that a branch region continues with, which must lead to the join or a failure. -/
def branchTargets (parallel branch : String) (graph : StringMap (List String))
    (nodes : StringMap NodeDefinition) (node : String) : Compiled (List String) :=
  match nodes[node]? with
  | none => .error .panic
  | some definition =>
    match definition.kind with
    | .fail => return []
    | .completeTurn | .completeSession =>
      reject (.parallelBranchTerminalCompletion parallel branch node)
    | _ =>
      let targets := neighbours graph node
      if targets = [] then reject (.parallelBranchBypassesJoin parallel branch node)
      else return targets

/-- The region of a parallel branch, none of whose paths may end without the join or a failure. -/
def parallelBranchRegion (parallel branch join : String) (graph : StringMap (List String))
    (nodes : StringMap NodeDefinition) : Compiled StringSet := do
  let members ← Worklist.run (fun node => node == join) (branchTargets parallel branch graph nodes)
    (traversalFuel graph) [branch] []
  return .ofList members

/-- The joins reachable from a node. -/
def reachableJoins (branch : String) (graph : StringMap (List String))
    (nodes : StringMap NodeDefinition) : Compiled StringSet := do
  let reachable ← reachableFrom branch graph
  return reachable.filter fun node => nodes[node]?.any fun item => item.kind == .joinResults

/-- Narrows the joins that all branches so far reach to those that one more branch reaches. -/
def narrowJoins (graph : StringMap (List String)) (nodes : StringMap NodeDefinition)
    (common : Option StringSet) (branch : String) : Compiled (Option StringSet) := do
  let joins ← reachableJoins branch graph nodes
  match common with
  | none => return some joins
  | some current => return some (current ∩ joins)

/-- The first join, in the order of names, that every branch reaches. -/
def commonJoin (branches : List String) (graph : StringMap (List String))
    (nodes : StringMap NodeDefinition) : Compiled (Option String) := do
  let common ← branches.foldlM (narrowJoins graph nodes) none
  return common.bind fun joins => joins.toList.head?

/-- Adds what a node has in a set of its own. -/
def collectWrites (writes : NodeDefinition → StringSet) (nodes : StringMap NodeDefinition)
    (collected : StringSet) (node : String) : StringSet :=
  match nodes[node]? with
  | some definition => collected ∪ writes definition
  | none => collected

/-- What the nodes of a branch in front of the join have in a set of theirs. -/
def branchWrites (writes : NodeDefinition → StringSet) (branch join : String)
    (graph : StringMap (List String)) (nodes : StringMap NodeDefinition) : Compiled StringSet := do
  return (← branchOrder branch join graph).foldl (collectWrites writes nodes) ∅

/-- The state scopes that a branch proposes to write. -/
def branchWriteScopes : String → String → StringMap (List String) → StringMap NodeDefinition →
    Compiled StringSet :=
  branchWrites NodeDefinition.writeScopes

/-- The canonical variables that a branch writes. -/
def branchWriteVariables : String → String → StringMap (List String) → StringMap NodeDefinition →
    Compiled StringSet :=
  branchWrites NodeDefinition.writeVariables

end AgentMod
