import AgentMod.Graph.Compile

/-! What a graph definition means: its steps, its walks and its parallel regions. -/

namespace AgentMod

namespace GraphDefinition

variable (definition : GraphDefinition)

/-- An edge leads from the source to the target. -/
def Step (source target : String) : Prop :=
  ∃ edge ∈ definition.edges, edge.source = source ∧ edge.target = target

/-- The nodes by their identity, of a definition that repeats none. -/
def nodeMap : StringMap NodeDefinition :=
  match collectNodes definition with
  | .ok nodes => nodes
  | .error _ => ∅

/-- A node of the given kind has the identity. -/
def HasKind (kind : NodeKind) (id : String) : Prop :=
  ∃ node ∈ definition.nodes, node.id = id ∧ node.kind = kind

/-- A node at which runs end has the identity. -/
def IsTerminal (id : String) : Prop :=
  ∃ node ∈ definition.nodes, node.id = id ∧ node.kind.isTerminal

/-- A walk visits nodes of the definition along its edges. -/
structure IsWalk (walk : List String) : Prop where
  steps : walk.IsChain definition.Step
  visited : ∀ id ∈ walk, ∃ node ∈ definition.nodes, node.id = id

/-- Every edge of the definition joins two of its nodes. -/
def Resolved : Prop :=
  ∀ edge ∈ definition.edges, (∃ node ∈ definition.nodes, node.id = edge.source) ∧
    ∃ node ∈ definition.nodes, node.id = edge.target

/-- The identities of the loop nodes. -/
def loopIds : List String :=
  (definition.nodes.filter fun node => node.kind == .loop).map NodeDefinition.id

/-- The identities of all nodes but the loop nodes. -/
def otherIds : List String :=
  (definition.nodes.filter fun node => node.kind != .loop).map NodeDefinition.id

/-- A configured parallel node of the definition. -/
structure IsParallel (parallel : NodeDefinition) (configuration : ParallelBranch) : Prop where
  member : parallel ∈ definition.nodes
  kind : parallel.kind = .parallelBranch
  configured : parallel.configuration = some (.parallelBranch configuration)

/-- The entry nodes of a parallel node's branches, in the order of their edges. -/
def branches (parallel : NodeDefinition) : List String :=
  (outgoingEdges definition parallel).map EdgeDefinition.target

/-- A node lies in the computed region of a parallel node's branch. -/
def InRegion (parallel : NodeDefinition) (configuration : ParallelBranch)
    (branch node : String) : Prop :=
  ∃ region, parallelBranchRegion parallel.id branch configuration.joinTarget
    (adjacency definition) definition.nodeMap = .ok region ∧ node ∈ region

/-- A node is reachable from a branch's entry without passing the join. -/
def Inside (join branch node : String) : Prop :=
  Reaches (fun node => node = join) (fun source => neighbours (adjacency definition) source)
    branch node

/-- The writers lie in pairwise different branches of a parallel node. -/
def SeparatesWriters (parallel : NodeDefinition) (configuration : ParallelBranch)
    (writers : StringSet) : Prop :=
  (∀ writer ∈ writers, ∃ branch ∈ definition.branches parallel,
    definition.InRegion parallel configuration branch writer) ∧
  ∀ branch ∈ definition.branches parallel, ∀ first ∈ writers, ∀ second ∈ writers,
    definition.InRegion parallel configuration branch first →
    definition.InRegion parallel configuration branch second → first = second

/-- Two nodes may both write a variable, whose merge exactly one parallel node owns. -/
structure OwnsMerge (declaration : VariableDeclaration) (first second : String) : Prop where
  merged : declaration.mergePolicy.isSome
  firstListed : first ≠ declaration.producer → first ∈ declaration.mergeContributors
  secondListed : second ≠ declaration.producer → second ∈ declaration.mergeContributors
  owned : ∃ parallel configuration, definition.IsParallel parallel configuration ∧
    definition.SeparatesWriters parallel configuration declaration.writers ∧
    configuration.variableMergePolicies[declaration.name]? = declaration.mergePolicy ∧
    ∀ other otherConfiguration, definition.IsParallel other otherConfiguration →
      definition.SeparatesWriters other otherConfiguration declaration.writers → other = parallel

/-- Walks from the entry enter the regions of a parallel node through its fan-out and reach its join
behind it, and walks from its fan-out leave a region through the join or stop at a failure. -/
structure SingleEntrySingleExit (parallel : NodeDefinition) (configuration : ParallelBranch) :
    Prop where
  entered : ∀ before node after, (before ++ node :: after).IsChain definition.Step →
    (before ++ node :: after).head? = some definition.entry →
    ∀ branch ∈ definition.branches parallel, definition.InRegion parallel configuration branch node →
      ∃ earlier between, before ++ [node] = earlier ++ parallel.id :: between ∧
        between.head? = some branch ∧
        ∀ visited ∈ between, definition.InRegion parallel configuration branch visited
  joined : ∀ before after, (before ++ configuration.joinTarget :: after).IsChain definition.Step →
    (before ++ configuration.joinTarget :: after).head? = some definition.entry →
      parallel.id ∈ before
  left : ∀ branch ∈ definition.branches parallel, ∀ rest,
    (parallel.id :: branch :: rest).IsChain definition.Step →
      ∃ between after, branch :: rest = between ++ after ∧
        (∀ visited ∈ between, definition.InRegion parallel configuration branch visited) ∧
        (after.head? = some configuration.joinTarget ∨ after = [] ∧ ∀ last ∈ between.getLast?,
          (∀ target, ¬ definition.Step last target) → definition.HasKind .fail last)
  endless : ∀ branch ∈ definition.branches parallel, ∀ run : Nat → String, run 0 = branch →
    (∀ time, definition.Step (run time) (run (time + 1))) →
      (∀ time, definition.InRegion parallel configuration branch (run time)) ∨
        ∃ last, run last = configuration.joinTarget ∧
          ∀ time < last, definition.InRegion parallel configuration branch (run time)

/-- A branch whose region is the least of those in which a node lies. -/
structure IsInnermost (parallel : NodeDefinition) (configuration : ParallelBranch)
    (branch node : String) : Prop where
  isParallel : definition.IsParallel parallel configuration
  isBranch : branch ∈ definition.branches parallel
  inside : definition.InRegion parallel configuration branch node
  least : ∀ other otherConfiguration, definition.IsParallel other otherConfiguration →
    ∀ otherBranch ∈ definition.branches other,
      definition.InRegion other otherConfiguration otherBranch node →
        ∀ visited, definition.InRegion parallel configuration branch visited →
          definition.InRegion other otherConfiguration otherBranch visited

/-- A variable is consumed and read in the innermost branch region of its producer only. -/
def ConfinesVariable (declaration : VariableDeclaration) : Prop :=
  ∃ parallel configuration branch,
    definition.IsInnermost parallel configuration branch declaration.producer ∧
    (∀ consumer ∈ declaration.consumers,
      definition.InRegion parallel configuration branch consumer) ∧
    ∀ node ∈ definition.nodes, declaration.name ∈ node.readVariables →
      definition.InRegion parallel configuration branch node.id

/-- No consumer of a variable lies where the region of the scope check, which ends at a common join,
exceeds the innermost region of the producer, which ends at the configured join. -/
def ConsumesNoExcess (declaration : VariableDeclaration) : Prop :=
  ∃ parallel configuration branch,
    definition.IsInnermost parallel configuration branch declaration.producer ∧
    ∀ region, scopeRegion definition definition.nodeMap declaration.producer = .ok (some region) →
      ∀ node ∈ region, ¬ definition.InRegion parallel configuration branch node →
        node ∉ declaration.consumers

/-- The branches of every parallel node have its configured join as their common join. -/
def JoinsInCommon : Prop :=
  ∀ parallel configuration, definition.IsParallel parallel configuration →
    commonJoin (neighbours (adjacency definition) parallel.id) (adjacency definition)
      definition.nodeMap = .ok (some configuration.joinTarget)

end GraphDefinition

/-- The compiler accepts a source, which spells the definition. -/
structure Accepts [GraphCodec] [SerdeJson] [Hashing] (source : String) (inputs : GraphCacheInputs)
    (limits : CompilerLimits) (definition : GraphDefinition) : Prop where
  spells : GraphDefinition.parse source limits = .ok definition
  compiles : ∃ executable, compile source inputs limits = .ok executable

end AgentMod
