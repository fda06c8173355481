import AgentMod.Graph.Structure
import AgentMod.Graph.Parallel
import AgentMod.Graph.Variables
import AgentMod.Library.Sorting

/-! Compilation: all validation passes in their order, and the executable graph. -/

namespace AgentMod

/-- Compiled generic node. -/
structure ExecutableNode where
  index : Nat
  id : String
  kind : NodeKind
  configuration : Option NodeConfiguration
  condition : Option Expression
  tool : Option String
  provider : Option String
  requiredCapabilities : StringSet
  readScopes : StringSet
  writeScopes : StringSet
  readVariables : StringSet
  writeVariables : StringSet
  retryLimit : Nat
  maxIterations : Option Nat

/-- Compiled directed transition. -/
structure ExecutableEdge where
  source : Nat
  target : Nat
  condition : Option Expression
  label : Option String

/-- Cache identity with inspectable constituent hashes. -/
structure GraphCacheKey where
  graphContentHash : ContentHash
  pluginSetHash : ContentHash
  capabilitySetHash : ContentHash
  runtimeApiHash : ContentHash
  combinedHash : ContentHash

/-- Deterministic executable graph. -/
structure ExecutableGraph where
  formatVersion : Nat
  entryIndex : Nat
  budget : GraphBudget
  declarations : GraphDeclarations
  «variables» : List VariableDeclaration
  nodes : List ExecutableNode
  edges : List ExecutableEdge
  cacheKey : GraphCacheKey

section Compile

variable [GraphCodec] [SerdeJson] [Hashing]

/-- Parses versioned TOML while applying source-size bounds. -/
def GraphDefinition.parse (source : String) (limits : CompilerLimits) :
    Compiled GraphDefinition := do
  rejectIf (source.utf8ByteSize > limits.maxSourceBytes)
    (.sourceTooLarge source.utf8ByteSize limits.maxSourceBytes)
  match GraphCodec.definitionFromToml source with
  | .ok definition => return definition
  | .error detail => reject (.invalidToml detail)

/-- Validates the loop bound of a node. -/
def validateLoopBound (node : NodeDefinition) (limits : CompilerLimits) : Compiled Unit :=
  match node.kind, node.maxIterations with
  | .loop, some value =>
    rejectIf (¬ (value > 0 ∧ value ≤ limits.maxLoopIterations))
      (.invalidLoopBound node.id (some value) limits.maxLoopIterations)
  | .loop, none => reject (.invalidLoopBound node.id none limits.maxLoopIterations)
  | _, some _ => reject (.loopBoundOnNonLoop node.id)
  | _, none => return ()

/-- Whether a node executes the tool batch that a provider proposes. -/
def isProviderToolBatch : Option NodeConfiguration → Bool
  | some (.providerToolBatchExecution _) => true
  | _ => false

/-- Validates the tool or the provider that a node selects. -/
def validateSelection (definition : GraphDefinition) (node : NodeDefinition) : Compiled Unit := do
  match node.kind with
  | .toolExecutionGate =>
    if isProviderToolBatch node.configuration then
      rejectIf node.tool.isSome (.invalidNodeConfiguration node.id
        "provider tool-batch execution selects tools only from its declared allowlist")
    else
      let tool ← okOr node.tool (.error (.missingTool node.id))
      rejectIf (!definition.declarations.tools.contains tool) (.undeclaredTool node.id tool)
  | .modelCall | .review =>
    let provider ← okOr node.provider (.error (.missingProvider node.id))
    rejectIf (!definition.declarations.providers.contains provider)
      (.undeclaredProvider node.id provider)
  | _ => return ()

/-- Validates what every node requires of the graph, the runtime and the limits. -/
def validateNodeContracts (definition : GraphDefinition) (nodes : StringMap NodeDefinition)
    (cacheInputs : GraphCacheInputs) (limits : CompilerLimits) : Compiled Unit := do
  forM definition.declarations.capabilities.toList fun capability =>
    rejectIf (!cacheInputs.capabilitySet.contains capability)
      (.runtimeCapabilityUnavailable capability)
  forM definition.nodes fun node => do
    rejectIf (node.retryLimit > limits.maxRetryLimit)
      (.retryLimitExceeded node.id node.retryLimit limits.maxRetryLimit)
    validateLoopBound node limits
    forM (node.requiredCapabilities.toList ++ node.kind.impliedCapability.toList) fun capability =>
      rejectIf (!definition.declarations.capabilities.contains capability)
        (.undeclaredCapability node.id capability)
    validateSelection definition node
    validateNodeConfiguration node nodes definition limits
    let _ ← parseCondition node.condition node.id limits.expression
  forM definition.edges fun edge => do
    let _ ← parseCondition edge.condition edge.toText limits.expression

/-- Runs the validation passes of a parsed graph in their order. -/
def GraphDefinition.validate (definition : GraphDefinition) (cacheInputs : GraphCacheInputs)
    (limits : CompilerLimits) : Compiled Unit := do
  validateVersionAndBounds definition limits
  validateNames definition limits
  let nodes ← collectNodes definition
  let variableMap ← collectVariables definition
  validateEdges definition nodes limits
  validateEntryAndReachability definition nodes
  validateTermination definition nodes
  validateNodeContracts definition nodes cacheInputs limits
  validateVariables definition nodes variableMap limits
  validateEffectOutputWrites nodes variableMap
  validateCycles definition nodes
  validateParallelWrites definition nodes variableMap limits

/-- The order of edges; a missing label or condition comes first. -/
def EdgeDefinition.order : EdgeDefinition → EdgeDefinition → Ordering :=
  compareLex (compareOn EdgeDefinition.source) <| compareLex (compareOn EdgeDefinition.target) <|
    compareLex (compareOn EdgeDefinition.label) (compareOn EdgeDefinition.condition)

/-- The executable form of a node. -/
def executableNode (limits : CompilerLimits) (node : NodeDefinition) (index : Nat) :
    Compiled ExecutableNode := do
  let condition ← parseCondition node.condition node.id limits.expression
  return {
    index
    id := node.id
    kind := node.kind
    configuration := (effectiveNodeConfiguration node).map canonicalizeNodeConfiguration
    condition
    tool := node.tool
    provider := node.provider
    requiredCapabilities := node.requiredCapabilities
    readScopes := node.readScopes
    writeScopes := node.writeScopes
    readVariables := node.readVariables
    writeVariables := node.writeVariables
    retryLimit := node.retryLimit
    maxIterations := node.maxIterations }

/-- The executable form of an edge, whose ends must have an index. -/
def executableEdge (limits : CompilerLimits) (indices : StringMap Nat) (edge : EdgeDefinition) :
    Compiled ExecutableEdge := do
  let source ← okOr indices[edge.source]? .panic
  let target ← okOr indices[edge.target]? .panic
  let condition ← parseCondition edge.condition edge.toText limits.expression
  return ⟨source, target, condition, edge.label⟩

/-- The length-prefixed bytes of a sequence of texts. -/
def encodeStrings (values : List String) : List UInt8 :=
  values.flatMap fun value => toBeBytes value.utf8ByteSize ++ utf8Bytes value.toList

/-- The cache identity of a source under the given inputs. -/
def buildCacheKey (source : String) (inputs : GraphCacheInputs) : GraphCacheKey :=
  let graphContentHash := Hashing.digest (utf8Bytes source.toList)
  let capabilitySetHash := Hashing.digest (encodeStrings inputs.capabilitySet.toList)
  let runtimeApiHash := Hashing.digest (utf8Bytes inputs.runtimeApiVersion.toList)
  { graphContentHash
    pluginSetHash := inputs.pluginSetHash
    capabilitySetHash
    runtimeApiHash
    combinedHash := Hashing.digest (graphContentHash.bytes.toList ++
      inputs.pluginSetHash.bytes.toList ++ capabilitySetHash.bytes.toList ++
      runtimeApiHash.bytes.toList) }

/-- Builds the executable form of a validated graph. -/
def GraphDefinition.build (definition : GraphDefinition) (source : String)
    (cacheInputs : GraphCacheInputs) (limits : CompilerLimits) : Compiled ExecutableGraph := do
  let sortedNodes := sortBy (compareOn NodeDefinition.id) definition.nodes
  let indices : StringMap Nat := .ofList (sortedNodes.zipIdx.map fun entry => (entry.1.id, entry.2))
  let nodes ← sortedNodes.zipIdx.mapM fun entry => executableNode limits entry.1 entry.2
  let sortedEdges := sortBy EdgeDefinition.order definition.edges
  let edges ← sortedEdges.mapM (executableEdge limits indices)
  let entryIndex ← okOr indices[definition.entry]? .panic
  return {
    formatVersion := definition.formatVersion
    entryIndex
    budget := definition.budget
    declarations := definition.declarations
    «variables» := sortBy (compareOn VariableDeclaration.name) definition.variables
    nodes
    edges
    cacheKey := buildCacheKey source cacheInputs }

/-- Parses, validates, and deterministically compiles a graph. -/
def compile (source : String) (cacheInputs : GraphCacheInputs) (limits : CompilerLimits) :
    Compiled ExecutableGraph := do
  let definition ← GraphDefinition.parse source limits
  definition.validate cacheInputs limits
  definition.build source cacheInputs limits

end Compile

end AgentMod
