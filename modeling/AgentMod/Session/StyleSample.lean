import AgentMod.Parallel.Sample
import AgentMod.Session.Context
import AgentMod.Session.Style
import AgentMod.Variables.Runs

/-! Style executions of small graphs, on which the general results can be observed. -/

namespace AgentMod

/-- The hash of the sample, whatever is hashed. -/
def zeroHash : ContentHash := ⟨.replicate 32 0⟩

/-- A stand-in for the digest of the canonical JSON of events. -/
abbrev plainChecksum {π : Type} : EventChecksum π where
  checksum _ _ := .ok zeroHash

/-- Stand-ins for the encoding of entries, the styles and the identifiers. -/
abbrev plainContext : ContextText where
  entriesToVec _ := .ok []
  contextTransforms _ := some 0
  parseUuid text := some text

section Sample

variable {π : Type}

/-- A committed event of the sample session with the name of its payload. -/
def sessionEvent (sequence : Sequence) (eventType : String) (payload : SessionPayload π)
    (artifacts : List ArtifactReference) : EventEnvelope (SessionPayload π) where
  metadata := ⟨"event-" ++ toString sequence, .session "session", sequence, eventType, artifacts, .committed⟩
  payload := payload
  integrityChecksum := zeroHash

/-- The style binding of the sample session. -/
def sampleBinding : SessionStyleBinding := ⟨"chat", zeroHash, zeroHash, zeroHash, "", "", true⟩

/-- The first event of the sample session. -/
def sessionCreation : EventEnvelope (SessionPayload π) :=
  sessionEvent 1 "session.created" (.sessionCreated ⟨"/workspace", "chat", some sampleBinding⟩) []

end Sample

/-- A node of a sample graph that declares nothing but its kind and its configuration. -/
def sampleNode (index : Nat) (id : String) (kind : NodeKind) (configuration : Option NodeConfiguration) :
    ExecutableNode where
  index := index
  id := id
  kind := kind
  configuration := configuration
  condition := none
  tool := none
  provider := none
  requiredCapabilities := ∅
  readScopes := ∅
  writeScopes := ∅
  readVariables := ∅
  writeVariables := ∅
  retryLimit := 0
  maxIterations := none

/-- A sample graph that starts with its first node and labels edges with their targets. -/
def sampleExecutable (nodes : List ExecutableNode) (edges : List (Nat × Nat)) : ExecutableGraph where
  formatVersion := graphFormatVersion
  entryIndex := 0
  budget := ⟨100, 1, 1, 1000⟩
  declarations := ⟨∅, ∅, ∅, ∅, ∅⟩
  «variables» := []
  nodes := nodes
  edges := edges.map fun edge => ⟨edge.1, edge.2, none, nodes[edge.2]?.map (·.id)⟩
  cacheKey := ⟨zeroHash, zeroHash, zeroHash, zeroHash, zeroHash⟩

/-- A graph whose one node completes the turn. -/
def turnGraph : ExecutableGraph := sampleExecutable [sampleNode 0 "done" .completeTurn none] []

/-- A graph that fans out at its entry, and joins the branches behind it. -/
def fanGraph : ExecutableGraph :=
  sampleExecutable
    [sampleNode 0 "fan" .parallelBranch (some (.parallelBranch narrowFanOut)),
      sampleNode 1 "left" .conditionalBranch none, sampleNode 2 "right" .conditionalBranch none,
      sampleNode 3 "join" .joinResults none, sampleNode 4 "done" .completeTurn none]
    [(0, 1), (0, 2), (1, 3), (2, 3), (3, 4)]

/-- The runtime executor of a node of the sample graphs. -/
def sampleExecutorId : NodeKind → String
  | .parallelBranch => "runtime.parallel"
  | .joinResults => "runtime.join"
  | .completeTurn => "runtime.turn-completion"
  | _ => "runtime.conditional"

/-- The executor selection of a node of the sample graphs. -/
def sampleResolution (node : ExecutableNode) : SessionNodeExecutorResolution where
  nodeId := node.id
  nodeKind := node.kind.serialized
  executorId := sampleExecutorId node.kind
  executorVersion := "1.0.0"
  source := .runtime
  boundary := .runtimeLogic
  requiredCapabilities := []
  resolvedCapabilities := []
  runtimeApiRequirement := "1"
  executorDeclarationHash := zeroHash
  adapterConfigurationReference := zeroHash

/-- The budgets of the sample. -/
def sampleBudgets : SessionStyleBudgets := ⟨10, 100, 1000, 1000, 1000⟩

/-- A stand-in for what is persisted and serialized of a graph's style, which keeps works apart. -/
abbrev plainStyle (graph : ExecutableGraph) : StyleSerde where
  executionPlan _ := ⟨zeroHash, graph.nodes.map sampleResolution⟩
  budgets _ := sampleBudgets
  executionPlanHash _ := some zeroHash
  bindingToVec _ := some []
  planToVec _ := some []
  nodeToVec _ := some []
  configurationToVec _ := some []
  workToVec work := some (work.attempt.toUInt8 :: work.loopIteration.toUInt8 :: work.step.toUInt8 ::
    utf8Bytes (work.nodeId ++ work.runId ++ String.join work.branchPath).toList)
  regionToVec _ member _ := some (utf8Bytes member.branchId.toList)
  receiptToVec _ _ := []
  compilesTo _ other := other.nodes.map (·.id) == graph.nodes.map (·.id)
  parseJson _ := some (.object [])
  canonicalJson _ := some "\x7b\x7d"
  canonicalValue _ _ := .error .serialization
  parseHash _ := none

/-- The stand-in for the graph that completes turns. -/
abbrev turnStyle : StyleSerde := plainStyle turnGraph

/-- The stand-in for the graph that fans out. -/
abbrev fanStyle : StyleSerde := plainStyle fanGraph

/-- The contract of a run of a sample graph. -/
def sampleContract (graph : ExecutableGraph) (runId : String) : StyleExecutionContract where
  styleBindingHash := zeroHash
  executionPlanHash := zeroHash
  registryHash := zeroHash
  nodeExecutors := graph.nodes.map sampleResolution
  initialNodeId := graph.entryNodeId
  initialVariablesJson := "\x7b\x7d"
  invocationOptionsJson := none
  initialBudgets := sampleBudgets
  runId := runId

/-- The identity of the run of a turn of the sample session. -/
def sampleTurnRun (turn : Nat) : String :=
  "style-turn:session:" ++ toString turn ++ ":" ++ zeroHash.toHex

/-- A style event of the sample session. -/
def styleEvent (sequence : Sequence) (event : StyleEvent) : StyleSessionEvent :=
  sessionEvent sequence event.eventType (.part event) []

/-- The first style event of the sample session, which runs a graph. -/
def styleInitialization (graph : ExecutableGraph) : StyleSessionEvent :=
  styleEvent 2 (.root (.initialized ⟨graph, none, some (sampleContract graph "style-run:session")⟩))

/-- The entry of a node. -/
def styleEntry (sequence : Sequence) (nodeId : String) (step : Nat) : StyleSessionEvent :=
  styleEvent sequence (.root (.nodeEntered ⟨nodeId, 1, 0, step⟩))

/-- The completion of a node, whose effects have evidence. -/
def styleCompletion (sequence : Sequence) (nodeId : String) (step : Nat) (resultReference : Option String) :
    StyleSessionEvent :=
  styleEvent sequence (.root (.nodeCompleted ⟨nodeId, 1, 0, step, resultReference, none⟩ true))

/-- The start of a turn of a sample graph. -/
def styleTurn (graph : ExecutableGraph) (sequence : Sequence) (turn : Nat) : StyleSessionEvent :=
  styleEvent sequence (.root (.turnInitialized ⟨none, sampleContract graph (sampleTurnRun turn)⟩))

/-- A session whose first turn is completed. -/
def completedTurn : List StyleSessionEvent :=
  [sessionCreation, styleInitialization turnGraph, styleEntry 3 "done" 1,
    styleCompletion 4 "done" 1 (some "result-1")]

/-- The same session, whose second turn is started. -/
def startedTurn : List StyleSessionEvent := completedTurn ++ [styleTurn turnGraph 5 2]

/-- The same session, whose third turn is started before the second one has entered a node. -/
def idleTurn : List StyleSessionEvent := startedTurn ++ [styleTurn turnGraph 6 3]

/-- A session whose first turn fails for good. -/
def failedTurn : List StyleSessionEvent :=
  [sessionCreation, styleInitialization turnGraph, styleEntry 3 "done" 1,
    styleEvent 4 (.root (.nodeFailed ⟨"done", 1, 0, 1, "stopped", none, some "stopped"⟩))]

end AgentMod
