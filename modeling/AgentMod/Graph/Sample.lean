import AgentMod.Graph.Compile

/-! A small graph with a bounded loop, a parallel region and shared variables, and its codec. -/

namespace AgentMod

/-- A node without conditions, selections and declared accesses. -/
def NodeDefinition.plain (id : String) (kind : NodeKind) : NodeDefinition where
  id
  kind
  configuration := none
  condition := none
  tool := none
  provider := none
  requiredCapabilities := ∅
  readScopes := ∅
  writeScopes := ∅
  readVariables := ∅
  writeVariables := ∅
  retryLimit := 0
  maxIterations := none

/-- A node with a configuration and nothing else. -/
def NodeDefinition.configured (id : String) (kind : NodeKind) (configuration : NodeConfiguration) :
    NodeDefinition :=
  { plain id kind with configuration := some configuration }

/-- A parallel configuration that waits for all branches at the join. -/
def fanOutTo (joinTarget : String) (policies : List (String × VariableMergePolicy)) :
    ParallelBranch where
  maxParallelism := 2
  maxQueueDepth := 2
  joinTarget
  joinPolicy := .all
  variableMergePolicies := .ofList policies
  serializationPolicy := none

/-- A join configuration of two required members. -/
def joinOf (first second : String) : NodeConfiguration :=
  .joinResults {
    required := .ofList [first, second]
    optional := ∅
    minimumSuccesses := 2
    failurePolicy := .waitRequired
    orderingPolicy := .memberId
    timeoutMs := 1000
    cancellationPropagates := true
    resultProjection := .nodeReferences
    artifactCollection := .none }

/-- A codec that reads the given sources, and serializes the given fan-outs and joins. -/
abbrev codecOf (sources : List (String × GraphDefinition)) (fanOuts : List (String × String))
    (joins : List (List String × String)) : GraphCodec where
  definitionFromToml text := okOr (sources.lookup text) "unknown source"
  configurationToVec configuration :=
    let text := match configuration with
      | .parallelBranch configuration => fanOuts.lookup configuration.joinTarget
      | .joinResults configuration => joins.lookup configuration.required.toList
      | _ => none
    okOr (text.map fun text => text.toByteArray.data.toList) "unknown configuration"
  jsonToVec _ := .error "unknown value"

/-- JSON readers for sources without literals. -/
abbrev noLiterals : SerdeJson where
  stringFromStr _ := none
  numberFromStr _ := none

/-- A stand-in hash, which keeps the first bytes of its input. -/
abbrev prefixHash : Hashing where
  digest bytes := ⟨.ofFn fun index => bytes.getD index 0⟩

/-- The cache inputs of a runtime that can run agents. -/
def agentInputs : GraphCacheInputs where
  pluginSetHash := ⟨.replicate 32 0⟩
  runtimeApiVersion := "1.0"
  capabilitySet := .ofList ["agents"]

/-- The configuration of the sample graph's parallel node. -/
def sampleFanOut : ParallelBranch :=
  fanOutTo "join" [("findings", .append)]

/-- The parallel node of the sample graph. -/
def sampleFan : NodeDefinition :=
  .configured "fan" .parallelBranch (.parallelBranch sampleFanOut)

/-- The loop of the sample graph. -/
def sampleLoop : NodeDefinition :=
  { NodeDefinition.plain "again" .loop with
    readVariables := .ofList ["ready"]
    maxIterations := some 2 }

/-- The left branch of the sample graph. -/
def sampleLeft : NodeDefinition :=
  { NodeDefinition.plain "left" .conditionalBranch with
    readVariables := .ofList ["note"]
    writeVariables := .ofList ["findings", "note"] }

/-- The right branch of the sample graph. -/
def sampleRight : NodeDefinition :=
  { NodeDefinition.plain "right" .conditionalBranch with writeVariables := .ofList ["findings"] }

/-- The edge on which the sample graph leaves its loop. -/
def sampleExit : EdgeDefinition where
  source := "again"
  target := "done"
  condition := some "ready"
  label := none

/-- A loop around two parallel branches that append to one list. -/
def sampleGraph : GraphDefinition where
  formatVersion := 1
  entry := "start"
  budget := { maxSteps := 100, maxTokens := 1, maxCostMicros := 1, maxDurationMs := 1000 }
  declarations :=
    { capabilities := .ofList ["agents"], tools := ∅, providers := ∅, events := ∅, plugins := ∅ }
  «variables» := [
    { name := "ready"
      valueType := .boolean
      scope := .run
      producer := "runtime"
      mergeContributors := ∅
      consumers := .ofList ["again"]
      mutability := .immutable
      mergePolicy := none
      maxSizeBytes := 64
      securityClassification := .internal },
    { name := "findings"
      valueType := .list .string 8
      scope := .run
      producer := "left"
      mergeContributors := .ofList ["right"]
      consumers := .ofList ["done"]
      mutability := .mutable
      mergePolicy := some .append
      maxSizeBytes := 1024
      securityClassification := .internal },
    { name := "note"
      valueType := .string
      scope := .branch
      producer := "left"
      mergeContributors := ∅
      consumers := .ofList ["left"]
      mutability := .mutable
      mergePolicy := none
      maxSizeBytes := 64
      securityClassification := .internal }]
  nodes := [
    .plain "start" .conditionalBranch,
    sampleLoop,
    sampleFan,
    sampleLeft,
    sampleRight,
    .configured "join" .joinResults (joinOf "left-result" "right-result"),
    { NodeDefinition.plain "done" .completeTurn with readVariables := .ofList ["findings"] }]
  edges := [
    { source := "start", target := "again", condition := none, label := none },
    { source := "again", target := "fan", condition := none, label := none },
    sampleExit,
    { source := "fan", target := "left", condition := none, label := some "left-result" },
    { source := "fan", target := "right", condition := none, label := some "right-result" },
    { source := "left", target := "join", condition := none, label := none },
    { source := "right", target := "join", condition := none, label := none },
    { source := "join", target := "again", condition := none, label := none }]

/-- The serialized fan-outs of the sample graph, by their joins. -/
def sampleFanOuts : List (String × String) := [("join",
  "\x7b\"type\":\"parallel_branch\",\"max_parallelism\":2,\"max_queue_depth\":2," ++
    "\"join_target\":\"join\",\"join_policy\":\"all\"," ++
    "\"variable_merge_policies\":\x7b\"findings\":\"append\"\x7d," ++
    "\"serialization_policy\":null\x7d")]

/-- The serialized joins of the sample graph, by their members. -/
def sampleJoins : List (List String × String) := [(["left-result", "right-result"],
  "\x7b\"type\":\"join_results\",\"required\":[\"left-result\",\"right-result\"]," ++
    "\"optional\":[],\"minimum_successes\":2,\"failure_policy\":\"wait_required\"," ++
    "\"ordering_policy\":\"member_id\",\"timeout_ms\":1000," ++
    "\"cancellation_propagates\":true,\"result_projection\":\"node_references\"," ++
    "\"artifact_collection\":\"none\"\x7d")]

/-- The text of some lines. -/
def tomlText : List String → String
  | [] => ""
  | line :: rest => line ++ "\n" ++ tomlText rest

/-- The keys of the sample graph's source that stand in front of its tables. -/
def sampleKeys : List String :=
  ["format_version = 1", "entry = 'start'"]

/-- The tables of the sample graph's budget and declarations. -/
def sampleTables : List (List String) := [
  ["[budget]", "max_steps = 100", "max_tokens = 1", "max_cost_micros = 1",
   "max_duration_ms = 1000"],
  ["[declarations]", "capabilities = ['agents']"]]

/-- The tables of the sample graph's variables. -/
def sampleVariableTables : List (List String) := [
  ["[[variables]]", "name = 'ready'", "type.kind = 'boolean'", "scope = 'run'",
   "producer = 'runtime'", "consumers = ['again']", "mutability = 'immutable'",
   "max_size_bytes = 64", "security_classification = 'internal'"],
  ["[[variables]]", "name = 'findings'", "type.kind = 'list'", "type.item_type.kind = 'string'",
   "type.max_items = 8", "scope = 'run'", "producer = 'left'", "merge_contributors = ['right']",
   "consumers = ['done']", "mutability = 'mutable'", "merge_policy = 'append'",
   "max_size_bytes = 1024", "security_classification = 'internal'"],
  ["[[variables]]", "name = 'note'", "type.kind = 'string'", "scope = 'branch'",
   "producer = 'left'", "consumers = ['left']", "mutability = 'mutable'", "max_size_bytes = 64",
   "security_classification = 'internal'"]]

/-- The tables of the sample graph's nodes. -/
def sampleNodeTables : List (List String) := [
  ["[[nodes]]", "id = 'start'", "kind = 'conditional_branch'"],
  ["[[nodes]]", "id = 'again'", "kind = 'loop'", "read_variables = ['ready']",
   "max_iterations = 2"],
  ["[[nodes]]", "id = 'fan'", "kind = 'parallel_branch'",
   "configuration.type = 'parallel_branch'", "configuration.max_parallelism = 2",
   "configuration.max_queue_depth = 2", "configuration.join_target = 'join'",
   "configuration.join_policy = 'all'",
   "configuration.variable_merge_policies.findings = 'append'"],
  ["[[nodes]]", "id = 'left'", "kind = 'conditional_branch'", "read_variables = ['note']",
   "write_variables = ['findings', 'note']"],
  ["[[nodes]]", "id = 'right'", "kind = 'conditional_branch'", "write_variables = ['findings']"],
  ["[[nodes]]", "id = 'join'", "kind = 'join_results'", "configuration.type = 'join_results'",
   "configuration.required = ['left-result', 'right-result']",
   "configuration.minimum_successes = 2", "configuration.failure_policy = 'wait_required'",
   "configuration.ordering_policy = 'member_id'", "configuration.timeout_ms = 1000",
   "configuration.cancellation_propagates = true",
   "configuration.result_projection = 'node_references'",
   "configuration.artifact_collection = 'none'"],
  ["[[nodes]]", "id = 'done'", "kind = 'complete_turn'", "read_variables = ['findings']"]]

/-- The tables of the sample graph's edges. -/
def sampleEdgeTables : List (List String) := [
  ["[[edges]]", "from = 'start'", "to = 'again'"],
  ["[[edges]]", "from = 'again'", "to = 'fan'"],
  ["[[edges]]", "from = 'again'", "to = 'done'", "condition = 'ready'"],
  ["[[edges]]", "from = 'fan'", "to = 'left'", "label = 'left-result'"],
  ["[[edges]]", "from = 'fan'", "to = 'right'", "label = 'right-result'"],
  ["[[edges]]", "from = 'left'", "to = 'join'"],
  ["[[edges]]", "from = 'right'", "to = 'join'"],
  ["[[edges]]", "from = 'join'", "to = 'again'"]]

/-- The source of the sample graph. -/
def sampleSource : String :=
  tomlText (sampleKeys ++ (sampleTables ++ sampleVariableTables ++ sampleNodeTables ++
    sampleEdgeTables).flatten)

/-- The sample graph with its declarations in the opposite order. -/
def reorderedGraph : GraphDefinition :=
  { sampleGraph with
    «variables» := sampleGraph.variables.reverse
    nodes := sampleGraph.nodes.reverse
    edges := sampleGraph.edges.reverse }

/-- The source of the sample graph in the opposite order. -/
def reorderedSource : String :=
  tomlText (sampleKeys.reverse ++ (sampleTables ++ sampleVariableTables.reverse ++
    sampleNodeTables.reverse ++ sampleEdgeTables.reverse).flatten)

/-- A codec for the sample graph in both orders. -/
abbrev sampleCodec : GraphCodec :=
  codecOf [(sampleSource, sampleGraph), (reorderedSource, reorderedGraph)] sampleFanOuts sampleJoins

/-- The configuration of the parallel node that runs start behind. -/
def insideFanOut : ParallelBranch :=
  fanOutTo "join" []

/-- The parallel node that runs start behind. -/
def insideFan : NodeDefinition :=
  .configured "fan" .parallelBranch (.parallelBranch insideFanOut)

/-- A loop around two parallel branches, which runs enter inside one of them. -/
def insideGraph : GraphDefinition where
  formatVersion := 1
  entry := "left"
  budget := sampleGraph.budget
  declarations := sampleGraph.declarations
  «variables» := []
  nodes := [
    .plain "left" .conditionalBranch,
    .plain "right" .conditionalBranch,
    .configured "join" .joinResults (joinOf "left-result" "right-result"),
    { NodeDefinition.plain "again" .loop with maxIterations := some 2 },
    insideFan,
    .plain "done" .completeTurn]
  edges := [
    { source := "left", target := "join", condition := none, label := none },
    { source := "right", target := "join", condition := none, label := none },
    { source := "join", target := "again", condition := none, label := none },
    { source := "again", target := "fan", condition := none, label := none },
    { source := "again", target := "done", condition := none, label := none },
    { source := "fan", target := "left", condition := none, label := some "left-result" },
    { source := "fan", target := "right", condition := none, label := some "right-result" }]

/-- The serialized fan-outs of that graph, by their joins. -/
def insideFanOuts : List (String × String) := [("join",
  "\x7b\"type\":\"parallel_branch\",\"max_parallelism\":2,\"max_queue_depth\":2," ++
    "\"join_target\":\"join\",\"join_policy\":\"all\"," ++
    "\"variable_merge_policies\":\x7b\x7d,\"serialization_policy\":null\x7d")]

/-- The tables of that graph's nodes and edges. -/
def insideTables : List (List String) := [
  ["[[nodes]]", "id = 'left'", "kind = 'conditional_branch'"],
  ["[[nodes]]", "id = 'right'", "kind = 'conditional_branch'"],
  ["[[nodes]]", "id = 'join'", "kind = 'join_results'", "configuration.type = 'join_results'",
   "configuration.required = ['left-result', 'right-result']",
   "configuration.minimum_successes = 2", "configuration.failure_policy = 'wait_required'",
   "configuration.ordering_policy = 'member_id'", "configuration.timeout_ms = 1000",
   "configuration.cancellation_propagates = true",
   "configuration.result_projection = 'node_references'",
   "configuration.artifact_collection = 'none'"],
  ["[[nodes]]", "id = 'again'", "kind = 'loop'", "max_iterations = 2"],
  ["[[nodes]]", "id = 'fan'", "kind = 'parallel_branch'",
   "configuration.type = 'parallel_branch'", "configuration.max_parallelism = 2",
   "configuration.max_queue_depth = 2", "configuration.join_target = 'join'",
   "configuration.join_policy = 'all'"],
  ["[[nodes]]", "id = 'done'", "kind = 'complete_turn'"],
  ["[[edges]]", "from = 'left'", "to = 'join'"],
  ["[[edges]]", "from = 'right'", "to = 'join'"],
  ["[[edges]]", "from = 'join'", "to = 'again'"],
  ["[[edges]]", "from = 'again'", "to = 'fan'"],
  ["[[edges]]", "from = 'again'", "to = 'done'"],
  ["[[edges]]", "from = 'fan'", "to = 'left'", "label = 'left-result'"],
  ["[[edges]]", "from = 'fan'", "to = 'right'", "label = 'right-result'"]]

/-- The source of that graph. -/
def insideSource : String :=
  tomlText (["format_version = 1", "entry = 'left'"] ++ (sampleTables ++ insideTables).flatten)

/-- A codec for that graph. -/
abbrev insideCodec : GraphCodec :=
  codecOf [(insideSource, insideGraph)] insideFanOuts sampleJoins

/-- The configurations of two parallel nodes in a row, by their joins. -/
def rowFanOut (joinTarget : String) : ParallelBranch :=
  fanOutTo joinTarget []

/-- One of two parallel nodes in a row. -/
def rowFan (id joinTarget : String) : NodeDefinition :=
  .configured id .parallelBranch (.parallelBranch (rowFanOut joinTarget))

/-- A variable of the first parallel node's branch that the second one's branch consumes. -/
def rowNote : VariableDeclaration where
  name := "note"
  valueType := .string
  scope := .branch
  producer := "a"
  mergeContributors := ∅
  consumers := .ofList ["c"]
  mutability := .mutable
  mergePolicy := none
  maxSizeBytes := 64
  securityClassification := .internal

/-- Two parallel nodes in a row, the second of whose joins has the first name. -/
def rowGraph : GraphDefinition where
  formatVersion := 1
  entry := "first"
  budget := sampleGraph.budget
  declarations := sampleGraph.declarations
  «variables» := [rowNote]
  nodes := [
    rowFan "first" "z_join",
    { NodeDefinition.plain "a" .conditionalBranch with writeVariables := .ofList ["note"] },
    .plain "b" .conditionalBranch,
    .configured "z_join" .joinResults (joinOf "left-result" "right-result"),
    rowFan "second" "a_join",
    { NodeDefinition.plain "c" .conditionalBranch with readVariables := .ofList ["note"] },
    .plain "d" .conditionalBranch,
    .configured "a_join" .joinResults (joinOf "left-result" "right-result"),
    .plain "done" .completeTurn]
  edges := [
    { source := "first", target := "a", condition := none, label := some "left-result" },
    { source := "first", target := "b", condition := none, label := some "right-result" },
    { source := "a", target := "z_join", condition := none, label := none },
    { source := "b", target := "z_join", condition := none, label := none },
    { source := "z_join", target := "second", condition := none, label := none },
    { source := "second", target := "c", condition := none, label := some "left-result" },
    { source := "second", target := "d", condition := none, label := some "right-result" },
    { source := "c", target := "a_join", condition := none, label := none },
    { source := "d", target := "a_join", condition := none, label := none },
    { source := "a_join", target := "done", condition := none, label := none }]

/-- The serialized fan-outs of that graph, by their joins. -/
def rowFanOuts : List (String × String) := ["z_join", "a_join"].map fun join => (join,
  "\x7b\"type\":\"parallel_branch\",\"max_parallelism\":2,\"max_queue_depth\":2," ++
    "\"join_target\":\"" ++ join ++ "\",\"join_policy\":\"all\"," ++
    "\"variable_merge_policies\":\x7b\x7d,\"serialization_policy\":null\x7d")

/-- The table of one of that graph's parallel nodes. -/
def rowFanTable (id join : String) : List String :=
  ["[[nodes]]", "id = '" ++ id ++ "'", "kind = 'parallel_branch'",
   "configuration.type = 'parallel_branch'", "configuration.max_parallelism = 2",
   "configuration.max_queue_depth = 2", "configuration.join_target = '" ++ join ++ "'",
   "configuration.join_policy = 'all'"]

/-- The table of one of that graph's joins. -/
def rowJoinTable (id : String) : List String :=
  ["[[nodes]]", "id = '" ++ id ++ "'", "kind = 'join_results'",
   "configuration.type = 'join_results'",
   "configuration.required = ['left-result', 'right-result']",
   "configuration.minimum_successes = 2", "configuration.failure_policy = 'wait_required'",
   "configuration.ordering_policy = 'member_id'", "configuration.timeout_ms = 1000",
   "configuration.cancellation_propagates = true",
   "configuration.result_projection = 'node_references'",
   "configuration.artifact_collection = 'none'"]

/-- The tables of that graph's variables, nodes and edges. -/
def rowTables : List (List String) := [
  ["[[variables]]", "name = 'note'", "type.kind = 'string'", "scope = 'branch'",
   "producer = 'a'", "consumers = ['c']", "mutability = 'mutable'", "max_size_bytes = 64",
   "security_classification = 'internal'"],
  rowFanTable "first" "z_join",
  ["[[nodes]]", "id = 'a'", "kind = 'conditional_branch'", "write_variables = ['note']"],
  ["[[nodes]]", "id = 'b'", "kind = 'conditional_branch'"],
  rowJoinTable "z_join",
  rowFanTable "second" "a_join",
  ["[[nodes]]", "id = 'c'", "kind = 'conditional_branch'", "read_variables = ['note']"],
  ["[[nodes]]", "id = 'd'", "kind = 'conditional_branch'"],
  rowJoinTable "a_join",
  ["[[nodes]]", "id = 'done'", "kind = 'complete_turn'"],
  ["[[edges]]", "from = 'first'", "to = 'a'", "label = 'left-result'"],
  ["[[edges]]", "from = 'first'", "to = 'b'", "label = 'right-result'"],
  ["[[edges]]", "from = 'a'", "to = 'z_join'"],
  ["[[edges]]", "from = 'b'", "to = 'z_join'"],
  ["[[edges]]", "from = 'z_join'", "to = 'second'"],
  ["[[edges]]", "from = 'second'", "to = 'c'", "label = 'left-result'"],
  ["[[edges]]", "from = 'second'", "to = 'd'", "label = 'right-result'"],
  ["[[edges]]", "from = 'c'", "to = 'a_join'"],
  ["[[edges]]", "from = 'd'", "to = 'a_join'"],
  ["[[edges]]", "from = 'a_join'", "to = 'done'"]]

/-- The source of that graph. -/
def rowSource : String :=
  tomlText (["format_version = 1", "entry = 'first'"] ++ (sampleTables ++ rowTables).flatten)

/-- A codec for that graph. -/
abbrev rowCodec : GraphCodec :=
  codecOf [(rowSource, rowGraph)] rowFanOuts sampleJoins

end AgentMod
