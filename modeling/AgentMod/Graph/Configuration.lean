import AgentMod.Graph.Values

/-! Validation of the kind-specific configuration of a node. -/

namespace AgentMod

section References

variable (node : NodeDefinition) (definition : GraphDefinition)

/-- Rejects a node's configuration with the given detail. -/
def NodeDefinition.invalidConfiguration (node : NodeDefinition) (detail : String) : GraphError :=
  .invalidNodeConfiguration node.id detail

/-- The declaration that a configuration names. -/
def configurationVariable (variableName : String) : Compiled VariableDeclaration :=
  okOr (definition.variables.find? fun declaration => declaration.name == variableName)
    (.error (node.invalidConfiguration
      ("configuration variable \x60" ++ variableName ++ "\x60 is not declared")))

/-- The closed enumeration that a model request reports its disposition with. -/
def isModelDispositionType : VariableValueType → Bool
  | .enum values =>
    values.size == 2 && values.contains "response_complete" && values.contains "tool_requests"
  | _ => false

/-- The types of values that effects produce without a runtime-owned slot. -/
def ordinaryEffectOutputType : VariableValueType → Bool
  | .boolean | .integer | .decimal | .string | .enum _ => true
  | .list itemType _ => ordinaryEffectOutputType itemType
  | .map valueType _ => ordinaryEffectOutputType valueType
  | _ => false

/-- The types whose values refer to something outside the graph environment. -/
def isReferenceType : VariableValueType → Bool
  | .sessionId | .childId | .taskId | .artifactReference | .secretReference
  | .toolResultReference | .nodeResultReference => true
  | _ => false

/-- Validates that a configuration writes a variable that the node alone produces. -/
def validateConfigurationOutputVariableType (variableName expected : String)
    (compatible : VariableValueType → Bool) (maxNameBytes : Nat) : Compiled Unit := do
  validateName "configuration output variable" variableName maxNameBytes
  let declaration ← configurationVariable node definition variableName
  rejectIf (!node.writeVariables.contains variableName ∨ declaration.producer ≠ node.id)
    (node.invalidConfiguration ("configuration output variable \x60" ++ variableName ++
      "\x60 is not an exact declared node write"))
  rejectIf (!compatible declaration.valueType)
    (.configurationVariableTypeMismatch node.id variableName expected)

/-- Validates that a configuration reads a variable that the node may consume. -/
def validateConfigurationVariable (variableName : String)
    (requireString requireInlineArtifactValue : Bool) (maxNameBytes : Nat) : Compiled Unit := do
  validateName "configuration variable" variableName maxNameBytes
  let declaration ← configurationVariable node definition variableName
  rejectIf (!node.readVariables.contains variableName ∨ !declaration.consumers.contains node.id ∨
      (requireString ∧ declaration.valueType ≠ .string) ∨
      (requireInlineArtifactValue ∧ isReferenceType declaration.valueType))
    (node.invalidConfiguration ("configuration variable \x60" ++ variableName ++
      "\x60 is not an authorized compatible read"))

/-- Validates that a configuration reads a variable of a compatible type. -/
def validateConfigurationVariableType (variableName expected : String)
    (compatible : VariableValueType → Bool) (maxNameBytes : Nat) : Compiled Unit := do
  validateConfigurationVariable node definition variableName false false maxNameBytes
  let declaration ← configurationVariable node definition variableName
  rejectIf (!compatible declaration.valueType)
    (.configurationVariableTypeMismatch node.id variableName expected)

/-- Validates a variable that holds a node result. -/
def validateNodeResultVariable (variableName : String) (maxNameBytes : Nat) : Compiled Unit :=
  validateConfigurationVariableType node definition variableName "node_result_reference"
    (· == .nodeResultReference) maxNameBytes

/-- Validates that the configuration belongs to the node's kind. -/
def requireConfigurationKind (expected : NodeKind) : Compiled Unit :=
  rejectIf (node.kind ≠ expected) (.configurationKindMismatch node.id expected node.kind)

end References

/-- Validates the number of entries of a configured collection. -/
def validateCollectionLen (node field : String) (actual : Nat) (limits : CompilerLimits) :
    Compiled Unit :=
  rejectIf (actual > limits.maxConfigurationItems)
    (.configurationCollectionTooLarge node field actual limits.maxConfigurationItems)

/-- Validates a bounded text without control characters. -/
def validateBoundedConfigurationString (node : NodeDefinition) (field value : String)
    (maximum : Nat) : Compiled Unit :=
  rejectIf (value.utf8ByteSize > maximum ∨ value.toList.any isControl)
    (node.invalidConfiguration (field ++ " must be bounded and contain no control characters"))

/-- Validates a bounded JSON pointer. -/
def validateJsonPointer (node : NodeDefinition) (variableName pointer : String) (maximum : Nat) :
    Compiled Unit :=
  rejectIf (!isJsonPointer pointer maximum)
    (node.invalidConfiguration ("model JSON output \x60" ++ variableName ++
      "\x60 must use a bounded RFC 6901 JSON Pointer"))

section Kinds

variable [GraphCodec] (node : NodeDefinition) (nodes : StringMap NodeDefinition)
  (definition : GraphDefinition) (limits : CompilerLimits)

/-- Validates a value that is embedded or read from a variable. -/
def validateValueSource (field : String) : NodeValueSource → Compiled Unit
  | .static value => validateJsonValue node.id field value limits
  | .variable_ variableName =>
    validateConfigurationVariable node definition variableName false false limits.maxNameBytes

/-- Validates a model request. -/
def validateModelRequest (request : ModelRequest) : Compiled Unit := do
  requireConfigurationKind node .modelCall
  let jsonOutputs := Std.ExtTreeSet.ofList request.jsonOutputs.keys
  let exactOutputs := (jsonOutputs.insert request.dispositionOutput).insert request.resultOutput
  let outputsAreDistinct := request.dispositionOutput ≠ request.resultOutput ∧
    !jsonOutputs.contains request.dispositionOutput ∧
    !(jsonOutputs.insert request.dispositionOutput).contains request.resultOutput
  rejectIf (¬ outputsAreDistinct ∨ node.writeVariables ≠ exactOutputs)
    (node.invalidConfiguration "model request disposition, result, and JSON outputs must have distinct names and exactly match declared node writes")
  validateCollectionLen node.id "model provider options" request.providerOptions.size limits
  validateCollectionLen node.id "model JSON outputs" request.jsonOutputs.size limits
  validateCollectionLen node.id "model inputs" request.inputs.size limits
  forM request.providerOptions.toList fun (name, value) => do
    validateName "model provider option" name limits.maxNameBytes
    validateBoundedConfigurationString node "model provider option value" value limits.maxNameBytes
  validateConfigurationOutputVariableType node definition request.dispositionOutput
    "enum(response_complete, tool_requests)" isModelDispositionType limits.maxNameBytes
  validateConfigurationOutputVariableType node definition request.resultOutput
    "node_result_reference" (· == .nodeResultReference) limits.maxNameBytes
  forM request.jsonOutputs.toList fun (variableName, pointer) => do
    validateConfigurationOutputVariableType node definition variableName
      "ordinary bounded canonical value" ordinaryEffectOutputType limits.maxNameBytes
    validateJsonPointer node variableName pointer limits.maxNameBytes
  forM request.inputs.toList fun (name, source) => do
    validateName "model input" name limits.maxNameBytes
    validateValueSource node definition limits "model input" source

/-- Validates the execution of a proposed tool batch. -/
def validateProviderToolBatch (batch : ProviderToolBatchExecution) : Compiled Unit := do
  requireConfigurationKind node .toolExecutionGate
  validateNodeResultVariable node definition batch.requestReferenceVariable limits.maxNameBytes
  validateConfigurationVariableType node definition batch.dispositionVariable
    "enum(response_complete, tool_requests)" isModelDispositionType limits.maxNameBytes
  rejectIf (batch.maximumCalls = 0 ∨ batch.maximumCalls > limits.maxConfigurationItems)
    (node.invalidConfiguration "provider tool-batch maximum_calls must be nonzero and bounded")
  rejectIf (batch.allowedTools.isEmpty ∨ batch.allowedTools.size > limits.maxConfigurationItems)
    (node.invalidConfiguration "provider tool-batch allowed_tools must be nonempty and bounded")
  forM batch.allowedTools.toList fun tool => do
    validateName "provider tool-batch allowed tool" tool limits.maxNameBytes
    rejectIf (!definition.declarations.tools.contains tool) (.undeclaredTool node.id tool)
  match node.writeVariables.toList with
  | [] => reject (node.invalidConfiguration
      "provider tool-batch execution must declare one terminal result output")
  | resultOutput :: others =>
    rejectIf (others ≠ []) (node.invalidConfiguration
      "provider tool-batch execution must declare exactly one terminal result output")
    validateConfigurationOutputVariableType node definition resultOutput "node_result_reference"
      (· == .nodeResultReference) limits.maxNameBytes

/-- Validates an approval gate. -/
def validateUserApproval (actionSummary : NodeTextSource) : Compiled Unit := do
  requireConfigurationKind node .userApproval
  match actionSummary with
  | .static value =>
    rejectIf (isBlank value ∨ value.utf8ByteSize > limits.maxConfigurationBytes)
      (node.invalidConfiguration "approval summary must be non-empty and bounded")
  | .variable_ variableName =>
    validateConfigurationVariable node definition variableName true false limits.maxNameBytes

/-- The types that a child task input may have. -/
def isChildTaskType : VariableValueType → Bool
  | .string | .secretReference => true
  | .list itemType _ => itemType == .string
  | .map valueType _ => valueType == .string
  | _ => false

/-- Validates where the tasks of spawned children come from. -/
def validateChildTaskSource (source : NodeValueSource) (maximumChildren : Nat)
    (securityClassification : SecurityClassification) : Compiled Unit := do
  match source with
  | .static value =>
    validateJsonValue node.id "child task input" value limits
    rejectIf (securityClassification = .secretReference ∨
        !validStaticChildTasks value maximumChildren ∨ containsForbiddenInlineSecret value)
      (node.invalidConfiguration "static child tasks must be bounded strings/list/map values without inline secret fields")
  | .variable_ variableName =>
    validateConfigurationVariableType node definition variableName
      "string, list<string>, map<string>, or secret_reference" isChildTaskType limits.maxNameBytes
    let declaration ← configurationVariable node definition variableName
    rejectIf ((securityClassification == .secretReference) ≠
        (declaration.valueType == .secretReference))
      (node.invalidConfiguration
        "child task secret-reference classification must match its variable type")

/-- Validates the workspace of spawned children. -/
def validateChildWorkspace : ChildWorkspaceConfiguration → Compiled Unit
  | .sharedSerializedWrites serializationKey =>
    validateName "child workspace serialization key" serializationKey limits.maxNameBytes
  | .explicitCustomWorkspace (.static value) =>
    rejectIf (isBlank value ∨ value.utf8ByteSize > limits.maxConfigurationBytes)
      (node.invalidConfiguration "custom child workspace must be non-empty and bounded")
  | .explicitCustomWorkspace (.variable_ variableName) =>
    validateConfigurationVariableType node definition variableName "string" (· == .string)
      limits.maxNameBytes
  | .sharedReadOnly | .independentGitWorktree | .temporaryCopy | .isolatedCopy
  | .branchWorkspace _ => return ()

/-- Validates the names of artifacts and the variables that refer to artifacts. -/
def validateArtifacts (kind : String) (artifactReferences artifactReferenceVariables : StringSet) :
    Compiled Unit := do
  forM artifactReferences.toList fun artifact => validateName kind artifact limits.maxNameBytes
  forM artifactReferenceVariables.toList fun variableName =>
    validateConfigurationVariableType node definition variableName "artifact_reference"
      (· == .artifactReference) limits.maxNameBytes

/-- Validates the creation of child sessions. -/
def validateSpawnChildAgent (spawn : SpawnChildAgent) : Compiled Unit := do
  requireConfigurationKind node .spawnChildAgent
  validateName "child task id prefix" spawn.taskIdPrefix limits.maxNameBytes
  rejectIf (isBlank spawn.childStyle ∨ spawn.childStyle.utf8ByteSize > limits.maxNameBytes ∨
      spawn.childStyle.toList.any isControl)
    (node.invalidConfiguration "child style selector must be non-empty and bounded")
  validateCollectionLen node.id "child tool groups" spawn.toolGroups.size limits
  validateCollectionLen node.id "child artifact references" spawn.artifactReferences.size limits
  validateCollectionLen node.id "child artifact reference variables"
    spawn.artifactReferenceVariables.size limits
  rejectIf (spawn.maximumChildren = 0 ∨ spawn.maximumChildren > limits.maxConfigurationItems ∨
      spawn.maximumDepth = 0 ∨ spawn.maximumDepth > 64 ∨
      spawn.tokenBudget = 0 ∨ spawn.tokenBudget > definition.budget.maxTokens ∨
      spawn.contextBudgetTokens = 0 ∨ spawn.contextBudgetTokens > spawn.tokenBudget ∨
      spawn.costBudgetMicros = 0 ∨ spawn.costBudgetMicros > definition.budget.maxCostMicros ∨
      !spawn.approvalRequired)
    (node.invalidConfiguration "child count, depth, token/context/cost budgets, and mandatory approval must be positive and within graph bounds")
  forM spawn.toolGroups.toList fun toolGroup =>
    validateName "child tool group" toolGroup limits.maxNameBytes
  validateArtifacts node definition limits "child artifact reference" spawn.artifactReferences
    spawn.artifactReferenceVariables
  validateChildTaskSource node definition limits spawn.taskInput spawn.maximumChildren
    spawn.securityClassification
  validateChildWorkspace node definition limits spawn.workspace

/-- The types that refer to one child or to several. -/
def isChildSetType : VariableValueType → Bool
  | .childId => true
  | .list itemType _ => itemType == .childId
  | _ => false

/-- Validates a wait for children. -/
def validateWaitForAgents (wait : WaitForAgents) : Compiled Unit := do
  requireConfigurationKind node .waitForAgents
  rejectIf (wait.maximumChildren = 0 ∨ wait.maximumChildren > limits.maxConfigurationItems ∨
      wait.minimumSuccesses = 0 ∨ wait.minimumSuccesses > wait.maximumChildren ∨
      wait.timeoutMs = 0 ∨ wait.timeoutMs > definition.budget.maxDurationMs)
    (node.invalidConfiguration "child wait count, success threshold, and timeout must be positive and within graph bounds")
  match wait.children with
  | .exact childIds =>
    validateCollectionLen node.id "wait child ids" childIds.size limits
    rejectIf (childIds.isEmpty ∨ childIds.size > wait.maximumChildren ∨
        wait.minimumSuccesses > childIds.size)
      (node.invalidConfiguration "exact child set must be non-empty and satisfy configured bounds")
    forM childIds.toList fun childId => validateName "wait child id" childId limits.maxNameBytes
  | .variable_ variableName =>
    validateConfigurationVariableType node definition variableName "child_id or list<child_id>"
      isChildSetType limits.maxNameBytes

/-- Validates the input of a review. -/
def validateReviewInput (input : NodeValueSource) : Compiled Unit := do
  match input with
  | .static value =>
    validateJsonValue node.id "review input" value limits
    rejectIf (containsForbiddenInlineSecret value)
      (node.invalidConfiguration "review input cannot contain inline secret fields")
  | .variable_ variableName =>
    validateConfigurationVariable node definition variableName false false limits.maxNameBytes

/-- Validates the destinations of a review. -/
def validateReviewRoutes (routes : ReviewRoutes) : Compiled Unit := do
  forM [routes.approved, routes.revision, routes.failure] fun destination => do
    validateName "review route" destination limits.maxNameBytes
    rejectIf (!(definition.edges.any fun edge => edge.source == node.id && edge.target == destination)
        ∨ !nodes.contains destination)
      (node.invalidConfiguration
        ("review route \x60" ++ destination ++ "\x60 is not an exact outgoing edge"))
  rejectIf (routes.approved = routes.revision ∨ routes.approved = routes.failure ∨
      routes.revision = routes.failure ∨
      !(nodes[routes.failure]?.any fun failure => failure.kind == .fail))
    (node.invalidConfiguration "review routes must be distinct and failure must target a fail node")

/-- Validates a review. -/
def validateReview (review : Review) : Compiled Unit := do
  requireConfigurationKind node .review
  validateCollectionLen node.id "review artifact references" review.artifactReferences.size limits
  validateCollectionLen node.id "review artifact reference variables"
    review.artifactReferenceVariables.size limits
  let schema := review.resultSchema
  rejectIf (schema.maximumFindings = 0 ∨ schema.maximumFindings > limits.maxConfigurationItems ∨
      schema.maximumFindingBytes = 0 ∨ schema.maximumFindingBytes > limits.maxConfigurationBytes ∨
      schema.maximumRejections = 0 ∨ schema.maximumRejections > limits.maxConfigurationItems ∨
      review.maximumRevisions = 0 ∨ review.maximumRevisions > limits.maxLoopIterations)
    (node.invalidConfiguration "review schema and revision limits must be positive and compiler-bounded")
  validateArtifacts node definition limits "review artifact reference" review.artifactReferences
    review.artifactReferenceVariables
  validateReviewInput node definition limits review.input
  validateReviewRoutes node nodes definition limits review.routes

/-- Validates the persistence of an artifact. -/
def validatePersistArtifact (artifact : PersistArtifact) : Compiled Unit := do
  requireConfigurationKind node .persistArtifact
  rejectIf (!validMimeType artifact.mimeType limits.maxNameBytes)
    (node.invalidConfiguration "artifact mime_type must be a bounded ASCII type/subtype")
  match artifact.content with
  | .staticJson value => validateJsonValue node.id "artifact content" value limits
  | .staticText value =>
    rejectIf (value.utf8ByteSize > limits.maxConfigurationBytes)
      (node.invalidConfiguration "artifact text exceeds the compiler bound")
  | .variable_ variableName =>
    validateConfigurationVariable node definition variableName false true limits.maxNameBytes
  | .providerResultText referenceVariable | .nodeResultProjection referenceVariable =>
    validateNodeResultVariable node definition referenceVariable limits.maxNameBytes

/-- Validates a message to a child session. -/
def validateSendChildAgentMessage (message : SendChildAgentMessage) : Compiled Unit := do
  requireConfigurationKind node .sendChildAgentMessage
  validateCollectionLen node.id "artifact_references" message.artifactReferences.size limits
  validateJsonValue node.id "payload" message.payload limits
  let payloadBytes ← canonicalJsonBytes message.payload
  rejectIf (message.maxMessageBytes = 0 ∨ message.maxMessageBytes > limits.maxConfigurationBytes ∨
      payloadBytes.length > message.maxMessageBytes)
    (node.invalidConfiguration
      "max_message_bytes must bound the canonical payload and compiler maximum")
  match message.child with
  | .exact childId => validateName "child id" childId limits.maxNameBytes
  | .variable_ variableName => validateName "child variable" variableName limits.maxNameBytes
  forM message.artifactReferences.toList fun artifact =>
    validateName "artifact reference" artifact limits.maxNameBytes

/-- Validates a join. -/
def validateJoinResults (join : JoinResults) : Compiled Unit := do
  requireConfigurationKind node .joinResults
  validateCollectionLen node.id "required" join.required.size limits
  validateCollectionLen node.id "optional" join.optional.size limits
  validateCollectionLen node.id "members" (join.required.size + join.optional.size) limits
  rejectIf (!(join.required ∩ join.optional).isEmpty ∨ join.minimumSuccesses = 0 ∨
      join.minimumSuccesses > join.required.size + join.optional.size ∨ join.timeoutMs = 0)
    (node.invalidConfiguration "join members must be disjoint, minimum_successes must be feasible, and timeout_ms must be positive")
  forM (join.required.toList ++ join.optional.toList) fun member =>
    validateName "join member" member limits.maxNameBytes

/-- Validates a parallel fan-out on its own. -/
def validateParallelBranch (parallel : ParallelBranch) : Compiled Unit := do
  requireConfigurationKind node .parallelBranch
  rejectIf (parallel.maxParallelism = 0 ∨ parallel.maxParallelism > limits.maxParallelism ∨
      parallel.maxQueueDepth = 0 ∨ parallel.maxQueueDepth > limits.maxConfigurationItems)
    (node.invalidConfiguration
      "parallelism and queue depth must be positive and within compiler bounds")
  validateName "parallel join target" parallel.joinTarget limits.maxNameBytes
  rejectIf (!(nodes[parallel.joinTarget]?.any fun target => target.kind == .joinResults))
    (.invalidParallelJoinTarget node.id parallel.joinTarget)
  validateCollectionLen node.id "variable_merge_policies" parallel.variableMergePolicies.size limits
  forM parallel.variableMergePolicies.keys fun variableName =>
    validateName "parallel merge variable" variableName limits.maxNameBytes

/-- Validates a delay. -/
def validateDelay (resolution : DelayResolution) (expirationTimestamp : Option String) :
    Compiled Unit := do
  requireConfigurationKind node .delay
  match resolution with
  | .duration durationMs =>
    rejectIf (durationMs = 0) (node.invalidConfiguration "delay duration_ms must be positive")
  | .wakeTimestamp timestamp => validateTimestamp "delay wake timestamp" timestamp limits
  forM expirationTimestamp.toList fun timestamp =>
    validateTimestamp "delay expiration timestamp" timestamp limits

/-- Validates a schedule. -/
def validateSchedule (trigger : ScheduleTrigger) : Compiled Unit := do
  requireConfigurationKind node .schedule
  match trigger with
  | .at timestamp => validateTimestamp "schedule timestamp" timestamp limits
  | .interval intervalMs startTimestamp =>
    rejectIf (intervalMs = 0) (node.invalidConfiguration "schedule interval_ms must be positive")
    forM startTimestamp.toList fun timestamp =>
      validateTimestamp "schedule start timestamp" timestamp limits
  | .runtimeEvent eventType =>
    validateName "runtime event" eventType limits.maxNameBytes
    rejectIf (!definition.declarations.events.contains eventType)
      (.undeclaredEventType node.id eventType)
  | .processOutput processReference pattern =>
    validateName "process reference" processReference limits.maxNameBytes
    rejectIf (pattern.isEmpty ∨ pattern.utf8ByteSize > limits.maxNameBytes)
      (node.invalidConfiguration "process output pattern must be non-empty and bounded")

/-- Validates the emission of an event. -/
def validateEmitEvent (event : EmitEvent) : Compiled Unit := do
  requireConfigurationKind node .emitEvent
  validateName "event type" event.eventType limits.maxNameBytes
  rejectIf (!definition.declarations.events.contains event.eventType)
    (.undeclaredEventType node.id event.eventType)
  validateJsonValue node.id "event payload" event.payload limits
  validateCollectionLen node.id "event artifact references" event.artifactReferences.size limits
  validateCollectionLen node.id "event metadata" event.metadata.size limits
  forM event.artifactReferences.toList fun artifact =>
    validateName "artifact reference" artifact limits.maxNameBytes
  forM event.metadata.toList fun (key, value) => do
    validateName "event metadata key" key limits.maxNameBytes
    rejectIf (value.utf8ByteSize > limits.maxNameBytes)
      (node.invalidConfiguration "event metadata value exceeds the bounded size")

/-- Validates the completion of a turn. -/
def validateCompleteTurn (resultReferenceVariable : String) : Compiled Unit := do
  requireConfigurationKind node .completeTurn
  rejectIf (!node.writeVariables.isEmpty)
    (node.invalidConfiguration "complete-turn configuration cannot declare node writes")
  validateNodeResultVariable node definition resultReferenceVariable limits.maxNameBytes

/-- Validates a plugin-backed node. -/
def validatePlugin (plugin : Plugin) : Compiled Unit := do
  rejectIf (plugin.nodeKind ≠ node.kind)
    (.invalidPluginNodeKind node.id plugin.nodeKind node.kind)
  rejectIf (!definition.declarations.plugins.contains plugin.pluginId)
    (.undeclaredPlugin node.id plugin.pluginId)
  forM [("plugin id", plugin.pluginId), ("plugin executor id", plugin.executorId),
      ("plugin executor version", plugin.executorVersion),
      ("plugin input schema", plugin.inputSchema), ("plugin output schema", plugin.outputSchema),
      ("plugin configuration reference", plugin.configurationReference)] fun (kind, value) =>
    validateName kind value limits.maxNameBytes
  validateJsonValue node.id "plugin input" plugin.input limits

/-- Validates a configuration by its kind. -/
def validateConfigurationByKind : NodeConfiguration → Compiled Unit
  | .contextTransform _ => requireConfigurationKind node .contextTransform
  | .modelRequest request => validateModelRequest node definition limits request
  | .toolExecution arguments => do
    requireConfigurationKind node .toolExecutionGate
    validateValueSource node definition limits "tool arguments" arguments
  | .providerToolBatchExecution batch => validateProviderToolBatch node definition limits batch
  | .userApproval actionSummary => validateUserApproval node definition limits actionSummary
  | .spawnChildAgent spawn => validateSpawnChildAgent node definition limits spawn
  | .waitForAgents wait => validateWaitForAgents node definition limits wait
  | .review review => validateReview node nodes definition limits review
  | .persistArtifact artifact => validatePersistArtifact node definition limits artifact
  | .sendChildAgentMessage message => validateSendChildAgentMessage node limits message
  | .joinResults join => validateJoinResults node limits join
  | .parallelBranch parallel => validateParallelBranch node nodes limits parallel
  | .delay resolution expirationTimestamp _ =>
    validateDelay node limits resolution expirationTimestamp
  | .schedule trigger _ _ => validateSchedule node definition limits trigger
  | .emitEvent event => validateEmitEvent node definition limits event
  | .completeTurn resultReferenceVariable _ =>
    validateCompleteTurn node definition limits resultReferenceVariable
  | .plugin plugin => validatePlugin node definition limits plugin

/-- Validates a node's configuration, which only some kinds may lack. -/
def validateNodeConfiguration : Compiled Unit := do
  match node.configuration with
  | none =>
    rejectIf (node.kind = .persistArtifact ∧ !limits.allowLegacyUnconfiguredArtifactPersistence)
      (node.invalidConfiguration
        "artifact persistence requires explicit bounded content configuration")
  | some configuration =>
    match GraphCodec.configurationToVec configuration with
    | .error detail => reject (node.invalidConfiguration detail)
    | .ok serialized =>
      rejectIf (serialized.length > limits.maxConfigurationBytes)
        (.nodeConfigurationTooLarge node.id serialized.length limits.maxConfigurationBytes)
      validateConfigurationByKind node nodes definition limits configuration

end Kinds

/-- The configuration of a node, with the defaults of the kinds that have one. -/
def effectiveNodeConfiguration (node : NodeDefinition) : Option NodeConfiguration :=
  node.configuration.or <|
    match node.kind with
    | .contextTransform => some (.contextTransform .preserveHistory)
    | .toolExecutionGate => some (.toolExecution (.static (.object [])))
    | .userApproval => some (.userApproval (.static "graph requested user approval"))
    | _ => none

/-- Canonicalizes the JSON value that a configuration embeds. -/
def canonicalizeNodeConfiguration : NodeConfiguration → NodeConfiguration
  | .toolExecution (.static value) => .toolExecution (.static (canonicalizeJson value))
  | .spawnChildAgent spawn =>
    match spawn.taskInput with
    | .static value =>
      .spawnChildAgent { spawn with taskInput := .static (canonicalizeJson value) }
    | .variable_ _ => .spawnChildAgent spawn
  | .review review =>
    match review.input with
    | .static value => .review { review with input := .static (canonicalizeJson value) }
    | .variable_ _ => .review review
  | .persistArtifact artifact =>
    match artifact.content with
    | .staticJson value =>
      .persistArtifact { artifact with content := .staticJson (canonicalizeJson value) }
    | _ => .persistArtifact artifact
  | .sendChildAgentMessage message =>
    .sendChildAgentMessage { message with payload := canonicalizeJson message.payload }
  | .emitEvent event => .emitEvent { event with payload := canonicalizeJson event.payload }
  | .plugin plugin => .plugin { plugin with input := canonicalizeJson plugin.input }
  | configuration => configuration

end AgentMod
