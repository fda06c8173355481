import AgentMod.Expression.Syntax
import AgentMod.Primitives.Collections

/-! Graph definitions as they are parsed from source, and the compiler's bounds on them. -/

namespace AgentMod

/-- Current human-editable graph format version. -/
def graphFormatVersion : Nat := 1

/-- Bounds applied while parsing and compiling an untrusted graph. -/
structure CompilerLimits where
  maxSourceBytes : Nat
  maxNodes : Nat
  maxEdges : Nat
  maxVariables : Nat
  maxConfigurationItems : Nat
  maxConfigurationBytes : Nat
  maxValueDepth : Nat
  maxParallelism : Nat
  maxNameBytes : Nat
  maxRetryLimit : Nat
  maxLoopIterations : Nat
  maxSteps : Nat
  maxTokens : Nat
  maxCostMicros : Nat
  maxDurationMs : Nat
  allowLegacyUnconfiguredArtifactPersistence : Bool
  expression : ExpressionLimits

/-- The limits used unless a caller chooses others. -/
def CompilerLimits.default : CompilerLimits where
  maxSourceBytes := 1024 * 1024
  maxNodes := 10000
  maxEdges := 50000
  maxVariables := 10000
  maxConfigurationItems := 1024
  maxConfigurationBytes := 256 * 1024
  maxValueDepth := 32
  maxParallelism := 256
  maxNameBytes := 256
  maxRetryLimit := 32
  maxLoopIterations := 10000
  maxSteps := 10000000
  maxTokens := 10000000000
  maxCostMicros := 1000000000000
  maxDurationMs := 365 * 24 * 60 * 60 * 1000
  allowLegacyUnconfiguredArtifactPersistence := false
  expression := .default

/-- Inputs that bind compiled graph cache entries to runtime compatibility. -/
structure GraphCacheInputs where
  pluginSetHash : ContentHash
  runtimeApiVersion : String
  capabilitySet : StringSet

/-- Hard execution budgets declared by a graph. -/
structure GraphBudget where
  maxSteps : Nat
  maxTokens : Nat
  maxCostMicros : Nat
  maxDurationMs : Nat
  deriving DecidableEq

/-- Graph-level implementation declarations. -/
structure GraphDeclarations where
  capabilities : StringSet
  tools : StringSet
  providers : StringSet
  events : StringSet
  plugins : StringSet
  deriving DecidableEq

/-- Recursive, bounded canonical variable type. -/
inductive VariableValueType where
  | boolean
  | integer
  | decimal
  | string
  | enum (values : StringSet)
  | list (itemType : VariableValueType) (maxItems : Nat)
  | map (valueType : VariableValueType) (maxEntries : Nat)
  | sessionId
  | childId
  | taskId
  | artifactReference
  | secretReference
  | toolResultReference
  | approvalResult
  | nodeResultReference
  | timestamp
  | duration
  deriving DecidableEq

/-- Canonical variable lifetime. -/
inductive VariableScope where
  | node
  | branch
  | run
  | session
  deriving DecidableEq

/-- Canonical variable assignment policy. -/
inductive VariableMutability where
  | immutable
  | mutable
  deriving DecidableEq

/-- Deterministic shared-write merge operation. -/
inductive VariableMergePolicy where
  | append
  | union
  | deepMerge
  | firstBranch
  deriving DecidableEq, Repr

/-- Information-flow classification for variables and messages. -/
inductive SecurityClassification where
  | public_
  | internal
  | confidential
  | secretReference
  deriving DecidableEq

/-- Canonical graph variable declaration. -/
structure VariableDeclaration where
  name : String
  valueType : VariableValueType
  scope : VariableScope
  /-- The producing node, or the reserved `runtime` producer. -/
  producer : String
  mergeContributors : StringSet
  consumers : StringSet
  mutability : VariableMutability
  mergePolicy : Option VariableMergePolicy
  maxSizeBytes : Nat
  securityClassification : SecurityClassification
  deriving DecidableEq

/-- Generic graph node kinds. -/
inductive NodeKind where
  | contextTransform
  | modelCall
  | toolExecutionGate
  | userApproval
  | spawnChildAgent
  | sendChildAgentMessage
  | waitForAgents
  | joinResults
  | review
  | loop
  | conditionalBranch
  | parallelBranch
  | delay
  | schedule
  | emitEvent
  | persistArtifact
  | completeTurn
  | completeSession
  | fail
  deriving DecidableEq, Repr

/-- The kinds at which a run ends. -/
def NodeKind.isTerminal : NodeKind → Bool
  | .completeTurn | .completeSession | .fail => true
  | _ => false

/-- The capability that a kind requires without declaring it. -/
def NodeKind.impliedCapability : NodeKind → Option String
  | .contextTransform => some "context"
  | .modelCall | .review => some "model"
  | .toolExecutionGate => some "tools"
  | .userApproval => some "approval"
  | .spawnChildAgent | .sendChildAgentMessage | .waitForAgents | .joinResults => some "agents"
  | .delay | .schedule => some "scheduling"
  | .emitEvent => some "events"
  | .persistArtifact => some "artifacts"
  | .loop | .conditionalBranch | .parallelBranch | .completeTurn | .completeSession | .fail => none

/-- Context projection semantics declared by a graph. -/
inductive ContextTransformStrategy where
  | preserveHistory
  | fresh
  deriving DecidableEq

/-- Provider-projection handling performed by the complete-turn executor. -/
inductive CompleteTurnCleanup where
  | preserveProjection
  | discardProjection
  deriving DecidableEq

/-- Bounded node value source. -/
inductive NodeValueSource where
  | static (value : Json)
  | variable_ (name : String)

/-- Bounded approval-summary source. -/
inductive NodeTextSource where
  | static (value : String)
  | variable_ (name : String)
  deriving DecidableEq

/-- Explicit integration policy retained by a branch workspace. -/
inductive ChildWorkspaceMergePolicy where
  | manualReview
  | reviewedFastForward
  | reviewedThreeWay
  deriving DecidableEq

/-- Workspace isolation retained in an immutable child-spawn node. -/
inductive ChildWorkspaceConfiguration where
  | sharedReadOnly
  | sharedSerializedWrites (serializationKey : String)
  | independentGitWorktree
  | temporaryCopy
  | isolatedCopy
  | branchWorkspace (mergePolicy : ChildWorkspaceMergePolicy)
  | explicitCustomWorkspace (path : NodeTextSource)
  deriving DecidableEq

/-- Source of the exact child set consumed by a wait node. -/
inductive ChildSetSource where
  | exact (childIds : StringSet)
  | variable_ (name : String)
  deriving DecidableEq

/-- Parent cancellation behavior while waiting for children. -/
inductive ChildWaitCancellation where
  | cascade
  | detach
  | wait
  deriving DecidableEq

/-- Bounded schema for one reviewer result. -/
structure ReviewResultSchema where
  maximumFindings : Nat
  maximumFindingBytes : Nat
  maximumRejections : Nat
  requireArtifactEvidence : Bool
  deriving DecidableEq

/-- Exact graph destinations for reviewer routing. -/
structure ReviewRoutes where
  approved : String
  revision : String
  failure : String
  deriving DecidableEq

/-- Bounded artifact content source. -/
inductive ArtifactContentSource where
  | staticJson (value : Json)
  | staticText (value : String)
  | variable_ (name : String)
  | providerResultText (referenceVariable : String)
  | nodeResultProjection (referenceVariable : String)

/-- Artifact security handling. -/
inductive ArtifactSecurityClassification where
  | standard
  | private_
  deriving DecidableEq

/-- Artifact retention selection. -/
inductive ArtifactRetentionPolicy where
  | permanent
  | session
  deriving DecidableEq

/-- Child identity source for a message node. -/
inductive ChildSelector where
  | exact (childId : String)
  | variable_ (name : String)
  deriving DecidableEq

/-- Message behavior after cancellation starts. -/
inductive ChildMessageCancellation where
  | reject
  | deliverIfRunning
  deriving DecidableEq

/-- Join member failure behavior. -/
inductive JoinFailurePolicy where
  | failFast
  | waitRequired
  | minimumSuccess
  deriving DecidableEq

/-- Deterministic join output order. -/
inductive JoinOrderingPolicy where
  | memberId
  | completionSequence
  deriving DecidableEq

/-- Join result projection. -/
inductive JoinResultProjection where
  | inline_
  | nodeReferences
  | artifactReferences
  deriving DecidableEq

/-- Artifact collection at a join. -/
inductive JoinArtifactCollection where
  | none
  | declared
  | all
  deriving DecidableEq

/-- Parallel readiness policy. -/
inductive ParallelJoinPolicy where
  | all
  | minimumSuccess
  deriving DecidableEq

/-- Explicit shared-resource serialization. -/
inductive ParallelSerializationPolicy where
  | stableBranchOrder
  deriving DecidableEq

/-- Durable delay resolution. -/
inductive DelayResolution where
  | duration (durationMs : Nat)
  | wakeTimestamp (timestamp : String)
  deriving DecidableEq

/-- Durable delay cancellation policy. -/
inductive DelayCancellation where
  | cancelContinuation
  | suppressEffects
  deriving DecidableEq

/-- Scheduler trigger type. -/
inductive ScheduleTrigger where
  | at (timestamp : String)
  | interval (intervalMs : Nat) (startTimestamp : Option String)
  | runtimeEvent (eventType : String)
  | processOutput (processReference pattern : String)
  deriving DecidableEq

/-- Schedule cancellation behavior. -/
inductive ScheduleCancellation where
  | cancelTrigger
  | cancelWaitOnly
  deriving DecidableEq

/-- Runtime-owned provider request with canonical bounded outputs. -/
structure ModelRequest where
  dispositionOutput : String
  resultOutput : String
  providerOptions : StringMap String
  jsonOutputs : StringMap String
  inputs : StringMap NodeValueSource

/-- Execution of the tool batch that a model result proposes. -/
structure ProviderToolBatchExecution where
  requestReferenceVariable : String
  dispositionVariable : String
  maximumCalls : Nat
  allowedTools : StringSet
  deriving DecidableEq

/-- Runtime-owned child-session creation proposal. -/
structure SpawnChildAgent where
  taskInput : NodeValueSource
  taskIdPrefix : String
  childStyle : String
  toolGroups : StringSet
  maximumChildren : Nat
  maximumDepth : Nat
  tokenBudget : Nat
  contextBudgetTokens : Nat
  costBudgetMicros : Nat
  workspace : ChildWorkspaceConfiguration
  artifactReferences : StringSet
  artifactReferenceVariables : StringSet
  securityClassification : SecurityClassification
  approvalRequired : Bool

/-- Replay-derived wait over one exact child set. -/
structure WaitForAgents where
  children : ChildSetSource
  maximumChildren : Nat
  minimumSuccesses : Nat
  timeoutMs : Nat
  cancellation : ChildWaitCancellation
  deriving DecidableEq

/-- Runtime-validated structured reviewer result. -/
structure Review where
  input : NodeValueSource
  artifactReferences : StringSet
  artifactReferenceVariables : StringSet
  resultSchema : ReviewResultSchema
  routes : ReviewRoutes
  maximumRevisions : Nat

/-- Runtime-owned immutable artifact persistence. -/
structure PersistArtifact where
  content : ArtifactContentSource
  mimeType : String
  security : ArtifactSecurityClassification
  retention : ArtifactRetentionPolicy

/-- Canonical child-session message. -/
structure SendChildAgentMessage where
  child : ChildSelector
  payload : Json
  artifactReferences : StringSet
  securityClassification : SecurityClassification
  maxMessageBytes : Nat
  cancellation : ChildMessageCancellation

/-- Replayable child or branch result join. -/
structure JoinResults where
  required : StringSet
  optional : StringSet
  minimumSuccesses : Nat
  failurePolicy : JoinFailurePolicy
  orderingPolicy : JoinOrderingPolicy
  timeoutMs : Nat
  cancellationPropagates : Bool
  resultProjection : JoinResultProjection
  artifactCollection : JoinArtifactCollection
  deriving DecidableEq

/-- Bounded parallel graph fan-out. -/
structure ParallelBranch where
  maxParallelism : Nat
  maxQueueDepth : Nat
  joinTarget : String
  joinPolicy : ParallelJoinPolicy
  variableMergePolicies : StringMap VariableMergePolicy
  serializationPolicy : Option ParallelSerializationPolicy
  deriving DecidableEq

/-- Constrained user-space event. -/
structure EmitEvent where
  eventType : String
  payload : Json
  artifactReferences : StringSet
  metadata : StringMap String

/-- Plugin-host-backed implementation of an existing serialized node kind. -/
structure Plugin where
  pluginId : String
  executorId : String
  executorVersion : String
  nodeKind : NodeKind
  inputSchema : String
  outputSchema : String
  configurationReference : String
  input : Json

/-- Kind-specific, bounded node configuration. -/
inductive NodeConfiguration where
  | contextTransform (strategy : ContextTransformStrategy)
  | modelRequest (request : ModelRequest)
  | toolExecution (arguments : NodeValueSource)
  | providerToolBatchExecution (batch : ProviderToolBatchExecution)
  | userApproval (actionSummary : NodeTextSource)
  | spawnChildAgent (spawn : SpawnChildAgent)
  | waitForAgents (wait : WaitForAgents)
  | review (review : Review)
  | persistArtifact (artifact : PersistArtifact)
  | sendChildAgentMessage (message : SendChildAgentMessage)
  | joinResults (join : JoinResults)
  | parallelBranch (parallel : ParallelBranch)
  | delay (resolution : DelayResolution) (expirationTimestamp : Option String)
      (cancellation : DelayCancellation)
  | schedule (trigger : ScheduleTrigger) (waitForTrigger : Bool)
      (cancellation : ScheduleCancellation)
  | emitEvent (event : EmitEvent)
  | completeTurn (resultReferenceVariable : String) (cleanup : CompleteTurnCleanup)
  | plugin (plugin : Plugin)

/-- Generic graph node. -/
structure NodeDefinition where
  id : String
  kind : NodeKind
  configuration : Option NodeConfiguration
  condition : Option String
  tool : Option String
  provider : Option String
  requiredCapabilities : StringSet
  readScopes : StringSet
  writeScopes : StringSet
  readVariables : StringSet
  writeVariables : StringSet
  retryLimit : Nat
  maxIterations : Option Nat

/-- Directed graph transition. -/
structure EdgeDefinition where
  source : String
  target : String
  condition : Option String
  label : Option String
  deriving DecidableEq

/-- Parsed versioned graph source. -/
structure GraphDefinition where
  formatVersion : Nat
  entry : String
  budget : GraphBudget
  declarations : GraphDeclarations
  «variables» : List VariableDeclaration
  nodes : List NodeDefinition
  edges : List EdgeDefinition

end AgentMod
