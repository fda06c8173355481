import AgentMod.Graph.Definition

/-! The node executors that an execution plan selects. -/

namespace AgentMod

/-- Immutable source identity of one selected node executor. -/
inductive SessionNodeExecutorSource where
  | runtime
  | plugin (pluginId : String)
  deriving DecidableEq

/-- Immutable process boundary of one selected node executor. -/
inductive SessionNodeExecutorBoundary where
  | runtimeLogic
  | pluginHost
  deriving DecidableEq

/-- Exact immutable node-executor selection for one compiled graph node. -/
structure SessionNodeExecutorResolution where
  nodeId : String
  nodeKind : String
  executorId : String
  executorVersion : String
  source : SessionNodeExecutorSource
  boundary : SessionNodeExecutorBoundary
  requiredCapabilities : List String
  resolvedCapabilities : List String
  runtimeApiRequirement : String
  executorDeclarationHash : ContentHash
  adapterConfigurationReference : ContentHash
  deriving DecidableEq

/-- The executors that the runtime implements. -/
inductive NativeExecutorKey where
  | contextConstruction
  | modelRequest
  | toolGate
  | userApproval
  | childSpawn
  | childMessage
  | childWait
  | join
  | review
  | loop
  | conditional
  | parallel
  | delay
  | schedule
  | eventEmission
  | artifactPersistence
  | turnCompletion
  | sessionCompletion
  | structuredFailure
  deriving DecidableEq

/-- The kinds whose executors have a second version. -/
def NativeExecutorKey.hasSecondVersion : NativeExecutorKey → Bool
  | .toolGate | .modelRequest | .childSpawn | .review | .artifactPersistence => true
  | _ => false

/-- The serialized name of a node kind. -/
def NodeKind.serialized : NodeKind → String
  | .contextTransform => "context_transform"
  | .modelCall => "model_call"
  | .toolExecutionGate => "tool_execution_gate"
  | .userApproval => "user_approval"
  | .spawnChildAgent => "spawn_child_agent"
  | .sendChildAgentMessage => "send_child_agent_message"
  | .waitForAgents => "wait_for_agents"
  | .joinResults => "join_results"
  | .review => "review"
  | .loop => "loop"
  | .conditionalBranch => "conditional_branch"
  | .parallelBranch => "parallel_branch"
  | .delay => "delay"
  | .schedule => "schedule"
  | .emitEvent => "emit_event"
  | .persistArtifact => "persist_artifact"
  | .completeTurn => "complete_turn"
  | .completeSession => "complete_session"
  | .fail => "fail"

namespace SessionNodeExecutorResolution

/-- The runtime executor that a resolution names, whatever its version. -/
def namedExecutorKey (resolution : SessionNodeExecutorResolution) : Option NativeExecutorKey :=
  match resolution.executorId, resolution.nodeKind with
  | "runtime.context-construction", "context_transform" => some .contextConstruction
  | "runtime.model-request", "model_call" => some .modelRequest
  | "runtime.tool-gate", "tool_execution_gate" => some .toolGate
  | "runtime.user-approval", "user_approval" => some .userApproval
  | "runtime.child-spawn", "spawn_child_agent" => some .childSpawn
  | "runtime.child-message", "send_child_agent_message" => some .childMessage
  | "runtime.child-wait", "wait_for_agents" => some .childWait
  | "runtime.join", "join_results" => some .join
  | "runtime.review", "review" => some .review
  | "runtime.loop", "loop" => some .loop
  | "runtime.conditional", "conditional_branch" => some .conditional
  | "runtime.parallel", "parallel_branch" => some .parallel
  | "runtime.delay", "delay" => some .delay
  | "runtime.schedule", "schedule" => some .schedule
  | "runtime.event-emission", "emit_event" => some .eventEmission
  | "runtime.artifact-persistence", "persist_artifact" => some .artifactPersistence
  | "runtime.turn-completion", "complete_turn" => some .turnCompletion
  | "runtime.session-completion", "complete_session" => some .sessionCompletion
  | "runtime.structured-failure", "fail" => some .structuredFailure
  | _, _ => none

/-- The runtime executor of a resolution, none for plugins and unsupported identities. -/
def nativeExecutorKey (resolution : SessionNodeExecutorResolution) : Option NativeExecutorKey :=
  if resolution.source ≠ .runtime ∨ resolution.boundary ≠ .runtimeLogic then none
  else resolution.namedExecutorKey.filter fun key =>
    resolution.executorVersion == "1.0.0" ||
      (resolution.executorVersion == "1.1.0" && key.hasSecondVersion)

/-- The typed effect class of a branch node's executor, none where it has no effect. -/
def parallelBranchEffectKind (resolution : SessionNodeExecutorResolution) : Option String :=
  match resolution.source, resolution.boundary with
  | .plugin _, .pluginHost => some "plugin"
  | _, _ =>
    match resolution.nativeExecutorKey with
    | some .eventEmission => some "emit_event"
    | some .delay => some "delay"
    | some .schedule => some "schedule"
    | some .toolGate => some "tool"
    | some .userApproval => some "approval"
    | some .childSpawn | some .childMessage | some .childWait => some "child"
    | some .contextConstruction | some .modelRequest | some .artifactPersistence | some .review =>
      some "other_runtime_effect"
    | _ => none

end SessionNodeExecutorResolution

end AgentMod
