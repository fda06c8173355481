import AgentMod.Session.Context
import AgentMod.Session.Style

/-! Context boundaries: how they are opened, go through their phases and are completed. -/

namespace AgentMod

/-- The binding of a model invocation to the work that it is for. -/
structure ModelInvocationBinding where
  work : NodeWorkIdentity
  executorNodeId : String

/-- Kinds of plugin context operations. -/
inductive PluginContextOperationKind where
  | memoryRetrieve
  | compaction
  deriving DecidableEq

/-- Immutable identity of one plugin context operation, whose digest is that of every field. -/
structure PluginContextOperationIdentity where
  kind : PluginContextOperationKind
  phase : ContextPhaseIdentity
  invocationDigest : ContentHash
  invocationId : String
  deriving DecidableEq

/-- Replay-owned lifecycle of one plugin context operation. -/
inductive PluginContextOperationState where
  | proposed
  | authorized
  | dispatched
  | completed
  | failed
  | ambiguous
  | applicationApproved
  | applied
  deriving DecidableEq

/-- Replay-owned record of one plugin context operation. -/
structure PluginContextOperationRecord where
  identity : PluginContextOperationIdentity
  state : PluginContextOperationState
  replacement : Option (List ConversationEntry)
  proposalHash : Option ContentHash
  replacementHash : Option ContentHash
  applicationHash : Option ContentHash
  lastSequence : Sequence
  appliedEventId : Option EventId

/-- Canonical application of the proposal of a plugin context operation. -/
structure PluginContextOperationAppliedEvent where
  identity : PluginContextOperationIdentity
  proposalHash : ContentHash
  replacement : List ConversationEntry
  replacementHash : ContentHash
  applicationHash : ContentHash
  provenance : ProjectionProvenance

/-- Durable authorization of a projection replacement, with the digest of the authorized action. -/
structure ContextProjectionReplacementApprovedEvent where
  identity : ContextPhaseIdentity
  replacementHash : ContentHash
  actionDigest : ContentHash

/-- Canonical completion of a context boundary. -/
structure ContextBoundaryCompletedEvent where
  identity : ContextBoundaryIdentity
  projectionHash : ContentHash
  estimatedTokens : Nat
  serializedBytes : Nat

/-- The identity of an artifact that is persisted for a context phase. -/
structure ContextArtifactIdentity where
  executionId : String
  proposalId : String
  nodeId : String
  branchPath : List String
  attempt : Nat
  loopIteration : Nat
  step : Nat
  contextPhase : ContextPhaseIdentity

/-- What other families of events keep that context boundaries are checked against. -/
structure ContextSurroundings where
  conversation : ConversationState
  artifactPersistences : StringMap ArtifactPersistenceRecord
  pluginContextTransforms : StringMap PluginContextTransformRecord
  pluginContextOperations : StringMap PluginContextOperationRecord
  genericModelInvocations : StringMap ModelInvocationBinding
  inputTokens : Nat
  outputTokens : Nat

/-- The style execution of a session with its context boundaries and what is around them. -/
structure ContextComposition where
  style : SessionStyleExecution
  contextBoundaries : List ContextBoundaryExecutionState
  tokensAtLastCompaction : Nat
  surroundings : ContextSurroundings

/-- The events that are about context boundaries, and those of other families. -/
inductive ContextEvent where
  | style (event : StyleEvent)
  | conversationEntryCommitted (entry : ConversationEntry)
  | contextProjectionReplaced (replaced : ContextProjectionReplacedEvent)
  | contextProjectionReplacementApproved (approved : ContextProjectionReplacementApprovedEvent)
  | contextBoundaryStarted (identity : ContextBoundaryIdentity)
  | contextPhaseStarted (identity : ContextPhaseIdentity)
  | contextPhaseCompleted (identity : ContextPhaseIdentity)
  | contextBoundaryCompleted (completed : ContextBoundaryCompletedEvent)
  | pluginContextOperationApplied (applied : PluginContextOperationAppliedEvent)
  | pluginPhaseAdvanced (eventType : String) (invalid : SessionReducerError) (phase : ContextPhaseIdentity)
    (left : ContextSurroundings)
  | artifactPhaseAdvanced (eventType : String) (identity : ContextArtifactIdentity) (left : ContextSurroundings)
  | summaryAdvanced (eventType : String) (left : ContextSurroundings)
  | other (eventType : String) (left : ContextSurroundings)

/-- The stable name of an event. -/
def ContextEvent.eventType : ContextEvent → String
  | style event => event.eventType
  | conversationEntryCommitted _ => "conversation.entry_committed"
  | contextProjectionReplaced _ => "context.projection_replaced"
  | contextProjectionReplacementApproved _ => "context.projection_replacement_approved"
  | contextBoundaryStarted _ => "context.boundary_started"
  | contextPhaseStarted _ => "context.phase_started"
  | contextPhaseCompleted _ => "context.phase_completed"
  | contextBoundaryCompleted _ => "context.boundary_completed"
  | pluginContextOperationApplied _ => "plugin.context_operation_applied"
  | pluginPhaseAdvanced eventType .. | artifactPhaseAdvanced eventType .. | summaryAdvanced eventType _
  | other eventType _ => eventType

/-- What context boundaries are measured, identified and authorized by. -/
class BoundaryText where
  /-- `serde_json::to_vec` of the provider entries of a projection, and of the one of an entry. -/
  projectionToVec : List ConversationEntry → Option (List UInt8)
  providerEntryToVec : ConversationEntry → Option (List UInt8)
  /-- `serde_json::to_vec` of a phase. -/
  phaseToVec : ContextPhaseIdentity → Option (List UInt8)
  /-- The digest of the action that replaces a projection, from `context_replacement_action_proposal`. -/
  replacementActionDigest : String → String → ContextPhaseIdentity → ContentHash → Option ContentHash

/-- What is measured of a projection. -/
structure ProjectionMeasure where
  estimatedTokens : Nat
  serializedBytes : Nat
  projectionHash : ContentHash

section Measures

variable [BoundaryText] [Hashing]

/-- `u64::checked_add`. -/
def checkedSum (left right : Nat) : Option Nat :=
  if left + right < 2 ^ 64 then some (left + right) else none

/-- The tokens behind another entry: three bytes for a token, and eight tokens around the entry. -/
def estimateTokens (tokens : Nat) (entry : ConversationEntry) : Option Nat := do
  let bytes ← BoundaryText.providerEntryToVec entry
  let rounded ← checkedSum bytes.length 2
  let behind ← checkedSum tokens (rounded / 3)
  checkedSum behind 8

/-- `measure_projection`. -/
def measureProjection (entries : List ConversationEntry) : Option ProjectionMeasure := do
  let bytes ← BoundaryText.projectionToVec entries
  let estimatedTokens ← entries.foldlM estimateTokens 0
  return ⟨estimatedTokens, bytes.length, Hashing.digest bytes⟩

end Measures

namespace ContextComposition

/-- The conversation with the records that replacements are checked against. -/
def conversationPart (part : ContextComposition) : ConversationPart where
  conversation := part.surroundings.conversation
  records := {
    styleExecution := part.style.styleExecution.map fun _ => ⟨part.contextBoundaries,
      part.surroundings.inputTokens, part.surroundings.outputTokens, part.tokensAtLastCompaction⟩
    artifactPersistences := part.surroundings.artifactPersistences
    pluginContextTransforms := part.surroundings.pluginContextTransforms }

/-- Puts back the conversation and its records. -/
def withConversationPart (part : ContextComposition) (conversation : ConversationPart) : ContextComposition where
  style := part.style
  contextBoundaries :=
    (conversation.records.styleExecution.map (·.contextBoundaries)).getD part.contextBoundaries
  tokensAtLastCompaction :=
    (conversation.records.styleExecution.map (·.tokensAtLastCompaction)).getD part.tokensAtLastCompaction
  surroundings := { part.surroundings with
    conversation := conversation.conversation
    artifactPersistences := conversation.records.artifactPersistences
    pluginContextTransforms := conversation.records.pluginContextTransforms }

/-- Changes the last boundary, if that is the given one. -/
def updateLast (part : ContextComposition) (boundary : ContextBoundaryIdentity) (invalid : SessionReducerError)
    (update : ContextBoundaryExecutionState → Reducing ContextBoundaryExecutionState) :
    Reducing ContextComposition := do
  refuseIf part.style.styleExecution.isNone .styleExecutionNotInitialized
  let last ← okOr (part.contextBoundaries.getLast?.filter (·.identity = boundary)) invalid
  let updated ← update last
  return { part with contextBoundaries := part.contextBoundaries.dropLast ++ [updated] }

end ContextComposition

/-- The next sequence of a boundary has to be that of the event. -/
def followsBoundary (boundary : ContextBoundaryExecutionState) (sequence : Sequence)
    (invalid : SessionReducerError) : Reducing Unit := do
  let next ← okOr (checkedNext boundary.lastSequence) .sequenceOverflow
  refuseIf (next ≠ sequence) invalid

/-- The names of the boundaries. -/
def boundaryNames : List String :=
  ["turn_start", "iteration_start", "context_node", "before_model_request", "before_turn_completion"]

/-- The origin is a turn of a user or the task of a child. -/
def ContextBoundaryOrigin.isTurn : ContextBoundaryOrigin → Bool
  | userTurn | childTask => true
  | toolContinuation | approvalContinuation => false

/-- Some node with the identity is of the kind. -/
def ExecutableGraph.hasNodeOfKind (graph : ExecutableGraph) (nodeId : String) (kind : NodeKind) : Bool :=
  graph.nodes.any fun node => node.id == nodeId && node.kind == kind

/-- The boundary that a model request follows: the last one, where it starts a turn or is a context node. -/
def requestPredecessor (boundaries : List ContextBoundaryExecutionState) : Option ContextBoundaryExecutionState :=
  boundaries.getLast?.filter fun previous => ["turn_start", "context_node"].contains previous.identity.boundary

/-- What lets a model request of a turn follow a boundary. -/
def checkRequestFollows (graph : ExecutableGraph) (previous : ContextBoundaryExecutionState)
    (identity : ContextBoundaryIdentity) : Reducing Unit :=
  let sameNode := previous.identity.nodeId == identity.nodeId
  let exactContextToModelEdge := graph.nodeKind previous.identity.nodeId == some .contextTransform &&
    graph.nodeKind identity.nodeId == some .modelCall &&
    graph.hasTransition previous.identity.nodeId identity.nodeId
  refuseIf (previous.completedAt.isNone ∨
    ¬ ["turn_start", "context_node"].contains previous.identity.boundary ∨
    previous.identity.origin ≠ identity.origin ∨ (!sameNode ∧ !exactContextToModelEdge) ∨
    previous.identity.runId ≠ identity.runId ∨ previous.identity.requestHash ≠ identity.requestHash)
    .invalidContextBoundaryTransition

/-- What lets a model request of a turn stand alone: its model invocation is bound to the active node. -/
def checkRequestAlone (graph : ExecutableGraph) (active : StyleNodeEnteredEvent)
    (invocations : StringMap ModelInvocationBinding) (identity : ContextBoundaryIdentity) : Reducing Unit := do
  let invocation ← okOr invocations[identity.runId]? .invalidContextBoundaryTransition
  refuseIf (graph.nodeKind active.nodeId ≠ some .modelCall ∨ invocation.work.nodeId ≠ active.nodeId ∨
    invocation.work.attempt ≠ active.attempt ∨ invocation.work.loopIteration ≠ active.loopIteration ∨
    invocation.work.step ≠ active.step ∨ invocation.work.branchPath ≠ [] ∨
    invocation.executorNodeId ≠ active.nodeId) .invalidContextBoundaryTransition

/-- Which boundaries may be started from which origin at the active node. -/
def checkBoundaryOrigin (part : ContextComposition) (graph : ExecutableGraph) (active : StyleNodeEnteredEvent)
    (identity : ContextBoundaryIdentity) : Reducing Unit :=
  let invalid := SessionReducerError.invalidContextBoundaryTransition
  match identity.boundary with
  | "turn_start" => refuseIf (!identity.origin.isTurn) invalid
  | "iteration_start" => refuseIf (!(identity.origin.isTurn && active.loopIteration > 0)) invalid
  | "context_node" =>
    refuseIf (!(identity.origin.isTurn && graph.nodeKind active.nodeId == some .contextTransform)) invalid
  | "before_model_request" =>
    if identity.origin.isTurn then
      match requestPredecessor part.contextBoundaries with
      | some previous => checkRequestFollows graph previous identity
      | none => checkRequestAlone graph active part.surroundings.genericModelInvocations identity
    else refuseIf (!graph.hasNodeOfKind active.nodeId .toolExecutionGate) invalid
  | "before_turn_completion" =>
    refuseIf (!(identity.origin.isTurn && graph.hasNodeOfKind active.nodeId .completeTurn)) invalid
  | _ => .error invalid

/-- `apply_context_boundary_started`. -/
def applyContextBoundaryStarted (part : ContextComposition) (identity : ContextBoundaryIdentity)
    (sequence : Sequence) : Reducing ContextComposition := do
  let invalid := SessionReducerError.invalidContextBoundaryTransition
  let execution ← okOr part.style.styleExecution .styleExecutionNotInitialized
  let active ← okOr execution.activeNode invalid
  refuseIf (active.nodeId ≠ identity.nodeId ∨ isBlank identity.runId ∨
    !boundaryNames.contains identity.boundary) invalid
  let next ← okOr (checkedNext identity.sourceHead) .sequenceOverflow
  refuseIf (next ≠ sequence ∨ part.contextBoundaries.any (·.completedAt.isNone) ∨
    part.contextBoundaries.any (·.identity = identity)) invalid
  checkBoundaryOrigin part execution.graph active identity
  return { part with contextBoundaries := part.contextBoundaries ++ [{
    identity
    completedPhases := []
    startedPhases := []
    lastSequence := sequence
    completedAt := none
    estimatedTokens := none
    serializedBytes := none
    phaseReplacementEvent := none
    phaseReplacementApproval := none }] }

/-- Starts a phase of an open boundary, in the order of the phases. -/
def startPhase (phases : List String) (phase : ContextPhaseIdentity) (index : Nat) (sequence : Sequence)
    (boundary : ContextBoundaryExecutionState) : Reducing ContextBoundaryExecutionState := do
  refuseIf (boundary.completedAt.isSome ∨ boundary.startedPhases ≠ phases.take index ∨
    boundary.completedPhases ≠ phases.take index) .invalidContextBoundaryTransition
  followsBoundary boundary sequence .invalidContextBoundaryTransition
  return { boundary with
    startedPhases := boundary.startedPhases ++ [phase.phase]
    lastSequence := sequence }

/-- Completes an open boundary all of whose phases are completed. -/
def completeBoundary (phases : List String) (completed : ContextBoundaryCompletedEvent) (sequence : Sequence)
    (boundary : ContextBoundaryExecutionState) : Reducing ContextBoundaryExecutionState := do
  refuseIf (boundary.completedAt.isSome ∨ boundary.startedPhases ≠ phases ∨
    boundary.completedPhases ≠ phases) .invalidContextBoundaryTransition
  followsBoundary boundary sequence .invalidContextBoundaryTransition
  return { boundary with
    lastSequence := sequence
    completedAt := some sequence
    estimatedTokens := some completed.estimatedTokens
    serializedBytes := some completed.serializedBytes }

/-- Goes on inside the phase of an open boundary that was started last. -/
def advancePhase (invalid : SessionReducerError) (phase : ContextPhaseIdentity) (sequence : Sequence)
    (boundary : ContextBoundaryExecutionState) : Reducing ContextBoundaryExecutionState := do
  refuseIf (boundary.completedAt.isSome ∨ boundary.startedPhases.getLast? ≠ some phase.phase ∨
    phase.phase ∈ boundary.completedPhases) invalid
  followsBoundary boundary sequence invalid
  return { boundary with lastSequence := sequence }

/-- The boundary is open in front of the end of its compaction. -/
def compacting (phases : List String) (index : Nat) (boundary : ContextBoundaryExecutionState) : Bool :=
  boundary.startedPhases == phases.take (index + 1) && boundary.completedPhases == phases.take index &&
    boundary.completedAt.isNone

/-- Keeps the approval of a replacement in a boundary that is compacting. -/
def approveReplacement (phases : List String) (index : Nat)
    (approved : ContextProjectionReplacementApprovedEvent) (sequence : Sequence)
    (boundary : ContextBoundaryExecutionState) : Reducing ContextBoundaryExecutionState := do
  refuseIf (!compacting phases index boundary ∨ boundary.phaseReplacementApproval.isSome)
    .invalidContextBoundaryTransition
  followsBoundary boundary sequence .invalidContextBoundaryTransition
  return { boundary with
    phaseReplacementApproval := some ⟨approved.identity, approved.replacementHash⟩
    lastSequence := sequence }

/-- `advance_open_boundary`. -/
def advanceOpenBoundary (part : ContextComposition) (sequence : Sequence) : Reducing ContextComposition :=
  match part.style.styleExecution, part.contextBoundaries.getLast? with
  | some _, some last =>
    if last.completedAt.isNone then do
      refuseIf (checkedNext last.lastSequence ≠ some sequence) .invalidContextBoundaryTransition
      return { part with
        contextBoundaries := part.contextBoundaries.dropLast ++ [{ last with lastSequence := sequence }] }
    else .ok part
  | _, _ => .ok part

section Boundaries

variable [ContextText]

/-- `apply_context_phase_started`. -/
def applyContextPhaseStarted (part : ContextComposition) (styleBinding : Option SessionStyleBinding)
    (phase : ContextPhaseIdentity) (sequence : Sequence) : Reducing ContextComposition := do
  let phases ← expectedContextPhases styleBinding phase.boundary
  let index ← okOr (phases.findIdx? (· = phase.phase)) .invalidContextBoundaryTransition
  part.updateLast phase.boundary .invalidContextBoundaryTransition (startPhase phases phase index sequence)

/-- `apply_context_phase_completed`. -/
def completeContextPhase (part : ContextComposition) (styleBinding : Option SessionStyleBinding)
    (phase : ContextPhaseIdentity) (sequence : Sequence) : Reducing ContextComposition := do
  let phases ← expectedContextPhases styleBinding phase.boundary
  let index ← okOr (phases.findIdx? (· = phase.phase)) .invalidContextBoundaryTransition
  part.updateLast phase.boundary .invalidContextBoundaryTransition (completePhase phases phase index sequence)

variable [BoundaryText] [Hashing]

/-- `apply_context_boundary_completed`. -/
def applyContextBoundaryCompleted (part : ContextComposition) (styleBinding : Option SessionStyleBinding)
    (completed : ContextBoundaryCompletedEvent) (sequence : Sequence) : Reducing ContextComposition := do
  let measurement ← okOr (measureProjection part.surroundings.conversation.providerProjection)
    .invalidContextBoundaryMeasurement
  refuseIf (measurement.projectionHash ≠ completed.projectionHash ∨
    measurement.estimatedTokens ≠ completed.estimatedTokens ∨
    measurement.serializedBytes ≠ completed.serializedBytes) .invalidContextBoundaryMeasurement
  let phases ← expectedContextPhases styleBinding completed.identity
  part.updateLast completed.identity .invalidContextBoundaryTransition (completeBoundary phases completed sequence)

/-- An artifact of a phase is persisted completely. -/
def hasPersistedArtifact (part : ContextComposition) (phase : ContextPhaseIdentity) : Bool :=
  part.surroundings.artifactPersistences.values.any fun record =>
    record.contextPhase = some phase && record.state = .completed && record.artifactId.isSome &&
      record.artifactReference.isSome

omit [Hashing] in
/-- `apply_context_projection_replacement_approved`. -/
def applyContextProjectionReplacementApproved (part : ContextComposition) {σ : Type} (state : Session σ)
    (approved : ContextProjectionReplacementApprovedEvent) (sequence : Sequence) :
    Reducing ContextComposition := do
  let invalid := SessionReducerError.invalidContextBoundaryTransition
  refuseIf (approved.identity.phase ≠ "compaction" ∨ !hasPersistedArtifact part approved.identity) invalid
  let binding ← okOr state.styleBinding invalid
  let digest ← okOr (BoundaryText.replacementActionDigest binding.id state.workspace approved.identity
    approved.replacementHash) invalid
  refuseIf (digest ≠ approved.actionDigest) invalid
  let phases ← expectedContextPhases state.styleBinding approved.identity.boundary
  let index ← okOr (phases.findIdx? (· = "compaction")) invalid
  part.updateLast approved.identity.boundary invalid (approveReplacement phases index approved sequence)

/-- `MAX_PLUGIN_CONTEXT_OPERATION_BYTES`. -/
def maxPluginContextOperationBytes : Nat := 4 * 1024 * 1024

omit [BoundaryText] in
/-- `bounded_json_hash` of a projection. -/
def boundedJsonHash (entries : List ConversationEntry) : Reducing ContentHash := do
  let bytes ← (ContextText.entriesToVec entries).mapError fun _ => .invalidPluginContextOperation
  refuseIf (maxPluginContextOperationBytes < bytes.length) .invalidPluginContextOperation
  return Hashing.digest bytes

omit [ContextText] [BoundaryText] in
/-- `plugin_context_operation_application_hash`. -/
def pluginContextOperationApplicationHash (identity : PluginContextOperationIdentity)
    (proposalHash replacementHash : ContentHash) : ContentHash :=
  Hashing.digest (utf8Bytes "agentmod.plugin-context-operation-application.v1".toList ++
    identity.invocationDigest.bytes.toList ++ proposalHash.bytes.toList ++ replacementHash.bytes.toList)

/-- The method of the provenance of an operation. -/
def PluginContextOperationKind.method : PluginContextOperationKind → String
  | memoryRetrieve => "plugin_memory_retrieve"
  | compaction => "plugin_compaction"

/-- The operation that an application is of, where its application is approved. -/
def approvedOperation (part : ContextComposition) (lastSequence : Sequence)
    (applied : PluginContextOperationAppliedEvent) : Option PluginContextOperationRecord :=
  part.surroundings.pluginContextOperations[applied.identity.invocationId]?.filter fun record =>
    record.identity == applied.identity && record.state == .applicationApproved &&
      record.proposalHash == some applied.proposalHash && record.replacementHash == some applied.replacementHash &&
      record.applicationHash == some applied.applicationHash && record.lastSequence == lastSequence

/-- The tokens in front of a compaction, which is counted where there was one. -/
def countCompaction (part : ContextComposition) (kind : PluginContextOperationKind) : Reducing ContextComposition :=
  if kind = .compaction then do
    refuseIf (part.surroundings.inputTokens + part.surroundings.outputTokens ≥ 2 ^ 64) .styleTokenUsageOverflow
    return { part with tokensAtLastCompaction := part.surroundings.inputTokens + part.surroundings.outputTokens }
  else .ok part

omit [BoundaryText] in
/-- `apply_plugin_context_operation_applied`. -/
def applyPluginContextOperationApplied (part : ContextComposition) {σ : Type} (state : Session σ)
    (metadata : EventMetadata) (applied : PluginContextOperationAppliedEvent) : Reducing ContextComposition := do
  let invalid := SessionReducerError.invalidPluginContextOperation
  let record ← okOr (approvedOperation part state.lastSequence applied) invalid
  let hash ← boundedJsonHash applied.replacement
  refuseIf (hash ≠ applied.replacementHash ∨ !optionEqual entriesEqual record.replacement (some applied.replacement) ∨
    applied.applicationHash ≠
      pluginContextOperationApplicationHash applied.identity applied.proposalHash applied.replacementHash ∨
    applied.provenance.method ≠ applied.identity.kind.method ∨ applied.provenance.artifactId.isSome ∨
    applied.provenance.committedAt ≠ metadata.sequence ∨
    applied.provenance.projectionId ≠ "plugin-context-operation:" ++ applied.identity.invocationId ++ ":" ++
      toString metadata.sequence) invalid
  let conversation ← (part.surroundings.conversation.replaceProjection applied.replacement
    applied.provenance).mapError .conversation
  let phase := record.identity.phase
  let part := { part with surroundings := { part.surroundings with conversation } }
  let part ← completeContextPhase part state.styleBinding phase metadata.sequence
  let part ← part.updateLast phase.boundary invalid fun boundary =>
    .ok { boundary with phaseReplacementEvent := some metadata.eventId }
  let part ← countCompaction part applied.identity.kind
  let record := { record with
    state := .applied, lastSequence := metadata.sequence, appliedEventId := some metadata.eventId }
  return { part with surroundings := { part.surroundings with
    pluginContextOperations :=
      part.surroundings.pluginContextOperations.insert applied.identity.invocationId record } }

/-- `active_artifact_persistence_identity_matches`, for the artifact of a context phase. -/
def activeArtifactMatches (part : ContextComposition) {σ : Type} (state : Session σ)
    (identity : ContextArtifactIdentity) : Bool :=
  let phase := identity.contextPhase
  match part.style.styleExecution, (expectedContextPhases state.styleBinding phase.boundary).toOption with
  | some execution, some phases =>
    match execution.activeNode, phases.findIdx? (· = "compaction") with
    | some active, some index =>
      ((BoundaryText.phaseToVec phase).map fun encoded =>
        "context-handoff:" ++ (Hashing.digest encoded).toHex) == some identity.executionId &&
      !isBlank identity.proposalId && !isBlank identity.nodeId &&
      validStyleCounters identity.attempt identity.step && identity.branchPath == [] &&
      phase.phase == "compaction" && phase.boundary.nodeId == identity.nodeId &&
      activeNodeMatches (some active) identity.nodeId identity.attempt identity.loopIteration identity.step &&
      part.contextBoundaries.getLast?.any fun boundary =>
        decide (boundary.identity = phase.boundary) && compacting phases index boundary &&
          boundary.lastSequence == state.lastSequence
    | _, _ => false
  | _, _ => false

/-- What an event of an artifact does inside its context phase. -/
def advanceContextArtifactPhase (part : ContextComposition) {σ : Type} (state : Session σ)
    (identity : ContextArtifactIdentity) (sequence : Sequence) : Reducing ContextComposition := do
  let invalid := SessionReducerError.invalidArtifactPersistenceTransition
  refuseIf (!activeArtifactMatches part state identity) invalid
  part.updateLast identity.contextPhase.boundary invalid fun boundary => do
    followsBoundary boundary sequence invalid
    return { boundary with lastSequence := sequence }

variable [StyleSerde] [ParallelSerde] [VariableSerde]

/-- What an event does to the context boundaries of a session and to what is around them. -/
def applyContextEvent (state : Session ContextComposition) (metadata : EventMetadata)
    (eventChecksum : ContentHash) : ContextEvent → Reducing ContextComposition
  | .style event => do
    let style ← state.part.style.applyEvent state metadata eventChecksum event
    return { state.part with style }
  | .conversationEntryCommitted entry => do
    let conversation ← (state.part.surroundings.conversation.append entry).mapError .conversation
    return { state.part with surroundings := { state.part.surroundings with conversation } }
  | .contextProjectionReplaced replaced => do
    let conversation ← AgentMod.contextProjectionReplaced { state with part := state.part.conversationPart }
      metadata replaced
    return state.part.withConversationPart conversation
  | .contextProjectionReplacementApproved approved =>
    applyContextProjectionReplacementApproved state.part state approved metadata.sequence
  | .contextBoundaryStarted identity => applyContextBoundaryStarted state.part identity metadata.sequence
  | .contextPhaseStarted phase =>
    applyContextPhaseStarted state.part state.styleBinding phase metadata.sequence
  | .contextPhaseCompleted phase => completeContextPhase state.part state.styleBinding phase metadata.sequence
  | .contextBoundaryCompleted completed =>
    applyContextBoundaryCompleted state.part state.styleBinding completed metadata.sequence
  | .pluginContextOperationApplied applied => applyPluginContextOperationApplied state.part state metadata applied
  | .pluginPhaseAdvanced _ invalid phase left => do
    let part ← state.part.updateLast phase.boundary invalid (advancePhase invalid phase metadata.sequence)
    return { part with surroundings := left }
  | .artifactPhaseAdvanced _ identity left => do
    let part ← advanceContextArtifactPhase state.part state identity metadata.sequence
    return { part with surroundings := left }
  | .summaryAdvanced _ left => do
    let part ← advanceOpenBoundary state.part metadata.sequence
    return { part with surroundings := left }
  | .other _ left => .ok { state.part with surroundings := left }

/-- Context boundaries as the part of a session that context events change. -/
instance : SessionPart ContextComposition ContextEvent where
  eventType := ContextEvent.eventType
  initial := ⟨⟨none, []⟩, [], 0, ⟨.new, ∅, ∅, ∅, ∅, 0, 0⟩⟩
  apply := applyContextEvent

end Boundaries

/-- An event of a session with context boundaries. -/
abbrev ContextSessionEvent := EventEnvelope (SessionPayload ContextEvent)

/-- The phases that a boundary is expected to go through, none where they cannot be read. -/
def ContextBoundaryExecutionState.phases [ContextText] (boundary : ContextBoundaryExecutionState)
    (styleBinding : Option SessionStyleBinding) : List String :=
  (expectedContextPhases styleBinding boundary.identity).toOption.getD []

/-- A boundary goes through its phases in order, one at a time, and is completed behind all of them. -/
structure ContextBoundaryExecutionState.InOrder [ContextText] (boundary : ContextBoundaryExecutionState)
    (styleBinding : Option SessionStyleBinding) : Prop where
  completed : boundary.completedPhases <+: boundary.phases styleBinding
  started : boundary.startedPhases = boundary.completedPhases ∨
    ∃ phase, boundary.startedPhases = boundary.completedPhases ++ [phase] ∧
      boundary.startedPhases <+: boundary.phases styleBinding
  ended : boundary.completedAt.isSome →
    expectedContextPhases styleBinding boundary.identity = .ok boundary.completedPhases

/-- The context boundaries of a session over its events. -/
structure BoundaryProtocol [ContextText] [BoundaryText] [Hashing] [StyleSerde] [ParallelSerde] [VariableSerde]
    [EventChecksum (SessionPayload ContextEvent)] (events : List ContextSessionEvent)
    (state : Session ContextComposition) : Prop where
  /-- At most one boundary is open. -/
  single : state.part.contextBoundaries.countP (·.completedAt.isNone) ≤ 1
  inOrder : ∀ boundary ∈ state.part.contextBoundaries, boundary.InOrder state.styleBinding
  /-- A completed boundary stays as it is. -/
  settled : ∀ earlier later (before : Session ContextComposition) (index : Nat) boundary,
    events = earlier ++ later → replay earlier = .ok before →
    before.part.contextBoundaries[index]? = some boundary → boundary.completedAt.isSome →
      state.part.contextBoundaries[index]? = some boundary

end AgentMod
