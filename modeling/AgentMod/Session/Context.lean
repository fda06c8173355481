import AgentMod.PluginSchema.Tree
import AgentMod.Session.Reducer

/-! The conversation of a session, and the records that authorize replacements of its projection. -/

namespace AgentMod

deriving instance DecidableEq for TextEntry, ToolResultEntry, ArtifactEntry, ContextSummaryEntry,
  PendingTaskEntry, ActiveProcessEntry, ChildHandoffEntry, RetrievedMemoryArtifactProvenance,
  RetrievedMemoryReferenceProvenance

/-- Equality of doubles by their bits: no not-a-number equals anything, and the two zeros are equal. -/
def doubleEqual (left right : BitVec 64) : Bool :=
  let isNaN (bits : BitVec 64) : Bool := BitVec.ult 0x7ff0000000000000#64 (bits &&& 0x7fffffffffffffff#64)
  !isNaN left && !isNaN right && (left == right || (left <<< 1 == 0 && right <<< 1 == 0))

/-- Equality of optional values, by an equality of the values. -/
def optionEqual {α : Type} (equal : α → α → Bool) : Option α → Option α → Bool
  | none, none => true
  | some left, some right => equal left right
  | _, _ => false

/-- Equality of typed provenances of retrieved memory. -/
def RetrievedMemoryTypedProvenance.equal (left right : RetrievedMemoryTypedProvenance) : Bool :=
  optionEqual Json.equal left.value right.value && left.valueHash == right.valueHash &&
    left.artifact == right.artifact && left.references == right.references &&
    left.securityClassification == right.securityClassification &&
    left.pluginInvocationId == right.pluginInvocationId &&
    left.pluginTerminalReceiptHash == right.pluginTerminalReceiptHash

/-- Equality of retrieved memories. -/
def RetrievedMemoryEntry.equal (left right : RetrievedMemoryEntry) : Bool :=
  left.id == right.id && left.provider == right.provider && left.query == right.query &&
    left.scope == right.scope && left.source == right.source && left.reference == right.reference &&
    optionEqual doubleEqual left.score right.score && left.content == right.content &&
    left.injectionSequence == right.injectionSequence && left.injectionEvent == right.injectionEvent &&
    left.createdAtMillis == right.createdAtMillis && left.sizeBytes == right.sizeBytes &&
    optionEqual RetrievedMemoryTypedProvenance.equal left.typedProvenance right.typedProvenance

/-- Equality of conversation entries, in which JSON values are equal up to the order of members. -/
def ConversationEntry.equal : ConversationEntry → ConversationEntry → Bool
  | systemInstruction left, systemInstruction right | userMessage left, userMessage right
  | assistantMessage left, assistantMessage right | projectInstruction left, projectInstruction right
  | userInstruction left, userInstruction right | runtimeAnnotation left, runtimeAnnotation right =>
    left == right
  | toolCallRequest left, toolCallRequest right =>
    left.id == right.id && left.callId == right.callId && left.tool == right.tool &&
      left.arguments.equal right.arguments && left.sourceSequence == right.sourceSequence
  | toolResult left, toolResult right => left == right
  | attachment left, attachment right | image left, image right
  | artifactReference left, artifactReference right => left == right
  | contextSummary left, contextSummary right => left == right
  | retrievedMemory left, retrievedMemory right => left.equal right
  | providerVisibleMetadata left, providerVisibleMetadata right =>
    left.id == right.id && left.key == right.key && left.value.equal right.value &&
      left.sourceSequence == right.sourceSequence
  | pendingTask left, pendingTask right => left == right
  | activeProcessSummary left, activeProcessSummary right => left == right
  | childAgentHandoff left, childAgentHandoff right => left == right
  | _, _ => false

/-- Equality of lists of entries. -/
def entriesEqual (left right : List ConversationEntry) : Bool :=
  left.length == right.length && (left.zip right).all fun (left, right) => left.equal right

/-- Explicit lifecycle path that owns one context boundary. -/
inductive ContextBoundaryOrigin where
  | userTurn
  | childTask
  | toolContinuation
  | approvalContinuation
  deriving DecidableEq

/-- Stable identity for one recoverable context-composition boundary. -/
structure ContextBoundaryIdentity where
  nodeId : String
  boundary : String
  runId : String
  origin : ContextBoundaryOrigin
  requestHash : ContentHash
  sourceHead : Sequence
  deriving DecidableEq

/-- Stable identity for one effect-bearing phase inside a context boundary. -/
structure ContextPhaseIdentity where
  boundary : ContextBoundaryIdentity
  phase : String
  deriving DecidableEq

/-- Durable authorization for one exact context projection replacement. -/
structure ContextProjectionReplacementApproval where
  identity : ContextPhaseIdentity
  replacementHash : ContentHash

/-- Replay-owned state of one context boundary. -/
structure ContextBoundaryExecutionState where
  identity : ContextBoundaryIdentity
  completedPhases : List String
  startedPhases : List String
  lastSequence : Sequence
  completedAt : Option Sequence
  estimatedTokens : Option Nat
  serializedBytes : Option Nat
  phaseReplacementEvent : Option EventId
  phaseReplacementApproval : Option ContextProjectionReplacementApproval

/-- What a style execution keeps of context composition. -/
structure StyleContext where
  contextBoundaries : List ContextBoundaryExecutionState
  inputTokens : Nat
  outputTokens : Nat
  tokensAtLastCompaction : Nat

/-- Latest durable state of an artifact outbox. -/
inductive ArtifactPersistenceState where
  | proposed
  | approved
  | dispatched
  | completed
  deriving DecidableEq

/-- Reducer-owned record of one persisted artifact. -/
structure ArtifactPersistenceRecord where
  proposalId : String
  contextPhase : Option ContextPhaseIdentity
  contentHash : ContentHash
  state : ArtifactPersistenceState
  artifactId : Option String
  artifactReference : Option String

/-- Replay-owned lifecycle for one exact plugin context-transform invocation. -/
inductive PluginContextTransformState where
  | proposed
  | dispatched
  | completed
  | failed
  | ambiguous
  | replacementApproved
  | applied
  deriving DecidableEq

/-- Replay-owned record for one exact plugin context-transform invocation. -/
structure PluginContextTransformRecord where
  phase : ContextPhaseIdentity
  invocationId : String
  state : PluginContextTransformState
  replacement : Option (List ConversationEntry)
  replacementHash : Option ContentHash
  lastSequence : Sequence
  appliedEventId : Option EventId

/-- The records of other families that authorize replacements of the projection. -/
structure ContextRecords where
  styleExecution : Option StyleContext
  artifactPersistences : StringMap ArtifactPersistenceRecord
  pluginContextTransforms : StringMap PluginContextTransformRecord

/-- The conversation of a session with the records around it. -/
structure ConversationPart where
  conversation : ConversationState
  records : ContextRecords

/-- Replacement of the provider-visible projection. -/
structure ContextProjectionReplacedEvent where
  replacement : List ConversationEntry
  provenance : ProjectionProvenance
  contextPhase : Option ContextPhaseIdentity

/-- The events of the conversation, and those of other families, which leave it and some records. -/
inductive ConversationEvent where
  | conversationEntryCommitted (entry : ConversationEntry)
  | contextProjectionReplaced (replaced : ContextProjectionReplacedEvent)
  | other (eventType : String) (records : ContextRecords)

/-- The stable names of conversation events. -/
def ConversationEvent.eventType : ConversationEvent → String
  | conversationEntryCommitted _ => "conversation.entry_committed"
  | contextProjectionReplaced _ => "context.projection_replaced"
  | other eventType _ => eventType

/-- What the records of conversations are written with and read by. -/
class ContextText where
  /-- `serde_json::to_vec` of conversation entries. -/
  entriesToVec : List ConversationEntry → Except String (List UInt8)
  /-- The number of context transforms of a compiled style, by `serde_json::from_str`. -/
  contextTransforms : String → Option Nat
  /-- `Uuid::parse_str`, as the text of the identifier. -/
  parseUuid : String → Option ArtifactId

section Records

variable [ContextText]

/-- The phases of a boundary, in their order. -/
def expectedContextPhases (styleBinding : Option SessionStyleBinding) (boundary : ContextBoundaryIdentity) :
    Reducing (List String) :=
  if ["turn_start", "iteration_start", "context_node"].contains boundary.boundary then .ok ["memory"]
  else if boundary.boundary = "before_turn_completion" then .ok ["discard"]
  else if boundary.boundary = "before_model_request" then do
    let binding ← okOr styleBinding .invalidContextBoundaryTransition
    let transforms ← okOr (ContextText.contextTransforms binding.compiledStyleJson)
      .invalidContextBoundaryTransition
    return "memory" :: (List.range transforms).map (fun ordinal =>
      "plugin_context_transform:" ++ toString ordinal) ++ ["compaction"]
  else .error .invalidContextBoundaryTransition

/-- Changes the last boundary of an execution, if that is the given one. -/
def updateLastBoundary (records : ContextRecords) (boundary : ContextBoundaryIdentity)
    (missing : SessionReducerError)
    (update : ContextBoundaryExecutionState → Reducing ContextBoundaryExecutionState) :
    Reducing ContextRecords := do
  let execution ← okOr records.styleExecution missing
  let last ← okOr (execution.contextBoundaries.getLast?.filter (·.identity = boundary))
    .invalidContextBoundaryTransition
  let updated ← update last
  return { records with styleExecution := some { execution with
    contextBoundaries := execution.contextBoundaries.dropLast ++ [updated] } }

/-- Completes a started phase of the last boundary. -/
def completePhase (phases : List String) (phase : ContextPhaseIdentity) (index : Nat)
    (sequence : Sequence) (boundary : ContextBoundaryExecutionState) :
    Reducing ContextBoundaryExecutionState := do
  refuseIf (boundary.completedAt.isSome ∨ boundary.startedPhases ≠ phases.take (index + 1) ∨
    boundary.completedPhases ≠ phases.take index) .invalidContextBoundaryTransition
  let next ← okOr (checkedNext boundary.lastSequence) .sequenceOverflow
  refuseIf (next ≠ sequence) .invalidContextBoundaryTransition
  return { boundary with
    completedPhases := boundary.completedPhases ++ [phase.phase]
    lastSequence := sequence }

/-- Completes a phase of the last boundary, in the order of the phases. -/
def applyContextPhaseCompleted (records : ContextRecords) (styleBinding : Option SessionStyleBinding)
    (phase : ContextPhaseIdentity) (sequence : Sequence) : Reducing ContextRecords := do
  let phases ← expectedContextPhases styleBinding phase.boundary
  let index ← okOr (phases.findIdx? (· = phase.phase)) .invalidContextBoundaryTransition
  updateLastBoundary records phase.boundary .styleExecutionNotInitialized
    (completePhase phases phase index sequence)

variable [Hashing]

/-- The reference that a replacement has to the artifact of its provenance, if it has exactly one. -/
def projectionArtifact (replacement : List ConversationEntry) (artifactId : ArtifactId) :
    Option ArtifactEntry :=
  match replacement.filterMap fun
    | .artifactReference artifact => if artifact.artifactId = artifactId then some artifact else none
    | _ => none with
  | [artifact] => some artifact
  | _ => none

/-- The artifact of a phase that is persisted completely. -/
def persistedArtifact (records : ContextRecords) (phase : ContextPhaseIdentity) :
    Option ArtifactPersistenceRecord :=
  records.artifactPersistences.values.find? fun record =>
    record.contextPhase = some phase && record.state = .completed

/-- The approval of a replacement in the last boundary, which is that of the phase. -/
def replacementApproval (records : ContextRecords) (phase : ContextPhaseIdentity) :
    Option ContextProjectionReplacementApproval := do
  let execution ← records.styleExecution
  let boundary ← execution.contextBoundaries.getLast?.filter (·.identity = phase.boundary)
  boundary.phaseReplacementApproval.filter (·.identity = phase)

/-- Validates the replacement of a projection by the reference to an artifact. -/
def validateArtifactHandoffReplacement (records : ContextRecords) (metadata : EventMetadata)
    (replaced : ContextProjectionReplacedEvent) : Reducing Unit := do
  let phase ← okOr replaced.contextPhase .invalidContextBoundaryTransition
  let approval ← okOr (replacementApproval records phase) .invalidContextBoundaryTransition
  let bytes ← (ContextText.entriesToVec replaced.replacement).mapError fun _ =>
    .invalidContextBoundaryTransition
  refuseIf (Hashing.digest bytes ≠ approval.replacementHash) .invalidContextBoundaryTransition
  let persisted ← okOr (persistedArtifact records phase) .invalidContextBoundaryTransition
  let expectedId ← okOr (ContextText.parseUuid persisted.proposalId) .invalidContextBoundaryTransition
  let provenanceArtifact ← okOr replaced.provenance.artifactId .invalidContextBoundaryTransition
  let artifact ← okOr (projectionArtifact replaced.replacement provenanceArtifact)
    .invalidContextBoundaryTransition
  let envelopeArtifact ← okOr (metadata.artifacts.head?.filter fun _ => metadata.artifacts.length = 1)
    .invalidContextBoundaryTransition
  let portableReference := "artifact:blake3:" ++ persisted.contentHash.toHex
  let storedId := "blake3:" ++ persisted.contentHash.toHex
  refuseIf (provenanceArtifact ≠ expectedId ∨ replaced.provenance.method ≠ "artifact_handoff" ∨
    replaced.provenance.committedAt ≠ metadata.sequence ∨
    replaced.provenance.projectionId ≠
      "compaction:" ++ phase.boundary.runId ++ ":" ++ toString metadata.sequence ∨
    artifact.id ≠ "context-artifact:" ++ persisted.proposalId ∨ artifact.artifactId ≠ expectedId ∨
    artifact.artifactReference ≠ some portableReference ∨ artifact.label ≠ "complete provider context" ∨
    artifact.sourceSequence ≠ metadata.sequence ∨ artifact.contentHash ≠ persisted.contentHash ∨
    artifact.artifactReference ≠ persisted.artifactReference ∨
    artifact.mimeType ≠ "application/vnd.agentmod.context+json" ∨
    envelopeArtifact.contentHash ≠ persisted.contentHash ∨ envelopeArtifact.id ≠ storedId ∨
    persisted.artifactId ≠ some envelopeArtifact.id ∨
    persisted.artifactReference ≠ some portableReference) .invalidContextBoundaryTransition

/-- Validates the replacement of a projection by what a plugin transforms it to. -/
def validatePluginContextTransformReplacement (records : ContextRecords) (lastSequence : Sequence)
    (metadata : EventMetadata) (replaced : ContextProjectionReplacedEvent) : Reducing Unit := do
  let phase ← okOr replaced.contextPhase .invalidPluginContextTransform
  let record ← okOr (records.pluginContextTransforms.values.find? fun record =>
    record.phase = phase && record.state = .replacementApproved && record.lastSequence = lastSequence)
    .invalidPluginContextTransform
  let bytes ← (ContextText.entriesToVec replaced.replacement).mapError fun _ =>
    .invalidPluginContextTransform
  refuseIf (!optionEqual entriesEqual record.replacement (some replaced.replacement) ∨
    record.replacementHash ≠ some (Hashing.digest bytes) ∨ replaced.provenance.artifactId.isSome ∨
    replaced.provenance.method ≠ "plugin_context_transform" ∨
    replaced.provenance.committedAt ≠ metadata.sequence ∨
    replaced.provenance.projectionId ≠
      "plugin-context-transform:" ++ record.invocationId ++ ":" ++ toString metadata.sequence ∨
    metadata.artifacts ≠ []) .invalidPluginContextTransform

omit [ContextText] [Hashing] in
/-- Marks the approved transform of a phase as applied. -/
def applyPluginContextTransformReplacement (records : ContextRecords) (phase : ContextPhaseIdentity)
    (eventId : EventId) (sequence : Sequence) : Reducing ContextRecords := do
  let (key, record) ← okOr (records.pluginContextTransforms.toList.find? fun (_, record) =>
    record.phase = phase && record.state = .replacementApproved) .invalidPluginContextTransform
  let applied := { record with state := .applied, lastSequence := sequence, appliedEventId := some eventId }
  return { records with pluginContextTransforms := records.pluginContextTransforms.insert key applied }

/-- Validates a replacement by the method of its provenance. -/
def validateReplacement (state : Session ConversationPart) (metadata : EventMetadata)
    (replaced : ContextProjectionReplacedEvent) : Reducing Unit :=
  if replaced.provenance.method = "artifact_handoff" then
    validateArtifactHandoffReplacement state.part.records metadata replaced
  else if replaced.provenance.method = "plugin_context_transform" then
    validatePluginContextTransformReplacement state.part.records state.lastSequence metadata replaced
  else .ok ()

omit [ContextText] [Hashing] in
/-- Counts the tokens in front of a compaction. -/
def countCompactedTokens (records : ContextRecords) (method : String) : Reducing ContextRecords :=
  match records.styleExecution with
  | some execution =>
    if ["sliding_window", "summary", "artifact_handoff", "tool_output_eviction"].contains method then do
      refuseIf (execution.inputTokens + execution.outputTokens ≥ 2 ^ 64) .styleTokenUsageOverflow
      return { records with styleExecution := some { execution with
        tokensAtLastCompaction := execution.inputTokens + execution.outputTokens } }
    else .ok records
  | none => .ok records

omit [Hashing] in
/-- Completes the phase of a replacement. -/
def completeReplacementPhase (records : ContextRecords) (styleBinding : Option SessionStyleBinding)
    (metadata : EventMetadata) (method : String) (phase : ContextPhaseIdentity) :
    Reducing ContextRecords := do
  let records ← applyContextPhaseCompleted records styleBinding phase metadata.sequence
  let records ← if method = "plugin_context_transform" then
      applyPluginContextTransformReplacement records phase metadata.eventId metadata.sequence
    else .ok records
  updateLastBoundary records phase.boundary .styleExecutionNotInitialized fun boundary =>
    .ok { boundary with phaseReplacementEvent := some metadata.eventId }

omit [Hashing] in
/-- Completes the phase of a replacement that has one. -/
def completeReplacement (records : ContextRecords) (styleBinding : Option SessionStyleBinding)
    (metadata : EventMetadata) (replaced : ContextProjectionReplacedEvent) : Reducing ContextRecords :=
  match replaced.contextPhase with
  | none => .ok records
  | some phase =>
    completeReplacementPhase records styleBinding metadata replaced.provenance.method phase

/-- Replaces the projection of a session. -/
def contextProjectionReplaced (state : Session ConversationPart) (metadata : EventMetadata)
    (replaced : ContextProjectionReplacedEvent) : Reducing ConversationPart := do
  refuseIf (replaced.provenance.committedAt ≠ metadata.sequence) .projectionSequenceMismatch
  validateReplacement state metadata replaced
  let conversation ← (state.part.conversation.replaceProjection replaced.replacement
    replaced.provenance).mapError .conversation
  let records ← countCompactedTokens state.part.records replaced.provenance.method
  let records ← completeReplacement records state.styleBinding metadata replaced
  return ⟨conversation, records⟩

/-- What an event does to the conversation of a session and to the records around it. -/
def applyConversationEvent (state : Session ConversationPart) (metadata : EventMetadata) :
    ConversationEvent → Reducing ConversationPart
  | .conversationEntryCommitted entry => do
    let conversation ← (state.part.conversation.append entry).mapError .conversation
    return { state.part with conversation }
  | .contextProjectionReplaced replaced => contextProjectionReplaced state metadata replaced
  | .other _ records => .ok { state.part with records }

/-- The conversation as the part of a session that conversation events change. -/
instance : SessionPart ConversationPart ConversationEvent where
  eventType := ConversationEvent.eventType
  initial := ⟨.new, ⟨none, ∅, ∅⟩⟩
  apply state metadata _ event := applyConversationEvent state metadata event

end Records

/-- An event of a session with a conversation. -/
abbrev ConversationSessionEvent := EventEnvelope (SessionPayload ConversationEvent)

end AgentMod
