import AgentMod.Expression.Syntax
import AgentMod.Primitives.Collections

/-! Structured entries of a conversation. -/

namespace AgentMod

/-- The position of an event in its journal, counted from one. -/
abbrev Sequence := Nat

/-- A UUID of an artifact, as its text. -/
abbrev ArtifactId := String

/-- Stable conversation-entry identifier. -/
abbrev ConversationEntryId := String

/-- Shared typed text content. -/
structure TextEntry where
  id : ConversationEntryId
  text : String
  sourceSequence : Sequence

/-- Approved tool-call request. -/
structure ToolCallEntry where
  id : ConversationEntryId
  callId : String
  tool : String
  arguments : Json
  sourceSequence : Sequence

/-- Bounded projection of a tool result. -/
structure ToolResultEntry where
  id : ConversationEntryId
  callId : String
  content : String
  artifactId : Option ArtifactId
  truncated : Bool
  sourceSequence : Sequence

/-- Immutable artifact reference in conversation state. -/
structure ArtifactEntry where
  id : ConversationEntryId
  artifactId : ArtifactId
  artifactReference : Option String
  contentHash : ContentHash
  mimeType : String
  label : String
  sourceSequence : Sequence

/-- Typed context summary with immutable source provenance. -/
structure ContextSummaryEntry where
  id : ConversationEntryId
  text : String
  sourceStart : Sequence
  sourceEnd : Sequence
  method : String
  artifactId : Option ArtifactId

/-- Exact immutable artifact provenance attached to plugin-retrieved memory. -/
structure RetrievedMemoryArtifactProvenance where
  artifactId : ArtifactId
  artifactReference : String
  contentHash : ContentHash
  mimeType : String
  byteSize : Nat

/-- Canonical non-artifact reference attached to plugin-retrieved memory. -/
structure RetrievedMemoryReferenceProvenance where
  kind : String
  reference : String
  referenceHash : ContentHash

/-- Typed provenance for a plugin-retrieved memory value. -/
structure RetrievedMemoryTypedProvenance where
  value : Option Json
  valueHash : ContentHash
  artifact : Option RetrievedMemoryArtifactProvenance
  references : List RetrievedMemoryReferenceProvenance
  securityClassification : String
  pluginInvocationId : String
  pluginTerminalReceiptHash : ContentHash

/-- Retrieved memory injected into a provider projection. -/
structure RetrievedMemoryEntry where
  id : ConversationEntryId
  provider : String
  query : String
  scope : String
  source : String
  reference : String
  score : Option (BitVec 64)
  content : String
  injectionSequence : Sequence
  injectionEvent : Option String
  createdAtMillis : Int
  sizeBytes : Nat
  typedProvenance : Option RetrievedMemoryTypedProvenance

/-- Provider-visible structured metadata. -/
structure MetadataEntry where
  id : ConversationEntryId
  key : String
  value : Json
  sourceSequence : Sequence

/-- Pending runtime task projected to a model. -/
structure PendingTaskEntry where
  id : ConversationEntryId
  taskId : String
  description : String
  state : String
  sourceSequence : Sequence

/-- Active supervised process projected to a model. -/
structure ActiveProcessEntry where
  id : ConversationEntryId
  processId : String
  label : String
  state : String
  sourceSequence : Sequence

/-- Child-agent handoff projected explicitly rather than as fake user input. -/
structure ChildHandoffEntry where
  id : ConversationEntryId
  childSession : String
  summary : String
  artifactId : Option ArtifactId
  sourceSequence : Sequence

/-- Canonical structured conversation content. -/
inductive ConversationEntry where
  | systemInstruction (entry : TextEntry)
  | userMessage (entry : TextEntry)
  | assistantMessage (entry : TextEntry)
  | toolCallRequest (entry : ToolCallEntry)
  | toolResult (entry : ToolResultEntry)
  | attachment (entry : ArtifactEntry)
  | image (entry : ArtifactEntry)
  | contextSummary (entry : ContextSummaryEntry)
  | retrievedMemory (entry : RetrievedMemoryEntry)
  | projectInstruction (entry : TextEntry)
  | userInstruction (entry : TextEntry)
  | runtimeAnnotation (entry : TextEntry)
  | providerVisibleMetadata (entry : MetadataEntry)
  | artifactReference (entry : ArtifactEntry)
  | pendingTask (entry : PendingTaskEntry)
  | activeProcessSummary (entry : ActiveProcessEntry)
  | childAgentHandoff (entry : ChildHandoffEntry)

namespace ConversationEntry

/-- The stable identifier of an entry. -/
def id : ConversationEntry → ConversationEntryId
  | systemInstruction entry | userMessage entry | assistantMessage entry | projectInstruction entry
  | userInstruction entry | runtimeAnnotation entry => entry.id
  | toolCallRequest entry => entry.id
  | toolResult entry => entry.id
  | attachment entry | image entry | artifactReference entry => entry.id
  | contextSummary entry => entry.id
  | retrievedMemory entry => entry.id
  | providerVisibleMetadata entry => entry.id
  | pendingTask entry => entry.id
  | activeProcessSummary entry => entry.id
  | childAgentHandoff entry => entry.id

/-- The range of event sequences that an entry stands for. -/
def range : ConversationEntry → Sequence × Sequence
  | systemInstruction entry | userMessage entry | assistantMessage entry | projectInstruction entry
  | userInstruction entry | runtimeAnnotation entry => (entry.sourceSequence, entry.sourceSequence)
  | toolCallRequest entry => (entry.sourceSequence, entry.sourceSequence)
  | toolResult entry => (entry.sourceSequence, entry.sourceSequence)
  | attachment entry | image entry | artifactReference entry =>
    (entry.sourceSequence, entry.sourceSequence)
  | contextSummary entry => (entry.sourceStart, entry.sourceEnd)
  | retrievedMemory entry => (entry.injectionSequence, entry.injectionSequence)
  | providerVisibleMetadata entry => (entry.sourceSequence, entry.sourceSequence)
  | pendingTask entry => (entry.sourceSequence, entry.sourceSequence)
  | activeProcessSummary entry => (entry.sourceSequence, entry.sourceSequence)
  | childAgentHandoff entry => (entry.sourceSequence, entry.sourceSequence)

/-- Whether an entry is runtime state that compaction keeps. -/
def isProtected : ConversationEntry → Bool
  | systemInstruction _ | projectInstruction _ | userInstruction _ | pendingTask _
  | activeProcessSummary _ | childAgentHandoff _ | toolCallRequest _ => true
  | toolResult result => result.artifactId.isNone
  | _ => false

end ConversationEntry

/-- The first identifier that repeats one before it. -/
def firstRepeated (seen : StringSet) : List ConversationEntryId → Option ConversationEntryId
  | [] => none
  | id :: rest => if seen.contains id then some id else firstRepeated (seen.insert id) rest

/-- Provenance for the current provider-visible projection. -/
structure ProjectionProvenance where
  projectionId : String
  sourceRange : Option (Sequence × Sequence)
  method : String
  committedAt : Sequence
  artifactId : Option ArtifactId
  deriving DecidableEq

/-- Canonical content history plus replaceable provider projection. -/
structure ConversationState where
  history : List ConversationEntry
  providerProjection : List ConversationEntry
  projectionProvenance : Option ProjectionProvenance
  entryPositions : StringMap Nat

/-- Canonical conversation invariant failure. -/
inductive ConversationError where
  | duplicateEntry (id : String)
  | duplicateProjectionEntry (id : String)
  | invalidSourceRange (start finish : Sequence)
  deriving DecidableEq

namespace ConversationState

/-- Empty structured state. -/
def new : ConversationState := ⟨[], [], none, ∅⟩

/-- Appends a unique canonical entry and includes it in the current projection. -/
def append (entry : ConversationEntry) (state : ConversationState) :
    Except ConversationError ConversationState :=
  if state.entryPositions.contains entry.id then .error (.duplicateEntry entry.id)
  else .ok { state with
    entryPositions := state.entryPositions.insert entry.id state.history.length
    history := state.history ++ [entry]
    providerProjection := state.providerProjection ++ [entry] }

/-- Whether a source range ends in front of its start. -/
def reversedRange : Option (Sequence × Sequence) → Option (Sequence × Sequence)
  | some (start, finish) => if start > finish then some (start, finish) else none
  | none => none

/-- Replaces only the provider-visible projection, preserving canonical history. -/
def replaceProjection (replacement : List ConversationEntry) (provenance : ProjectionProvenance)
    (state : ConversationState) : Except ConversationError ConversationState :=
  match reversedRange provenance.sourceRange with
  | some (start, finish) => .error (.invalidSourceRange start finish)
  | none =>
    match firstRepeated ∅ (replacement.map ConversationEntry.id) with
    | some id => .error (.duplicateProjectionEntry id)
    | none => .ok { state with
        providerProjection := replacement
        projectionProvenance := some provenance }

end ConversationState

end AgentMod
