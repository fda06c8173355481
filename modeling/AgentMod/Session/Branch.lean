import AgentMod.Session.Context

/-! Branching a session: the events that the child starts with. -/

namespace AgentMod

/-- The most entries of a history that a child gets as events. -/
def inlineBranchEntryLimit : Nat := 32

/-- The most bytes of a history that a child gets as events. -/
def inlineBranchByteLimit : Nat := 64 * 1024

/-- History business failure. -/
inductive SessionHistoryLogicError where
  | invalidStyle
  | missingStyleBinding
  | executionPlanMigrationRequired
  | emptyJournal
  | sequenceAfterHead (requested head : Sequence)
  | sessionIdentityMismatch
  | reducer (error : SessionReducerError)
  | identity (detail : String)
  | eventMapping (detail : String)
  deriving DecidableEq

/-- A step of the history logic. -/
abbrev HistoryLogic := Except SessionHistoryLogicError

/-- Immutable branch command. -/
structure BranchSessionCommand where
  parentSessionId : SessionId
  forkPoint : Sequence
  styleBinding : Option SessionStyleBinding

/-- A character that a style identifier may have. -/
def isStyleCharacter (character : Char) : Bool :=
  isAsciiAlphanumeric character || ['-', '_', '.'].contains character

/-- Selects the immutable style binding for a branch. -/
def branchStyleBinding (replacement inherited : Option SessionStyleBinding) :
    HistoryLogic SessionStyleBinding := do
  match replacement with
  | some replacement => return replacement
  | none =>
    let inherited ← okOr inherited .missingStyleBinding
    refuseIf (!inherited.hasExecutionPlan) .executionPlanMigrationRequired
    return inherited

section Branch

variable [Hashing]

/-- Validates the style binding of a child. -/
def validateStyleBinding (style : SessionStyleBinding) : HistoryLogic Unit :=
  refuseIf (style.id = "" ∨ style.id.utf8ByteSize > 128 ∨ !style.id.toList.all isStyleCharacter ∨
    style.contentHash ≠ Hashing.digest (utf8Bytes style.configurationJson.toList) ∨
    style.compiledStyleHash ≠ Hashing.digest (utf8Bytes style.compiledStyleJson.toList)) .invalidStyle

variable [ContextText] [EventChecksum (SessionPayload ConversationEvent)]

/-- Reconstructs the state of a session at a point of its journal. -/
def inspectSession (journal : List ConversationSessionEvent) (sessionId : SessionId)
    (target : Sequence) : HistoryLogic (Session ConversationPart) := do
  let head ← okOr (journal.getLast?.map (·.metadata.sequence)) .emptyJournal
  refuseIf (target > head) (.sequenceAfterHead target head)
  let state ← (replayTo journal target).mapError .reducer
  refuseIf (state.id ≠ sessionId) .sessionIdentityMismatch
  return state

/-- Seals an event of a child, whose identity the allocator gives. -/
def sealBranchEvent (childId : SessionId) (sequence : Sequence) (eventId : Except String EventId)
    (payload : SessionPayload ConversationEvent) : HistoryLogic ConversationSessionEvent := do
  let eventId ← eventId.mapError .identity
  (EventEnvelope.sealed ⟨eventId, .session childId, sequence, payload.eventType ConversationPart, [],
    .committed⟩ payload).mapError fun
      | .serialization detail => .eventMapping detail
      | .checksumMismatch .. => .eventMapping ""

/-- The payloads that commit a conversation again, the first of them at the given sequence. -/
def inlineBranchContext (conversation : ConversationState) (sequence : Sequence) :
    List (SessionPayload ConversationEvent) :=
  conversation.history.map (fun entry => .part (.conversationEntryCommitted entry)) ++
    match conversation.projectionProvenance with
    | none => []
    | some source => [.part (.contextProjectionReplaced {
        replacement := conversation.providerProjection
        provenance := { source with committedAt := sequence + conversation.history.length }
        contextPhase := none })]

/-- The payloads that a child with inline history starts with. -/
def branchPayloads (command : BranchSessionCommand) (parent : Session ConversationPart)
    (style : SessionStyleBinding) : List (SessionPayload ConversationEvent) :=
  .sessionCreated ⟨parent.workspace, style.id, some style⟩ ::
    .sessionBranched ⟨command.parentSessionId, command.forkPoint⟩ ::
    inlineBranchContext parent.part.conversation 3

/-- Seals the events of a child in their order, the first of them at the given sequence. -/
def sealBranchEvents (childId : SessionId) (allocate : Sequence → Except String EventId)
    (sequence : Sequence) :
    List (SessionPayload ConversationEvent) → HistoryLogic (List ConversationSessionEvent)
  | [] => .ok []
  | payload :: rest => do
    let event ← sealBranchEvent childId sequence (allocate sequence) payload
    let events ← sealBranchEvents childId allocate (sequence + 1) rest
    return event :: events

/-- The events of a child that branches from a session, if its history is small enough to be inline. -/
def branchSession (journal : List ConversationSessionEvent) (command : BranchSessionCommand)
    (childId : SessionId) (allocate : Sequence → Except String EventId) :
    HistoryLogic (Option (List ConversationSessionEvent)) := do
  let parent ← inspectSession journal command.parentSessionId command.forkPoint
  let style ← branchStyleBinding command.styleBinding parent.styleBinding
  validateStyleBinding style
  let bytes ← (ContextText.entriesToVec parent.part.conversation.history).mapError .eventMapping
  if parent.part.conversation.history.length ≤ inlineBranchEntryLimit ∧
      bytes.length ≤ inlineBranchByteLimit then
    some <$> sealBranchEvents childId allocate 1 (branchPayloads command parent style)
  else return none

end Branch

/-- A conversation that a child accepts again: the method of its projection asks for no records of the
parent, and the projection shows no entry twice. -/
def Recommittable (conversation : ConversationState) : Prop :=
  ∀ provenance, conversation.projectionProvenance = some provenance →
    provenance.method ≠ "artifact_handoff" ∧ provenance.method ≠ "plugin_context_transform" ∧
      (conversation.providerProjection.map ConversationEntry.id).Nodup

end AgentMod
