import AgentMod.Conversation.Entry
import AgentMod.Library.Result
import AgentMod.Library.Run
import AgentMod.Primitives.Text
import AgentMod.Variables.Environment

/-! The session reducer: what it checks of every event, and its replay. -/

namespace AgentMod

/-- A UUID of a session, as its text. -/
abbrev SessionId := String

/-- A UUID of an event, as its text. -/
abbrev EventId := String

/-- The first sequence of a journal. -/
def firstSequence : Sequence := 1

/-- `Sequence::checked_next`. -/
def checkedNext (sequence : Sequence) : Option Sequence :=
  if sequence + 1 < 2 ^ 64 then some (sequence + 1) else none

/-- Scope addressed by a canonical event. -/
inductive EventScope where
  | runtime
  | session (id : SessionId)
  deriving DecidableEq

/-- Authority classification of an event. -/
inductive EventClassification where
  | proposal
  | decision
  | committed
  | observation
  deriving DecidableEq

/-- Reference to immutable content stored outside the journal. -/
structure ArtifactReference where
  id : String
  contentHash : ContentHash
  deriving DecidableEq

/-- Metadata required for every canonical event. -/
structure EventMetadata where
  eventId : EventId
  scope : EventScope
  sequence : Sequence
  eventType : String
  artifacts : List ArtifactReference
  classification : EventClassification
  deriving DecidableEq

/-- A checksummed event envelope with a typed payload. -/
structure EventEnvelope (π : Type) where
  metadata : EventMetadata
  payload : π
  integrityChecksum : ContentHash

/-- Event construction or integrity failure. -/
inductive EventModelError where
  | serialization (detail : String)
  | checksumMismatch (expected actual : ContentHash)
  deriving DecidableEq

/-- The digest of the canonical JSON of metadata and a payload. -/
class EventChecksum (π : Type) where
  /-- `checksum`, which fails where the payload cannot be serialized. -/
  checksum : EventMetadata → π → Except String ContentHash

namespace EventEnvelope

variable {π : Type} [EventChecksum π]

/-- Creates a sealed envelope after hashing metadata and payload. -/
def sealed (metadata : EventMetadata) (payload : π) : Except EventModelError (EventEnvelope π) := do
  let checksum ← (EventChecksum.checksum metadata payload).mapError .serialization
  return ⟨metadata, payload, checksum⟩

/-- Verifies the checksum against the current metadata and payload. -/
def verify (event : EventEnvelope π) : Except EventModelError Unit := do
  let actual ← (EventChecksum.checksum event.metadata event.payload).mapError .serialization
  refuseIf (actual ≠ event.integrityChecksum) (.checksumMismatch event.integrityChecksum actual)

end EventEnvelope

/-- Durable lifecycle of a session. -/
inductive SessionLifecycle where
  | active
  | suspended
  | completed
  | failed
  | cancelled
  | archived
  deriving DecidableEq

/-- Pure reducer failure. -/
inductive SessionReducerError where
  | eventIntegrity (error : EventModelError)
  | notCommitted
  | eventTypeMismatch (metadata payload : String)
  | runtimeScopedEvent
  | sessionMismatch
  | sequenceMismatch (expected actual : Nat)
  | sequenceOverflow
  | firstEventMustCreateSession
  | emptyWorkspace
  | emptyStyle
  | duplicateSessionCreation
  | duplicateBranchAncestry
  | duplicateStyleExecutionInitialization
  | styleExecutionNotInitialized
  | invalidCompiledStyleGraph
  | invalidStyleExecutionContract
  | invalidCanonicalVariable
  | canonicalVariable (error : VariableEnvironmentError)
  | invalidStyleExecutionTransition
  | invalidParallelExecution
  | invalidGenericJoin
  | missingStyleBinding
  | invalidPluginActivation
  | invalidPluginLifecycle
  | invalidPluginInvocation
  | invalidPluginNodeInvocation
  | invalidPluginNodeOutcomeApplication
  | legacyPluginNodeStatePreservation
  | invalidContextBoundaryTransition
  | invalidContextBoundaryMeasurement
  | invalidPluginContextTransform
  | invalidPluginContextOperation
  | invalidArtifactPersistenceTransition
  | invalidGraphSchedule
  | styleTokenUsageOverflow
  | styleStepOverflow
  | styleLoopIterationOverflow
  | conversation (error : ConversationError)
  | projectionSequenceMismatch
  | duplicateToolExecution
  | invalidToolExecutionTransition
  | toolEventCountOverflow
  | invalidLifecycleTransition (origin target : SessionLifecycle)
  | archivedSessionIsImmutable
  | emptyReplay
  deriving DecidableEq

/-- A step of the reducer. -/
abbrev Reducing := Except SessionReducerError

/-- Immutable compiled-style binding of a session. -/
structure SessionStyleBinding where
  id : String
  contentHash : ContentHash
  compiledStyleHash : ContentHash
  pluginSetHash : ContentHash
  configurationJson : String
  compiledStyleJson : String
  hasExecutionPlan : Bool
  deriving DecidableEq

/-- First event of a session. -/
structure SessionCreatedEvent where
  workspace : String
  style : String
  styleBinding : Option SessionStyleBinding

/-- Immutable ancestry recorded when a session is branched. -/
structure SessionAncestry where
  parentSessionId : SessionId
  forkSequence : Sequence
  deriving DecidableEq

/-- What the reducer reconstructs of a session, with the part of it that a family of events is about. -/
structure Session (σ : Type) where
  id : SessionId
  workspace : String
  style : String
  styleBinding : Option SessionStyleBinding
  ancestry : Option SessionAncestry
  lifecycle : SessionLifecycle
  lastSequence : Sequence
  lastEventChecksum : ContentHash
  part : σ

/-- The events that every session knows, and those of a family. -/
inductive SessionPayload (π : Type) where
  | sessionCreated (created : SessionCreatedEvent)
  | sessionBranched (ancestry : SessionAncestry)
  | sessionLifecycleChanged (lifecycle : SessionLifecycle)
  | part (payload : π)

/-- A part of a session, and the family of events that changes it. -/
class SessionPart (σ : Type) (π : outParam Type) where
  /-- The stable names of the events. -/
  eventType : π → String
  /-- The part of a new session. -/
  initial : σ
  /-- What an event does to the part of a session. -/
  apply : Session σ → EventMetadata → ContentHash → π → Reducing σ

section Reducer

variable {σ π : Type} [SessionPart σ π]

variable (σ) in
/-- The stable name of a payload. -/
def SessionPayload.eventType : SessionPayload π → String
  | sessionCreated _ => "session.created"
  | sessionBranched _ => "session.branched"
  | sessionLifecycleChanged _ => "session.lifecycle_changed"
  | part payload => SessionPart.eventType σ payload

/-- Whether a lifecycle may follow another one. -/
def validLifecycleTransition : SessionLifecycle → SessionLifecycle → Bool
  | .active, .suspended | .active, .completed | .active, .failed | .active, .cancelled => true
  | .suspended, .active | .suspended, .cancelled => true
  | .completed, .archived | .failed, .archived | .cancelled, .archived | .suspended, .archived => true
  | _, _ => false

/-- Starts a session with its first event. -/
def initializeSession (sessionId : SessionId) (event : EventEnvelope (SessionPayload π)) :
    Reducing (Session σ) := do
  refuseIf (event.metadata.sequence ≠ firstSequence)
    (.sequenceMismatch firstSequence event.metadata.sequence)
  match event.payload with
  | .sessionCreated created =>
    refuseIf (isBlank created.workspace) .emptyWorkspace
    refuseIf (isBlank created.style) .emptyStyle
    return {
      id := sessionId
      workspace := created.workspace
      style := created.style
      styleBinding := created.styleBinding
      ancestry := none
      lifecycle := .active
      lastSequence := event.metadata.sequence
      lastEventChecksum := event.integrityChecksum
      part := SessionPart.initial }
  | _ => .error .firstEventMustCreateSession

/-- Applies the payload of an event to a session. -/
def applyPayload (state : Session σ) (event : EventEnvelope (SessionPayload π)) :
    Reducing (Session σ) := do
  refuseIf (state.lifecycle = .archived) .archivedSessionIsImmutable
  match event.payload with
  | .sessionCreated _ => .error .duplicateSessionCreation
  | .sessionBranched ancestry =>
    refuseIf state.ancestry.isSome .duplicateBranchAncestry
    return { state with ancestry := some ancestry }
  | .sessionLifecycleChanged lifecycle =>
    refuseIf (!validLifecycleTransition state.lifecycle lifecycle)
      (.invalidLifecycleTransition state.lifecycle lifecycle)
    return { state with lifecycle }
  | .part payload =>
    let part ← SessionPart.apply state event.metadata event.integrityChecksum payload
    return { state with part }

variable [EventChecksum (SessionPayload π)]

/-- The session that a committed and intact event addresses. -/
def addressedSession (event : EventEnvelope (SessionPayload π)) : Reducing SessionId := do
  event.verify.mapError .eventIntegrity
  refuseIf (event.metadata.classification ≠ .committed) .notCommitted
  refuseIf (event.metadata.eventType ≠ event.payload.eventType σ)
    (.eventTypeMismatch event.metadata.eventType (event.payload.eventType σ))
  match event.metadata.scope with
  | .session id => return id
  | .runtime => .error .runtimeScopedEvent

/-- Applies one verified committed event. -/
def reduce (current : Option (Session σ)) (event : EventEnvelope (SessionPayload π)) :
    Reducing (Session σ) := do
  let sessionId ← addressedSession (σ := σ) event
  match current with
  | none => initializeSession sessionId event
  | some state =>
    refuseIf (state.id ≠ sessionId) .sessionMismatch
    let expected ← okOr (checkedNext state.lastSequence) .sequenceOverflow
    refuseIf (event.metadata.sequence ≠ expected)
      (.sequenceMismatch expected event.metadata.sequence)
    let state ← applyPayload state event
    return { state with
      lastSequence := event.metadata.sequence
      lastEventChecksum := event.integrityChecksum }

/-- Reconstructs a complete state from ordered committed events. -/
def replay (events : List (EventEnvelope (SessionPayload π))) : Reducing (Session σ) := do
  let state ← events.foldlM (fun state event => some <$> reduce state event) none
  okOr state .emptyReplay

/-- Reconstructs state through an inclusive sequence. -/
def replayTo (events : List (EventEnvelope (SessionPayload π))) (target : Sequence) :
    Reducing (Session σ) :=
  replay (events.takeWhile fun event => event.metadata.sequence ≤ target)

end Reducer

section Runs

variable {σ π : Type} [SessionPart σ π] [EventChecksum (SessionPayload π)]

/-- The reducer accepts an event. -/
def SessionStep (state : Session σ) (event : EventEnvelope (SessionPayload π)) (next : Session σ) : Prop :=
  reduce (some state) event = .ok next

end Runs

end AgentMod
