import AgentMod.Graph.Sample
import AgentMod.Verified.Conversation.Identity
import AgentMod.Verified.Session.Replay
import AgentMod.Session.Branch
import AgentMod.Session.StyleSample

/-! A child with inline history has the conversation of its parent exactly where it may be committed again. -/

namespace AgentMod

section Parent

/-- What every reachable conversation is: indexed, with a projection that is the history until it is
replaced, and then stands for a range. -/
structure Committed (conversation : ConversationState) : Prop where
  indexed : Indexed conversation
  projected : conversation.projectionProvenance = none →
    conversation.providerProjection = conversation.history
  ranged : ∀ provenance, conversation.projectionProvenance = some provenance →
    ConversationState.reversedRange provenance.sourceRange = none

variable {conversation next : ConversationState}

theorem Committed.new : Committed .new where
  indexed := ⟨List.nodup_nil, by simp [ConversationState.new, entryIds]⟩
  projected _ := rfl
  ranged := nofun

theorem Committed.apply (committed : Committed conversation) {call : ConversationCall}
    (accepted : ConversationAccepts conversation call next) : Committed next := by
  have indexed := committed.indexed.apply accepted
  cases call with
  | append entry =>
    obtain ⟨-, rfl⟩ := entryAppend_eq_ok.mp accepted
    exact ⟨indexed, fun unset => congrArg (· ++ [entry]) (committed.projected unset), committed.ranged⟩
  | replaceProjection replacement provenance =>
    obtain ⟨ordered, -, rfl⟩ := replaceProjection_eq_ok.mp accepted
    refine ⟨indexed, nofun, fun other same => ?_⟩
    cases same
    exact ordered

variable [ContextText] [Hashing] {state : Session ConversationPart} {part : ConversationPart}
variable {metadata : EventMetadata}

theorem conversation_of_apply {event : ConversationEvent}
    (applied : applyConversationEvent state metadata event = .ok part) :
    part.conversation = state.part.conversation ∨
      ∃ call, ConversationAccepts state.part.conversation call part.conversation := by
  cases event with
  | conversationEntryCommitted entry =>
    obtain ⟨conversation, appended, returned⟩ := bind_eq_ok.mp applied
    cases returned
    exact .inr ⟨.append entry, mapError_eq_ok.mp appended⟩
  | contextProjectionReplaced replaced =>
    obtain ⟨_, -, applied⟩ := bind_eq_ok.mp applied
    obtain ⟨_, -, applied⟩ := bind_eq_ok.mp applied
    obtain ⟨conversation, replaces, applied⟩ := bind_eq_ok.mp applied
    obtain ⟨_, -, applied⟩ := bind_eq_ok.mp applied
    obtain ⟨_, -, returned⟩ := bind_eq_ok.mp applied
    cases returned
    exact .inr ⟨.replaceProjection replaced.replacement replaced.provenance, mapError_eq_ok.mp replaces⟩
  | other eventType records =>
    cases applied
    exact .inl rfl

variable [EventChecksum (SessionPayload ConversationEvent)] {events : List ConversationSessionEvent}

theorem committed_of_replay (replayed : replay events = .ok state) :
    Committed state.part.conversation ∧ ¬ isBlank state.workspace := by
  refine replay_invariant (motive := fun _ state =>
    Committed state.part.conversation ∧ ¬ isBlank state.workspace) replayed ?_ ?_
  · intro first start created
    obtain ⟨_, -, initialized⟩ := bind_eq_ok.mp created
    obtain ⟨-, _, -, workspace, -, rfl⟩ := initializeSession_eq_ok.mp initialized
    exact ⟨.new, workspace⟩
  · rintro earlier state event next ⟨committed, workspace⟩ step
    obtain ⟨-, -, -, applied, applies, rfl⟩ := sessionStep_iff.mp step
    generalize event.payload = payload at applies
    cases applies with
    | branched => exact ⟨committed, workspace⟩
    | lifecycle => exact ⟨committed, workspace⟩
    | part applied =>
      refine ⟨?_, workspace⟩
      rcases conversation_of_apply applied with unchanged | ⟨call, accepted⟩
      · exact unchanged ▸ committed
      · exact committed.apply accepted

end Parent

section Sealing

variable [ContextText] [Hashing] [EventChecksum (SessionPayload ConversationEvent)]
variable {childId : SessionId} {sequence : Sequence} {payload : SessionPayload ConversationEvent}
variable {event : ConversationSessionEvent} {allocate : Sequence → Except String EventId}

theorem sealBranchEvent_eq_ok {eventId : Except String EventId}
    (sealed_ : sealBranchEvent childId sequence eventId payload = .ok event) :
    addressedSession (σ := ConversationPart) event = .ok childId ∧ event.payload = payload ∧
      event.metadata.sequence = sequence := by
  obtain ⟨identity, -, sealed_⟩ := bind_eq_ok.mp sealed_
  obtain ⟨checksum, computed, returned⟩ := bind_eq_ok.mp (mapError_eq_ok.mp sealed_)
  cases returned
  refine ⟨addressedSession_eq_ok.mpr ⟨?_, rfl, rfl, rfl⟩, rfl, rfl⟩
  rw [EventEnvelope.verify, bind_eq_ok]
  exact ⟨checksum, computed, refuseIf_eq_ok.mpr (not_not.mpr rfl)⟩

theorem sealBranchEvents_append {first second : List (SessionPayload ConversationEvent)}
    {events : List ConversationSessionEvent}
    (sealed_ : sealBranchEvents childId allocate sequence (first ++ second) = .ok events) :
    ∃ front rest, events = front ++ rest ∧ sealBranchEvents childId allocate sequence first = .ok front ∧
      sealBranchEvents childId allocate (sequence + first.length) second = .ok rest := by
  induction first generalizing sequence events with
  | nil => exact ⟨[], events, rfl, rfl, sealed_⟩
  | cons payload payloads ih =>
    obtain ⟨event, one, sealed_⟩ := bind_eq_ok.mp sealed_
    obtain ⟨others, more, returned⟩ := bind_eq_ok.mp sealed_
    cases returned
    obtain ⟨front, rest, rfl, first, second⟩ := ih more
    refine ⟨event :: front, rest, rfl, ?_, ?_⟩
    · rw [sealBranchEvents, one, first]
      rfl
    · rwa [List.length_cons, Nat.add_comm _ 1, ← Nat.add_assoc]

end Sealing

section Child

variable [ContextText] [Hashing] [EventChecksum (SessionPayload ConversationEvent)]
variable {childId : SessionId} {sequence : Nat} {allocate : Sequence → Except String EventId}
variable {history : List ConversationEntry} {events : List ConversationSessionEvent}
variable {state next : Session ConversationPart} {event : ConversationSessionEvent}

/-- A child that has committed some entries again, and nothing else. -/
structure Recommitted (childId : SessionId) (entries : List ConversationEntry) (sequence : Sequence)
    (state : Session ConversationPart) : Prop where
  id : state.id = childId
  lifecycle : state.lifecycle = .active
  lastSequence : state.lastSequence = sequence
  history : state.part.conversation.history = entries
  projection : state.part.conversation.providerProjection = entries
  provenance : state.part.conversation.projectionProvenance = none
  indexed : Indexed state.part.conversation
  records : state.part.records = ⟨none, ∅, ∅⟩

theorem Recommitted.step_iff (child : Recommitted childId history sequence state)
    (addressed : addressedSession (σ := ConversationPart) event = .ok childId)
    (follows : event.metadata.sequence = sequence + 1) (bounded : sequence + 1 < 2 ^ 64) :
    SessionStep state event next ↔ ∃ applied, PayloadApplied state event event.payload applied ∧
      next = { applied with
        lastSequence := sequence + 1
        lastEventChecksum := event.integrityChecksum } := by
  have counted : checkedNext state.lastSequence = some event.metadata.sequence := by
    rw [child.lastSequence, follows, checkedNext, if_pos bounded]
  have active : state.lifecycle ≠ .archived := by
    rw [child.lifecycle]
    decide
  rw [sessionStep_iff, addressed, child.id, follows]
  rw [follows] at counted
  simp [counted, active]

theorem Recommitted.accept (child : Recommitted childId history sequence state)
    {payload : ConversationEvent} {part : ConversationPart}
    (addressed : addressedSession (σ := ConversationPart) event = .ok childId)
    (family : event.payload = .part payload)
    (applied : applyConversationEvent state event.metadata payload = .ok part)
    (follows : event.metadata.sequence = sequence + 1) (bounded : sequence + 1 < 2 ^ 64) :
    SessionStep state event { state with
      part
      lastSequence := sequence + 1
      lastEventChecksum := event.integrityChecksum } := by
  refine (child.step_iff addressed follows bounded).mpr ⟨{ state with part }, ?_, rfl⟩
  rw [family]
  exact .part applied

theorem Recommitted.append (child : Recommitted childId history sequence state)
    {entry : ConversationEntry} (fresh : entry.id ∉ entryIds history)
    (addressed : addressedSession (σ := ConversationPart) event = .ok childId)
    (payload : event.payload = .part (.conversationEntryCommitted entry))
    (follows : event.metadata.sequence = sequence + 1) (bounded : sequence + 1 < 2 ^ 64) :
    ∃ next, SessionStep state event next ∧
      Recommitted childId (history ++ [entry]) (sequence + 1) next := by
  have absent : state.part.conversation.entryPositions[entry.id]? = none := by
    cases found : state.part.conversation.entryPositions[entry.id]? with
    | none => rfl
    | some index =>
      have inside := List.mem_of_getElem? ((child.indexed.positions _ _).mp found)
      rw [child.history] at inside
      exact absurd inside fresh
  have accepted := entryAppend_eq_ok.mpr ⟨absent, rfl⟩
  have accepts : ConversationAccepts state.part.conversation (.append entry) _ := accepted
  have indexed := child.indexed.apply accepts
  have applied : applyConversationEvent state event.metadata (.conversationEntryCommitted entry) = .ok _ :=
    bind_eq_ok.mpr ⟨_, mapError_eq_ok.mpr accepted, rfl⟩
  exact ⟨_, child.accept addressed payload applied follows bounded, child.id, child.lifecycle, rfl,
    congrArg (· ++ [entry]) child.history, congrArg (· ++ [entry]) child.projection, child.provenance,
    indexed, child.records⟩

/-- A child accepts a whole history with distinct identifiers. -/
theorem Recommitted.appends {earlier : List ConversationEntry}
    (child : Recommitted childId earlier sequence state)
    (distinct : (entryIds (earlier ++ history)).Nodup)
    (bounded : sequence + history.length < 2 ^ 64)
    (sealed_ : sealBranchEvents childId allocate (sequence + 1)
      (history.map fun entry => .part (.conversationEntryCommitted entry)) = .ok events) :
    ∃ next, Run SessionStep state events next ∧
      Recommitted childId (earlier ++ history) (sequence + history.length) next := by
  -- The entries are committed from the front, so the run grows at its end.
  induction history using List.reverseRecOn generalizing events with
  | nil =>
    cases sealed_
    exact ⟨state, .nil, by simpa using child⟩
  | append_singleton history entry ih =>
    rw [List.map_append] at sealed_
    obtain ⟨front, rest, rfl, before, behind⟩ := sealBranchEvents_append sealed_
    rw [List.length_append, List.length_singleton] at bounded
    rw [← List.append_assoc, entryIds, List.map_append, List.nodup_append] at distinct
    obtain ⟨middle, run, there⟩ := ih distinct.1 (by omega) before
    obtain ⟨event, one, behind⟩ := bind_eq_ok.mp behind
    obtain ⟨_, ended, returned⟩ := bind_eq_ok.mp behind
    cases ended
    cases returned
    obtain ⟨addressed, payload, follows⟩ := sealBranchEvent_eq_ok one
    have fresh : entry.id ∉ entryIds (earlier ++ history) := fun inside =>
      distinct.2.2 _ inside _ (List.mem_singleton.mpr rfl) rfl
    obtain ⟨next, step, reached⟩ := there.append fresh addressed payload
      (by rw [follows, List.length_map, Nat.add_right_comm]) (by omega)
    refine ⟨next, run.snoc step, ?_⟩
    rw [← List.append_assoc, List.length_append, List.length_singleton, ← Nat.add_assoc]
    exact reached

/-- A child accepts a replacement without a phase exactly where its method needs none and the identifiers
are distinct. -/
theorem Recommitted.replace_iff (child : Recommitted childId history sequence state)
    {replaced : ContextProjectionReplacedEvent}
    (addressed : addressedSession (σ := ConversationPart) event = .ok childId)
    (payload : event.payload = .part (.contextProjectionReplaced replaced))
    (follows : event.metadata.sequence = sequence + 1) (bounded : sequence + 1 < 2 ^ 64)
    (committed : replaced.provenance.committedAt = sequence + 1) (phaseless : replaced.contextPhase = none)
    (ordered : ConversationState.reversedRange replaced.provenance.sourceRange = none) :
    (∃ next, SessionStep state event next ∧ next.part.conversation.history = history ∧
      next.part.conversation.providerProjection = replaced.replacement) ↔
    replaced.provenance.method ≠ "artifact_handoff" ∧
      replaced.provenance.method ≠ "plugin_context_transform" ∧ (entryIds replaced.replacement).Nodup := by
  have validated : validateReplacement state event.metadata replaced = .ok () ↔
      replaced.provenance.method ≠ "artifact_handoff" ∧
        replaced.provenance.method ≠ "plugin_context_transform" := by
    rw [validateReplacement]
    split
    · rename_i handoff
      simp [handoff, validateArtifactHandoffReplacement, phaseless, okOr, Bind.bind, Except.bind]
    · split
      · rename_i transform
        simp [transform, validatePluginContextTransformReplacement, phaseless, okOr, Bind.bind, Except.bind]
      · exact iff_of_true rfl ⟨‹_›, ‹_›⟩
  have counted : ∀ method, countCompactedTokens state.part.records method = .ok state.part.records := by
    intro method
    rw [countCompactedTokens, child.records]
  have completed : completeReplacement state.part.records state.styleBinding event.metadata replaced =
      .ok state.part.records := by
    rw [completeReplacement, phaseless]
  have replaces : ∀ part, contextProjectionReplaced state event.metadata replaced = .ok part ↔
      (replaced.provenance.method ≠ "artifact_handoff" ∧
        replaced.provenance.method ≠ "plugin_context_transform") ∧
      (entryIds replaced.replacement).Nodup ∧ part = ⟨{ state.part.conversation with
        providerProjection := replaced.replacement
        projectionProvenance := some replaced.provenance }, state.part.records⟩ := by
    intro part
    simp only [contextProjectionReplaced, bind_eq_ok, exists_unit, refuseIf_eq_ok, validated, counted,
      completed, mapError_eq_ok, replaceProjection_eq_ok, ordered, committed, follows, ne_eq, not_true_eq_false,
      not_false_eq_true, true_and, Except.ok.injEq, exists_eq_left', pure_eq_ok]
    refine and_congr_right fun _ => ⟨?_, ?_⟩
    · rintro ⟨_, ⟨distinct, rfl⟩, rfl⟩
      exact ⟨distinct, rfl⟩
    · rintro ⟨distinct, rfl⟩
      exact ⟨_, ⟨distinct, rfl⟩, rfl⟩
  constructor
  · rintro ⟨next, step, -, -⟩
    obtain ⟨applied, applies, -⟩ := (child.step_iff addressed follows bounded).mp step
    rw [payload] at applies
    cases applies with
    | part applied =>
      obtain ⟨methods, distinct, -⟩ := (replaces _).mp applied
      exact ⟨methods.1, methods.2, distinct⟩
  · rintro ⟨handoff, transform, distinct⟩
    have applied := (replaces _).mpr ⟨⟨handoff, transform⟩, distinct, rfl⟩
    exact ⟨_, child.accept addressed payload applied follows bounded, child.history, rfl⟩

end Child

section Branch

theorem not_isWhitespace_of_isStyleCharacter {character : Char} (style : isStyleCharacter character) :
    isWhitespace character = false := by
  simp only [isStyleCharacter, isAsciiAlphanumeric, isAsciiAlphabetic, isAsciiDigit, List.contains_cons,
    List.contains_nil, Bool.or_false, Bool.or_eq_true, Bool.and_eq_true, decide_eq_true_eq,
    beq_iff_eq] at style
  rcases style with code | rfl | rfl | rfl
  · simp only [isWhitespace, Bool.or_eq_false_iff, Bool.and_eq_false_iff, decide_eq_false_iff_not,
      beq_eq_false_iff_ne]
    omega
  · decide
  · decide
  · decide

variable [Hashing]

theorem not_isBlank_of_validateStyleBinding {style : SessionStyleBinding}
    (valid : validateStyleBinding style = .ok ()) : ¬ isBlank style.id := by
  rw [validateStyleBinding, refuseIf_eq_ok] at valid
  simp only [not_or, Bool.not_eq_true', Bool.not_eq_false] at valid
  obtain ⟨nonempty, -, characters, -, -⟩ := valid
  obtain ⟨first, inside⟩ := List.exists_mem_of_ne_nil style.id.toList fun empty => nonempty
    (String.toList_eq_nil_iff.mp empty)
  intro blank
  have white := List.all_eq_true.mp blank first inside
  rw [not_isWhitespace_of_isStyleCharacter (List.all_eq_true.mp characters first inside)] at white
  cases white

variable [ContextText] [EventChecksum (SessionPayload ConversationEvent)]
variable {journal events : List ConversationSessionEvent} {command : BranchSessionCommand}
variable {childId : SessionId} {allocate : Sequence → Except String EventId}
variable {parent : Session ConversationPart}

theorem branchSession_eq_some (inspected : inspectSession journal command.parentSessionId
      command.forkPoint = .ok parent)
    (branched : branchSession journal command childId allocate = .ok (some events)) :
    ∃ style, ¬ isBlank style.id ∧
      parent.part.conversation.history.length ≤ inlineBranchEntryLimit ∧
      sealBranchEvents childId allocate 1 (branchPayloads command parent style) = .ok events := by
  obtain ⟨_, same, branched⟩ := bind_eq_ok.mp branched
  cases inspected.symm.trans same
  obtain ⟨style, -, branched⟩ := bind_eq_ok.mp branched
  obtain ⟨_, valid, branched⟩ := bind_eq_ok.mp branched
  obtain ⟨bytes, -, branched⟩ := bind_eq_ok.mp branched
  split at branched
  · obtain ⟨_, sealed_, same⟩ := map_eq_ok.mp branched
    cases same
    exact ⟨style, not_isBlank_of_validateStyleBinding valid, And.left ‹_ ∧ _›, sealed_⟩
  · cases branched

theorem replay_of_inspectSession {target : Sequence} {sessionId : SessionId}
    (inspected : inspectSession journal sessionId target = .ok parent) :
    ∃ earlier, replay earlier = .ok parent := by
  obtain ⟨_, -, inspected⟩ := bind_eq_ok.mp inspected
  obtain ⟨_, -, inspected⟩ := bind_eq_ok.mp inspected
  obtain ⟨state, replayed, inspected⟩ := bind_eq_ok.mp inspected
  obtain ⟨_, -, returned⟩ := bind_eq_ok.mp inspected
  cases returned
  exact ⟨_, mapError_eq_ok.mp replayed⟩

/-- The first two events of a child start it with an empty conversation. -/
theorem recommitted_nil {workspace style : String} {styleBinding : Option SessionStyleBinding}
    {ancestry : SessionAncestry} {created branched : ConversationSessionEvent}
    {identity identity' : Except String EventId} (named : ¬ isBlank workspace) (styled : ¬ isBlank style)
    (first : sealBranchEvent childId 1 identity (.sessionCreated ⟨workspace, style, styleBinding⟩) =
      .ok created)
    (second : sealBranchEvent childId 2 identity' (.sessionBranched ancestry) = .ok branched) :
    ∃ start state, reduce (none : Option (Session ConversationPart)) created = .ok start ∧
      SessionStep start branched state ∧ Recommitted childId [] 2 state := by
  obtain ⟨addressed, payload, counted⟩ := sealBranchEvent_eq_ok first
  obtain ⟨addressed', payload', counted'⟩ := sealBranchEvent_eq_ok second
  let start : Session ConversationPart := {
    id := childId
    workspace := workspace
    style := style
    styleBinding := styleBinding
    ancestry := none
    lifecycle := .active
    lastSequence := created.metadata.sequence
    lastEventChecksum := created.integrityChecksum
    part := SessionPart.initial }
  have starts : reduce (none : Option (Session ConversationPart)) created = .ok start :=
    bind_eq_ok.mpr ⟨childId, addressed, initializeSession_eq_ok.mpr
      ⟨counted, _, payload, named, styled, rfl⟩⟩
  have applies : PayloadApplied start branched branched.payload { start with ancestry := some ancestry } := by
    rw [payload']
    exact .branched rfl
  have follows : checkedNext start.lastSequence = some branched.metadata.sequence := by
    rw [counted', show start.lastSequence = 1 from counted]
    rfl
  exact ⟨start, _, starts, sessionStep_iff.mpr ⟨addressed', follows, nofun, _, applies, rfl⟩,
    rfl, rfl, counted', rfl, rfl, rfl, Committed.new.indexed, rfl⟩

/-- A child with inline history is replayed with the history and the projection of its parent at the fork
point exactly when that conversation may be committed again. -/
theorem branch_conversation (journal : List ConversationSessionEvent) (command : BranchSessionCommand)
    (childId : SessionId) (allocate : Sequence → Except String EventId)
    (parent : Session ConversationPart) (events : List ConversationSessionEvent)
    (inspected : inspectSession journal command.parentSessionId command.forkPoint = .ok parent)
    (branched : branchSession journal command childId allocate = .ok (some events)) :
    (∃ child : Session ConversationPart, replay events = .ok child ∧
      child.part.conversation.history = parent.part.conversation.history ∧
      child.part.conversation.providerProjection = parent.part.conversation.providerProjection) ↔
    Recommittable parent.part.conversation := by
  obtain ⟨style, styled, short, sealed_⟩ := branchSession_eq_some inspected branched
  obtain ⟨earlier, replayed⟩ := replay_of_inspectSession inspected
  obtain ⟨committed, named⟩ := committed_of_replay replayed
  obtain ⟨created, first, sealed_⟩ := bind_eq_ok.mp sealed_
  obtain ⟨_, behind, returned⟩ := bind_eq_ok.mp sealed_
  cases returned
  obtain ⟨linked, second, behind⟩ := bind_eq_ok.mp behind
  obtain ⟨_, context, returned⟩ := bind_eq_ok.mp behind
  cases returned
  obtain ⟨front, rest, rfl, entries, projection⟩ := sealBranchEvents_append context
  obtain ⟨start, state, starts, links, empty⟩ := recommitted_nil named styled first second
  -- The child accepts the whole history, so that only the projection can be refused.
  rw [inlineBranchEntryLimit] at short
  obtain ⟨middle, run, there⟩ := empty.appends (by simpa using committed.indexed.distinct) (by omega) entries
  rw [List.nil_append] at there
  have reaches : replay (created :: linked :: front) = .ok middle := by
    refine replay_eq_ok.mpr ⟨_, _, start, rfl, starts, ?_⟩
    exact (Run.snoc .nil links).append run
  cases source : parent.part.conversation.projectionProvenance with
  | none =>
    -- The projection of the parent is its history, and nothing is replaced.
    rw [source] at projection
    cases projection
    rw [List.append_nil]
    refine iff_of_true ⟨middle, reaches, there.history, ?_⟩ fun _ same => nomatch source.symm.trans same
    rw [there.projection, committed.projected source]
  | some provenance =>
    rw [source] at projection
    obtain ⟨event, last, ended⟩ := bind_eq_ok.mp projection
    obtain ⟨_, nothing, returned⟩ := bind_eq_ok.mp ended
    cases nothing
    cases returned
    obtain ⟨addressed, payload, follows⟩ := sealBranchEvent_eq_ok last
    rw [List.length_map] at follows
    have replaces := there.replace_iff addressed payload (follows.trans (Nat.add_right_comm 2 1 _)) (by omega)
      (Nat.add_right_comm 2 1 _) rfl (committed.ranged provenance source)
    have steps : ∀ child : Session ConversationPart,
        replay (created :: linked :: (front ++ [event])) = .ok child ↔ SessionStep middle event child := by
      intro child
      rw [← List.cons_append, ← List.cons_append, replay_snoc]
      constructor
      · rintro (⟨impossible, -⟩ | ⟨state, before, step⟩)
        · cases impossible
        · cases reaches.symm.trans before
          exact step
      · exact fun step => .inr ⟨middle, reaches, step⟩
    simp only [steps, replaces, Recommittable, source, Option.some.injEq, forall_eq', entryIds]

end Branch

section Sample

attribute [local instance] plainChecksum plainContext prefixHash

/-- An event of the sample session about its conversation. -/
def conversationEvent (sequence : Sequence) (payload : ConversationEvent) : ConversationSessionEvent :=
  sessionEvent sequence payload.eventType (.part payload) []

/-- The session that is branched at its end. -/
def branchAt (forkPoint : Sequence) : BranchSessionCommand := ⟨"session", forkPoint, none⟩

/-- The identities of the child's events. -/
def allocateEvent (sequence : Sequence) : Except String EventId := .ok ("child-" ++ toString sequence)

/-- A session with one message. -/
def oneMessage : List ConversationSessionEvent :=
  [sessionCreation, conversationEvent 2 (.conversationEntryCommitted repeatedMessage)]

/-- A session whose projection was replaced by a summary, and that then commits a message with the identifier
of the summary. -/
def repeatedInProjection : List ConversationSessionEvent :=
  [sessionCreation,
    conversationEvent 2 (.contextProjectionReplaced ⟨[projectedSummary], summaryProvenance, none⟩),
    conversationEvent 3 (.conversationEntryCommitted repeatedMessage)]

/-- The session is branched with inline history, and no child is replayed from its events. -/
theorem not_branch_conversation : ∃ events,
    branchSession repeatedInProjection (branchAt 3) "child" allocateEvent = .ok (some events) ∧
    ∀ child : Session ConversationPart, replay events ≠ .ok child := by
  have rejected : returns (branchSession repeatedInProjection (branchAt 3) "child" allocateEvent)
      (fun events => events.any fun events =>
        !returns (replay events) fun _ : Session ConversationPart => true) := by decide
  obtain ⟨branched, returned, rejected⟩ := returns_eq_true.mp rejected
  cases branched with
  | none => cases rejected
  | some events =>
    refine ⟨events, returned, fun child replayed => ?_⟩
    rw [Option.any_some, replayed] at rejected
    cases rejected

/-- The session with one message has a child with the same conversation. -/
theorem branch_conversation_oneMessage : ∃ parent events, ∃ child : Session ConversationPart,
    inspectSession oneMessage "session" 2 = .ok parent ∧
    branchSession oneMessage (branchAt 2) "child" allocateEvent = .ok (some events) ∧
    replay events = .ok child ∧
    child.part.conversation.history = parent.part.conversation.history ∧
    child.part.conversation.providerProjection = parent.part.conversation.providerProjection := by
  have inspects : returns (inspectSession oneMessage "session" 2) (fun parent =>
      parent.part.conversation.projectionProvenance = none) := by decide
  have branches : returns (branchSession oneMessage (branchAt 2) "child" allocateEvent) Option.isSome := by
    decide
  obtain ⟨parent, inspected, unset⟩ := returns_eq_true.mp inspects
  obtain ⟨branched, returned, inline⟩ := returns_eq_true.mp branches
  obtain ⟨events, rfl⟩ := Option.isSome_iff_exists.mp inline
  have recommittable : Recommittable parent.part.conversation := by
    intro provenance same
    rw [of_decide_eq_true unset] at same
    cases same
  obtain ⟨child, replayed, history, projection⟩ := (branch_conversation oneMessage (branchAt 2) "child"
    allocateEvent parent events inspected returned).mpr recommittable
  exact ⟨parent, events, child, inspected, returned, replayed, history, projection⟩

end Sample

end AgentMod
