import AgentMod.Conversation.Entry
import AgentMod.Library.Run
import AgentMod.PluginSchema.Tree
import AgentMod.Primitives.Text
import AgentMod.Variables.Value

/-! Deterministic provider-projection compaction strategies, and runs of calls that change a conversation. -/

namespace AgentMod

/-- Deterministic compaction selection. -/
inductive CompactionStrategy where
  | none
  | slidingWindow (maxRecentEntries : Nat)
  | summary (summaryId summary : String) (artifactId : Option ArtifactId)
  | artifactHandoff (entryId : String) (artifactId : ArtifactId) (artifactReference : String)
      (contentHash : ContentHash) (label : String)
  | toolOutputEviction (maxVisibleBytes : Nat)

/-- Metadata supplied by the committing runtime action. -/
structure CompactionContext where
  projectionId : String
  committedAt : Sequence

/-- Deterministic replacement ready to become a committed context event. -/
structure CompactionPlan where
  replacement : List ConversationEntry
  provenance : ProjectionProvenance

/-- Deterministic compaction failure. -/
inductive CompactionError where
  | emptyProjectionId
  | zeroWindow
  | invalidSummary
  | missingSourceRange
  | invalidArtifactHandoff
  | zeroToolOutputBound
  | toolOutputMissingArtifact (id : String)
  | duplicateProjectionEntry (id : String)
  | invalidSummaryMaterial
  | summaryMaterialTooLarge
  | summaryEncoding
  | summaryBoundTooSmall
  deriving DecidableEq

/-- The entries that are protected or among the most recent ones. -/
def slidingWindow (source : List ConversationEntry) (maxRecentEntries : Nat) :
    List ConversationEntry :=
  let recentStart := source.length - maxRecentEntries
  (source.zipIdx.filter fun (entry, index) => index ≥ recentStart || entry.isProtected).map Prod.fst

/-- The entries that compaction keeps. -/
def protectedEntries (source : List ConversationEntry) : List ConversationEntry :=
  source.filter ConversationEntry.isProtected

/-- The longest part of a text in front that has no more than the given number of bytes. -/
def truncateUtf8 : List Char → Nat → List Char
  | [], _ => []
  | character :: rest, maxBytes =>
    if character.utf8Size ≤ maxBytes then
      character :: truncateUtf8 rest (maxBytes - character.utf8Size)
    else []

/-- Replaces the content of an oversized tool result by a reference to its artifact. -/
def evictToolOutput (maxVisibleBytes : Nat) : ConversationEntry →
    Except CompactionError ConversationEntry
  | .toolResult result =>
    if utf8Length result.content.toList > maxVisibleBytes then
      match result.artifactId with
      | none => .error (.toolOutputMissingArtifact result.id)
      | some artifactId =>
        let placeholder := "[tool output evicted; full content is artifact " ++ artifactId ++ "]"
        .ok (.toolResult { result with
          content := .ofList (truncateUtf8 placeholder.toList maxVisibleBytes)
          truncated := true })
    else .ok (.toolResult result)
  | other => .ok other

/-- Replaces the content of all oversized tool results. -/
def evictToolOutputs (source : List ConversationEntry) (maxVisibleBytes : Nat) :
    Except CompactionError (List ConversationEntry) :=
  source.mapM (evictToolOutput maxVisibleBytes)

/-- The least range that holds two ranges, the first of which may be missing. -/
def widenRange (range : Option (Sequence × Sequence)) (entry : Sequence × Sequence) :
    Option (Sequence × Sequence) :=
  match range with
  | none => some entry
  | some (minimum, maximum) => some (min minimum entry.1, max maximum entry.2)

/-- The range of event sequences that a projection stands for. -/
def projectionRange (source : List ConversationEntry) : Option (Sequence × Sequence) :=
  (source.map ConversationEntry.range).foldl widenRange none

/-- What a strategy makes of a projection: the replacement, the method and the artifact. -/
def strategyReplacement (strategy : CompactionStrategy) (source : List ConversationEntry)
    (committedAt : Sequence) :
    Except CompactionError (List ConversationEntry × String × Option ArtifactId) :=
  match strategy with
  | .none => .ok (source, "none", .none)
  | .slidingWindow maxRecentEntries =>
    if maxRecentEntries = 0 then .error .zeroWindow
    else .ok (slidingWindow source maxRecentEntries, "sliding_window", .none)
  | .summary summaryId summary artifactId =>
    if isBlank summaryId || isBlank summary then .error .invalidSummary
    else match projectionRange source with
      | .none => .error .missingSourceRange
      | some (sourceStart, sourceEnd) =>
        .ok (protectedEntries source ++ [.contextSummary
          ⟨summaryId, summary, sourceStart, sourceEnd, "summary", artifactId⟩], "summary", artifactId)
  | .artifactHandoff entryId artifactId artifactReference contentHash label =>
    if isBlank entryId || isBlank artifactReference || isBlank label then
      .error .invalidArtifactHandoff
    else
      .ok (protectedEntries source ++ [.artifactReference ⟨entryId, artifactId, some artifactReference,
        contentHash, "application/vnd.agentmod.context+json", label, committedAt⟩],
        "artifact_handoff", some artifactId)
  | .toolOutputEviction maxVisibleBytes =>
    if maxVisibleBytes = 0 then .error .zeroToolOutputBound
    else do
      let replacement ← evictToolOutputs source maxVisibleBytes
      return (replacement, "tool_output_eviction", .none)

/-- Constructs a deterministic replacement without mutating canonical history. -/
def compactProjection (conversation : ConversationState) (strategy : CompactionStrategy)
    (context : CompactionContext) : Except CompactionError CompactionPlan := do
  refuseIf (isBlank context.projectionId) .emptyProjectionId
  let source := conversation.providerProjection
  let (replacement, method, artifactId) ← strategyReplacement strategy source context.committedAt
  match firstRepeated ∅ (replacement.map ConversationEntry.id) with
  | some id => .error (.duplicateProjectionEntry id)
  | none => return ⟨replacement, ⟨context.projectionId, projectionRange source, method,
      context.committedAt, artifactId⟩⟩

/-- `serde_json::to_vec` of a conversation entry. -/
class EntrySerde where
  /-- The number of bytes of the encoding. -/
  entryBytes : ConversationEntry → Option Nat

/-- A number of bytes as a `u64`, which saturates. -/
def saturateU64 (bytes : Nat) : Nat := min bytes (UInt64.size - 1)

/-- The size of an encoded entry. -/
def serializedEntryBytes [EntrySerde] (entry : ConversationEntry) : Except CompactionError Nat := do
  let bytes ← okOr (EntrySerde.entryBytes entry) .summaryMaterialTooLarge
  return saturateU64 bytes

/-- Whether a summary request may not leave out an entry. -/
def summaryEntryIsRequired (currentInput : Option ConversationEntryId) (requirements : List String)
    (entry : ConversationEntry) : Bool :=
  match entry with
  | .systemInstruction _ | .projectInstruction _ | .userInstruction _ =>
    requirements.contains "system_instructions"
  | .userMessage message => currentInput == some message.id
  | .pendingTask _ | .activeProcessSummary _ | .childAgentHandoff _ =>
    requirements.contains "pending_control_state"
  | .artifactReference _ | .attachment _ | .image _ => requirements.contains "artifact_references"
  | .retrievedMemory _ => requirements.contains "memory_provenance"
  | .providerVisibleMetadata _ => requirements.contains "active_graph_state"
  | .toolCallRequest _ | .toolResult _ => requirements.contains "tool_call_correlation"
  | .contextSummary _ | ConversationEntry.runtimeAnnotation _ => true
  | .assistantMessage _ => false

/-- Bounded provider-visible material for a model-generated summary. -/
structure SummaryRequestMaterial where
  entries : List ConversationEntry
  sourceRange : Option (Sequence × Sequence)
  serializedBytes : Nat

/-- The entry is a message of the user. -/
def ConversationEntry.isUserMessage : ConversationEntry → Bool
  | userMessage _ => true
  | _ => false

/-- The last message of the user. -/
def currentInput (source : List ConversationEntry) : Option ConversationEntryId :=
  (source.reverse.find? (·.isUserMessage)).map (·.id)

/-- Takes an entry into the material if it is required or among the recent ones, and fits. -/
def takeSummaryEntry [EntrySerde] (maxBytes recentStart : Nat) (isRequired : ConversationEntry → Bool)
    (taken : List ConversationEntry × Nat) (indexed : ConversationEntry × Nat) :
    Except CompactionError (List ConversationEntry × Nat) :=
  if isRequired indexed.1 || indexed.2 ≥ recentStart then do
    let contribution ← serializedEntryBytes indexed.1
    if saturateU64 (taken.2 + contribution) > maxBytes then
      -- A recent entry may be left out, a required one may not.
      if isRequired indexed.1 then throw .summaryMaterialTooLarge else return taken
    else return (taken.1 ++ [indexed.1], saturateU64 (taken.2 + contribution))
  else return taken

/-- Builds the bounded material of a request for a model-generated summary. -/
def buildSummaryRequestMaterial [EntrySerde] (conversation : ConversationState) (maxBytes : Nat)
    (preservationRequirements : List String) (recentWindow : Nat) :
    Except CompactionError SummaryRequestMaterial := do
  let source := conversation.providerProjection
  let sourceRange ← okOr (projectionRange source) .missingSourceRange
  refuseIf (maxBytes = 0 ∨ recentWindow = 0) .invalidSummaryMaterial
  let isRequired := summaryEntryIsRequired (currentInput source) preservationRequirements
  let taken ← source.zipIdx.foldlM
    (takeSummaryEntry maxBytes (source.length - recentWindow) isRequired) ([], 0)
  match firstRepeated ∅ (taken.1.map ConversationEntry.id) with
  | some id => .error (.duplicateProjectionEntry id)
  | none => return ⟨taken.1, some sourceRange, taken.2⟩

/-- A call that changes a conversation. -/
inductive ConversationCall where
  | append (entry : ConversationEntry)
  | replaceProjection (replacement : List ConversationEntry) (provenance : ProjectionProvenance)

/-- What a call does to a conversation. -/
def ConversationCall.apply (call : ConversationCall) (state : ConversationState) :
    Except ConversationError ConversationState :=
  match call with
  | append entry => state.append entry
  | replaceProjection replacement provenance => state.replaceProjection replacement provenance

/-- A conversation accepts a call. -/
def ConversationAccepts (state : ConversationState) (call : ConversationCall)
    (next : ConversationState) : Prop := call.apply state = .ok next

/-- The identifiers of entries, in their order. -/
def entryIds (entries : List ConversationEntry) : List ConversationEntryId :=
  entries.map ConversationEntry.id

/-- An appended entry has no identifier that the projection shows already. -/
def ConversationCall.Fresh (call : ConversationCall) (state : ConversationState) : Prop :=
  match call with
  | append entry => entry.id ∉ entryIds state.providerProjection
  | replaceProjection .. => True

/-- The history has distinct identifiers, and each of them is mapped exactly to its index. -/
structure Indexed (state : ConversationState) : Prop where
  distinct : (entryIds state.history).Nodup
  positions : ∀ (id : ConversationEntryId) index,
    state.entryPositions[id]? = some index ↔ (entryIds state.history)[index]? = some id

/-- The projection has distinct identifiers. -/
def Projected (state : ConversationState) : Prop := (entryIds state.providerProjection).Nodup

/-- The identifier of the entry that a strategy adds to a projection. -/
def CompactionStrategy.added : CompactionStrategy → Option ConversationEntryId
  | .summary summaryId .. => some summaryId
  | .artifactHandoff entryId .. => some entryId
  | _ => .none

/-- The method keeps the entry at an index of a projection, whatever the entry is. -/
def CompactionStrategy.keeps (strategy : CompactionStrategy) (length index : Nat) : Bool :=
  match strategy with
  | .none | .toolOutputEviction _ => true
  | .slidingWindow maxRecentEntries => length ≤ index + maxRecentEntries
  | .summary .. | .artifactHandoff .. => false

/-- The entries of a projection that a method keeps or that are protected. -/
def CompactionStrategy.kept (strategy : CompactionStrategy) (source : List ConversationEntry) :
    List ConversationEntry :=
  (source.zipIdx.filter fun indexed =>
    strategy.keeps source.length indexed.2 || indexed.1.isProtected).map Prod.fst

/-- The result with a content that replaces the one that its artifact holds. -/
def ToolResultEntry.evicted (result : ToolResultEntry) (content : String) : ToolResultEntry :=
  { result with content, truncated := true }

/-- An entry is shown as it is, or as a tool result whose content only its artifact still holds. -/
def CompactionStrategy.Shows (strategy : CompactionStrategy) (entry shown : ConversationEntry) : Prop :=
  shown = entry ∨ ∃ maxVisibleBytes result content, strategy = .toolOutputEviction maxVisibleBytes ∧
    entry = .toolResult result ∧ result.artifactId.isSome ∧
    shown = .toolResult (result.evicted content) ∧ utf8Length content.toList ≤ maxVisibleBytes

/-- The entry that a method adds to a projection. -/
def CompactionStrategy.Adds (strategy : CompactionStrategy) (entry : ConversationEntry) : Prop :=
  strategy.added = some entry.id ∧ ((∃ summary, entry = .contextSummary summary) ∨
    ∃ reference, entry = .artifactReference reference)

/-- Some tool result answers a call. -/
def Answered (entries : List ConversationEntry) (callId : String) : Prop :=
  ∃ result, .toolResult result ∈ entries ∧ result.callId = callId

/-- Some request made a call. -/
def Requested (entries : List ConversationEntry) (callId : String) : Prop :=
  ∃ call, .toolCallRequest call ∈ entries ∧ call.callId = callId

/-- What a compaction owes to the projection that it replaces. -/
structure SafeCompaction (strategy : CompactionStrategy) (source replacement : List ConversationEntry) :
    Prop where
  distinct : (entryIds replacement).Nodup
  keepsProtected : (protectedEntries source).Sublist replacement
  /-- The kept entries are shown in their order, in front of the added one. -/
  shown : ∃ kept shown added, kept.Sublist source ∧ List.Forall₂ strategy.Shows kept shown ∧
    replacement = shown ++ added ∧ added.length ≤ 1 ∧ ∀ entry ∈ added, strategy.Adds entry
  /-- A tool result has its request as before. -/
  requested : ∀ result, .toolResult result ∈ replacement → Requested source result.callId →
    Requested replacement result.callId
  /-- A request has its result where the method keeps one, or one has no artifact. -/
  answered : ∀ call, .toolCallRequest call ∈ replacement → (Answered replacement call.callId ↔
    ∃ result index, source[index]? = some (.toolResult result) ∧ result.callId = call.callId ∧
      (result.artifactId = none ∨ strategy.keeps source.length index))

section Summary

variable [EntrySerde]

/-- The size of an entry in a summary request. -/
def summaryBytes (entry : ConversationEntry) : Nat :=
  saturateU64 ((EntrySerde.entryBytes entry).getD 0)

/-- The bytes that the required entries have together. -/
def requiredBytes (isRequired : ConversationEntry → Bool) (source : List ConversationEntry) : Nat :=
  ((source.filter isRequired).map summaryBytes).sum

/-- The bytes of what is taken of some entries: of the required and the recent ones those that fit. -/
def bytesBehind (maxBytes recentStart : Nat) (isRequired : ConversationEntry → Bool) (bytes : Nat) :
    List (ConversationEntry × Nat) → Nat
  | [] => bytes
  | indexed :: rest =>
    let sum := saturateU64 (bytes + summaryBytes indexed.1)
    if (isRequired indexed.1 || indexed.2 ≥ recentStart) && sum ≤ maxBytes then
      bytesBehind maxBytes recentStart isRequired sum rest
    else bytesBehind maxBytes recentStart isRequired bytes rest

/-- Every required entry fits behind the entries that are taken in front of it. -/
def RequiredFit (maxBytes recentStart : Nat) (isRequired : ConversationEntry → Bool) (bytes : Nat)
    (indexed : List (ConversationEntry × Nat)) : Prop :=
  ∀ before entry after, indexed = before ++ entry :: after → isRequired entry.1 →
    saturateU64 (bytesBehind maxBytes recentStart isRequired bytes before + summaryBytes entry.1) ≤
      maxBytes

/-- Every entry can be encoded. -/
def EntriesEncode (source : List ConversationEntry) : Prop :=
  ∀ entry ∈ source, (EntrySerde.entryBytes entry).isSome

/-- A summary request is refused as too large exactly when the required entries are; otherwise its
material holds the required entries and only entries of the projection, in their order, within the bound. -/
structure SoundMaterial (conversation : ConversationState) (maxBytes : Nat)
    (requirements : List String) (recentWindow : Nat) : Prop where
  tooLarge : buildSummaryRequestMaterial conversation maxBytes requirements recentWindow =
      .error .summaryMaterialTooLarge ↔
    maxBytes < requiredBytes (summaryEntryIsRequired (currentInput conversation.providerProjection)
      requirements) conversation.providerProjection
  material : ∀ material,
    buildSummaryRequestMaterial conversation maxBytes requirements recentWindow = .ok material →
    (conversation.providerProjection.filter (summaryEntryIsRequired
      (currentInput conversation.providerProjection) requirements)).Sublist material.entries ∧
    material.entries.Sublist conversation.providerProjection ∧
    material.serializedBytes ≤ maxBytes ∧
    material.serializedBytes = saturateU64 (material.entries.map summaryBytes).sum

/-- The bounds and the sizes of the entries with which no recent entry takes the room of a required one. -/
structure RequiredHaveRoom (source : List ConversationEntry) (maxBytes : Nat)
    (isRequired : ConversationEntry → Bool) (recentWindow : Nat) : Prop where
  /-- A request with an empty bound is refused for that alone. -/
  bounds : maxBytes = 0 ∨ recentWindow = 0 → requiredBytes isRequired source ≤ maxBytes
  /-- The sum of the sizes can exceed the bound unless that is the greatest one. -/
  large : maxBytes < requiredBytes isRequired source → maxBytes < UInt64.size - 1
  fit : 0 < maxBytes → 0 < recentWindow → requiredBytes isRequired source ≤ maxBytes →
    RequiredFit maxBytes (source.length - recentWindow) isRequired 0 source.zipIdx

end Summary

namespace Json

/-- How a character of a string is encoded. -/
def compactChar (character : Char) : List Char :=
  if character = '"' then ['\\', '"']
  else if character = '\\' then ['\\', '\\']
  else if character = '\x08' then ['\\', 'b']
  else if character = '\t' then ['\\', 't']
  else if character = '\n' then ['\\', 'n']
  else if character = '\x0c' then ['\\', 'f']
  else if character = '\r' then ['\\', 'r']
  else if character.toNat < 32 then
    ['\\', 'u', '0', '0', Nat.digitChar (character.toNat / 16), Nat.digitChar (character.toNat % 16)]
  else [character]

/-- The encoding of a string. -/
def compactText (text : String) : List Char := '"' :: text.toList.flatMap compactChar ++ ['"']

mutual

variable [DoubleText]

/-- `serde_json::to_string`. -/
def compact : Json → List Char
  | null => ['n', 'u', 'l', 'l']
  | bool value => if value then ['t', 'r', 'u', 'e'] else ['f', 'a', 'l', 's', 'e']
  | number value => value.text.toList
  | string value => compactText value
  | array items => '[' :: [','].intercalate (compactItems items) ++ [']']
  | object entries => '{' :: [','].intercalate (compactEntries entries) ++ ['}']

/-- The encodings of an array's items. -/
def compactItems : List Json → List (List Char)
  | [] => []
  | item :: rest => compact item :: compactItems rest

/-- The encodings of an object's members. -/
def compactEntries : List (String × Json) → List (List Char)
  | [] => []
  | (key, value) :: rest => (compactText key ++ ':' :: compact value) :: compactEntries rest

end

end Json

/-- `serde_json::to_value` of a conversation entry. -/
class EntryValue where
  entryValue : ConversationEntry → Option Json

/-- An entry of a summary, with its index in the projection. -/
def summaryEntry (index : Nat) (entry : Json) : Json :=
  .object [("source_index", .number (.ofU64 index)), ("entry", entry)]

/-- The entries that are not protected, as a summary shows them. -/
def replaceableEntries [EntryValue] (source : List ConversationEntry) : Except CompactionError (List Json) :=
  (source.zipIdx.filter fun indexed => !indexed.1.isProtected).mapM fun indexed => do
    let entry ← okOr (EntryValue.entryValue indexed.1) .summaryEncoding
    return summaryEntry indexed.2 entry

/-- A summary of the entries that are retained. -/
def typedSummaryEnvelope (sourceEntryCount : Nat) (replaceable retained : List Json) : Json :=
  .object [("schema", .string "agentmod.context-summary.v1"),
    ("source_entry_count", .number (.ofU64 sourceEntryCount)),
    ("replaceable_entry_count", .number (.ofU64 replaceable.length)),
    ("omitted_entry_count", .number (.ofU64 (replaceable.length - retained.length))),
    ("entries", .array retained)]

/-- `encoded_json_len`. -/
def encodedJsonLen [DoubleText] (value : Json) : Nat := utf8Length value.compact

/-- A summary of the retained entries is within the bound. -/
def summaryFits [DoubleText] (maxBytes sourceEntryCount : Nat) (replaceable retained : List Json) : Bool :=
  encodedJsonLen (typedSummaryEnvelope sourceEntryCount replaceable retained) ≤ maxBytes

/-- Retains entries from the newest one on, until one does not fit. -/
def retainRecent {α : Type} (fits : List α → Bool) : List α → List α → List α
  | [], retained => retained
  | entry :: older, retained =>
    if fits (entry :: retained) then retainRecent fits older (entry :: retained) else retained

/-- The entries that a summary retains. -/
def retainedEntries [DoubleText] (maxBytes sourceEntryCount : Nat) (replaceable : List Json) : List Json :=
  retainRecent (summaryFits maxBytes sourceEntryCount replaceable) replaceable.reverse []

/-- Builds a deterministic, bounded typed summary from the provider projection. -/
def boundedTypedSummary [DoubleText] [EntryValue] (source : List ConversationEntry) (maxBytes : Nat) :
    Except CompactionError (List Char) := do
  let replaceable ← replaceableEntries source
  let retained := retainedEntries maxBytes source.length replaceable
  refuseIf (¬ summaryFits maxBytes source.length replaceable retained) .summaryBoundTooSmall
  return (typedSummaryEnvelope source.length replaceable retained).compact

/-- The longest of the newest entries whose summary is within the bound. -/
structure LongestSummary [DoubleText] (maxBytes sourceEntryCount : Nat) (replaceable retained : List Json) :
    Prop where
  newest : retained <:+ replaceable
  fits : summaryFits maxBytes sourceEntryCount replaceable retained
  longest : ∀ other, other <:+ replaceable → summaryFits maxBytes sourceEntryCount replaceable other →
    other <:+ retained

end AgentMod
