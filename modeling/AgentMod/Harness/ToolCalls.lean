import AgentMod.Harness.Live
import AgentMod.Harness.Normalizers

/-! The tool calls of an exchange: their deltas, their proposals, and the identities by which these belong
together. -/

namespace AgentMod

/-- A fragment of a tool call: its index, its identity if there is one, and more of its name and arguments. -/
structure ToolCallPiece where
  index : Nat
  id : Option String
  name : String
  arguments : String
  deriving DecidableEq

/-- One thing that a chunk says. -/
inductive ChatPiece where
  | usage (usage : DependencyUsage)
  | finishReason (reason : String)
  | content (text : String)
  | toolCall (piece : ToolCallPiece)
  deriving DecidableEq

namespace ChatPiece

/-- The usage of a piece. -/
def usage? : ChatPiece → Option DependencyUsage
  | usage observed => some observed
  | _ => none

/-- The finish reason of a piece. -/
def finishReason? : ChatPiece → Option String
  | finishReason reason => some reason
  | _ => none

/-- The text of a piece. -/
def content? : ChatPiece → Option String
  | content text => some text
  | _ => none

/-- The tool call fragment of a piece. -/
def toolCall? : ChatPiece → Option ToolCallPiece
  | toolCall piece => some piece
  | _ => none

/-- The tool call fragment that a piece has for an index. -/
def toolCallAt? (index : Nat) (piece : ChatPiece) : Option ToolCallPiece :=
  piece.toolCall?.filter (·.index == index)

/-- The piece is pushed as an event. -/
def isPushed : ChatPiece → Bool
  | content text => !text.isEmpty
  | toolCall piece => !piece.arguments.isEmpty
  | _ => false

end ChatPiece

namespace OpenAiStreamNormalizer

/-- The tool call fragment that a tool call delta is read as. -/
def toolCallPiece (toolCall : Json) : ToolCallPiece where
  index := toolCall.index
  id := (toolCall.get? "id").bind (·.asStr?)
  name := ((toolCall.pointer? ["function", "name"]).bind (·.asStr?)).getD ""
  arguments := ((toolCall.pointer? ["function", "arguments"]).bind (·.asStr?)).getD ""

/-- The pieces of a choice. -/
def choicePieces (choice : Json) : List ChatPiece :=
  (((choice.get? "finish_reason").bind (·.asStr?)).map .finishReason).toList ++
    (((choice.pointer? ["delta", "content"]).bind (·.asStr?)).map .content).toList ++
    (((choice.get? "delta").map toolCallsOf).getD []).map (.toolCall ∘ toolCallPiece)

/-- The pieces of a chunk. -/
def chunkPieces (chunk : Json) : List ChatPiece :=
  ((chunk.get? "usage").map (.usage ∘ parseUsage)).toList ++ (choicesOf chunk).flatMap choicePieces

/-- What a fragment leaves in the buffer of its tool call. -/
def takeFragment (buffer : ToolCallBuffer) (piece : ToolCallPiece) : ToolCallBuffer where
  callId := piece.id.getD buffer.callId
  name := buffer.name ++ piece.name
  arguments := buffer.arguments ++ piece.arguments

/-- What a piece leaves in the normalizer, and what it pushes. -/
def takePiece : Pushing → ChatPiece → Pushing
  | (normalizer, events), .usage usage =>
    ({ normalizer with usage := observeUsage normalizer.usage usage }, events)
  | (normalizer, events), .finishReason reason => ({ normalizer with finishReason := some reason }, events)
  | (normalizer, events), .content text =>
    if text.isEmpty then (normalizer, events)
    else ({ normalizer with started := true }, events ++ [.textDelta text])
  | (normalizer, events), .toolCall piece =>
    let buffer := takeFragment (normalizer.toolBuffers[piece.index]?.getD .default) piece
    let toolBuffers := normalizer.toolBuffers.insert piece.index buffer
    if piece.arguments.isEmpty then ({ normalizer with toolBuffers }, events)
    else
      ({ normalizer with toolBuffers, started := true },
        events ++ [.toolCallDelta (buffer.identity piece.index) "" piece.arguments])

/-- What `handle` does with the chunks of a stream, behind some events. -/
def handleAll (pushing : Pushing) (chunks : List Json) : Pushing :=
  chunks.foldl (fun pushing chunk =>
    let (normalizer, events) := pushing.1.handle chunk
    (normalizer, pushing.2 ++ events)) pushing

end OpenAiStreamNormalizer

/-- The fragments of a tool call among the pieces of a stream. -/
def fragmentsAt (index : Nat) (pieces : List ChatPiece) : List ToolCallPiece :=
  pieces.filterMap (ChatPiece.toolCallAt? index)

/-- The buffer of a tool call behind the pieces of a stream, if they say anything of it. -/
def bufferAt (index : Nat) (pieces : List ChatPiece) : Option ToolCallBuffer :=
  match fragmentsAt index pieces with
  | [] => none
  | fragments => some (fragments.foldl OpenAiStreamNormalizer.takeFragment .default)

/-- What an event says of a tool call. -/
inductive CallEntry where
  | delta (callId fragment : String)
  | proposal (callId arguments : String)
  deriving DecidableEq

namespace CallEntry

/-- The identity that an entry carries. -/
def callId : CallEntry → String
  | delta callId _ | proposal callId _ => callId

/-- The entry proposes its call. -/
def isProposal : CallEntry → Bool
  | proposal .. => true
  | delta .. => false

/-- The fragment of a delta. -/
def fragment? : CallEntry → Option String
  | delta _ fragment => some fragment
  | proposal .. => none

end CallEntry

/-- What an event says of a tool call, if it does. -/
def DependencyProviderEvent.callEntryOf : DependencyProviderEvent → Option CallEntry
  | .toolCallDelta callId _ fragment => some (.delta callId fragment)
  | .toolCallProposed _ callId _ arguments => some (.proposal callId arguments)
  | _ => none

/-- The entries of the tool calls of an exchange. -/
def callEntries (events : List DependencyProviderEvent) : List CallEntry :=
  events.filterMap (·.callEntryOf)

/-- The identities of the proposed calls. -/
def proposedIds (entries : List CallEntry) : List String :=
  (entries.filter (·.isProposal)).map (·.callId)

/-- The fragments of the deltas with an identity. -/
def fragmentsOf (callId : String) (entries : List CallEntry) : List String :=
  (entries.filter (·.callId == callId)).filterMap (·.fragment?)

/-- The arguments that fragments make up, which are an empty object where there are none. -/
def argumentsOfFragments (fragments : List String) : String :=
  if fragments.isEmpty then "{}" else String.join fragments

/-- The proposals of an exchange go by different identities, each delta carries the identity of exactly one
proposal, and that proposal's arguments are the fragments of its deltas. -/
structure CallsIdentified (entries : List CallEntry) : Prop where
  distinct : (proposedIds entries).Nodup
  proposed : ∀ callId fragment, .delta callId fragment ∈ entries → (proposedIds entries).count callId = 1
  arguments : ∀ callId arguments, .proposal callId arguments ∈ entries →
    arguments = argumentsOfFragments (fragmentsOf callId entries)

/-- The events of an OpenAI-compatible exchange that completes. -/
def openAiExchange [ProviderJson] (chunks : List Json) : Except String (List DependencyProviderEvent) := do
  let (normalizer, events) := OpenAiStreamNormalizer.handleAll (.new, []) chunks
  let proposals ← (StreamNormalizer.openAi normalizer).finishOpenAiTools
  return events ++ proposals

/-- The events of an Anthropic exchange, each event with its type. -/
def anthropicExchange (payloads : List (String × Json)) : List DependencyProviderEvent :=
  (payloads.foldl (fun (normalizer, events) payload =>
    let (normalizer, emitted) := normalizer.handle payload.2 payload.1
    (normalizer, events ++ emitted)) (AnthropicStreamNormalizer.new, [])).2

/-- The events of a Gemini exchange. -/
def geminiExchange [ProviderJson] (chunks : List Json) : List DependencyProviderEvent :=
  (chunks.foldl (fun (normalizer, events) chunk =>
    let (normalizer, emitted) := GeminiStreamNormalizer.handle normalizer chunk
    (normalizer, events ++ emitted)) (GeminiStreamNormalizer.new, [])).2

/-- The identity by which a call goes behind some pieces. -/
def identityAt (index : Nat) (pieces : List ChatPiece) : String :=
  ((bufferAt index pieces).getD .default).identity index

/-- The identity by which a call is proposed at the end. -/
def finalIdentity (index : Nat) (pieces : List ChatPiece) : String :=
  ((bufferAt index pieces).getD .default).identity 0

/-- The pieces give each call its identity with its first arguments, and different identities to different
calls. -/
structure OpenAiIdentified (pieces : List ChatPiece) : Prop where
  stable : ∀ front piece back, pieces = front ++ .toolCall piece :: back → piece.arguments.isEmpty = false →
    identityAt piece.index (front ++ [.toolCall piece]) = finalIdentity piece.index pieces
  distinct : ∀ first second buffer other, bufferAt first pieces = some buffer →
    bufferAt second pieces = some other → buffer.isUsed → other.isUsed →
    finalIdentity first pieces = finalIdentity second pieces → first = second

/-- What an Anthropic event says of a tool block. -/
inductive BlockPiece where
  | start (index : Nat) (id name : Option String)
  | delta (index : Nat) (fragment : String)
  | stop (index : Nat)
  deriving DecidableEq

/-- The index of the tool block that a piece is about. -/
def BlockPiece.index : BlockPiece → Nat
  | start index _ _ | delta index _ | stop index => index

/-- What an Anthropic event is read as, where it is about a tool block. -/
def blockPiece? (payload : String × Json) : Option BlockPiece :=
  match payload.1 with
  | "content_block_start" => do
    let block ← payload.2.get? "content_block"
    guard ((block.get? "type").bind (·.asStr?) = some "tool_use")
    return .start payload.2.index ((block.get? "id").bind (·.asStr?)) ((block.get? "name").bind (·.asStr?))
  | "content_block_delta" => do
    let delta ← payload.2.get? "delta"
    guard ((delta.get? "type").bind (·.asStr?) = some "input_json_delta")
    let fragment ← ((delta.get? "partial_json").bind (·.asStr?)).filter (!·.isEmpty)
    return .delta payload.2.index fragment
  | "content_block_stop" => some (.stop payload.2.index)
  | _ => none

/-- What a piece leaves in the buffer of its tool block. -/
def takeBlock (buffer : ToolCallBuffer) : BlockPiece → ToolCallBuffer
  | .start _ id name => ⟨id.getD buffer.callId, name.getD buffer.name, buffer.arguments⟩
  | .delta _ fragment => { buffer with arguments := buffer.arguments ++ fragment }
  | .stop _ => buffer

/-- The buffer of a tool block behind some pieces. -/
def blockAt (index : Nat) (pieces : List BlockPiece) : ToolCallBuffer :=
  (pieces.filter (·.index == index)).foldl takeBlock .default

/-- A stop proposes its tool block where the block has a name or arguments. -/
def Proposes (front : List BlockPiece) (index : Nat) : Prop :=
  (blockAt index front).isUsed

/-- Each tool block with arguments is stopped behind them under the identity they were sent under, no block is
proposed twice, and different blocks go by different identities. -/
structure AnthropicIdentified (pieces : List BlockPiece) : Prop where
  stopped : ∀ front index fragment back, pieces = front ++ .delta index fragment :: back →
    ∃ between behind, back = between ++ .stop index :: behind ∧
      (blockAt index (front ++ .delta index fragment :: between)).identity index =
        (blockAt index (front ++ [.delta index fragment])).identity index
  distinct : ∀ front first between second behind,
    pieces = front ++ .stop first :: between ++ .stop second :: behind → Proposes front first →
    Proposes (front ++ .stop first :: between) second → first ≠ second ∧
      (blockAt first front).identity first ≠
        (blockAt second (front ++ .stop first :: between)).identity second

/-- The events that a Gemini part has before its call, which is one where it has text. -/
def textsOf (part : Json) : Nat :=
  (((part.get? "text").bind (·.asStr?)).filter (!·.isEmpty)).toList.length

/-- A Gemini part calls a function by a name. -/
def callsFunction (part : Json) : Bool :=
  (part.get? "functionCall").any fun call => !(((call.get? "name").bind (·.asStr?)).getD "").isEmpty

/-- The numbers of events that go before the calls of parts: one for each text, and two for each call. -/
def callPlaces (place : Nat) : List Json → List Nat
  | [] => []
  | part :: rest =>
    let before := place + textsOf part
    if callsFunction part then before :: callPlaces (before + 2) rest else callPlaces before rest

/-- The parts of all candidates of a Gemini chunk. -/
def chunkParts (chunk : Json) : List Json :=
  (GeminiStreamNormalizer.candidatesOf chunk).flatMap GeminiStreamNormalizer.partsOf

/-- No two calls stand behind equally many events of their chunks. -/
def GeminiApart (chunks : List Json) : Prop :=
  (chunks.flatMap fun chunk => callPlaces 0 (chunkParts chunk)).Nodup

end AgentMod
