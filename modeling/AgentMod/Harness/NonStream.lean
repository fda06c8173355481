import AgentMod.Harness.Live
import AgentMod.Harness.ToolCalls
import AgentMod.Primitives.Text

/-! Provider responses that are not streamed, and what it means that streaming agrees with them. -/

namespace AgentMod

/-- `MAX_NON_STREAM_BODY_BYTES`. -/
def maxNonStreamBodyBytes : Nat := 32 * 1024 * 1024

/-- The body of a response, which `truncate` cuts to its bound or panics inside a character. -/
def truncatedBody (body : String) : Fallible String String :=
  if maxNonStreamBodyBytes < body.utf8ByteSize then do
    let taken ← sliceTo body.toList maxNonStreamBodyBytes
    return .ofList taken
  else .ok body

/-- The JSON number of an index. -/
def indexJson (index : Nat) : Json :=
  .number (.posInt (index % 2 ^ 64) (Nat.mod_lt _ (by decide)))

/-- The tool call delta of a tool call in a message. -/
def openAiCallDelta (index : Nat) (call : Json) : Json :=
  .object [("index", indexJson index), ("id", (call.get? "id").getD .null),
    ("function", (call.get? "function").getD (.object []))]

/-- The delta of a message. -/
def openAiDelta (message : Json) : Json :=
  .object ((((message.get? "content").bind (·.asStr?)).map fun content => ("content", .string content)).toList ++
    (((message.get? "tool_calls").bind (·.asArray?)).map fun calls =>
      ("tool_calls", .array (calls.mapIdx openAiCallDelta))).toList)

/-- The chunk of a choice. -/
def openAiChoiceChunk (choice : Json) : Json :=
  .object [("choices", .array [.object [
    ("delta", ((choice.get? "message").map openAiDelta).getD (.object [])),
    ("finish_reason", (choice.get? "finish_reason").getD .null)]])]

/-- `synthesize_openai_non_stream`. -/
def synthesizeOpenAiNonStream (value : Json) : Except String (List Json) :=
  match (value.get? "choices").bind (·.asArray?) with
  | none => .error "provider response has no choices"
  | some choices =>
    .ok (((value.get? "usage").map fun usage => .object [("usage", usage)]).toList ++ choices.map openAiChoiceChunk)

/-- The event of a type at an index, with one more entry. -/
def anthropicEvent (eventType : String) (index : Nat) (entries : List (String × Json)) : String × Json :=
  (eventType, .object (("index", indexJson index) :: entries))

/-- The events of a content block of a message. -/
def anthropicBlockEvents [ProviderJson] (index : Nat) (block : Json) : List (String × Json) :=
  match ((block.get? "type").bind (·.asStr?)).getD "" with
  | "text" =>
    let text := ((block.get? "text").bind (·.asStr?)).getD ""
    [anthropicEvent "content_block_start" index
      [("content_block", .object [("type", .string "text"), ("text", .string "")])],
    anthropicEvent "content_block_delta" index
      [("delta", .object [("type", .string "text_delta"), ("text", .string text)])],
    anthropicEvent "content_block_stop" index []]
  | "tool_use" =>
    [anthropicEvent "content_block_start" index [("content_block", block)]] ++
    ((block.get? "input").map fun input => anthropicEvent "content_block_delta" index
      [("delta", .object [("type", .string "input_json_delta"),
        ("partial_json", .string (ProviderJson.print input))])]).toList ++
    [anthropicEvent "content_block_stop" index []]
  | _ => []

/-- `synthesize_anthropic_non_stream`. -/
def synthesizeAnthropicNonStream [ProviderJson] (value : Json) : Except String (List (String × Json)) :=
  match (value.get? "content").bind (·.asArray?) with
  | none => .error "provider response has no content"
  | some content =>
    .ok (((value.get? "usage").map fun usage =>
        ("message_start", Json.object [("message", .object [("usage", usage)])])).toList ++
      (content.mapIdx anthropicBlockEvents).flatten ++
      ((value.get? "stop_reason").map fun reason =>
        ("message_delta", Json.object [("delta", .object [("stop_reason", reason)]),
          ("usage", (value.get? "usage").getD (.object []))])).toList ++
      [("message_stop", .object [])])

/-- The chunks of a body with the types of their events. -/
def synthesize [ProviderJson] (wire : ProviderWire) (value : Json) : Except String (List (String × Json)) :=
  match wire with
  | .openAi => (synthesizeOpenAiNonStream value).map (·.map ("message", ·))
  | .anthropic => synthesizeAnthropicNonStream value
  | .gemini => .ok [("message", value)]

/-- A normalizer goes over chunks with the types of their events. -/
def StreamNormalizer.handleAll [ProviderJson] (normalizer : StreamNormalizer) (chunks : List (String × Json)) :
    StreamNormalizer × List DependencyProviderEvent :=
  chunks.foldl (fun (normalizer, events) chunk =>
    let (normalizer, emitted) := normalizer.handle chunk.1 chunk.2
    (normalizer, events ++ emitted)) (normalizer, [])

/-- `execute_non_streaming`. Proposals with arguments that are no JSON are left out. -/
def executeNonStreaming [ProviderJson] (wire : ProviderWire)
    (pricing : DependencyUsage → Option DependencyCostMetadata) (response : String) :
    Fallible String (List DependencyProviderEvent) := do
  let body ← truncatedBody response
  match ProviderJson.parse body with
  | .error _ =>
    return [.failed .invalidRequest "provider returned a malformed non-streaming response" .never]
  | .ok value =>
    let chunks ← (synthesize wire value).mapError .error
    let (normalizer, events) := (StreamNormalizer.new wire).handleAll chunks
    let proposals := normalizer.finishOpenAiTools.toOption.getD []
    let usage := normalizer.usage.getD .default
    return .started :: events ++ proposals ++
      [.completed (normalizer.finishReason.getD "stop") usage (pricing usage)]

/-- A tool call of a chat completion. -/
structure ChatToolCall where
  id : String
  name : String
  arguments : String
  deriving DecidableEq

/-- A chat completion, whose tool calls have identities of their own. -/
structure ChatCompletion where
  content : String
  toolCalls : List ChatToolCall
  finishReason : Option String
  usage : DependencyUsage
  named : ∀ call ∈ toolCalls, call.id ≠ ""
  distinct : (toolCalls.map (·.id)).Nodup
  counted : toolCalls.length ≤ 2 ^ 64

/-- The buffer that a tool call fills. -/
def ChatToolCall.buffer (call : ChatToolCall) : ToolCallBuffer :=
  ⟨call.id, call.name, call.arguments⟩

/-- The JSON of a tool call in a message. -/
structure DescribesCall (value : Json) (call : ChatToolCall) : Prop where
  id : (value.get? "id").bind (·.asStr?) = some call.id
  name : ((value.pointer? ["function", "name"]).bind (·.asStr?)).getD "" = call.name
  arguments : ((value.pointer? ["function", "arguments"]).bind (·.asStr?)).getD "" = call.arguments

/-- The JSON of a completion in a response: one choice with a message. -/
structure Describes (value : Json) (completion : ChatCompletion) : Prop where
  choice : ∃ choice message, (value.get? "choices").bind (·.asArray?) = some [choice] ∧
    choice.get? "message" = some message ∧
    (choice.get? "finish_reason").bind (·.asStr?) = completion.finishReason ∧
    ((message.get? "content").bind (·.asStr?)).getD "" = completion.content ∧
    List.Forall₂ DescribesCall (OpenAiStreamNormalizer.toolCallsOf message) completion.toolCalls
  usage : ((value.get? "usage").map OpenAiStreamNormalizer.parseUsage).getD .default = completion.usage

/-- The fragments of a tool call: its identity is sent before its arguments. -/
structure FragmentsCall (fragments : List ToolCallPiece) (call : ChatToolCall) : Prop where
  identified : ∃ front first back, fragments = front ++ first :: back ∧
    (∀ fragment ∈ front, fragment.arguments = "") ∧ first.id = some call.id
  ids : ∀ fragment ∈ fragments, ∀ id, fragment.id = some id → id = call.id
  name : String.join (fragments.map (·.name)) = call.name
  arguments : String.join (fragments.map (·.arguments)) = call.arguments

/-- The pieces of a stream are the fragments of a completion, in any interleaving of text and calls. -/
structure Fragments (pieces : List ChatPiece) (completion : ChatCompletion) : Prop where
  content : String.join (pieces.filterMap (·.content?)) = completion.content
  calls : ∀ index call, completion.toolCalls[index]? = some call → FragmentsCall (fragmentsAt index pieces) call
  others : ∀ index, completion.toolCalls[index]? = none → fragmentsAt index pieces = []
  finishReason : ∀ reason ∈ pieces.filterMap (·.finishReason?), completion.finishReason = some reason
  finished : completion.finishReason.isSome → (pieces.filterMap (·.finishReason?)).isEmpty = false
  usage : ∀ usage ∈ pieces.filterMap (·.usage?), usage = completion.usage ∨ usage = .default
  used : completion.usage ≠ .default → completion.usage ∈ pieces.filterMap (·.usage?)

/-- The stream stays within its budgets of events and of text. -/
def WithinBudget (pieces : List ChatPiece) (completion : ChatCompletion) : Prop :=
  (pieces.filter (·.isPushed)).length < maxStreamEvents ∧
    completion.content.utf8ByteSize ≤ maxEventDeltasBytes

/-- The events of a stream carry chunks; those without data carry nothing. -/
inductive Carries [ProviderJson] : List SseEvent → List Json → Prop where
  | nil : Carries [] []
  | blank {event : SseEvent} {events : List SseEvent} {chunks : List Json} :
    isBlank event.data → Carries events chunks → Carries (event :: events) chunks
  | chunk {event : SseEvent} {events : List SseEvent} {chunk : Json} {chunks : List Json} :
    event.data ≠ "[DONE]" → isBlank event.data = false → ProviderJson.parse event.data = .ok chunk →
    chunk.get? "error" = none → Carries events chunks → Carries (event :: events) (chunk :: chunks)

/-- The receptions bring a stream to its end: its events, and behind them `[DONE]` or the end of the file. -/
def Streams (receptions : List Reception) (last : StreamEnd) (events : List SseEvent) : Prop :=
  ∃ ending after, observations .new receptions last = events.map .event ++ ending :: after ∧
    (ending = .endOfFile ∨ ∃ event, ending = .event event ∧ event.data = "[DONE]")

/-- The arguments of the calls that are proposed are JSON. -/
def ArgumentsParse [ProviderJson] (completion : ChatCompletion) : Prop :=
  ∀ call ∈ completion.toolCalls, call.buffer.isUsed →
    ∃ value, ProviderJson.parse call.buffer.argumentsJson = .ok value

namespace DependencyProviderEvent

/-- The text of a text delta. -/
def text? : DependencyProviderEvent → Option String
  | textDelta text => some text
  | _ => none

/-- The event is a delta. -/
def isDelta : DependencyProviderEvent → Bool
  | textDelta _ | toolCallDelta .. => true
  | _ => false

end DependencyProviderEvent

/-- What the events of an exchange say once the deltas are put together. -/
structure ExchangeSummary where
  text : String
  arguments : String → String
  others : List DependencyProviderEvent

/-- Puts together the text deltas of an exchange, and the argument deltas of each call. -/
def summarize (events : List DependencyProviderEvent) : ExchangeSummary where
  text := String.join (events.filterMap (·.text?))
  arguments callId := String.join (fragmentsOf callId (callEntries events))
  others := events.filter (!·.isDelta)

end AgentMod
