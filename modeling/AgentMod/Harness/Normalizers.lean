import AgentMod.Harness.Provider

/-! The normalizers of the streams of the providers. -/

namespace AgentMod

/-- Bounded tool-call accumulator for one streamed tool call. -/
structure ToolCallBuffer where
  callId : String
  name : String
  arguments : String
  deriving DecidableEq

/-- `ToolCallBuffer::default`. -/
def ToolCallBuffer.default : ToolCallBuffer := ⟨"", "", ""⟩

/-- The buffers of the tool calls of a message, by their index. -/
abbrev ToolBuffers := Std.ExtTreeMap Nat ToolCallBuffer

/-- `format!("tool-call-{index}")`. -/
def inventedCallId (index : Nat) : String :=
  "tool-call-" ++ toString index

/-- The identity that a call goes by: what the provider gave it, or an invented one. -/
def ToolCallBuffer.identity (buffer : ToolCallBuffer) (index : Nat) : String :=
  if buffer.callId.isEmpty then inventedCallId index else buffer.callId

/-- The buffer has a name or arguments. -/
def ToolCallBuffer.isUsed (buffer : ToolCallBuffer) : Bool :=
  !buffer.name.isEmpty || !buffer.arguments.isEmpty

/-- The arguments of a call, which are an empty object where none were sent. -/
def ToolCallBuffer.argumentsJson (buffer : ToolCallBuffer) : String :=
  if buffer.arguments.isEmpty then "{}" else buffer.arguments

/-- Normalizes OpenAI-compatible stream chunks into provider events. -/
structure OpenAiStreamNormalizer where
  toolBuffers : ToolBuffers
  finishReason : Option String
  usage : Option DependencyUsage
  started : Bool

/-- Accumulated final tool proposal. -/
structure FinalToolCall where
  callId : String
  name : String
  argumentsJson : String

namespace OpenAiStreamNormalizer

/-- `OpenAiStreamNormalizer::new`. -/
def new : OpenAiStreamNormalizer := ⟨∅, none, none, false⟩

/-- `parse_usage`. -/
def parseUsage (usage : Json) : DependencyUsage where
  inputTokens := usage.countAt ["prompt_tokens"]
  outputTokens := usage.countAt ["completion_tokens"]
  cacheReadTokens := usage.countAt ["prompt_tokens_details", "cached_tokens"]
  cacheWriteTokens := 0
  reasoningTokens := usage.countAt ["completion_tokens_details", "reasoning_tokens"]
  estimated := false

/-- A normalizer with the events that it has pushed. -/
abbrev Pushing := OpenAiStreamNormalizer × List DependencyProviderEvent

/-- What an identity in a tool call delta leaves in its buffer. -/
def takeId (toolCall : Json) (buffer : ToolCallBuffer) : ToolCallBuffer :=
  match (toolCall.get? "id").bind (·.asStr?) with
  | some id => { buffer with callId := id }
  | none => buffer

/-- What a name in the function of a tool call delta leaves in its buffer. -/
def takeName (function : Json) (buffer : ToolCallBuffer) : ToolCallBuffer :=
  match (function.get? "name").bind (·.asStr?) with
  | some name => { buffer with name := buffer.name ++ name }
  | none => buffer

/-- The argument fragment of a function, if it is not empty. -/
def argumentsOf (function : Json) : Option String :=
  ((function.get? "arguments").bind (·.asStr?)).filter (!·.isEmpty)

/-- What `handle` does with one tool call delta. -/
def handleToolCall : Pushing → Json → Pushing
  | (normalizer, events), toolCall =>
    let index := toolCall.index
    let buffer := takeId toolCall (normalizer.toolBuffers[index]?.getD .default)
    match toolCall.get? "function" with
    | none => ({ normalizer with toolBuffers := normalizer.toolBuffers.insert index buffer }, events)
    | some function =>
      let buffer := takeName function buffer
      match argumentsOf function with
      | none => ({ normalizer with toolBuffers := normalizer.toolBuffers.insert index buffer }, events)
      | some arguments =>
        let buffer := { buffer with arguments := buffer.arguments ++ arguments }
        ({ normalizer with toolBuffers := normalizer.toolBuffers.insert index buffer, started := true },
          events ++ [.toolCallDelta (buffer.identity index) "" arguments])

/-- What `handle` does with the finish reason of a choice. -/
def takeFinishReason (choice : Json) (normalizer : OpenAiStreamNormalizer) : OpenAiStreamNormalizer :=
  match (choice.get? "finish_reason").bind (·.asStr?) with
  | some reason => { normalizer with finishReason := some reason }
  | none => normalizer

/-- What `handle` does with the text of a delta. -/
def takeContent (delta : Json) : Pushing → Pushing
  | (normalizer, events) =>
    match ((delta.get? "content").bind (·.asStr?)).filter (!·.isEmpty) with
    | some text => ({ normalizer with started := true }, events ++ [.textDelta text])
    | none => (normalizer, events)

/-- The tool call deltas of a delta. -/
def toolCallsOf (delta : Json) : List Json :=
  ((delta.get? "tool_calls").bind (·.asArray?)).getD []

/-- What `handle` does with one choice. -/
def handleChoice : Pushing → Json → Pushing
  | (normalizer, events), choice =>
    let normalizer := takeFinishReason choice normalizer
    match choice.get? "delta" with
    | none => (normalizer, events)
    | some delta => (toolCallsOf delta).foldl handleToolCall (takeContent delta (normalizer, events))

/-- What `handle` does with the usage of a chunk. -/
def takeUsage (chunk : Json) (normalizer : OpenAiStreamNormalizer) : OpenAiStreamNormalizer :=
  match chunk.get? "usage" with
  | some usage => { normalizer with usage := observeUsage normalizer.usage (parseUsage usage) }
  | none => normalizer

/-- The choices of a chunk. -/
def choicesOf (chunk : Json) : List Json :=
  ((chunk.get? "choices").bind (·.asArray?)).getD []

/-- `handle`, which never fails. -/
def handle (normalizer : OpenAiStreamNormalizer) (chunk : Json) : Pushing :=
  (choicesOf chunk).foldl handleChoice (takeUsage chunk normalizer, [])

/-- The final tool call of a buffer, which is always the first one where the provider gave no identity. -/
def finalToolCall (buffer : ToolCallBuffer) : FinalToolCall :=
  ⟨buffer.identity 0, buffer.name, buffer.argumentsJson⟩

/-- The final tool calls, in the order of their indices. -/
def finalToolCalls (normalizer : OpenAiStreamNormalizer) : List FinalToolCall :=
  ((normalizer.toolBuffers.toList.map Prod.snd).filter ToolCallBuffer.isUsed).map finalToolCall

/-- The check that the arguments of a final tool call are JSON. -/
def checkArguments [ProviderJson] (call : FinalToolCall) : Except String Unit :=
  match ProviderJson.parse call.argumentsJson with
  | .ok _ => .ok ()
  | .error error => .error ("malformed tool arguments: " ++ error)

/-- `finish`. -/
def finish [ProviderJson] (normalizer : OpenAiStreamNormalizer) : Except String (List FinalToolCall) := do
  normalizer.finalToolCalls.forM checkArguments
  return normalizer.finalToolCalls

end OpenAiStreamNormalizer

/-- Normalizes Anthropic `messages` SSE events into provider events. -/
structure AnthropicStreamNormalizer where
  toolBlocks : ToolBuffers
  finishReason : Option String
  usage : Option DependencyUsage
  started : Bool

namespace AnthropicStreamNormalizer

/-- `AnthropicStreamNormalizer::new`. -/
def new : AnthropicStreamNormalizer := ⟨∅, none, none, false⟩

/-- `parse_usage`. -/
def parseUsage (usage : Json) : DependencyUsage where
  inputTokens := usage.countAt ["input_tokens"]
  outputTokens := usage.countAt ["output_tokens"]
  cacheReadTokens := usage.countAt ["cache_read_input_tokens"]
  cacheWriteTokens := usage.countAt ["cache_creation_input_tokens"]
  reasoningTokens := 0
  estimated := false

variable (normalizer : AnthropicStreamNormalizer) (payload : Json)

/-- What `handle` does with usage, if there is any. -/
def takeUsage (usage : Option Json) : AnthropicStreamNormalizer :=
  match usage with
  | some usage => { normalizer with usage := observeUsage normalizer.usage (parseUsage usage) }
  | none => normalizer

/-- The block that a tool block starts with: its identity and its name replace what was there. -/
def startBlock (block : Json) (buffer : ToolCallBuffer) : ToolCallBuffer where
  callId := ((block.get? "id").bind (·.asStr?)).getD buffer.callId
  name := ((block.get? "name").bind (·.asStr?)).getD buffer.name
  arguments := buffer.arguments

/-- What `handle` does with `content_block_start`. -/
def contentBlockStart : AnthropicStreamNormalizer :=
  match payload.get? "content_block" with
  | none => normalizer
  | some block =>
    if (block.get? "type").bind (·.asStr?) = some "tool_use" then
      let buffer := startBlock block (normalizer.toolBlocks[payload.index]?.getD .default)
      { normalizer with toolBlocks := normalizer.toolBlocks.insert payload.index buffer }
    else normalizer

/-- What `handle` does with a delta of `content_block_delta`. -/
def contentBlockDelta : AnthropicStreamNormalizer × List DependencyProviderEvent :=
  match payload.get? "delta" with
  | none => (normalizer, [])
  | some delta =>
    match (delta.get? "type").bind (·.asStr?) with
    | some "text_delta" =>
      match ((delta.get? "text").bind (·.asStr?)).filter (!·.isEmpty) with
      | some text => ({ normalizer with started := true }, [.textDelta text])
      | none => (normalizer, [])
    | some "input_json_delta" =>
      match ((delta.get? "partial_json").bind (·.asStr?)).filter (!·.isEmpty) with
      | some fragment =>
        let index := payload.index
        let before := normalizer.toolBlocks[index]?.getD .default
        let buffer := { before with arguments := before.arguments ++ fragment }
        ({ normalizer with toolBlocks := normalizer.toolBlocks.insert index buffer, started := true },
          [.toolCallDelta (buffer.identity index) "" fragment])
      | none => (normalizer, [])
    | _ => (normalizer, [])

/-- What `handle` pushes for `content_block_stop`. -/
def contentBlockStop : List DependencyProviderEvent :=
  match normalizer.toolBlocks[payload.index]? with
  | some buffer =>
    if buffer.isUsed then
      [.toolCallProposed buffer.callId (buffer.identity payload.index) buffer.name buffer.argumentsJson]
    else []
  | none => []

/-- What `handle` does with the stop reason of `message_delta`. -/
def takeStopReason : AnthropicStreamNormalizer :=
  match (payload.pointer? ["delta", "stop_reason"]).bind (·.asStr?) with
  | some reason => { normalizer with finishReason := some reason }
  | none => normalizer

/-- `handle`, which never fails. -/
def handle (eventType : String) : AnthropicStreamNormalizer × List DependencyProviderEvent :=
  match eventType with
  | "message_start" => (normalizer.takeUsage (payload.pointer? ["message", "usage"]), [])
  | "content_block_start" => (normalizer.contentBlockStart payload, [])
  | "content_block_delta" => normalizer.contentBlockDelta payload
  | "content_block_stop" => (normalizer, normalizer.contentBlockStop payload)
  | "message_delta" => ((normalizer.takeStopReason payload).takeUsage (payload.get? "usage"), [])
  | _ => (normalizer, [])

end AnthropicStreamNormalizer

/-- Normalizes Gemini `streamGenerateContent` chunks into provider events. -/
structure GeminiStreamNormalizer where
  finishReason : Option String
  usage : Option DependencyUsage
  started : Bool

namespace GeminiStreamNormalizer

/-- `GeminiStreamNormalizer::new`. -/
def new : GeminiStreamNormalizer := ⟨none, none, false⟩

/-- `parse_usage`. -/
def parseUsage (metadata : Json) : DependencyUsage where
  inputTokens := metadata.countAt ["promptTokenCount"]
  outputTokens := metadata.countAt ["candidatesTokenCount"]
  cacheReadTokens := metadata.countAt ["cachedContentTokenCount"]
  cacheWriteTokens := 0
  reasoningTokens := metadata.countAt ["thoughtsTokenCount"]
  estimated := false

/-- A normalizer with the events that it has pushed for a chunk. -/
abbrev Pushing := GeminiStreamNormalizer × List DependencyProviderEvent

/-- `format!("gemini-call-{}", events.len())`. -/
def inventedCallId (place : Nat) : String :=
  "gemini-call-" ++ toString place

/-- What `handle` does with the text of a part. -/
def takeText (part : Json) : Pushing → Pushing
  | (normalizer, events) =>
    match ((part.get? "text").bind (·.asStr?)).filter (!·.isEmpty) with
    | some text => ({ normalizer with started := true }, events ++ [.textDelta text])
    | none => (normalizer, events)

/-- What `handle` does with the function call of a part. -/
def takeFunctionCall [ProviderJson] (part : Json) : Pushing → Pushing
  | (normalizer, events) =>
    match part.get? "functionCall" with
    | none => (normalizer, events)
    | some call =>
      let name := ((call.get? "name").bind (·.asStr?)).getD ""
      if name.isEmpty then (normalizer, events)
      else
        let argumentsJson := ProviderJson.print ((call.get? "args").getD (.object []))
        let callId := inventedCallId events.length
        ({ normalizer with started := true },
          events ++ [.toolCallDelta callId "" argumentsJson, .toolCallProposed callId callId name argumentsJson])

/-- What `handle` does with one part. -/
def handlePart [ProviderJson] (pushing : Pushing) (part : Json) : Pushing :=
  takeFunctionCall part (takeText part pushing)

/-- What `handle` does with the finish reason of a candidate. -/
def takeFinishReason (candidate : Json) (normalizer : GeminiStreamNormalizer) : GeminiStreamNormalizer :=
  match (candidate.get? "finishReason").bind (·.asStr?) with
  | some reason => { normalizer with finishReason := some reason }
  | none => normalizer

/-- The parts of a candidate. -/
def partsOf (candidate : Json) : List Json :=
  ((candidate.pointer? ["content", "parts"]).bind (·.asArray?)).getD []

/-- What `handle` does with one candidate. -/
def handleCandidate [ProviderJson] : Pushing → Json → Pushing
  | (normalizer, events), candidate =>
    (partsOf candidate).foldl handlePart (takeFinishReason candidate normalizer, events)

/-- The candidates of a chunk. -/
def candidatesOf (chunk : Json) : List Json :=
  ((chunk.get? "candidates").bind (·.asArray?)).getD []

/-- `handle`, which never fails. -/
def handle [ProviderJson] (normalizer : GeminiStreamNormalizer) (chunk : Json) : Pushing :=
  let normalizer := match chunk.get? "usageMetadata" with
    | some metadata => { normalizer with usage := observeUsage normalizer.usage (parseUsage metadata) }
    | none => normalizer
  (candidatesOf chunk).foldl handleCandidate (normalizer, [])

end GeminiStreamNormalizer

end AgentMod
