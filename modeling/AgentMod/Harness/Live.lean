import AgentMod.Harness.Exchanges
import AgentMod.Harness.Normalizers
import AgentMod.Harness.Provider
import AgentMod.Harness.Sse

/-! Live provider exchanges: what is received becomes provider events, and how the exchanges end. -/

namespace AgentMod

/-- The wire formats of the live providers. -/
inductive ProviderWire where
  /-- `openai`, `openrouter`, `openai-compatible` and `local`. -/
  | openAi
  | anthropic
  | gemini
  deriving DecidableEq

/-- Persistent provider-specific stream normalizer. -/
inductive StreamNormalizer where
  | openAi (normalizer : OpenAiStreamNormalizer)
  | anthropic (normalizer : AnthropicStreamNormalizer)
  | gemini (normalizer : GeminiStreamNormalizer)

namespace StreamNormalizer

/-- `StreamNormalizer::new`. -/
def new : ProviderWire → StreamNormalizer
  | .openAi => .openAi .new
  | .anthropic => .anthropic .new
  | .gemini => .gemini .new

/-- `started`. -/
def started : StreamNormalizer → Bool
  | openAi normalizer => normalizer.started
  | anthropic normalizer => normalizer.started
  | gemini normalizer => normalizer.started

/-- `usage`. -/
def usage : StreamNormalizer → Option DependencyUsage
  | openAi normalizer => normalizer.usage
  | anthropic normalizer => normalizer.usage
  | gemini normalizer => normalizer.usage

/-- `finish_reason`. -/
def finishReason : StreamNormalizer → Option String
  | openAi normalizer => normalizer.finishReason
  | anthropic normalizer => normalizer.finishReason
  | gemini normalizer => normalizer.finishReason

/-- `handle`, which never fails as none of the three does. -/
def handle [ProviderJson] (eventType : String) (value : Json) :
    StreamNormalizer → StreamNormalizer × List DependencyProviderEvent
  | openAi normalizer => (normalizer.handle value).map openAi id
  | anthropic normalizer => (normalizer.handle value eventType).map anthropic id
  | gemini normalizer => (normalizer.handle value).map gemini id

/-- The proposal of a final tool call. -/
def proposal (call : FinalToolCall) : DependencyProviderEvent :=
  .toolCallProposed call.callId call.callId call.name call.argumentsJson

/-- `finish_openai_tools`. -/
def finishOpenAiTools [ProviderJson] : StreamNormalizer → Except String (List DependencyProviderEvent)
  | openAi normalizer => do
    let calls ← normalizer.finish
    return calls.map proposal
  | _ => .ok []

end StreamNormalizer

/-- `MAX_STREAM_EVENTS`. -/
def maxStreamEvents : Nat := 65536

/-- `MAX_EVENT_DELTAS_BYTES`. -/
def maxEventDeltasBytes : Nat := 16 * 1024 * 1024

/-- What the stream loop keeps of an exchange. -/
structure LiveExchange where
  normalizer : StreamNormalizer
  events : List DependencyProviderEvent
  eventBytes : Nat
  receivedAny : Bool

/-- What one step of the stream loop leads to. -/
inductive LiveStep where
  | next (exchange : LiveExchange)
  | returned (events : List DependencyProviderEvent)
  /-- `finish_live_stream` takes over. -/
  | finishing (exchange : LiveExchange)

/-- What the reader of a response sends to the stream loop, or that it sends nothing for a while. -/
inductive Reception where
  | received (result : Except String SseBytes)
  | timeout

/-- What ends the receptions of an exchange. -/
inductive StreamEnd where
  | endOfFile
  | failed (message : String)
  | cancelled

namespace LiveExchange

/-- The exchange before its first chunk. -/
def new (wire : ProviderWire) : LiveExchange := ⟨.new wire, [.started], 0, false⟩

/-- The exchange ends with one more event. -/
def fail (exchange : LiveExchange) (kind : DependencyProviderFailureKind) (message : String) :
    List DependencyProviderEvent :=
  exchange.events ++ [.failed kind message .never]

/-- The events or the bytes of the text deltas of the exchange are too many. -/
def exceedsBudget (exchange : LiveExchange) : Bool :=
  maxStreamEvents < exchange.events.length || maxEventDeltasBytes < exchange.eventBytes

/-- The bytes of the text of an event. -/
def textBytes : DependencyProviderEvent → Nat
  | .textDelta text => text.utf8ByteSize
  | _ => 0

/-- What a provider error in a stream event is classified as. -/
def classifyStreamError [ProviderJson] (error : Json) : ClassifiedFailure :=
  classifyProviderError (((error.get? "type").bind (·.asStr?)).getD "")
    (((error.get? "message").bind (·.asStr?)).getD "")

/-- What the stream loop does with a JSON value that is no error. -/
def takeValue [ProviderJson] (exchange : LiveExchange) (eventType : String) (value : Json) : LiveStep :=
  let (normalizer, emitted) := exchange.normalizer.handle eventType value
  let next : LiveExchange := {
    normalizer
    events := exchange.events ++ emitted
    -- `saturating_add` does not saturate before the budget ends the exchange.
    eventBytes := exchange.eventBytes + (emitted.map textBytes).sum
    receivedAny := exchange.receivedAny || normalizer.started }
  if next.exceedsBudget then
    .returned (next.fail .partialOutputFailure "provider stream exceeded the bounded event budget")
  else .next next

/-- What the stream loop does with one SSE event. -/
def takeEvent [ProviderJson] (exchange : LiveExchange) (event : SseEvent) : LiveStep :=
  if event.data = "[DONE]" then .finishing exchange
  else if isBlank event.data then .next exchange
  else
    match ProviderJson.parse event.data with
    | .error _ => .returned (exchange.fail
        (if exchange.receivedAny then .partialOutputFailure else .invalidRequest)
        "provider emitted a malformed stream event")
    | .ok value =>
      match value.get? "error" with
      | some error => .returned (exchange.events ++ [(classifyStreamError error).event])
      | none => exchange.takeValue event.event value

/-- What the stream loop does with the events of a chunk. -/
def takeEvents [ProviderJson] (exchange : LiveExchange) : List SseEvent → LiveStep
  | [] => .next exchange
  | event :: rest =>
    match exchange.takeEvent event with
    | .next exchange => exchange.takeEvents rest
    | step => step

/-- What a transport error while streaming leads to. -/
def disconnect (exchange : LiveExchange) (message : String) : List DependencyProviderEvent :=
  let classified :=
    if exchange.receivedAny then classifyAmbiguousDisconnect message else classifyPreDispatchTransport message
  exchange.events ++ [classified.event]

/-- `finish_live_stream`. -/
def finishLiveStream [ProviderJson] (pricing : DependencyUsage → Option DependencyCostMetadata)
    (exchange : LiveExchange) : List DependencyProviderEvent :=
  if exchange.exceedsBudget then
    exchange.fail .partialOutputFailure "provider stream exceeded the bounded output budget"
  else
    let finishReason := exchange.normalizer.finishReason.getD "stop"
    let usage := exchange.normalizer.usage.getD .default
    match exchange.normalizer.finishOpenAiTools with
    | .error message => exchange.fail .malformedToolArguments message
    | .ok proposals => exchange.events ++ proposals ++ [.completed finishReason usage (pricing usage)]

/-- What ends an exchange whose loop has not returned. -/
def endStream [ProviderJson] (pricing : DependencyUsage → Option DependencyCostMetadata)
    (exchange : LiveExchange) : StreamEnd → List DependencyProviderEvent
  | .endOfFile => exchange.finishLiveStream pricing
  | .failed message => exchange.disconnect message
  | .cancelled => exchange.events ++ [.cancelled]

/-- The stream loop of `execute_live` over what is received until the exchange is ended. The chunk without
bytes says that the file has ended. -/
def streamLoop [ProviderJson] (pricing : DependencyUsage → Option DependencyCostMetadata)
    (exchange : LiveExchange) (parser : SseParser) :
    List Reception → StreamEnd → List DependencyProviderEvent
  | [], last => exchange.endStream pricing last
  | .timeout :: rest, last => exchange.streamLoop pricing parser rest last
  | .received (.error message) :: _, _ => exchange.disconnect message
  | .received (.ok []) :: _, _ => exchange.finishLiveStream pricing
  | .received (.ok chunk) :: rest, last =>
    match parser.push .default chunk with
    | (.error _, _) => exchange.fail .partialOutputFailure "provider stream exceeded the bounded frame size"
    | (.ok parsed, parser) =>
      match exchange.takeEvents parsed with
      | .next exchange => exchange.streamLoop pricing parser rest last
      | .returned events => events
      | .finishing exchange => exchange.finishLiveStream pricing

end LiveExchange

/-- The events that the streaming part of `execute_live` returns. -/
def executeStream [ProviderJson] (wire : ProviderWire)
    (pricing : DependencyUsage → Option DependencyCostMetadata) (receptions : List Reception)
    (last : StreamEnd) : List DependencyProviderEvent :=
  (LiveExchange.new wire).streamLoop pricing .new receptions last

/-- What the stream loop observes of its receptions. -/
inductive Observation where
  | event (event : SseEvent)
  | oversized
  | failed (message : String)
  | endOfFile
  | cancelled

/-- What is observed of the end of the receptions. -/
def StreamEnd.observation : StreamEnd → Observation
  | endOfFile => .endOfFile
  | failed message => .failed message
  | cancelled => .cancelled

/-- The events of a stream, up to what ends it. -/
def observations (parser : SseParser) : List Reception → StreamEnd → List Observation
  | [], last => [last.observation]
  | .timeout :: rest, last => observations parser rest last
  | .received (.error message) :: _, _ => [.failed message]
  | .received (.ok []) :: _, _ => [.endOfFile]
  | .received (.ok chunk) :: rest, last =>
    match parser.push .default chunk with
    | (.error _, _) => [.oversized]
    | (.ok parsed, parser) => parsed.map .event ++ observations parser rest last

variable [ProviderJson]

/-- The events that an exchange takes up before it returns. -/
def LiveExchange.taken (exchange : LiveExchange) : List Observation → List SseEvent
  | .event event :: rest =>
    event :: match exchange.takeEvent event with
      | .next exchange => exchange.taken rest
      | _ => []
  | _ => []

/-- Some item of a list of a value has a text under a key. -/
def someText (list key : String) (value : Json) : Bool :=
  (((value.get? list).bind (·.asArray?)).getD []).any fun item =>
    ((item.get? key).bind (·.asStr?)).isSome

/-- The event is the provider's own end of a message: `[DONE]` or a finish reason, `message_stop` or a stop
reason, or a finish reason. -/
def ProviderWire.isEndMark (wire : ProviderWire) (event : SseEvent) : Bool :=
  let value := (ProviderJson.parse event.data).toOption
  match wire with
  | .openAi => event.data == "[DONE]" || value.any (someText "choices" "finish_reason")
  | .anthropic => event.event == "message_stop" ||
      (event.event == "message_delta" &&
        value.any fun value => ((value.pointer? ["delta", "stop_reason"]).bind (·.asStr?)).isSome)
  | .gemini => value.any (someText "candidates" "finishReason")

/-- An observation at which the exchange is finished, although the provider has not ended its message. -/
inductive EndsUnmarked (wire : ProviderWire) : Observation → Prop where
  | endOfFile : EndsUnmarked wire .endOfFile
  | done {event : SseEvent} : event.data = "[DONE]" → wire.isEndMark event = false →
      EndsUnmarked wire (.event event)

/-- The stream is finished without an end mark: before that, its events were taken up without a failure, and
the arguments of the tool calls in them are JSON. -/
def CutShort (wire : ProviderWire) (receptions : List Reception) (last : StreamEnd) : Prop :=
  ∃ before next after exchange proposals,
    observations .new receptions last = before.map .event ++ next :: after ∧
    (LiveExchange.new wire).takeEvents before = .next exchange ∧
    before.all (!wire.isEndMark ·) ∧ EndsUnmarked wire next ∧
    exchange.normalizer.finishOpenAiTools = .ok proposals

/-- An exchange ends with its one terminal event, and completes only where the provider has ended its
message. -/
structure SoundlyEnded (wire : ProviderWire) (pricing : DependencyUsage → Option DependencyCostMetadata)
    (receptions : List Reception) (last : StreamEnd) : Prop where
  terminal : ∃ front final, executeStream wire pricing receptions last = front ++ [final] ∧
    final.isTerminal ∧ front.all (!·.isTerminal)
  marked : (executeStream wire pricing receptions last).any (·.isCompleted) →
    ((LiveExchange.new wire).taken (observations .new receptions last)).any wire.isEndMark

end AgentMod
