import AgentMod.Expression.Syntax
import AgentMod.Primitives.Collections
import AgentMod.Primitives.Text

/-! Provider exchanges: their events, the classification of their failures, and reading the JSON that providers send. -/

namespace AgentMod

/-- `serde_json::from_str`, with the text of its error, and the text of a JSON value. -/
class ProviderJson where
  parse : String → Except String Json
  print : Json → String

namespace Json

/-- `Value::pointer` at the keys of nested objects. -/
def pointer? (path : List String) (value : Json) : Option Json :=
  path.foldlM (fun inner key => inner.get? key) value

/-- The number at a path, or zero. -/
def countAt (path : List String) (value : Json) : Nat :=
  ((value.pointer? path).bind asU64?).getD 0

/-- The place of a tool call among those of its message. -/
def index (value : Json) : Nat :=
  value.countAt ["index"]

end Json

/-- Provider-neutral usage returned by a dependency. -/
structure DependencyUsage where
  inputTokens : Nat
  outputTokens : Nat
  cacheReadTokens : Nat
  cacheWriteTokens : Nat
  reasoningTokens : Nat
  estimated : Bool
  deriving DecidableEq

/-- `DependencyUsage::default`. -/
def DependencyUsage.default : DependencyUsage := ⟨0, 0, 0, 0, 0, false⟩

/-- `merge_usage`. -/
def DependencyUsage.merge (current incoming : DependencyUsage) : DependencyUsage where
  inputTokens := max current.inputTokens incoming.inputTokens
  outputTokens := max current.outputTokens incoming.outputTokens
  cacheReadTokens := max current.cacheReadTokens incoming.cacheReadTokens
  cacheWriteTokens := max current.cacheWriteTokens incoming.cacheWriteTokens
  reasoningTokens := max current.reasoningTokens incoming.reasoningTokens
  estimated := current.estimated || incoming.estimated

/-- The usage behind another observation. -/
def observeUsage (current : Option DependencyUsage) (incoming : DependencyUsage) : Option DependencyUsage :=
  some ((current.getD .default).merge incoming)

/-- Pricing-record identity and computed cost for one provider exchange. -/
structure DependencyCostMetadata where
  source : String
  version : String
  inputCostMicros : Nat
  outputCostMicros : Nat
  cacheReadCostMicros : Nat
  cacheWriteCostMicros : Nat
  currency : String
  deriving DecidableEq

/-- Provider failure classification. -/
inductive DependencyProviderFailureKind where
  | malformedToolArguments
  | timeout
  | rateLimited
  | partialOutputFailure
  | disconnected
  | authenticationFailed
  | providerOverloaded
  | invalidRequest
  | unsupportedCapability
  | transportFailure
  | ambiguousDisconnect
  | userCancellation
  deriving DecidableEq

/-- Provider-neutral retry classification. -/
inductive DependencyRetryClassification where
  | never
  | immediate
  | afterMilliseconds (delay : Nat)
  deriving DecidableEq

/-- Collected provider execution event. -/
inductive DependencyProviderEvent where
  | started
  | textDelta (text : String)
  | toolCallDelta (callId nameFragment argumentsFragment : String)
  | toolCallProposed (continuationReference callId tool argumentsJson : String)
  | completed (finishReason : String) (usage : DependencyUsage) (cost : Option DependencyCostMetadata)
  | cancelled
  | failed (kind : DependencyProviderFailureKind) (message : String) (retry : DependencyRetryClassification)
  deriving DecidableEq

namespace DependencyProviderEvent

/-- The event completes its exchange. -/
def isCompleted : DependencyProviderEvent → Bool
  | completed .. => true
  | _ => false

/-- The event ends its exchange. -/
def isTerminal : DependencyProviderEvent → Bool
  | completed .. | cancelled | failed .. => true
  | _ => false

end DependencyProviderEvent

/-- One classified provider failure. -/
structure ClassifiedFailure where
  kind : DependencyProviderFailureKind
  message : String
  retry : DependencyRetryClassification

/-- `failed_event` of a classified failure. -/
def ClassifiedFailure.event (failure : ClassifiedFailure) : DependencyProviderEvent :=
  .failed failure.kind failure.message failure.retry

/-- `redact_body_excerpt`. -/
def redactBodyExcerpt [ProviderJson] (body : String) : String :=
  let trimmed := trimText body
  if trimmed.isEmpty then ""
  else
    let extracted := (((ProviderJson.parse trimmed).toOption.bind (·.pointer? ["error", "message"])).bind
      (·.asStr?)).getD trimmed
    let bounded := String.ofList (extracted.toList.take 256)
    if 256 < extracted.toList.length then bounded ++ "…" else bounded

/-- `redacted_transport`. -/
def redactedTransport (detail : String) : String :=
  let result := (detail.toList.take 128).map fun character => if isControl character then ' ' else character
  if result.isEmpty then "provider transport failed" else String.ofList result

/-- `classify_provider_error`. -/
def classifyProviderError [ProviderJson] (kind message : String) : ClassifiedFailure :=
  let redacted := redactBodyExcerpt message
  if kind ∈ ["rate_limit_error", "rate_limited"] then
    ⟨.rateLimited, "provider rate limited the request", .afterMilliseconds 1000⟩
  else if kind ∈ ["overloaded_error", "server_error"] then
    ⟨.providerOverloaded, "provider reported an overload or server failure", .afterMilliseconds 1000⟩
  else if kind ∈ ["authentication_error", "permission_error", "invalid_api_key"] then
    ⟨.authenticationFailed, "provider rejected the supplied credentials", .never⟩
  else if kind ∈ ["invalid_request_error", "bad_request"] then
    ⟨.invalidRequest,
      if redacted.isEmpty then "provider rejected the request as invalid"
      else "provider rejected the request as invalid: " ++ redacted, .never⟩
  else
    ⟨.invalidRequest,
      if redacted.isEmpty then "provider reported an error in the stream"
      else "provider reported an error: " ++ redacted, .never⟩

/-- `classify_pre_dispatch_transport`. -/
def classifyPreDispatchTransport (detail : String) : ClassifiedFailure :=
  ⟨.transportFailure, redactedTransport detail, .immediate⟩

/-- `classify_ambiguous_disconnect`. -/
def classifyAmbiguousDisconnect (detail : String) : ClassifiedFailure :=
  ⟨.ambiguousDisconnect, redactedTransport detail, .never⟩

end AgentMod
