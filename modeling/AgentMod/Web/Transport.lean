import AgentMod.Expression.Syntax
import AgentMod.Primitives.Collections
import Mathlib.Data.List.DropRight
import Mathlib.Data.List.Infix

/-! The requests of the web host: network policy, redirects and bounded responses. -/

namespace AgentMod

/-- Failures of a web call behind its registration. -/
inductive WebTransportError where
  | policyDenied
  | invalidRequest
  | invalidUrl
  | secretUnavailable
  | dns
  | privateNetworkDenied
  | timeout
  | cancelled
  | transport
  | redirectLimit
  | invalidRedirect
  | responseTooLarge
  | unsupportedContent
  | invalidProviderResponse
  deriving DecidableEq, Repr

section Urls

/-- A parsed URL; what is behind its authority is one text. -/
structure WebUrl where
  scheme : String
  username : String
  password : Option String
  host : Option String
  port : Option Nat
  rest : String
  deriving DecidableEq

/-- `Url::port_or_known_default`. -/
def WebUrl.portOrKnownDefault (url : WebUrl) : Option Nat :=
  url.port.or <|
    if url.scheme = "http" ∨ url.scheme = "ws" then some 80
    else if url.scheme = "https" ∨ url.scheme = "wss" then some 443
    else if url.scheme = "ftp" then some 21
    else none

/-- The origin of a URL: scheme, host and port. -/
def WebUrl.origin (url : WebUrl) : String × Option String × Option Nat :=
  (url.scheme, url.host, url.portOrKnownDefault)

/-- How URLs are read and written. -/
class UrlLibrary where
  parse : String → Option WebUrl
  /-- `Url::join`. -/
  join : WebUrl → String → Option WebUrl
  /-- What is behind the authority once a pair is appended to the query. -/
  appendPair : String → String × String → String
  serialize : WebUrl → String

end Urls

/-- How the parts of messages are read and written. -/
class HttpLibrary where
  /-- `Method::from_bytes`. -/
  method : String → Option String
  /-- `HeaderName::from_bytes`: the name in lower case. -/
  headerName : String → Option String
  /-- `HeaderValue::from_str`. -/
  headerValue : String → Option String
  /-- `serde_json::to_vec`. -/
  jsonBytes : Json → Option (List UInt8)
  /-- The bytes of a URL-encoded form. -/
  formBytes : List (String × String) → List UInt8
  base64 : List UInt8 → String

section Addresses

/-- `IpAddr`: four bytes, or eight groups of sixteen bits. -/
inductive IpAddr where
  | v4 (a b c d : UInt8)
  | v6 (segments : Vector UInt16 8)
  deriving DecidableEq

/-- `SocketAddr`. -/
structure SocketAddr where
  ip : IpAddr
  port : Nat
  deriving DecidableEq

/-- `is_private_v4`. -/
def isPrivateV4 (a b c d : UInt8) : Bool :=
  -- Unspecified, loopback, private, link-local, multicast, broadcast and documentation addresses come first.
  (a == 0 && b == 0 && c == 0 && d == 0) || a == 127 ||
    (a == 10 || (a == 172 && 16 ≤ b && b ≤ 31) || (a == 192 && b == 168)) || (a == 169 && b == 254) ||
    (224 ≤ a && a ≤ 239) || (a == 255 && b == 255 && c == 255 && d == 255) ||
    ((a == 192 && b == 0 && c == 2) || (a == 198 && b == 51 && c == 100) || (a == 203 && b == 0 && c == 113)) ||
    a == 0 || 240 ≤ a || (a == 100 && 64 ≤ b && b ≤ 127) || (a == 198 && (b == 18 || b == 19))

/-- `Ipv6Addr::to_ipv4_mapped`. -/
def toIpv4Mapped (segments : Vector UInt16 8) : Option (UInt8 × UInt8 × UInt8 × UInt8) :=
  if segments.toList.take 6 = [0, 0, 0, 0, 0, 0xFFFF] then
    some ((segments[6] >>> 8).toUInt8, segments[6].toUInt8, (segments[7] >>> 8).toUInt8, segments[7].toUInt8)
  else none

/-- `is_private_or_special`. -/
def isPrivateOrSpecial : IpAddr → Bool
  | .v4 a b c d => isPrivateV4 a b c d
  | .v6 segments =>
    match toIpv4Mapped segments with
    | some (a, b, c, d) => isPrivateV4 a b c d
    | none =>
      -- Unspecified, loopback, multicast, unique local, link-local and documentation addresses.
      segments.toList == [0, 0, 0, 0, 0, 0, 0, 0] || segments.toList == [0, 0, 0, 0, 0, 0, 0, 1] ||
        segments[0] &&& 0xFF00 == 0xFF00 || segments[0] &&& 0xFE00 == 0xFC00 ||
        segments[0] &&& 0xFFC0 == 0xFE80 || (segments[0] == 0x2001 && segments[1] == 0x0DB8)

end Addresses

section Policies

/-- `NetworkPolicy`. -/
structure NetworkPolicy where
  allowedDomains : List String
  deniedDomains : List String
  allowPrivateNetwork : Bool
  allowPlainHttp : Bool
  allowedMethods : StringSet

/-- A domain without dots at its end, in lower case. -/
def foldDomain (domain : String) : String := toAsciiLowercase (.ofList (domain.toList.rdropWhile (· = '.')))

/-- `domain_matches`. -/
def domainMatches (host pattern : String) : Bool :=
  let pattern := foldDomain pattern
  if "*.".toList <+: pattern.toList then
    let suffix := pattern.toList.drop 2
    host.toList ≠ suffix && decide ('.' :: suffix <:+ host.toList)
  else host == pattern

/-- `domain_allowed`. -/
def domainAllowed (host : String) (policy : NetworkPolicy) : Bool :=
  let host := foldDomain host
  !policy.deniedDomains.any (domainMatches host) && policy.allowedDomains.any (domainMatches host)

/-- `validate_target`, on what the names of hosts are looked up as. -/
def validateTarget (lookup : String → Nat → Except WebTransportError (List SocketAddr)) (url : WebUrl)
    (policy : NetworkPolicy) : Except WebTransportError (List SocketAddr) := do
  refuseIf ((url.scheme ≠ "https" ∧ url.scheme ≠ "http") ∨ (url.scheme = "http" ∧ policy.allowPlainHttp = false) ∨
    url.username ≠ "" ∨ url.password.isSome) .policyDenied
  let host ← okOr url.host .invalidUrl
  refuseIf (domainAllowed host policy = false) .policyDenied
  let port ← okOr url.portOrKnownDefault .invalidUrl
  let addresses ← lookup host port
  refuseIf (addresses = []) .dns
  refuseIf (policy.allowPrivateNetwork = false ∧ addresses.any (isPrivateOrSpecial ·.ip)) .privateNetworkDenied
  return addresses

end Policies

section Requests

/-- `WebDependencyConfig`, as far as requests go. -/
structure WebConfig where
  networkPolicy : NetworkPolicy
  maximumRedirects : UInt8
  maximumTimeout : Nat
  maximumResponseBytes : Nat
  maximumInlineBytes : Nat
  maximumUrlLength : Nat
  maximumHeaders : Nat
  maximumRequestBodyBytes : Nat
  cacheEntries : Nat

/-- `DependencyBody`. -/
inductive DependencyBody where
  | empty
  | text (value : String)
  | json (value : Json)
  | form (values : StringMap String)
  | binary (bytes : List UInt8)

/-- `DependencyHeaderValue`. -/
inductive DependencyHeaderValue where
  | literal (value : String)
  | secretReference (reference : String)

/-- `DependencyHttpRequest`, behind its authorization. -/
structure DependencyHttpRequest where
  method : String
  url : String
  query : StringMap String
  headers : StringMap DependencyHeaderValue
  body : DependencyBody
  maxRedirects : UInt8
  timeout : Nat
  maxResponseBytes : Nat
  maxInlineBytes : Nat

/-- The value of a header that is sent, with the reference of the secret that it is. -/
structure WebHeader where
  value : String
  secret : Option String

/-- The headers of a request, by their names in lower case. -/
abbrev HeaderMap := StringMap WebHeader

/-- The bytes of a body, and its content type. -/
abbrev EncodedBody := Option (List UInt8 × String)

/-- What is fixed of a request in front of its first hop. -/
structure PreparedRequest where
  method : String
  url : WebUrl
  headers : HeaderMap
  body : EncodedBody

variable [UrlLibrary] [HttpLibrary]

/-- `body_encoded_size`. -/
def bodyEncodedSize : DependencyBody → Nat
  | .empty => 0
  | .text value => value.utf8ByteSize
  | .json value => ((HttpLibrary.jsonBytes value).getD []).length
  | .form values => (values.toList.map fun entry => entry.1.utf8ByteSize + entry.2.utf8ByteSize + 2).sum
  | .binary bytes => bytes.length

/-- `validate_request_bounds`. -/
def validateRequestBounds (config : WebConfig) (request : DependencyHttpRequest) : Except WebTransportError Unit :=
  refuseIf (request.timeout = 0 ∨ request.timeout > config.maximumTimeout ∨
    request.maxRedirects > config.maximumRedirects ∨ request.maxResponseBytes = 0 ∨
    request.maxResponseBytes > config.maximumResponseBytes ∨ request.maxInlineBytes = 0 ∨
    request.maxInlineBytes > request.maxResponseBytes ∨ request.maxInlineBytes > config.maximumInlineBytes ∨
    request.url.utf8ByteSize > config.maximumUrlLength ∨ request.headers.size > config.maximumHeaders ∨
    bodyEncodedSize request.body > config.maximumRequestBodyBytes ∨
    ¬ config.networkPolicy.allowedMethods.contains (toAsciiUppercase request.method)) .policyDenied

/-- `resolve_headers`: a later header replaces an earlier one of the same name. -/
def resolveHeaders (secrets : String → Except WebTransportError String) (headers : StringMap DependencyHeaderValue) :
    Except WebTransportError HeaderMap :=
  headers.toList.foldlM (fun mapped entry => do
    let name ← okOr (HttpLibrary.headerName entry.1) .invalidRequest
    let header : WebHeader ← match entry.2 with
      | .literal value => pure ⟨value, none⟩
      | .secretReference reference => do
        let value ← secrets reference
        pure ⟨value, some reference⟩
    let value ← okOr (HttpLibrary.headerValue header.value) .invalidRequest
    return mapped.insert name { header with value }) ∅

/-- `encode_body`. -/
def encodeBody : DependencyBody → Except WebTransportError EncodedBody
  | .empty => .ok none
  | .text value => .ok (some (utf8Bytes value.toList, "text/plain; charset=utf-8"))
  | .json value => do
    let bytes ← okOr (HttpLibrary.jsonBytes value) .invalidRequest
    return some (bytes, "application/json")
  | .form values => .ok (some (HttpLibrary.formBytes values.toList, "application/x-www-form-urlencoded"))
  | .binary bytes => .ok (some (bytes, "application/octet-stream"))

/-- What `execute_http` does in front of its loop. -/
def prepareRequest (config : WebConfig) (secrets : String → Except WebTransportError String)
    (request : DependencyHttpRequest) : Except WebTransportError PreparedRequest := do
  validateRequestBounds config request
  let method ← okOr (HttpLibrary.method request.method) .invalidRequest
  let url ← okOr (UrlLibrary.parse request.url) .invalidUrl
  let url := { url with rest := request.query.toList.foldl UrlLibrary.appendPair url.rest }
  let headers ← resolveHeaders secrets request.headers
  let body ← encodeBody request.body
  return ⟨method, url, headers, body⟩

end Requests

section Hops

/-- What a server sends in response. -/
structure WebAnswer where
  status : Nat
  location : Option String
  headers : List (String × Option String)
  contentType : Option String
  chunks : List (List UInt8)
  broken : Option WebTransportError

/-- What the hops of one request meet: lookups of hosts, the time, and the answers to what is sent. -/
structure WebWorld where
  lookup : Nat → String → Nat → Except WebTransportError (List SocketAddr)
  expired : Nat → Bool
  answer : Nat → WebUrl → Except WebTransportError WebAnswer

/-- A request that is sent: the hop, and the addresses that the client may connect to. -/
structure WebSend where
  hop : Nat
  request : PreparedRequest
  addresses : List SocketAddr

/-- `StatusCode::is_redirection`. -/
def WebAnswer.isRedirection (answer : WebAnswer) : Bool := 300 ≤ answer.status && answer.status < 400

variable [UrlLibrary]

/-- Where an answer redirects to. -/
def WebAnswer.redirect (answer : WebAnswer) (url : WebUrl) : Except WebTransportError WebUrl := do
  let location ← okOr answer.location .invalidRedirect
  okOr (UrlLibrary.join url location) .invalidRedirect

/-- The loop of `execute_http`, while some redirects are left: what is sent, and the answer that ends it. -/
def followHops (policy : NetworkPolicy) (world : WebWorld) : (left hop : Nat) → PreparedRequest →
    List WebSend × Except WebTransportError (WebUrl × WebAnswer)
  | left, hop, request =>
    match validateTarget (world.lookup hop) request.url policy with
    | .error error => ([], .error error)
    | .ok addresses =>
      if world.expired hop then ([], .error .timeout)
      else
        let send : WebSend := ⟨hop, request, addresses⟩
        match world.answer hop request.url with
        | .error error => ([send], .error error)
        | .ok answer =>
          if answer.isRedirection then
            match left with
            | 0 => ([send], .error .redirectLimit)
            | left + 1 =>
              match answer.redirect request.url with
              | .error error => ([send], .error error)
              | .ok next =>
                -- Method, headers and body are carried over.
                let (sends, result) := followHops policy world left (hop + 1) { request with url := next }
                (send :: sends, result)
          else ([send], .ok (request.url, answer))

end Hops

section Responses

/-- `DependencyHttpResponse`. -/
structure DependencyHttpResponse where
  status : Nat
  finalUrl : String
  headers : StringMap String
  contentType : Option String
  inlineBody : String
  bodyIsBase64 : Bool
  totalBytes : Nat
  artifact : Option Nat
  truncated : Bool
  deriving DecidableEq

/-- `is_sensitive_header`. -/
def isSensitiveHeader (name : String) : Bool :=
  ["authorization", "cookie", "set-cookie", "proxy-authorization", "x-api-key", "x-subscription-token"].contains
    (toAsciiLowercase name)

/-- `redact_headers`. -/
def redactHeaders (headers : List (String × Option String)) : StringMap String :=
  .ofList <| headers.map fun header =>
    (header.1, if isSensitiveHeader header.1 then "[REDACTED]" else header.2.getD "[BINARY]")

/-- `is_textual`. -/
def isTextual (contentType : Option String) : Bool :=
  contentType.any fun value =>
    let value := (toAsciiLowercase value).toList
    decide ("text/".toList <+: value) ||
      ["json", "xml", "javascript", "x-www-form-urlencoded"].any fun part => decide (part.toList <:+: value)

/-- Collects the chunks of a body, as long as they do not exceed the maximum. -/
def readBodyChunks (maximum : Nat) (broken : Option WebTransportError) : List UInt8 → List (List UInt8) →
    Except WebTransportError (List UInt8)
  | body, [] => broken.elim (.ok body) .error
  | body, chunk :: chunks =>
    if body.length + chunk.length > maximum then .error .responseTooLarge
    else readBodyChunks maximum broken (body ++ chunk) chunks

variable [UrlLibrary] [HttpLibrary]

/-- What `read_response` returns of a body that was read. -/
def projectResponse (artifact : Nat) (url : WebUrl) (answer : WebAnswer) (body : List UInt8) (inlineMaximum : Nat) :
    DependencyHttpResponse :=
  let truncated := decide (body.length > inlineMaximum)
  let inline_ := body.take inlineMaximum
  let text := if isTextual answer.contentType then fromUtf8 inline_ else none
  {
    status := answer.status
    finalUrl := UrlLibrary.serialize url
    headers := redactHeaders answer.headers
    contentType := answer.contentType
    inlineBody := text.getD (HttpLibrary.base64 inline_)
    bodyIsBase64 := text.isNone
    totalBytes := body.length
    artifact := if truncated then some artifact else none
    truncated }

/-- `read_response`, where an artifact can be written under its new number. -/
def readResponse (artifact : Nat) (url : WebUrl) (answer : WebAnswer) (maximum inlineMaximum : Nat) :
    Except WebTransportError DependencyHttpResponse := do
  let body ← readBodyChunks maximum answer.broken [] answer.chunks
  return projectResponse artifact url answer body inlineMaximum

/-- `execute_http`: what is sent, and what is returned. -/
def executeHttp (config : WebConfig) (secrets : String → Except WebTransportError String) (world : WebWorld)
    (artifact : Nat) (request : DependencyHttpRequest) :
    List WebSend × Except WebTransportError DependencyHttpResponse :=
  match prepareRequest config secrets request with
  | .error error => ([], .error error)
  | .ok prepared =>
    let (sends, ended) := followHops config.networkPolicy world request.maxRedirects.toNat 0 prepared
    (sends, do
      let (url, answer) ← ended
      readResponse artifact url answer request.maxResponseBytes request.maxInlineBytes)

end Responses

section Confinement

variable {policy : NetworkPolicy} {world : WebWorld}

/-- A request is sent to a URL at a hop. -/
def GoesOut (policy : NetworkPolicy) (world : WebWorld) (hop : Nat) (url : WebUrl) : Prop :=
  (∃ addresses, validateTarget (world.lookup hop) url policy = .ok addresses) ∧ world.expired hop = false

variable [UrlLibrary]

/-- The hops and URLs that redirects lead to from a first URL. -/
inductive RedirectChain (policy : NetworkPolicy) (world : WebWorld) (first : WebUrl) : Nat → WebUrl → Prop where
  | start : RedirectChain policy world first 0 first
  | next {hop : Nat} {url target : WebUrl} {answer : WebAnswer} :
      RedirectChain policy world first hop url → GoesOut policy world hop url → world.answer hop url = .ok answer →
      answer.isRedirection → answer.redirect url = .ok target → RedirectChain policy world first (hop + 1) target

/-- A request goes to an allowed URL, and to no address but those looked up for its host in its hop. -/
structure WebSend.Confined (policy : NetworkPolicy) (world : WebWorld) (send : WebSend) : Prop where
  scheme : send.request.url.scheme = "https" ∨ send.request.url.scheme = "http" ∧ policy.allowPlainHttp
  credentials : send.request.url.username = "" ∧ send.request.url.password = none
  target : ∃ host port, send.request.url.host = some host ∧ send.request.url.portOrKnownDefault = some port ∧
    domainAllowed host policy ∧ world.lookup send.hop host port = .ok send.addresses
  isPublic : policy.allowPrivateNetwork = false → ∀ address ∈ send.addresses, isPrivateOrSpecial address.ip = false

/-- What a request sends is confined to its targets and its redirects, and its secrets are confined to its origin. -/
structure HttpConfined (policy : NetworkPolicy) (world : WebWorld) (request : DependencyHttpRequest)
    (sends : List WebSend) : Prop where
  targets : ∀ send ∈ sends, send.Confined policy world
  count : sends.length ≤ request.maxRedirects.toNat + 1
  secrets : ∀ own, UrlLibrary.parse request.url = some own → ∀ send ∈ sends, ∀ (name : String) (header : WebHeader),
    send.request.headers[name]? = some header → header.secret.isSome → send.request.url.origin = own.origin

/-- A request has no header that is a secret, or no redirect that is followed with a request leaves its origin. -/
def KeepsSecrets [HttpLibrary] (config : WebConfig) (secrets : String → Except WebTransportError String)
    (world : WebWorld) (request : DependencyHttpRequest) : Prop :=
  ∀ prepared, prepareRequest config secrets request = .ok prepared →
    (∃ name : String, ∃ header : WebHeader, prepared.headers[name]? = some header ∧ header.secret.isSome) →
    ∀ hop url, hop ≤ request.maxRedirects.toNat → RedirectChain config.networkPolicy world prepared.url hop url →
      GoesOut config.networkPolicy world hop url → url.origin = prepared.url.origin

end Confinement

end AgentMod
