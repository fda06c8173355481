import AgentMod.Library.Calls
import AgentMod.Library.Run
import AgentMod.Primitives.Collections
import AgentMod.Primitives.Utf8
import AgentMod.Web.Transport

/-! Fetched pages: what is extracted of them, and the cache of what was fetched from a URL. -/

namespace AgentMod

/-- An element of a document: the pieces of its text, and its attributes. -/
structure HtmlElement where
  texts : List String
  attrs : List (String × String)

/-- How documents are read. -/
class HtmlLibrary where
  /-- The elements of a document that a selector selects, in order. -/
  select : String → String → List HtmlElement

/-- `DependencyLink`. -/
structure DependencyLink where
  text : String
  url : String
  deriving DecidableEq

/-- `DependencyFetchResponse`. -/
structure DependencyFetchResponse where
  canonicalUrl : String
  title : Option String
  description : Option String
  text : String
  markdown : String
  links : List DependencyLink
  contentType : Option String
  isPdf : Bool
  javascriptRequired : Bool
  artifact : Option Nat
  truncated : Bool
  cached : Bool
  deriving DecidableEq

/-- `DependencyFetchRequest`, behind its authorization. -/
structure DependencyFetchRequest where
  url : String
  maxRedirects : UInt8
  timeout : Nat
  maxResponseBytes : Nat
  maxInlineBytes : Nat
  useCache : Bool

section Extraction

/-- `collapse_whitespace`. -/
def collapseWhitespace (text : String) : String := " ".intercalate (splitWhitespace text)

/-- The longest part of a text up to a character boundary within a number of bytes. -/
def takeUtf8 : Nat → List Char → List Char
  | _, [] => []
  | maximum, character :: rest =>
    if character.utf8Size ≤ maximum then character :: takeUtf8 (maximum - character.utf8Size) rest else []

/-- `truncate_utf8`. -/
def truncateWebText (value : String) (maximum : Nat) : String × Bool :=
  if utf8Length value.toList ≤ maximum then (value, false) else (.ofList (takeUtf8 maximum value.toList), true)

variable [HtmlLibrary]

/-- `selector_text`. -/
def selectorText (document selector : String) : Option String := do
  let element ← (HtmlLibrary.select document selector).head?
  let value := collapseWhitespace (" ".intercalate element.texts)
  if value.isEmpty then none else some value

/-- `extract_main_text`. -/
def extractMainText (document : String) : String :=
  (["main", "article", "body"].findSome? (selectorText document)).getD ""

/-- The description that a document gives of itself. -/
def extractDescription (document : String) : Option String := do
  let element ← (HtmlLibrary.select document "meta[name=\"description\"]").head?
  let content := trimText (← element.attrs.lookup "content")
  if content.isEmpty then none else some content

variable [UrlLibrary]

/-- `extract_links`. -/
def extractLinks (document : String) (base : WebUrl) : List DependencyLink :=
  let links := (HtmlLibrary.select document "a[href]").filterMap fun element => do
    let url ← UrlLibrary.join base (← element.attrs.lookup "href")
    if url.scheme = "http" ∨ url.scheme = "https" then
      some ⟨collapseWhitespace (" ".intercalate element.texts), UrlLibrary.serialize url⟩
    else none
  links.take 200

/-- `extract_fetch`. -/
def extractFetch (response : DependencyHttpResponse) (maximum : Nat) :
    Except WebTransportError DependencyFetchResponse :=
  let isPdf := response.contentType.any (fun value => "application/pdf".toList <:+: (toAsciiLowercase value).toList) ||
    decide ("%PDF-".toList <+: response.inlineBody.toList)
  if isPdf then
    .ok {
      canonicalUrl := response.finalUrl, title := none, description := none, text := "", markdown := "", links := []
      contentType := response.contentType, isPdf := true, javascriptRequired := false
      artifact := response.artifact, truncated := response.truncated, cached := false }
  else do
    refuseIf response.bodyIsBase64 .unsupportedContent
    let document := response.inlineBody
    let base ← okOr (UrlLibrary.parse response.finalUrl) .invalidUrl
    let (text, textTruncated) := truncateWebText (extractMainText document) maximum
    let scriptCount := (HtmlLibrary.select document "script").length
    return {
      canonicalUrl := response.finalUrl
      title := selectorText document "title"
      description := extractDescription document
      text
      markdown := text
      links := extractLinks document base
      contentType := response.contentType
      isPdf := false
      javascriptRequired := decide ((trimText text).utf8ByteSize < 80) && decide (3 ≤ scriptCount)
      artifact := response.artifact
      truncated := response.truncated || textTruncated
      cached := false }

end Extraction

section Inline

/-- The last character boundary up to an index, if the loop that looks for it ends within some turns. -/
def boundaryUpTo (text : List Char) : Nat → Nat → Option Nat
  | 0, _ => none
  | turns + 1, finish => if isCharBoundary text finish then some finish else boundaryUpTo text turns (finish - 1)

/-- `truncate_utf8`, if its loop ends within some turns. -/
def truncateUtf8Within (turns : Nat) (value : List Char) (maximum : Nat) :
    Option (Fallible Empty (List Char × Bool)) :=
  if utf8Length value ≤ maximum then some (.ok (value, false))
  else do
    let finish ← boundaryUpTo value turns maximum
    return (do return (← sliceTo value finish, true))

variable [HtmlLibrary] [UrlLibrary]

/-- A response shows the longest part of a text within its limit, and a page is made of it. -/
structure ShowsText (text : List Char) (limit : Nat) (response : DependencyHttpResponse) : Prop where
  plain : response.bodyIsBase64 = false
  longest : LongestWithin limit text response.inlineBody.toList
  truncated : response.truncated = true ↔ limit < utf8Length text
  accepted : ∀ maximum, ∃ page, extractFetch response maximum = .ok page

end Inline

section Cache

/-- Servers whose lookup and response to each URL do not change, and which answer in time. -/
structure WebSite where
  lookup : String → Nat → Except WebTransportError (List SocketAddr)
  answer : WebUrl → Except WebTransportError WebAnswer

/-- What every hop meets there. -/
def WebSite.world (site : WebSite) : WebWorld where
  lookup _ := site.lookup
  expired _ := false
  answer _ := site.answer

/-- The HTTP request of a fetch. -/
def DependencyFetchRequest.http (request : DependencyFetchRequest) : DependencyHttpRequest where
  method := "GET"
  url := request.url
  query := ∅
  headers := (∅ : StringMap DependencyHeaderValue).insert "accept"
    (.literal "text/html,application/xhtml+xml,application/pdf;q=0.8,*/*;q=0.1")
  body := .empty
  maxRedirects := request.maxRedirects
  timeout := request.timeout
  maxResponseBytes := request.maxResponseBytes
  maxInlineBytes := request.maxInlineBytes

variable [UrlLibrary] [HttpLibrary] [HtmlLibrary]

/-- What `fetch` returns of a request that the cache has nothing for; its headers need no secret. -/
def freshFetch (config : WebConfig) (site : WebSite) (artifact : Nat) (request : DependencyFetchRequest) :
    Except WebTransportError DependencyFetchResponse := do
  let http ← (executeHttp config (fun _ => .error .secretUnavailable) site.world artifact request.http).2
  extractFetch http request.maxInlineBytes

/-- The cache, and the number of the next artifact. -/
structure WebFetcher where
  cache : StringMap DependencyFetchResponse
  artifacts : Nat

/-- A cache with one more entry, in place of its first one if it is full. -/
def insertCached (config : WebConfig) (url : String) (response : DependencyFetchResponse)
    (cache : StringMap DependencyFetchResponse) : StringMap DependencyFetchResponse :=
  let kept := if cache.size ≥ config.cacheEntries then cache.minKey?.elim cache cache.erase else cache
  kept.insert url response

/-- `fetch`, behind its authorization. -/
def fetch (config : WebConfig) (site : WebSite) (request : DependencyFetchRequest) (fetcher : WebFetcher) :
    Except WebTransportError DependencyFetchResponse × WebFetcher :=
  match if request.useCache then fetcher.cache[request.url]? else none with
  | some response => (.ok { response with cached := true }, fetcher)
  | none =>
    let later := { fetcher with artifacts := fetcher.artifacts + 1 }
    match freshFetch config site fetcher.artifacts request with
    | .error error => (.error error, later)
    | .ok response =>
      (.ok { response with cached := false },
        if request.useCache ∧ config.cacheEntries > 0 then
          { later with cache := insertCached config request.url response fetcher.cache }
        else later)

/-- The steps of a fetcher, by their requests and results. -/
def FetchStep (config : WebConfig) (site : WebSite) (fetcher : WebFetcher)
    (label : DependencyFetchRequest × Except WebTransportError DependencyFetchResponse) (next : WebFetcher) : Prop :=
  fetch config site label.1 fetcher = (label.2, next)

/-- A response without its cached flag and the number of its artifact. -/
def DependencyFetchResponse.content (response : DependencyFetchResponse) : DependencyFetchResponse :=
  { response with artifact := response.artifact.map fun _ => 0, cached := false }

/-- The result is, up to the cached flag and the number of the artifact, the one that the request has without a cache. -/
def Transparent (config : WebConfig) (site : WebSite) (request : DependencyFetchRequest)
    (result : Except WebTransportError DependencyFetchResponse) : Prop :=
  DependencyFetchResponse.content <$> result =
    DependencyFetchResponse.content <$> freshFetch config site 0 { request with useCache := false }

/-- The last request that was not served from the cache and whose response went there. -/
def filler (url : String)
    (labels : List (DependencyFetchRequest × Except WebTransportError DependencyFetchResponse)) :
    Option DependencyFetchRequest :=
  (labels.reverse.find? fun label => decide (label.1.url = url) && label.1.useCache &&
    returns label.2 (fun response => !response.cached)).map (·.1)

/-- An answer to a URL that is not a redirect, behind some redirects. -/
def Lands (config : WebConfig) (site : WebSite) (first : WebUrl) (hop : Nat) (url : WebUrl) (answer : WebAnswer) : Prop :=
  RedirectChain config.networkPolicy site.world first hop url ∧ GoesOut config.networkPolicy site.world hop url ∧
    site.answer url = .ok answer ∧ answer.isRedirection = false

/-- What is extracted of an answer within an inline limit, without the number of an artifact. -/
def inlineContent (url : WebUrl) (answer : WebAnswer) (inlineMaximum : Nat) :
    Except WebTransportError DependencyFetchResponse :=
  DependencyFetchResponse.content <$>
    extractFetch (projectResponse 0 url answer answer.chunks.flatten inlineMaximum) inlineMaximum

/-- The limits of a request are within bounds and admit the answer to its URL, of which the same is extracted within its
inline limit as within that of another request. -/
def Interchangeable (config : WebConfig) (site : WebSite) (request other : DependencyFetchRequest) : Prop :=
  validateRequestBounds config request.http = .ok () ∧ ∀ first hop url answer, UrlLibrary.parse request.url = some first →
    Lands config site first hop url answer →
    hop ≤ request.maxRedirects.toNat ∧ answer.chunks.flatten.length ≤ request.maxResponseBytes ∧
      inlineContent url answer request.maxInlineBytes = inlineContent url answer other.maxInlineBytes

/-- A request that uses the cache and finds its URL there is interchangeable with the one that filled the entry. -/
def ServedAlike (config : WebConfig) (site : WebSite)
    (labels : List (DependencyFetchRequest × Except WebTransportError DependencyFetchResponse))
    (label : DependencyFetchRequest × Except WebTransportError DependencyFetchResponse) : Prop :=
  label.1.useCache → ∀ fetcher, Run (FetchStep config site) ⟨∅, 0⟩ labels fetcher → label.1.url ∈ fetcher.cache →
    ∀ first, filler label.1.url labels = some first → Interchangeable config site label.1 first

end Cache

/-- Failures of a web call before its transport starts, and of a cancellation. -/
inductive WebDependencyError where
  | authorization
  | authorizationReplay
  | replayState
  | resourceLimit
  | duplicateCancellation
  | unknownCancellation
  | invalidRequest
  deriving DecidableEq

/-- The part of the web configuration that bounds the registered calls. -/
structure WebCallLimits where
  maximumActiveCalls : Nat
  positive : maximumActiveCalls ≠ 0

/-- A web request, as far as its registration goes. -/
structure WebCallRequest where
  cancellationId : String
  callId : String
  checked : Except WebDependencyError Unit

/-- A registered call. -/
structure ActiveCall where
  callId : String
  token : Flag

/-- The calls of the web host: what is registered for each cancellation identifier. -/
structure ActiveWebCalls where
  activeCalls : StringMap ActiveCall
  tokens : Flags

namespace ActiveWebCalls

variable (limits : WebCallLimits) (calls : ActiveWebCalls)

/-- `register`, where the checks before it pass. -/
def register (request : WebCallRequest) : Except WebDependencyError Flag × ActiveWebCalls :=
  match request.checked with
  | .error error => (.error error, calls)
  | .ok () =>
    let token := calls.tokens.next
    let tokens := calls.tokens.make
    if limits.maximumActiveCalls ≤ calls.activeCalls.size then
      (.error .resourceLimit, { calls with tokens })
    else
      -- The insertion replaces what stood under the identifier before this is looked at.
      let next := ⟨calls.activeCalls.insert request.cancellationId ⟨request.callId, token⟩, tokens⟩
      if calls.activeCalls.contains request.cancellationId then (.error .duplicateCancellation, next)
      else (.ok token, next)

/-- `unregister`. -/
def unregister (cancellationId : String) : ActiveWebCalls :=
  { calls with activeCalls := calls.activeCalls.erase cancellationId }

/-- `cancel`. -/
def cancel (cancellationId : String) : Except WebDependencyError String × ActiveWebCalls :=
  match calls.activeCalls[cancellationId]? with
  | some active => (.ok active.callId, { calls with tokens := calls.tokens.raise active.token })
  | none => (.error .unknownCancellation, calls)

/-- The web host as a host of its calls. -/
def host : CallHost ActiveWebCalls String WebCallRequest WebDependencyError String where
  initial := ⟨∅, ⟨[]⟩⟩
  reference := (·.cancellationId)
  admits calls request := request.checked.isOk && calls.activeCalls.size < limits.maximumActiveCalls
  begin request calls := calls.register limits request
  finish cancellationId calls := calls.unregister cancellationId
  cancel cancellationId calls := calls.cancel cancellationId
  succeeded _ := true
  duplicate := .duplicateCancellation
  registered calls cancellationId := calls.activeCalls[cancellationId]?.map (·.token)
  flags := tokens

end ActiveWebCalls

end AgentMod
