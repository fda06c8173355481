import AgentMod.Library.Sorting
import AgentMod.Web.Transport

/-! Web searches, by a provider or over fixed documents. -/

namespace AgentMod

/-- `DependencySearchRequest`, behind its authorization. -/
structure DependencySearchRequest where
  query : String
  count : UInt8
  freshness : Option String
  domainAllowlist : List String
  domainDenylist : List String
  language : Option String
  locale : Option String
  timeout : Nat

/-- `DependencySearchResult`. -/
structure DependencySearchResult where
  title : String
  url : String
  snippet : String
  publishedAt : Option String
  deriving DecidableEq

/-- `DependencySearchResponse`. -/
structure DependencySearchResponse where
  results : List DependencySearchResult
  provider : String
  deriving DecidableEq

/-- `MockSearchDocument`. -/
structure MockSearchDocument where
  title : String
  url : String
  snippet : String
  publishedAt : Option String

/-- `SearchProvider`. -/
inductive SearchProvider where
  | brave (apiKeyReference : String)
  | mock (documents : List MockSearchDocument)

/-- The reader of what a provider sends. -/
class WebJson where
  /-- `serde_json::from_str`. -/
  fromStr : String → Option Json

/-- The lists of a request let a host pass. -/
def DependencySearchRequest.admits (request : DependencySearchRequest) (host : String) : Bool :=
  !request.domainDenylist.any (domainMatches host) &&
    (request.domainAllowlist.isEmpty || request.domainAllowlist.any (domainMatches host))

section Mock

/-- The terms of a query. -/
def DependencySearchRequest.terms (request : DependencySearchRequest) : List String :=
  (splitWhitespace request.query).map toAsciiLowercase

/-- The number of terms that a document has. -/
def MockSearchDocument.score (document : MockSearchDocument) (terms : List String) : Nat :=
  let haystack := toAsciiLowercase (document.title ++ " " ++ document.snippet)
  terms.countP fun term => term.toList <:+: haystack.toList

/-- The order of documents: by their scores from the greatest one on, then by their URLs. -/
def MockSearchDocument.order (terms : List String) : MockSearchDocument → MockSearchDocument → Ordering :=
  compareLex (fun left right => compare (right.score terms) (left.score terms)) (compareOn (·.url))

/-- A document as a result. -/
def MockSearchDocument.result (document : MockSearchDocument) : DependencySearchResult :=
  ⟨document.title, document.url, document.snippet, document.publishedAt⟩

variable [UrlLibrary]

/-- `search_domain_allowed`. -/
def searchDomainAllowed (url : String) (request : DependencySearchRequest) : Bool :=
  ((UrlLibrary.parse url).bind (·.host)).any request.admits

/-- `mock_search`. -/
def mockSearch (documents : List MockSearchDocument) (request : DependencySearchRequest) : DependencySearchResponse :=
  let scored := documents.filter fun document =>
    searchDomainAllowed document.url request && decide (0 < document.score request.terms)
  ⟨((sortBy (MockSearchDocument.order request.terms) scored).take request.count.toNat).map (·.result), "mock"⟩

end Mock

section Brave

/-- A result that a provider lists. -/
def braveResult (value : Json) : Option DependencySearchResult := do
  let title ← (← value.get? "title").asStr?
  let url ← (← value.get? "url").asStr?
  return ⟨title, url, ((value.get? "description").bind (·.asStr?)).getD "",
    ((value.get? "page_age").or (value.get? "age")).bind (·.asStr?)⟩

/-- The request that a search sends, with the key. -/
def DependencySearchRequest.http (request : DependencySearchRequest) (config : WebConfig) (key : String) :
    DependencyHttpRequest where
  method := "GET"
  url := "https://api.search.brave.com/res/v1/web/search"
  query := .ofList ([("q", request.query), ("count", toString request.count.toNat)] ++
    (request.freshness.map ("freshness", ·)).toList ++ (request.language.map ("search_lang", ·)).toList ++
    (request.locale.map ("country", ·)).toList)
  headers := .ofList ([("accept", "application/json"), ("api-version", "2023-01-01"),
    ("x-subscription-token", key)].map fun header => (header.1, DependencyHeaderValue.literal header.2))
  body := .empty
  maxRedirects := 0
  timeout := request.timeout
  maxResponseBytes := min config.maximumResponseBytes (4 * 1024 * 1024)
  maxInlineBytes := min config.maximumInlineBytes (4 * 1024 * 1024)

variable [UrlLibrary] [HttpLibrary] [WebJson]

/-- What a provider lists for a search. -/
def braveValues (config : WebConfig) (secrets : String → Except WebTransportError String) (world : WebWorld)
    (artifact : Nat) (request : DependencySearchRequest) (apiKeyReference : String) :
    Except WebTransportError (List Json) := do
  let key ← secrets apiKeyReference
  let response ← (executeHttp config secrets world artifact (request.http config key)).2
  let value ← okOr (WebJson.fromStr response.inlineBody) .invalidProviderResponse
  okOr (((value.get? "web").bind (·.get? "results")).bind (·.asArray?)) .invalidProviderResponse

/-- `search_brave`. -/
def searchBrave (config : WebConfig) (secrets : String → Except WebTransportError String) (world : WebWorld)
    (artifact : Nat) (request : DependencySearchRequest) (apiKeyReference : String) :
    Except WebTransportError DependencySearchResponse := do
  let values ← braveValues config secrets world artifact request apiKeyReference
  return ⟨values.filterMap braveResult, "brave"⟩

/-- What a provider returns. -/
def SearchProvider.results (config : WebConfig) (secrets : String → Except WebTransportError String)
    (world : WebWorld) (artifact : Nat) (request : DependencySearchRequest) :
    SearchProvider → Except WebTransportError DependencySearchResponse
  | mock documents => .ok (mockSearch documents request)
  | brave apiKeyReference => searchBrave config secrets world artifact request apiKeyReference

/-- `search`, behind its authorization. -/
def search (config : WebConfig) (secrets : String → Except WebTransportError String) (world : WebWorld)
    (artifact : Nat) (provider : SearchProvider) (request : DependencySearchRequest) :
    Except WebTransportError DependencySearchResponse := do
  refuseIf (isBlank request.query ∨ request.count = 0) .invalidRequest
  provider.results config secrets world artifact request

end Brave

section Expectations

variable [UrlLibrary]

/-- A URL has a host that the lists of a request let pass, whatever its case and the dots at its end. -/
def AllowsUrl (request : DependencySearchRequest) (url : String) : Prop :=
  ((UrlLibrary.parse url).bind (·.host)).any fun host => request.admits (foldDomain host)

/-- Results are no more than a request asks for, and from hosts that it allows. -/
def RespectsRequest (request : DependencySearchRequest) (results : List DependencySearchResult) : Prop :=
  results.length ≤ request.count.toNat ∧ ∀ result ∈ results, AllowsUrl request result.url

/-- A matching document that passes although its host, folded, is not allowed has enough such documents in front of it. -/
def MockServes (documents : List MockSearchDocument) (request : DependencySearchRequest) : Prop :=
  ∀ document ∈ documents, searchDomainAllowed document.url request → 0 < document.score request.terms →
    documents.countP (fun other => (other.order request.terms document == .lt) &&
      (searchDomainAllowed other.url request && decide (0 < other.score request.terms))) < request.count.toNat →
    AllowsUrl request document.url

variable [HttpLibrary] [WebJson]

/-- What the provider of a search has to offer is what the request asks for. -/
def SearchProvider.Serves (config : WebConfig) (secrets : String → Except WebTransportError String) (world : WebWorld)
    (artifact : Nat) (request : DependencySearchRequest) : SearchProvider → Prop
  | mock documents => MockServes documents request
  | brave apiKeyReference =>
    ∀ values, braveValues config secrets world artifact request apiKeyReference = .ok values →
      values.countP (fun value => (braveResult value).isSome) ≤ request.count.toNat ∧
        ∀ value ∈ values, ∀ result, braveResult value = some result → AllowsUrl request result.url

end Expectations

end AgentMod
