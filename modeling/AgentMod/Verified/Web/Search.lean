import AgentMod.Verified.Web.Redirects
import AgentMod.Web.Search

/-! Which searches return only what was asked for. -/

namespace AgentMod

section Mock

variable {documents : List MockSearchDocument} {request : DependencySearchRequest} {terms : List String}
  {document other : MockSearchDocument}

instance : Std.TransCmp (MockSearchDocument.order terms) := by
  have descending : Std.TransCmp fun left right : MockSearchDocument =>
      compare (right.score terms) (left.score terms) :=
    @Std.TransCmp.opposite _ (compareOn fun document : MockSearchDocument => document.score terms) _
  exact inferInstanceAs (Std.TransCmp (compareLex (fun left right : MockSearchDocument =>
    compare (right.score terms) (left.score terms)) (compareOn MockSearchDocument.url)))

theorem url_eq_of_order (same : document.order terms other = .eq) : document.url = other.url := by
  rw [MockSearchDocument.order, compareLex, Ordering.then_eq_eq] at same
  exact Std.LawfulEqCmp.eq_of_compare same.2

variable [UrlLibrary]

/-- The documents that match and pass. -/
def MockSearchDocument.Passes (request : DependencySearchRequest) (document : MockSearchDocument) : Bool :=
  searchDomainAllowed document.url request && decide (0 < document.score request.terms)

/-- All results of a search over documents have allowed URLs exactly where all documents that are among the first of those
that match and pass have. -/
theorem mockSearch_respects :
    RespectsRequest request (mockSearch documents request).results ↔ MockServes documents request := by
  let scored := documents.filter (MockSearchDocument.Passes request)
  let order := MockSearchDocument.order request.terms
  have results : (mockSearch documents request).results =
      ((sortBy order scored).take request.count.toNat).map (·.result) := rfl
  have ahead (document : MockSearchDocument) : (sortBy order scored).countP (fun other =>
      order other document == .lt) = documents.countP (fun other =>
        (order other document == .lt) && other.Passes request) := by
    rw [sortBy_perm.countP_eq, List.countP_filter]
  rw [RespectsRequest, results, List.length_map, List.forall_mem_map]
  constructor
  · rintro ⟨-, allowed⟩ document listed passes matches_ few
    have inside : document ∈ sortBy order scored := sortBy_perm.mem_iff.mpr <| List.mem_filter.mpr
      ⟨listed, Bool.and_eq_true_iff.mpr ⟨passes, decide_eq_true matches_⟩⟩
    obtain ⟨other, among, same⟩ := exists_mem_take_of_countP_lt pairwise_sortBy inside ((ahead document).trans_lt few)
    have allows := allowed other among
    rwa [MockSearchDocument.result, url_eq_of_order same] at allows
  · intro serves
    refine ⟨List.length_take_le _ _, fun document among => ?_⟩
    have inside := sortBy_perm.mem_iff.mp (List.mem_of_mem_take among)
    obtain ⟨listed, passing⟩ := List.mem_filter.mp inside
    obtain ⟨passes, matches_⟩ := Bool.and_eq_true_iff.mp passing
    exact serves document listed passes (of_decide_eq_true matches_)
      ((ahead document).symm.trans_lt (countP_lt_of_mem_take pairwise_sortBy among))

end Mock

section Searches

variable [UrlLibrary] [HttpLibrary] [WebJson] {config : WebConfig} {secrets : String → Except WebTransportError String}
  {world : WebWorld} {artifact : Nat} {request : DependencySearchRequest}

theorem searchBrave_respects {apiKeyReference : String} :
    (∀ response, searchBrave config secrets world artifact request apiKeyReference = .ok response →
      RespectsRequest request response.results) ↔
    (SearchProvider.brave apiKeyReference).Serves config secrets world artifact request := by
  have respects (values : List Json) : RespectsRequest request (values.filterMap braveResult) ↔
      values.countP (fun value => (braveResult value).isSome) ≤ request.count.toNat ∧
        ∀ value ∈ values, ∀ result, braveResult value = some result → AllowsUrl request result.url := by
    rw [RespectsRequest, List.length_filterMap_eq_countP]
    refine and_congr_right fun _ => ⟨fun allowed value listed result shown => ?_, fun allowed result among => ?_⟩
    · exact allowed result (List.mem_filterMap.mpr ⟨value, listed, shown⟩)
    · obtain ⟨value, listed, shown⟩ := List.mem_filterMap.mp among
      exact allowed value listed result shown
  constructor
  · intro all values listed
    exact (respects values).mp (all _ (bind_eq_ok.mpr ⟨values, listed, rfl⟩))
  · intro serves response returned
    obtain ⟨values, listed, ⟨⟩⟩ := bind_eq_ok.mp returned
    exact (respects values).mpr (serves values listed)

/-- A search that is not refused returns only what was asked for exactly where its provider has nothing else to offer. -/
theorem search_respects {provider : SearchProvider} :
    (∀ response, search config secrets world artifact provider request = .ok response →
      RespectsRequest request response.results) ↔
    (isBlank request.query = false → request.count ≠ 0 → provider.Serves config secrets world artifact request) := by
  have behind : (∀ response, search config secrets world artifact provider request = .ok response →
      RespectsRequest request response.results) ↔ (¬ (isBlank request.query ∨ request.count = 0) →
        ∀ response, provider.results config secrets world artifact request = .ok response →
          RespectsRequest request response.results) := by
    constructor
    · exact fun all accepted response returned =>
        all response (bind_eq_ok.mpr ⟨(), refuseIf_eq_ok.mpr accepted, returned⟩)
    · intro all response returned
      obtain ⟨_, accepted, found⟩ := bind_eq_ok.mp returned
      exact all (refuseIf_eq_ok.mp accepted) response found
  have serves : (∀ response, provider.results config secrets world artifact request = .ok response →
      RespectsRequest request response.results) ↔ provider.Serves config secrets world artifact request := by
    cases provider with
    | brave apiKeyReference => exact searchBrave_respects
    | mock documents =>
      refine Iff.trans ⟨fun all => all _ rfl, fun respects response returned => ?_⟩ mockSearch_respects
      cases returned
      exact respects
  rw [behind, serves, not_or, Bool.not_eq_true, and_imp]

end Searches

section Sample

attribute [local instance] hostUrls plainHttp

/-- A provider that lists two pages. -/
@[reducible] def twoPages : WebJson where
  fromStr _ := some (.object [("web", .object [("results", .array (["a", "b"].map fun url =>
    .object [("title", .string "page"), ("url", .string url)]))])])

attribute [local instance] twoPages

/-- A search for some pages, not on one host. -/
def pageSearch (count : UInt8) : DependencySearchRequest := ⟨"page", count, none, [], ["a"], none, none, 1⟩

/-- A web host that may ask the provider. -/
def searchConfig : WebConfig :=
  { sampleWebConfig with
    maximumHeaders := 3
    networkPolicy := ⟨["https://api.search.brave.com/res/v1/web/search"], [], false, false, .ofList ["GET"]⟩ }

/-- A world in which all hosts answer. -/
def answeringWorld : WebWorld where
  lookup _ _ port := .ok [⟨.v4 1 1 1 1, port⟩]
  expired _ := false
  answer _ _ := .ok ⟨200, none, [], some "application/json", [[0x7B, 0x7D]], none⟩

/-- A denied host with a dot at its end passes, and a provider may list more results than were asked for, of denied hosts. -/
theorem not_search_respects :
    (∃ response, search searchConfig (fun _ => .ok "key") answeringWorld 0
      (.mock [⟨"page", "a.", "", none⟩]) (pageSearch 1) = .ok response ∧
        ¬ ∀ result ∈ response.results, AllowsUrl (pageSearch 1) result.url) ∧
    ∃ response, search searchConfig (fun _ => .ok "key") answeringWorld 0 (.brave "key") (pageSearch 1) = .ok response ∧
      ¬ response.results.length ≤ (pageSearch 1).count.toNat ∧
        ¬ ∀ result ∈ response.results, AllowsUrl (pageSearch 1) result.url := by
  have denied : ¬ AllowsUrl (pageSearch 1) "a" ∧ ¬ AllowsUrl (pageSearch 1) "a." := by
    rw [AllowsUrl, AllowsUrl]
    decide +kernel
  refine ⟨⟨⟨[⟨"page", "a.", "", none⟩], "mock"⟩, by decide +kernel, fun allowed => ?_⟩,
    ⟨⟨[⟨"page", "a", "", none⟩, ⟨"page", "b", "", none⟩], "brave"⟩, by decide +kernel, by decide, fun allowed => ?_⟩⟩
  · exact denied.2 (allowed ⟨"page", "a.", "", none⟩ (List.mem_singleton_self _))
  · exact denied.1 (allowed ⟨"page", "a", "", none⟩ List.mem_cons_self)

end Sample

end AgentMod
