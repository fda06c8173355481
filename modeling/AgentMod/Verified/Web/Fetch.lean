import AgentMod.Verified.Primitives.Collections
import AgentMod.Verified.Web.Redirects
import AgentMod.Web.Fetch

/-! The cache is transparent exactly for requests whose limits make no difference to the one that filled the entry. -/

namespace AgentMod

section Landing

variable [UrlLibrary] {policy : NetworkPolicy} {world : WebWorld} {left hop : Nat} {request : PreparedRequest}
  {first url : WebUrl} {answer : WebAnswer}

theorem followHops_continues (chain : RedirectChain policy world request.url hop url) (within : hop ≤ left) :
    (followHops policy world left 0 request).2 =
      (followHops policy world (left - hop) hop { request with url }).2 := by
  induction chain with
  | start => rfl
  | next before goes answers redirects leads ih =>
    rename_i hop url target answer
    obtain ⟨⟨addresses, validated⟩, timely⟩ := goes
    have more : left - hop = left - (hop + 1) + 1 := by omega
    rw [ih (by omega), more]
    exact (followHops_redirect validated timely answers redirects leads).2

theorem followHops_exceeds (chain : RedirectChain policy world request.url hop url) (beyond : left < hop) :
    (followHops policy world left 0 request).2 = .error .redirectLimit := by
  induction chain with
  | start => cases beyond
  | next before goes answers redirects leads ih =>
    rename_i hop url target answer
    rcases Nat.lt_or_ge left hop with earlier | here
    · exact ih earlier
    · obtain ⟨⟨addresses, validated⟩, timely⟩ := goes
      have last : left = hop := by omega
      subst last
      rw [followHops_continues before le_rfl, Nat.sub_self]
      unfold followHops
      simp [validated, timely, answers, redirects]

theorem followHops_ends (goes : GoesOut policy world hop request.url) (answers : world.answer hop request.url = .ok answer)
    (ends : answer.isRedirection = false) : (followHops policy world left hop request).2 = .ok (request.url, answer) := by
  obtain ⟨⟨addresses, validated⟩, timely⟩ := goes
  unfold followHops
  simp [validated, timely, answers, ends]

theorem followHops_lands (chain : RedirectChain policy world request.url hop url) (goes : GoesOut policy world hop url)
    (answers : world.answer hop url = .ok answer) (ends : answer.isRedirection = false) :
    (followHops policy world left 0 request).2 =
      if hop ≤ left then .ok (url, answer) else .error .redirectLimit := by
  split
  · rename_i within
    rw [followHops_continues chain within]
    exact @followHops_ends _ policy world _ hop { request with url } answer goes answers ends
  · rename_i beyond
    exact followHops_exceeds chain (Nat.lt_of_not_le beyond)

/-- What the loop returns is an answer that redirects lead to and that is no redirect itself. -/
theorem lands_of_followHops (chain : RedirectChain policy world first hop request.url)
    (ended : (followHops policy world left hop request).2 = .ok (url, answer)) :
    ∃ last, RedirectChain policy world first last url ∧ GoesOut policy world last url ∧
      world.answer last url = .ok answer ∧ answer.isRedirection = false := by
  induction left using Nat.strong_induction_on generalizing hop request with
  | _ left ih =>
    cases validated : validateTarget (world.lookup hop) request.url policy with
    | error error =>
      unfold followHops at ended
      simp [validated] at ended
    | ok addresses =>
      cases expired : world.expired hop with
      | true =>
        unfold followHops at ended
        simp [validated, expired] at ended
      | false =>
        cases answers : world.answer hop request.url with
        | error error =>
          unfold followHops at ended
          simp [validated, expired, answers] at ended
        | ok found =>
          have goes : GoesOut policy world hop request.url := ⟨⟨addresses, validated⟩, expired⟩
          cases redirects : found.isRedirection with
          | false =>
            rw [followHops_ends goes answers redirects] at ended
            cases ended
            exact ⟨hop, chain, goes, answers, redirects⟩
          | true =>
            cases left with
            | zero =>
              unfold followHops at ended
              simp [validated, expired, answers, redirects] at ended
            | succ less =>
              cases leads : found.redirect request.url with
              | error error =>
                unfold followHops at ended
                simp [validated, expired, answers, redirects, leads] at ended
              | ok next =>
                rw [(followHops_redirect validated expired answers redirects leads).2] at ended
                exact ih less (Nat.lt_succ_self _) (chain.next goes answers redirects leads) ended

end Landing

section Bodies

variable {maximum : Nat} {broken : Option WebTransportError} {body : List UInt8}

theorem readBodyChunks_eq_ok {chunks : List (List UInt8)} {result : List UInt8} :
    readBodyChunks maximum broken body chunks = .ok result ↔
      (chunks = [] ∨ (body ++ chunks.flatten).length ≤ maximum) ∧ broken = none ∧ result = body ++ chunks.flatten := by
  induction chunks generalizing body with
  | nil => cases broken <;> simp [readBodyChunks, eq_comm]
  | cons chunk rest ih =>
    rw [readBodyChunks]
    split
    · rename_i exceeds
      simp only [List.flatten_cons, List.length_append, reduceCtorEq, false_iff, false_or, not_and]
      intro within
      omega
    · rename_i within
      rw [ih]
      cases rest with
      | nil => simp; omega
      | cons next others => simp [List.append_assoc]

end Bodies

section Fresh

theorem extractFetch_artifact [UrlLibrary] [HtmlLibrary] (response : DependencyHttpResponse) (maximum : Nat) :
    extractFetch response maximum = (fun found => { found with artifact := response.artifact }) <$>
      extractFetch { response with artifact := none } maximum := by
  unfold extractFetch
  dsimp only
  split
  · rfl
  · rw [refuseIf]
    split
    · rfl
    · cases UrlLibrary.parse response.finalUrl with
      | none => rfl
      | some base => simp only [okOr, pure, Except.pure, bind, Except.bind, Functor.map, Except.map]

variable [UrlLibrary] {config : WebConfig} {site : WebSite} {request other : DependencyFetchRequest}
  {prepared : PreparedRequest} {first url : WebUrl} {hop : Nat} {answer : WebAnswer}
  {secrets : String → Except WebTransportError String}

theorem Lands.unique {hop' : Nat} {url' : WebUrl} {answer' : WebAnswer} (lands : Lands config site first hop url answer)
    (lands' : Lands config site first hop' url' answer') : hop = hop' ∧ url = url' ∧ answer = answer' := by
  obtain ⟨chain, goes, answers, ends⟩ := lands
  obtain ⟨chain', goes', answers', ends'⟩ := lands'
  let request : PreparedRequest := ⟨"", first, ∅, none⟩
  have one (left : Nat) := @followHops_lands _ config.networkPolicy site.world left hop request url answer chain goes
    answers ends
  have two (left : Nat) := @followHops_lands _ config.networkPolicy site.world left hop' request url' answer' chain'
    goes' answers' ends'
  have at_ := (one hop).symm.trans (two hop)
  have at' := (one hop').symm.trans (two hop')
  rw [if_pos le_rfl] at at_ at'
  by_cases within : hop' ≤ hop
  · rw [if_pos within] at at_
    cases at_
    by_cases back : hop ≤ hop'
    · exact ⟨le_antisymm back within, rfl, rfl⟩
    · rw [if_neg back] at at'
      cases at'
  · rw [if_neg within] at at_
    cases at_

variable [HttpLibrary]

theorem parse_of_prepareRequest (prepares : prepareRequest config secrets request.http = .ok prepared) :
    UrlLibrary.parse request.url = some prepared.url := by
  simp only [prepareRequest, bind_eq_ok, exists_unit, okOr_eq_ok, pure_eq_ok] at prepares
  obtain ⟨_, _, _, own, parses, _, _, _, _, rfl⟩ := prepares
  have empty : (∅ : StringMap String).toList = [] := Std.ExtTreeMap.toList_eq_nil_iff.mpr rfl
  rw [DependencyFetchRequest.http, empty]
  exact parses

theorem prepareRequest_alike (same : request.url = other.url)
    (bounded : validateRequestBounds config request.http = .ok ())
    (prepares : prepareRequest config secrets other.http = .ok prepared) :
    prepareRequest config secrets request.http = .ok prepared := by
  simp only [prepareRequest, bind_eq_ok, exists_unit] at prepares ⊢
  refine ⟨bounded, ?_⟩
  rw [DependencyFetchRequest.http, same]
  exact prepares.2

variable [HtmlLibrary]

theorem content_extractFetch (artifact : Nat) (url : WebUrl) (answer : WebAnswer) (body : List UInt8) (maximum : Nat) :
    DependencyFetchResponse.content <$> extractFetch (projectResponse artifact url answer body maximum) maximum =
      DependencyFetchResponse.content <$> extractFetch (projectResponse 0 url answer body maximum) maximum := by
  rw [extractFetch_artifact (projectResponse artifact _ _ _ _), extractFetch_artifact (projectResponse 0 _ _ _ _)]
  have same : { projectResponse artifact url answer body maximum with artifact := none } =
    { projectResponse 0 url answer body maximum with artifact := none } := rfl
  rw [same]
  cases extractFetch { projectResponse 0 url answer body maximum with artifact := none } maximum with
  | error error => rfl
  | ok found =>
    have numbers : (projectResponse artifact url answer body maximum).artifact.map (fun _ => 0) =
        (projectResponse 0 url answer body maximum).artifact.map fun _ => 0 := by
      by_cases large : body.length > maximum <;> simp [projectResponse, large]
    exact congrArg (fun numbered => Except.ok { found with artifact := numbered, cached := false }) numbers

theorem content_freshFetch (artifact : Nat) : DependencyFetchResponse.content <$> freshFetch config site artifact request =
    DependencyFetchResponse.content <$> freshFetch config site 0 request := by
  rw [freshFetch, freshFetch, executeHttp, executeHttp]
  cases prepareRequest config (fun _ => .error .secretUnavailable) request.http with
  | error error => rfl
  | ok prepared =>
    dsimp only
    cases (followHops config.networkPolicy site.world request.http.maxRedirects.toNat 0 prepared).2 with
    | error error => rfl
    | ok found =>
      change DependencyFetchResponse.content <$> (readResponse artifact found.1 found.2 _ _ >>= _) =
        DependencyFetchResponse.content <$> (readResponse 0 found.1 found.2 _ _ >>= _)
      rw [readResponse, readResponse]
      cases readBodyChunks request.http.maxResponseBytes found.2.broken [] found.2.chunks with
      | error error => rfl
      | ok body => exact content_extractFetch artifact found.1 found.2 body request.maxInlineBytes

/-- A fetch returns what is extracted of the answer that redirects lead to, if its limits admit that. -/
theorem content_freshFetch_eq_ok {artifact : Nat} {content : DependencyFetchResponse} :
    DependencyFetchResponse.content <$> freshFetch config site artifact request = .ok content ↔
      ∃ first hop url answer, prepareRequest config (fun _ => .error .secretUnavailable) request.http = .ok first ∧
        Lands config site first.url hop url answer ∧ hop ≤ request.maxRedirects.toNat ∧
        answer.chunks.flatten.length ≤ request.maxResponseBytes ∧ answer.broken = none ∧
        inlineContent url answer request.maxInlineBytes = .ok content := by
  rw [freshFetch, executeHttp]
  cases prepares : prepareRequest config (fun _ => .error .secretUnavailable) request.http with
  | error error =>
    refine iff_of_false (fun same => ?_) ?_
    · cases same
    · rintro ⟨_, _, _, _, same, -⟩
      cases same
  | ok prepared =>
    dsimp only
    cases ended : (followHops config.networkPolicy site.world request.http.maxRedirects.toNat 0 prepared).2 with
    | error error =>
      refine iff_of_false (fun same => ?_) ?_
      · cases same
      · rintro ⟨_, hop, url, answer, same, ⟨chain, goes, answers, ends⟩, within, -⟩
        cases same
        rw [followHops_lands chain goes answers ends] at ended
        rw [if_pos (show hop ≤ request.http.maxRedirects.toNat from within)] at ended
        cases ended
    | ok found =>
      obtain ⟨url, answer⟩ := found
      obtain ⟨hop, chain, goes, answers, ends⟩ := lands_of_followHops .start ended
      have lands : Lands config site prepared.url hop url answer := ⟨chain, goes, answers, ends⟩
      have within : hop ≤ request.maxRedirects.toNat := by
        by_contra beyond
        rw [followHops_lands chain goes answers ends] at ended
        rw [if_neg (show ¬ hop ≤ request.http.maxRedirects.toNat from beyond)] at ended
        cases ended
      constructor
      · intro extracted
        rw [map_eq_ok] at extracted
        obtain ⟨response, extracted, rfl⟩ := extracted
        obtain ⟨http, read, extracted⟩ := bind_eq_ok.mp extracted
        change readResponse artifact url answer request.maxResponseBytes request.maxInlineBytes = .ok http at read
        obtain ⟨body, whole, projected⟩ := bind_eq_ok.mp read
        obtain ⟨small, unbroken, rfl⟩ := readBodyChunks_eq_ok.mp whole
        cases projected
        refine ⟨prepared, hop, url, answer, rfl, lands, within, ?_, unbroken, ?_⟩
        · rcases small with none_ | small
          · simp [none_]
          · exact small
        · rw [inlineContent, ← content_extractFetch artifact]
          exact congrArg _ extracted
      · rintro ⟨_, hop', url', answer', same, lands', -, small, unbroken, inlined⟩
        cases same
        obtain ⟨rfl, rfl, rfl⟩ := lands.unique lands'
        have whole : readBodyChunks request.maxResponseBytes answer.broken [] answer.chunks = .ok answer.chunks.flatten :=
          readBodyChunks_eq_ok.mpr ⟨.inr small, unbroken, rfl⟩
        have read : readResponse artifact url answer request.maxResponseBytes request.maxInlineBytes =
            .ok (projectResponse artifact url answer answer.chunks.flatten request.maxInlineBytes) := by
          rw [readResponse, whole]
          rfl
        rw [inlineContent, ← content_extractFetch artifact] at inlined
        rw [← inlined]
        change DependencyFetchResponse.content <$>
          (readResponse artifact url answer request.maxResponseBytes request.maxInlineBytes >>= _) = _
        rw [read]
        rfl

theorem content_freshFetch_iff {artifact : Nat} {entry : DependencyFetchResponse} (same : request.url = other.url)
    (filled : freshFetch config site artifact other = .ok entry) :
    DependencyFetchResponse.content <$> freshFetch config site 0 request = .ok entry.content ↔
      Interchangeable config site request other := by
  have filled' : DependencyFetchResponse.content <$> freshFetch config site artifact other = .ok entry.content := by
    rw [filled]
    rfl
  obtain ⟨prepared, hop, url, answer, prepares, lands, -, -, unbroken, inlined⟩ := content_freshFetch_eq_ok.mp filled'
  constructor
  · intro own
    obtain ⟨prepared', hop', url', answer', prepares', lands', within, small, -, inlined'⟩ :=
      content_freshFetch_eq_ok.mp own
    have parsed := parse_of_prepareRequest prepares'
    have parses : UrlLibrary.parse request.url = some prepared.url := same ▸ parse_of_prepareRequest prepares
    obtain ⟨⟨⟩, bounded, -⟩ := bind_eq_ok.mp prepares'
    refine ⟨bounded, fun first last target found parses'' lands'' => ?_⟩
    cases parses.symm.trans parses''
    have urls : prepared.url = prepared'.url := Option.some_inj.mp (parses.symm.trans parsed)
    rw [← urls] at lands'
    obtain ⟨rfl, rfl, rfl⟩ := lands.unique lands'
    obtain ⟨rfl, rfl, rfl⟩ := lands.unique lands''
    exact ⟨within, small, inlined'.trans inlined.symm⟩
  · rintro ⟨bounded, admits⟩
    have parses : UrlLibrary.parse request.url = some prepared.url := same ▸ parse_of_prepareRequest prepares
    obtain ⟨within, small, alike⟩ := admits _ _ _ _ parses lands
    exact content_freshFetch_eq_ok.mpr ⟨prepared, hop, url, answer, prepareRequest_alike same bounded prepares, lands,
      within, small, unbroken, alike.trans inlined⟩

end Fresh

section Runs

theorem getElem?_insertCached {config : WebConfig} {url other : String} {response found : DependencyFetchResponse}
    {cache : StringMap DependencyFetchResponse} (present : (insertCached config url response cache)[other]? = some found) :
    url = other ∧ response = found ∨ url ≠ other ∧ cache[other]? = some found := by
  rw [insertCached, Std.ExtTreeMap.getElem?_insert] at present
  split at present
  · rename_i same
    exact .inl ⟨by simpa using same, by simpa using present⟩
  · rename_i differs
    refine .inr ⟨by simpa using differs, ?_⟩
    split at present
    · cases first : cache.minKey? with
      | none => simpa [first] using present
      | some key =>
        simp only [first, Option.elim_some] at present
        rw [StringMap.getElem?_erase'] at present
        split at present
        · cases present
        · exact present
    · exact present

theorem filler_snoc {url : String}
    {labels : List (DependencyFetchRequest × Except WebTransportError DependencyFetchResponse)}
    {label : DependencyFetchRequest × Except WebTransportError DependencyFetchResponse} :
    filler url (labels ++ [label]) =
      if label.1.url = url ∧ label.1.useCache ∧ returns label.2 (fun response => !response.cached) then some label.1
      else filler url labels := by
  rw [filler, filler, List.reverse_append, List.reverse_singleton, List.singleton_append, List.find?_cons]
  by_cases fills : label.1.url = url ∧ label.1.useCache ∧ returns label.2 (fun response => !response.cached)
  · rw [if_pos fills]
    simp [fills.1, fills.2.1, fills.2.2]
  · rw [if_neg fills]
    have passes : (decide (label.1.url = url) && label.1.useCache &&
        returns label.2 (fun response => !response.cached)) = false := by
      rw [Bool.eq_false_iff]
      intro all
      simp only [Bool.and_eq_true, decide_eq_true_eq] at all
      exact fills ⟨all.1.1, all.1.2, all.2⟩
    rw [passes]

variable [UrlLibrary] [HttpLibrary] [HtmlLibrary] {config : WebConfig} {site : WebSite} {fetcher next : WebFetcher}
  {request : DependencyFetchRequest} {result : Except WebTransportError DependencyFetchResponse}
  {labels : List (DependencyFetchRequest × Except WebTransportError DependencyFetchResponse)}

theorem fetch_hit {response : DependencyFetchResponse} (uses : request.useCache)
    (found : fetcher.cache[request.url]? = some response) :
    fetch config site request fetcher = (.ok { response with cached := true }, fetcher) := by
  simp [fetch, uses, found]

theorem fetch_miss (missing : request.useCache → fetcher.cache[request.url]? = none) :
    (fetch config site request fetcher).1 =
        (fun response => { response with cached := false }) <$> freshFetch config site fetcher.artifacts request ∧
      ((fetch config site request fetcher).2.cache = fetcher.cache ∨
        request.useCache ∧ ∃ response, freshFetch config site fetcher.artifacts request = .ok response ∧
          (fetch config site request fetcher).2.cache = insertCached config request.url response fetcher.cache) := by
  have none_ : (if request.useCache then fetcher.cache[request.url]? else none) = none := by
    split
    · rename_i uses
      exact missing uses
    · rfl
  rw [fetch, none_]
  cases fresh : freshFetch config site fetcher.artifacts request with
  | error error => exact ⟨rfl, .inl rfl⟩
  | ok response =>
    refine ⟨rfl, ?_⟩
    dsimp only
    split
    · rename_i both
      exact .inr ⟨both.1, response, rfl, rfl⟩
    · exact .inl rfl

/-- Every entry of the cache is what the last request that filled it was answered. -/
theorem filled_of_run (run : Run (FetchStep config site) ⟨∅, 0⟩ labels fetcher) {url : String}
    {entry : DependencyFetchResponse} (present : fetcher.cache[url]? = some entry) :
    ∃ first artifact, filler url labels = some first ∧ first.url = url ∧
      freshFetch config site artifact first = .ok entry := by
  induction run generalizing url entry with
  | nil => simp at present
  | snoc before taken ih =>
    rename_i labels label fetcher next
    obtain ⟨request, result⟩ := label
    rw [FetchStep] at taken
    rw [filler_snoc]
    by_cases hit : request.useCache ∧ ∃ response, fetcher.cache[request.url]? = some response
    · obtain ⟨uses, response, found⟩ := hit
      cases (fetch_hit uses found).symm.trans taken
      rw [if_neg (by simp [returns])]
      exact ih present
    · have missing : request.useCache → fetcher.cache[request.url]? = none := by
        intro uses
        exact Option.eq_none_iff_forall_ne_some.mpr fun response found => hit ⟨uses, response, found⟩
      obtain ⟨results, caches⟩ := @fetch_miss _ _ _ config site fetcher request missing
      rw [taken] at results caches
      have kept (still : fetcher.cache[url]? = some entry) (other : ¬ (request.url = url ∧ request.useCache)) :
          ∃ first artifact, (if request.url = url ∧ request.useCache ∧ returns result (fun response => !response.cached)
              then some request else filler url labels) = some first ∧ first.url = url ∧
            freshFetch config site artifact first = .ok entry := by
        rw [if_neg fun fills => other ⟨fills.1, fills.2.1⟩]
        exact ih still
      rcases caches with same | ⟨uses, response, fresh, inserted⟩
      · refine kept (same ▸ present) fun fills => ?_
        rw [same, ← fills.1, missing fills.2] at present
        cases present
      · rw [inserted] at present
        rcases getElem?_insertCached present with ⟨own, rfl⟩ | ⟨other, still⟩
        · rw [fresh] at results
          cases results
          exact ⟨request, fetcher.artifacts, by rw [if_pos ⟨own, uses, rfl⟩], own, fresh⟩
        · exact kept still fun fills => other fills.1

/-- A result is transparent exactly if the request is not served from an entry of a request that it is not
interchangeable with. -/
theorem transparent_of_step (run : Run (FetchStep config site) ⟨∅, 0⟩ labels fetcher)
    (step : FetchStep config site fetcher (request, result) next) :
    (request.useCache → Transparent config site request result) ↔
      ServedAlike config site labels (request, result) := by
  have determined : ∀ (state : WebFetcher) label next other, FetchStep config site state label next →
      FetchStep config site state label other → next = other := by
    intro state label next other one two
    exact congrArg Prod.snd (one.symm.trans two)
  rw [FetchStep] at step
  by_cases hit : request.useCache ∧ ∃ response, fetcher.cache[request.url]? = some response
  · obtain ⟨uses, response, found⟩ := hit
    cases (fetch_hit uses found).symm.trans step
    obtain ⟨first, artifact, fills, same, fresh⟩ := filled_of_run run found
    have alike := @content_freshFetch_iff _ config site request first _ _ artifact response same.symm fresh
    rw [eq_comm] at alike
    constructor
    · intro transparent _ _ _ _ other fills'
      cases fills.symm.trans fills'
      exact alike.mp (transparent uses)
    · intro served _
      exact alike.mpr (served uses fetcher run (Std.ExtTreeMap.mem_iff_isSome_getElem?.mpr (by simp [found])) first fills)
  · have missing : request.useCache → fetcher.cache[request.url]? = none := by
      intro uses
      exact Option.eq_none_iff_forall_ne_some.mpr fun response found => hit ⟨uses, response, found⟩
    refine iff_of_true (fun _ => ?_) ?_
    · obtain ⟨results, -⟩ := @fetch_miss _ _ _ config site fetcher request missing
      rw [step] at results
      change result = _ at results
      have alike : DependencyFetchResponse.content <$> result =
          DependencyFetchResponse.content <$> freshFetch config site fetcher.artifacts request := by
        rw [results]
        cases freshFetch config site fetcher.artifacts request <;> rfl
      exact alike.trans (content_freshFetch fetcher.artifacts)
    · intro uses other run' present
      cases run.unique run' determined
      rw [Std.ExtTreeMap.mem_iff_isSome_getElem?] at present
      rw [missing uses] at present
      cases present

end Runs

section Sample

/-- Documents that are text only. -/
@[reducible] def textPages : HtmlLibrary where
  select document selector := if selector = "body" then [⟨[document], []⟩] else []

attribute [local instance] hostUrls plainHttp textPages

/-- A site of one page. -/
def samplePages : WebSite where
  lookup _ port := .ok [⟨.v4 1 1 1 1, port⟩]
  answer _ := .ok ⟨200, none, [], some "text/plain", [[97, 98, 99, 100]], none⟩

/-- A fetch of the page within an inline limit. -/
def sampleFetch (maxInlineBytes : Nat) : DependencyFetchRequest := ⟨"a", 0, 1, 64, maxInlineBytes, true⟩

/-- A step of the sample fetcher, with its result. -/
def sampleFetchStep (fetcher : WebFetcher) (maxInlineBytes : Nat) :
    DependencyFetchRequest × Except WebTransportError DependencyFetchResponse :=
  (sampleFetch maxInlineBytes, (fetch sampleWebConfig samplePages (sampleFetch maxInlineBytes) fetcher).1)

end Sample

end AgentMod
