import AgentMod.Web.Transport

/-! Requests stay confined to their targets along redirects, and secrets to the origin that no redirect leaves. -/

namespace AgentMod

section Targets

variable {policy : NetworkPolicy} {lookup : String → Nat → Except WebTransportError (List SocketAddr)} {url : WebUrl}
  {addresses : List SocketAddr}

theorem validateTarget_eq_ok : validateTarget lookup url policy = .ok addresses ↔
    ((url.scheme = "https" ∨ url.scheme = "http" ∧ policy.allowPlainHttp) ∧
      (url.username = "" ∧ url.password = none)) ∧
    (∃ host port, url.host = some host ∧ url.portOrKnownDefault = some port ∧ domainAllowed host policy ∧
      lookup host port = .ok addresses) ∧
    addresses ≠ [] ∧
    (policy.allowPrivateNetwork = false → ∀ address ∈ addresses, isPrivateOrSpecial address.ip = false) := by
  simp only [validateTarget, bind_eq_ok, exists_unit, refuseIf_eq_ok, okOr_eq_ok, pure_eq_ok]
  constructor
  · rintro ⟨admitted, host, named, allowed, port, known, found, looked, nonempty, open_, rfl⟩
    simp only [not_or, not_and, not_not, Bool.not_eq_false, Option.not_isSome_iff_eq_none] at admitted
    obtain ⟨scheme, plain, username, password⟩ := admitted
    refine ⟨⟨?_, username, password⟩, ⟨host, port, named, known, by simpa using allowed, looked⟩, nonempty, ?_⟩
    · by_cases https : url.scheme = "https"
      · exact .inl https
      · exact .inr ⟨scheme https, plain (scheme https)⟩
    · intro closed address member
      simp only [closed, true_and, List.any_eq_true, not_exists, not_and] at open_
      simpa using open_ address member
  · rintro ⟨⟨scheme, username, password⟩, ⟨host, port, named, known, allowed, looked⟩, nonempty, public_⟩
    refine ⟨?_, host, named, by simp [allowed], port, known, addresses, looked, nonempty, ?_, rfl⟩
    · rcases scheme with https | ⟨http, plain⟩
      · simp [https, username, password]
      · simp [http, plain, username, password]
    · rintro ⟨closed, some_⟩
      obtain ⟨address, member, special⟩ := List.any_eq_true.mp some_
      rw [public_ closed address member] at special
      cases special

end Targets

section Hops

variable [UrlLibrary] {policy : NetworkPolicy} {world : WebWorld} {left hop : Nat} {request : PreparedRequest}
  {addresses : List SocketAddr} {first : WebUrl}

theorem followHops_denied (denied : ¬ GoesOut policy world hop request.url) :
    (followHops policy world left hop request).1 = [] := by
  unfold followHops
  cases validated : validateTarget (world.lookup hop) request.url policy with
  | error error => simp
  | ok addresses =>
    cases expired : world.expired hop with
    | true => simp
    | false => exact absurd ⟨⟨addresses, validated⟩, expired⟩ denied

theorem followHops_redirect {answer : WebAnswer} {next : WebUrl}
    (validated : validateTarget (world.lookup hop) request.url policy = .ok addresses)
    (timely : world.expired hop = false) (answers : world.answer hop request.url = .ok answer)
    (redirects : answer.isRedirection) (leads : answer.redirect request.url = .ok next) :
    (followHops policy world (left + 1) hop request).1 =
        ⟨hop, request, addresses⟩ :: (followHops policy world left (hop + 1) { request with url := next }).1 ∧
      (followHops policy world (left + 1) hop request).2 =
        (followHops policy world left (hop + 1) { request with url := next }).2 := by
  constructor
  · conv_lhs => unfold followHops
    simp [validated, timely, answers, redirects, leads]
  · conv_lhs => unfold followHops
    simp [validated, timely, answers, redirects, leads]

theorem followHops_sends (left : Nat) (validated : validateTarget (world.lookup hop) request.url policy = .ok addresses)
    (timely : world.expired hop = false) :
    (followHops policy world left hop request).1 = [⟨hop, request, addresses⟩] ∨
      ∃ less next, left = less + 1 ∧ (∀ first, RedirectChain policy world first hop request.url →
          RedirectChain policy world first (hop + 1) next) ∧
        (followHops policy world left hop request).1 =
          ⟨hop, request, addresses⟩ :: (followHops policy world less (hop + 1) { request with url := next }).1 := by
  cases answers : world.answer hop request.url with
  | error error =>
    unfold followHops
    simp [validated, timely, answers]
  | ok answer =>
    by_cases redirects : answer.isRedirection
    · cases left with
      | zero =>
        unfold followHops
        simp [validated, timely, answers, redirects]
      | succ less =>
        cases leads : answer.redirect request.url with
        | error error =>
          unfold followHops
          simp [validated, timely, answers, redirects, leads]
        | ok next =>
          refine .inr ⟨less, next, rfl, fun first chain => ?_, ?_⟩
          · exact chain.next ⟨⟨addresses, validated⟩, timely⟩ answers redirects leads
          · exact (followHops_redirect validated timely answers redirects leads).1
    · unfold followHops
      simp [validated, timely, answers, redirects]

theorem sent_of_followHops {send : WebSend} (sent : send ∈ (followHops policy world left hop request).1)
    (chain : RedirectChain policy world first hop request.url) :
    RedirectChain policy world first send.hop send.request.url ∧ send.hop ≤ hop + left ∧
      validateTarget (world.lookup send.hop) send.request.url policy = .ok send.addresses ∧
      world.expired send.hop = false ∧ send.request.headers = request.headers := by
  induction left using Nat.strong_induction_on generalizing hop request with
  | _ left ih =>
    by_cases goes : GoesOut policy world hop request.url
    · obtain ⟨⟨addresses, validated⟩, timely⟩ := goes
      have here : RedirectChain policy world first hop request.url ∧ hop ≤ hop + left ∧
          validateTarget (world.lookup hop) request.url policy = .ok addresses ∧ world.expired hop = false ∧
          request.headers = request.headers :=
        ⟨chain, Nat.le_add_right _ _, validated, timely, rfl⟩
      rcases followHops_sends left validated timely with only | ⟨less, next, rfl, leads, sends⟩
      · rw [only, List.mem_singleton] at sent
        subst sent
        exact here
      · rw [sends, List.mem_cons] at sent
        rcases sent with rfl | later
        · exact here
        · obtain ⟨reached, within, rest⟩ := ih less (Nat.lt_succ_self _) later (leads first chain)
          exact ⟨reached, by omega, rest⟩
    · rw [followHops_denied goes] at sent
      cases sent

theorem length_followHops : (followHops policy world left hop request).1.length ≤ left + 1 := by
  induction left using Nat.strong_induction_on generalizing hop request with
  | _ left ih =>
    by_cases goes : GoesOut policy world hop request.url
    · obtain ⟨⟨addresses, validated⟩, timely⟩ := goes
      rcases followHops_sends left validated timely with only | ⟨less, next, rfl, leads, sends⟩
      · rw [only]
        exact Nat.le_add_left _ _
      · rw [sends, List.length_cons]
        exact Nat.add_le_add_right (ih less (Nat.lt_succ_self _)) 1
    · rw [followHops_denied goes]
      exact Nat.zero_le _

theorem followHops_of_chain {url : WebUrl} (chain : RedirectChain policy world request.url hop url)
    (within : hop ≤ left) : (followHops policy world (left - hop) hop { request with url }).1 ⊆
      (followHops policy world left 0 request).1 := by
  induction chain with
  | start => exact List.Subset.refl _
  | next before goes answers redirects leads ih =>
    rename_i hop url target answer
    obtain ⟨⟨addresses, validated⟩, timely⟩ := goes
    have more : left - hop = left - (hop + 1) + 1 := by omega
    have continues := ih (by omega)
    rw [more, (followHops_redirect validated timely answers redirects leads).1] at continues
    exact fun send later => continues (List.mem_cons_of_mem _ later)

theorem sent_of_chain {url : WebUrl} (chain : RedirectChain policy world request.url hop url) (within : hop ≤ left)
    (goes : GoesOut policy world hop url) :
    ∃ addresses, ⟨hop, { request with url }, addresses⟩ ∈ (followHops policy world left 0 request).1 := by
  obtain ⟨⟨addresses, validated⟩, timely⟩ := goes
  refine ⟨addresses, followHops_of_chain chain within ?_⟩
  have sends := @followHops_sends _ policy world hop { request with url } addresses (left - hop) validated timely
  rcases sends with only | ⟨less, next, -, -, sends⟩
  · rw [only]
    exact List.mem_cons_self
  · rw [sends]
    exact List.mem_cons_self

end Hops

theorem origin_of_prepareRequest [UrlLibrary] [HttpLibrary] {config : WebConfig}
    {secrets : String → Except WebTransportError String} {request : DependencyHttpRequest} {prepared : PreparedRequest}
    (prepares : prepareRequest config secrets request = .ok prepared) :
    ∃ own, UrlLibrary.parse request.url = some own ∧ prepared.url.origin = own.origin := by
  simp only [prepareRequest, bind_eq_ok, exists_unit, okOr_eq_ok, pure_eq_ok] at prepares
  obtain ⟨_, _, _, own, parses, _, _, _, _, rfl⟩ := prepares
  exact ⟨own, parses, rfl⟩

section Sample

/-- The page of a host. -/
def samplePage (host : String) : WebUrl := ⟨"https", "", none, some host, none, "/"⟩

/-- URLs that are hosts. -/
@[reducible] def hostUrls : UrlLibrary where
  parse text := some (samplePage text)
  join _ text := some (samplePage text)
  appendPair rest _ := rest
  serialize url := url.host.getD ""

/-- Messages that are what they are. -/
@[reducible] def plainHttp : HttpLibrary where
  method := some
  headerName := some
  headerValue := some
  jsonBytes _ := none
  formBytes _ := []
  base64 _ := ""

attribute [local instance] hostUrls plainHttp

/-- A web host that allows two hosts. -/
def sampleWebConfig : WebConfig where
  networkPolicy := ⟨["a", "b"], [], false, false, .ofList ["GET"]⟩
  maximumRedirects := 5
  maximumTimeout := 60
  maximumResponseBytes := 64
  maximumInlineBytes := 64
  maximumUrlLength := 64
  maximumHeaders := 1
  maximumRequestBodyBytes := 0
  cacheEntries := 2

/-- A request with a secret for one of the hosts. -/
def secretRequest : DependencyHttpRequest where
  method := "GET"
  url := "a"
  query := ∅
  headers := (∅ : StringMap DependencyHeaderValue).insert "x-key" (.secretReference "env:KEY")
  body := .empty
  maxRedirects := 1
  timeout := 1
  maxResponseBytes := 64
  maxInlineBytes := 64

/-- A world in which one of the hosts redirects to the other one. -/
def redirectingWorld : WebWorld where
  lookup _ _ port := .ok [⟨.v4 1 1 1 1, port⟩]
  expired _ := false
  answer _ url :=
    if url.host = some "a" then .ok ⟨302, some "b", [], none, [], none⟩ else .ok ⟨200, none, [], none, [], none⟩

/-- The request with its secret. -/
def preparedSecret : PreparedRequest where
  method := "GET"
  url := samplePage "a"
  headers := (∅ : HeaderMap).insert "x-key" ⟨"key", some "env:KEY"⟩
  body := none

end Sample

end AgentMod
