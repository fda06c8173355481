import AgentMod.Verified.Web.Fetch

/-! Which texts a response shows as text, and where a long text is cut off. -/

namespace AgentMod

section Truncation

variable {text : List Char}

theorem boundaryUpTo_eq_some (text : List Char) {turns finish : Nat} (enough : finish < turns) : ∃ front, front <+: text ∧
    boundaryUpTo text turns finish = some (utf8Length front) ∧ utf8Length front ≤ finish ∧
      ∀ index, utf8Length front < index → index ≤ finish → isCharBoundary text index = false := by
  induction turns generalizing finish with
  | zero => exact absurd enough (Nat.not_lt_zero _)
  | succ turns ih =>
    rw [boundaryUpTo]
    split
    next boundary =>
      obtain ⟨front, within, rfl⟩ := isCharBoundary_iff.mp boundary
      exact ⟨front, within, rfl, le_rfl, fun index above below => absurd below (not_le.mpr above)⟩
    next inner =>
      -- The beginning is a boundary, so there is an index in front.
      have positive : 0 < finish := Nat.pos_of_ne_zero fun zero => inner (by rw [zero]; cases text <;> rfl)
      obtain ⟨front, within, found, before, last⟩ := @ih (finish - 1) (by omega)
      refine ⟨front, within, found, by omega, fun index above below => ?_⟩
      by_cases atEnd : index = finish
      · exact atEnd ▸ Bool.eq_false_iff.mpr inner
      · exact last index above (by omega)

theorem truncateUtf8Within_eq {turns maximum : Nat} (enough : maximum < turns) : ∃ taken,
    truncateUtf8Within turns text maximum = some (.ok (taken, decide (maximum < utf8Length text))) ∧
      LongestWithin maximum text taken := by
  rw [truncateUtf8Within]
  split
  next fits =>
    exact ⟨text, by rw [decide_eq_false (not_lt.mpr fits)], List.prefix_rfl, fits, fun other within _ => within⟩
  next long =>
    obtain ⟨front, within, found, before, last⟩ := boundaryUpTo_eq_some text enough
    refine ⟨front, ?_, .of_last within before last⟩
    rw [found, decide_eq_true (not_le.mp long)]
    simp only [Option.bind_eq_bind, Option.bind_some, sliceTo_of_begins within]
    rfl

end Truncation

section Responses

variable [UrlLibrary]

theorem extractFetch_isOk [HtmlLibrary] {maximum : Nat} {response : DependencyHttpResponse}
    (plain : response.bodyIsBase64 = false) (reparses : (UrlLibrary.parse response.finalUrl).isSome) :
    ∃ page, extractFetch response maximum = .ok page := by
  obtain ⟨base, parses⟩ := Option.isSome_iff_exists.mp reparses
  rw [extractFetch]
  split
  · exact ⟨_, rfl⟩
  · rw [plain, parses]
    exact ⟨_, rfl⟩

variable [HttpLibrary] {artifact limit maximum : Nat} {url : WebUrl} {answer : WebAnswer}
  {text : List Char}

theorem projectResponse_text {response : DependencyHttpResponse} (textual : isTextual answer.contentType)
    (projects : response = projectResponse artifact url answer (utf8Bytes text) limit) :
    (response.bodyIsBase64 = false ↔ isCharBoundary text (min limit (utf8Length text))) ∧
      (response.bodyIsBase64 = false → response.inlineBody.toList <+: text ∧
        utf8Length response.inlineBody.toList = min limit (utf8Length text)) := by
  have cut : (utf8Bytes text).take limit = (utf8Bytes text).take (min limit (utf8Length text)) := by
    rw [← length_utf8Bytes, List.take_eq_take_min]
  have reads (read : String) := @fromUtf8_take_eq_some text _ read (min_le_right limit (utf8Length text))
  subst projects
  simp only [projectResponse, textual, if_true, cut, Option.isNone_eq_false_iff]
  cases found : fromUtf8 ((utf8Bytes text).take (min limit (utf8Length text))) with
  | none =>
    refine ⟨⟨fun some_ => (by cases some_), fun boundary => ?_⟩, fun some_ => (by cases some_)⟩
    obtain ⟨front, within, length⟩ := isCharBoundary_iff.mp boundary
    have read := (reads (.ofList front)).mpr (by rw [String.toList_ofList]; exact ⟨within, length⟩)
    rw [found] at read
    cases read
  | some read =>
    obtain ⟨within, length⟩ := (reads read).mp found
    exact ⟨⟨fun _ => isCharBoundary_iff.mpr ⟨_, within, length⟩, fun _ => rfl⟩, fun _ => ⟨within, length⟩⟩

variable [HtmlLibrary]

/-- A text of a textual type is shown as it should be exactly where its limit is a boundary of it, and long texts are cut
off at their last boundary. -/
theorem inline_text {response : DependencyHttpResponse}
    (reparses : (UrlLibrary.parse (UrlLibrary.serialize url)).isSome) (textual : isTextual answer.contentType)
    (encoded : answer.chunks.flatten = utf8Bytes text)
    (returned : readResponse artifact url answer maximum limit = .ok response) :
    (ShowsText text limit response ↔ isCharBoundary text (min limit (utf8Length text))) ∧
      ∀ (value : List Char) (bound turns : Nat), bound < turns → ∃ taken,
        truncateUtf8Within turns value bound = some (.ok (taken, decide (bound < utf8Length value))) ∧
          LongestWithin bound value taken := by
  obtain ⟨body, whole, projects⟩ := bind_eq_ok.mp returned
  obtain ⟨-, -, rfl⟩ := readBodyChunks_eq_ok.mp whole
  rw [List.nil_append, encoded] at projects
  have projected := (Except.ok.inj projects).symm
  obtain ⟨boundary, shown⟩ := projectResponse_text textual projected
  refine ⟨⟨fun shows => boundary.mp shows.plain, fun bounded => ?_⟩, fun value bound turns => truncateUtf8Within_eq⟩
  have plain := boundary.mpr bounded
  obtain ⟨within, length⟩ := shown plain
  have longest : ∀ other, other <+: text → utf8Length other ≤ limit → other <+: response.inlineBody.toList := by
    intro other within' fits
    obtain ⟨back, rfl⟩ := within'
    refine begins_of_utf8Length_le (List.prefix_append _ _) within ?_
    rw [length, utf8Length_append]
    omega
  refine ⟨plain, ⟨within, length.trans_le (min_le_left _ _), longest⟩, ?_, fun bound => extractFetch_isOk plain ?_⟩
  · rw [projected, projectResponse, ← length_utf8Bytes]
    exact decide_eq_true_iff
  · rw [projected]
    exact reparses

end Responses

section Sample

attribute [local instance] hostUrls plainHttp textPages

/-- A page with a letter of two bytes. -/
def accentedAnswer : WebAnswer := ⟨200, none, [], some "text/html", [[0xC3, 0xA9]], none⟩

theorem inline_text_accented : ∃ response,
    readResponse 0 (samplePage "a") accentedAnswer 64 2 = .ok response ∧ ShowsText ['é'] 2 response := by
  obtain ⟨response, returned⟩ : ∃ response, readResponse 0 (samplePage "a") accentedAnswer 64 2 = .ok response :=
    ⟨_, rfl⟩
  exact ⟨response, returned,
    (@inline_text _ _ _ 2 64 _ _ ['é'] _ _ rfl (by decide +kernel) (by decide +kernel) returned).1.mpr (by decide +kernel)⟩

/-- A letter that the limit divides is not shown as text, and the page is refused. -/
theorem not_inline_text : accentedAnswer.chunks.flatten = utf8Bytes ['é'] ∧ ∃ response,
    readResponse 0 (samplePage "a") accentedAnswer 64 1 = .ok response ∧
      extractFetch response 64 = .error .unsupportedContent ∧ ¬ ShowsText ['é'] 1 response := by
  refine ⟨by decide +kernel, _, rfl, by decide +kernel, fun shows => ?_⟩
  have plain := shows.plain
  revert plain
  decide +kernel

end Sample

end AgentMod
