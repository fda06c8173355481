import AgentMod.Harness.Exchanges
import AgentMod.Harness.Live
import AgentMod.Verified.Primitives.Collections
import AgentMod.Web.Fetch

/-! Live exchanges end with one terminal event, and complete only behind an end mark unless they are cut. -/

namespace AgentMod

/-- None of the events ends an exchange. -/
abbrev Quiet (events : List DependencyProviderEvent) : Prop :=
  events.all (!·.isTerminal)

theorem Quiet.append {first second : List DependencyProviderEvent} (earlier : Quiet first)
    (later : Quiet second) : Quiet (first ++ second) := by
  rw [Quiet, List.all_append, earlier, later]
  rfl

theorem foldl_preserves {α β : Type} {motive : β → Prop} {step : β → α → β} {items : List α} {start : β}
    (preserved : ∀ state item, motive state → motive (step state item)) (begins : motive start) :
    motive (items.foldl step start) := by
  induction items generalizing start with
  | nil => exact begins
  | cons item rest ih => exact ih (preserved start item begins)

section Normalizers

theorem OpenAiStreamNormalizer.handle_quiet (normalizer : OpenAiStreamNormalizer) (chunk : Json) :
    Quiet (normalizer.handle chunk).2 := by
  have toolCall (pushing : Pushing) (call : Json) (quiet : Quiet pushing.2) :
      Quiet (handleToolCall pushing call).2 := by
    rw [handleToolCall]
    dsimp only
    split
    · exact quiet
    · split
      · exact quiet
      · exact quiet.append rfl
  have content (delta : Json) (pushing : Pushing) (quiet : Quiet pushing.2) :
      Quiet (takeContent delta pushing).2 := by
    rw [takeContent]
    split
    · exact quiet.append rfl
    · exact quiet
  have choice (pushing : Pushing) (choice : Json) (quiet : Quiet pushing.2) :
      Quiet (handleChoice pushing choice).2 := by
    rw [handleChoice]
    split
    · exact quiet
    · exact foldl_preserves (motive := fun pushing : Pushing => Quiet pushing.2) toolCall (content _ _ quiet)
  exact foldl_preserves (motive := fun pushing : Pushing => Quiet pushing.2) choice rfl

theorem AnthropicStreamNormalizer.handle_quiet (normalizer : AnthropicStreamNormalizer) (payload : Json)
    (eventType : String) : Quiet (normalizer.handle payload eventType).2 := by
  unfold handle
  split
  · rfl
  · rfl
  · rw [contentBlockDelta]
    repeat' split
    all_goals rfl
  · rw [contentBlockStop]
    repeat' split
    all_goals rfl
  · rfl
  · rfl

variable [ProviderJson]

theorem GeminiStreamNormalizer.handle_quiet (normalizer : GeminiStreamNormalizer) (chunk : Json) :
    Quiet (normalizer.handle chunk).2 := by
  have part (pushing : Pushing) (part : Json) (quiet : Quiet pushing.2) :
      Quiet (handlePart pushing part).2 := by
    have text : Quiet (takeText part pushing).2 := by
      rw [takeText]
      split
      · exact quiet.append rfl
      · exact quiet
    rw [handlePart, takeFunctionCall]
    dsimp only
    split
    · exact text
    · split
      · exact text
      · exact text.append rfl
  have candidate (pushing : Pushing) (candidate : Json) (quiet : Quiet pushing.2) :
      Quiet (handleCandidate pushing candidate).2 :=
    foldl_preserves (motive := fun pushing : Pushing => Quiet pushing.2) part quiet
  exact foldl_preserves (motive := fun pushing : Pushing => Quiet pushing.2) candidate rfl

theorem StreamNormalizer.handle_quiet (normalizer : StreamNormalizer) (eventType : String) (value : Json) :
    Quiet (normalizer.handle eventType value).2 := by
  cases normalizer with
  | openAi normalizer => exact normalizer.handle_quiet value
  | anthropic normalizer => exact normalizer.handle_quiet value eventType
  | gemini normalizer => exact normalizer.handle_quiet value

theorem StreamNormalizer.proposals_quiet {normalizer : StreamNormalizer}
    {proposals : List DependencyProviderEvent} (finished : normalizer.finishOpenAiTools = .ok proposals) :
    Quiet proposals := by
  cases normalizer with
  | openAi normalizer =>
    simp only [finishOpenAiTools, bind_eq_ok, pure_eq_ok] at finished
    obtain ⟨calls, -, rfl⟩ := finished
    simp [Quiet, proposal, DependencyProviderEvent.isTerminal]
  | anthropic normalizer =>
    cases finished
    rfl
  | gemini normalizer =>
    cases finished
    rfl

end Normalizers

namespace LiveExchange

variable [ProviderJson] {pricing : DependencyUsage → Option DependencyCostMetadata}

/-- The stream loop over what is observed. -/
def observe (pricing : DependencyUsage → Option DependencyCostMetadata) (exchange : LiveExchange) :
    List Observation → List DependencyProviderEvent
  | [] => exchange.events
  | .event event :: rest =>
    match exchange.takeEvent event with
    | .next exchange => exchange.observe pricing rest
    | .returned events => events
    | .finishing exchange => exchange.finishLiveStream pricing
  | .oversized :: _ => exchange.fail .partialOutputFailure "provider stream exceeded the bounded frame size"
  | .failed message :: _ => exchange.disconnect message
  | .endOfFile :: _ => exchange.finishLiveStream pricing
  | .cancelled :: _ => exchange.events ++ [.cancelled]

theorem observe_events {exchange : LiveExchange} {events : List SseEvent} {rest : List Observation} :
    exchange.observe pricing (events.map .event ++ rest) =
      match exchange.takeEvents events with
      | .next exchange => exchange.observe pricing rest
      | .returned events => events
      | .finishing exchange => exchange.finishLiveStream pricing := by
  induction events generalizing exchange with
  | nil => rfl
  | cons event events ih =>
    rw [List.map_cons, List.cons_append, observe, takeEvents]
    cases exchange.takeEvent event with
    | next exchange => exact ih
    | returned | finishing => rfl

theorem streamLoop_eq {exchange : LiveExchange} {parser : SseParser} {receptions : List Reception}
    {last : StreamEnd} : exchange.streamLoop pricing parser receptions last =
      exchange.observe pricing (observations parser receptions last) := by
  fun_induction streamLoop pricing exchange parser receptions last with
  | case1 exchange parser last => cases last <;> rfl
  | case2 exchange parser rest last ih => rw [ih, observations]
  | case3 | case4 => rfl
  | case5 exchange parser rest last chunk nonempty error left failed =>
    rw [observations, failed]
    · rfl
    · exact nonempty
  | case6 exchange parser rest last chunk nonempty parsed left pushed next taken ih =>
    rw [observations, pushed]
    · simp only [observe_events, taken, ih]
    · exact nonempty
  | case7 exchange parser rest last chunk nonempty parsed left pushed events taken =>
    rw [observations, pushed]
    · simp only [observe_events, taken]
    · exact nonempty
  | case8 exchange parser rest last chunk nonempty parsed left pushed finishing taken =>
    rw [observations, pushed]
    · simp only [observe_events, taken]
    · exact nonempty

/-- The events of a stream that has returned: the last one is the only terminal one. -/
def Ended (events : List DependencyProviderEvent) : Prop :=
  ∃ front final, events = front ++ [final] ∧ final.isTerminal ∧ Quiet front

/-- An exchange whose loop goes on. -/
structure Going (exchange : LiveExchange) : Prop where
  quiet : Quiet exchange.events
  within : exchange.exceedsBudget = false

omit [ProviderJson] in
theorem not_completed_of_quiet {events : List DependencyProviderEvent} (quiet : Quiet events) :
    events.any (·.isCompleted) = false := by
  rw [List.any_eq_false]
  intro event inside
  have calm := List.all_eq_true.mp quiet event inside
  cases event <;> simp_all [DependencyProviderEvent.isTerminal, DependencyProviderEvent.isCompleted]

omit [ProviderJson] in
theorem completed_snoc {events : List DependencyProviderEvent} {final : DependencyProviderEvent}
    (quiet : Quiet events) : (events ++ [final]).any (·.isCompleted) = final.isCompleted := by
  rw [List.any_append, not_completed_of_quiet quiet, Bool.false_or, List.any_cons, List.any_nil, Bool.or_false]

omit [ProviderJson] in
theorem Going.fail {exchange : LiveExchange} (going : exchange.Going) (final : DependencyProviderEvent)
    (terminal : final.isTerminal) (failed : final.isCompleted = false) :
    Ended (exchange.events ++ [final]) ∧ (exchange.events ++ [final]).any (·.isCompleted) = false :=
  ⟨⟨_, _, rfl, terminal, going.quiet⟩, (completed_snoc going.quiet).trans failed⟩

theorem Going.finish {exchange : LiveExchange} (going : exchange.Going)
    (pricing : DependencyUsage → Option DependencyCostMetadata) :
    Ended (exchange.finishLiveStream pricing) ∧
    ((exchange.finishLiveStream pricing).any (·.isCompleted) ↔
      ∃ proposals, exchange.normalizer.finishOpenAiTools = .ok proposals) := by
  rw [finishLiveStream, if_neg (by simp [going.within])]
  cases finished : exchange.normalizer.finishOpenAiTools with
  | error message =>
    obtain ⟨ended, failed⟩ := going.fail (.failed .malformedToolArguments message .never) rfl rfl
    exact ⟨ended, iff_of_false (Bool.eq_false_iff.mp failed) (fun ⟨_, finishes⟩ => nomatch finishes)⟩
  | ok proposals =>
    have quiet := going.quiet.append (StreamNormalizer.proposals_quiet finished)
    exact ⟨⟨_, _, rfl, rfl, quiet⟩, iff_of_true (completed_snoc quiet) ⟨_, rfl⟩⟩

/-- What an event of the stream leads to. -/
inductive Takes (exchange : LiveExchange) (event : SseEvent) : LiveStep → Prop where
  | next {next : LiveExchange} : next.Going → Takes exchange event (.next next)
  | returned {events : List DependencyProviderEvent} :
      Ended events → events.any (·.isCompleted) = false → Takes exchange event (.returned events)
  | finishing : event.data = "[DONE]" → Takes exchange event (.finishing exchange)

theorem Going.takes {exchange : LiveExchange} (going : exchange.Going) (event : SseEvent) :
    Takes exchange event (exchange.takeEvent event) := by
  rw [takeEvent]
  split
  · next done => exact .finishing done
  · split
    · exact .next going
    · split
      · obtain ⟨ended, failed⟩ := going.fail
          (.failed (if exchange.receivedAny then .partialOutputFailure else .invalidRequest)
            "provider emitted a malformed stream event" .never) rfl rfl
        exact .returned ended failed
      · next value parsed =>
        split
        · next error reported =>
          obtain ⟨ended, failed⟩ := going.fail (classifyStreamError error).event rfl rfl
          exact .returned ended failed
        · rw [takeValue]
          dsimp only
          have quiet := going.quiet.append (exchange.normalizer.handle_quiet event.event value)
          split
          · exact .returned ⟨_, _, rfl, rfl, quiet⟩ (completed_snoc quiet)
          · next within => exact .next ⟨quiet, Bool.eq_false_of_not_eq_true within⟩

/-- What the events of the stream lead to. -/
inductive TakesAll (exchange : LiveExchange) (events : List SseEvent) : LiveStep → Prop where
  | next {next : LiveExchange} : next.Going → TakesAll exchange events (.next next)
  | returned {returned : List DependencyProviderEvent} :
      Ended returned → returned.any (·.isCompleted) = false → TakesAll exchange events (.returned returned)
  | finishing {before after : List SseEvent} {event : SseEvent} {next : LiveExchange} :
      events = before ++ event :: after → exchange.takeEvents before = .next next → next.Going →
      event.data = "[DONE]" → TakesAll exchange events (.finishing next)

/-- What the events of the stream lead to while the loop goes on. -/
theorem Going.takesAll {exchange : LiveExchange} (going : exchange.Going) (events : List SseEvent) :
    TakesAll exchange events (exchange.takeEvents events) := by
  induction events generalizing exchange with
  | nil => exact .next going
  | cons event rest ih =>
    rw [takeEvents]
    have takes := going.takes event
    cases taken : exchange.takeEvent event with
    | next middle =>
      rw [taken] at takes
      cases takes with
      | next goes =>
        have later := ih goes
        dsimp only
        generalize middle.takeEvents rest = step at later
        cases later with
        | next going => exact .next going
        | returned ended failed => exact .returned ended failed
        | @finishing before after done last split reached goes marked =>
          have whole : event :: rest = (event :: before) ++ done :: after := by rw [split, List.cons_append]
          refine .finishing whole ?_ goes marked
          rw [takeEvents, taken]
          exact reached
    | returned events =>
      rw [taken] at takes
      cases takes with
      | returned ended failed => exact .returned ended failed
    | finishing last =>
      rw [taken] at takes
      cases takes with
      | finishing done => exact .finishing (List.nil_append _).symm rfl going done

omit [ProviderJson] in
theorem observations_closed (parser : SseParser) (receptions : List Reception) (last : StreamEnd) :
    ∃ (events : List SseEvent) (final : Observation),
      observations parser receptions last = events.map .event ++ [final] ∧
      ∀ event, final ≠ .event event := by
  fun_induction observations parser receptions last with
  | case1 parser last => exact ⟨[], last.observation, rfl, fun event => by cases last <;> nofun⟩
  | case2 parser rest last ih => exact ih
  | case3 | case4 | case5 => exact ⟨[], _, rfl, nofun⟩
  | case6 parser rest last chunk nonempty parsed left pushed ih =>
    obtain ⟨events, final, same, ends⟩ := ih
    exact ⟨parsed ++ events, final, by rw [same, List.map_append, List.append_assoc], ends⟩

theorem observe_of_ends {exchange : LiveExchange} {next : Observation} {after : List Observation}
    (ends : next = .endOfFile ∨ ∃ event, next = .event event ∧ event.data = "[DONE]") :
    exchange.observe pricing (next :: after) = exchange.finishLiveStream pricing := by
  rcases ends with rfl | ⟨event, rfl, done⟩
  · rfl
  · rw [observe, takeEvent, if_pos done]

theorem taken_of_ends {exchange reached : LiveExchange} {before : List SseEvent} {next : Observation}
    {after : List Observation} (takes : exchange.takeEvents before = .next reached)
    (ends : next = .endOfFile ∨ ∃ event, next = .event event ∧ event.data = "[DONE]") :
    exchange.taken (before.map .event ++ next :: after) = before ++
      match next with
      | .event event => [event]
      | _ => [] := by
  induction before generalizing exchange with
  | nil =>
    rcases ends with rfl | ⟨event, rfl, done⟩
    · rfl
    · rw [List.map_nil, List.nil_append, taken, takeEvent, if_pos done]
      rfl
  | cons event before ih =>
    rw [takeEvents] at takes
    rw [List.map_cons, List.cons_append, taken, List.cons_append]
    cases taken : exchange.takeEvent event with
    | next middle =>
      rw [taken] at takes
      exact congrArg (event :: ·) (ih takes)
    | returned | finishing =>
      rw [taken] at takes
      cases takes

/-- An exchange ends, and where it completes it was finished with JSON arguments. -/
theorem Going.observed {exchange : LiveExchange} (going : exchange.Going) {events : List SseEvent}
    {final : Observation} (closed : ∀ event, final ≠ .event event) :
    Ended (exchange.observe pricing (events.map .event ++ [final])) ∧
    ((exchange.observe pricing (events.map .event ++ [final])).any (·.isCompleted) →
      ∃ before next after reached proposals, events.map .event ++ [final] = before.map .event ++ next :: after ∧
        exchange.takeEvents before = .next reached ∧
        (next = .endOfFile ∨ ∃ event, next = .event event ∧ event.data = "[DONE]") ∧
        reached.normalizer.finishOpenAiTools = .ok proposals) := by
  rw [observe_events]
  have takes := going.takesAll events
  generalize stepped : exchange.takeEvents events = step at takes
  cases takes with
  | @next next goes =>
    cases final with
    | event event => exact absurd rfl (closed event)
    | endOfFile =>
      obtain ⟨ended, completes⟩ := goes.finish pricing
      refine ⟨ended, fun completed => ?_⟩
      obtain ⟨proposals, finished⟩ := completes.mp completed
      exact ⟨events, .endOfFile, [], next, proposals, rfl, stepped, .inl rfl, finished⟩
    | oversized =>
      obtain ⟨ended, failed⟩ := goes.fail (.failed .partialOutputFailure _ .never) rfl rfl
      exact ⟨ended, fun completed => absurd (failed.symm.trans completed) nofun⟩
    | failed message =>
      obtain ⟨ended, failed⟩ := goes.fail (ClassifiedFailure.event (if next.receivedAny then
        classifyAmbiguousDisconnect message else classifyPreDispatchTransport message)) rfl rfl
      exact ⟨ended, fun completed => absurd (failed.symm.trans completed) nofun⟩
    | cancelled =>
      obtain ⟨ended, failed⟩ := goes.fail .cancelled rfl rfl
      exact ⟨ended, fun completed => absurd (failed.symm.trans completed) nofun⟩
  | returned ended failed => exact ⟨ended, fun completed => absurd (failed.symm.trans completed) nofun⟩
  | @finishing before after event next split reached goes done =>
    obtain ⟨ended, completes⟩ := goes.finish pricing
    refine ⟨ended, fun completed => ?_⟩
    obtain ⟨proposals, finished⟩ := completes.mp completed
    exact ⟨before, .event event, after.map .event ++ [final], next, proposals,
      by rw [split, List.map_append, List.map_cons, List.append_assoc, List.cons_append], reached,
      .inr ⟨event, rfl, done⟩, finished⟩

end LiveExchange

section Exchanges

variable [ProviderJson]

omit [ProviderJson] in
theorem going_new (wire : ProviderWire) : (LiveExchange.new wire).Going :=
  ⟨rfl, rfl⟩

theorem EndsUnmarked.ends {wire : ProviderWire} {next : Observation} (ends : EndsUnmarked wire next) :
    next = .endOfFile ∨ ∃ event, next = .event event ∧ event.data = "[DONE]" := by
  cases ends with
  | endOfFile => exact .inl rfl
  | done done => exact .inr ⟨_, rfl, done⟩

/-- Every live exchange ends with its one terminal event, and it completes behind the provider's own end of
message exactly unless the stream is cut short. -/
theorem live_exchange_soundly_ended (wire : ProviderWire)
    (pricing : DependencyUsage → Option DependencyCostMetadata) (receptions : List Reception)
    (last : StreamEnd) :
    SoundlyEnded wire pricing receptions last ↔ ¬ CutShort wire receptions last := by
  obtain ⟨events, final, observed, closed⟩ := LiveExchange.observations_closed .new receptions last
  obtain ⟨ended, completes⟩ := @LiveExchange.Going.observed _ pricing _ (going_new wire) events _ closed
  have executed : executeStream wire pricing receptions last =
      (LiveExchange.new wire).observe pricing (events.map .event ++ [final]) := by
    rw [executeStream, LiveExchange.streamLoop_eq, observed]
  constructor
  · rintro ⟨-, marked⟩ ⟨before, next, after, reached, proposals, split, takes, unmarked, ends, finished⟩
    -- A cut stream completes, and nothing that it takes up is an end mark.
    have behind := (going_new wire).takesAll before
    rw [takes] at behind
    cases behind with
    | next goes =>
      have completed := (goes.finish pricing).2.mpr ⟨proposals, finished⟩
      rw [executed, ← observed, split, LiveExchange.observe_events, takes] at marked
      dsimp only at marked
      rw [LiveExchange.observe_of_ends ends.ends, LiveExchange.taken_of_ends takes ends.ends] at marked
      have found := marked completed
      rw [List.any_append, Bool.or_eq_true] at found
      rcases found with found | found
      · obtain ⟨event, inside, isMark⟩ := List.any_eq_true.mp found
        have plain := List.all_eq_true.mp unmarked event inside
        rw [isMark] at plain
        cases plain
      · cases ends with
        | endOfFile => cases found
        | done done plain =>
          rw [List.any_cons, plain] at found
          cases found
  · intro uncut
    refine ⟨executed ▸ ended, fun completed => ?_⟩
    rw [executed] at completed
    obtain ⟨before, next, after, reached, proposals, split, takes, ends, finished⟩ := completes completed
    rw [observed, split, LiveExchange.taken_of_ends takes ends]
    by_contra unfound
    rw [Bool.not_eq_true, List.any_append, Bool.or_eq_false_iff] at unfound
    refine uncut ⟨before, next, after, reached, proposals, observed.trans split, takes, ?_, ?_, finished⟩
    · rw [List.all_eq_true]
      intro event inside
      rw [Bool.not_eq_true']
      exact Bool.eq_false_iff.mpr (List.any_eq_false.mp unfound.1 event inside)
    · rcases ends with rfl | ⟨event, rfl, done⟩
      · exact .endOfFile
      · refine .done done ?_
        have plain := unfound.2
        rwa [List.any_cons, List.any_nil, Bool.or_false] at plain

end Exchanges

section Sample

/-- A stand-in for the JSON parser that knows one chunk. -/
abbrev sampleJson : ProviderJson where
  parse text := if text = "hello" then
      .ok (.object [("choices", .array [.object [("delta", .object [("content", .string "hello")])]])])
    else .error "expected value"
  print _ := ""

attribute [local instance] sampleJson

/-- A stream with some text that is cut before the provider has ended its message. -/
def cutStream : List Reception :=
  [.received (.ok (utf8Bytes "data: hello\n\n".toList)), .received (.ok [])]

/-- The cut stream completes, and no end mark was received. -/
theorem not_live_exchange_soundly_ended :
    ¬ SoundlyEnded .openAi (fun _ => none) cutStream .endOfFile := by
  intro sound
  exact absurd (sound.marked (by decide)) (by decide)

end Sample

theorem pointed_insert {ρ η : Type} [DecidableEq ρ] {key : ρ → String}
    (distinct : Function.Injective key) (flag : η → Flag) (entries : StringMap η) (reference : ρ) (entry : η) :
    (fun other => (entries.insert (key reference) entry)[key other]?.map flag) =
      CallHost.pointed (fun other => entries[key other]?.map flag) reference (some (flag entry)) := by
  funext other
  rw [CallHost.pointed, StringMap.getElem?_insert']
  by_cases same : other = reference
  · rw [if_pos (congrArg key same.symm), if_pos same, Option.map_some]
  · rw [if_neg fun named => same (distinct named).symm, if_neg same]

theorem pointed_erase {ρ η : Type} [DecidableEq ρ] {key : ρ → String}
    (distinct : Function.Injective key) (flag : η → Flag) (entries : StringMap η) (reference : ρ) :
    (fun other => (entries.erase (key reference))[key other]?.map flag) =
      CallHost.pointed (fun other => entries[key other]?.map flag) reference none := by
  funext other
  rw [CallHost.pointed, StringMap.getElem?_erase']
  by_cases same : other = reference
  · rw [if_pos (congrArg key same.symm), if_pos same, Option.map_none]
  · rw [if_neg fun named => same (distinct named).symm, if_neg same]

namespace LiveProviderExchanges

theorem text_injective : Function.Injective CancellationReference.text := by
  rintro ⟨text, present⟩ ⟨other, otherPresent⟩ rfl
  rfl

/-- The live provider catalog registers its exchanges. -/
theorem registers : host.Registers where
  initial _ := rfl
  begins request exchanges := by
    cases checked : request.checked with
    | error error =>
      have refused : host.admits exchanges request = false := by simp [host, checked, Except.isOk, Except.toBool]
      simp only [host, register, checked]
      exact .refused refused rfl (.inl rfl)
    | ok =>
      have admitted : host.admits exchanges request := by simp [host, checked, Except.isOk, Except.toBool]
      simp only [host, register, checked]
      have same := pointed_insert text_injective id exchanges.active request.cancellationReference
        exchanges.cancelled.next
      simp only [Option.map_id_fun, id_eq] at same
      split
      · next taken =>
        obtain ⟨flag, found⟩ := StringMap.contains_iff.mp taken
        exact .displaced admitted found same rfl
      · next free =>
        have found : exchanges.active[request.cancellationReference.text]? = none :=
          Option.eq_none_iff_forall_ne_some.mpr fun flag found =>
            free (StringMap.contains_iff.mpr ⟨flag, found⟩)
        exact .registered admitted found same rfl
  finishes reference exchanges := by
    have same := pointed_erase text_injective id exchanges.active reference
    simp only [Option.map_id_fun, id_eq] at same
    exact ⟨same, rfl⟩
  cancels reference exchanges := by
    simp only [host, cancelProvider, reference.present, Bool.false_eq_true, if_false]
    split
    · next token found => exact .raised found rfl rfl rfl
    · next free => exact .unknown free

end LiveProviderExchanges

namespace ActiveWebCalls

/-- The web host registers its calls. -/
theorem registers (limits : WebCallLimits) : (host limits).Registers where
  initial _ := rfl
  begins request calls := by
    cases checked : request.checked with
    | error error =>
      have refused : (host limits).admits calls request = false := by
        simp [host, checked, Except.isOk, Except.toBool]
      simp only [host, register, checked]
      exact .refused refused rfl (.inl rfl)
    | ok =>
      simp only [host, register, checked]
      have same := pointed_insert Function.injective_id ActiveCall.token calls.activeCalls request.cancellationId
        ⟨request.callId, calls.tokens.next⟩
      split
      · next full =>
        have refused : (host limits).admits calls request = false := by simp [host, full]
        exact .refused refused rfl (.inr rfl)
      · next below =>
        have admitted : (host limits).admits calls request := by
          simp [host, checked, Except.isOk, Except.toBool, Nat.lt_of_not_le below]
        split
        · next taken =>
          obtain ⟨active, found⟩ := StringMap.contains_iff.mp taken
          exact .displaced admitted (congrArg (Option.map _) found) same rfl
        · next free =>
          have found : calls.activeCalls[request.cancellationId]? = none :=
            Option.eq_none_iff_forall_ne_some.mpr fun active found =>
              free (StringMap.contains_iff.mpr ⟨active, found⟩)
          exact .registered admitted (congrArg (Option.map _) found) same rfl
  finishes cancellationId calls :=
    ⟨pointed_erase Function.injective_id ActiveCall.token calls.activeCalls cancellationId, rfl⟩
  cancels cancellationId calls := by
    simp only [host, cancel]
    split
    · next active found => exact .raised (congrArg (Option.map _) found) rfl rfl rfl
    · next free => exact .unknown (congrArg (Option.map _) free)

end ActiveWebCalls

/-- In the harness and in the web host, whatever the interleaving, cancellation reaches the calls in
flight exactly as long as no admitted call begins under the reference of a call in flight. -/
theorem cancellation_reaches_calls (limits : WebCallLimits)
    (exchanges : List (CallAction CancellationReference ProviderExecutionRequest))
    (calls : List (CallAction String WebCallRequest)) :
    (LiveProviderExchanges.host.CancellationReaches exchanges ↔
      LiveProviderExchanges.host.Unrepeated exchanges) ∧
    ((ActiveWebCalls.host limits).CancellationReaches calls ↔
      (ActiveWebCalls.host limits).Unrepeated calls) :=
  ⟨LiveProviderExchanges.registers.cancellationReaches_iff exchanges,
    (ActiveWebCalls.registers limits).cancellationReaches_iff calls⟩

section Sample

/-- A provider exchange whose checks pass. -/
def sampleExchange : ProviderExecutionRequest := ⟨⟨"cancel-1", by decide⟩, .ok ()⟩

/-- A web call whose checks pass. -/
def sampleWebCall : WebCallRequest := ⟨"cancel-1", "call-1", .ok ()⟩

/-- A web host for two calls. -/
def sampleLimits : WebCallLimits := ⟨2, by decide⟩

/-- In both hosts, a call that begins under the reference of a call in flight keeps cancellations from it. -/
theorem not_cancellation_reaches_calls :
    ¬ LiveProviderExchanges.host.CancellationReaches [.begin sampleExchange, .begin sampleExchange] ∧
    ¬ (ActiveWebCalls.host sampleLimits).CancellationReaches [.begin sampleWebCall, .begin sampleWebCall] := by
  constructor
  · intro reaches
    have reached : LiveProviderExchanges.host.Reaches [.begin sampleExchange, .begin sampleExchange]
        ⟨_, [⟨sampleExchange.cancellationReference, 0⟩]⟩ :=
      (Run.nil.snoc (.registered rfl)).snoc (.rejected rfl)
    obtain ⟨-, raised⟩ := reaches.cancellable _ [] _ rfl reached _ (List.mem_singleton_self _)
    exact absurd raised (by decide)
  · intro reaches
    have reached : (ActiveWebCalls.host sampleLimits).Reaches [.begin sampleWebCall, .begin sampleWebCall]
        ⟨_, [⟨sampleWebCall.cancellationId, 0⟩]⟩ :=
      (Run.nil.snoc (.registered rfl)).snoc (.rejected rfl)
    obtain ⟨-, raised⟩ := reaches.cancellable _ [] _ rfl reached _ (List.mem_singleton_self _)
    exact absurd raised (by decide)

end Sample

end AgentMod
