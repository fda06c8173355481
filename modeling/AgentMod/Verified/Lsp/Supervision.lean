import AgentMod.Lsp.Supervision
import AgentMod.Verified.Lsp.Client

/-! An operation survives the exit of its server exactly where the exit shows as a closed connection. -/

namespace AgentMod

section Cuts

theorem mem_of_fromUtf8 {line : List UInt8} {text : String} (decoded : fromUtf8 line = some text)
    (ends : ['\r', '\n'] <:+ text.toList) : 10 ∈ line := by
  rw [fromUtf8] at decoded
  split at decoded
  · rename_i same
    cases decoded
    obtain ⟨front, split⟩ := ends
    rw [← same, ← split, utf8Bytes, List.flatMap_append]
    exact List.mem_append_right _ (by decide)
  · cases decoded

theorem readHeaderLine_malformed {line : List Char} {contentLength : Option Nat} (cut : ¬ ['\r', '\n'] <:+ line) :
    readHeaderLine line contentLength = .error .malformedHeader := by
  rw [readHeaderLine, refuseIf, if_pos cut]
  rfl

section Lines

variable {limit headerBytes : Nat} {contentLength : Option Nat} {line : List UInt8} {lines : List (List UInt8)}
  {text : String}

theorem readHeader_cons : readHeader limit (line :: lines) contentLength headerBytes = (do
    let text ← okOr (fromUtf8 line) (.io "read LSP header")
    refuseIf (headerBytes + line.length > limit) .headerTooLarge
    if text.toList = ['\r', '\n'] then return (contentLength, lines)
    let contentLength ← readHeaderLine text.toList contentLength
    readHeader limit lines contentLength (headerBytes + line.length)) := rfl

theorem readHeader_garbled (garbled : fromUtf8 line = none) :
    readHeader limit (line :: lines) contentLength headerBytes = .error (.io "read LSP header") := by
  rw [readHeader_cons, garbled]
  rfl

theorem readHeader_large (decoded : fromUtf8 line = some text) (large : headerBytes + line.length > limit) :
    readHeader limit (line :: lines) contentLength headerBytes = .error .headerTooLarge := by
  rw [readHeader_cons, decoded, refuseIf, if_pos large]
  rfl

theorem readHeader_blank (decoded : fromUtf8 line = some text) (small : ¬ headerBytes + line.length > limit)
    (blank : text.toList = ['\r', '\n']) :
    readHeader limit (line :: lines) contentLength headerBytes = .ok (contentLength, lines) := by
  rw [readHeader_cons, decoded, refuseIf, if_neg small]
  exact if_pos blank

theorem readHeader_line (decoded : fromUtf8 line = some text) (small : ¬ headerBytes + line.length > limit)
    (filled : text.toList ≠ ['\r', '\n']) : readHeader limit (line :: lines) contentLength headerBytes =
      readHeaderLine text.toList contentLength >>= fun contentLength =>
        readHeader limit lines contentLength (headerBytes + line.length) := by
  rw [readHeader_cons, decoded, refuseIf, if_neg small]
  exact if_neg filled

theorem readHeader_cut (free : 10 ∉ line) :
    ∃ error, readHeader limit (line :: lines) contentLength headerBytes = .error error ∧ error ≠ .connectionClosed := by
  cases decoded : fromUtf8 line with
  | none => exact ⟨_, readHeader_garbled decoded, by simp⟩
  | some text =>
    by_cases large : headerBytes + line.length > limit
    · exact ⟨_, readHeader_large decoded large, by simp⟩
    · have cut : ¬ ['\r', '\n'] <:+ text.toList := fun ends => free (mem_of_fromUtf8 decoded ends)
      have filled : text.toList ≠ ['\r', '\n'] := fun same => cut (same ▸ List.suffix_refl _)
      refine ⟨.malformedHeader, ?_, by simp⟩
      rw [readHeader_line decoded large filled, readHeaderLine_malformed cut]
      rfl

theorem fromUtf8_blank : fromUtf8 [13, 10] = some "\r\n" := by decide

theorem eq_of_fromUtf8_blank (decoded : fromUtf8 line = some text) (blank : text.toList = ['\r', '\n']) :
    line = [13, 10] := by
  rw [fromUtf8] at decoded
  split at decoded
  · rename_i same
    cases decoded
    rw [← same, blank]
    decide
  · cases decoded

theorem wholeHeaderLines_nil : WholeHeaderLines [] := by
  intro line member
  cases member

theorem not_wholeHeaderLines (free : 10 ∉ line) (nonempty : line ≠ []) : ¬ WholeHeaderLines line := by
  intro whole
  have ends := (whole line (by rw [splitInclusive_of_not_mem nonempty free]; exact List.mem_singleton_self _)).1
  exact free (List.mem_of_getLast? ends)

theorem wholeHeaderLines_line {rest : List UInt8} (free : 10 ∉ line) : WholeHeaderLines (line ++ 10 :: rest) ↔
    line ++ [10] ≠ [13, 10] ∧ WholeHeaderLines rest := by
  rw [WholeHeaderLines, splitInclusive_line free, List.forall_mem_cons, WholeHeaderLines]
  simp

theorem readHeader_free {part : List UInt8} (free : 10 ∉ part) :
    (WholeHeaderLines part → readHeader limit (splitInclusive 10 part) contentLength headerBytes =
      .error .connectionClosed) ∧
    (¬ WholeHeaderLines part →
      ∃ error, readHeader limit (splitInclusive 10 part) contentLength headerBytes = .error error ∧
        error ≠ .connectionClosed) := by
  by_cases empty : part = []
  · subst empty
    exact ⟨fun _ => rfl, fun cut => absurd wholeHeaderLines_nil cut⟩
  · refine ⟨fun whole => absurd whole (not_wholeHeaderLines free empty), fun _ => ?_⟩
    rw [splitInclusive_of_not_mem empty free]
    exact readHeader_cut free

/-- The header of a frame that was cut is found closed behind whole lines, and otherwise is read or malformed. -/
theorem readHeader_prefix {frame part : List UInt8} {result : Option Nat} {rest : List (List UInt8)}
    (reads : readHeader limit (splitInclusive 10 frame) contentLength headerBytes = .ok (result, rest))
    (initial : part <+: frame) :
    (WholeHeaderLines part → readHeader limit (splitInclusive 10 part) contentLength headerBytes =
      .error .connectionClosed) ∧
    (¬ WholeHeaderLines part →
      (∃ error, readHeader limit (splitInclusive 10 part) contentLength headerBytes = .error error ∧
        error ≠ .connectionClosed) ∨
      ∃ left, readHeader limit (splitInclusive 10 part) contentLength headerBytes = .ok (result, left) ∧
        left.flatten.length + frame.length = rest.flatten.length + part.length) := by
  -- The frame loses one line at a time, and what is left of it with it.
  generalize size : frame.length = length
  induction length using Nat.strong_induction_on generalizing frame part contentLength headerBytes with
  | _ length ih =>
    rcases exists_line 10 frame with free | ⟨line, others, free, rfl⟩
    · -- A frame has a line.
      by_cases empty : frame = []
      · rw [empty, splitInclusive_nil] at reads
        cases reads
      · rw [splitInclusive_of_not_mem empty free] at reads
        obtain ⟨error, fails, -⟩ := readHeader_cut free
        cases reads.symm.trans fails
    · obtain ⟨tail, split⟩ := initial
      rcases List.append_eq_append_iff.mp split with ⟨behind, same, -⟩ | ⟨behind, same, later⟩
      · -- The cut is within the first line.
        have closes := @readHeader_free limit headerBytes contentLength part
          fun member => free (same ▸ List.mem_append_left _ member)
        exact ⟨closes.1, fun cut => .inl (closes.2 cut)⟩
      · cases behind with
        | nil =>
          have closes := @readHeader_free limit headerBytes contentLength part
            fun member => free (by rwa [same, List.append_nil] at member)
          exact ⟨closes.1, fun cut => .inl (closes.2 cut)⟩
        | cons first left =>
          obtain ⟨rfl, rest'⟩ := List.cons.inj later
          subst same
          simp only [List.length_append, List.length_cons] at size
          rw [splitInclusive_line free] at reads
          rw [wholeHeaderLines_line free, splitInclusive_line free]
          cases decoded : fromUtf8 (line ++ [10]) with
          | none => cases reads.symm.trans (readHeader_garbled decoded)
          | some text =>
            by_cases large : headerBytes + (line ++ [10]).length > limit
            · cases reads.symm.trans (readHeader_large decoded large)
            · by_cases blank : text.toList = ['\r', '\n']
              · -- The header is over in front of the cut.
                have ended := eq_of_fromUtf8_blank decoded blank
                rw [readHeader_blank decoded large blank] at reads
                rw [readHeader_blank decoded large blank]
                cases reads
                refine ⟨fun whole => absurd ended whole.1, fun _ => .inr ⟨_, rfl, ?_⟩⟩
                simp only [flatten_splitInclusive, ← size, List.length_append, List.length_cons]
                omega
              · have filled : line ++ [10] ≠ [13, 10] := by
                  intro ended
                  rw [ended, fromUtf8_blank] at decoded
                  cases decoded
                  exact blank rfl
                rw [readHeader_line decoded large blank] at reads
                rw [readHeader_line decoded large blank]
                obtain ⟨known, line', reads⟩ := bind_eq_ok.mp reads
                have goes : (readHeaderLine text.toList contentLength >>= fun contentLength =>
                    readHeader limit (splitInclusive 10 left) contentLength (headerBytes + (line ++ [10]).length)) =
                  readHeader limit (splitInclusive 10 left) known (headerBytes + (line ++ [10]).length) := by
                  rw [line']
                  rfl
                obtain ⟨closes, continues⟩ := ih _ (by omega) reads ⟨tail, rest'.symm⟩ rfl
                rw [goes, and_iff_right filled]
                refine ⟨closes, fun cut => (continues cut).imp id ?_⟩
                rintro ⟨behind, read, lengths⟩
                refine ⟨behind, read, ?_⟩
                simp only [← size, List.length_append, List.length_cons]
                omega

end Lines

variable [LspSerde] {limits : LspLimits}

theorem readLspFrame_eq (bytes : List UInt8) : readLspFrame limits bytes = (do
    let header ← readHeader limits.maxHeaderBytes (splitInclusive 10 bytes) none 0
    let length ← okOr header.1 .missingContentLength
    refuseIf (length > limits.maxFrameBytes) (.frameTooLarge length limits.maxFrameBytes)
    refuseIf (header.2.flatten.length < length) (.io "read LSP body")
    let message ← okOr (LspSerde.fromSlice (header.2.flatten.take length)) .json
    return (message, header.2.flatten.drop length)) := rfl

theorem readLspFrame_error {bytes : List UInt8} {error : LspError}
    (fails : readHeader limits.maxHeaderBytes (splitInclusive 10 bytes) none 0 = .error error) :
    readLspFrame limits bytes = .error error := by
  rw [readLspFrame_eq, fails]
  rfl

theorem readLspFrame_short {bytes : List UInt8} {length : Nat} {left : List (List UInt8)}
    (reads : readHeader limits.maxHeaderBytes (splitInclusive 10 bytes) none 0 = .ok (some length, left))
    (small : ¬ length > limits.maxFrameBytes) (short : left.flatten.length < length) :
    readLspFrame limits bytes = .error (.io "read LSP body") := by
  have header : readLspFrame limits bytes = (do
      refuseIf (length > limits.maxFrameBytes) (.frameTooLarge length limits.maxFrameBytes)
      refuseIf (left.flatten.length < length) (.io "read LSP body")
      let message ← okOr (LspSerde.fromSlice (left.flatten.take length)) .json
      return (message, left.flatten.drop length)) := by
    rw [readLspFrame_eq, reads]
    rfl
  rw [header, refuseIf, if_neg small, refuseIf, if_pos short]
  rfl

theorem header_of_readLspFrame {frame : List UInt8} {message : Json} (whole : readLspFrame limits frame = .ok (message, [])) :
    ∃ length lines, readHeader limits.maxHeaderBytes (splitInclusive 10 frame) none 0 = .ok (some length, lines) ∧
      ¬ length > limits.maxFrameBytes ∧ lines.flatten.length = length := by
  simp only [readLspFrame_eq, bind_eq_ok, okOr_eq_ok, refuseIf_eq_ok, exists_unit, pure_eq_ok, Prod.mk.injEq,
    List.drop_eq_nil_iff] at whole
  obtain ⟨⟨announced, lines⟩, header, length, rfl, small, long, _, _, _, fits⟩ := whole
  exact ⟨length, lines, header, small, le_antisymm fits (not_lt.mp long)⟩

theorem CutFrame.error_eq_iff (part : CutFrame limits) : part.error = .connectionClosed ↔ WholeHeaderLines part.bytes := by
  obtain ⟨bytes, cut⟩ := part
  by_cases empty : bytes = []
  · subst empty
    exact iff_of_true rfl wholeHeaderLines_nil
  · obtain ⟨frame, message, whole, initial, proper⟩ := cut empty
    obtain ⟨length, lines, header, small, exact_⟩ := header_of_readLspFrame whole
    obtain ⟨closes, continues⟩ := readHeader_prefix header initial
    by_cases lined : WholeHeaderLines bytes
    · refine iff_of_true ?_ lined
      rw [CutFrame.error, readLspFrame_error (closes lined)]
    · refine iff_of_false ?_ lined
      rcases continues lined with ⟨error, fails, other⟩ | ⟨left, reads, lengths⟩
      · rw [CutFrame.error, readLspFrame_error fails]
        exact other
      · have shorter : bytes.length < frame.length :=
          lt_of_le_of_ne initial.length_le fun same => proper (initial.eq_of_length same)
        rw [CutFrame.error, readLspFrame_short reads small (by omega)]
        simp

end Cuts

section Waits

/-- A wait ends at the first message that something is returned of, and otherwise with what is behind the messages. -/
structure WaitsFor {α : Type} (stop : Json → Option (Except LspError α))
    (wait : List LspObservation → Option (Except LspError α × List LspObservation)) : Prop where
  ends : ∀ messages tail result rest, firstOf stop messages = some (result, rest) →
    wait (messages.map .message ++ tail) = some (result, rest.map .message ++ tail)
  fails : ∀ messages error, firstOf stop messages = none →
    wait (messages.map .message ++ [.failed error]) = some (.error error, [])
  times : ∀ messages, firstOf stop messages = none →
    wait (messages.map .message ++ [.silent]) = some (.error .timeout, [])
  stays : ∀ message result, stop message = some result → result ≠ .error .connectionClosed

theorem waitsFor_response [LspFiles] (id : Nat) (workspace : List String) : WaitsFor (requestStop id workspace)
    fun observations => (awaitResponse id workspace ∅ observations).map fun ended => (ended.1.result, ended.2) where
  ends messages tail result rest found := by
    obtain ⟨exit, ended, rfl⟩ := (awaitResponse_append messages tail).1 result rest found
    rw [ended]
    rfl
  fails messages error missing := by
    obtain ⟨later, same⟩ := (awaitResponse_append messages [.failed error]).2 missing
    rw [same]
    rfl
  times messages missing := by
    obtain ⟨later, same⟩ := (awaitResponse_append messages [.silent]).2 missing
    rw [same]
    rfl
  stays _ _ := requestStop_open

theorem waitsFor_diagnostics [LspFiles] (uri : String) (workspace : List String) :
    WaitsFor (diagnosticsStop uri workspace) (awaitDiagnostics uri workspace ∅) where
  ends messages tail result rest found :=
    (awaitDiagnostics_append messages tail (by simp)).1 result rest found
  fails messages error missing := by
    have absent : (∅ : LspDiagnostics)[uri]? = none := by simp
    obtain ⟨later, absent, same⟩ := (awaitDiagnostics_append messages [.failed error] absent).2 missing
    rw [same, awaitDiagnostics, absent]
    rfl
  times messages missing := by
    have absent : (∅ : LspDiagnostics)[uri]? = none := by simp
    obtain ⟨later, absent, same⟩ := (awaitDiagnostics_append messages [.silent] absent).2 missing
    rw [same, awaitDiagnostics, absent]
    rfl
  stays _ _ := diagnosticsStop_open

theorem WaitsFor.found {α : Type} {stop : Json → Option (Except LspError α)}
    {wait : List LspObservation → Option (Except LspError α × List LspObservation)} (waits : WaitsFor stop wait)
    {messages rest : List Json} {result : Except LspError α} (found : firstOf stop messages = some (result, rest)) :
    result ≠ .error .connectionClosed ∧ ¬ ∀ message ∈ messages, stop message = none := by
  obtain ⟨message, member, returned⟩ := exists_of_firstOf found
  refine ⟨waits.stays message result returned, fun none_ => ?_⟩
  cases returned.symm.trans (none_ message member)

end Waits

namespace LspSession

variable [LspSerde] {limits : LspLimits} {session : LspSession} {conduct : LspConduct limits}

/-- A conduct shows as a closed connection if the process takes a message that fits and exits behind whole frames or
header lines, and no message ends the wait before that. -/
def Closes (session : LspSession) (conduct : LspConduct limits) (passes : Json → Prop) (body : List UInt8) : Prop :=
  body.length ≤ limits.maxFrameBytes ∧ session.running ∧ ∃ messages part, conduct = .exits messages part ∧
    WholeHeaderLines part.bytes ∧ ∀ message ∈ session.unread ++ messages, passes message

theorem sendMessage_error (passes : Json → Prop) {body : List UInt8} {error : LspError}
    (fails : sendMessage limits session conduct body = .error error) :
    error ≠ .connectionClosed ∧ ¬ session.Closes conduct passes body := by
  rw [sendMessage] at fails
  rcases bind_eq_error.mp fails with large | ⟨_, small, exited⟩
  · rw [refuseIf] at large
    split at large
    · rename_i exceeds
      cases large
      exact ⟨by simp, fun closes => absurd closes.1 (not_le.mpr exceeds)⟩
    · cases large
  · rw [refuseIf] at exited
    split at exited
    · rename_i gone
      cases exited
      refine ⟨by simp, fun closes => ?_⟩
      obtain ⟨-, runs, messages, part, rfl, -⟩ := closes
      rw [takes] at gone
      · rw [runs] at gone
        cases gone
      · simp
    · cases exited

theorem sendMessage_ok {body : List UInt8} {done : Unit} (sent : sendMessage limits session conduct body = .ok done) :
    body.length ≤ limits.maxFrameBytes ∧ session.running ∧ conduct ≠ .exitsBefore := by
  simp only [sendMessage, bind_eq_ok, exists_unit, refuseIf_eq_ok, not_lt] at sent
  refine ⟨sent.1, ?_⟩
  cases conduct with
  | exitsBefore => simp [takes] at sent
  | _ => simpa [takes] using sent.2

section Exchange

variable {α : Type} {stop : Json → Option (Except LspError α)} {body : List UInt8}
  {wait : List LspObservation → Option (Except LspError α × List LspObservation)}

/-- An exchange shows a closed connection exactly where its conduct does. -/
theorem exchange_closed_iff (waits : WaitsFor stop wait) : (exchange wait body session conduct).1 =
    .error .connectionClosed ↔ session.Closes conduct (stop · = none) body := by
  rw [exchange]
  cases sent : sendMessage limits session conduct body with
  | error error =>
    obtain ⟨other, opens⟩ := sendMessage_error (stop · = none) sent
    exact iff_of_false (by simpa using other) opens
  | ok done =>
    obtain ⟨fits, runs, taken⟩ := sendMessage_ok sent
    rw [Closes, and_iff_right fits, and_iff_right runs]
    cases conduct with
    | exitsBefore => exact absurd rfl taken
    | exits messages part =>
      rw [observations]
      cases found : firstOf stop (session.unread ++ messages) with
      | some ended =>
        obtain ⟨result, rest⟩ := ended
        obtain ⟨other, some_⟩ := waits.found found
        rw [waits.ends _ _ _ _ found]
        refine iff_of_false other ?_
        rintro ⟨_, _, same, _, passes⟩
        cases same
        exact some_ passes
      | none =>
        rw [waits.fails _ _ found]
        have passes := firstOf_eq_none_iff.mp found
        constructor
        · intro closed
          exact ⟨messages, part, rfl, part.error_eq_iff.mp (Except.error.inj closed), passes⟩
        · rintro ⟨_, _, same, whole, _⟩
          cases same
          exact congrArg Except.error (part.error_eq_iff.mpr whole)
    | stays messages =>
      rw [observations]
      cases found : firstOf stop (session.unread ++ messages) with
      | some ended =>
        obtain ⟨result, rest⟩ := ended
        rw [waits.ends _ _ _ _ found]
        exact iff_of_false (waits.found found).1 (by simp)
      | none =>
        rw [waits.times _ found]
        exact iff_of_false (by simp) (by simp)

theorem exchange_running : (exchange wait body session conduct).2.running = session.runsOn conduct := by
  rw [exchange]
  split
  · rfl
  · split <;> rfl

theorem exchange_exited (fits : body.length ≤ limits.maxFrameBytes) (exited : session.takes conduct = false) :
    exchange wait body session conduct =
      (.error (.io "write server stdin"), { session with running := session.runsOn conduct }) := by
  have fails : sendMessage limits session conduct body = .error (.io "write server stdin") := by
    rw [sendMessage, refuseIf, if_neg (not_lt.mpr fits), refuseIf, if_pos exited]
    rfl
  rw [exchange, fails]

end Exchange

variable [LspFiles] {ρ : Type} {workspace : List String}

theorem perform_running {work : LspWork ρ} : (session.perform workspace conduct work).2.running =
    session.runsOn conduct := by
  cases work with
  | request capability body normalize lawful =>
    rw [perform, LspSession.requestRaw]
    by_cases counted : session.nextId + 1 < 2 ^ 64
    · rw [if_pos counted]
      exact exchange_running
    · rw [if_neg counted]
  | diagnostics document body publish =>
    cases body with
    | none => rfl
    | some body => exact exchange_running

theorem perform_exited {work : LspWork ρ} (sendable : work.Sendable limits session.nextId)
    (exited : session.takes conduct = false) :
    (session.perform workspace conduct work).1 = .error (.io "write server stdin") := by
  cases work with
  | request capability body normalize lawful =>
    change (session.requestRaw workspace body conduct).1 >>= normalize = _
    rw [LspSession.requestRaw, if_pos sendable.1, exchange_exited sendable.2]
    · rfl
    · cases conduct <;> exact exited
  | diagnostics document body publish =>
    obtain ⟨bytes, rfl, fits⟩ := sendable
    change publish <$> (session.requestDiagnostics workspace document (some bytes) conduct).1 = _
    rw [requestDiagnostics, exchange_exited fits exited]
    rfl

/-- An operation shows a closed connection exactly where the process takes its message and exits behind whole frames or
header lines, before any message ends the wait. -/
theorem perform_closed_iff {work : LspWork ρ} :
    (session.perform workspace conduct work).1 = .error .connectionClosed ↔
      work.Sendable limits session.nextId ∧ session.running ∧ ∃ messages part, conduct = .exits messages part ∧
        WholeHeaderLines part.bytes ∧
        ∀ message ∈ session.unread ++ messages, work.PassesOver workspace session.nextId message := by
  cases work with
  | request capability body normalize lawful =>
    have normalized : (session.perform workspace conduct (.request capability body normalize lawful)).1 =
        .error .connectionClosed ↔ (session.requestRaw workspace body conduct).1 = .error .connectionClosed := by
      change (session.requestRaw workspace body conduct).1 >>= normalize = _ ↔ _
      cases (session.requestRaw workspace body conduct).1 with
      | error error => simp [Bind.bind, Except.bind]
      | ok result => exact iff_of_false (lawful result) (by simp)
    rw [normalized, LspSession.requestRaw]
    by_cases counted : session.nextId + 1 < 2 ^ 64
    · rw [if_pos counted, exchange_closed_iff (waitsFor_response session.nextId workspace)]
      simp only [Closes, requestStop_eq_none_iff, LspWork.Sendable, LspWork.PassesOver, counted, true_and]
    · rw [if_neg counted]
      simp only [LspWork.Sendable, counted, false_and, reduceCtorEq, Except.error.injEq]
  | diagnostics document body publish =>
    have published : (session.perform workspace conduct (.diagnostics document body publish)).1 =
        .error .connectionClosed ↔
          (session.requestDiagnostics workspace document body conduct).1 = .error .connectionClosed := by
      change publish <$> (session.requestDiagnostics workspace document body conduct).1 = _ ↔ _
      cases (session.requestDiagnostics workspace document body conduct).1 with
      | error error => simp [Functor.map, Except.map]
      | ok result => exact iff_of_false (by simp [Functor.map, Except.map]) (by simp)
    rw [published]
    cases body with
    | none => simp [requestDiagnostics, LspWork.Sendable]
    | some body =>
      rw [requestDiagnostics, exchange_closed_iff (waitsFor_diagnostics (pathToUri document) workspace)]
      simp only [Closes, diagnosticsStop_eq_none_iff, LspWork.Sendable, LspWork.PassesOver, Option.some.injEq,
        exists_eq_left']

end LspSession

namespace LspSupervisor

variable [LspSerde] [LspFiles] {ρ : Type} {config : LspConfig} {server : String} {supervisor : LspSupervisor}
  {launch : LspLaunch config.toLspLimits} {conduct : LspConduct config.toLspLimits} {work : LspWork ρ}
  {session : LspSession}

theorem ensureSession_none (none_ : supervisor.atHand config server launch = none) : ∃ error,
    (ensureSession config server launch).apply supervisor = (.error error, { supervisor with session := none }) := by
  rw [atHand] at none_
  by_cases kept : supervisor.session.isSome ∧ supervisor.serverId = some server
  · rw [if_pos kept] at none_
    rw [none_] at kept
    cases kept.1
  · rw [if_neg kept] at none_
    cases started : LspSession.start config launch with
    | ok session => simp [started, Except.toOption] at none_
    | error error =>
      refine ⟨error, ?_⟩
      rw [ensureSession, Updating.apply_bind, Updating.apply_get]
      simp only [if_neg kept]
      rw [started]
      rfl

theorem ensureSession_kept (kept : supervisor.session.isSome ∧ supervisor.serverId = some server) :
    (ensureSession config server launch).apply supervisor = (.ok (), supervisor) := by
  rw [ensureSession, Updating.apply_bind, Updating.apply_get]
  simp only [if_pos kept]
  rfl

theorem ensureSession_some (hand : supervisor.atHand config server launch = some session)
    (unused : supervisor.restartCount = 0) :
    (ensureSession config server launch).apply supervisor = (.ok (), ⟨some session, some server, 0⟩) := by
  rw [atHand] at hand
  by_cases kept : supervisor.session.isSome ∧ supervisor.serverId = some server
  · rw [if_pos kept] at hand
    rw [ensureSession_kept kept, ← hand, ← kept.2, ← unused]
  · rw [if_neg kept] at hand
    rw [ensureSession, Updating.apply_bind, Updating.apply_get]
    simp only [if_neg kept]
    cases started : LspSession.start config launch with
    | error error => simp [started, Except.toOption] at hand
    | ok other =>
      rw [started] at hand
      cases hand
      rfl

theorem restart_apply (unused : supervisor.restartCount = 0) (starts : LspSession.start config launch = .ok session) :
    (restart config server launch).apply supervisor = (.ok (), ⟨some session, some server, 1⟩) := by
  rw [restart, Updating.apply_bind, Updating.apply_get]
  simp only [unused, starts]
  rfl

theorem attempt_capable (hand : supervisor.session = some session)
    (capable : session.capabilities.contains work.capability) :
    (attempt config work conduct).apply supervisor =
      (.ok (LspReply.answer <$> (session.perform config.workspaceRoot conduct work).1),
        { supervisor with session := some (session.perform config.workspaceRoot conduct work).2 }) := by
  rw [attempt, Updating.apply_bind, Updating.apply_get]
  simp only [hand, capable, if_true]
  rfl

theorem attempt_incapable (hand : supervisor.session = some session)
    (incapable : session.capabilities.contains work.capability = false) :
    ∃ next, (attempt config work conduct).apply supervisor = (.ok (.ok .unavailable), next) := by
  rw [attempt, Updating.apply_bind, Updating.apply_get]
  simp only [hand, incapable]
  exact ⟨_, rfl⟩

section Execution

variable {course : LspCourse config.toLspLimits}

theorem executeOperation_none (none_ : supervisor.atHand config server course.launch = none) : ∃ error,
    (executeOperation config server work course).apply supervisor =
      (.error error, { supervisor with session := none }) := by
  obtain ⟨error, fails⟩ := ensureSession_none none_
  refine ⟨error, ?_⟩
  rw [executeOperation, Updating.apply_bind, fails]

theorem executeOperation_incapable (unused : supervisor.restartCount = 0)
    (hand : supervisor.atHand config server course.launch = some session)
    (incapable : session.capabilities.contains work.capability = false) :
    ((executeOperation config server work course).apply supervisor).1 = .ok .unavailable := by
  obtain ⟨next, attempted⟩ := @attempt_incapable _ _ ρ config ⟨some session, some server, 0⟩ course.conduct work session
    rfl incapable
  rw [executeOperation, Updating.apply_bind, ensureSession_some hand unused]
  dsimp only
  rw [Updating.apply_bind, attempted]
  rfl

theorem executeOperation_open (unused : supervisor.restartCount = 0)
    (hand : supervisor.atHand config server course.launch = some session)
    (capable : session.capabilities.contains work.capability)
    (stays : (session.perform config.workspaceRoot course.conduct work).1 ≠ .error .connectionClosed) :
    (executeOperation config server work course).apply supervisor =
      (LspReply.answer <$> (session.perform config.workspaceRoot course.conduct work).1,
        ⟨some (session.perform config.workspaceRoot course.conduct work).2, some server, 0⟩) := by
  rw [executeOperation, Updating.apply_bind, ensureSession_some hand unused]
  dsimp only
  rw [Updating.apply_bind, attempt_capable rfl capable]
  cases performed : (session.perform config.workspaceRoot course.conduct work).1 with
  | ok response => rfl
  | error error =>
    rw [performed] at stays
    cases error with
    | connectionClosed => exact absurd rfl stays
    | _ => rfl

theorem executeOperation_exited (unused : supervisor.restartCount = 0)
    (hand : supervisor.atHand config server course.launch = some session)
    (capable : session.capabilities.contains work.capability)
    (sendable : work.Sendable config.toLspLimits session.nextId) (exited : session.takes course.conduct = false) :
    (executeOperation config server work course).apply supervisor = (.error (.io "write server stdin"),
      ⟨some (session.perform config.workspaceRoot course.conduct work).2, some server, 0⟩) := by
  have fails : (session.perform config.workspaceRoot course.conduct work).1 = .error (.io "write server stdin") :=
    LspSession.perform_exited sendable exited
  rw [executeOperation_open unused hand capable (by rw [fails]; simp), fails]
  rfl

theorem executeOperation_closed {again : LspSession} (unused : supervisor.restartCount = 0)
    (hand : supervisor.atHand config server course.launch = some session)
    (capable : session.capabilities.contains work.capability)
    (closed : (session.perform config.workspaceRoot course.conduct work).1 = .error .connectionClosed)
    (starts : LspSession.start config course.launchAgain = .ok again)
    (advertises : again.capabilities.contains work.capability) :
    (executeOperation config server work course).apply supervisor =
      (LspReply.answer <$> (again.perform config.workspaceRoot course.conductAgain work).1,
        ⟨some (again.perform config.workspaceRoot course.conductAgain work).2, some server, 1⟩) := by
  rw [executeOperation, Updating.apply_bind, ensureSession_some hand unused]
  dsimp only
  rw [Updating.apply_bind, attempt_capable rfl capable, closed]
  change (restart config server course.launchAgain >>= fun _ => ensureSession config server course.launchAgain >>=
    fun _ => attempt config work course.conductAgain >>= Updating.ofExcept).apply _ = _
  rw [Updating.apply_bind, restart_apply rfl starts]
  dsimp only
  rw [Updating.apply_bind, ensureSession_kept ⟨rfl, rfl⟩]
  dsimp only
  rw [Updating.apply_bind, attempt_capable rfl advertises]
  rfl

end Execution

end LspSupervisor

/-- With the restart unused and a server that can be started again, an operation returns what the server answers and
keeps a running session, if and only if the process of the first attempt runs on or exits cleanly. -/
theorem lsp_restart_answers [LspSerde] [LspFiles] {ρ : Type} {config : LspConfig} {server : String} {work : LspWork ρ}
    {course : LspCourse config.toLspLimits} {supervisor : LspSupervisor} {again : LspSession}
    (unused : supervisor.restartCount = 0) (starts : LspSession.start config course.launchAgain = .ok again)
    (runs : again.runsOn course.conductAgain) (advertises : again.capabilities.contains work.capability) :
    course.Restores config server work again supervisor ↔
      ∃ session, supervisor.atHand config server course.launch = some session ∧
        (course.RunsOn config work session ∨ course.ExitsCleanly config work session) := by
  cases hand : supervisor.atHand config server course.launch with
  | none =>
    obtain ⟨error, fails⟩ := @LspSupervisor.executeOperation_none _ _ ρ config server supervisor work course hand
    refine iff_of_false ?_ (by simp)
    rintro ⟨-, session, kept, -⟩
    rw [fails] at kept
    cases kept
  | some session =>
    simp only [Option.some.injEq, exists_eq_left']
    rw [LspCourse.Restores, hand]
    cases capable : session.capabilities.contains work.capability with
    | false =>
      refine iff_of_false ?_ (by simp [LspCourse.RunsOn, LspCourse.ExitsCleanly, capable])
      rintro ⟨answered, -⟩
      rw [LspSupervisor.executeOperation_incapable unused hand capable] at answered
      cases performed : (course.expected config work again (some session)).1 with
      | error error => simp [performed, Functor.map, Except.map] at answered
      | ok response => simp [performed, Functor.map, Except.map] at answered
    | true =>
      have running : (session.perform config.workspaceRoot course.conduct work).2.running =
        session.runsOn course.conduct := LspSession.perform_running
      by_cases closed : (session.perform config.workspaceRoot course.conduct work).1 = .error .connectionClosed
      · obtain ⟨sendable, up, messages, part, exits, whole, passes⟩ := LspSession.perform_closed_iff.mp closed
        refine iff_of_true ?_ (.inr ⟨up, capable, sendable, messages, part, exits, whole, passes⟩)
        have gone : session.runsOn course.conduct = false := by rw [exits]; rfl
        rw [LspSupervisor.executeOperation_closed unused hand capable closed starts advertises]
        refine ⟨by rw [LspCourse.expected, gone]; rfl, _, rfl, ?_⟩
        rw [LspSession.perform_running]
        exact runs
      · have dirty : ¬ course.ExitsCleanly config work session := by
          rintro ⟨up, -, sendable, exits⟩
          exact closed (LspSession.perform_closed_iff.mpr ⟨sendable, up, exits⟩)
        rw [LspSupervisor.executeOperation_open unused hand capable closed, or_iff_left dirty, LspCourse.RunsOn]
        cases on : session.runsOn course.conduct with
        | true =>
          refine iff_of_true ⟨by rw [LspCourse.expected, on]; rfl, _, rfl, running.trans on⟩ ⟨rfl, capable⟩
        | false =>
          refine iff_of_false ?_ (by simp)
          rintro ⟨-, kept, same, up⟩
          cases same
          rw [running, on] at up
          cases up

section Sample

attribute [local instance] oneFile

/-- Frames whose bodies are not looked at. -/
@[reducible] def anyMessage : LspSerde where
  fromSlice _ := some .null

attribute [local instance] anyMessage

/-- A client that takes all frames. -/
def sampleLspConfig : LspConfig where
  maxFrameBytes := 64
  maxHeaderBytes := 64
  workspaceRoot := ["w"]
  initializeBody := []
  initializedBody := []

/-- A response that advertises one capability, or answers with anything else. -/
def sampleResponse (id : Nat) (bounded : id < 2 ^ 64) (result : Json) : Json :=
  .object [("id", .number (.posInt id bounded)), ("result", result)]

/-- The capabilities of the sample server. -/
def hoverCapabilities : Json := .object [("hoverProvider", .bool true)]

/-- A start of the sample server. -/
def sampleLaunch : LspLaunch sampleLspConfig.toLspLimits where
  spawns := true
  initialization := .stays [sampleResponse 1 one_lt_word (.object [("capabilities", hoverCapabilities)])]
  notified := true

/-- The session of the sample server. -/
def sampleLspSession : LspSession where
  nextId := 2
  capabilities := LspSession.normalizeCapabilities (some hoverCapabilities)
  unread := []
  running := true

/-- A hover request. -/
def hoverWork : LspWork Json := .request "hover" (fun _ => []) .ok (fun _ => by simp)

/-- A supervisor that keeps a session. -/
def keepingSupervisor : LspSupervisor := ⟨some sampleLspSession, some "rust", 0⟩

/-- A course in which the server answers when it is started again. -/
def sampleCourse (conduct : LspConduct sampleLspConfig.toLspLimits) : LspCourse sampleLspConfig.toLspLimits :=
  ⟨sampleLaunch, conduct, sampleLaunch, .stays [sampleResponse 2 (by decide) (.bool true)]⟩

theorem start_sample : LspSession.start sampleLspConfig sampleLaunch = .ok sampleLspSession := rfl

theorem capable_sample : sampleLspSession.capabilities.contains hoverWork.capability := by
  simp [sampleLspSession, LspSession.normalizeCapabilities, hoverWork, LspWork.capability, hoverCapabilities, Json.get?]

/-- A server that exits in front of an answer is started again and answers. -/
theorem lsp_restart_answers_sample :
    (sampleCourse (.exits [] ⟨[], fun some_ => absurd rfl some_⟩)).Restores sampleLspConfig "rust" hoverWork
      sampleLspSession keepingSupervisor := by
  refine (lsp_restart_answers rfl start_sample rfl capable_sample).mpr ⟨sampleLspSession, rfl, .inr ?_⟩
  refine ⟨rfl, capable_sample, ⟨by decide, by decide⟩, [], _, rfl, wholeHeaderLines_nil, ?_⟩
  intro message member
  cases member

/-- An operation that finds its server exited fails although the server could be started again, and so do all operations
behind it. -/
theorem not_lsp_restart_answers : keepingSupervisor.restartCount = 0 ∧
    LspSession.start sampleLspConfig (sampleCourse .exitsBefore).launchAgain = .ok sampleLspSession ∧
    (sampleLspSession.perform ["w"] (sampleCourse .exitsBefore).conductAgain hoverWork).1 = .ok (.bool true) ∧
    ∃ left, (LspSupervisor.executeOperation sampleLspConfig "rust" hoverWork (sampleCourse .exitsBefore)).apply
        keepingSupervisor = (.error (.io "write server stdin"), left) ∧
      ∀ course, ((LspSupervisor.executeOperation sampleLspConfig "rust" hoverWork course).apply left).1 =
        .error (.io "write server stdin") := by
  refine ⟨rfl, rfl, rfl, _, LspSupervisor.executeOperation_exited rfl rfl capable_sample ⟨by decide, by decide⟩ rfl, ?_⟩
  intro course
  have kept : (sampleLspSession.perform ["w"] (sampleCourse .exitsBefore).conduct hoverWork).2.capabilities.contains
    hoverWork.capability := capable_sample
  have exited : (sampleLspSession.perform ["w"] (sampleCourse .exitsBefore).conduct hoverWork).2.takes course.conduct =
      false := by
    cases course.conduct <;> rfl
  rw [LspSupervisor.executeOperation_exited rfl rfl kept ⟨by decide, by decide⟩ exited]

end Sample

end AgentMod
