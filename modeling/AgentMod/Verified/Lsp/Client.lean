import AgentMod.Lsp.Client
import AgentMod.Verified.Primitives.Collections

/-! What requests to a language server return of the messages that it sends. -/

namespace AgentMod

section Correlation

theorem isPublication_of_method_none {message : Json} (none : message.get? "method" = none) :
    message.isPublication = false := by
  simp [Json.isPublication, none]

theorem found_injective {β : Type} :
    (fun found : β × List Json => (found.1, found.2.map LspObservation.message)).Injective := by
  intro left right same
  have messages : LspObservation.message.Injective := fun _ _ same => LspObservation.message.inj same
  obtain ⟨outcomes, rests⟩ := Prod.mk.inj same
  exact Prod.ext outcomes (messages.list_map rests)

theorem parsePosition_open (value : Json) : FailsAs (· ≠ .connectionClosed) (parsePosition value) :=
  .bind (.okOr (by simp)) fun _ => .bind (.okOr (by simp)) fun _ => .ok

theorem normalizeDiagnostic_open (path : List String) (value : Json) :
    FailsAs (· ≠ .connectionClosed) (normalizeDiagnostic path value) := by
  refine .bind (.okOr (by simp)) fun range => .bind ?_ fun _ => .bind (.okOr (by simp)) fun _ => .ok
  refine .bind (.okOr (by simp)) fun start => .bind (parsePosition_open start) fun _ => ?_
  exact .bind (.okOr (by simp)) fun finish => .bind (parsePosition_open finish) fun _ => .ok

theorem percentDecodeBytes_open (bytes : List UInt8) : FailsAs (· ≠ .connectionClosed) (percentDecodeBytes bytes) := by
  fun_induction percentDecodeBytes bytes with
  | case1 => exact .ok
  | case2 high low rest ih => exact .bind (.okOr (by simp)) fun _ => .bind ih fun _ => .ok
  | case3 => exact .error (by simp)
  | case4 byte rest other ih => exact .bind ih fun _ => .ok

variable [LspFiles] {id : Nat} {workspace document : List String} {diagnostics : LspDiagnostics} {message : Json}

theorem captureNotification_other (other : message.isPublication = false) :
    captureNotification workspace diagnostics message = .ok diagnostics := by
  rw [captureNotification, if_neg (by simp [other])]
  rfl

theorem captureNotification_error {error : LspError} (publishes : message.isPublication = true)
    (fails : readPublication workspace message = .error error) :
    captureNotification workspace diagnostics message = .error error := by
  rw [captureNotification, if_pos publishes, fails]
  rfl

theorem captureNotification_ok {uri : String} {path : List String} {items : List LspDiagnostic}
    (publishes : message.isPublication = true) (reads : readPublication workspace message = .ok (uri, path, items)) :
    captureNotification workspace diagnostics message = .ok (diagnostics.insert uri items) := by
  rw [captureNotification, if_pos publishes, reads]
  rfl

theorem readPublication_open (workspace : List String) (message : Json) :
    FailsAs (· ≠ .connectionClosed) (readPublication workspace message) := by
  have contained (uri : String) : FailsAs (· ≠ .connectionClosed) (containedUri uri workspace) := by
    refine .bind (.refuseIf (by simp)) fun _ => .bind ?_ fun _ => .bind (.okOr (by simp)) fun _ => ?_
    · exact .bind (percentDecodeBytes_open _) fun _ => .okOr (by simp)
    · exact .bind (.refuseIf (by simp)) fun _ => .ok
  refine .bind (.okOr (by simp)) fun params => .bind (.okOr (by simp)) fun uri => .bind (contained uri) fun path => ?_
  refine .bind (.okOr (by simp)) fun items => .bind (.mapM fun value _ => ?_) fun _ => .ok
  exact normalizeDiagnostic_open path value

/-- What a request returns of a message, if it ends there. -/
def requestStop (id : Nat) (workspace : List String) (message : Json) : Option (Except LspError Json) :=
  if message.messageId = some id then some (responseOutcome message)
  else if message.isPublication then
    match readPublication workspace message with
    | .ok _ => none
    | .error error => some (.error error)
  else none

/-- What a wait for the diagnostics of a document returns of a message, if it ends there. -/
def diagnosticsStop (uri : String) (workspace : List String) (message : Json) :
    Option (Except LspError (List LspDiagnostic)) :=
  if message.isPublication then
    match readPublication workspace message with
    | .ok (published, _, items) => if published = uri then some (.ok items) else none
    | .error error => some (.error error)
  else none

/-- In front of other observations, a request ends at the first message that it returns something of. -/
theorem awaitResponse_append (messages : List Json) (tail : List LspObservation) :
    (∀ result rest, firstOf (requestStop id workspace) messages = some (result, rest) → ∃ exit,
      awaitResponse id workspace diagnostics (messages.map .message ++ tail) =
        some (exit, rest.map .message ++ tail) ∧ exit.result = result) ∧
    (firstOf (requestStop id workspace) messages = none → ∃ later,
      awaitResponse id workspace diagnostics (messages.map .message ++ tail) =
        awaitResponse id workspace later tail) := by
  induction messages generalizing diagnostics with
  | nil => exact ⟨fun _ _ found => (by cases found), fun _ => ⟨diagnostics, rfl⟩⟩
  | cons message rest ih =>
    rw [List.map_cons, List.cons_append, awaitResponse, observeRequest]
    by_cases own : message.messageId = some id
    · have returned : requestStop id workspace message = some (responseOutcome message) := by
        rw [requestStop, if_pos own]
      rw [if_pos own, firstOf_cons_some returned]
      exact ⟨fun _ _ found => (by cases found; exact ⟨_, rfl, rfl⟩), fun missing => (by cases missing)⟩
    · rw [if_neg own]
      cases publishes : message.isPublication with
      | false =>
        rw [captureNotification_other publishes, firstOf_cons_none (by simp [requestStop, own, publishes])]
        exact ih
      | true =>
        cases reads : readPublication workspace message with
        | error error =>
          have returned : requestStop id workspace message = some (.error error) := by
            simp [requestStop, own, publishes, reads]
          rw [captureNotification_error publishes reads, firstOf_cons_some returned]
          exact ⟨fun _ _ found => (by cases found; exact ⟨_, rfl, rfl⟩), fun missing => (by cases missing)⟩
        | ok publication =>
          rw [captureNotification_ok publishes reads,
            firstOf_cons_none (by simp [requestStop, own, publishes, reads])]
          exact ih

theorem requestRaw_eq (messages : List Json) : requestRaw id workspace diagnostics messages =
    (firstOf (requestStop id workspace) messages).map fun found => (found.1, found.2.map .message) := by
  have both := @awaitResponse_append _ id workspace diagnostics messages []
  simp only [List.append_nil] at both
  rw [requestRaw]
  cases found : firstOf (requestStop id workspace) messages with
  | some stop =>
    obtain ⟨result, rest⟩ := stop
    obtain ⟨exit, ends, rfl⟩ := both.1 result rest found
    rw [ends]
    rfl
  | none =>
    obtain ⟨later, same⟩ := both.2 found
    rw [same, awaitResponse]
    rfl

theorem awaitDiagnostics_found {uri : String} {items : List LspDiagnostic} {observations : List LspObservation}
    (found : diagnostics[uri]? = some items) :
    awaitDiagnostics uri workspace diagnostics observations = some (.ok items, observations) := by
  cases observations <;> simp [awaitDiagnostics, found]

/-- In front of other observations, a wait for diagnostics ends at the first message that it returns something of. -/
theorem awaitDiagnostics_append {uri : String} (messages : List Json) (tail : List LspObservation)
    (missing : diagnostics[uri]? = none) :
    (∀ result rest, firstOf (diagnosticsStop uri workspace) messages = some (result, rest) →
      awaitDiagnostics uri workspace diagnostics (messages.map .message ++ tail) =
        some (result, rest.map .message ++ tail)) ∧
    (firstOf (diagnosticsStop uri workspace) messages = none → ∃ later : LspDiagnostics, later[uri]? = none ∧
      awaitDiagnostics uri workspace diagnostics (messages.map .message ++ tail) =
        awaitDiagnostics uri workspace later tail) := by
  induction messages generalizing diagnostics with
  | nil => exact ⟨fun _ _ found => (by cases found), fun _ => ⟨diagnostics, missing, rfl⟩⟩
  | cons message rest ih =>
    rw [List.map_cons, List.cons_append, awaitDiagnostics, missing, observeDiagnostics]
    cases publishes : message.isPublication with
    | false =>
      rw [captureNotification_other publishes, firstOf_cons_none (by simp [diagnosticsStop, publishes])]
      exact ih missing
    | true =>
      cases reads : readPublication workspace message with
      | error error =>
        have returned : diagnosticsStop uri workspace message = some (.error error) := by
          simp [diagnosticsStop, publishes, reads]
        rw [captureNotification_error publishes reads, firstOf_cons_some returned]
        exact ⟨fun _ _ found => (by cases found; rfl), fun missing => (by cases missing)⟩
      | ok publication =>
        obtain ⟨published, path, items⟩ := publication
        rw [captureNotification_ok publishes reads]
        by_cases same : published = uri
        · have returned : diagnosticsStop uri workspace message = some (.ok items) := by
            simp [diagnosticsStop, publishes, reads, same]
          rw [firstOf_cons_some returned]
          refine ⟨fun _ _ found => ?_, fun missing => (by cases missing)⟩
          cases found
          exact awaitDiagnostics_found (by simp [same])
        · rw [firstOf_cons_none (by simp [diagnosticsStop, publishes, reads, same])]
          exact ih (by rw [Std.ExtTreeMap.getElem?_insert, if_neg (by simpa using same), missing])

theorem awaitDiagnostics_eq {uri : String} (messages : List Json) (missing : diagnostics[uri]? = none) :
    awaitDiagnostics uri workspace diagnostics (messages.map .message) =
      (firstOf (diagnosticsStop uri workspace) messages).map fun found => (found.1, found.2.map .message) := by
  obtain ⟨ends, passes⟩ := awaitDiagnostics_append messages [] missing
  simp only [List.append_nil] at ends passes
  cases found : firstOf (diagnosticsStop uri workspace) messages with
  | some stop => exact ends stop.1 stop.2 found
  | none =>
    obtain ⟨later, still, same⟩ := passes found
    rw [same, awaitDiagnostics, still]
    rfl

theorem requestStop_open {result : Except LspError Json} (returned : requestStop id workspace message = some result) :
    result ≠ .error .connectionClosed := by
  rw [requestStop] at returned
  split at returned
  · cases returned
    rw [responseOutcome]
    split <;> simp
  · split at returned
    · cases reads : readPublication workspace message with
      | ok publication => simp [reads] at returned
      | error error =>
        simp only [reads, Option.some.injEq] at returned
        subst returned
        have open_ := readPublication_open workspace message error reads
        simpa using open_
    · cases returned

theorem diagnosticsStop_open {uri : String} {result : Except LspError (List LspDiagnostic)}
    (returned : diagnosticsStop uri workspace message = some result) : result ≠ .error .connectionClosed := by
  rw [diagnosticsStop] at returned
  split at returned
  · cases reads : readPublication workspace message with
    | ok publication =>
      simp only [reads, Option.ite_none_right_eq_some, Option.some.injEq] at returned
      rw [← returned.2]
      simp
    | error error =>
      simp only [reads, Option.some.injEq] at returned
      subst returned
      have open_ := readPublication_open workspace message error reads
      simpa using open_
  · cases returned

theorem requestStop_eq_answerOf : requestStop id workspace message = answerOf id message ↔
    message.Unmistakable id workspace := by
  rw [requestStop, answerOf, Json.Unmistakable, Json.answers]
  by_cases own : message.messageId = some id
  · cases method : message.get? "method" with
    | none => simp [own, isPublication_of_method_none method]
    | some name => simp [own]
  · cases publishes : message.isPublication with
    | false => simp [own]
    | true =>
      cases reads : readPublication workspace message with
      | ok publication => simp [own]
      | error error => simp [own]

theorem diagnosticsStop_eq_publishedFor :
    diagnosticsStop (pathToUri document) workspace message = publishedFor document workspace message ↔
      message.NamesPlainly document workspace := by
  rw [diagnosticsStop, publishedFor, Json.NamesPlainly]
  cases publishes : message.isPublication with
  | false => simp
  | true =>
    cases reads : readPublication workspace message with
    | error error => simp
    | ok publication =>
      obtain ⟨uri, path, items⟩ := publication
      by_cases named : uri = pathToUri document <;> by_cases meant : path = document <;> simp [named, meant]

theorem requestStop_eq_none_iff {id : Nat} {message : Json} : requestStop id workspace message = none ↔
    message.messageId ≠ some id ∧
      (message.isPublication → ∃ publication, readPublication workspace message = .ok publication) := by
  rw [requestStop]
  by_cases own : message.messageId = some id
  · simp [own]
  · cases publishes : message.isPublication with
    | false => simp [own]
    | true => cases reads : readPublication workspace message <;> simp [own]

theorem diagnosticsStop_eq_none_iff {uri : String} {message : Json} : diagnosticsStop uri workspace message = none ↔
    (message.isPublication → ∃ published path items, readPublication workspace message = .ok (published, path, items) ∧
      published ≠ uri) := by
  rw [diagnosticsStop]
  cases publishes : message.isPublication with
  | false => simp
  | true =>
    cases reads : readPublication workspace message with
    | error error => simp
    | ok publication =>
      obtain ⟨published, path, items⟩ := publication
      simp

end Correlation

/-- A request returns what its first response says, and a wait for diagnostics the first list for its document, exactly
where no message up to there is mistaken for something else, fails as a notification or writes the URI otherwise. -/
theorem lsp_correlated [LspFiles] (id : Nat) (document workspace : List String) (diagnostics : LspDiagnostics)
    (messages : List Json) :
    (requestRaw id workspace diagnostics messages =
        (firstOf (answerOf id) messages).map (fun found => (found.1, found.2.map .message)) ↔
      UpToFirst (answerOf id) (·.Unmistakable id workspace) messages) ∧
    (waitForDiagnostics document workspace diagnostics messages =
        (firstOf (publishedFor document workspace) messages).map (fun found => (found.1, found.2.map .message)) ↔
      UpToFirst (publishedFor document workspace) (·.NamesPlainly document workspace) messages) := by
  constructor
  · rw [requestRaw_eq, (Option.map_injective found_injective).eq_iff, firstOf_eq_iff]
    exact upToFirst_congr fun message => requestStop_eq_answerOf
  · rw [waitForDiagnostics, awaitDiagnostics_eq messages (by simp), (Option.map_injective found_injective).eq_iff,
      firstOf_eq_iff]
    exact upToFirst_congr fun message => diagnosticsStop_eq_publishedFor

section Sample

/-- A file system with one file. -/
@[reducible] def oneFile : LspFiles where
  canonicalize path := if path = "/w/a-b" then some ["w", "a-b"] else none

/-- A request that the server makes under the number of the client's. -/
def serverRequest : Json :=
  .object [("id", .number (.posInt 1 one_lt_word)), ("method", .string "workspace/configuration")]

/-- The response to the request of the client. -/
def clientResponse : Json := .object [("id", .number (.posInt 1 one_lt_word)), ("result", .bool true)]

/-- A publication that encodes more of the URI than the client does. -/
def encodedPublication : Json :=
  .object [("method", .string "textDocument/publishDiagnostics"),
    ("params", .object [("uri", .string "file:///w/a%2Db"), ("diagnostics", .array [])])]

attribute [local instance] oneFile

/-- A request of the server is taken for the response, and a publication under another URI for the same file is not
returned. -/
theorem not_lsp_correlated :
    (requestRaw 1 ["w"] ∅ [serverRequest, clientResponse] ≠
      (firstOf (answerOf 1) [serverRequest, clientResponse]).map fun found => (found.1, found.2.map .message)) ∧
    waitForDiagnostics ["w", "a-b"] ["w"] ∅ [encodedPublication] ≠
      (firstOf (publishedFor ["w", "a-b"] ["w"]) [encodedPublication]).map
        fun found => (found.1, found.2.map .message) := by
  constructor
  · have taken : requestStop 1 ["w"] serverRequest = some (.ok .null) := rfl
    have passed : answerOf 1 serverRequest = none := rfl
    have answered : answerOf 1 clientResponse = some (.ok (.bool true)) := rfl
    rw [requestRaw_eq, firstOf_cons_some taken, firstOf_cons_none passed, firstOf_cons_some answered]
    intro same
    cases same
  · have passed : diagnosticsStop (pathToUri ["w", "a-b"]) ["w"] encodedPublication = none := by decide +kernel
    have meant : publishedFor ["w", "a-b"] ["w"] encodedPublication = some (.ok []) := by decide +kernel
    rw [waitForDiagnostics, awaitDiagnostics_eq _ (by simp), firstOf_cons_none passed, firstOf_cons_some meant]
    intro same
    cases same

end Sample

end AgentMod
