import AgentMod.Lsp.Client

/-! The registry of active requests, across requests, cancellations and sessions. -/

namespace AgentMod

/-- What is registered of a request: its session, whose input it was written to, and its number there. -/
structure ActiveRequest where
  session : Nat
  id : Nat
  deriving DecidableEq

/-- A request whose loop runs. -/
structure OutstandingRequest where
  request : ActiveRequest
  key : Option String
  cancelled : Bool

/-- What the client waits for. -/
inductive LspWaiting where
  | idle
  | response (outstanding : OutstandingRequest)
  | diagnostics (uri : String)

/-- The state of the client. -/
structure LspClient where
  session : Nat
  nextId : Nat
  diagnostics : LspDiagnostics
  active : StringMap ActiveRequest
  waiting : LspWaiting

/-- What happens to the client. -/
inductive LspAction where
  | start
  | request (key : Option String) (written : Except LspError Unit)
  | openDocument (uri : String) (written : Except LspError Unit)
  | observe (observation : LspObservation)
  | cancel (key : String) (written : Except LspError Unit)

/-- What the callers get. -/
inductive LspOutcome where
  | pending
  | returned (result : Except LspError Json)
  | published (result : Except LspError (List LspDiagnostic))
  | cancelled (sent : Option ActiveRequest) (result : Except LspError Bool)

namespace LspClient

/-- The client before its first server. -/
def new : LspClient := ⟨0, 1, ∅, ∅, .idle⟩

/-- The requests that should be registered while the client waits. -/
def registered : LspWaiting → StringMap ActiveRequest
  | .response ⟨request, some key, _⟩ => (∅ : StringMap ActiveRequest).insert key request
  | _ => ∅

/-- The client of a server that is started. -/
def startSession (client : LspClient) : LspClient :=
  { client with session := client.session + 1, nextId := 1, diagnostics := ∅ }

/-- The first half of `request_raw`: numbers, writes and registers a request. -/
def beginRequest (client : LspClient) (key : Option String) (written : Except LspError Unit) : LspOutcome × LspClient :=
  if client.nextId + 1 < 2 ^ 64 then
    let counted := { client with nextId := client.nextId + 1 }
    match written with
    | .error error => (.returned (.error error), counted)
    | .ok _ =>
      let request := ⟨client.session, client.nextId⟩
      (.pending, { counted with
        active := match key with
          | some key => client.active.insert key request
          | none => client.active
        waiting := .response ⟨request, key, false⟩ })
  else (.returned (.error .idOverflow), client)

/-- The second half of `request_raw`: one round of its loop, and what follows it. -/
def observeResponse [LspFiles] (workspace : List String) (client : LspClient) (outstanding : OutstandingRequest)
    (observation : LspObservation) : LspOutcome × LspClient :=
  match observeRequest outstanding.request.id workspace client.diagnostics observation with
  | .ok diagnostics => (.pending, { client with diagnostics })
  | .error (.broke result) =>
    (.returned (if outstanding.cancelled then .error .cancelled else result), { client with
      active := match outstanding.key with
        | some key => client.active.erase key
        | none => client.active
      waiting := .idle })
  | .error (.returned error) => (.returned (.error error), { client with waiting := .idle })

/-- The end of the diagnostics operation, from its notification on. -/
def openDocument (client : LspClient) (uri : String) (written : Except LspError Unit) : LspOutcome × LspClient :=
  let forgotten := { client with diagnostics := client.diagnostics.erase uri }
  match written with
  | .error error => (.published (.error error), forgotten)
  | .ok _ => (.pending, { forgotten with waiting := .diagnostics uri })

/-- One round of `wait_for_diagnostics`. -/
def observePublication [LspFiles] (workspace : List String) (client : LspClient) (uri : String)
    (observation : LspObservation) : LspOutcome × LspClient :=
  match observeDiagnostics workspace client.diagnostics observation with
  | .error error => (.published (.error error), { client with waiting := .idle })
  | .ok diagnostics =>
    match diagnostics[uri]? with
    | some items => (.published (.ok items), { client with diagnostics := diagnostics.erase uri, waiting := .idle })
    | none => (.pending, { client with diagnostics })

/-- What the client waits for behind a cancellation of a registered request. -/
def cancelWaiting (entry : ActiveRequest) : LspWaiting → LspWaiting
  | .response outstanding =>
    .response { outstanding with cancelled := outstanding.cancelled || decide (outstanding.request = entry) }
  | waiting => waiting

/-- `cancel`. -/
def cancel (client : LspClient) (key : String) (written : Except LspError Unit) : LspOutcome × LspClient :=
  match client.active[key]? with
  | none => (.cancelled none (.ok false), client)
  | some entry =>
    match written with
    | .error error => (.cancelled none (.error error), client)
    | .ok _ => (.cancelled (some entry) (.ok true), { client with waiting := cancelWaiting entry client.waiting })

/-- What an action comes to, if it can happen. -/
def advance [LspFiles] (workspace : List String) (client : LspClient) : LspAction → Option (LspOutcome × LspClient)
  | .cancel key written => some (client.cancel key written)
  | .observe observation =>
    match client.waiting with
    | .response outstanding => some (observeResponse workspace client outstanding observation)
    | .diagnostics uri => some (observePublication workspace client uri observation)
    | .idle => none
  | action =>
    -- Operations hold the lock of the supervisor, so that none begins while another one waits.
    match client.waiting, action with
    | .idle, .start => some (.pending, client.startSession)
    | .idle, .request key written => some (client.beginRequest key written)
    | .idle, .openDocument uri written => some (client.openDocument uri written)
    | _, _ => none

/-- The steps of the client, by their actions and outcomes. -/
def Steps [LspFiles] (workspace : List String) (client : LspClient) (label : LspAction × LspOutcome)
    (next : LspClient) : Prop :=
  client.advance workspace label.1 = some (label.2, next)

/-- The registry holds the request that is outstanding, if that has a key, and nothing else. -/
def Exact (client : LspClient) : Prop := client.active = registered client.waiting

/-- A cancellation that returns true, or tells the server of a request, is of the outstanding request of its key. -/
def CancelsOutstanding (client : LspClient) (key : String) (sent : Option ActiveRequest)
    (result : Except LspError Bool) : Prop :=
  result = .ok true ∨ sent ≠ none →
    ∃ outstanding, client.waiting = .response outstanding ∧ outstanding.key = some key ∧ sent = some outstanding.request

/-- Wherever the run leads on its way, the registry is exact, and cancellations are of outstanding requests. -/
def RegistersExactly [LspFiles] (workspace : List String) (labels : List (LspAction × LspOutcome)) : Prop :=
  ∀ front back client, labels = front ++ back → Run (Steps workspace) new front client → client.Exact ∧
    ∀ key written next sent result, client.Steps workspace (.cancel key written, .cancelled sent result) next →
      client.CancelsOutstanding key sent result

end LspClient

/-- The observation ends the loop of a request without a response to it or an expired deadline. -/
def LspObservation.Aborts [LspFiles] (id : Nat) (workspace : List String) : LspObservation → Prop
  | .message received => received.messageId ≠ some id ∧ received.isPublication ∧
      ∀ publication, readPublication workspace received ≠ .ok publication
  | .expired => False
  | .failed _ | .silent | .closed => True

/-- The action does not abort a request that has a key. -/
def LspClient.Spares [LspFiles] (workspace : List String) (client : LspClient) (action : LspAction) : Prop :=
  ∀ observation outstanding key, action = .observe observation → client.waiting = .response outstanding →
    outstanding.key = some key → ¬ observation.Aborts outstanding.request.id workspace

end AgentMod
