import AgentMod.Library.Run
import AgentMod.Lsp.Client

/-! The supervision of a language server: sessions, operations and the one automatic restart. -/

namespace AgentMod

/-- What every operation is configured with. -/
structure LspConfig extends LspLimits where
  workspaceRoot : List String
  initializeBody : List UInt8
  initializedBody : List UInt8

/-- What is left of a frame that a server was writing when it exited. -/
structure CutFrame [LspSerde] (limits : LspLimits) where
  bytes : List UInt8
  cut : bytes ≠ [] → ∃ frame message, readLspFrame limits frame = .ok (message, []) ∧ bytes <+: frame ∧ bytes ≠ frame

/-- What the reader passes on at the end of a frame that was cut. -/
def CutFrame.error [LspSerde] {limits : LspLimits} (part : CutFrame limits) : LspError :=
  match readLspFrame limits part.bytes with
  | .error error => error
  | .ok _ => .connectionClosed

/-- What the process of a server does from the write of a message on, until the wait for the answer is over. -/
inductive LspConduct [LspSerde] (limits : LspLimits) where
  | exitsBefore
  | exits (messages : List Json) (part : CutFrame limits)
  | stays (messages : List Json)

/-- A running or exited process, and what the client knows of it. -/
structure LspSession where
  nextId : Nat
  capabilities : StringSet
  unread : List Json
  running : Bool

/-- What a start of the configured server comes to. -/
structure LspLaunch [LspSerde] (limits : LspLimits) where
  spawns : Bool
  initialization : LspConduct limits
  notified : Bool

/-- What an operation asks of a server. -/
inductive LspWork (ρ : Type) where
  | request (capability : String) (body : Nat → List UInt8) (normalize : Json → Except LspError ρ)
      (lawful : ∀ result, normalize result ≠ .error .connectionClosed)
  | diagnostics (document : List String) (body : Option (List UInt8)) (publish : List LspDiagnostic → ρ)

/-- What an operation returns. -/
inductive LspReply (ρ : Type) where
  | unavailable
  | answer (response : ρ)

/-- The supervisor of one client. -/
structure LspSupervisor where
  session : Option LspSession
  serverId : Option String
  restartCount : Nat

namespace LspSession

variable [LspSerde] {limits : LspLimits}

/-- The process takes what is written. -/
def takes (session : LspSession) : LspConduct limits → Bool
  | .exitsBefore => false
  | _ => session.running

/-- The process runs behind its conduct. -/
def runsOn (session : LspSession) : LspConduct limits → Bool
  | .stays _ => session.running
  | _ => false

/-- What the channel delivers while the client waits. -/
def observations (session : LspSession) : LspConduct limits → List LspObservation
  | .exitsBefore => session.unread.map .message ++ [.closed]
  | .exits messages part => (session.unread ++ messages).map .message ++ [.failed part.error]
  | .stays messages => (session.unread ++ messages).map .message ++ [.silent]

/-- The session behind a wait that leaves some of the observations. -/
def behind (session : LspSession) (conduct : LspConduct limits) (rest : List LspObservation) : LspSession :=
  { session with
    unread := rest.filterMap fun
      | .message message => some message
      | _ => none
    running := session.runsOn conduct }

/-- `send_message`: nothing is written of a message that is too large or to a process that has exited. -/
def sendMessage (limits : LspLimits) (session : LspSession) (conduct : LspConduct limits) (body : List UInt8) :
    Except LspError Unit := do
  refuseIf (body.length > limits.maxFrameBytes) (.frameTooLarge body.length limits.maxFrameBytes)
  refuseIf (session.takes conduct = false) (.io "write server stdin")

/-- Writes a message, and waits for what the server sends behind it. -/
def exchange {α : Type} (wait : List LspObservation → Option (Except LspError α × List LspObservation))
    (body : List UInt8) (session : LspSession) (conduct : LspConduct limits) : Except LspError α × LspSession :=
  match sendMessage limits session conduct body with
  | .error error => (.error error, { session with running := session.runsOn conduct })
  | .ok _ =>
    match wait (session.observations conduct) with
    | some (result, rest) => (result, session.behind conduct rest)
    | none => (.error .timeout, session.behind conduct [])

variable [LspFiles]

/-- `request_raw`, with all that follows from the conduct of the server. -/
def requestRaw (workspace : List String) (body : Nat → List UInt8) (session : LspSession) (conduct : LspConduct limits) :
    Except LspError Json × LspSession :=
  let id := session.nextId
  if id + 1 < 2 ^ 64 then
    exchange (fun observations => (awaitResponse id workspace ∅ observations).map fun ended => (ended.1.result, ended.2))
      (body id) { session with nextId := id + 1 } conduct
  else (.error .idOverflow, { session with running := session.runsOn conduct })

/-- The diagnostics operation of `perform`. -/
def requestDiagnostics (workspace document : List String) (body : Option (List UInt8)) (session : LspSession)
    (conduct : LspConduct limits) : Except LspError (List LspDiagnostic) × LspSession :=
  match body with
  | none => (.error (.io "read document"), { session with running := session.runsOn conduct })
  | some body => exchange (awaitDiagnostics (pathToUri document) workspace ∅) body session conduct

/-- `perform`. -/
def perform {ρ : Type} (workspace : List String) (session : LspSession) (conduct : LspConduct limits) :
    LspWork ρ → Except LspError ρ × LspSession
  | .request _ body normalize _ =>
    let (result, session) := session.requestRaw workspace body conduct
    (result >>= normalize, session)
  | .diagnostics document body publish =>
    let (result, session) := session.requestDiagnostics workspace document body conduct
    (publish <$> result, session)

/-- `normalize_capabilities`, and the capability that every server has. -/
def normalizeCapabilities (value : Option Json) : StringSet :=
  let advertised := [("diagnostics", "diagnosticProvider"), ("document_symbols", "documentSymbolProvider"),
    ("workspace_symbols", "workspaceSymbolProvider"), ("definition", "definitionProvider"),
    ("references", "referencesProvider"), ("hover", "hoverProvider"), ("signature_help", "signatureHelpProvider"),
    ("rename", "renameProvider"), ("formatting", "documentFormattingProvider"),
    ("code_actions", "codeActionProvider")].filterMap fun entry =>
      match value.bind (Json.get? entry.2) with
      | none | some .null | some (.bool false) => none
      | some _ => some entry.1
  (Std.ExtTreeSet.ofList advertised).insert "diagnostics"

/-- `Session::start`. -/
def start (config : LspConfig) (launch : LspLaunch config.toLspLimits) : Except LspError LspSession := do
  refuseIf (launch.spawns = false) .serverUnavailable
  let spawned : LspSession := ⟨1, ∅, [], true⟩
  let (result, session) := spawned.requestRaw config.workspaceRoot (fun _ => config.initializeBody) launch.initialization
  let value ← result
  refuseIf (config.initializedBody.length > config.maxFrameBytes)
    (.frameTooLarge config.initializedBody.length config.maxFrameBytes)
  refuseIf (launch.notified = false) (.io "write server stdin")
  return { session with capabilities := normalizeCapabilities (value.get? "capabilities") }

end LspSession

/-- `operation_capability`. -/
def LspWork.capability {ρ : Type} : LspWork ρ → String
  | request capability _ _ _ => capability
  | diagnostics _ _ _ => "diagnostics"

namespace LspSupervisor

variable [LspSerde] [LspFiles] {ρ : Type}

/-- `Supervisor::ensure_session`. -/
def ensureSession (config : LspConfig) (server : String) (launch : LspLaunch config.toLspLimits) :
    Updating LspSupervisor LspError Unit := do
  let supervisor ← get
  if supervisor.session.isSome ∧ supervisor.serverId = some server then return
  set { supervisor with session := none }
  let session ← Updating.ofExcept (LspSession.start config launch)
  set (⟨some session, some server, 0⟩ : LspSupervisor)

/-- `Supervisor::restart`. -/
def restart (config : LspConfig) (server : String) (launch : LspLaunch config.toLspLimits) :
    Updating LspSupervisor LspError Unit := do
  let supervisor ← get
  if supervisor.restartCount ≥ 1 then throw .restartExhausted
  set { supervisor with session := none, restartCount := supervisor.restartCount + 1 }
  let session ← Updating.ofExcept (LspSession.start config launch)
  set ({ session := some session, serverId := some server, restartCount := supervisor.restartCount + 1 } :
    LspSupervisor)

/-- One attempt of an operation on the session at hand: what `perform` returns, or that it is not asked. -/
def attempt (config : LspConfig) (work : LspWork ρ) (conduct : LspConduct config.toLspLimits) :
    Updating LspSupervisor LspError (Except LspError (LspReply ρ)) := do
  let supervisor ← get
  match supervisor.session with
  | none => throw .serverUnavailable -- The session is there behind `ensure_session`.
  | some session =>
    if session.capabilities.contains work.capability then
      let (result, session) := session.perform config.workspaceRoot conduct work
      set { supervisor with session := some session }
      return LspReply.answer <$> result
    else
      set { supervisor with session := some { session with running := session.runsOn conduct } }
      return .ok .unavailable

end LspSupervisor

/-- What the processes of a server do during one operation: the one that a first attempt may start, the one at hand
during the first attempt, and the one that is started again and at hand during the second attempt. -/
structure LspCourse [LspSerde] (limits : LspLimits) where
  launch : LspLaunch limits
  conduct : LspConduct limits
  launchAgain : LspLaunch limits
  conductAgain : LspConduct limits

section Operations

variable [LspSerde] [LspFiles] {ρ : Type}

/-- `execute_operation`, on the server that is selected. -/
def LspSupervisor.executeOperation (config : LspConfig) (server : String)
    (work : LspWork ρ) (course : LspCourse config.toLspLimits) : Updating LspSupervisor LspError (LspReply ρ) := do
  ensureSession config server course.launch
  match ← attempt config work course.conduct with
  | .error .connectionClosed =>
    restart config server course.launchAgain
    -- The second attempt finds the session that the restart leaves.
    ensureSession config server course.launchAgain
    Updating.ofExcept (← attempt config work course.conductAgain)
  | outcome => Updating.ofExcept outcome

/-- The message of the operation can be sent under a number, if a process takes it. -/
def LspWork.Sendable (limits : LspLimits) (id : Nat) : LspWork ρ → Prop
  | request _ body _ _ => id + 1 < 2 ^ 64 ∧ (body id).length ≤ limits.maxFrameBytes
  | diagnostics _ body _ => ∃ bytes, body = some bytes ∧ bytes.length ≤ limits.maxFrameBytes

/-- The wait of the operation goes on behind the message. -/
def LspWork.PassesOver (workspace : List String) (id : Nat) (message : Json) : LspWork ρ → Prop
  | request _ _ _ _ => message.messageId ≠ some id ∧
      (message.isPublication → ∃ publication, readPublication workspace message = .ok publication)
  | diagnostics document _ _ => message.isPublication → ∃ uri path items,
      readPublication workspace message = .ok (uri, path, items) ∧ uri ≠ pathToUri document

/-- The bytes are whole lines of a header that is not over. -/
def WholeHeaderLines (bytes : List UInt8) : Prop :=
  ∀ line ∈ splitInclusive 10 bytes, line.getLast? = some 10 ∧ line ≠ [13, 10]

/-- The session of the first attempt: the one that is kept for the server, or the one that is started. -/
def LspSupervisor.atHand (config : LspConfig) (server : String) (launch : LspLaunch config.toLspLimits)
    (supervisor : LspSupervisor) : Option LspSession :=
  if supervisor.session.isSome ∧ supervisor.serverId = some server then supervisor.session
  else (LspSession.start config launch).toOption

/-- What the server answers: in the first attempt if its process runs on, and otherwise when it is started again. -/
def LspCourse.expected (config : LspConfig) (work : LspWork ρ) (course : LspCourse config.toLspLimits)
    (again : LspSession) : Option LspSession → Except LspError ρ × LspSession
  | some session =>
    if session.runsOn course.conduct then session.perform config.workspaceRoot course.conduct work
    else again.perform config.workspaceRoot course.conductAgain work
  | none => again.perform config.workspaceRoot course.conductAgain work

/-- The process of the first attempt runs on, and its server has the capability that the operation needs. -/
def LspCourse.RunsOn (config : LspConfig) (work : LspWork ρ) (course : LspCourse config.toLspLimits)
    (session : LspSession) : Prop :=
  session.runsOn course.conduct ∧ session.capabilities.contains work.capability

/-- The process of the first attempt takes the message and exits behind whole frames or header lines, before any message
ends the wait. -/
def LspCourse.ExitsCleanly (config : LspConfig) (work : LspWork ρ) (course : LspCourse config.toLspLimits)
    (session : LspSession) : Prop :=
  session.running ∧ session.capabilities.contains work.capability ∧ work.Sendable config.toLspLimits session.nextId ∧
    ∃ messages part, course.conduct = .exits messages part ∧ WholeHeaderLines part.bytes ∧
      ∀ message ∈ session.unread ++ messages, work.PassesOver config.workspaceRoot session.nextId message

/-- The operation returns what the server answers, and a session is kept whose process runs. -/
def LspCourse.Restores (config : LspConfig) (server : String) (work : LspWork ρ) (course : LspCourse config.toLspLimits)
    (again : LspSession) (supervisor : LspSupervisor) : Prop :=
  let outcome := (LspSupervisor.executeOperation config server work course).apply supervisor
  outcome.1 = LspReply.answer <$> (course.expected config work again
      (supervisor.atHand config server course.launch)).1 ∧
    ∃ session, outcome.2.session = some session ∧ session.running

end Operations

end AgentMod
