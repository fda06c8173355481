import AgentMod.Expression.Syntax
import AgentMod.Library.First
import AgentMod.Library.Hex
import AgentMod.Library.Lines
import AgentMod.Library.Run
import AgentMod.Primitives.Collections
import Mathlib.Data.List.Infix

/-! The client of language servers: frames, messages, outstanding requests and the supervision of one server. -/

namespace AgentMod

/-- Failures of the client. -/
inductive LspError where
  | invalidRequest (reason : String)
  | workspaceEscape
  | unsupportedUri
  | malformedResponse
  | malformedHeader
  | missingContentLength
  | headerTooLarge
  | frameTooLarge (actual maximum : Nat)
  | unsupportedEncoding
  | json
  | io (operation : String)
  | connectionClosed
  | restartExhausted
  | timeout
  | cancelled
  | idOverflow
  | serverUnavailable
  | rpc (code : Int) (message : String)
  deriving DecidableEq, Repr

section Frames

/-- `serde_json::from_slice` to a message. -/
class LspSerde where
  fromSlice : List UInt8 → Option Json

/-- `str::split_once` at a colon and a blank. -/
def splitHeaderLine : List Char → Option (List Char × List Char)
  | ':' :: ' ' :: rest => some ([], rest)
  | [] => none
  | character :: rest => (splitHeaderLine rest).map fun parts => (character :: parts.1, parts.2)

/-- `str::parse::<usize>`. -/
def parseUsize (text : List Char) : Option Nat :=
  let digits := if text.head? = some '+' then text.tail else text
  if digits.isEmpty || !digits.all isAsciiDigit then none
  else
    let value := digits.foldl (fun value digit => value * 10 + (digit.toNat - 48)) 0
    if value < 2 ^ 64 then some value else none

/-- What a header line that is not blank says of the length of the content, beside what is known of it. -/
def readHeaderLine (line : List Char) (contentLength : Option Nat) : Except LspError (Option Nat) := do
  refuseIf (¬ ['\r', '\n'] <:+ line) .malformedHeader
  let (name, value) ← okOr (splitHeaderLine (line.take (line.length - 2))) .malformedHeader
  let name := toAsciiLowercase (.ofList name)
  if name = "content-length" then
    refuseIf contentLength.isSome .malformedHeader
    some <$> okOr (parseUsize value) .malformedHeader
  else if name = "content-type" then
    let lower := (toAsciiLowercase (.ofList value)).toList
    refuseIf ("charset=".toList <:+: lower ∧ ¬ "utf-8".toList <:+: lower ∧ ¬ "utf8".toList <:+: lower)
      .unsupportedEncoding
    return contentLength
  else return contentLength

/-- Reads header lines up to the blank one: the length of the content, and the lines behind the header. -/
def readHeader (maxHeaderBytes : Nat) : List (List UInt8) → Option Nat → Nat →
    Except LspError (Option Nat × List (List UInt8))
  | [], _, _ => .error .connectionClosed
  | line :: lines, contentLength, headerBytes => do
    let text ← okOr (fromUtf8 line) (.io "read LSP header")
    refuseIf (headerBytes + line.length > maxHeaderBytes) .headerTooLarge
    if text.toList = ['\r', '\n'] then return (contentLength, lines)
    let contentLength ← readHeaderLine text.toList contentLength
    readHeader maxHeaderBytes lines contentLength (headerBytes + line.length)

/-- What frames may take. -/
structure LspLimits where
  maxFrameBytes : Nat
  maxHeaderBytes : Nat

/-- `read_frame` of the client, on all bytes that the server wrote until it exited: a message, and the bytes behind it. -/
def readLspFrame [LspSerde] (limits : LspLimits) (bytes : List UInt8) : Except LspError (Json × List UInt8) := do
  let (contentLength, lines) ← readHeader limits.maxHeaderBytes (splitInclusive 10 bytes) none 0
  let length ← okOr contentLength .missingContentLength
  refuseIf (length > limits.maxFrameBytes) (.frameTooLarge length limits.maxFrameBytes)
  let rest := lines.flatten
  refuseIf (rest.length < length) (.io "read LSP body")
  let message ← okOr (LspSerde.fromSlice (rest.take length)) .json
  return (message, rest.drop length)

end Frames

section Uris

/-- The file system, as far as paths are resolved. -/
class LspFiles where
  /-- `fs::canonicalize`: the components of a path without links. -/
  canonicalize : String → Option (List String)

/-- The text of an absolute path. -/
def displayPath (path : List String) : String := "/" ++ "/".intercalate path

/-- The bytes that `percent_encode` keeps. -/
def isUnreservedByte (byte : UInt8) : Bool :=
  let character := Char.ofNat byte.toNat
  isAsciiAlphanumeric character || ['-', '.', '_', '~', '/', ':'].contains character

/-- A hexadecimal digit in upper case. -/
def upperHexDigit (value : Nat) : Char := Char.ofNat (if value < 10 then 48 + value else 55 + value)

/-- `percent_encode`. -/
def percentEncode (value : String) : String :=
  .ofList <| (textBytes value).flatMap fun byte =>
    if isUnreservedByte byte then [Char.ofNat byte.toNat]
    else ['%', upperHexDigit (byte.toNat / 16), upperHexDigit (byte.toNat % 16)]

/-- `u8::from_str_radix` of two characters, the first of which may be a sign. -/
def fromHexPair (high low : UInt8) : Option UInt8 :=
  if high = 43 then hexNibble low
  else do
    let upper ← hexNibble high
    let lower ← hexNibble low
    return upper * 16 + lower

/-- The bytes that `percent_decode` decodes. -/
def percentDecodeBytes : List UInt8 → Except LspError (List UInt8)
  | [] => .ok []
  | byte :: rest =>
    if byte = 37 then
      match rest with
      | high :: low :: rest => do
        let decoded ← okOr (fromHexPair high low) .unsupportedUri
        return decoded :: (← percentDecodeBytes rest)
      | _ => .error .unsupportedUri
    else return byte :: (← percentDecodeBytes rest)

/-- `percent_decode`. -/
def percentDecode (value : List Char) : Except LspError String := do
  okOr (fromUtf8 (← percentDecodeBytes (utf8Bytes value))) .unsupportedUri

/-- `path_to_uri`, on a canonical path. -/
def pathToUri (path : List String) : String :=
  let rendered := ((displayPath path).map fun character => if character = '\\' then '/' else character).toList
  let rendered := if "//?/".toList <+: rendered then rendered.drop 4 else rendered
  let encoded := percentEncode (.ofList rendered)
  if "/".toList <+: encoded.toList then "file://" ++ encoded else "file:///" ++ encoded

/-- `contained_uri`. -/
def containedUri [LspFiles] (uri : String) (workspace : List String) : Except LspError (List String) := do
  refuseIf (¬ "file://".toList <+: uri.toList) .unsupportedUri
  let decoded ← percentDecode (uri.toList.drop 7)
  let canonical ← okOr (LspFiles.canonicalize decoded) .workspaceEscape
  refuseIf (¬ workspace <+: canonical) .workspaceEscape
  return canonical

end Uris

/-- LSP position. -/
structure LspPosition where
  line : Nat
  character : Nat
  deriving DecidableEq

/-- LSP range. -/
structure LspRange where
  start : LspPosition
  finish : LspPosition
  deriving DecidableEq

/-- A diagnostic of a document. -/
structure LspDiagnostic where
  path : String
  range : LspRange
  severity : Option Nat
  code : Option String
  source : Option String
  message : String
  deriving DecidableEq

/-- The published diagnostics, by the text of their URI. -/
abbrev LspDiagnostics := StringMap (List LspDiagnostic)

section Messages

/-- `required_str`. -/
def requiredStr (value : Json) (key : String) : Except LspError String :=
  okOr ((value.get? key).bind Json.asStr?) .malformedResponse

/-- `u32::try_from`. -/
def checkedU32 (value : Nat) : Option Nat := if value < 2 ^ 32 then some value else none

/-- `required_u32`. -/
def requiredU32 (value : Json) (key : String) : Except LspError Nat :=
  okOr (((value.get? key).bind Json.asU64?).bind checkedU32) .malformedResponse

/-- `parse_position`. -/
def parsePosition (value : Json) : Except LspError LspPosition := do
  return ⟨← requiredU32 value "line", ← requiredU32 value "character"⟩

/-- `parse_range`. -/
def parseRange (value : Json) : Except LspError LspRange := do
  let start ← parsePosition (← okOr (value.get? "start") .malformedResponse)
  let finish ← parsePosition (← okOr (value.get? "end") .malformedResponse)
  return ⟨start, finish⟩

/-- `value_to_string`. -/
def valueToString (value : Json) : Option String :=
  value.asStr?.or (value.asI64?.map toString)

/-- `normalize_diagnostic`. -/
def normalizeDiagnostic (path : List String) (value : Json) : Except LspError LspDiagnostic := do
  let range ← parseRange (← okOr (value.get? "range") .malformedResponse)
  let message ← requiredStr value "message"
  return {
    path := displayPath path
    range
    severity := ((value.get? "severity").bind Json.asU64?).bind checkedU32
    code := (value.get? "code").bind valueToString
    source := (value.get? "source").bind Json.asStr?
    message }

/-- The message publishes diagnostics. -/
def Json.isPublication (message : Json) : Bool :=
  decide ((message.get? "method").bind Json.asStr? = some "textDocument/publishDiagnostics")

/-- The published diagnostics of a message: the text of the URI, the path, and the list. -/
def readPublication [LspFiles] (workspace : List String) (message : Json) :
    Except LspError (String × List String × List LspDiagnostic) := do
  let params ← okOr (message.get? "params") .malformedResponse
  let uri ← requiredStr params "uri"
  let path ← containedUri uri workspace
  let items ← okOr ((params.get? "diagnostics").bind Json.asArray?) .malformedResponse
  let diagnostics ← items.mapM (normalizeDiagnostic path)
  return (uri, path, diagnostics)

/-- `capture_notification`. -/
def captureNotification [LspFiles] (workspace : List String) (diagnostics : LspDiagnostics) (message : Json) :
    Except LspError LspDiagnostics :=
  if message.isPublication then do
    let (uri, _, items) ← readPublication workspace message
    return diagnostics.insert uri items
  else return diagnostics

/-- The number by which a message is identified. -/
def Json.messageId (message : Json) : Option Nat := (message.get? "id").bind Json.asU64?

/-- What is returned of a message that answers a request. -/
def responseOutcome (message : Json) : Except LspError Json :=
  match message.get? "error" with
  | some error => .error (.rpc (((error.get? "code").bind Json.asI64?).getD (-32603))
      (((error.get? "message").bind Json.asStr?).getD "language server error"))
  | none => .ok ((message.get? "result").getD .null)

end Messages

section Waiting

variable [LspFiles]

/-- What a wait for a message comes to. -/
inductive LspObservation where
  | message (message : Json)
  | failed (error : LspError)
  | silent
  | closed
  | expired

/-- How the loop of a request ends: it is left, or the whole request returns. -/
inductive LspExit where
  | broke (result : Except LspError Json)
  | returned (error : LspError)

/-- One round of the loop of a request, which ends it or goes on with the diagnostics so far. -/
def observeRequest (id : Nat) (workspace : List String) (diagnostics : LspDiagnostics) :
    LspObservation → Except LspExit LspDiagnostics
  | .message message =>
    if message.messageId = some id then .error (.broke (responseOutcome message))
    else (captureNotification workspace diagnostics message).mapError .returned
  | .failed error => .error (.returned error)
  | .silent => .error (.returned .timeout)
  | .closed => .error (.returned .connectionClosed)
  | .expired => .error (.broke (.error .timeout))

/-- The loop of a request: how it ends, and what it leaves unread. -/
def awaitResponse (id : Nat) (workspace : List String) : LspDiagnostics → List LspObservation →
    Option (LspExit × List LspObservation)
  | _, [] => none
  | diagnostics, observation :: rest =>
    match observeRequest id workspace diagnostics observation with
    | .error ended => some (ended, rest)
    | .ok diagnostics => awaitResponse id workspace diagnostics rest

/-- One round of `wait_for_diagnostics` behind its look at the diagnostics so far. -/
def observeDiagnostics (workspace : List String) (diagnostics : LspDiagnostics) :
    LspObservation → Except LspError LspDiagnostics
  | .message message => captureNotification workspace diagnostics message
  | .failed error => .error error
  | .silent | .expired => .error .timeout
  | .closed => .error .connectionClosed

/-- `wait_for_diagnostics`: what it returns, and what it leaves unread. -/
def awaitDiagnostics (uri : String) (workspace : List String) (diagnostics : LspDiagnostics) :
    List LspObservation → Option (Except LspError (List LspDiagnostic) × List LspObservation)
  | [] => diagnostics[uri]?.map fun items => (.ok items, [])
  | observation :: rest =>
    match diagnostics[uri]? with
    | some items => some (.ok items, observation :: rest)
    | none =>
      match observeDiagnostics workspace diagnostics observation with
      | .error error => some (.error error, rest)
      | .ok diagnostics => awaitDiagnostics uri workspace diagnostics rest

/-- What a request returns of an exit. -/
def LspExit.result : LspExit → Except LspError Json
  | broke result => result
  | returned error => .error error

/-- What `request_raw` returns of the messages behind its request, and those that it leaves unread. -/
def requestRaw (id : Nat) (workspace : List String) (diagnostics : LspDiagnostics) (messages : List Json) :
    Option (Except LspError Json × List LspObservation) :=
  (awaitResponse id workspace diagnostics (messages.map .message)).map fun ended => (ended.1.result, ended.2)

/-- `wait_for_diagnostics` behind the diagnostics that are forgotten, on the messages that follow. -/
def waitForDiagnostics (document workspace : List String) (diagnostics : LspDiagnostics) (messages : List Json) :
    Option (Except LspError (List LspDiagnostic) × List LspObservation) :=
  let uri := pathToUri document
  awaitDiagnostics uri workspace (diagnostics.erase uri) (messages.map .message)

end Waiting

section Correlation

/-- The message is the response to a request: it has the number, and no method. -/
def Json.answers (id : Nat) (message : Json) : Bool :=
  decide (message.messageId = some id) && (message.get? "method").isNone

/-- The result or error of a response to a request. -/
def answerOf (id : Nat) (message : Json) : Option (Except LspError Json) :=
  if message.answers id then some (responseOutcome message) else none

/-- The list of a message that publishes the diagnostics of a document, however its URI is written. -/
def publishedFor [LspFiles] (document workspace : List String) (message : Json) :
    Option (Except LspError (List LspDiagnostic)) :=
  if message.isPublication then
    match readPublication workspace message with
    | .ok (_, path, items) => if path = document then some (.ok items) else none
    | .error _ => none
  else none

/-- The message is not taken for a response that it is not, and fails nothing as a notification. -/
def Json.Unmistakable [LspFiles] (id : Nat) (workspace : List String) (message : Json) : Prop :=
  (message.messageId = some id → message.get? "method" = none) ∧
    (message.isPublication → ∃ publication, readPublication workspace message = .ok publication)

/-- A message that publishes diagnostics can be read, and writes the URI as the client does if it denotes the document. -/
def Json.NamesPlainly [LspFiles] (document workspace : List String) (message : Json) : Prop :=
  message.isPublication → ∃ uri path items, readPublication workspace message = .ok (uri, path, items) ∧
    (uri = pathToUri document ↔ path = document)

end Correlation

end AgentMod
