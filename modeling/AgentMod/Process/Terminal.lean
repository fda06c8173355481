import AgentMod.Library.Result

/-! The capture of a terminal's output: a bounded log of it, and replies to the queries in it. -/

namespace AgentMod

/-- Why a capture fails. -/
inductive TerminalCaptureError where
  | lengthOverflow
  deriving DecidableEq

/-- The query for the cursor's position. -/
def cursorQuery : List UInt8 := [0x1b, 0x5b, 0x36, 0x6e]

/-- The reply to the query for the cursor's position. -/
def cursorReply : List UInt8 := [0x1b, 0x5b, 0x31, 0x3b, 0x31, 0x52]

/-- `<[u8]>::windows`. -/
def windows (size : Nat) : List UInt8 → List (List UInt8)
  | [] => []
  | byte :: rest => if size ≤ rest.length + 1 then (byte :: rest).take size :: windows size rest else []

/-- What a capture has done: the log, the number of its bytes, whether output was left out of it, and the replies. -/
structure TerminalCapture where
  log : List UInt8
  retained : Nat
  truncated : Bool
  replies : List (List UInt8)
  deriving DecidableEq

/-- Nothing is captured yet. -/
def TerminalCapture.initial : TerminalCapture := ⟨[], 0, false, []⟩

/-- Replies to the terminal where its output asks for the cursor's position. -/
def respondToTerminalQueries (bytes : List UInt8) (replies : List (List UInt8)) : List (List UInt8) :=
  if (windows 4 bytes).any (· == cursorQuery) then replies ++ [cursorReply] else replies

/-- What one read does to a capture. -/
def captureTerminalRead (limit : Nat) (capture : TerminalCapture) (bytes : List UInt8) :
    Except TerminalCaptureError TerminalCapture := do
  let replies := respondToTerminalQueries bytes capture.replies
  let available := limit - capture.retained
  let writeCount := min available bytes.length
  let retained := capture.retained + writeCount
  refuseIf (2 ^ 64 ≤ retained) .lengthOverflow
  return {
    log := capture.log ++ bytes.take writeCount
    retained
    truncated := capture.truncated || writeCount < bytes.length
    replies }

/-- The loop over the reads of a terminal's output, which an empty read ends. -/
def captureTerminalStream (limit : Nat) : TerminalCapture → List (List UInt8) →
    Except TerminalCaptureError TerminalCapture
  | capture, [] => .ok capture
  | capture, bytes :: reads =>
    if bytes = [] then .ok capture
    else do captureTerminalStream limit (← captureTerminalRead limit capture bytes) reads

/-- How often the query stands in some output. -/
def queryCount : List UInt8 → Nat
  | [] => 0
  | byte :: rest => (if cursorQuery.isPrefixOf (byte :: rest) then 1 else 0) + queryCount rest

/-- The size of the buffer that is read into. -/
def terminalBufferBytes : Nat := 8192

/-- Reads that fill no more than the buffer, and that make up a stream. -/
structure IsReads (stream : List UInt8) (reads : List (List UInt8)) : Prop where
  bytes : reads.flatten = stream
  filled : ∀ read ∈ reads, read ≠ [] ∧ read.length ≤ terminalBufferBytes

/-- A query begins in front of a cut, and ends behind it. -/
def CutsQuery (front behind : List UInt8) : Prop :=
  ∃ before head tail after, front = before ++ head ∧ behind = tail ++ after ∧ head ≠ [] ∧ tail ≠ [] ∧
    head ++ tail = cursorQuery

/-- No read has two queries in it, and no query goes over the end of a read. -/
def QueriesApart : List (List UInt8) → Prop
  | [] => True
  | read :: reads => queryCount read ≤ 1 ∧ ¬CutsQuery read reads.flatten ∧ QueriesApart reads

end AgentMod
