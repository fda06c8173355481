import AgentMod.Library.Result
import AgentMod.Primitives.Text

/-! The incremental parser of server-sent events, and a reading of whole streams to compare it with. -/

namespace AgentMod

/-- One parsed SSE event. -/
structure SseEvent where
  event : String
  data : String
  deriving DecidableEq

/-- Bounded SSE parsing failure. -/
inductive SseParseError where
  | oversized
  deriving DecidableEq

/-- The bytes of a piece of a stream. -/
abbrev SseBytes := List UInt8

/-- The byte bounds of a parser. -/
structure SseBounds where
  maxLineBytes : Nat
  maxEventBytes : Nat

/-- `SseParser::new`. -/
def SseBounds.default : SseBounds := ⟨1024 * 1024, 8 * 1024 * 1024⟩

/-- The line feed. -/
def lineFeed : UInt8 := 10

/-- The carriage return. -/
def carriageReturn : UInt8 := 13

/-- The bytes of a field name. -/
def fieldName (name : String) : SseBytes :=
  utf8Bytes name.toList

/-- `trim_cr`. -/
def trimCr (line : SseBytes) : SseBytes :=
  if line.getLast? = some carriageReturn then line.dropLast else line

/-- `value_with_optional_space`. -/
def valueWithOptionalSpace : SseBytes → SseBytes
  | 32 :: value => value
  | value => value

/-- The field of a line and its value: what stands before the first colon, and behind it. -/
def fieldAndValue? (line : SseBytes) : Option (SseBytes × SseBytes) :=
  match line.dropWhile (· ≠ 58) with
  | [] => none
  | _ :: value => some (line.takeWhile (· ≠ 58), valueWithOptionalSpace value)

/-- `join_data`. -/
def joinData (lines : List SseBytes) : String :=
  fromUtf8Lossy ([lineFeed].intercalate lines)

/-- Incremental SSE parser over arbitrary byte chunks. -/
structure SseParser where
  pending : SseBytes
  eventName : SseBytes
  dataLines : List SseBytes

namespace SseParser

/-- `SseParser::with_bounds`, and what `reset` leaves. -/
def new : SseParser := ⟨[], [], []⟩

/-- `take_event`. -/
def takeEvent (parser : SseParser) : Option SseEvent × SseParser :=
  if parser.dataLines.isEmpty then (none, { parser with eventName := [] })
  else
    let event := if parser.eventName.isEmpty then "message" else fromUtf8Lossy parser.eventName
    (some ⟨event, joinData parser.dataLines⟩, { parser with eventName := [], dataLines := [] })

variable (bounds : SseBounds)

/-- What a line with a field leaves. -/
def takeField (parser : SseParser) (field value : SseBytes) : Except SseParseError SseParser :=
  if field = fieldName "data" then
    if bounds.maxEventBytes < (parser.dataLines.map List.length).sum + value.length then .error .oversized
    else .ok { parser with dataLines := parser.dataLines ++ [value] }
  else if field = fieldName "event" then .ok { parser with eventName := value }
  else .ok parser

/-- `dispatch_line`, with the event that it appends. A failure resets the parser. -/
def dispatchLine (parser : SseParser) (line : SseBytes) :
    Except SseParseError (Option SseEvent × SseParser) :=
  match trimCr line with
  | [] => .ok parser.takeEvent
  | 58 :: _ => .ok (none, parser)
  | line =>
    match fieldAndValue? line with
    | none => .ok (none, parser)
    | some (field, value) => do
      let parser ← parser.takeField bounds field value
      return (none, parser)

/-- What `push` does with one byte of its chunk: the event that it appends, and the parser behind it. -/
def pushByte (parser : SseParser) (byte : UInt8) : Except SseParseError (Option SseEvent × SseParser) :=
  if byte = lineFeed then
    if bounds.maxLineBytes < parser.pending.length then .error .oversized
    else dispatchLine bounds { parser with pending := [] } parser.pending
  else
    let pending := parser.pending ++ [byte]
    if bounds.maxLineBytes < pending.length then .error .oversized
    else .ok (none, { parser with pending })

/-- The loop of `push` over the bytes of a chunk, behind the events so far. -/
def pushBytes (parser : SseParser) (events : List SseEvent) :
    SseBytes → Except SseParseError (List SseEvent × SseParser)
  | [] => .ok (events, parser)
  | byte :: rest => do
    let (event, parser) ← parser.pushByte bounds byte
    parser.pushBytes (events ++ event.toList) rest

/-- `push`: the answer, and the parser behind the chunk. -/
def push (parser : SseParser) (chunk : SseBytes) : Except SseParseError (List SseEvent) × SseParser :=
  match parser.pushBytes bounds [] chunk with
  | .ok (events, parser) => (.ok events, parser)
  | .error error => (.error error, new)

/-- `finish`. -/
def finish (parser : SseParser) : Except SseParseError (List SseEvent) :=
  if parser.pending.isEmpty && parser.dataLines.isEmpty && parser.eventName.isEmpty then .ok []
  else if bounds.maxLineBytes < parser.pending.length then .error .oversized
  else do
    let line := parser.pending
    let parser := { parser with pending := [] }
    let parser ←
      if line.isEmpty then pure parser
      else do
        -- The events that the last line appends go to a list that nobody reads.
        let (_, parser) ← parser.dispatchLine bounds line
        pure parser
    return parser.takeEvent.1.toList

/-- The events that the chunks of a stream deliver from a parser on: those of the pushes up to the first
failure, and those of `finish` where there is none. -/
def delivered (parser : SseParser) : List SseBytes → List SseEvent
  | [] =>
    match parser.finish bounds with
    | .ok events => events
    | .error _ => []
  | chunk :: chunks =>
    match parser.push bounds chunk with
    | (.ok events, parser) => events ++ parser.delivered chunks
    | (.error _, _) => []

end SseParser

/-- The value that a line gives a field. -/
def fieldValue? (field : String) (line : SseBytes) : Option SseBytes :=
  (fieldAndValue? (trimCr line)).bind fun found =>
    if found.1 = fieldName field then some found.2 else none

/-- A line that separates events. -/
def isBlankLine (line : SseBytes) : Bool :=
  (trimCr line).isEmpty

/-- The data values of the lines of one event. -/
def dataOf (block : List SseBytes) : List SseBytes :=
  block.filterMap (fieldValue? "data")

/-- The event that the lines of a block make up, if one of them has data. -/
def blockEvent? (block : List SseBytes) : Option SseEvent :=
  if (dataOf block).isEmpty then none
  else
    let name := (block.filterMap (fieldValue? "event")).getLast?.getD []
    some ⟨if name.isEmpty then "message" else fromUtf8Lossy name, joinData (dataOf block)⟩

namespace SseBounds

variable (bounds : SseBounds)

/-- A line keeps within the bounds behind the other lines of its block. -/
def fits (block : List SseBytes) (line : SseBytes) : Bool :=
  line.length ≤ bounds.maxLineBytes &&
    ((dataOf (block ++ [line])).map List.length).sum ≤ bounds.maxEventBytes

/-- The events that blank lines complete, and the block that is left, unless a bound is exceeded. -/
def read (block : List SseBytes) : List SseBytes → List SseEvent × Option (List SseBytes)
  | [] => ([], some block)
  | line :: rest =>
    if !bounds.fits block line then ([], none)
    else if isBlankLine line then
      let (events, left) := read [] rest
      ((blockEvent? block).toList ++ events, left)
    else read (block ++ [line]) rest

end SseBounds

/-- The lines of a stream, of which the last one is not terminated. -/
def sseLines (stream : SseBytes) : List SseBytes :=
  stream.splitOn lineFeed

/-- The line that a stream does not terminate. -/
def openLine (stream : SseBytes) : SseBytes :=
  (sseLines stream).getLastD []

namespace SseBounds

variable (bounds : SseBounds) (stream : SseBytes)

/-- The events of a whole stream: those that blank lines complete, and one that the end completes. -/
def reference : List SseEvent :=
  let (events, left) := bounds.read [] (sseLines stream)
  events ++ (left.bind blockEvent?).toList

/-- The events that blank lines of a stream complete, before a bound is exceeded. -/
def completed : List SseEvent :=
  (bounds.read [] (sseLines stream).dropLast).1

/-- The lines that wait for a blank line at the end of a stream. -/
def waiting : Option (List SseBytes) :=
  (bounds.read [] (sseLines stream).dropLast).2

/-- Some bound is exceeded in the stream, be it by the length of the line that it does not terminate. -/
def Exceeds : Prop :=
  bounds.waiting stream = none ∨ bounds.maxLineBytes < (openLine stream).length

/-- The chunk in which a bound is exceeded completes no event before that. -/
def KeepsChunks (chunks : List SseBytes) : Prop :=
  ∀ front chunk back, chunks = front ++ chunk :: back →
    ¬ bounds.Exceeds front.flatten → bounds.Exceeds (front ++ [chunk]).flatten →
      bounds.completed (front ++ [chunk]).flatten = bounds.completed front.flatten

/-- A stream within the bounds does not end with a carriage return that is all of an open line, behind lines
with data. -/
def KeepsEnd : Prop :=
  ¬ bounds.Exceeds stream → openLine stream = [carriageReturn] →
    ∀ left, bounds.waiting stream = some left → dataOf left = []

end SseBounds

end AgentMod
