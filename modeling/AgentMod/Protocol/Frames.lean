import AgentMod.Library.Result
import AgentMod.Primitives.Collections

/-! Bounded wire frames: a length in front of a CBOR body, read from and written to a transport. -/

namespace AgentMod

/-- The bytes that every frame starts with: `AMOD`. -/
def magic : List UInt8 := [65, 77, 79, 68]

/-- `u32::MAX`. -/
def maxBodyLength : Nat := 2 ^ 32 - 1

/-- Semantic kind of a frame. -/
inductive FrameKind where
  | handshake
  | request
  | response
  | streamItem
  | streamEnd
  | cancel
  | windowUpdate
  | heartbeat
  | error
  deriving DecidableEq, Repr

/-- The sixteen bytes of an identifier. -/
abbrev Uuid := Vector UInt8 16

/-- Header of every protocol family. -/
structure FrameHeader where
  family : String
  version : Nat × Nat
  kind : FrameKind
  requestId : Uuid
  streamSequence : Option Nat
  correlationId : Uuid
  causationId : Uuid
  idempotencyId : Uuid
  cancellationId : Option Uuid
  deriving DecidableEq

/-- Typed wire frame. -/
structure WireFrame (τ : Type) where
  header : FrameHeader
  payload : τ
  deriving DecidableEq

/-- Framing failure. -/
inductive ProtocolError where
  | frameTooLarge (actual maximum : Nat)
  | truncatedHeader
  | invalidMagic
  | lengthMismatch (declared actual : Nat)
  | encode (detail : String)
  | decode (detail : String)
  | io (detail : String)
  deriving DecidableEq, Repr

/-- An operation on frames. -/
abbrev Framing (α : Type) := Except ProtocolError α

/-- `ciborium` on frames. -/
class FrameCodec (τ : Type) where
  /-- `into_writer`: the bytes of a frame. -/
  intoWriter : WireFrame τ → Except String (List UInt8)
  /-- `from_reader`: the item at the front of some bytes, and how many bytes it takes. -/
  fromReader : List UInt8 → Except String (WireFrame τ × Nat)

/-- `u32::to_be_bytes`. -/
def lengthBytes (value : Nat) : List UInt8 :=
  [24, 16, 8, 0].map fun shift => (value >>> shift).toUInt8

/-- `u32::from_be_bytes`. -/
def fromBeBytes (bytes : List UInt8) : Nat :=
  bytes.foldl (fun value byte => value * 256 + byte.toNat) 0

section Frames

variable {τ : Type} [FrameCodec τ]

/-- Encodes one frame as its length, behind the magic bytes, followed by its body. -/
def encodeFrame (frame : WireFrame τ) (maximum : Nat) : Framing (List UInt8) := do
  let body ← (FrameCodec.intoWriter frame).mapError .encode
  refuseIf (maximum < body.length) (.frameTooLarge body.length maximum)
  refuseIf (maxBodyLength < body.length) (.frameTooLarge body.length maxBodyLength)
  return magic ++ lengthBytes body.length ++ body

/-- Decodes one complete bounded frame. -/
def decodeFrame (encoded : List UInt8) (maximum : Nat) : Framing (WireFrame τ) := do
  refuseIf (encoded.length < 8) .truncatedHeader
  refuseIf (encoded.take 4 ≠ magic) .invalidMagic
  let declared := fromBeBytes ((encoded.drop 4).take 4)
  refuseIf (maximum < declared) (.frameTooLarge declared maximum)
  let actual := encoded.length - 8
  refuseIf (actual ≠ declared) (.lengthMismatch declared actual)
  let (frame, _) ← (FrameCodec.fromReader (encoded.drop 8)).mapError .decode
  return frame

end Frames

/-- What a transport still delivers: pieces of at least one byte, and then the end of the stream. -/
structure Transport where
  chunks : List (List UInt8)
  nonempty : ∀ chunk ∈ chunks, chunk ≠ []

/-- The bytes that a transport delivers. -/
def Transport.bytes (transport : Transport) : List UInt8 := transport.chunks.flatten

/-- The end of the stream in the middle of a read. -/
def earlyEof : ProtocolError := .io "early eof"

/-- `read_exact`: fills a buffer from one piece after another; the rest of a piece is kept. -/
def readChunks : Nat → List (List UInt8) → Framing (List UInt8 × List (List UInt8))
  | 0, chunks => .ok ([], chunks)
  | _ + 1, [] => .error earlyEof
  | count + 1, chunk :: rest =>
    if chunk.length ≤ count + 1 then do
      let (bytes, left) ← readChunks (count + 1 - chunk.length) rest
      return (chunk ++ bytes, left)
    else .ok (chunk.take (count + 1), chunk.drop (count + 1) :: rest)

theorem nonempty_of_readChunks {count : Nat} {chunks left : List (List UInt8)} {bytes : List UInt8}
    (nonempty : ∀ chunk ∈ chunks, chunk ≠ []) (reads : readChunks count chunks = .ok (bytes, left)) :
    ∀ chunk ∈ left, chunk ≠ [] := by
  induction chunks generalizing count bytes left with
  | nil =>
    cases count with
    | zero => cases reads; exact nonempty
    | succ count => cases reads
  | cons chunk rest ih =>
    cases count with
    | zero => cases reads; exact nonempty
    | succ count =>
      rw [List.forall_mem_cons] at nonempty
      rw [readChunks] at reads
      split at reads
      · obtain ⟨⟨_, _⟩, before, same⟩ := bind_eq_ok.mp reads
        cases same
        exact ih nonempty.2 before
      · next longer =>
        cases reads
        rw [List.forall_mem_cons]
        refine ⟨fun empty => ?_, nonempty.2⟩
        rw [List.drop_eq_nil_iff] at empty
        exact longer empty

/-- Reads exactly the given number of bytes from a transport. -/
def Transport.readExact (transport : Transport) (count : Nat) : Framing (List UInt8 × Transport) :=
  match reads : readChunks count transport.chunks with
  | .ok (bytes, left) => .ok (bytes, ⟨left, nonempty_of_readChunks transport.nonempty reads⟩)
  | .error error => .error error

section Streams

variable {τ : Type} [FrameCodec τ]

/-- Reads exactly one bounded frame from a transport. -/
def readFrame (transport : Transport) (maximum : Nat) : Framing (WireFrame τ × Transport) := do
  let (header, transport) ← transport.readExact 8
  refuseIf (header.take 4 ≠ magic) .invalidMagic
  let declared := fromBeBytes ((header.drop 4).take 4)
  refuseIf (maximum < declared) (.frameTooLarge declared maximum)
  let (body, transport) ← transport.readExact declared
  let frame ← decodeFrame (header ++ body) maximum
  return (frame, transport)

/-- Writes one bounded frame behind what has been written. -/
def writeFrame (maximum : Nat) (written : List UInt8) (frame : WireFrame τ) :
    Framing (List UInt8) := do
  let encoded ← encodeFrame frame maximum
  return written ++ encoded

/-- Writes frames one behind the other. -/
def writeFrames (frames : List (WireFrame τ)) (maximum : Nat) : Framing (List UInt8) :=
  frames.foldlM (writeFrame maximum) []

/-- Reads frames up to the first failure, at most as many as the fuel allows. -/
def readFrames (maximum : Nat) : Nat → Transport → List (WireFrame τ) × Option ProtocolError
  | 0, _ => ([], none)
  | fuel + 1, transport =>
    match readFrame transport maximum with
    | .error error => ([], some error)
    | .ok (frame, rest) =>
      let (frames, failure) := readFrames maximum fuel rest
      (frame :: frames, failure)

/-- Reads all frames that a transport delivers; every frame takes at least one byte. -/
def readAll (transport : Transport) (maximum : Nat) : List (WireFrame τ) × Option ProtocolError :=
  readFrames maximum (transport.bytes.length + 1) transport

end Streams

/-- What the codec is assumed to do: it decodes what it encoded, from the front of a slice. -/
def ReadsFront (τ : Type) [FrameCodec τ] : Prop :=
  ∀ (frame : WireFrame τ) (body rest : List UInt8), FrameCodec.intoWriter frame = .ok body →
    FrameCodec.fromReader (body ++ rest) = .ok (frame, body.length)

/-- The bytes hold one encoded value and nothing else. -/
def IsOneValue (τ : Type) [FrameCodec τ] (body : List UInt8) : Prop :=
  ∃ frame : WireFrame τ, FrameCodec.fromReader body = .ok (frame, body.length)

/-- Behind a well-formed header, the bytes hold an encoded value and then something else. -/
def HoldsMoreThanOneValue (τ : Type) [FrameCodec τ] (encoded : List UInt8) (maximum : Nat) : Prop :=
  ∃ body, encoded = magic ++ lengthBytes body.length ++ body ∧ body.length ≤ maximum ∧
    body.length ≤ maxBodyLength ∧ ∃ (frame : WireFrame τ) (consumed : Nat),
      FrameCodec.fromReader body = .ok (frame, consumed) ∧ consumed ≠ body.length

end AgentMod
