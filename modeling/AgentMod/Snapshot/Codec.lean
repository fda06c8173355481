import AgentMod.Library.Hex
import AgentMod.Library.Reading
import AgentMod.Primitives.Collections

/-! Versioned, validated, immutable snapshot files: what is written, and what is read back. -/

namespace AgentMod

/-- The first bytes of a snapshot file. -/
def snapshotMagic : List UInt8 := textBytes "AMSNAP01"

/-- The bytes in front of the state. -/
def snapshotHeaderBytes : Nat := 8 + 2 + 4 + 8 + 64 + 64 + 8

/-- The bytes of a checksum in a snapshot. -/
def snapshotChecksumBytes : Nat := 64

/-- The bytes of a hash in a snapshot. -/
def snapshotHashBytes : Nat := 64

/-- The bytes of the buffer that a state is read through. -/
def snapshotBufferBytes : Nat := 64 * 1024

/-- Hard storage bounds for snapshot files. -/
structure DependencySnapshotLimits where
  maxStateBytes : UInt64
  maxFileBytes : UInt64

/-- Dependency request to persist one immutable snapshot. -/
structure DependencyPersistSnapshotRequest where
  sessionDirectory : String
  schemaVersion : UInt16
  reducerVersion : UInt32
  eventSequence : UInt64
  terminalEventChecksum : String
  stateContentHash : String
  stateBytes : List UInt8
  deriving DecidableEq

/-- Validated snapshot metadata. -/
structure DependencySnapshotMetadata where
  snapshotName : String
  schemaVersion : UInt16
  reducerVersion : UInt32
  eventSequence : UInt64
  terminalEventChecksum : String
  stateContentHash : String
  snapshotBytes : Nat
  deriving DecidableEq

/-- Fully loaded bounded snapshot. -/
structure DependencySnapshotRecord where
  metadata : DependencySnapshotMetadata
  stateBytes : List UInt8
  deriving DecidableEq

/-- Snapshot dependency failure. -/
inductive SnapshotDependencyError where
  | invalidLimits
  | invalidMetadata
  | invalidAnchor
  | invalidStateHash
  | snapshotTooLarge
  | sizeOverflow
  | immutableNameConflict
  | unsafeSnapshotName
  | snapshotNotFound
  | corruptSnapshot
  | storage (detail : String)
  deriving DecidableEq

/-- A stored file. The length of a file is a signed word. -/
structure SnapshotFile where
  name : String
  bytes : List UInt8
  fits : bytes.length < 2 ^ 63

/-- Whether a byte is a lowercase hexadecimal digit. -/
def isLowerHexByte (byte : UInt8) : Bool :=
  48 ≤ byte && byte ≤ 57 || 97 ≤ byte && byte ≤ 102

/-- Whether a text is made of so many lowercase hexadecimal digits. -/
def isLowerHex (value : String) (length : Nat) : Bool :=
  (textBytes value).length == length && (textBytes value).all isLowerHexByte

/-- A number in decimal digits, filled up with zeros to 20 of them. -/
def paddedSequence (sequence : UInt64) : String :=
  let digits := (toString sequence.toNat).toList
  .ofList (List.replicate (20 - digits.length) '0' ++ digits)

/-- The immutable name of a snapshot. -/
def snapshotName (sequence : UInt64) (stateHash : String) : String :=
  "snapshot-" ++ paddedSequence sequence ++ "-" ++ stateHash ++ ".bin"

section Codec

variable [Hashing]

/-- Validates a request before anything is written. -/
def validatePersistRequest (request : DependencyPersistSnapshotRequest) (limits : DependencySnapshotLimits) :
    Except SnapshotDependencyError Unit := do
  refuseIf (request.sessionDirectory.isEmpty ∨ request.schemaVersion = 0 ∨ request.reducerVersion = 0 ∨
    request.eventSequence = 0) .invalidMetadata
  refuseIf (¬ isLowerHex request.terminalEventChecksum snapshotChecksumBytes) .invalidAnchor
  refuseIf (¬ isLowerHex request.stateContentHash snapshotHashBytes) .invalidStateHash
  let stateBytes := request.stateBytes.length
  refuseIf (2 ^ 64 ≤ stateBytes) .sizeOverflow
  refuseIf (stateBytes > limits.maxStateBytes.toNat ∨ 2 ^ 64 ≤ stateBytes + snapshotHeaderBytes ∨
    stateBytes + snapshotHeaderBytes > limits.maxFileBytes.toNat) .snapshotTooLarge
  refuseIf ((Hashing.digest request.stateBytes).toHex ≠ request.stateContentHash) .invalidStateHash

/-- The bytes that are written one behind the other. -/
def snapshotFileBytes (request : DependencyPersistSnapshotRequest) : List UInt8 :=
  snapshotMagic ++ (leBytes 2 request.schemaVersion.toNat ++ (leBytes 4 request.reducerVersion.toNat ++
    (leBytes 8 request.eventSequence.toNat ++ (textBytes request.terminalEventChecksum ++
      (textBytes request.stateContentHash ++
        (leBytes 8 request.stateBytes.length ++ request.stateBytes))))))

/-- Writes a snapshot to a new file; a file that would be too long cannot be written. -/
def writeSnapshot (name : String) (request : DependencyPersistSnapshotRequest) :
    Except SnapshotDependencyError SnapshotFile := do
  refuseIf (2 ^ 64 ≤ request.stateBytes.length) .sizeOverflow
  if fits : (snapshotFileBytes request).length < 2 ^ 63 then return ⟨name, snapshotFileBytes request, fits⟩
  else .error (.storage "File too large")

/-- Reads a 16-bit number. -/
def readU16 : Reading SnapshotDependencyError UInt16 := do
  let bytes ← Reading.exact 2 .corruptSnapshot
  return .ofNat (ofLeBytes bytes)

/-- Reads a 32-bit number. -/
def readU32 : Reading SnapshotDependencyError UInt32 := do
  let bytes ← Reading.exact 4 .corruptSnapshot
  return .ofNat (ofLeBytes bytes)

/-- Reads a 64-bit number. -/
def readU64 : Reading SnapshotDependencyError UInt64 := do
  let bytes ← Reading.exact 8 .corruptSnapshot
  return .ofNat (ofLeBytes bytes)

/-- Reads a text of so many bytes. -/
def readAscii (length : Nat) : Reading SnapshotDependencyError String := do
  let bytes ← Reading.exact length .corruptSnapshot
  Reading.ofOutcome (okOr (fromUtf8 bytes) (.error .corruptSnapshot))

/-- Reads the next bytes of a state into the front of the buffer. -/
def readBuffer (count : Nat) : Reading SnapshotDependencyError (List UInt8) := do
  Reading.ofOutcome (AgentMod.refuseIf (count > snapshotBufferBytes) .panic)
  Reading.exact count .corruptSnapshot

/-- Reads a state piece by piece. It returns the hashed bytes and the loaded ones. -/
def readState (loadState : Bool) (remaining : Nat) (hashed stateBytes : List UInt8) :
    Reading SnapshotDependencyError (List UInt8 × List UInt8) :=
  if remaining = 0 then return (hashed, stateBytes)
  else do
    let count := min remaining snapshotBufferBytes
    let piece ← readBuffer count
    Reading.ofOutcome (AgentMod.refuseIf (count > remaining) .panic)
    readState loadState (remaining - count) (hashed ++ piece)
      (if loadState then stateBytes ++ piece else stateBytes)
termination_by remaining
decreasing_by
  rw [snapshotBufferBytes]
  omega

/-- Reads the bytes of a file of a known length. -/
def readSnapshotBytes (name : String) (fileBytes : Nat) (limits : DependencySnapshotLimits) (loadState : Bool) :
    Reading SnapshotDependencyError DependencySnapshotRecord := do
  let magic ← Reading.exact 8 .corruptSnapshot
  Reading.refuseIf (magic ≠ snapshotMagic) .corruptSnapshot
  let schemaVersion ← readU16
  let reducerVersion ← readU32
  let eventSequence ← readU64
  let terminalEventChecksum ← readAscii snapshotChecksumBytes
  let stateContentHash ← readAscii snapshotHashBytes
  let stateLength ← readU64
  Reading.refuseIf (schemaVersion = 0 ∨ reducerVersion = 0 ∨ eventSequence = 0 ∨
    ¬ isLowerHex terminalEventChecksum snapshotChecksumBytes ∨ ¬ isLowerHex stateContentHash snapshotHashBytes ∨
    stateLength > limits.maxStateBytes ∨ 2 ^ 64 ≤ stateLength.toNat + snapshotHeaderBytes ∨
    stateLength.toNat + snapshotHeaderBytes ≠ fileBytes) .corruptSnapshot
  -- A vector whose capacity exceeds a signed word panics.
  Reading.ofOutcome (AgentMod.refuseIf (loadState ∧ 2 ^ 63 ≤ stateLength.toNat) .panic)
  let state ← readState loadState stateLength.toNat [] []
  Reading.refuseIf ((Hashing.digest state.1).toHex ≠ stateContentHash) .invalidStateHash
  Reading.refuseIf (name ≠ snapshotName eventSequence stateContentHash) .corruptSnapshot
  return ⟨⟨name, schemaVersion, reducerVersion, eventSequence, terminalEventChecksum, stateContentHash,
    fileBytes⟩, state.2⟩

/-- Reads a snapshot file. -/
def readSnapshot (file : SnapshotFile) (limits : DependencySnapshotLimits) (loadState : Bool) :
    Fallible SnapshotDependencyError DependencySnapshotRecord := do
  let fileBytes := file.bytes.length
  refuseIf (fileBytes < snapshotHeaderBytes ∨ fileBytes > limits.maxFileBytes.toNat) (.error .snapshotTooLarge)
  let read ← (readSnapshotBytes file.name fileBytes limits loadState).run file.bytes
  return read.1

end Codec

/-- The request of some session that persists a read snapshot with some state. -/
def DependencySnapshotRecord.requestOf (loaded : DependencySnapshotRecord) (sessionDirectory : String)
    (stateBytes : List UInt8) : DependencyPersistSnapshotRequest :=
  ⟨sessionDirectory, loaded.metadata.schemaVersion, loaded.metadata.reducerVersion,
    loaded.metadata.eventSequence, loaded.metadata.terminalEventChecksum, loaded.metadata.stateContentHash,
    stateBytes⟩

end AgentMod
