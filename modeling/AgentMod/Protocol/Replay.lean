import AgentMod.Graph.Sample
import AgentMod.Library.Files
import AgentMod.Library.Run
import AgentMod.Library.Segments
import AgentMod.Library.Sorting
import AgentMod.Protocol.Authorization
import AgentMod.Protocol.Frames

/-! The single use of grants: the hosts of processes and of the web record the nonces of accepted grants in snapshots. -/

namespace AgentMod

/-- The nonces of accepted grants with their expiries, and how often they were persisted. -/
structure ReplaySnapshot where
  generation : Nat
  nonces : StringMap Int64

/-- The snapshot of a host that has accepted nothing. -/
def ReplaySnapshot.new : ReplaySnapshot := ⟨0, ∅⟩

/-- A snapshot of the web host, with the checksum of its text. -/
structure ReplayEnvelope where
  payload : ReplaySnapshot
  checksum : String

/-- Failures of either host that have to do with grants. -/
inductive GrantHostError where
  | authorizationDenied
  | authorizationReplay
  | resourceLimit
  | replayState
  | io
  deriving DecidableEq, Repr

/-- `serde_json` on snapshots. -/
class ReplaySerde where
  /-- `to_vec` of a snapshot. -/
  snapshotToVec : ReplaySnapshot → Except String (List UInt8)
  /-- `from_slice` to a snapshot. -/
  snapshotFromSlice : List UInt8 → Except String ReplaySnapshot
  /-- `to_vec` of an envelope. -/
  envelopeToVec : ReplayEnvelope → Except String (List UInt8)
  /-- `from_slice` to an envelope. -/
  envelopeFromSlice : List UInt8 → Except String ReplayEnvelope

/-- What comes with a request that consumes a grant. -/
structure DependencyAuthorization where
  ownerId : String
  sessionId : String
  callId : String
  action : String
  normalizedDigest : String
  grant : String
  cancellationId : String
  canonicalOperation : List UInt8

/-- A call of `authorize`: what the host expects of it, and the clock. -/
structure GrantRequest where
  authorization : DependencyAuthorization
  expectedAction : String
  canonicalOperation : List UInt8
  now : Int64

/-- What a host is configured with for grants. -/
structure GrantHostConfig where
  ownerId : String
  sessionId : String
  authorizationKey : AuthorizationKey
  maxReplayEntries : Nat

/-- An operation on the directory of snapshots. -/
abbrev Replaying := Filing Unit GrantHostError

/-- A host that records nonces: how it writes and reads its snapshots, and what it checks in front of that. -/
structure ReplayHost where
  config : GrantHostConfig
  encode : ReplaySnapshot → Except GrantHostError (List UInt8)
  decode : List UInt8 → Except GrantHostError (Option ReplaySnapshot)
  verify : GrantRequest → Except GrantHostError AuthorizationClaims

/-- A number in at least twenty digits. -/
def twentyDigits (value : Nat) : List Char :=
  List.replicate (20 - (Nat.toDigits 10 value).length) '0' ++ Nat.toDigits 10 value

/-- The file of a snapshot. -/
def replayFile (generation : Nat) : String :=
  "replay-" ++ String.ofList (twentyDigits generation) ++ "." ++ "json"

/-- The key under which the nonce of a grant is recorded. -/
def AuthorizationClaims.nonceKey (claims : AuthorizationClaims) : String :=
  claims.owner ++ ":" ++ claims.session ++ ":" ++ claims.nonce

/-- The nonces that have not expired. -/
def ReplaySnapshot.unexpired (snapshot : ReplaySnapshot) (now : Int64) : StringMap Int64 :=
  snapshot.nonces.filter fun _ expiry => decide (expiry ≥ now)

/-- The order of the files by the generations of their snapshots. -/
def compareGenerations (left right : String × ReplaySnapshot) : Ordering :=
  compare left.2.generation right.2.generation

namespace ReplayHost

variable (host : ReplayHost)

/-- Reads the snapshots of a directory. -/
def readSnapshots (directory : Directory) : Except GrantHostError (List (String × ReplaySnapshot)) := do
  let files ← (directory.listing "json").mapM fun name => do
    let bytes ← okOr directory[name]? .io
    let snapshot ← host.decode bytes
    return snapshot.map (name, ·)
  return files.filterMap id

/-- Removes files of a directory, as far as that succeeds. -/
def removeFiles (names : List String) : Replaying Unit := forM names fun name => .perform (.remove () name)

/-- `load_replay_state`; only removable files can be removed. -/
def loadReplayState (removable : String → Bool) : Replaying ReplaySnapshot := do
  let disk ← .read
  let snapshots ← .ofExcept (host.readSnapshots (disk ()))
  let sorted := sortBy compareGenerations snapshots
  let snapshot := (sorted.getLast?.map Prod.snd).getD .new
  let old := sorted.filter fun candidate => decide (candidate.2.generation ≠ snapshot.generation)
  removeFiles ((old.map Prod.fst).filter removable)
  return snapshot

/-- `persist_replay_snapshot` and `persist_replay_state`; only removable files can be removed. -/
def persistReplaySnapshot (removable : String → Bool) (snapshot : ReplaySnapshot) : Replaying Unit := do
  let bytes ← .ofExcept (host.encode snapshot)
  let path := replayFile snapshot.generation
  let disk ← .read
  .ofExcept (refuseIf ((disk ()).contains path) .io)
  .perform (.save () path bytes)
  let disk ← .read
  removeFiles (((disk ()).listing "json").filter fun old => decide (old ≠ path) && removable old)

/-- The snapshot in which the nonce of verified claims is recorded. -/
def nextSnapshot (now : Int64) (claims : AuthorizationClaims) (replay : ReplaySnapshot) :
    Except GrantHostError ReplaySnapshot := do
  let nonces := replay.unexpired now
  refuseIf (nonces.contains claims.nonceKey) .authorizationReplay
  refuseIf (nonces.size ≥ host.config.maxReplayEntries) .resourceLimit
  -- `u64::checked_add` on the generation.
  refuseIf (replay.generation ≥ 2 ^ 64 - 1) .resourceLimit
  return ⟨replay.generation + 1, nonces.insert claims.nonceKey claims.expiresAt⟩

/-- `authorize`, with the snapshot that the host goes on with. -/
def authorize (removable : String → Bool) (request : GrantRequest) (replay : ReplaySnapshot) :
    Replaying (AuthorizationClaims × ReplaySnapshot) := do
  let claims ← .ofExcept (host.verify request)
  let next ← .ofExcept (host.nextSnapshot request.now claims replay)
  host.persistReplaySnapshot removable next
  return (claims, next)

end ReplayHost

section Hosts

variable [ReplaySerde] [AuthorizationSerde] [KeyedHashing] [Hashing]

/-- What a verified grant must be bound to. -/
def GrantRequest.expected (request : GrantRequest) : ExpectedAuthorization :=
  ⟨request.authorization.ownerId, request.authorization.sessionId, request.authorization.callId,
    request.authorization.action, Hashing.digest request.canonicalOperation⟩

/-- `validate_authorization_shape` of the process host. -/
def validateAuthorizationShape (authorization : DependencyAuthorization) : Except GrantHostError Unit :=
  refuseIf (authorization.ownerId.isEmpty ∨ authorization.sessionId.isEmpty ∨ authorization.callId.isEmpty ∨
    authorization.action.isEmpty ∨ authorization.normalizedDigest.utf8ByteSize ≠ 64 ∨
    authorization.grant.utf8ByteSize > 4096 ∨ authorization.cancellationId.isEmpty ∨
    authorization.canonicalOperation.length > 1024 * 1024) .authorizationDenied

/-- What either host expects of the identity and of the action. -/
def GrantHostConfig.matchIdentity (config : GrantHostConfig) (request : GrantRequest) :
    Except GrantHostError Unit :=
  refuseIf (request.authorization.ownerId ≠ config.ownerId ∨ request.authorization.sessionId ≠ config.sessionId ∨
    request.authorization.action ≠ request.expectedAction) .authorizationDenied

/-- Verifies the grant of a request. -/
def GrantHostConfig.verifyGrant (config : GrantHostConfig) (request : GrantRequest) :
    Except GrantHostError AuthorizationClaims :=
  (verifyAuthorization request.authorization.grant config.authorizationKey request.expected request.now).mapError
    fun _ => .authorizationDenied

/-- What the process host checks in front of the nonce. -/
def GrantHostConfig.verifyProcess (config : GrantHostConfig) (request : GrantRequest) :
    Except GrantHostError AuthorizationClaims := do
  validateAuthorizationShape request.authorization
  config.matchIdentity request
  refuseIf (¬ constantTimeEqual (textBytes (Hashing.digest request.canonicalOperation).toHex)
    (textBytes request.authorization.normalizedDigest)) .authorizationDenied
  config.verifyGrant request

/-- What the web host checks in front of the nonce. -/
def GrantHostConfig.verifyWeb (config : GrantHostConfig) (request : GrantRequest) :
    Except GrantHostError AuthorizationClaims := do
  config.matchIdentity request
  refuseIf ((Hashing.digest request.canonicalOperation).toHex ≠ request.authorization.normalizedDigest)
    .authorizationDenied
  config.verifyGrant request

/-- The process host: it writes plain snapshots, and passes over files that hold none. -/
def processHost (config : GrantHostConfig) : ReplayHost where
  config
  encode snapshot := (ReplaySerde.snapshotToVec snapshot).mapError fun _ => .authorizationDenied
  decode bytes := .ok (ReplaySerde.snapshotFromSlice bytes).toOption
  verify := config.verifyProcess

/-- The envelope in which the web host writes a snapshot. -/
def encodeEnvelope (payload : ReplaySnapshot) : Except GrantHostError (List UInt8) := do
  let payloadBytes ← (ReplaySerde.snapshotToVec payload).mapError fun _ => .replayState
  (ReplaySerde.envelopeToVec ⟨payload, (Hashing.digest payloadBytes).toHex⟩).mapError fun _ => .replayState

/-- The snapshot of an envelope whose checksum is right. -/
def decodeEnvelope (bytes : List UInt8) : Except GrantHostError (Option ReplaySnapshot) := do
  let envelope ← (ReplaySerde.envelopeFromSlice bytes).mapError fun _ => .replayState
  let payloadBytes ← (ReplaySerde.snapshotToVec envelope.payload).mapError fun _ => .replayState
  refuseIf ((Hashing.digest payloadBytes).toHex ≠ envelope.checksum) .replayState
  return some envelope.payload

/-- The web host: it writes snapshots with checksums, and refuses files that hold none. -/
def webHost (config : GrantHostConfig) : ReplayHost where
  config
  encode := encodeEnvelope
  decode := decodeEnvelope
  verify := config.verifyWeb

end Hosts

/-- A host between two calls: its disk, what it holds in memory while it runs, the clock, and what it has accepted. -/
structure GrantState where
  disk : Disk Unit
  replay : Option ReplaySnapshot
  now : Int64
  accepted : List (String × AuthorizationClaims)

/-- A host that was never started. -/
def GrantState.fresh (now : Int64) : GrantState := ⟨fun _ => ∅, none, now, []⟩

/-- What happens to a host. -/
inductive GrantAction where
  | start (removable : String → Bool)
  | stop
  | authorize (removable : String → Bool) (request : GrantRequest)
  | crash (removable : String → Bool) (request : GrantRequest) (left : Disk Unit)

/-- One step of a host, as time goes on. -/
inductive ReplayHost.Steps (host : ReplayHost) (state : GrantState) : GrantAction → GrantState → Prop where
  | started {removable : String → Bool} {replay : ReplaySnapshot} {disk : Disk Unit} (down : state.replay = none)
      (loads : (host.loadReplayState removable).run state.disk = (.ok replay, disk)) :
      Steps host state (.start removable) { state with disk, replay := some replay }
  | unstarted {removable : String → Bool} {error : GrantHostError} {disk : Disk Unit} (down : state.replay = none)
      (fails : (host.loadReplayState removable).run state.disk = (.error error, disk)) :
      Steps host state (.start removable) { state with disk }
  | stopped : Steps host state .stop { state with replay := none }
  | accepted {removable : String → Bool} {request : GrantRequest} {replay next : ReplaySnapshot} {disk : Disk Unit}
      {claims : AuthorizationClaims} (up : state.replay = some replay) (later : state.now ≤ request.now)
      (runs : (host.authorize removable request replay).run state.disk = (.ok (claims, next), disk)) :
      Steps host state (.authorize removable request)
        ⟨disk, some next, request.now, state.accepted ++ [(request.authorization.grant, claims)]⟩
  | refused {removable : String → Bool} {request : GrantRequest} {replay : ReplaySnapshot} {disk : Disk Unit}
      {error : GrantHostError} (up : state.replay = some replay) (later : state.now ≤ request.now)
      (fails : (host.authorize removable request replay).run state.disk = (.error error, disk)) :
      Steps host state (.authorize removable request) { state with disk, now := request.now }
  | crashed {removable : String → Bool} {request : GrantRequest} {replay : ReplaySnapshot} {left : Disk Unit}
      (up : state.replay = some replay) (later : state.now ≤ request.now)
      (crashes : (host.authorize removable request replay).Crashes state.disk left) :
      Steps host state (.crash removable request left) { state with disk := left, replay := none, now := request.now }

/-- Every file of a snapshot holds a whole one. -/
def ReplayHost.Intact (host : ReplayHost) (disk : Disk Unit) : Prop :=
  ∀ name bytes, (disk ())[name]? = some bytes → extension name = some "json" →
    ∃ snapshot, host.encode snapshot = .ok bytes

/-- A crash in the middle of a call leaves no torn snapshot. -/
def ReplayHost.LeavesIntact (host : ReplayHost) : GrantAction → Prop
  | .crash _ _ left => host.Intact left
  | _ => True

/-- A step that leaves no torn snapshot. -/
def ReplayHost.StepsIntact (host : ReplayHost) (state : GrantState) (action : GrantAction) (next : GrantState) : Prop :=
  host.Steps state action next ∧ host.LeavesIntact action

/-- What the hosts rely on: snapshots and envelopes print, a printed one is read back, and no proper beginning of it is
read as one. -/
structure LawfulReplays [ReplaySerde] : Prop where
  prints : ∀ snapshot, ∃ bytes, ReplaySerde.snapshotToVec snapshot = .ok bytes
  reads : ∀ snapshot bytes, ReplaySerde.snapshotToVec snapshot = .ok bytes →
    ReplaySerde.snapshotFromSlice bytes = .ok snapshot
  torn : ∀ snapshot bytes part, ReplaySerde.snapshotToVec snapshot = .ok bytes → part <+: bytes → part ≠ bytes →
    ∃ detail, ReplaySerde.snapshotFromSlice part = .error detail
  printsEnvelope : ∀ envelope, ∃ bytes, ReplaySerde.envelopeToVec envelope = .ok bytes
  readsEnvelope : ∀ envelope bytes, ReplaySerde.envelopeToVec envelope = .ok bytes →
    ReplaySerde.envelopeFromSlice bytes = .ok envelope
  tornEnvelope : ∀ envelope bytes part, ReplaySerde.envelopeToVec envelope = .ok bytes → part <+: bytes →
    part ≠ bytes → ∃ detail, ReplaySerde.envelopeFromSlice part = .error detail

/-- A verified grant whose nonce is not recorded, with room for it in a snapshot. -/
structure ReplayHost.Admissible (host : ReplayHost) (replay : ReplaySnapshot) (request : GrantRequest)
    (claims : AuthorizationClaims) : Prop where
  verified : host.verify request = .ok claims
  fresh : (replay.unexpired request.now)[claims.nonceKey]? = none
  room : (replay.unexpired request.now).size < host.config.maxReplayEntries
  countable : replay.generation < 2 ^ 64 - 1

/-- No grant is accepted twice; and where no crash leaves a torn snapshot, the host can be started again, and accepts
every grant that it can admit. -/
structure ReplayHost.ProtectsGrants (host : ReplayHost) (start : Int64) : Prop where
  once : ∀ actions finish, Run host.Steps (.fresh start) actions finish →
    (finish.accepted.map Prod.fst).Nodup ∧ (finish.accepted.map Prod.snd).Nodup
  restarts : ∀ actions finish, Run host.StepsIntact (.fresh start) actions finish → ∀ removable, ∃ replay disk,
    (host.loadReplayState removable).run finish.disk = (.ok replay, disk)
  admits : ∀ actions finish replay, Run host.StepsIntact (.fresh start) actions finish → finish.replay = some replay →
    ∀ removable request claims, host.Admissible replay request claims → ∃ next disk,
      (host.authorize removable request replay).run finish.disk = (.ok (claims, next), disk)

section Sample

/-- Claims of the sample, issued and expiring at the given times. -/
def sampleClaims (issuedAt expiresAt : Int64) : AuthorizationClaims where
  owner := "local-user"
  session := "session-1"
  callId := "call-1"
  action := "filesystem.write"
  normalizedDigest := ⟨.replicate 32 0⟩
  issuedAt
  expiresAt
  nonce := "nonce-1"

/-- Claims that live for a second. -/
def briefClaims : AuthorizationClaims := sampleClaims 1000 2000

/-- Claims whose lifetime does not fit into 64 bits. -/
def endlessClaims : AuthorizationClaims := sampleClaims Int64.minValue Int64.maxValue

/-- A serializer for the two claims of the sample. -/
abbrev briefAuthorization : AuthorizationSerde where
  claimsToVec claims :=
    if claims = briefClaims then .ok [0] else if claims = endlessClaims then .ok [1]
    else .error "unknown claims"
  claimsFromSlice bytes :=
    if bytes = [0] then .ok briefClaims else if bytes = [1] then .ok endlessClaims
    else .error "unknown bytes"

/-- A keyed hash that repeats what the key and the payload begin with. -/
abbrev prefixKeyedHash : KeyedHashing where
  keyedHash key payload := ⟨.ofFn fun index => key.toList.getD index 0 + payload.getD index 0⟩

/-- The key of the sample. -/
def sampleKey : AuthorizationKey := .replicate 32 7

/-- The request that the sample's claims bind. -/
def sampleExpected : ExpectedAuthorization :=
  ⟨"local-user", "session-1", "call-1", "filesystem.write", ⟨.replicate 32 0⟩⟩

/-- The header of the sample's frames. -/
def sampleHeader : FrameHeader where
  family := "runtime"
  version := (1, 0)
  kind := .heartbeat
  requestId := .replicate 16 1
  streamSequence := none
  correlationId := .replicate 16 2
  causationId := .replicate 16 3
  idempotencyId := .replicate 16 4
  cancellationId := none

/-- A codec for frames with the sample's header, which writes the payload only. -/
abbrev byteCodec : FrameCodec UInt8 where
  intoWriter frame := if frame.header = sampleHeader then .ok [frame.payload] else .error "header"
  fromReader
    | [] => .error "end of input"
    | byte :: _ => .ok (⟨sampleHeader, byte⟩, 1)

/-- The bytes of two frames of the sample. -/
def twoFrames : List UInt8 := magic ++ [0, 0, 0, 1, 7] ++ magic ++ [0, 0, 0, 1, 8]

/-- A transport that delivers the first bytes of the two frames in pieces. -/
def sampleTransport (count : Nat) : Transport where
  chunks := [twoFrames.take 3, (twoFrames.drop 3).take 1, (twoFrames.drop 4).take (count + 1)]
  nonempty := by
    intro chunk member
    simp only [List.mem_cons, List.not_mem_nil, or_false] at member
    rcases member with rfl | rfl | rfl
    · decide
    · decide
    · simp [twoFrames, magic]

/-- A frame whose body goes on behind its value. -/
def overlongFrame : List UInt8 := magic ++ [0, 0, 0, 2, 7, 9]

/-- The nonces of a snapshot as byte strings. -/
def nonceSegments (entries : List (String × Int64)) : List (List UInt8) :=
  entries.flatMap fun entry => [textSegment entry.1, instantSegment (some entry.2)]

/-- The nonces of some byte strings. -/
def parseNonces : List (List UInt8) → List (String × Int64)
  | key :: expiry :: rest => (parseText key, (parseInstant expiry).getD 0) :: parseNonces rest
  | _ => []

theorem parseNonces_nonceSegments (entries : List (String × Int64)) :
    parseNonces (nonceSegments entries) = entries := by
  rw [nonceSegments]
  induction entries with
  | nil => rfl
  | cons entry rest ih =>
    rw [List.flatMap_cons, List.cons_append, List.cons_append, List.nil_append, parseNonces, ih]
    simp

theorem ofList_toList (nonces : StringMap Int64) : Std.ExtTreeMap.ofList nonces.toList = nonces := by
  refine Std.ExtTreeMap.ext_getElem? fun key => Option.ext fun value => ?_
  have distinct : (nonces.toList.map Prod.fst).Nodup := by
    rw [Std.ExtTreeMap.map_fst_toList_eq_keys]
    exact StringMap.nodup_keys
  rw [StringMap.getElem?_ofList distinct, Std.ExtTreeMap.mem_toList_iff_getElem?_eq_some]

/-- How the sample writes snapshots. -/
def snapshotCodec : SegmentCodec ReplaySnapshot where
  count := 3
  segments snapshot :=
    let nonces := nonceSegments snapshot.nonces.toList
    [countSegment snapshot.generation, countSegment nonces.length, encodeSegments nonces]
  parse
    | [generation, count, nonces] => (decodeSegments count.length nonces).map fun parts =>
      ⟨generation.length, Std.ExtTreeMap.ofList (parseNonces parts.1)⟩
    | _ => none
  length _ := rfl
  parses snapshot := by
    have decodes := decodeSegments_encodeSegments (nonceSegments snapshot.nonces.toList) []
    rw [List.append_nil] at decodes
    simp only [countSegment, List.length_replicate, decodes, Option.map_some, parseNonces_nonceSegments,
      ofList_toList]

/-- How the sample writes envelopes. -/
def envelopeCodec : SegmentCodec ReplayEnvelope where
  count := 2
  segments envelope := [encodeSegments (snapshotCodec.segments envelope.payload), textSegment envelope.checksum]
  parse
    | [payload, checksum] => (decodeSegments snapshotCodec.count payload).bind fun parts =>
      (snapshotCodec.parse parts.1).map fun snapshot => ⟨snapshot, parseText checksum⟩
    | _ => none
  length _ := rfl
  parses envelope := by
    have decodes := decodeSegments_encodeSegments (snapshotCodec.segments envelope.payload) []
    rw [List.append_nil, snapshotCodec.length] at decodes
    simp only [decodes, Option.bind_some, snapshotCodec.parses, Option.map_some, parseText_textSegment]

/-- A serializer for snapshots and envelopes. -/
abbrev segmentedReplays : ReplaySerde where
  snapshotToVec := snapshotCodec.toVec
  snapshotFromSlice := snapshotCodec.fromSlice
  envelopeToVec := envelopeCodec.toVec
  envelopeFromSlice := envelopeCodec.fromSlice

/-- The hosts of the sample. -/
def sampleGrantHost : GrantHostConfig := ⟨"local-user", "session-1", sampleKey, 4⟩

end Sample

end AgentMod
