import AgentMod.Library.Hex
import AgentMod.Library.Result
import AgentMod.Primitives.Collections
import AgentMod.Primitives.Text

/-! Short-lived keyed authorization grants for consequential protocol requests. -/

namespace AgentMod

/-- The version in front of a token. -/
def tokenVersion : String := "v1"

/-- The longest payload of a grant. -/
def maxPayloadBytes : Nat := 4096

/-- The longest text of a claim. -/
def maxClaimTextBytes : Nat := 512

/-- The longest lifetime of a grant: five minutes. -/
def maxLifetimeMillis : Int64 := 5 * 60 * 1000

/-- How far the clocks of two parties may differ: thirty seconds. -/
def clockSkewMillis : Int64 := 30 * 1000

/-- Claims that bind one action to one owner, session and call. -/
structure AuthorizationClaims where
  owner : String
  session : String
  callId : String
  action : String
  normalizedDigest : ContentHash
  issuedAt : Int64
  expiresAt : Int64
  nonce : String
  deriving DecidableEq

/-- The request that a grant is compared with. -/
structure ExpectedAuthorization where
  owner : String
  session : String
  callId : String
  action : String
  normalizedDigest : ContentHash
  deriving DecidableEq

/-- The secret key of runtime and host. -/
abbrev AuthorizationKey := Vector UInt8 32

/-- Grant creation or verification failure. -/
inductive AuthorizationError where
  | invalidKey
  | invalidClaims
  | invalidLifetime
  | payloadTooLarge
  | encoding (detail : String)
  | invalidToken
  | invalidMac
  | expired
  | notYetValid
  | bindingMismatch
  deriving DecidableEq, Repr

/-- An operation on grants. -/
abbrev Authorizing (α : Type) := Except AuthorizationError α

/-- The keyed hash function that grants are authenticated with. -/
class KeyedHashing where
  /-- `blake3::keyed_hash`. -/
  keyedHash : AuthorizationKey → List UInt8 → ContentHash

/-- `serde_json` on claims. -/
class AuthorizationSerde where
  /-- `to_vec` of claims. -/
  claimsToVec : AuthorizationClaims → Except String (List UInt8)
  /-- `from_slice` to claims. -/
  claimsFromSlice : List UInt8 → Except String AuthorizationClaims

/-- The texts among the claims. -/
def AuthorizationClaims.texts (claims : AuthorizationClaims) : List String :=
  [claims.owner, claims.session, claims.callId, claims.action, claims.nonce]

/-- Whether a claim may carry the text. -/
def isClaimText (text : String) : Bool :=
  !text.isEmpty && text.utf8ByteSize ≤ maxClaimTextBytes && !text.toList.any isControl

/-- Validates the texts and the lifetime of claims; the subtraction wraps in release builds. -/
def validateClaims (claims : AuthorizationClaims) : Authorizing Unit := do
  forM claims.texts fun text => refuseIf (¬ isClaimText text) .invalidClaims
  refuseIf (claims.expiresAt ≤ claims.issuedAt ∨
    maxLifetimeMillis < claims.expiresAt - claims.issuedAt) .invalidLifetime

/-- `i64::saturating_add`. -/
def saturatingAdd (left right : Int64) : Int64 := .ofIntClamp (left.toInt + right.toInt)

/-- Validates the time of a request against the claims. -/
def validateTime (claims : AuthorizationClaims) (now : Int64) : Authorizing Unit := do
  refuseIf (claims.expiresAt < now) .expired
  refuseIf (saturatingAdd now clockSkewMillis < claims.issuedAt) .notYetValid

/-- The bytes whose hexadecimal digits the text holds, at most as many as allowed. -/
def decodeHex (value : String) (maximumBytes : Nat) : Option (List UInt8) :=
  let length := (textBytes value).length
  if length % 2 ≠ 0 ∨ maximumBytes < length / 2 then none else decodePairs (textBytes value)

/-- Decodes the hexadecimal digits of a key. -/
def AuthorizationKey.fromHex (value : String) : Authorizing AuthorizationKey := do
  let bytes ← okOr (decodeHex value 32) .invalidKey
  if exact : bytes.toArray.size = 32 then .ok ⟨bytes.toArray, exact⟩ else .error .invalidKey

/-- Compares all bytes, whether or not an earlier one differs. -/
def constantTimeEqual (left right : List UInt8) : Bool :=
  left.length == right.length &&
    (left.zip right).foldl (fun difference pair => difference ||| (pair.1 ^^^ pair.2)) 0 == 0

/-- The segments of a token. -/
def tokenSegments (token : String) : List String :=
  (token.toList.splitOn '.').map .ofList

section Grants

variable [AuthorizationSerde] [KeyedHashing]

/-- Creates a portable keyed grant. -/
def sealAuthorization (claims : AuthorizationClaims) (key : AuthorizationKey) :
    Authorizing String := do
  validateClaims claims
  let payload ← (AuthorizationSerde.claimsToVec claims).mapError .encoding
  refuseIf (maxPayloadBytes < payload.length) .payloadTooLarge
  let mac := KeyedHashing.keyedHash key payload
  return tokenVersion ++ "." ++ encodeHex payload ++ "." ++ mac.toHex

/-- Verifies the authenticity, the bounds, the time and the binding of a grant. -/
def verifyAuthorization (token : String) (key : AuthorizationKey)
    (expected : ExpectedAuthorization) (now : Int64) : Authorizing AuthorizationClaims := do
  refuseIf (maxPayloadBytes * 2 + 80 < (textBytes token).length) .payloadTooLarge
  let segments := tokenSegments token
  refuseIf (segments[0]? ≠ some tokenVersion) .invalidToken
  let payloadHex ← okOr segments[1]? .invalidToken
  let macHex ← okOr segments[2]? .invalidToken
  refuseIf segments[3]?.isSome .invalidToken
  let payload ← okOr (decodeHex payloadHex maxPayloadBytes) .invalidToken
  let suppliedMac ← okOr (decodeHex macHex 32) .invalidToken
  refuseIf (suppliedMac.length ≠ 32) .invalidToken
  let expectedMac := KeyedHashing.keyedHash key payload
  refuseIf (¬ constantTimeEqual expectedMac.bytes.toList suppliedMac) .invalidMac
  let claims ← (AuthorizationSerde.claimsFromSlice payload).mapError fun _ => .invalidToken
  validateClaims claims
  validateTime claims now
  refuseIf (claims.owner ≠ expected.owner ∨ claims.session ≠ expected.session ∨
    claims.callId ≠ expected.callId ∨ claims.action ≠ expected.action ∨
    claims.normalizedDigest ≠ expected.normalizedDigest) .bindingMismatch
  return claims

end Grants

/-- The five bound fields of the claims are the expected ones. -/
def AuthorizationClaims.Binds (claims : AuthorizationClaims) (expected : ExpectedAuthorization) :
    Prop :=
  expected = ⟨claims.owner, claims.session, claims.callId, claims.action, claims.normalizedDigest⟩

/-- The milliseconds between issue and expiry, as an integer of any size. -/
def AuthorizationClaims.lifetime (claims : AuthorizationClaims) : Int :=
  claims.expiresAt.toInt - claims.issuedAt.toInt

/-- The time of a request lies between issue, up to the clock skew, and expiry. -/
def AuthorizationClaims.Covers (claims : AuthorizationClaims) (now : Int64) : Prop :=
  claims.issuedAt.toInt - 30000 ≤ now.toInt ∧ now.toInt ≤ claims.expiresAt.toInt

/-- The claims are valid for at most five minutes. -/
def AuthorizationClaims.ShortLived (claims : AuthorizationClaims) : Prop :=
  0 < claims.lifetime ∧ claims.lifetime ≤ 300000

/-- Whether printed claims parse back to themselves. -/
def ReadsClaims [AuthorizationSerde] : Prop :=
  ∀ claims bytes, AuthorizationSerde.claimsToVec claims = .ok bytes →
    AuthorizationSerde.claimsFromSlice bytes = .ok claims

end AgentMod
