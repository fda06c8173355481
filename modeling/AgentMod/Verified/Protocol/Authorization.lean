import AgentMod.Verified.Primitives.Collections
import AgentMod.Protocol.Replay

/-! What a verified grant permits, and for how long. -/

namespace AgentMod

theorem ContentHash.toHex_eq (hash : ContentHash) : hash.toHex = encodeHex hash.bytes.toList := rfl

theorem textBytes_append (first second : String) :
    textBytes (first ++ second) = textBytes first ++ textBytes second := by
  simp [textBytes, utf8Bytes, String.toList_append]

theorem decodeHex_encodeHex {bytes : List UInt8} {maximum : Nat} (fits : bytes.length ≤ maximum) :
    decodeHex (encodeHex bytes) maximum = some bytes := by
  rw [decodeHex, length_textBytes_encodeHex, if_neg (by omega), decodePairs_encodeHex]

theorem collected_eq_zero {pairs : List (UInt8 × UInt8)} {collected : UInt8} :
    pairs.foldl (fun difference pair => difference ||| (pair.1 ^^^ pair.2)) collected = 0 ↔
      collected = 0 ∧ ∀ pair ∈ pairs, pair.1 = pair.2 := by
  induction pairs generalizing collected with
  | nil => simp
  | cons pair rest ih =>
    rw [List.foldl_cons, ih, UInt8.or_eq_zero_iff, UInt8.xor_eq_zero_iff, List.forall_mem_cons,
      and_assoc]

theorem constantTimeEqual_iff {left right : List UInt8} :
    constantTimeEqual left right ↔ left = right := by
  rw [constantTimeEqual, Bool.and_eq_true, beq_iff_eq, beq_iff_eq, collected_eq_zero]
  constructor
  · rintro ⟨lengths, -, agree⟩
    induction left generalizing right with
    | nil => exact (List.length_eq_zero_iff.mp lengths.symm).symm
    | cons byte rest ih =>
      cases right with
      | nil => cases lengths
      | cons other others =>
        rw [List.zip_cons_cons, List.forall_mem_cons] at agree
        rw [show byte = other from agree.1, ih (Nat.succ.inj lengths) agree.2]
  · rintro rfl
    refine ⟨rfl, rfl, fun pair member => ?_⟩
    rw [List.zip_eq_zipWith] at member
    simp only [List.zipWith_self, List.mem_map] at member
    obtain ⟨byte, -, rfl⟩ := member
    rfl

theorem validateClaims_eq_ok {claims : AuthorizationClaims} :
    validateClaims claims = .ok () ↔ (∀ text ∈ claims.texts, isClaimText text) ∧
      0 < claims.lifetime ∧ claims.lifetime.bmod (2 ^ 64) ≤ 300000 := by
  have longest : maxLifetimeMillis.toInt = 300000 := by decide
  simp only [validateClaims, bind_eq_ok, exists_unit, forM_eq_ok, refuseIf_eq_ok, not_not,
    not_or, Int64.lt_iff_toInt_lt, Int64.le_iff_toInt_le, Int.not_le, Int.not_lt, Int64.toInt_sub,
    longest, AuthorizationClaims.lifetime, Int.sub_pos]

theorem lt_saturatingAdd {now issued : Int64} :
    saturatingAdd now clockSkewMillis < issued ↔ now.toInt + 30000 < issued.toInt := by
  have skew : clockSkewMillis.toInt = 30000 := by decide
  have low : Int64.minValue.toInt = -2 ^ 63 := by decide
  have high : Int64.maxValue.toInt = 2 ^ 63 - 1 := by decide
  have nowLow := now.le_toInt
  have issuedHigh := issued.toInt_lt
  rw [saturatingAdd, skew, Int64.lt_iff_toInt_lt]
  by_cases fits : now.toInt + 30000 ≤ Int64.maxValue.toInt
  · rw [Int64.toInt_ofIntClamp (by omega) fits]
  · -- Beyond the last timestamp the sum saturates, and nothing is issued later.
    rw [Int64.ofIntClamp, dif_pos (by omega), dif_neg fits]
    omega

theorem validateTime_eq_ok {claims : AuthorizationClaims} {now : Int64} :
    validateTime claims now = .ok () ↔ claims.Covers now := by
  simp only [validateTime, bind_eq_ok, exists_unit, refuseIf_eq_ok, lt_saturatingAdd]
  rw [AuthorizationClaims.Covers, Int64.lt_iff_toInt_lt]
  omega

theorem binds_iff {claims : AuthorizationClaims} {expected : ExpectedAuthorization} :
     claims.Binds expected ↔ ¬ (claims.owner ≠ expected.owner ∨
    claims.session ≠ expected.session ∨ claims.callId ≠ expected.callId ∨
    claims.action ≠ expected.action ∨ claims.normalizedDigest ≠ expected.normalizedDigest) := by
  obtain ⟨owner, session, callId, action, digest⟩ := expected
  simp only [AuthorizationClaims.Binds, ExpectedAuthorization.mk.injEq, not_or, not_not]
  constructor
  · rintro ⟨rfl, rfl, rfl, rfl, rfl⟩
    exact ⟨rfl, rfl, rfl, rfl, rfl⟩
  · rintro ⟨rfl, rfl, rfl, rfl, rfl⟩
    exact ⟨rfl, rfl, rfl, rfl, rfl⟩

theorem shortLived_iff {granted : AuthorizationClaims}
    (valid : validateClaims granted = .ok ()) :
    granted.ShortLived ↔ granted.lifetime < 2 ^ 63 := by
  obtain ⟨-, positive, bounded⟩ := validateClaims_eq_ok.mp valid
  rw [AuthorizationClaims.ShortLived]
  constructor
  · rintro ⟨-, short⟩
    omega
  · intro fits
    rw [Int.bmod_eq_of_le (by omega) (by omega)] at bounded
    exact ⟨positive, bounded⟩

/-- What a token of a version, a payload and an authentication code looks like. -/
def grantToken (payload mac : List UInt8) : String :=
  tokenVersion ++ "." ++ encodeHex payload ++ "." ++ encodeHex mac

theorem tokenSegments_grantToken (payload mac : List UInt8) :
    tokenSegments (grantToken payload mac) = [tokenVersion, encodeHex payload, encodeHex mac] := by
  have noDot : ∀ value < 16, Nat.digitChar value ≠ '.' := by decide
  have joined : (grantToken payload mac).toList = ['.'].intercalate
      [tokenVersion.toList, (encodeHex payload).toList, (encodeHex mac).toList] := by
    simp [grantToken, String.toList_append, List.intercalate]
  rw [tokenSegments, joined, List.splitOn_intercalate]
  · simp
  · simp only [List.forall_mem_cons]
    exact ⟨by decide, not_mem_encodeHex payload noDot, not_mem_encodeHex mac noDot, by simp⟩
  · simp

theorem length_grantToken (payload mac : List UInt8) :
    (textBytes (grantToken payload mac)).length = 4 + 2 * payload.length + 2 * mac.length := by
  have version : (textBytes tokenVersion).length = 2 := by decide
  have dot : (textBytes ".").length = 1 := by decide
  simp only [grantToken, textBytes_append, List.length_append, length_textBytes_encodeHex, version,
    dot]
  omega

section Grants

variable [AuthorizationSerde] [KeyedHashing] {claims granted : AuthorizationClaims}
  {key : AuthorizationKey} {token : String} {expected : ExpectedAuthorization} {now : Int64}

theorem sealAuthorization_eq_ok : sealAuthorization claims key = .ok token ↔
    validateClaims claims = .ok () ∧ ∃ payload,
      AuthorizationSerde.claimsToVec claims = .ok payload ∧ payload.length ≤ maxPayloadBytes ∧
        token = grantToken payload (KeyedHashing.keyedHash key payload).bytes.toList := by
  simp only [sealAuthorization, bind_eq_ok, exists_unit, mapError_eq_ok, refuseIf_eq_ok,
    pure_eq_ok, not_lt, ContentHash.toHex_eq, grantToken, eq_comm (b := token)]

theorem verifyAuthorization_granted
    (verified : verifyAuthorization token key expected now = .ok granted) :
    validateClaims granted = .ok () ∧ granted.Covers now ∧ granted.Binds expected := by
  simp only [verifyAuthorization, bind_eq_ok, exists_unit, mapError_eq_ok, refuseIf_eq_ok,
    pure_eq_ok] at verified
  obtain ⟨-, -, _, -, _, -, -, _, -, _, -, -, -, _, -, valid, inTime, bound, rfl⟩ := verified
  exact ⟨valid, validateTime_eq_ok.mp inTime, binds_iff.mpr bound⟩

/-- An authentic token is verified exactly where the claims in it are valid, cover the time of the
request and bind it. -/
theorem verifyAuthorization_grantToken {payload : List UInt8}
    (fits : payload.length ≤ maxPayloadBytes) :
    verifyAuthorization (grantToken payload (KeyedHashing.keyedHash key payload).bytes.toList)
        key expected now = .ok granted ↔
      AuthorizationSerde.claimsFromSlice payload = .ok granted ∧
        validateClaims granted = .ok () ∧ granted.Covers now ∧ granted.Binds expected := by
  have width : (KeyedHashing.keyedHash key payload).bytes.toList.length = 32 := by simp
  have short : ¬ maxPayloadBytes * 2 + 80 < (textBytes (grantToken payload
      (KeyedHashing.keyedHash key payload).bytes.toList)).length := by
    rw [length_grantToken, width]
    omega
  simp only [verifyAuthorization, short, tokenSegments_grantToken, bind_eq_ok, exists_unit,
    mapError_eq_ok, refuseIf_eq_ok, okOr_eq_ok, pure_eq_ok, List.getElem?_cons_zero,
    List.getElem?_cons_succ, List.getElem?_nil, Option.some.injEq, exists_eq_left',
    decodeHex_encodeHex fits, decodeHex_encodeHex width.le, width, constantTimeEqual_iff,
    validateTime_eq_ok, binds_iff]
  simp only [ne_eq, not_true_eq_false, not_false_eq_true, Option.isSome_none, Bool.false_eq_true,
    true_and]
  constructor
  · rintro ⟨_, parsed, valid, inTime, bound, rfl⟩
    exact ⟨parsed, valid, inTime, bound⟩
  · rintro ⟨parsed, valid, inTime, bound⟩
    exact ⟨granted, parsed, valid, inTime, bound, rfl⟩

/-- A sealed grant is verified exactly for the bound request and the covered time; what any token
grants lives for at most five minutes exactly where its lifetime does not overflow. -/
theorem grants_limited_iff (reads : ReadsClaims) :
    (∀ claims key token expected now granted, sealAuthorization claims key = .ok token →
      (verifyAuthorization token key expected now = .ok granted ↔
        granted = claims ∧ claims.Binds expected ∧ claims.Covers now)) ∧
    ∀ token key expected now granted,
      verifyAuthorization token key expected now = .ok granted →
        granted.Covers now ∧ (granted.ShortLived ↔ granted.lifetime < 2 ^ 63) := by
  constructor
  · intro claims key token expected now granted sealed
    obtain ⟨valid, payload, prints, fits, rfl⟩ := sealAuthorization_eq_ok.mp sealed
    rw [verifyAuthorization_grantToken fits, reads claims payload prints]
    constructor
    · rintro ⟨same, -, inTime, bound⟩
      obtain rfl := Except.ok.inj same
      exact ⟨rfl, bound, inTime⟩
    · rintro ⟨rfl, bound, inTime⟩
      exact ⟨rfl, valid, inTime, bound⟩
  · intro token key expected now granted verified
    obtain ⟨valid, inTime, -⟩ := verifyAuthorization_granted verified
    exact ⟨inTime, shortLived_iff valid⟩

end Grants

section Sample

attribute [local instance] briefAuthorization prefixKeyedHash

theorem readsClaims_brief : ReadsClaims := by
  intro claims bytes prints
  simp only [AuthorizationSerde.claimsToVec] at prints
  split at prints
  · next brief => cases prints; rw [brief]; rfl
  · split at prints
    · next endless => cases prints; rw [endless]; rfl
    · cases prints

/-- The sample's brief grant is verified, and lives for at most five minutes. -/
theorem grants_limited_iff_sample : ∃ token, sealAuthorization briefClaims sampleKey = .ok token ∧
    verifyAuthorization token sampleKey sampleExpected 1500 = .ok briefClaims ∧
      briefClaims.ShortLived := by
  obtain ⟨roundTrip, limits⟩ := grants_limited_iff readsClaims_brief
  have valid : validateClaims briefClaims = .ok () := by decide
  have sealed : sealAuthorization briefClaims sampleKey = .ok (grantToken [0] _) :=
    sealAuthorization_eq_ok.mpr ⟨valid, [0], rfl, by decide, rfl⟩
  have covers : briefClaims.Covers 1500 := by
    rw [AuthorizationClaims.Covers]
    decide
  have verified := (roundTrip briefClaims sampleKey _ sampleExpected 1500 briefClaims sealed).mpr
    ⟨rfl, rfl, covers⟩
  exact ⟨_, sealed, verified, (limits _ _ _ _ _ verified).2.mpr (by decide)⟩

/-- A grant that lives for all of time is sealed, and is verified although it is not short-lived. -/
theorem not_grants_limited : ∃ token, sealAuthorization endlessClaims sampleKey = .ok token ∧
    verifyAuthorization token sampleKey sampleExpected 0 = .ok endlessClaims ∧
      ¬ endlessClaims.ShortLived := by
  -- The difference of the two timestamps wraps around to minus one.
  have valid : validateClaims endlessClaims = .ok () := by decide
  have sealed : sealAuthorization endlessClaims sampleKey = .ok (grantToken [1] _) :=
    sealAuthorization_eq_ok.mpr ⟨valid, [1], rfl, by decide, rfl⟩
  have covers : endlessClaims.Covers 0 := by
    rw [AuthorizationClaims.Covers]
    decide
  have tooLong : ¬ endlessClaims.ShortLived := by
    rw [AuthorizationClaims.ShortLived]
    decide
  exact ⟨_, sealed, (verifyAuthorization_grantToken (by decide)).mpr ⟨rfl, valid, covers, rfl⟩,
    tooLong⟩

end Sample

end AgentMod
