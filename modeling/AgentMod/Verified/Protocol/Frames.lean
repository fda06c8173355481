import AgentMod.Protocol.Replay
import Mathlib.Data.List.Forall2

/-! Frames that were written are read back, however the transport delivers them. -/

namespace AgentMod

theorem length_lengthBytes (value : Nat) : (lengthBytes value).length = 4 := rfl

theorem fromBeBytes_lengthBytes {value : Nat} (fits : value ≤ maxBodyLength) :
    fromBeBytes (lengthBytes value) = value := by
  have small : value < 2 ^ 32 := Nat.lt_of_le_pred (by decide) fits
  simp only [lengthBytes, fromBeBytes, List.map_cons, List.map_nil, List.foldl_cons,
    List.foldl_nil, Nat.toUInt8_eq, UInt8.toNat_ofNat', Nat.shiftRight_eq_div_pow]
  omega

theorem lengthBytes_fromBeBytes {bytes : List UInt8} (four : bytes.length = 4) :
    lengthBytes (fromBeBytes bytes) = bytes ∧ fromBeBytes bytes ≤ maxBodyLength := by
  match bytes, four with
  | [first, second, third, fourth], _ =>
    have := first.toNat_lt
    have := second.toNat_lt
    have := third.toNat_lt
    have := fourth.toNat_lt
    constructor
    · simp only [lengthBytes, fromBeBytes, List.map_cons, List.map_nil, List.foldl_cons,
        List.foldl_nil, Nat.toUInt8_eq, Nat.shiftRight_eq_div_pow, List.cons.injEq, and_true,
        ← UInt8.toNat_inj, UInt8.toNat_ofNat']
      omega
    · simp only [fromBeBytes, List.foldl_cons, List.foldl_nil, maxBodyLength]
      omega

theorem exists_cut {α : Type} {pieces : List (List α)} {cut : List α}
    (front : cut <+: pieces.flatten) (shorter : cut ≠ pieces.flatten) :
    ∃ before piece after torn, pieces = before ++ piece :: after ∧
      cut = before.flatten ++ torn ∧ torn <+: piece ∧ torn ≠ piece := by
  induction pieces generalizing cut with
  | nil => exact absurd (List.prefix_nil.mp front) shorter
  | cons piece rest ih =>
    rw [List.flatten_cons] at front shorter
    by_cases whole : piece <+: cut
    · -- The first piece is whole, and the cut falls behind it.
      obtain ⟨later, rfl⟩ := whole
      rw [List.prefix_append_right_inj] at front
      have shorterLater : later ≠ rest.flatten := fun same => shorter (by rw [same])
      obtain ⟨before, next, after, torn, rfl, rfl, part, proper⟩ := ih front shorterLater
      exact ⟨piece :: before, next, after, torn, rfl, by simp, part, proper⟩
    · have within : cut <+: piece :=
        (List.prefix_or_prefix_of_prefix front (List.prefix_append _ _)).resolve_right whole
      have proper : cut ≠ piece := fun same => whole (same ▸ List.prefix_rfl)
      exact ⟨[], piece, rest, cut, rfl, rfl, within, proper⟩

section Transport

theorem readChunks_of_le {count : Nat} {chunks : List (List UInt8)}
    (enough : count ≤ chunks.flatten.length) : ∃ left,
      readChunks count chunks = .ok (chunks.flatten.take count, left) ∧
        left.flatten = chunks.flatten.drop count := by
  induction chunks generalizing count with
  | nil =>
    obtain rfl : count = 0 := Nat.le_zero.mp enough
    exact ⟨[], rfl, rfl⟩
  | cons chunk rest ih =>
    cases count with
    | zero => exact ⟨chunk :: rest, rfl, rfl⟩
    | succ count =>
      rw [List.flatten_cons, List.length_append] at enough
      rw [readChunks, List.flatten_cons]
      split
      · next shorter =>
        obtain ⟨left, reads, remain⟩ := ih (show count + 1 - chunk.length ≤ rest.flatten.length by omega)
        refine ⟨left, ?_, ?_⟩
        · rw [reads, List.take_append, List.take_of_length_le shorter]
          rfl
        · rw [remain, List.drop_append, List.drop_eq_nil_of_le shorter, List.nil_append]
      · next longer =>
        refine ⟨chunk.drop (count + 1) :: rest, ?_, ?_⟩
        · rw [List.take_append_of_le_length (by omega)]
        · rw [List.flatten_cons, List.drop_append_of_le_length (by omega)]

theorem readChunks_of_lt {count : Nat} {chunks : List (List UInt8)}
    (short : chunks.flatten.length < count) : readChunks count chunks = .error earlyEof := by
  induction chunks generalizing count with
  | nil =>
    cases count with
    | zero => exact absurd short (by simp)
    | succ count => rfl
  | cons chunk rest ih =>
    cases count with
    | zero => exact absurd short (Nat.not_lt_zero _)
    | succ count =>
      rw [List.flatten_cons, List.length_append] at short
      rw [readChunks, if_pos (by omega), ih (by omega)]
      rfl

variable {transport : Transport} {count : Nat}

theorem Transport.readExact_front {front later : List UInt8}
    (delivers : transport.bytes = front ++ later) : ∃ rest,
      transport.readExact front.length = .ok (front, rest) ∧ rest.bytes = later := by
  have enough : front.length ≤ transport.bytes.length := by simp [delivers]
  obtain ⟨left, reads, remain⟩ := readChunks_of_le enough
  rw [show transport.chunks.flatten = front ++ later from delivers] at reads remain
  rw [List.take_left] at reads
  rw [List.drop_left] at remain
  refine ⟨⟨left, nonempty_of_readChunks transport.nonempty reads⟩, ?_, remain⟩
  rw [readExact]
  split
  · next bytes other again =>
    obtain ⟨rfl, rfl⟩ := Prod.mk.inj (Except.ok.inj (again.symm.trans reads))
    rfl
  · next failed => cases failed.symm.trans reads

theorem Transport.readExact_of_lt (short : transport.bytes.length < count) :
    transport.readExact count = .error earlyEof := by
  have fails := readChunks_of_lt short
  rw [readExact]
  split
  · next again => cases again.symm.trans fails
  · next again =>
    obtain rfl := Except.error.inj (again.symm.trans fails)
    rfl

end Transport

section Frames

variable {τ : Type} [FrameCodec τ] {frame : WireFrame τ} {frames : List (WireFrame τ)}
  {maximum : Nat} {encoded body : List UInt8} {transport : Transport}

/-- The header in front of a body. -/
def frameHead (body : List UInt8) : List UInt8 := magic ++ lengthBytes body.length

/-- The header and the body of a frame. -/
def framed (body : List UInt8) : List UInt8 := frameHead body ++ body

theorem length_framed (body : List UInt8) : (framed body).length = 8 + body.length := by
  rw [framed, List.length_append]
  rfl

theorem declared_frameHead (declarable : body.length ≤ maxBodyLength) :
    fromBeBytes (((frameHead body).drop 4).take 4) = body.length :=
  fromBeBytes_lengthBytes declarable

theorem encodeFrame_eq_ok : encodeFrame frame maximum = .ok encoded ↔ ∃ body,
    FrameCodec.intoWriter frame = .ok body ∧ body.length ≤ maximum ∧
      body.length ≤ maxBodyLength ∧ encoded = framed body := by
  simp only [encodeFrame, framed, frameHead, bind_eq_ok, exists_unit, mapError_eq_ok, refuseIf_eq_ok,
    pure_eq_ok, not_lt, eq_comm (b := encoded)]

theorem decodeFrame_framed (fits : body.length ≤ maximum) (declarable : body.length ≤ maxBodyLength) :
    decodeFrame (framed body) maximum = .ok frame ↔
      ∃ consumed, FrameCodec.fromReader body = .ok (frame, consumed) := by
  have declared : fromBeBytes (((framed body).drop 4).take 4) = body.length :=
    declared_frameHead declarable
  have start : (framed body).take 4 = magic := rfl
  have behind : (framed body).drop 8 = body := rfl
  simp only [decodeFrame, bind_eq_ok, exists_unit, refuseIf_eq_ok, mapError_eq_ok, pure_eq_ok,
    declared, start, behind, length_framed, Prod.exists]
  constructor
  · rintro ⟨-, -, -, -, _, consumed, reads, rfl⟩
    exact ⟨consumed, reads⟩
  · rintro ⟨consumed, reads⟩
    exact ⟨by omega, by simp, by omega, by omega, frame, consumed, reads, rfl⟩

theorem framed_of_decodeFrame (decodes : decodeFrame encoded maximum = .ok frame) :
    ∃ body, encoded = framed body ∧ body.length ≤ maximum ∧ body.length ≤ maxBodyLength := by
  simp only [decodeFrame, bind_eq_ok, exists_unit, refuseIf_eq_ok, not_lt, not_not] at decodes
  obtain ⟨header, start, bounded, exact, -⟩ := decodes
  have four : ((encoded.drop 4).take 4).length = 4 := by simp; omega
  obtain ⟨same, fits⟩ := lengthBytes_fromBeBytes four
  have size : (encoded.drop 8).length = fromBeBytes ((encoded.drop 4).take 4) := by simpa using exact
  refine ⟨encoded.drop 8, ?_, by omega, by omega⟩
  have tail : encoded.drop 8 = (encoded.drop 4).drop 4 := by rw [List.drop_drop]
  rw [framed, frameHead, size, same, ← start, tail, List.append_assoc, List.take_append_drop,
    List.take_append_drop]

theorem decodes_one_value_iff :
    (∀ frame : WireFrame τ, decodeFrame encoded maximum = .ok frame → IsOneValue τ (encoded.drop 8)) ↔
      ¬ HoldsMoreThanOneValue τ encoded maximum := by
  constructor
  · rintro onlyOne ⟨body, rfl, fits, declarable, frame, consumed, reads, more⟩
    obtain ⟨other, one⟩ := onlyOne frame ((decodeFrame_framed fits declarable).mpr ⟨consumed, reads⟩)
    obtain ⟨-, same⟩ := Prod.mk.inj (Except.ok.inj (reads.symm.trans one))
    exact more same
  · intro exact frame decodes
    obtain ⟨body, rfl, fits, declarable⟩ := framed_of_decodeFrame decodes
    obtain ⟨consumed, reads⟩ := (decodeFrame_framed fits declarable).mp decodes
    by_cases whole : consumed = body.length
    · exact ⟨frame, whole ▸ reads⟩
    · exact absurd ⟨body, rfl, fits, declarable, frame, consumed, reads, whole⟩ exact

theorem readFrame_torn (encodes : encodeFrame frame maximum = .ok encoded)
    (part : transport.bytes <+: encoded) (proper : transport.bytes ≠ encoded) :
    (readFrame transport maximum : Framing (WireFrame τ × Transport)) = .error earlyEof := by
  obtain ⟨body, -, fits, declarable, rfl⟩ := encodeFrame_eq_ok.mp encodes
  have shorter : transport.bytes.length < (framed body).length :=
    lt_of_le_of_ne part.length_le fun same => proper (part.eq_of_length same)
  rw [length_framed] at shorter
  by_cases short : transport.bytes.length < 8
  · -- The stream ends within the header.
    rw [readFrame, transport.readExact_of_lt short]
    rfl
  · -- The header is complete, and the stream ends within the body.
    obtain ⟨later, delivers⟩ : ∃ later, transport.bytes = frameHead body ++ later := by
      have head : frameHead body <+: transport.bytes := by
        refine List.prefix_of_prefix_length_le (List.prefix_append _ body) part ?_
        exact Nat.not_lt.mp short
      exact ⟨head.choose, head.choose_spec.symm⟩
    obtain ⟨behind, readsHead, remains⟩ := transport.readExact_front delivers
    have tooFew : behind.bytes.length < body.length := by
      have total := congrArg List.length delivers
      rw [List.length_append, show (frameHead body).length = 8 from rfl, ← remains] at total
      omega
    have start : (frameHead body).take 4 = magic := rfl
    rw [show (frameHead body).length = 8 from rfl] at readsHead
    rw [readFrame, readsHead]
    simp only [bind, Except.bind, refuseIf, start, declared_frameHead declarable,
      behind.readExact_of_lt tooFew, ne_eq, not_true_eq_false, if_false, Nat.not_lt.mpr fits]

theorem readFrame_end (ended : transport.bytes = []) :
    (readFrame transport maximum : Framing (WireFrame τ × Transport)) = .error earlyEof := by
  rw [readFrame, transport.readExact_of_lt (by rw [ended]; decide)]
  rfl

theorem foldlM_writeFrame {written bytes : List UInt8} :
    frames.foldlM (writeFrame maximum) written = .ok bytes ↔ ∃ parts,
      List.Forall₂ (fun frame part => encodeFrame frame maximum = .ok part) frames parts ∧
        bytes = written ++ parts.flatten := by
  induction frames generalizing written with
  | nil => simp [eq_comm (a := bytes)]
  | cons frame rest ih =>
    simp only [List.foldlM_cons, bind_eq_ok, ih, writeFrame, pure_eq_ok, List.forall₂_cons_left_iff]
    constructor
    · rintro ⟨_, ⟨part, encodes, rfl⟩, parts, all, rfl⟩
      exact ⟨part :: parts, ⟨part, parts, encodes, all, rfl⟩, by simp⟩
    · rintro ⟨_, ⟨part, parts, encodes, all, rfl⟩, rfl⟩
      exact ⟨_, ⟨part, encodes, rfl⟩, parts, all, by simp⟩

theorem writeFrames_eq_ok {bytes : List UInt8} : writeFrames frames maximum = .ok bytes ↔
    ∃ parts, List.Forall₂ (fun frame part => encodeFrame frame maximum = .ok part) frames parts ∧
      bytes = parts.flatten := by
  rw [writeFrames, foldlM_writeFrame]
  rfl

theorem length_le_of_encodes {parts : List (List UInt8)} (encodes : List.Forall₂
    (fun (frame : WireFrame τ) part => encodeFrame frame maximum = .ok part) frames parts) :
    frames.length ≤ parts.flatten.length := by
  induction encodes with
  | nil => exact Nat.le_refl 0
  | cons here _ ih =>
    obtain ⟨body, -, -, -, rfl⟩ := encodeFrame_eq_ok.mp here
    rw [List.flatten_cons, List.length_append, length_framed, List.length_cons]
    omega

section Streams

variable (reads : ReadsFront τ)
include reads

theorem readFrame_front {later : List UInt8} (encodes : encodeFrame frame maximum = .ok encoded)
    (delivers : transport.bytes = encoded ++ later) : ∃ rest,
      readFrame transport maximum = .ok (frame, rest) ∧ rest.bytes = later := by
  obtain ⟨body, prints, fits, declarable, rfl⟩ := encodeFrame_eq_ok.mp encodes
  rw [framed, List.append_assoc] at delivers
  obtain ⟨behind, readsHead, remains⟩ := transport.readExact_front delivers
  obtain ⟨rest, readsBody, remain⟩ := behind.readExact_front remains
  have front := reads frame body [] prints
  rw [List.append_nil] at front
  have decodes := (decodeFrame_framed fits declarable).mpr ⟨_, front⟩
  have start : (frameHead body).take 4 = magic := rfl
  refine ⟨rest, ?_, remain⟩
  rw [show (frameHead body).length = 8 from rfl] at readsHead
  simp only [readFrame, bind_eq_ok, exists_unit, refuseIf_eq_ok, pure_eq_ok, Prod.exists]
  refine ⟨_, _, readsHead, by simp [start], ?_, body, rest, ?_, frame, decodes, rfl⟩
  · rw [declared_frameHead declarable]
    omega
  · rw [declared_frameHead declarable]
    exact readsBody

theorem readFrames_of_encodes {parts : List (List UInt8)} {torn : List UInt8} {fuel : Nat}
    {failure : ProtocolError} (encodes : List.Forall₂
      (fun (frame : WireFrame τ) part => encodeFrame frame maximum = .ok part) frames parts)
    (delivers : transport.bytes = parts.flatten ++ torn)
    (fails : ∀ rest : Transport, rest.bytes = torn →
      (readFrame rest maximum : Framing (WireFrame τ × Transport)) = .error failure)
    (enough : frames.length < fuel) :
    readFrames maximum fuel transport = (frames, some failure) := by
  induction encodes generalizing transport fuel with
  | nil =>
    obtain ⟨fuel, rfl⟩ := Nat.exists_eq_add_one_of_ne_zero (Nat.ne_of_gt enough)
    rw [readFrames, fails transport delivers]
  | cons here _ ih =>
    obtain ⟨fuel, rfl⟩ := Nat.exists_eq_add_one_of_ne_zero (Nat.ne_of_gt (Nat.zero_lt_of_lt enough))
    rw [List.flatten_cons, List.append_assoc] at delivers
    obtain ⟨rest, readsHere, remain⟩ := readFrame_front reads here delivers
    simp only [readFrames, readsHere, ih remain (Nat.lt_of_succ_lt_succ enough)]

end Streams

end Frames

section Sample

attribute [local instance] byteCodec

theorem readsFront_byteCodec : ReadsFront UInt8 := by
  rintro ⟨header, payload⟩ body rest prints
  simp only [FrameCodec.intoWriter] at prints
  split at prints
  · next same => cases prints; rw [same]; rfl
  · cases prints

end Sample

end AgentMod
