import WsNet.Common.TunnelCrypto

/-! What a direction's cipher seals, its peer opens.

The counters of the two ends are apart: one end counts the frames that it made,
the other the frames that it opened. A call that fails makes no frame, so a list
of calls, failed ones among them, keeps the two in step. -/
namespace WsNet
open Data Crypto

/-- How much ChaCha20-Poly1305 seals under one nonce: its block counter has 32 bits. -/
def sealLimit : Nat := 64 * (2 ^ 32 - 1)

/-- `seal_in_place_separate_tag`, the tag behind the ciphertext. -/
def sealInPlace [Aead] (r : Sealed) : Except Error Bytes := do
  ensure (r.plaintext.length ≤ sealLimit) (.other "failed to encrypt tunnel frame")
  return r.ciphertext

namespace DirectionCipher

/-- `encrypt` with its effects in the order of the source: the sequence number is
taken once the length is checked, and before the seal is made. -/
def encryptCall [Aead] (kind : TunnelFrameKind) (payload aad : Bytes) (c : DirectionCipher) :
    Except Error Bytes × DirectionCipher :=
  if payload.length > maxPayloadLen then
    (.error (.other "tunnel frame payload exceeds maximum size"), c)
  else
    let sequence := c.nextSendSequence
    match checkedSucc sequence with
    | none => (.error (.other "tunnel send sequence exhausted"), c)
    | some next =>
      let c := { c with nextSendSequence := next }
      match sealInPlace (c.sealedAt sequence kind payload aad) with
      | .error e => (.error e, c)
      | .ok body => (.ok (frameMagic ++ toBeBytes frameSequenceLen sequence ++ body), c)

/-- What a list of calls returns, call by call, and the cipher after them. -/
def encryptAll [Aead] (aad : Bytes) :
    List (TunnelFrameKind × Bytes) → DirectionCipher → List (Except Error Bytes) × DirectionCipher
  | [], c => ([], c)
  | (kind, payload) :: calls, c =>
    let (result, c) := c.encryptCall kind payload aad
    let (results, c) := encryptAll aad calls c
    (result :: results, c)

/-- What the peer makes of a list of frames. -/
def decryptAll [Aead] (log : SealLog) (aad : Bytes) :
    List Bytes → DirectionCipher → List (Except Error (TunnelFrameKind × Bytes)) × DirectionCipher
  | [], c => ([], c)
  | frame :: frames, c =>
    let (result, c) := c.decrypt log frame aad
    let (results, c) := decryptAll log aad frames c
    (result :: results, c)

/-- The frames of the calls that returned one. -/
def framesOf (results : List (Except Error Bytes)) : List Bytes := results.filterMap Except.toOption

/-- The calls that returned a frame. -/
def accepted (calls : List (TunnelFrameKind × Bytes)) (results : List (Except Error Bytes)) :
    List (TunnelFrameKind × Bytes) :=
  (calls.zip results).filterMap fun (call, result) => result.toOption.map fun _ => call

@[simp] theorem framesOf_ok (frame : Bytes) (results : List (Except Error Bytes)) :
    framesOf (.ok frame :: results) = frame :: framesOf results := rfl

@[simp] theorem framesOf_error (e : Error) (results : List (Except Error Bytes)) :
    framesOf (.error e :: results) = framesOf results := rfl

@[simp] theorem accepted_ok (call : TunnelFrameKind × Bytes) (calls : List (TunnelFrameKind × Bytes))
    (frame : Bytes) (results : List (Except Error Bytes)) :
    accepted (call :: calls) (.ok frame :: results) = call :: accepted calls results := rfl

@[simp] theorem accepted_error (call : TunnelFrameKind × Bytes) (calls : List (TunnelFrameKind × Bytes))
    (e : Error) (results : List (Except Error Bytes)) :
    accepted (call :: calls) (.error e :: results) = accepted calls results := rfl

/-- The seals that a list of accepted calls makes, numbered from a sequence number on. -/
def sealsFrom (aad : Bytes) (c : DirectionCipher) : Nat → List (TunnelFrameKind × Bytes) → SealLog
  | _, [] => []
  | sequence, (kind, payload) :: calls =>
    c.sealedAt sequence kind payload aad :: sealsFrom aad c (sequence + 1) calls

/-- The other end of a direction: the same key and prefix, and waiting for the
number that this end sends next. What the other end has sent does not matter. -/
def peer (sent : Nat) (c : DirectionCipher) : DirectionCipher :=
  ⟨c.key, c.noncePrefix, sent, c.nextSendSequence⟩

section Calls
variable [Aead]

/-- A payload within the limit is far from what the cipher cannot seal. -/
theorem sealInPlace_of_le (sequence : Nat) (kind : TunnelFrameKind) (aad : Bytes) (c : DirectionCipher)
    {payload : Bytes} (h : payload.length ≤ maxPayloadLen) :
    sealInPlace (c.sealedAt sequence kind payload aad) =
      .ok (c.sealedAt sequence kind payload aad).ciphertext := by
  have hlimit : maxPayloadLen + 1 ≤ sealLimit := by decide +kernel
  have hlen : (c.sealedAt sequence kind payload aad).plaintext.length ≤ sealLimit := by
    show payload.length + 1 ≤ sealLimit
    omega
  unfold sealInPlace ensure
  rw [if_pos hlen]
  rfl

/-- A call returns the frame under the next number, or an error and the cipher as it was. -/
theorem encryptCall_eq (kind : TunnelFrameKind) (payload aad : Bytes) (c : DirectionCipher) :
    (payload.length ≤ maxPayloadLen ∧ c.nextSendSequence + 1 < 2 ^ 64 ∧
      c.encryptCall kind payload aad =
        (.ok (frameOf c.nextSendSequence (c.sealedAt c.nextSendSequence kind payload aad)),
          { c with nextSendSequence := c.nextSendSequence + 1 })) ∨
    ((maxPayloadLen < payload.length ∨ 2 ^ 64 ≤ c.nextSendSequence + 1) ∧
      ∃ e, c.encryptCall kind payload aad = (.error e, c)) := by
  by_cases hlen : payload.length ≤ maxPayloadLen
  · by_cases hlt : c.nextSendSequence + 1 < 2 ^ 64
    · refine .inl ⟨hlen, hlt, ?_⟩
      unfold encryptCall
      rw [if_neg (Nat.not_lt.mpr hlen)]
      dsimp only
      rw [checkedSucc_eq_some.mpr ⟨hlt, rfl⟩]
      dsimp only
      have hseal := sealInPlace_of_le c.nextSendSequence kind aad c hlen
      simp only [sealedAt] at hseal ⊢
      rw [hseal]
      rfl
    · refine .inr ⟨.inr (Nat.not_lt.mp hlt), .other "tunnel send sequence exhausted", ?_⟩
      have hnone : checkedSucc c.nextSendSequence = none := if_neg hlt
      unfold encryptCall
      rw [if_neg (Nat.not_lt.mpr hlen)]
      dsimp only
      rw [hnone]
  · refine .inr ⟨.inl (Nat.not_le.mp hlen), .other "tunnel frame payload exceeds maximum size", ?_⟩
    unfold encryptCall
    rw [if_pos (Nat.not_le.mp hlen)]

/-- The call is `encrypt`, its failures with the cipher that they leave. -/
theorem encryptCall_encrypt (kind : TunnelFrameKind) (payload aad : Bytes) (c : DirectionCipher) :
    (c.encryptCall kind payload aad).1.toOption = ((c.encrypt kind payload aad).map Prod.fst).toOption ∧
      ∀ frame c', c.encrypt kind payload aad = .ok (frame, c') →
        (c.encryptCall kind payload aad).2 = c' := by
  rcases encryptCall_eq kind payload aad c with ⟨hlen, hlt, hcall⟩ | ⟨hfails, e, hcall⟩
  · rw [hcall, encrypt_eq_ok.mpr ⟨hlen, hlt, rfl, rfl⟩]
    refine ⟨rfl, ?_⟩
    intro frame c' h
    cases h
    rfl
  · cases hencrypt : c.encrypt kind payload aad with
    | error e' =>
      rw [hcall]
      exact ⟨rfl, fun _ _ h => by cases h⟩
    | ok made =>
      obtain ⟨frame, c'⟩ := made
      obtain ⟨hlen, hlt, _⟩ := encrypt_eq_ok.mp hencrypt
      omega

/-- A frame is its header, the kind byte, the payload and the tag. -/
theorem length_frameOf (sequence : Nat) (kind : TunnelFrameKind) (payload aad : Bytes)
    (c : DirectionCipher) :
    (frameOf sequence (c.sealedAt sequence kind payload aad)).length =
      frameHeaderLen + 1 + payload.length + frameTagLen := by
  have hcipher : (c.sealedAt sequence kind payload aad).ciphertext.length =
      payload.length + 1 + frameTagLen := Aead.length_encrypt ..
  simp only [frameOf, List.length_append, length_toBeBytes, hcipher, frameHeaderLen]
  omega

theorem length_frameOf_le {sequence : Nat} {kind : TunnelFrameKind} {payload aad : Bytes}
    {c : DirectionCipher} (h : payload.length ≤ maxPayloadLen) :
    (frameOf sequence (c.sealedAt sequence kind payload aad)).length ≤ maxEncryptedTunnelFrameSize := by
  have hmax : frameHeaderLen + 1 + maxPayloadLen + frameTagLen = maxEncryptedTunnelFrameSize := by
    decide +kernel
  rw [length_frameOf]
  omega

/-! ### Lists of calls -/

variable {aad : Bytes}

/-- The key and the prefix stay, and the counter moves by the frames made. -/
theorem encryptAll_cipher (calls : List (TunnelFrameKind × Bytes)) (c : DirectionCipher) :
    (encryptAll aad calls c).2 = { c with
      nextSendSequence := c.nextSendSequence + (framesOf (encryptAll aad calls c).1).length } := by
  induction calls generalizing c with
  | nil => rfl
  | cons call calls ih =>
    obtain ⟨kind, payload⟩ := call
    rcases encryptCall_eq kind payload aad c with ⟨_, _, hcall⟩ | ⟨_, e, hcall⟩
    · simp only [encryptAll, hcall, framesOf_ok, List.length_cons]
      rw [ih]
      simp only [DirectionCipher.mk.injEq, true_and, and_true]
      omega
    · simp only [encryptAll, hcall, framesOf_error]
      exact ih c

/-- No frame is too large for the peer. -/
theorem length_frames_le (calls : List (TunnelFrameKind × Bytes)) (c : DirectionCipher) :
    ∀ frame ∈ framesOf (encryptAll aad calls c).1, frame.length ≤ maxEncryptedTunnelFrameSize := by
  induction calls generalizing c with
  | nil => simp [encryptAll, framesOf]
  | cons call calls ih =>
    obtain ⟨kind, payload⟩ := call
    rcases encryptCall_eq kind payload aad c with ⟨hlen, _, hcall⟩ | ⟨_, e, hcall⟩
    · simp only [encryptAll, hcall, framesOf_ok, List.forall_mem_cons]
      exact ⟨length_frameOf_le hlen, ih _⟩
    · simp only [encryptAll, hcall, framesOf_error]
      exact ih c

omit [Aead] in
/-- What has been sent is no part of a seal. -/
theorem sealsFrom_next (c : DirectionCipher) (next sequence : Nat) (calls : List (TunnelFrameKind × Bytes)) :
    sealsFrom aad { c with nextSendSequence := next } sequence calls = sealsFrom aad c sequence calls := by
  induction calls generalizing sequence with
  | nil => rfl
  | cons call calls ih =>
    obtain ⟨kind, payload⟩ := call
    rw [sealsFrom, sealsFrom, ih]
    rfl

/-- The peer opens the frames, in order, to the calls that were accepted. -/
theorem decryptAll_frames (log : SealLog) (calls : List (TunnelFrameKind × Bytes)) (c : DirectionCipher)
    (sent : Nat)
    (hlog : ∀ r ∈ sealsFrom aad c c.nextSendSequence (accepted calls (encryptAll aad calls c).1), r ∈ log) :
    decryptAll log aad (framesOf (encryptAll aad calls c).1) (c.peer sent) =
      ((accepted calls (encryptAll aad calls c).1).map .ok, (encryptAll aad calls c).2.peer sent) := by
  induction calls generalizing c with
  | nil => rfl
  | cons call calls ih =>
    obtain ⟨kind, payload⟩ := call
    rcases encryptCall_eq kind payload aad c with ⟨hlen, hlt, hcall⟩ | ⟨_, e, hcall⟩
    · simp only [encryptAll, hcall, framesOf_ok, accepted_ok, sealsFrom, List.forall_mem_cons] at hlog ⊢
      obtain ⟨hhead, htail⟩ := hlog
      have hopen : (c.peer sent).decrypt log
          (frameOf c.nextSendSequence (c.sealedAt c.nextSendSequence kind payload aad)) aad =
          (.ok (kind, payload), ({ c with nextSendSequence := c.nextSendSequence + 1 } :
            DirectionCipher).peer sent) :=
        decrypt_frameOf (c := c.peer sent) hhead hlen hlt
      have hrest := ih { c with nextSendSequence := c.nextSendSequence + 1 } (by
        rw [sealsFrom_next]
        exact htail)
      simp only [decryptAll, hopen, hrest, List.map_cons]
    · simp only [encryptAll, hcall, framesOf_error, accepted_error] at hlog ⊢
      exact ih c hlog

variable (aad) in
/-- **Frames round trip.** However many calls a direction takes and whatever they
carry: a call fails only for a payload above the limit or an exhausted counter, and
leaves the cipher as it was; no frame is larger than the limit; and the peer opens
all frames in order, to exactly the calls that were accepted. -/
theorem frames_round_trip (log : SealLog) (calls : List (TunnelFrameKind × Bytes)) (c : DirectionCipher)
    (sent : Nat)
    (hlog : ∀ r ∈ sealsFrom aad c c.nextSendSequence (accepted calls (encryptAll aad calls c).1), r ∈ log) :
    (∀ earlier kind payload later, calls = earlier ++ (kind, payload) :: later →
      ∀ e c', (encryptAll aad earlier c).2.encryptCall kind payload aad = (.error e, c') →
        (maxPayloadLen < payload.length ∨ 2 ^ 64 ≤ (encryptAll aad earlier c).2.nextSendSequence + 1) ∧
          c' = (encryptAll aad earlier c).2) ∧
    (encryptAll aad calls c).2.nextSendSequence =
      c.nextSendSequence + (framesOf (encryptAll aad calls c).1).length ∧
    (∀ frame ∈ framesOf (encryptAll aad calls c).1, frame.length ≤ maxEncryptedTunnelFrameSize) ∧
    (decryptAll log aad (framesOf (encryptAll aad calls c).1) (c.peer sent)).1 =
      (accepted calls (encryptAll aad calls c).1).map .ok := by
  refine ⟨?_, ?_, length_frames_le calls c, ?_⟩
  · intro earlier kind payload later _ e c' hfailed
    rcases encryptCall_eq kind payload aad (encryptAll aad earlier c).2 with
      ⟨_, _, hcall⟩ | ⟨hwhy, e', hcall⟩
    · rw [hcall] at hfailed
      simp at hfailed
    · rw [hcall] at hfailed
      exact ⟨hwhy, (Prod.mk.inj hfailed).2.symm⟩
  · rw [encryptAll_cipher]
  · rw [decryptAll_frames log calls c sent hlog]

end Calls

section Example

local instance roundTripAead : Aead := .transparent

/-- Two numbers before the counter is exhausted. -/
def lastFrames : DirectionCipher := ⟨[7], [8], 2 ^ 64 - 3, 0⟩

/-- The third call finds the counter exhausted. -/
def lastCalls : List (TunnelFrameKind × Bytes) := [(.text, []), (.binary, [1, 2]), (.text, [3])]

theorem accepted_lastCalls :
    accepted lastCalls (encryptAll accessToGateway lastCalls lastFrames).1 =
      [(.text, []), (.binary, [1, 2])] := by decide +kernel

theorem frames_round_trip_at_the_end :
    (decryptAll (sealsFrom accessToGateway lastFrames (2 ^ 64 - 3) [(.text, []), (.binary, [1, 2])])
      accessToGateway (framesOf (encryptAll accessToGateway lastCalls lastFrames).1)
      (lastFrames.peer 5)).1 = [.ok (.text, []), .ok (.binary, [1, 2])] := by
  have h := frames_round_trip accessToGateway
    (sealsFrom accessToGateway lastFrames (2 ^ 64 - 3) [(.text, []), (.binary, [1, 2])])
    lastCalls lastFrames 5 (by
      rw [accepted_lastCalls]
      exact fun _ hr => hr)
  rw [h.2.2.2, accepted_lastCalls]
  rfl

end Example

end DirectionCipher

end WsNet
