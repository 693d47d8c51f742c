import WsNet.Common.Error
import WsNet.Common.Identifiers
import WsNet.Crypto.Aead
import WsNet.Data.BigEndian

/-! The tunnel's frames and ciphers.

A frame is a magic word, the sequence number and the sealed kind byte and
payload. A direction's cipher counts what it sends and what it receives; each
call works on its counters at once, so that a call is a function of the cipher.
Decryption also takes the seals made so far, which is what an ideal
authenticated encryption opens. -/
namespace WsNet
open Data Crypto

/-! ### Frames -/

def frameMagic : Bytes := bytesOf "WSNE"
def frameSequenceLen : Nat := 8
def frameHeaderLen : Nat := frameMagic.length + frameSequenceLen
def frameTagLen : Nat := tagLen
def kindText : UInt8 := 1
def kindBinary : UInt8 := 2
def accessToGateway : Bytes := bytesOf "ws-net/access-to-gateway/v2"
def gatewayToAccess : Bytes := bytesOf "ws-net/gateway-to-access/v2"
def bootstrapContext : Bytes := bytesOf "ws-net/bootstrap/v2"
def sessionContext : Bytes := bytesOf "ws-net/session/v2"
def connectionContext : Bytes := bytesOf "ws-net/bootstrap/v3"
def maxEncryptedTunnelFrameSize : Nat := 16 * 1024 * 1024

/-- What is left for the payload: the kind byte is sealed with it. -/
def maxPayloadLen : Nat := maxEncryptedTunnelFrameSize - frameHeaderLen - frameTagLen - 1

theorem directions_ne : accessToGateway ≠ gatewayToAccess := by decide +kernel

inductive TunnelFrameKind where
  | text
  | binary
  deriving DecidableEq, Repr

def TunnelFrameKind.byte : TunnelFrameKind → UInt8
  | .text => kindText
  | .binary => kindBinary

def TunnelFrameKind.ofByte (b : UInt8) : Option TunnelFrameKind :=
  if b = kindText then some .text else if b = kindBinary then some .binary else none

theorem TunnelFrameKind.ofByte_byte (kind : TunnelFrameKind) : ofByte kind.byte = some kind := by
  cases kind <;> rfl

theorem TunnelFrameKind.byte_inj {kind kind' : TunnelFrameKind} (h : kind.byte = kind'.byte) :
    kind = kind' := by
  have hk := ofByte_byte kind
  rw [h, ofByte_byte] at hk
  exact (Option.some.inj hk).symm

/-- A prefix for the direction, and the sequence number. -/
def sequenceNonce (noncePrefix : Bytes) (sequence : Nat) : Bytes :=
  noncePrefix ++ toBeBytes frameSequenceLen sequence

theorem sequenceNonce_inj {noncePrefix : Bytes} {m n : Nat} (hm : m < 2 ^ 64) (hn : n < 2 ^ 64)
    (h : sequenceNonce noncePrefix m = sequenceNonce noncePrefix n) : m = n := by
  have hbytes : toBeBytes frameSequenceLen m = toBeBytes frameSequenceLen n :=
    List.append_cancel_left h
  have hread := congrArg ofBeBytes hbytes
  have hwidth : 256 ^ frameSequenceLen = 2 ^ 64 := by decide
  rw [ofBeBytes_toBeBytes _ _ (hwidth ▸ hm), ofBeBytes_toBeBytes _ _ (hwidth ▸ hn)] at hread
  exact hread

/-- `u64::checked_add` of one. -/
def checkedSucc (n : Nat) : Option Nat := if n + 1 < 2 ^ 64 then some (n + 1) else none

theorem checkedSucc_eq_some {n m : Nat} : checkedSucc n = some m ↔ n + 1 < 2 ^ 64 ∧ m = n + 1 := by
  unfold checkedSucc
  split <;> simp_all [eq_comm]

/-! ### One direction -/

structure DirectionCipher where
  key : Bytes
  noncePrefix : Bytes
  nextSendSequence : Nat
  nextReceiveSequence : Nat
  deriving DecidableEq, Repr

namespace DirectionCipher

def new (key noncePrefix : Bytes) : DirectionCipher := ⟨key, noncePrefix, 0, 0⟩

/-- What is sealed for a payload sent under a sequence number. -/
def sealedAt (sequence : Nat) (kind : TunnelFrameKind) (payload aad : Bytes) (c : DirectionCipher) :
    Sealed :=
  ⟨c.key, sequenceNonce c.noncePrefix sequence, aad, kind.byte :: payload⟩

/-- The frame of a seal. -/
def frameOf [Aead] (sequence : Nat) (r : Sealed) : Bytes :=
  frameMagic ++ toBeBytes frameSequenceLen sequence ++ r.ciphertext

/-- The sequence number is taken before the frame is returned. -/
def encrypt [Aead] (kind : TunnelFrameKind) (payload aad : Bytes) (c : DirectionCipher) :
    Except Error (Bytes × DirectionCipher) := do
  ensure (payload.length ≤ maxPayloadLen) (.other "tunnel frame payload exceeds maximum size")
  let sequence := c.nextSendSequence
  let next ← orError (checkedSucc sequence) (.other "tunnel send sequence exhausted")
  return (frameOf sequence (c.sealedAt sequence kind payload aad), { c with nextSendSequence := next })

/-- A frame is accepted under the next sequence number only; the number is passed
once the frame has opened, whatever the kind byte says. -/
def decrypt [Aead] (log : SealLog) (frame aad : Bytes) (c : DirectionCipher) :
    Except Error (TunnelFrameKind × Bytes) × DirectionCipher :=
  if frame.length < frameHeaderLen + 1 + frameTagLen ∨ frame.take frameMagic.length ≠ frameMagic then
    (.error (.other "invalid encrypted tunnel frame"), c)
  else if frame.length > maxEncryptedTunnelFrameSize then
    (.error (.other "encrypted tunnel frame exceeds maximum size"), c)
  else
    let sequence := ofBeBytes ((frame.drop frameMagic.length).take frameSequenceLen)
    let expected := c.nextReceiveSequence
    if sequence ≠ expected then
      (.error (.other
        s!"unexpected tunnel frame sequence: expected {expected}, received {sequence}"), c)
    else
      match log.open c.key (sequenceNonce c.noncePrefix sequence) aad (frame.drop frameHeaderLen) with
      | none => (.error (.other "encrypted tunnel frame authentication failed"), c)
      | some plaintext =>
        match checkedSucc expected with
        | none => (.error (.other "tunnel receive sequence exhausted"), c)
        | some next =>
          let c := { c with nextReceiveSequence := next }
          match plaintext with
          | byte :: payload =>
            match TunnelFrameKind.ofByte byte with
            | some kind => (.ok (kind, payload), c)
            | none => (.error (.other "encrypted tunnel frame has unknown type"), c)
          | [] => (.error (.other "encrypted tunnel frame has unknown type"), c)

theorem encrypt_eq_ok [Aead] {kind : TunnelFrameKind} {payload aad frame : Bytes}
    {c c' : DirectionCipher} :
    c.encrypt kind payload aad = .ok (frame, c') ↔
      payload.length ≤ maxPayloadLen ∧ c.nextSendSequence + 1 < 2 ^ 64 ∧
        frame = frameOf c.nextSendSequence (c.sealedAt c.nextSendSequence kind payload aad) ∧
        c' = { c with nextSendSequence := c.nextSendSequence + 1 } := by
  unfold encrypt
  constructor
  · intro h
    obtain ⟨_, hlen, h⟩ := bind_eq_ok.mp h
    obtain ⟨next, hnext, h⟩ := bind_eq_ok.mp h
    obtain ⟨hlt, rfl⟩ := checkedSucc_eq_some.mp (orError_eq_ok.mp hnext)
    have hpair := pure_eq_ok.mp h
    cases hpair
    exact ⟨ensure_eq_ok.mp hlen, hlt, rfl, rfl⟩
  · intro hparts
    obtain ⟨hlen, hlt, rfl, rfl⟩ := hparts
    refine bind_eq_ok.mpr ⟨(), ensure_eq_ok.mpr hlen, bind_eq_ok.mpr ⟨c.nextSendSequence + 1, ?_, rfl⟩⟩
    exact orError_eq_ok.mpr (checkedSucc_eq_some.mpr ⟨hlt, rfl⟩)

/-- What decryption accepts was sealed to the frame's body, under the number it expected. -/
theorem decrypt_ok [Aead] {log : SealLog} {frame aad payload : Bytes} {kind : TunnelFrameKind}
    {c c' : DirectionCipher} (h : c.decrypt log frame aad = (.ok (kind, payload), c')) :
    c.sealedAt c.nextReceiveSequence kind payload aad ∈ log ∧
      (c.sealedAt c.nextReceiveSequence kind payload aad).ciphertext = frame.drop frameHeaderLen ∧
      c' = { c with nextReceiveSequence := c.nextReceiveSequence + 1 } := by
  unfold decrypt at h
  split at h
  · simp at h
  split at h
  · simp at h
  dsimp only at h
  split at h
  · simp at h
  rename_i hsequence
  rw [not_not.mp hsequence] at h
  split at h
  · simp at h
  rename_i plaintext hopen
  split at h
  · simp at h
  rename_i next hnext
  obtain ⟨_, rfl⟩ := checkedSucc_eq_some.mp hnext
  split at h
  · rename_i byte rest
    split at h
    · rename_i k hkind
      simp only [Prod.mk.injEq, Except.ok.injEq] at h
      obtain ⟨⟨rfl, rfl⟩, rfl⟩ := h
      obtain ⟨hmem, hbody⟩ := SealLog.open_eq_some.mp hopen
      have hbyte : k.byte = byte := by
        unfold TunnelFrameKind.ofByte at hkind
        split at hkind
        · cases hkind
          exact Eq.symm ‹byte = kindText›
        · split at hkind
          · cases hkind
            exact Eq.symm ‹byte = kindBinary›
          · cases hkind
      rw [sealedAt, hbyte]
      exact ⟨hmem, hbody, rfl⟩
    · simp at h
  · simp at h

/-- A failed decryption moves nothing, unless what opened carries no known kind. -/
theorem decrypt_error [Aead] {log : SealLog} {frame aad : Bytes} {e : Error} {c c' : DirectionCipher}
    (hkinds : ∀ r ∈ log, r.key = c.key → r.aad = aad → ∃ kind payload,
      r.plaintext = TunnelFrameKind.byte kind :: payload)
    (h : c.decrypt log frame aad = (.error e, c')) : c' = c := by
  unfold decrypt at h
  split at h
  · exact (Prod.mk.inj h).2.symm
  split at h
  · exact (Prod.mk.inj h).2.symm
  dsimp only at h
  split at h
  · exact (Prod.mk.inj h).2.symm
  split at h
  · exact (Prod.mk.inj h).2.symm
  rename_i plaintext hopen
  split at h
  · exact (Prod.mk.inj h).2.symm
  obtain ⟨hmem, _⟩ := SealLog.open_eq_some.mp hopen
  obtain ⟨kind, payload, hplain⟩ := hkinds _ hmem rfl rfl
  have hplain' : plaintext = kind.byte :: payload := hplain
  subst hplain'
  simp only [TunnelFrameKind.ofByte_byte] at h
  exact absurd (Prod.mk.inj h).1 (by simp)

/-- The frame of a logged seal under the expected number is accepted. -/
theorem decrypt_frameOf [Aead] {log : SealLog}
    {aad payload : Bytes} {kind : TunnelFrameKind} {c : DirectionCipher}
    (hmem : c.sealedAt c.nextReceiveSequence kind payload aad ∈ log)
    (hlen : payload.length ≤ maxPayloadLen) (hlt : c.nextReceiveSequence + 1 < 2 ^ 64) :
    c.decrypt log (frameOf c.nextReceiveSequence (c.sealedAt c.nextReceiveSequence kind payload aad))
      aad = (.ok (kind, payload), { c with nextReceiveSequence := c.nextReceiveSequence + 1 }) := by
  set r := c.sealedAt c.nextReceiveSequence kind payload aad with hr
  have hcipher : r.ciphertext.length = payload.length + 1 + frameTagLen := by
    rw [Sealed.ciphertext, Aead.length_encrypt]
    rfl
  have hframe : (frameOf c.nextReceiveSequence r).length = frameHeaderLen + r.ciphertext.length := by
    simp only [frameOf, List.length_append, length_toBeBytes, frameHeaderLen]
  have hmagic : (frameOf c.nextReceiveSequence r).take frameMagic.length = frameMagic := by
    rw [frameOf, List.append_assoc, List.take_left' rfl]
  have hsequence : ofBeBytes (((frameOf c.nextReceiveSequence r).drop frameMagic.length).take
      frameSequenceLen) = c.nextReceiveSequence := by
    rw [frameOf, List.append_assoc, List.drop_left' rfl, List.take_left' (length_toBeBytes _ _)]
    exact ofBeBytes_toBeBytes _ _ (by rw [frameSequenceLen]; omega)
  have hbody : (frameOf c.nextReceiveSequence r).drop frameHeaderLen = r.ciphertext := by
    rw [frameOf, List.drop_left']
    simp only [List.length_append, length_toBeBytes, frameHeaderLen]
  have hopen : log.open c.key (sequenceNonce c.noncePrefix c.nextReceiveSequence) aad r.ciphertext =
      some (kind.byte :: payload) := SealLog.open_eq_some.mpr ⟨hmem, rfl⟩
  have hmax : maxPayloadLen + 1 + frameTagLen + frameHeaderLen = maxEncryptedTunnelFrameSize := by
    decide +kernel
  unfold decrypt
  rw [if_neg (by rw [hmagic, hframe, hcipher]; simp only [ne_eq, not_true, or_false]; omega),
    if_neg (by rw [hframe, hcipher]; omega)]
  simp only [hsequence, hbody, hopen, checkedSucc_eq_some.mpr ⟨hlt, rfl⟩, ne_eq, not_true, if_false,
    TunnelFrameKind.ofByte_byte]

end DirectionCipher

/-! ### Both directions -/

structure TunnelCipher where
  accessToGateway : DirectionCipher
  gatewayToAccess : DirectionCipher
  deriving DecidableEq, Repr

def deriveKey [Ring] (prk context direction : Bytes) : Bytes := Ring.hkdfExpand prk (context ++ direction)

/-- A number of eight bytes, least significant first. -/
def toLeBytes (n : Nat) : Bytes := (toBeBytes 8 n).reverse

theorem toLeBytes_inj {m n : Nat} (hm : m < 2 ^ 64) (hn : n < 2 ^ 64) (h : toLeBytes m = toLeBytes n) :
    m = n := by
  have hwidth : 256 ^ 8 = 2 ^ 64 := by decide
  have hread := congrArg ofBeBytes (List.reverse_injective h)
  rw [ofBeBytes_toBeBytes 8 m (hwidth ▸ hm), ofBeBytes_toBeBytes 8 n (hwidth ▸ hn)] at hread
  exact hread

def tokenPairHash [Ring] (domain : Bytes) (gatewayToken userToken : String) : String :=
  hex (Ring.sha256 (domain ++ toLeBytes (bytesOf gatewayToken).length ++ bytesOf gatewayToken ++
    bytesOf userToken))

/-- The secret of a handshake with both tokens. -/
def bootstrapSecret [Ring] (gatewayToken userToken : String) : String :=
  tokenPairHash (bytesOf "ws-net/bootstrap-secret/v4\x00") gatewayToken userToken

/-- The public selector of an access's pair of tokens. -/
def accessCredentialId [Ring] (gatewayToken : String) (userToken : Option String) : String :=
  match userToken with
  | some userToken => tokenPairHash (bytesOf "ws-net/identity/v4\x00") gatewayToken userToken
  | none => credentialId gatewayToken

def connectionSalt (clientNonce serverNonce : String) : Bytes :=
  bytesOf ("ws-net/bootstrap/v3/" ++ clientNonce ++ "/" ++ serverNonce)

namespace TunnelCipher

/-- A cipher as every constructor leaves it: nothing sent, nothing received. -/
def ofKeys (accessKey gatewayKey : Bytes) : TunnelCipher :=
  ⟨.new accessKey (bytesOf "A2GW"), .new gatewayKey (bytesOf "G2AC")⟩

section Keys
variable [Ring]

def ofPrk (prk context : Bytes) : TunnelCipher :=
  ofKeys (deriveKey prk context WsNet.accessToGateway) (deriveKey prk context WsNet.gatewayToAccess)

def fromKeyMaterial (material context : Bytes) : Except Error TunnelCipher := do
  ensure (material ≠ []) (.other "empty tunnel key material")
  return ofPrk (Ring.hkdfExtract (bytesOf "ws-net tunnel hkdf salt v2") material) context

def fromSharedKey (sharedKey : String) : Except Error TunnelCipher := do
  ensure (isBlank sharedKey = false) (.other "tunnel bootstrap secret must not be empty")
  fromKeyMaterial (bytesOf sharedKey) bootstrapContext

def fromConnectionKey (token clientNonce serverNonce : String) : Except Error TunnelCipher := do
  ensure (isBlank token = false ∧ validId clientNonce = true ∧ validId serverNonce = true)
    (.other "非法握手材料")
  return ofPrk (Ring.hkdfExtract (connectionSalt clientNonce serverNonce) (bytesOf token))
    connectionContext

def fromTokens (gatewayToken : String) (userToken : Option String) (clientNonce serverNonce : String) :
    Except Error TunnelCipher := do
  ensure (isBlank gatewayToken = false ∧ ∀ token ∈ userToken, isBlank token = false)
    (.other "握手 Token 不能为空")
  match userToken with
  | some userToken =>
    fromConnectionKey (bootstrapSecret gatewayToken userToken) clientNonce serverNonce
  | none => fromConnectionKey gatewayToken clientNonce serverNonce

/-- `EphemeralKeyPair::derive_session_cipher`. -/
def deriveSessionCipher (privateKey peerPublicKey : Bytes) : Except Error TunnelCipher := do
  let sharedSecret ← orError (Ring.agree privateKey peerPublicKey) (.other "invalid tunnel peer public key")
  fromKeyMaterial sharedSecret sessionContext

end Keys

section Calls
variable [Aead]

def encryptFromAccess (kind : TunnelFrameKind) (payload : Bytes) (c : TunnelCipher) :
    Except Error (Bytes × TunnelCipher) := do
  let (frame, direction) ← c.accessToGateway.encrypt kind payload WsNet.accessToGateway
  return (frame, { c with accessToGateway := direction })

def encryptFromGateway (kind : TunnelFrameKind) (payload : Bytes) (c : TunnelCipher) :
    Except Error (Bytes × TunnelCipher) := do
  let (frame, direction) ← c.gatewayToAccess.encrypt kind payload WsNet.gatewayToAccess
  return (frame, { c with gatewayToAccess := direction })

def decryptFromAccess (log : SealLog) (frame : Bytes) (c : TunnelCipher) :
    Except Error (TunnelFrameKind × Bytes) × TunnelCipher :=
  let (result, direction) := c.accessToGateway.decrypt log frame WsNet.accessToGateway
  (result, { c with accessToGateway := direction })

def decryptFromGateway (log : SealLog) (frame : Bytes) (c : TunnelCipher) :
    Except Error (TunnelFrameKind × Bytes) × TunnelCipher :=
  let (result, direction) := c.gatewayToAccess.decrypt log frame WsNet.gatewayToAccess
  (result, { c with gatewayToAccess := direction })

end Calls

end TunnelCipher

end WsNet
