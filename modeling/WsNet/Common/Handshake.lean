import WsNet.Common.WsMessage

/-! What the two sides of a handshake share: the headers of the upgrade, and the
keys of the ciphers that protect the registration.

A handshake of version 3 or 4 mixes a nonce of each side into its keys. The
header-less one of older programs does not: its keys are the token's. -/
namespace WsNet
open Crypto

/-! ### Headers -/

abbrev HeaderMap := List (String × Bytes)

namespace HeaderMap

/-- The first value of a name. -/
def get (headers : HeaderMap) (name : String) : Option Bytes := headers.lookup name

/-- `HeaderValue::to_str`: visible ASCII only. -/
def toStr (value : Bytes) : Option String :=
  if value.all (fun b => (32 ≤ b && b < 127) || b == 9) then
    some (String.ofList (value.map fun b => Char.ofNat b.toNat))
  else none

/-- The first value of a name, when it is readable. -/
def text (headers : HeaderMap) (name : String) : Option String := (headers.get name).bind toStr

end HeaderMap

/-- Visible ASCII reads back from a header. -/
theorem toStr_of_visible {s : String} (h : ∀ c ∈ s.toList, 32 ≤ c.toNat ∧ c.toNat < 127) :
    HeaderMap.toStr (bytesOf s) = some s := by
  have hascii : ∀ c ∈ s.toList, c.toNat < 128 := fun c hc => by
    have := h c hc
    omega
  have hbyte : ∀ c ∈ s.toList, (UInt8.ofNat c.toNat).toNat = c.toNat := fun c hc => by
    have := h c hc
    rw [UInt8.toNat_ofNat']
    omega
  rw [bytesOf_ascii hascii]
  have hall : (s.toList.map fun c => UInt8.ofNat c.toNat).all
      (fun b => (32 ≤ b && b < 127) || b == 9) = true := by
    rw [List.all_map, List.all_eq_true]
    intro c hc
    have hv := h c hc
    have hb := hbyte c hc
    have hlow : (32 : UInt8) ≤ UInt8.ofNat c.toNat := by
      rw [UInt8.le_iff_toNat_le, hb]
      exact hv.1
    have hhigh : UInt8.ofNat c.toNat < 127 := by
      rw [UInt8.lt_iff_toNat_lt, hb]
      exact hv.2
    simp [hlow, hhigh]
  unfold HeaderMap.toStr
  rw [if_pos hall, List.map_map]
  congr 1
  have hmap : s.toList.map ((fun b => Char.ofNat b.toNat) ∘ fun c => UInt8.ofNat c.toNat) = s.toList := by
    conv_rhs => rw [← List.map_id s.toList]
    apply List.map_congr_left
    intro c hc
    show Char.ofNat (UInt8.ofNat c.toNat).toNat = c
    rw [hbyte c hc]
    exact Char.ofNat_toNat c
  rw [hmap, String.ofList_toList]

theorem visible_of_hexDigit {c : Char} (h : isAsciiHexDigit c = true) : 32 ≤ c.toNat ∧ c.toNat < 127 := by
  simp only [isAsciiHexDigit, isAsciiDigit, Bool.or_eq_true, Bool.and_eq_true, decide_eq_true_eq,
    Char.le_def, UInt32.le_iff_toNat_le] at h
  have hdigits : ('0' : Char).val.toNat = 48 ∧ ('9' : Char).val.toNat = 57 ∧ ('a' : Char).val.toNat = 97 ∧
      ('f' : Char).val.toNat = 102 ∧ ('A' : Char).val.toNat = 65 ∧ ('F' : Char).val.toNat = 70 := by decide
  show 32 ≤ c.val.toNat ∧ c.val.toNat < 127
  omega

theorem toStr_of_validId {value : String} (h : validId value = true) :
    HeaderMap.toStr (bytesOf value) = some value := by
  unfold validId at h
  rw [Bool.and_eq_true, List.all_eq_true] at h
  exact toStr_of_visible fun c hc => visible_of_hexDigit (h.2 c hc)

theorem HeaderMap.text_eq {headers : HeaderMap} {name value : String}
    (h : headers.get name = some (bytesOf value)) (hv : validId value = true) :
    headers.text name = some value := by
  rw [HeaderMap.text, h]
  exact toStr_of_validId hv
def protocolHeader : String := "x-ws-net-protocol"
def credentialHeader : String := "x-ws-net-credential"
def gatewayCredentialHeader : String := "x-ws-net-gateway-credential"
def userAuthHeader : String := "x-ws-net-user-auth"
def clientNonceHeader : String := "x-ws-net-client-nonce"
def serverNonceHeader : String := "x-ws-net-server-nonce"

/-! ### Keys -/

section Keys
variable [Ring]

/-- The secret of a handshake: both tokens, or the gateway's alone. -/
def handshakeSecret (gatewayToken : String) : Option String → String
  | some userToken => bootstrapSecret gatewayToken userToken
  | none => gatewayToken

/-- A direction's key in a handshake of version 3 or 4. -/
def connectionKey (secret clientNonce serverNonce : String) (direction : Bytes) : Bytes :=
  deriveKey (Ring.hkdfExtract (connectionSalt clientNonce serverNonce) (bytesOf secret))
    connectionContext direction

/-- A direction's key in a header-less handshake. -/
def legacyKey (token : String) (direction : Bytes) : Bytes :=
  deriveKey (Ring.hkdfExtract (bytesOf "ws-net tunnel hkdf salt v2") (bytesOf token))
    bootstrapContext direction

theorem fromConnectionKey_ok {secret clientNonce serverNonce : String} {cipher : TunnelCipher}
    (h : TunnelCipher.fromConnectionKey secret clientNonce serverNonce = .ok cipher) :
    validId clientNonce = true ∧ validId serverNonce = true ∧
      cipher = .ofKeys (connectionKey secret clientNonce serverNonce accessToGateway)
        (connectionKey secret clientNonce serverNonce gatewayToAccess) := by
  obtain ⟨_, hvalid, h⟩ := bind_eq_ok.mp h
  obtain ⟨_, hclient, hserver⟩ := ensure_eq_ok.mp hvalid
  exact ⟨hclient, hserver, (pure_eq_ok.mp h).symm⟩

/-- The ciphers of a handshake with nonces, whichever tokens it has. -/
theorem fromTokens_ok {gatewayToken clientNonce serverNonce : String} {userToken : Option String}
    {cipher : TunnelCipher}
    (h : TunnelCipher.fromTokens gatewayToken userToken clientNonce serverNonce = .ok cipher) :
    validId clientNonce = true ∧ validId serverNonce = true ∧
      let secret := handshakeSecret gatewayToken userToken
      cipher = .ofKeys (connectionKey secret clientNonce serverNonce accessToGateway)
        (connectionKey secret clientNonce serverNonce gatewayToAccess) := by
  obtain ⟨_, _, h⟩ := bind_eq_ok.mp h
  cases userToken with
  | none => exact fromConnectionKey_ok h
  | some userToken => exact fromConnectionKey_ok h

theorem fromSharedKey_ok {token : String} {cipher : TunnelCipher}
    (h : TunnelCipher.fromSharedKey token = .ok cipher) :
    cipher = .ofKeys (legacyKey token accessToGateway) (legacyKey token gatewayToAccess) := by
  obtain ⟨_, _, h⟩ := bind_eq_ok.mp h
  obtain ⟨_, _, h⟩ := bind_eq_ok.mp h
  exact (pure_eq_ok.mp h).symm

end Keys

/-! ### Keys of different handshakes -/

theorem validId_length {value : String} (h : validId value = true) : value.toList.length = 64 := by
  unfold validId at h
  simp only [Bool.and_eq_true, beq_iff_eq] at h
  exact h.1

/-- Nonces are of one length: the salt determines both. -/
theorem connectionSalt_inj {client server client' server' : String} (h : validId client = true)
    (h' : validId client' = true)
    (he : connectionSalt client server = connectionSalt client' server') :
    client = client' ∧ server = server' := by
  have hstr := bytesOf_inj he
  rw [← String.toList_inj] at hstr
  simp only [String.toList_append, List.append_assoc] at hstr
  have hrest := List.append_cancel_left hstr
  obtain ⟨hclient, hrest⟩ := List.append_inj hrest (by rw [validId_length h, validId_length h'])
  exact ⟨String.toList_inj.mp hclient, String.toList_inj.mp (List.append_cancel_left hrest)⟩

section Ideal
variable [Ring] (ideal : Ring.Ideal)
include ideal

/-- Handshakes with nonces share a key only if they agree on everything. -/
theorem connectionKey_inj {secret client server secret' client' server' : String}
    {direction direction' : Bytes} (h : validId client = true) (h' : validId client' = true)
    (he : connectionKey secret client server direction =
      connectionKey secret' client' server' direction') :
    secret = secret' ∧ client = client' ∧ server = server' ∧ direction = direction' := by
  obtain ⟨hprk, hinfo⟩ := ideal.expand_inj _ _ _ _ he
  obtain ⟨hsalt, hsecret⟩ := ideal.extract_inj _ _ _ _ hprk
  obtain ⟨hclient, hserver⟩ := connectionSalt_inj h h' hsalt
  exact ⟨bytesOf_inj hsecret, hclient, hserver, List.append_cancel_left hinfo⟩

theorem legacyKey_inj {token token' : String} {direction direction' : Bytes}
    (he : legacyKey token direction = legacyKey token' direction') :
    token = token' ∧ direction = direction' := by
  obtain ⟨hprk, hinfo⟩ := ideal.expand_inj _ _ _ _ he
  obtain ⟨_, htoken⟩ := ideal.extract_inj _ _ _ _ hprk
  exact ⟨bytesOf_inj htoken, List.append_cancel_left hinfo⟩

/-- No handshake with nonces has a key of a header-less one. -/
theorem connectionKey_ne_legacyKey {secret client server token : String}
    {direction direction' : Bytes} :
    connectionKey secret client server direction ≠ legacyKey token direction' := by
  intro he
  obtain ⟨_, hinfo⟩ := ideal.expand_inj _ _ _ _ he
  have hlength : connectionContext.length = bootstrapContext.length := by decide +kernel
  have hcontext := (List.append_inj hinfo hlength).1
  have hne : connectionContext ≠ bootstrapContext := by decide +kernel
  exact hne hcontext

end Ideal

end WsNet
