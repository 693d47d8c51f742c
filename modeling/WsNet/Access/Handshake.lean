import WsNet.Common.Handshake

/-! The access's side of the handshake.

The access asks for an upgrade, reads three headers of the response, registers
under the cipher they select, and is connected when the answer opens under the
same cipher and is of the right type. -/
namespace WsNet.Access
open Crypto

section Handshake
variable [Ring]

def requestHeaders (token : String) (userToken : Option String) (clientNonce : String) : HeaderMap :=
  [(protocolHeader, bytesOf (if userToken.isSome then "4" else "3")),
    (credentialHeader, bytesOf (credentialId (userToken.getD token))),
    (gatewayCredentialHeader, bytesOf (credentialId token)),
    (clientNonceHeader, bytesOf clientNonce)]

/-- What a refused upgrade means: the status, and the error in the body if there is
one. -/
def upgradeRefused (userToken : Option String) (status : Nat) (body : Option GatewayError) : Error :=
  if status = 401 then
    .gateway ((body.filter (·.code = "UNAUTHORIZED")).getD .unauthorized)
  else if userToken.isSome ∧ status = 400 then
    .gateway ⟨"UNAUTHORIZED", "网关不支持双 Token 鉴权，请升级 gateway；已停止自动重连。"⟩
  else .other "http error"

/-! ### The response -/

/-- What the response selects. -/
structure Negotiated where
  v3 : Bool
  v4 : Bool
  userAuth : Bool
  bootstrap : TunnelCipher
  deriving DecidableEq, Repr

/-- Whether the gateway says that it authenticates users. -/
def confirmedUserAuth (v4 : Bool) (response : HeaderMap) : Except Error Bool :=
  if v4 then
    match response.text userAuthHeader with
    | some "true" => .ok true
    | some "false" => .ok false
    | _ => .error (.gateway ⟨"UNAUTHORIZED", "网关未确认用户鉴权状态，已停止自动重连。"⟩)
  else .ok false

def bootstrapCipher (token : String) (userToken : Option String) (clientNonce : String)
    (serverNonce : Option String) (userAuth : Bool) : Except Error TunnelCipher :=
  match serverNonce with
  | some serverNonce =>
    TunnelCipher.fromTokens token (if userAuth then userToken else none) clientNonce serverNonce
  | none => TunnelCipher.fromSharedKey token

def negotiate (token : String) (userToken : Option String) (clientNonce : String)
    (response : HeaderMap) : Except Error Negotiated := do
  let serverNonce := response.text serverNonceHeader
  let v4 := response.get protocolHeader == some (bytesOf "4")
  ensure (¬ (userToken.isSome ∧ v4 = false)) (.gateway ⟨"UNAUTHORIZED",
    "网关未确认双 Token 鉴权，拒绝降级连接；已停止自动重连。"⟩)
  let userAuth ← confirmedUserAuth v4 response
  ensure (¬ (userAuth ∧ userToken.isNone)) (.gateway .unauthorized)
  let bootstrap ← bootstrapCipher token userToken clientNonce serverNonce userAuth
  return ⟨serverNonce.isSome, v4, userAuth, bootstrap⟩

theorem negotiate_ok {token clientNonce : String} {userToken : Option String} {response : HeaderMap}
    {n : Negotiated} (h : negotiate token userToken clientNonce response = .ok n) :
    (n.userAuth = true → userToken.isSome = true) ∧
      n.v3 = (response.text serverNonceHeader).isSome ∧
      n.v4 = (response.get protocolHeader == some (bytesOf "4")) ∧
      bootstrapCipher token userToken clientNonce (response.text serverNonceHeader) n.userAuth =
        .ok n.bootstrap := by
  obtain ⟨_, _, h⟩ := bind_eq_ok.mp h
  obtain ⟨userAuth, _, h⟩ := bind_eq_ok.mp h
  obtain ⟨_, huser, h⟩ := bind_eq_ok.mp h
  obtain ⟨bootstrap, hcipher, h⟩ := bind_eq_ok.mp h
  have hn := pure_eq_ok.mp h
  subst hn
  refine ⟨fun ha => ?_, rfl, rfl, hcipher⟩
  have huser := ensure_eq_ok.mp huser
  cases userToken with
  | none => exact absurd ⟨ha, rfl⟩ huser
  | some userToken => rfl

/-! ### The registration -/

namespace Negotiated

def registration (token instanceId : String) (publicKey : Bytes) (n : Negotiated) : Message :=
  if n.v4 then .registerAccessV4 instanceId publicKey
  else if n.v3 then .registerAccessV3 instanceId publicKey
  else .registerAccess token publicKey

/-- The gateway's public key in the answer. -/
def answer (n : Negotiated) : Message → Except Error Bytes
  | .registerOkV4 gatewayPublicKey _ confirmed =>
    if n.v4 ∧ confirmed = n.userAuth then .ok gatewayPublicKey
    else .error (.other "网关注册响应类型不正确")
  | .registerOkV3 gatewayPublicKey _ =>
    if n.v3 ∧ ¬ n.v4 then .ok gatewayPublicKey else .error (.other "网关注册响应类型不正确")
  | .registerOk gatewayPublicKey =>
    if ¬ n.v3 then .ok gatewayPublicKey else .error (.other "网关注册响应类型不正确")
  | .error _ code message => .error (.gateway ⟨code, message⟩)
  | _ => .error (.other "网关注册响应类型不正确")

end Negotiated

/-- A session that has reached the connected state. -/
structure Connected where
  negotiated : Negotiated
  cipher : TunnelCipher
  deriving DecidableEq, Repr

variable [Aead] [MessageCodec]

/-- The registration as it is sent, and the cipher after it. -/
def Negotiated.register (token instanceId : String) (privateKey : Bytes) (n : Negotiated) :
    Except Error (WsMessage × TunnelCipher) :=
  encryptAccessMessage n.bootstrap
    (.text (encodeMessage (n.registration token instanceId (Ring.publicKey privateKey))))

/-- `run_gateway_session` up to the connected state: the response of the upgrade and
the first message after it. -/
def connect (log : SealLog) (token : String) (userToken : Option String)
    (instanceId clientNonce : String) (privateKey : Bytes) (response : HeaderMap)
    (first : Option WsMessage) : Except Error Connected := do
  let n ← negotiate token userToken clientNonce response
  let (_, bootstrap) ← n.register token instanceId privateKey
  let frame ← orError first (.gateway (.network "网关在鉴权完成前关闭连接"))
  let message ← (decodeGatewayMessage log bootstrap frame).1
  let gatewayPublicKey ← n.answer message
  let cipher ← TunnelCipher.deriveSessionCipher privateKey gatewayPublicKey
  return ⟨n, cipher⟩

/-! ### What a connected session has seen -/

/-- Registering moves the sending side of the cipher only. -/
theorem register_ok {token instanceId : String} {privateKey : Bytes} {n : Negotiated}
    {frame : WsMessage} {bootstrap : TunnelCipher}
    (h : n.register token instanceId privateKey = .ok (frame, bootstrap)) :
    bootstrap.gatewayToAccess = n.bootstrap.gatewayToAccess := by
  obtain ⟨⟨bytes, cipher⟩, hc, h⟩ := bind_eq_ok.mp h
  obtain ⟨⟨bytes', direction⟩, _, hc⟩ := bind_eq_ok.mp hc
  cases pure_eq_ok.mp hc
  cases pure_eq_ok.mp h
  rfl

/-- The seal that a frame opened by, under a cipher that has received nothing. -/
structure OpenedBy (log : SealLog) (cipher : TunnelCipher) (frame : WsMessage) (r : Sealed) : Prop where
  logged : r ∈ log
  key : r.key = cipher.gatewayToAccess.key
  nonce : r.nonce = sequenceNonce cipher.gatewayToAccess.noncePrefix 0
  aad : r.aad = gatewayToAccess
  body : ∃ bytes, frame = .binary bytes ∧ r.ciphertext = bytes.drop frameHeaderLen

theorem connect_ok {log : SealLog} {token instanceId clientNonce : String} {userToken : Option String}
    {privateKey : Bytes} {response : HeaderMap} {first : Option WsMessage} {connected : Connected}
    (h : connect log token userToken instanceId clientNonce privateKey response first =
      .ok connected) :
    negotiate token userToken clientNonce response = .ok connected.negotiated ∧
      ∃ frame bootstrap message, first = some frame ∧
        bootstrap.gatewayToAccess = connected.negotiated.bootstrap.gatewayToAccess ∧
        (decodeGatewayMessage log bootstrap frame).1 = .ok message ∧
        (connected.negotiated.answer message).isOk = true := by
  obtain ⟨n, hn, h⟩ := bind_eq_ok.mp h
  obtain ⟨⟨sent, bootstrap⟩, hr, h⟩ := bind_eq_ok.mp h
  obtain ⟨frame, hframe, h⟩ := bind_eq_ok.mp h
  obtain ⟨message, hm, h⟩ := bind_eq_ok.mp h
  obtain ⟨gatewayPublicKey, hk, h⟩ := bind_eq_ok.mp h
  obtain ⟨cipher, _, h⟩ := bind_eq_ok.mp h
  cases pure_eq_ok.mp h
  refine ⟨hn, frame, bootstrap, message, orError_eq_ok.mp hframe, register_ok hr, hm, ?_⟩
  show (n.answer message).isOk = true
  rw [hk]
  rfl

end Handshake

end WsNet.Access
