import WsNet.Common.Handshake
import WsNet.Gateway.Registry

/-! The gateway's side of the handshake.

The upgrade request selects the tokens and the version; the connection then takes
one message, which must be a registration of that version, and answers it once
under the same cipher: with a refusal or with its public key. -/
namespace WsNet.Gateway
open Crypto

section Handshake
variable [Ring]

/-! ### The upgrade -/

/-- What the upgrade of a handshake with nonces leaves for its connection. -/
structure Bootstrap where
  token : String
  userToken : Option String
  cipher : TunnelCipher
  serverNonce : String
  dual : Bool
  deriving DecidableEq, Repr

/-- A status and the error in the body. -/
structure Rejection where
  status : Nat
  error : GatewayError
  deriving DecidableEq, Repr

/-- A header's text, or nothing. -/
def headerText (headers : HeaderMap) (name : String) : String := (headers.text name).getD ""

/-- The upgrade of a request with a version header. -/
def versionedEntry (headers : HeaderMap) (version : Bytes) (serverNonce : String) (runtime : Runtime) :
    Except Rejection Bootstrap := do
  ensure (version = bytesOf "3" ∨ version = bytesOf "4")
    ⟨400, ⟨"PROTOCOL_ERROR", "不支持的隧道协议版本"⟩⟩
  let id := headerText headers credentialHeader
  let clientNonce := headerText headers clientNonceHeader
  ensure (validId id = true ∧ validId clientNonce = true) ⟨401, .unauthorized⟩
  let dual := version == bytesOf "4"
  let gatewayId := if dual then headerText headers gatewayCredentialHeader else id
  let (token, userToken) ← (AppState.bootstrapTokens gatewayId (if dual then some id else none)
    runtime).mapError fun e => ⟨401, e.gatewayError.getD .unauthorized⟩
  let cipher ← (TunnelCipher.fromTokens token userToken clientNonce serverNonce).mapError
    fun _ => ⟨401, .unauthorized⟩
  return ⟨token, userToken, cipher, serverNonce, dual⟩

/-- `ws_entry`, with the nonce drawn for the connection. -/
def wsEntry (headers : HeaderMap) (serverNonce : String) (runtime : Runtime) :
    Except Rejection (Option Bootstrap) :=
  match headers.get protocolHeader with
  | some version => (versionedEntry headers version serverNonce runtime).map some
  | none => if runtime.config.auth.enabled then .error ⟨401, .unauthorized⟩ else .ok none

def responseHeaders : Option Bootstrap → HeaderMap
  | none => []
  | some b =>
    [(serverNonceHeader, bytesOf b.serverNonce), (protocolHeader, bytesOf (if b.dual then "4" else "3"))] ++
      if b.dual then [(userAuthHeader, bytesOf (if b.userToken.isSome then "true" else "false"))] else []

/-! ### The connection -/

/-- The tokens and the cipher with which a connection starts: those of its upgrade, or
the shared token's. -/
def startHandshake (bootstrap : Option Bootstrap) (runtime : Runtime) :
    Except Error (String × Option String × TunnelCipher) :=
  match bootstrap with
  | some b => return (b.token, b.userToken, b.cipher)
  | none => do
    let token := runtime.config.auth.accessToken
    let cipher ← TunnelCipher.fromSharedKey token
    return (token, none, cipher)

/-- The instance and the public key of a registration of the connection's version.
An older access has no instance; one is drawn for it. -/
def registrationOf (bootstrap : Option Bootstrap) (token drawnInstance : String) :
    Message → Option (String × Bytes)
  | .registerAccessV4 instanceId clientPublicKey =>
    if bootstrap.any (·.dual) then some (instanceId, clientPublicKey) else none
  | .registerAccessV3 instanceId clientPublicKey =>
    if bootstrap.any (!·.dual) then some (instanceId, clientPublicKey) else none
  | .registerAccess submitted clientPublicKey =>
    if bootstrap.isNone ∧ submitted = token then some (drawnInstance, clientPublicKey) else none
  | _ => none

/-- Whether a registration needs a gateway without users. -/
def isLegacy (bootstrap : Option Bootstrap) : Bool := !bootstrap.any (·.dual)

def refusal (error : GatewayError) : Message := .error none error.code error.message

def registerOk (bootstrap : Option Bootstrap) (gatewayPublicKey : Bytes) (userName : String) : Message :=
  match bootstrap with
  | some b =>
    if b.dual then .registerOkV4 gatewayPublicKey userName b.userToken.isSome
    else .registerOkV3 gatewayPublicKey userName
  | none => .registerOk gatewayPublicKey

/-- The error that a failed registration is refused with. -/
def refusalOf (e : Error) : GatewayError := e.gatewayError.getD .unauthorized

/-! ### What an upgrade has checked -/

theorem bootstrapTokens_ok {gatewayId token : String} {userId userToken : Option String}
    {runtime : Runtime}
    (h : AppState.bootstrapTokens gatewayId userId runtime = .ok (token, userToken)) :
    token = runtime.config.auth.accessToken ∧
      userToken.isSome = runtime.config.auth.enabled := by
  obtain ⟨_, _, h⟩ := bind_eq_ok.mp h
  split at h
  · rename_i he
    obtain ⟨credential, _, h⟩ := bind_eq_ok.mp h
    cases pure_eq_ok.mp h
    exact ⟨rfl, he.symm⟩
  · rename_i he
    cases pure_eq_ok.mp h
    exact ⟨rfl, by simpa using he⟩

theorem wsEntry_ok {headers : HeaderMap} {serverNonce : String} {runtime : Runtime} {b : Bootstrap}
    (h : wsEntry headers serverNonce runtime = .ok (some b)) :
    b.serverNonce = serverNonce ∧ b.token = runtime.config.auth.accessToken ∧
      TunnelCipher.fromTokens b.token b.userToken (headerText headers clientNonceHeader) serverNonce =
        .ok b.cipher := by
  unfold wsEntry at h
  split at h
  · rename_i version _
    cases hv : versionedEntry headers version serverNonce runtime with
    | error e =>
      rw [hv] at h
      cases h
    | ok b' =>
      rw [hv] at h
      cases h
      obtain ⟨_, _, hv⟩ := bind_eq_ok.mp hv
      obtain ⟨_, _, hv⟩ := bind_eq_ok.mp hv
      obtain ⟨⟨token, userToken⟩, htokens, hv⟩ := bind_eq_ok.mp hv
      obtain ⟨cipher, hcipher, hv⟩ := bind_eq_ok.mp hv
      cases pure_eq_ok.mp hv
      exact ⟨rfl, (bootstrapTokens_ok (mapError_eq_ok.mp htokens)).1, mapError_eq_ok.mp hcipher⟩
  · split at h <;> cases h

end Handshake

end WsNet.Gateway
