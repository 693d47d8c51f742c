import WsNet.Access.Connection
import WsNet.Access.Handshake
import WsNet.Common.AccessConfig
import WsNet.Gateway.Handshake
import WsNet.Gateway.Takeover

/-! A handshake between an access and a gateway with nothing in between.

Each side runs its own code on what the other has sent: the headers of the upgrade
and of its response, the registration and its answer. The two sides choose their
tokens, their version and their cipher apart from each other. -/
namespace WsNet.Handshake
open Crypto Data Gateway Transition

/-! ### The two sides -/

/-- A connection of the access to one of its gateways, and what is drawn for it. -/
structure AccessParty where
  gateway : AccessGatewayConfig
  instanceId : String
  clientNonce : String
  privateKey : Bytes
  connection : Access.GatewayConnection

/-- The gateway's registry, and what is drawn for the connection. -/
structure GatewayParty where
  runtime : Runtime
  serverNonce : String
  sessionId : String
  drawnInstance : String
  privateKey : Bytes

/-- A session that the gateway has created: its version, whether its user is
authenticated, and its cipher. -/
structure GatewaySession where
  dual : Bool
  userAuth : Bool
  cipher : TunnelCipher
  deriving DecidableEq, Repr

/-- The gateway once the registration has been dealt with. -/
structure Reply where
  runtime : Runtime
  session : Option GatewaySession
  log : SealLog
  /-- The answer; without one the connection is closed. -/
  frame : Option WsMessage

/-- The access, and the gateway with the session that it has registered. -/
structure Exchanged where
  access : Except Error (Access.Connected × Access.GatewayConnection)
  runtime : Runtime
  session : Option GatewaySession

/-- `run_gateway_session`, before the connection counts as connected. -/
def enterSession (c : Access.GatewayConnection) : Except Error Access.GatewayConnection :=
  match c.identity with
  | some error => .error (.gateway error)
  | none => if c.stopped then .error (.other "网关连接已停止") else .ok { c with closed := false }

/-- `run_gateway_connection`, after a session that ended with an error. -/
def afterSession (error : Error) (c : Access.GatewayConnection) : Access.GatewayConnection :=
  let c :=
    match error with
    | .gateway e => if e.terminal then (c.stopIdentity e).1 else c
    | .other _ => c
  (c.closeGatewayConnection error.text).1

/-- The condition of its loop. -/
def reconnects (c : Access.GatewayConnection) : Bool := !c.stopped && c.identity.isNone

theorem enterSession_of_reconnects {c : Access.GatewayConnection} (hruns : reconnects c = true) :
    enterSession c = .ok { c with closed := false } := by
  unfold reconnects at hruns
  rw [Bool.and_eq_true, Bool.not_eq_true', Option.isNone_iff_eq_none] at hruns
  obtain ⟨hstopped, hidentity⟩ := hruns
  simp only [enterSession, hidentity, hstopped, Bool.false_eq_true, if_false]

/-- After a terminal error the loop ends. -/
theorem afterSession_terminal {error : GatewayError} {c : Access.GatewayConnection}
    (hterminal : error.terminal = true) (hruns : reconnects c = true) :
    reconnects (afterSession (.gateway error) c) = false := by
  have hidentity : c.identity.isSome = false := by
    unfold reconnects at hruns
    rw [Bool.and_eq_true, Option.isNone_iff_eq_none] at hruns
    rw [hruns.2]
    rfl
  have hstopped : ∀ (c : Access.GatewayConnection) (reason : String),
      c.stopped = true → (c.closeGatewayConnection reason).1.stopped = true := by
    intro c reason hc
    unfold Access.GatewayConnection.closeGatewayConnection
    split <;> exact hc
  unfold reconnects afterSession
  simp only [hterminal, if_true, Access.GatewayConnection.stopIdentity, hidentity, Bool.false_eq_true,
    if_false]
  rw [hstopped _ _ (hstopped _ _ rfl)]
  rfl

section Exchange
variable [NetLiterals] [Ring] [Aead] [MessageCodec]

/-- A text message, as it is sealed next. -/
def sealOf (c : DirectionCipher) (message : Message) (aad : Bytes) : Sealed :=
  c.sealedAt c.nextSendSequence .text (bytesOf (encodeMessage message)) aad

/-- An answer under the handshake's cipher; a failure drops the session again. -/
def respond (log : SealLog) (runtime dropped : Runtime) (session : Option GatewaySession)
    (cipher : TunnelCipher) (message : Message) : Reply :=
  match encryptGatewayMessage cipher (.text (encodeMessage message)) with
  | .ok (frame, _) =>
    ⟨runtime, session, sealOf cipher.gatewayToAccess message gatewayToAccess :: log, some frame⟩
  | .error _ => ⟨dropped, none, log, none⟩

/-- `handle_socket_result` up to its answer. -/
def answer (log : SealLog) (bootstrap : Option Bootstrap) (frame : WsMessage) (g : GatewayParty) : Reply :=
  match startHandshake bootstrap g.runtime with
  | .error _ => ⟨g.runtime, none, log, none⟩
  | .ok (token, userToken, cipher) =>
    let (result, cipher) := decodeAccessMessage log cipher frame
    match result.toOption.bind (registrationOf bootstrap token g.drawnInstance) with
    | none => respond log g.runtime g.runtime none cipher (refusal .unauthorized)
    | some (instanceId, clientPublicKey) =>
      match TunnelCipher.deriveSessionCipher g.privateKey clientPublicKey with
      | .error _ => ⟨g.runtime, none, log, none⟩
      | .ok session =>
        match AppState.register g.sessionId token userToken instanceId (isLegacy bootstrap) g.runtime with
        | .error e => respond log g.runtime g.runtime none cipher (refusal (refusalOf e))
        | .ok (runtime, _, userName) =>
          let session := ⟨bootstrap.any (·.dual), userToken.isSome, session⟩
          respond log runtime (AppState.dropLease g.sessionId runtime) (some session) cipher
            (registerOk bootstrap (Ring.publicKey g.privateKey) userName)

/-- The access after the upgrade: it registers and takes the answer. -/
def registering (log : SealLog) (bootstrap : Option Bootstrap) (n : Access.Negotiated) (a : AccessParty)
    (g : GatewayParty) : Exchanged :=
  match n.register a.gateway.token a.instanceId a.privateKey with
  | .error e => ⟨.error e, g.runtime, none⟩
  | .ok (frame, _) =>
    let registration := n.registration a.gateway.token a.instanceId (Ring.publicKey a.privateKey)
    let log := sealOf n.bootstrap.accessToGateway registration accessToGateway :: log
    let reply := answer log bootstrap frame g
    let access := do
      let connected ← Access.connect reply.log a.gateway.token a.gateway.userToken a.instanceId
        a.clientNonce a.privateKey (responseHeaders bootstrap) reply.frame
      let connection ← enterSession a.connection
      return (connected, connection)
    ⟨access, reply.runtime, reply.session⟩

def exchange (log : SealLog) (a : AccessParty) (g : GatewayParty) : Exchanged :=
  let headers := Access.requestHeaders a.gateway.token a.gateway.userToken a.clientNonce
  match wsEntry headers g.serverNonce g.runtime with
  | .error r =>
    ⟨.error (Access.upgradeRefused a.gateway.userToken r.status (some r.error)), g.runtime, none⟩
  | .ok bootstrap =>
    match Access.negotiate a.gateway.token a.gateway.userToken a.clientNonce (responseHeaders bootstrap) with
    | .error e => ⟨.error e, g.runtime, none⟩
    | .ok n => registering log bootstrap n a g

end Exchange

/-! ### What is assumed -/

section Assumptions
variable [Ring]

/-- The access's side: a gateway of a valid configuration, and a connection whose loop runs. -/
structure HonestAccess (a : AccessParty) : Prop where
  configured : ∃ (config : AccessConfig) (gateways : List AccessGatewayConfig),
    config.gatewayConfigs = .ok gateways ∧ a.gateway ∈ gateways
  instanceId : validId a.instanceId = true
  clientNonce : validId a.clientNonce = true
  runs : reconnects a.connection = true

/-- The tokens that take part. -/
def tokensOf (a : AccessParty) (config : GatewayConfig) : List String :=
  a.gateway.token :: config.auth.accessToken :: (a.gateway.userToken.toList ++ config.users.map (·.token))

/-- Digests have 32 bytes, and those of the tokens differ. -/
structure Digests (a : AccessParty) (config : GatewayConfig) : Prop where
  length : ∀ bytes : Bytes, (Ring.sha256 bytes).length = 32
  distinct : ∀ t ∈ tokensOf a config, ∀ t' ∈ tokensOf a config, credentialId t = credentialId t' → t = t'

/-- X25519 works: both sides get one secret. -/
def KeysAgree (a : AccessParty) (g : GatewayParty) : Prop :=
  ∃ secret, secret ≠ [] ∧ Ring.agree a.privateKey (Ring.publicKey g.privateKey) = some secret ∧
    Ring.agree g.privateKey (Ring.publicKey a.privateKey) = some secret

/-- The gateway's side. -/
structure HonestGateway [NetLiterals] (g : GatewayParty) : Prop where
  runtime : registry.Reachable g.runtime
  serverNonce : validId g.serverNonce = true

section Texts
variable [MessageCodec]

/-- The message's text fits in a frame. -/
def Fits (message : Message) : Prop := (bytesOf (encodeMessage message)).length ≤ maxPayloadLen

instance (message : Message) : Decidable (Fits message) := inferInstanceAs (Decidable (_ ≤ _))

/-- The registration, of an identifier and a public key, is short, and so is the refusal
of a retired instance. -/
structure ShortTexts (a : AccessParty) : Prop where
  registration : Fits (.registerAccessV3 a.instanceId (Ring.publicKey a.privateKey)) ∧
    Fits (.registerAccessV4 a.instanceId (Ring.publicKey a.privateKey))
  replaced : Fits (refusal .replaced)

/-- The names that an answer may carry. -/
def namesOf (config : GatewayConfig) : List String :=
  if config.auth.enabled then config.users.map (·.name) else [(sharedCredential config.auth).name]

/-- No name is too long for the answer to a registration. -/
def AnswersFit (g : GatewayParty) : Prop :=
  ∀ name ∈ namesOf g.runtime.config, ∀ userAuth,
    Fits (.registerOkV3 (Ring.publicKey g.privateKey) name) ∧
      Fits (.registerOkV4 (Ring.publicKey g.privateKey) name userAuth)

end Texts

/-- The token that stands for the access. -/
def ownToken (a : AccessParty) (config : GatewayConfig) : String :=
  if config.auth.enabled then a.gateway.userToken.getD "" else a.gateway.token

/-- The tokens are the gateway's and, with users, a user's; the instance is not retired. -/
structure Admissible (a : AccessParty) (g : GatewayParty) : Prop where
  gateway : a.gateway.token = g.runtime.config.auth.accessToken
  user : g.runtime.config.auth.enabled = true →
    ∃ user ∈ g.runtime.config.users, a.gateway.userToken = some user.token
  active : (credentialId (ownToken a g.runtime.config), a.instanceId) ∉ g.runtime.retired

end Assumptions

/-! ### The upgrade -/

section Upgrade
variable [Ring]

omit [Ring] in
theorem honest_tokens {a : AccessParty} (h : HonestAccess a) :
    isBlank a.gateway.token = false ∧ ∀ token ∈ a.gateway.userToken, isBlank token = false := by
  obtain ⟨config, gateways, hconfig, hmem⟩ := h.configured
  obtain ⟨_, _, hchecks⟩ := bind_eq_ok.mp ((AccessConfig.valid_of_gatewayConfigs hconfig).gateway _ hmem)
  obtain ⟨_, _, hchecks⟩ := bind_eq_ok.mp hchecks
  obtain ⟨_, htoken, huser⟩ := bind_eq_ok.mp hchecks
  have htoken := ensure_eq_ok.mp htoken
  have huser := ensure_eq_ok.mp huser
  refine ⟨by simpa using htoken, fun token ht => ?_⟩
  rw [Option.mem_def] at ht
  simpa [ht] using huser

/-- The selector of a token is an identifier. -/
theorem validId_credentialId (hlength : ∀ bytes : Bytes, (Ring.sha256 bytes).length = 32) (token : String) :
    validId (credentialId token) = true := validId_hex (hlength _)

theorem requestHeaders_get (token clientNonce : String) (userToken : Option String) :
    let headers := Access.requestHeaders token userToken clientNonce
    headers.get protocolHeader = some (bytesOf (if userToken.isSome then "4" else "3")) ∧
      headers.get credentialHeader = some (bytesOf (credentialId (userToken.getD token))) ∧
      headers.get gatewayCredentialHeader = some (bytesOf (credentialId token)) ∧
      headers.get clientNonceHeader = some (bytesOf clientNonce) := ⟨rfl, rfl, rfl, rfl⟩

/-- What the gateway makes of the headers of an access: the access's tokens are looked
up, and the cipher mixes what the gateway found. -/
theorem wsEntry_requestHeaders {token clientNonce : String} (serverNonce : String)
    {userToken : Option String} (hlength : ∀ bytes : Bytes, (Ring.sha256 bytes).length = 32)
    (hnonce : validId clientNonce = true) (runtime : Runtime) :
    wsEntry (Access.requestHeaders token userToken clientNonce) serverNonce runtime = (do
      let tokens ← (AppState.bootstrapTokens (credentialId token) (userToken.map credentialId)
        runtime).mapError fun e => ⟨401, e.gatewayError.getD .unauthorized⟩
      let cipher ← (TunnelCipher.fromTokens tokens.1 tokens.2 clientNonce serverNonce).mapError
        fun _ => ⟨401, .unauthorized⟩
      return some ⟨tokens.1, tokens.2, cipher, serverNonce, userToken.isSome⟩) := by
  obtain ⟨hprotocol, hcredential, hgateway, hclient⟩ := requestHeaders_get token clientNonce userToken
  have hid : ∀ token : String, validId (credentialId token) = true := validId_credentialId hlength
  have hcredentialText := HeaderMap.text_eq hcredential (hid _)
  have hgatewayText := HeaderMap.text_eq hgateway (hid _)
  have hclientText := HeaderMap.text_eq hclient hnonce
  have hversion : (bytesOf "3" == bytesOf "4") = false := by decide +kernel
  unfold wsEntry
  rw [hprotocol]
  simp only [versionedEntry, headerText, hcredentialText, hgatewayText, hclientText, Option.getD_some,
    hid, hnonce, and_self, ensure, if_true]
  have hchain : ∀ (tokens : Except Error (String × Option String)) (dual : Bool),
      Except.map some ((tokens.mapError fun e => (⟨401, e.gatewayError.getD .unauthorized⟩ : Rejection)) >>=
        fun t => ((TunnelCipher.fromTokens t.1 t.2 clientNonce serverNonce).mapError
          fun _ => (⟨401, .unauthorized⟩ : Rejection)) >>= fun cipher =>
            pure (⟨t.1, t.2, cipher, serverNonce, dual⟩ : Bootstrap)) =
      ((tokens.mapError fun e => ⟨401, e.gatewayError.getD .unauthorized⟩) >>= fun t =>
        ((TunnelCipher.fromTokens t.1 t.2 clientNonce serverNonce).mapError
          fun _ => ⟨401, .unauthorized⟩) >>= fun cipher =>
            pure (some ⟨t.1, t.2, cipher, serverNonce, dual⟩)) := by
    intro tokens dual
    cases tokens with
    | error e => rfl
    | ok t =>
      simp only [Except.mapError, bind, Except.bind]
      cases TunnelCipher.fromTokens t.1 t.2 clientNonce serverNonce <;> rfl
  cases userToken with
  | none =>
    rw [← hchain]
    simp only [Option.isSome_none, Bool.false_eq_true, if_false, Option.getD_none, hversion, true_or]
    rfl
  | some user =>
    rw [← hchain]
    simp only [Option.isSome_some, if_true, Option.getD_some, or_true, BEq.rfl]
    rfl

end Upgrade

/-! ### One text in each direction -/

section Texts
variable [Aead] [MessageCodec]

/-- A cipher as the handshake starts with it. -/
def Fresh (c : DirectionCipher) : Prop := c.nextSendSequence = 0 ∧ c.nextReceiveSequence = 0

theorem encrypt_sealOf {c : DirectionCipher} {message : Message} (aad : Bytes) (hfresh : Fresh c)
    (hfits : Fits message) :
    c.encrypt .text (bytesOf (encodeMessage message)) aad =
      .ok (DirectionCipher.frameOf 0 (sealOf c message aad), { c with nextSendSequence := 1 }) := by
  refine DirectionCipher.encrypt_eq_ok.mpr ⟨hfits, by rw [hfresh.1]; decide, ?_, by rw [hfresh.1]⟩
  rw [sealOf, hfresh.1]

theorem decrypt_sealOf {log : SealLog} {c : DirectionCipher} {message : Message} {aad : Bytes}
    (hfresh : Fresh c) (hfits : Fits message) (hmem : sealOf c message aad ∈ log) :
    c.decrypt log (DirectionCipher.frameOf 0 (sealOf c message aad)) aad =
      (.ok (.text, bytesOf (encodeMessage message)), { c with nextReceiveSequence := 1 }) := by
  have hseal : sealOf c message aad =
      c.sealedAt c.nextReceiveSequence .text (bytesOf (encodeMessage message)) aad := by
    rw [sealOf, hfresh.1, hfresh.2]
  rw [hseal] at hmem ⊢
  have h := DirectionCipher.decrypt_frameOf hmem hfits (by rw [hfresh.2]; decide)
  rw [hfresh.2] at h
  rw [hfresh.2]
  exact h

omit [Aead] in
theorem decodeText_encode (message : Message) (notText : String) :
    decodeText .text (bytesOf (encodeMessage message)) notText = .ok message := by
  refine bind_eq_ok.mpr ⟨(), ensure_eq_ok.mpr rfl, bind_eq_ok.mpr ⟨encodeMessage message, ?_, ?_⟩⟩
  · exact orError_eq_ok.mpr (textOf_bytesOf _)
  · exact orError_eq_ok.mpr (MessageCodec.decode_encode message)

/-- The access's text, sent and received. -/
theorem access_text {c : TunnelCipher} {message : Message} (hfresh : Fresh c.accessToGateway)
    (hfits : Fits message) :
    let frame := WsMessage.binary
      (DirectionCipher.frameOf 0 (sealOf c.accessToGateway message accessToGateway))
    encryptAccessMessage c (.text (encodeMessage message)) =
        .ok (frame, { c with accessToGateway := { c.accessToGateway with nextSendSequence := 1 } }) ∧
      ∀ log : SealLog, sealOf c.accessToGateway message accessToGateway ∈ log →
        decodeAccessMessage log c frame =
          (.ok message, { c with accessToGateway := { c.accessToGateway with nextReceiveSequence := 1 } }) := by
  refine ⟨?_, fun log hmem => ?_⟩
  · simp only [encryptAccessMessage, TunnelCipher.encryptFromAccess, encrypt_sealOf _ hfresh hfits]
    rfl
  · simp only [decodeAccessMessage, TunnelCipher.decryptFromAccess, decrypt_sealOf hfresh hfits hmem]
    exact Prod.ext (decodeText_encode message "expected encrypted websocket text message") rfl

/-- The gateway's text, sent and received. -/
theorem gateway_text {c : TunnelCipher} {message : Message} (hfresh : Fresh c.gatewayToAccess)
    (hfits : Fits message) :
    let frame := WsMessage.binary
      (DirectionCipher.frameOf 0 (sealOf c.gatewayToAccess message gatewayToAccess))
    encryptGatewayMessage c (.text (encodeMessage message)) =
        .ok (frame, { c with gatewayToAccess := { c.gatewayToAccess with nextSendSequence := 1 } }) ∧
      ∀ log : SealLog, sealOf c.gatewayToAccess message gatewayToAccess ∈ log →
        (decodeGatewayMessage log c frame).1 = .ok message := by
  refine ⟨?_, fun log hmem => ?_⟩
  · simp only [encryptGatewayMessage, TunnelCipher.encryptFromGateway, encrypt_sealOf _ hfresh hfits]
    rfl
  · simp only [decodeGatewayMessage, TunnelCipher.decryptFromGateway, decrypt_sealOf hfresh hfits hmem]
    exact decodeText_encode message "预期收到加密的网关文本消息"

end Texts

/-! ### Who is let in -/

section Admission
variable [NetLiterals] [Ring]

/-- The tokens are the gateway's and, with users, a user's. -/
def Known (a : AccessParty) (config : GatewayConfig) : Prop :=
  a.gateway.token = config.auth.accessToken ∧ (config.auth.enabled = true →
    ∃ user ∈ config.users, a.gateway.userToken = some user.token)

/-- The user's token of the handshake. -/
def handshakeUser (a : AccessParty) (config : GatewayConfig) : Option String :=
  if config.auth.enabled then a.gateway.userToken else none

omit [NetLiterals] [Ring] in
theorem Known.isSome {a : AccessParty} {config : GatewayConfig} (h : Known a config)
    (he : config.auth.enabled = true) : a.gateway.userToken.isSome = true := by
  obtain ⟨user, _, hown⟩ := h.2 he
  rw [hown]
  rfl

omit [NetLiterals] [Ring] in
theorem Known.handshakeUser_isSome {a : AccessParty} {config : GatewayConfig} (h : Known a config) :
    (handshakeUser a config).isSome = config.auth.enabled := by
  unfold handshakeUser
  cases he : config.auth.enabled with
  | true => exact h.isSome he
  | false => rfl

def unauthorizedCode : String := "UNAUTHORIZED"

omit [NetLiterals] [Ring] in
theorem mem_tokensOf_user {a : AccessParty} {config : GatewayConfig} {user : GatewayUser}
    (h : user ∈ config.users) : user.token ∈ tokensOf a config := by
  refine List.mem_cons_of_mem _ (List.mem_cons_of_mem _ (List.mem_append_right _ ?_))
  exact List.mem_map.mpr ⟨user, h, rfl⟩

omit [NetLiterals] [Ring] in
theorem mem_tokensOf_own {a : AccessParty} {config : GatewayConfig} {token : String}
    (h : a.gateway.userToken = some token) : token ∈ tokensOf a config := by
  refine List.mem_cons_of_mem _ (List.mem_cons_of_mem _ (List.mem_append_left _ ?_))
  rw [h]
  exact List.mem_cons_self

/-- The credential of a known user. -/
theorem lookup_known {a : AccessParty} {runtime : Runtime} (hd : Digests a runtime.config)
    (ht : credentials runtime.config = .ok runtime.credentials)
    (he : runtime.config.auth.enabled = true) {c : Credential}
    (hl : runtime.credentials.lookup ((a.gateway.userToken.map credentialId).getD "") = some c) :
    ∃ user ∈ runtime.config.users, a.gateway.userToken = some user.token := by
  obtain ⟨user, hu, hid, _⟩ := credentials_mem ht he hl
  refine ⟨user, hu, ?_⟩
  cases htoken : a.gateway.userToken with
  | none =>
    rw [htoken] at hid
    have hlength := validId_length (validId_credentialId hd.length user.token)
    rw [← hid] at hlength
    cases hlength
  | some token =>
    rw [htoken] at hid
    rw [hd.distinct token (mem_tokensOf_own htoken) user.token (mem_tokensOf_user hu) hid]

/-- An unknown access is told so. -/
theorem bootstrapTokens_unknown {a : AccessParty} {runtime : Runtime} (hd : Digests a runtime.config)
    (ht : credentials runtime.config = .ok runtime.credentials) (hn : ¬ Known a runtime.config) :
    ∃ message, AppState.bootstrapTokens (credentialId a.gateway.token)
      (a.gateway.userToken.map credentialId) runtime = .error (.gateway ⟨unauthorizedCode, message⟩) := by
  unfold AppState.bootstrapTokens
  by_cases hid : credentialId runtime.config.auth.accessToken = credentialId a.gateway.token
  · have htoken : a.gateway.token = runtime.config.auth.accessToken :=
      (hd.distinct _ (List.mem_cons_of_mem _ List.mem_cons_self) _ List.mem_cons_self hid).symm
    rw [ensure, if_pos hid]
    by_cases he : runtime.config.auth.enabled = true
    · cases hl : runtime.credentials.lookup ((a.gateway.userToken.map credentialId).getD "") with
      | none =>
        refine ⟨"未认证：用户鉴权失败，user_token 未配置、无效或已被撤销，连接已拒绝，已停止自动重连。", ?_⟩
        simp only [he, if_true, orError]
        rfl
      | some c => exact absurd ⟨htoken, fun _ => lookup_known hd ht he hl⟩ hn
    · exact absurd ⟨htoken, fun h => absurd h he⟩ hn
  · rw [ensure, if_neg hid]
    exact ⟨_, rfl⟩

/-- A known access has its tokens looked up. -/
theorem bootstrapTokens_known {a : AccessParty} {runtime : Runtime}
    (ht : credentials runtime.config = .ok runtime.credentials) (hk : Known a runtime.config) :
    AppState.bootstrapTokens (credentialId a.gateway.token) (a.gateway.userToken.map credentialId)
      runtime = .ok (a.gateway.token, handshakeUser a runtime.config) := by
  obtain ⟨htoken, huser⟩ := hk
  unfold AppState.bootstrapTokens handshakeUser
  refine bind_eq_ok.mpr ⟨(), ensure_eq_ok.mpr (by rw [htoken]), ?_⟩
  by_cases he : runtime.config.auth.enabled = true
  · obtain ⟨user, hu, hown⟩ := huser he
    obtain ⟨rules, _, hl⟩ := credentials_user ht he hu
    rw [if_pos he, if_pos he, hown]
    exact bind_eq_ok.mpr ⟨_, orError_eq_ok.mpr hl, by rw [htoken]; rfl⟩
  · rw [if_neg he, if_neg he, htoken]
    rfl

omit [NetLiterals] in
theorem fromTokens_isOk (hlength : ∀ bytes : Bytes, (Ring.sha256 bytes).length = 32)
    {token clientNonce serverNonce : String} {userToken : Option String} (htoken : isBlank token = false)
    (huser : ∀ user ∈ userToken, isBlank user = false) (hclient : validId clientNonce = true)
    (hserver : validId serverNonce = true) :
    ∃ cipher, TunnelCipher.fromTokens token userToken clientNonce serverNonce = .ok cipher := by
  have hkey : ∀ secret : String, isBlank secret = false →
      ∃ cipher, TunnelCipher.fromConnectionKey secret clientNonce serverNonce = .ok cipher :=
    fun secret hsecret => ⟨_, bind_eq_ok.mpr ⟨(), ensure_eq_ok.mpr ⟨hsecret, hclient, hserver⟩, rfl⟩⟩
  cases userToken with
  | none =>
    obtain ⟨cipher, hc⟩ := hkey token htoken
    exact ⟨cipher, bind_eq_ok.mpr ⟨(), ensure_eq_ok.mpr ⟨htoken, huser⟩, hc⟩⟩
  | some user =>
    obtain ⟨cipher, hc⟩ := hkey (bootstrapSecret token user) (isBlank_of_validId (validId_hex (hlength _)))
    exact ⟨cipher, bind_eq_ok.mpr ⟨(), ensure_eq_ok.mpr ⟨htoken, huser⟩, hc⟩⟩

/-- The upgrade of an unknown access is refused. -/
theorem wsEntry_unknown {a : AccessParty} {runtime : Runtime} (serverNonce : String)
    (ha : HonestAccess a) (hd : Digests a runtime.config)
    (ht : credentials runtime.config = .ok runtime.credentials) (hn : ¬ Known a runtime.config) :
    ∃ message, wsEntry (Access.requestHeaders a.gateway.token a.gateway.userToken a.clientNonce)
      serverNonce runtime = .error ⟨401, ⟨unauthorizedCode, message⟩⟩ := by
  obtain ⟨message, hm⟩ := bootstrapTokens_unknown hd ht hn
  refine ⟨message, ?_⟩
  rw [wsEntry_requestHeaders serverNonce hd.length ha.clientNonce, hm]
  rfl

/-- What the upgrade of a known access selects: both sides mix the same tokens. -/
theorem wsEntry_known {a : AccessParty} {runtime : Runtime} {serverNonce : String}
    (ha : HonestAccess a) (hd : Digests a runtime.config)
    (ht : credentials runtime.config = .ok runtime.credentials) (hserver : validId serverNonce = true)
    (hk : Known a runtime.config) :
    ∃ cipher, TunnelCipher.fromTokens a.gateway.token (handshakeUser a runtime.config) a.clientNonce
        serverNonce = .ok cipher ∧
      wsEntry (Access.requestHeaders a.gateway.token a.gateway.userToken a.clientNonce) serverNonce
        runtime = .ok (some ⟨a.gateway.token, handshakeUser a runtime.config, cipher, serverNonce,
          a.gateway.userToken.isSome⟩) := by
  obtain ⟨htoken, huser⟩ := honest_tokens ha
  have huser' : ∀ user ∈ handshakeUser a runtime.config, isBlank user = false := by
    intro user hu
    unfold handshakeUser at hu
    split at hu
    · exact huser user hu
    · cases hu
  obtain ⟨cipher, hc⟩ := fromTokens_isOk hd.length htoken huser' ha.clientNonce hserver
  refine ⟨cipher, hc, ?_⟩
  rw [wsEntry_requestHeaders serverNonce hd.length ha.clientNonce, bootstrapTokens_known ht hk]
  show ((TunnelCipher.fromTokens _ _ _ _).mapError _ >>= _) = _
  rw [hc]
  rfl

omit [NetLiterals] in
theorem negotiate_of {token clientNonce serverNonce : String} {userToken : Option String}
    {response : HeaderMap} {userAuth : Bool} {cipher : TunnelCipher}
    (hnonce : response.text serverNonceHeader = some serverNonce)
    (hversion : userToken.isSome = (response.get protocolHeader == some (bytesOf "4")))
    (hauth : Access.confirmedUserAuth userToken.isSome response = .ok userAuth)
    (huser : userAuth = true → userToken.isSome = true)
    (hc : TunnelCipher.fromTokens token (if userAuth then userToken else none) clientNonce serverNonce =
      .ok cipher) :
    Access.negotiate token userToken clientNonce response =
      .ok ⟨true, userToken.isSome, userAuth, cipher⟩ := by
  unfold Access.negotiate
  simp only [← hversion, hnonce]
  refine bind_eq_ok.mpr ⟨(), ensure_eq_ok.mpr ?_, bind_eq_ok.mpr ⟨userAuth, hauth,
    bind_eq_ok.mpr ⟨(), ensure_eq_ok.mpr ?_, bind_eq_ok.mpr ⟨cipher, hc, rfl⟩⟩⟩⟩
  · intro h
    rw [h.1] at h
    cases h.2
  · intro h
    have hsome := huser h.1
    rw [Option.isSome_iff_ne_none] at hsome
    exact hsome (Option.isNone_iff_eq_none.mp h.2)

omit [NetLiterals] in
/-- The access reads out of the response what the gateway has selected. -/
theorem negotiate_response {a : AccessParty} {config : GatewayConfig} {serverNonce : String}
    {cipher : TunnelCipher} (hk : Known a config) (hserver : validId serverNonce = true)
    (hc : TunnelCipher.fromTokens a.gateway.token (handshakeUser a config) a.clientNonce serverNonce =
      .ok cipher) :
    Access.negotiate a.gateway.token a.gateway.userToken a.clientNonce
      (responseHeaders (some ⟨a.gateway.token, handshakeUser a config, cipher, serverNonce,
        a.gateway.userToken.isSome⟩)) =
      .ok ⟨true, a.gateway.userToken.isSome, config.auth.enabled, cipher⟩ := by
  have hthree : (some (bytesOf "3") == some (bytesOf "4")) = false := by decide +kernel
  have hauthText : ∀ u : Option String, HeaderMap.toStr (bytesOf (if u.isSome then "true" else "false")) =
      some (if u.isSome then "true" else "false") := by
    intro u
    cases u.isSome <;> decide +kernel
  have huser := hk.isSome
  have hsame := hk.handshakeUser_isSome
  apply negotiate_of
  · exact HeaderMap.text_eq rfl hserver
  · cases a.gateway.userToken.isSome with
    | true => exact (BEq.rfl (a := some (bytesOf "4"))).symm
    | false => exact hthree.symm
  · cases hdual : a.gateway.userToken.isSome with
    | true =>
      have htext : (responseHeaders (some ⟨a.gateway.token, handshakeUser a config, cipher, serverNonce,
          true⟩)).text userAuthHeader = some (if (handshakeUser a config).isSome then "true" else "false") :=
        hauthText _
      rw [hsame] at htext
      rw [Access.confirmedUserAuth, if_pos rfl, htext]
      cases config.auth.enabled <;> rfl
    | false =>
      have he : config.auth.enabled = false := by
        by_contra he
        rw [huser (by simpa using he)] at hdual
        cases hdual
      rw [he]
      rfl
  · exact huser
  · exact hc

end Admission

/-! ### The registration -/

section Registration
variable [Ring]

/-- What both sides have selected for an access that is known. -/
def negotiated (a : AccessParty) (config : GatewayConfig) (cipher : TunnelCipher) : Access.Negotiated :=
  ⟨true, a.gateway.userToken.isSome, config.auth.enabled, cipher⟩

def bootstrapOf (a : AccessParty) (config : GatewayConfig) (serverNonce : String)
    (cipher : TunnelCipher) : Bootstrap :=
  ⟨a.gateway.token, handshakeUser a config, cipher, serverNonce, a.gateway.userToken.isSome⟩

theorem fresh_fromTokens {token clientNonce serverNonce : String} {userToken : Option String}
    {cipher : TunnelCipher}
    (h : TunnelCipher.fromTokens token userToken clientNonce serverNonce = .ok cipher) :
    Fresh cipher.accessToGateway ∧ Fresh cipher.gatewayToAccess := by
  obtain ⟨_, _, hkeys⟩ := fromTokens_ok h
  rw [hkeys]
  exact ⟨⟨rfl, rfl⟩, ⟨rfl, rfl⟩⟩

/-- The registration of an access. -/
def registrationOfParty (a : AccessParty) : Message :=
  if a.gateway.userToken.isSome then .registerAccessV4 a.instanceId (Ring.publicKey a.privateKey)
  else .registerAccessV3 a.instanceId (Ring.publicKey a.privateKey)

theorem registration_negotiated (a : AccessParty) (config : GatewayConfig) (cipher : TunnelCipher) :
    (negotiated a config cipher).registration a.gateway.token a.instanceId (Ring.publicKey a.privateKey) =
      registrationOfParty a := by
  unfold Access.Negotiated.registration registrationOfParty negotiated
  split <;> rfl

theorem fits_registration [MessageCodec] {a : AccessParty} (ht : ShortTexts a) :
    Fits (registrationOfParty a) := by
  obtain ⟨h3, h4⟩ := ht.registration
  unfold registrationOfParty
  split
  · exact h4
  · exact h3

/-- The gateway takes the registration of the version that it has selected. -/
theorem registrationOf_party (a : AccessParty) (config : GatewayConfig)
    (serverNonce token drawnInstance : String) (cipher : TunnelCipher) :
    registrationOf (some (bootstrapOf a config serverNonce cipher)) token drawnInstance
      (registrationOfParty a) = some (a.instanceId, Ring.publicKey a.privateKey) := by
  unfold registrationOfParty bootstrapOf
  cases a.gateway.userToken.isSome <;> rfl

omit [Ring] in
/-- The access takes the answer of the version that it has selected. -/
theorem answer_registerOk {a : AccessParty} {config : GatewayConfig} (serverNonce userName : String)
    (cipher : TunnelCipher) (publicKey : Bytes) (hk : Known a config) :
    (negotiated a config cipher).answer
      (registerOk (some (bootstrapOf a config serverNonce cipher)) publicKey userName) = .ok publicKey := by
  unfold registerOk bootstrapOf
  dsimp only
  cases hdual : a.gateway.userToken.isSome with
  | true =>
    rw [if_pos rfl, Access.Negotiated.answer]
    exact if_pos ⟨hdual, hk.handshakeUser_isSome⟩
  | false =>
    rw [if_neg Bool.false_ne_true, Access.Negotiated.answer]
    refine if_pos ⟨rfl, ?_⟩
    show ¬ a.gateway.userToken.isSome = true
    rw [hdual]
    exact Bool.false_ne_true

def sessionCipher (secret : Bytes) : TunnelCipher :=
  .ofPrk (Ring.hkdfExtract (bytesOf "ws-net tunnel hkdf salt v2") secret) sessionContext

theorem deriveSessionCipher_of {privateKey peerPublicKey secret : Bytes} (hne : secret ≠ [])
    (h : Ring.agree privateKey peerPublicKey = some secret) :
    TunnelCipher.deriveSessionCipher privateKey peerPublicKey = .ok (sessionCipher secret) :=
  bind_eq_ok.mpr ⟨secret, orError_eq_ok.mpr h, bind_eq_ok.mpr ⟨(), ensure_eq_ok.mpr hne, rfl⟩⟩

end Registration

section Registry
variable [NetLiterals] [Ring]

/-- The credential of a known access. -/
theorem known_credential {a : AccessParty} {runtime : Runtime}
    (ht : credentials runtime.config = .ok runtime.credentials) (hk : Known a runtime.config) :
    ∃ credential, runtime.credentials.lookup (credentialId (ownToken a runtime.config)) =
        some credential ∧ credential.token = ownToken a runtime.config ∧
      credential.name ∈ namesOf runtime.config := by
  unfold ownToken namesOf
  by_cases he : runtime.config.auth.enabled = true
  · obtain ⟨user, hu, hown⟩ := hk.2 he
    obtain ⟨rules, _, hl⟩ := credentials_user ht he hu
    rw [if_pos he, if_pos he, hown]
    exact ⟨_, hl, rfl, List.mem_map.mpr ⟨user, hu, rfl⟩⟩
  · obtain ⟨_, _, htable⟩ := bind_eq_ok.mp ht
    rw [if_neg he] at htable
    rw [if_neg he, if_neg he, ← pure_eq_ok.mp htable, hk.1]
    exact ⟨_, AList.lookup_insert _, rfl, List.mem_cons_self⟩

/-- The registration of a known access passes every check but the last. -/
theorem accepted_of_known {a : AccessParty} (runtime : Runtime) (ha : HonestAccess a)
    (ht : credentials runtime.config = .ok runtime.credentials) (hk : Known a runtime.config) :
    ∃ credential, credential.name ∈ namesOf runtime.config ∧
      ((credentialId (ownToken a runtime.config), a.instanceId) ∉ runtime.retired →
        Accepted a.gateway.token (handshakeUser a runtime.config) a.instanceId
          (!a.gateway.userToken.isSome) runtime (ownToken a runtime.config) credential) := by
  obtain ⟨credential, hl, hsame, hname⟩ := known_credential ht hk
  refine ⟨credential, hname, fun hactive => ⟨hk.1, ?_, ?_, hl, hsame, ha.instanceId, hactive⟩⟩
  · intro hlegacy
    rw [hk.isSome hlegacy.2] at hlegacy
    cases hlegacy.1
  · unfold handshakeUser ownToken
    by_cases he : runtime.config.auth.enabled = true
    · obtain ⟨user, _, hown⟩ := hk.2 he
      rw [if_pos he, if_pos he, if_pos he, hown]
      rfl
    · rw [if_neg he, if_neg he]

/-- That of a retired instance is refused by the last check. -/
theorem register_retired {a : AccessParty} {runtime : Runtime} (sessionId : String) (ha : HonestAccess a)
    (ht : credentials runtime.config = .ok runtime.credentials) (hk : Known a runtime.config)
    (hretired : (credentialId (ownToken a runtime.config), a.instanceId) ∈ runtime.retired) :
    AppState.register sessionId a.gateway.token (handshakeUser a runtime.config) a.instanceId
      (!a.gateway.userToken.isSome) runtime = .error (.gateway .replaced) := by
  -- with nothing retired, every check would be passed
  obtain ⟨credential, _, haccepted⟩ := accepted_of_known { runtime with retired := ∅ } ha ht hk
  obtain ⟨hgateway, hlegacy, hsubmitted, hl, hsame, hinstance, _⟩ := haccepted (Finset.notMem_empty _)
  have hgate : ¬ (a.gateway.token ≠ runtime.config.auth.accessToken ∨
      ((!a.gateway.userToken.isSome) = true ∧ runtime.config.auth.enabled = true)) := by
    intro hgate
    rcases hgate with hne | hold
    · exact hne hgateway
    · exact hlegacy hold
  have hknown : (runtime.credentials.lookup (credentialId (ownToken a runtime.config))).filter
      (·.token = ownToken a runtime.config) = some credential :=
    Option.filter_eq_some_iff.mpr ⟨hl, by simpa using hsame⟩
  unfold AppState.register
  rw [ensure, if_pos hgate]
  show (AppState.submittedToken _ _ _ >>= _) = _
  rw [submittedToken_ok.mpr hsubmitted]
  show (orError ((runtime.credentials.lookup (credentialId (ownToken a runtime.config))).filter
    (·.token = ownToken a runtime.config)) _ >>= _) = _
  rw [hknown]
  show (ensure _ _ >>= _) = _
  rw [ensure, if_pos hinstance]
  show (ensure _ _ >>= _) = _
  rw [ensure, if_neg (not_not.mpr hretired)]
  rfl

end Registry

/-! ### The exchange -/

section Settled
variable [NetLiterals] [Ring] [Aead] [MessageCodec]

/-- The frame of a text that is the first of its direction. -/
def firstFrame (c : DirectionCipher) (message : Message) (aad : Bytes) : WsMessage :=
  .binary (DirectionCipher.frameOf 0 (sealOf c message aad))

/-- The handshake's cipher after the registration has been received. -/
def received (cipher : TunnelCipher) : TunnelCipher :=
  { cipher with accessToGateway := { cipher.accessToGateway with nextReceiveSequence := 1 } }

omit [NetLiterals] in
theorem register_party {a : AccessParty} (config : GatewayConfig) {cipher : TunnelCipher}
    (htexts : ShortTexts a) (hfresh : Fresh cipher.accessToGateway) :
    (negotiated a config cipher).register a.gateway.token a.instanceId a.privateKey =
      .ok (firstFrame cipher.accessToGateway (registrationOfParty a) accessToGateway,
        { cipher with accessToGateway := { cipher.accessToGateway with nextSendSequence := 1 } }) := by
  rw [Access.Negotiated.register, registration_negotiated]
  exact (access_text hfresh (fits_registration htexts)).1

omit [NetLiterals] in
/-- What the gateway does with the registration of a known access. -/
theorem answer_known {log : SealLog} {a : AccessParty} {g : GatewayParty} {cipher : TunnelCipher}
    {secret : Bytes} (hk : Known a g.runtime.config) (htexts : ShortTexts a)
    (hfresh : Fresh cipher.accessToGateway) (hne : secret ≠ [])
    (hagree : Ring.agree g.privateKey (Ring.publicKey a.privateKey) = some secret)
    (hmem : sealOf cipher.accessToGateway (registrationOfParty a) accessToGateway ∈ log) :
    answer log (some (bootstrapOf a g.runtime.config g.serverNonce cipher))
      (firstFrame cipher.accessToGateway (registrationOfParty a) accessToGateway) g =
    match AppState.register g.sessionId a.gateway.token (handshakeUser a g.runtime.config) a.instanceId
        (!a.gateway.userToken.isSome) g.runtime with
    | .error e => respond log g.runtime g.runtime none (received cipher) (refusal (refusalOf e))
    | .ok (runtime, _, userName) =>
      respond log runtime (AppState.dropLease g.sessionId runtime)
        (some ⟨a.gateway.userToken.isSome, g.runtime.config.auth.enabled, sessionCipher secret⟩)
        (received cipher) (registerOk (some (bootstrapOf a g.runtime.config g.serverNonce cipher))
          (Ring.publicKey g.privateKey) userName) := by
  have hdecode := (access_text hfresh (fits_registration htexts)).2 log hmem
  have hderive := deriveSessionCipher_of hne hagree
  have hstart : startHandshake (some (bootstrapOf a g.runtime.config g.serverNonce cipher)) g.runtime =
    .ok (a.gateway.token, handshakeUser a g.runtime.config, cipher) := rfl
  have hlegacy : isLegacy (some (bootstrapOf a g.runtime.config g.serverNonce cipher)) =
    !a.gateway.userToken.isSome := rfl
  unfold answer
  simp only [hstart, firstFrame, hdecode, Except.toOption, Option.bind_some, registrationOf_party, hderive,
    hlegacy, hk.handshakeUser_isSome, Option.any_some]
  rfl

omit [NetLiterals] in
/-- What the access does with a sealed answer. -/
theorem connect_known {log : SealLog} {a : AccessParty} {config : GatewayConfig} {serverNonce : String}
    {cipher : TunnelCipher} {message : Message} (hk : Known a config)
    (htexts : ShortTexts a) (hserver : validId serverNonce = true)
    (hc : TunnelCipher.fromTokens a.gateway.token (handshakeUser a config) a.clientNonce serverNonce =
      .ok cipher) (hfits : Fits message)
    (hmem : sealOf cipher.gatewayToAccess message gatewayToAccess ∈ log) :
    Access.connect log a.gateway.token a.gateway.userToken a.instanceId a.clientNonce a.privateKey
      (responseHeaders (some (bootstrapOf a config serverNonce cipher)))
      (some (firstFrame cipher.gatewayToAccess message gatewayToAccess)) = (do
        let gatewayPublicKey ← (negotiated a config cipher).answer message
        let session ← TunnelCipher.deriveSessionCipher a.privateKey gatewayPublicKey
        return ⟨negotiated a config cipher, session⟩) := by
  obtain ⟨haccess, hgateway⟩ := fresh_fromTokens hc
  have hnegotiate := negotiate_response hk hserver hc
  have hregister := register_party config htexts haccess
  let sent : TunnelCipher :=
    { cipher with accessToGateway := { cipher.accessToGateway with nextSendSequence := 1 } }
  have hdecode := (gateway_text (c := sent) hgateway hfits).2 log hmem
  unfold Access.connect
  rw [show Access.negotiate a.gateway.token a.gateway.userToken a.clientNonce
    (responseHeaders (some (bootstrapOf a config serverNonce cipher))) =
      .ok (negotiated a config cipher) from hnegotiate]
  show ((negotiated a config cipher).register _ _ _ >>= _) = _
  rw [hregister]
  show ((decodeGatewayMessage log sent (firstFrame cipher.gatewayToAccess message gatewayToAccess)).1 >>=
    _) = _
  rw [show (decodeGatewayMessage log sent (firstFrame cipher.gatewayToAccess message
    gatewayToAccess)).1 = .ok message from hdecode]
  rfl

omit [NetLiterals] [Ring] in
theorem respond_fits {log : SealLog} {runtime dropped : Runtime} {session : Option GatewaySession}
    {cipher : TunnelCipher} {message : Message} (hfresh : Fresh cipher.gatewayToAccess)
    (hfits : Fits message) :
    respond log runtime dropped session (received cipher) message =
      ⟨runtime, session, sealOf cipher.gatewayToAccess message gatewayToAccess :: log,
        some (firstFrame cipher.gatewayToAccess message gatewayToAccess)⟩ := by
  have hencrypt := (gateway_text (c := received cipher) hfresh hfits).1
  unfold respond
  rw [hencrypt]
  rfl

/-- The handshake of a known access, up to the gateway's decision. -/
theorem exchange_known {log : SealLog} {a : AccessParty} {g : GatewayParty} {cipher : TunnelCipher}
    {frame : Option WsMessage} {runtime : Runtime} {session : Option GatewaySession} {sent : SealLog}
    (hk : Known a g.runtime.config) (hg : HonestGateway g) (htexts : ShortTexts a)
    (hc : TunnelCipher.fromTokens a.gateway.token (handshakeUser a g.runtime.config) a.clientNonce
      g.serverNonce = .ok cipher)
    (hentry : wsEntry (Access.requestHeaders a.gateway.token a.gateway.userToken a.clientNonce)
      g.serverNonce g.runtime = .ok (some (bootstrapOf a g.runtime.config g.serverNonce cipher)))
    (hanswer : answer (sealOf cipher.accessToGateway (registrationOfParty a) accessToGateway :: log)
      (some (bootstrapOf a g.runtime.config g.serverNonce cipher))
      (firstFrame cipher.accessToGateway (registrationOfParty a) accessToGateway) g =
        ⟨runtime, session, sent, frame⟩) :
    exchange log a g =
      ⟨(do
        let connected ← Access.connect sent a.gateway.token a.gateway.userToken a.instanceId
          a.clientNonce a.privateKey
          (responseHeaders (some (bootstrapOf a g.runtime.config g.serverNonce cipher))) frame
        let connection ← enterSession a.connection
        return (connected, connection)), runtime, session⟩ := by
  obtain ⟨haccess, _⟩ := fresh_fromTokens hc
  have hnegotiate : Access.negotiate a.gateway.token a.gateway.userToken a.clientNonce
      (responseHeaders (some (bootstrapOf a g.runtime.config g.serverNonce cipher))) =
      .ok (negotiated a g.runtime.config cipher) := negotiate_response hk hg.serverNonce hc
  unfold exchange
  simp only [hentry, hnegotiate]
  unfold registering
  simp only [register_party g.runtime.config htexts haccess, registration_negotiated]
  rw [show (negotiated a g.runtime.config cipher).bootstrap = cipher from rfl, hanswer]

/-! ### A name that does not fit -/

omit [NetLiterals] [Ring] in
theorem respond_unfit {log : SealLog} {runtime dropped : Runtime} {session : Option GatewaySession}
    (cipher : TunnelCipher) {message : Message} (hfits : ¬ Fits message) :
    respond log runtime dropped session cipher message = ⟨dropped, none, log, none⟩ := by
  have hlong : ¬ (bytesOf (encodeMessage message)).length ≤ maxPayloadLen := hfits
  unfold respond
  simp only [encryptGatewayMessage, TunnelCipher.encryptFromGateway, DirectionCipher.encrypt, ensure,
    if_neg hlong]
  rfl

/-- With an answer that does not fit in a frame, an admissible access is left without one:
its session is dropped, and it reconnects. -/
theorem exchange_unfit (log : SealLog) {a : AccessParty} {g : GatewayParty} (ha : HonestAccess a)
    (hg : HonestGateway g) (hd : Digests a g.runtime.config) (hagree : KeysAgree a g)
    (htexts : ShortTexts a) (h : Admissible a g)
    (hunfit : ∀ name ∈ namesOf g.runtime.config, ∀ userAuth,
      ¬ Fits (.registerOkV3 (Ring.publicKey g.privateKey) name) ∧
        ¬ Fits (.registerOkV4 (Ring.publicKey g.privateKey) name userAuth)) :
    (exchange log a g).access = .error (.gateway (.network "网关在鉴权完成前关闭连接")) ∧
      (exchange log a g).session = none := by
  have ht := (consistent_reachable hg.runtime).table
  have hk : Known a g.runtime.config := ⟨h.gateway, h.user⟩
  obtain ⟨cipher, hc, hentry⟩ := wsEntry_known ha hd ht hg.serverNonce hk
  obtain ⟨secret, hne, _, htheirs⟩ := hagree
  obtain ⟨haccess, _⟩ := fresh_fromTokens hc
  obtain ⟨credential, hname, haccepted⟩ := accepted_of_known g.runtime ha ht hk
  let log' := sealOf cipher.accessToGateway (registrationOfParty a) accessToGateway :: log
  let bootstrap := bootstrapOf a g.runtime.config g.serverNonce cipher
  let runtime := registered g.sessionId a.instanceId (ownToken a g.runtime.config) credential g.runtime
  let message := registerOk (some bootstrap) (Ring.publicKey g.privateKey) credential.name
  have hfits : ¬ Fits message := by
    obtain ⟨h3, h4⟩ := hunfit credential.name hname (handshakeUser a g.runtime.config).isSome
    show ¬ Fits (if a.gateway.userToken.isSome then _ else _)
    split
    · exact h4
    · exact h3
  have hanswer : answer log' (some bootstrap)
      (firstFrame cipher.accessToGateway (registrationOfParty a) accessToGateway) g =
      ⟨AppState.dropLease g.sessionId runtime, none, log', none⟩ := by
    rw [answer_known hk htexts haccess hne htheirs List.mem_cons_self,
      register_of_accepted g.sessionId (haccepted h.active)]
    exact respond_unfit (received cipher) hfits
  have hnegotiate : Access.negotiate a.gateway.token a.gateway.userToken a.clientNonce
      (responseHeaders (some bootstrap)) = .ok (negotiated a g.runtime.config cipher) :=
    negotiate_response hk hg.serverNonce hc
  have hconnect : Access.connect log' a.gateway.token a.gateway.userToken a.instanceId a.clientNonce
      a.privateKey (responseHeaders (some bootstrap)) none =
      .error (.gateway (.network "网关在鉴权完成前关闭连接")) := by
    unfold Access.connect
    rw [hnegotiate]
    show ((negotiated a g.runtime.config cipher).register _ _ _ >>= _) = _
    rw [register_party g.runtime.config htexts haccess]
    rfl
  rw [exchange_known hk hg htexts hc hentry hanswer, hconnect]
  exact ⟨rfl, rfl⟩

/-! ### The outcome -/

omit [NetLiterals] [Ring] [MessageCodec] in
theorem fresh_opens {c : DirectionCipher} {kind : TunnelFrameKind} {payload : Bytes} (aad : Bytes)
    (hfresh : Fresh c) (hlen : payload.length ≤ maxPayloadLen) :
    let r := c.sealedAt 0 kind payload aad
    c.encrypt kind payload aad = .ok (DirectionCipher.frameOf 0 r, { c with nextSendSequence := 1 }) ∧
      ∀ log : SealLog, r ∈ log →
        (c.decrypt log (DirectionCipher.frameOf 0 r) aad).1 = .ok (kind, payload) := by
  obtain ⟨hsend, hreceive⟩ := hfresh
  refine ⟨DirectionCipher.encrypt_eq_ok.mpr ⟨hlen, ?_, ?_, ?_⟩, fun log hmem => ?_⟩
  · rw [hsend]
    decide
  · rw [hsend]
  · rw [hsend]
  · rw [← hreceive] at hmem ⊢
    rw [DirectionCipher.decrypt_frameOf hmem hlen (by rw [hreceive]; decide)]

/-- What either side seals first, the other side opens. -/
structure OpensFirst (access gateway : TunnelCipher) : Prop where
  byGateway : ∀ kind payload, payload.length ≤ maxPayloadLen → ∃ frame sent,
    access.encryptFromAccess kind payload = .ok (frame, sent) ∧
      ∀ log : SealLog, access.accessToGateway.sealedAt 0 kind payload accessToGateway ∈ log →
        (gateway.decryptFromAccess log frame).1 = .ok (kind, payload)
  byAccess : ∀ kind payload, payload.length ≤ maxPayloadLen → ∃ frame sent,
    gateway.encryptFromGateway kind payload = .ok (frame, sent) ∧
      ∀ log : SealLog, gateway.gatewayToAccess.sealedAt 0 kind payload gatewayToAccess ∈ log →
        (access.decryptFromGateway log frame).1 = .ok (kind, payload)

omit [NetLiterals] [MessageCodec] in
theorem opensFirst_sessionCipher (secret : Bytes) :
    OpensFirst (sessionCipher secret) (sessionCipher secret) := by
  constructor
  · intro kind payload hlen
    obtain ⟨hencrypt, hdecrypt⟩ :=
      fresh_opens (c := (sessionCipher secret).accessToGateway) accessToGateway ⟨rfl, rfl⟩ hlen
    exact ⟨_, _, bind_eq_ok.mpr ⟨_, hencrypt, rfl⟩, hdecrypt⟩
  · intro kind payload hlen
    obtain ⟨hencrypt, hdecrypt⟩ :=
      fresh_opens (c := (sessionCipher secret).gatewayToAccess) gatewayToAccess ⟨rfl, rfl⟩ hlen
    exact ⟨_, _, bind_eq_ok.mpr ⟨_, hencrypt, rfl⟩, hdecrypt⟩

/-- The access is connected, the gateway has registered its session, and both have
selected the same for it. -/
def Settled (a : AccessParty) (g : GatewayParty) (e : Exchanged) : Prop :=
  ∃ connected connection session, e.access = .ok (connected, connection) ∧ e.session = some session ∧
    connection.closed = false ∧
    (∃ order, e.runtime.sessions.lookup g.sessionId =
      some ⟨credentialId (ownToken a g.runtime.config), a.instanceId, order, none⟩) ∧
    session.dual = connected.negotiated.v4 ∧ session.userAuth = connected.negotiated.userAuth ∧
    session.cipher = connected.cipher ∧ OpensFirst connected.cipher session.cipher

/-- The access has been told an error after which it does not reconnect, and the gateway
has registered nothing. -/
def TurnedAway (a : AccessParty) (g : GatewayParty) (e : Exchanged) : Prop :=
  (∃ error, e.access = .error (.gateway error) ∧ error.terminal = true ∧
    reconnects (afterSession (.gateway error) a.connection) = false) ∧
    e.session = none ∧ e.runtime = g.runtime

omit [NetLiterals] [Ring] [Aead] [MessageCodec] in
theorem turnedAway_of {a : AccessParty} {g : GatewayParty} {e : Exchanged} {error : GatewayError}
    (ha : HonestAccess a) (haccess : e.access = .error (.gateway error)) (hterminal : error.terminal = true)
    (hsession : e.session = none) (hruntime : e.runtime = g.runtime) : TurnedAway a g e :=
  ⟨⟨error, haccess, hterminal, afterSession_terminal hterminal ha.runs⟩, hsession, hruntime⟩

theorem turnedAway_unknown {log : SealLog} {a : AccessParty} {g : GatewayParty} (ha : HonestAccess a)
    (hd : Digests a g.runtime.config) (ht : credentials g.runtime.config = .ok g.runtime.credentials)
    (hn : ¬ Known a g.runtime.config) : TurnedAway a g (exchange log a g) := by
  obtain ⟨message, hentry⟩ := wsEntry_unknown g.serverNonce ha hd ht hn
  have hexchange : exchange log a g =
      ⟨.error (.gateway ⟨unauthorizedCode, message⟩), g.runtime, none⟩ := by
    unfold exchange
    simp only [hentry]
    rfl
  rw [hexchange]
  exact turnedAway_of ha rfl (by rfl) rfl rfl

theorem turnedAway_retired {log : SealLog} {a : AccessParty} {g : GatewayParty} (ha : HonestAccess a)
    (hg : HonestGateway g) (hd : Digests a g.runtime.config) (hagree : KeysAgree a g)
    (htexts : ShortTexts a) (ht : credentials g.runtime.config = .ok g.runtime.credentials)
    (hk : Known a g.runtime.config)
    (hretired : (credentialId (ownToken a g.runtime.config), a.instanceId) ∈ g.runtime.retired) :
    TurnedAway a g (exchange log a g) := by
  obtain ⟨cipher, hc, hentry⟩ := wsEntry_known ha hd ht hg.serverNonce hk
  obtain ⟨secret, hne, _, hsecret⟩ := hagree
  obtain ⟨haccess, hgateway⟩ := fresh_fromTokens hc
  let log' := sealOf cipher.accessToGateway (registrationOfParty a) accessToGateway :: log
  have hanswer : answer log' (some (bootstrapOf a g.runtime.config g.serverNonce cipher))
      (firstFrame cipher.accessToGateway (registrationOfParty a) accessToGateway) g =
      ⟨g.runtime, none, sealOf cipher.gatewayToAccess (refusal .replaced) gatewayToAccess :: log',
        some (firstFrame cipher.gatewayToAccess (refusal .replaced) gatewayToAccess)⟩ := by
    rw [answer_known hk htexts haccess hne hsecret List.mem_cons_self,
      register_retired g.sessionId ha ht hk hretired]
    exact respond_fits hgateway htexts.replaced
  rw [exchange_known hk hg htexts hc hentry hanswer,
    connect_known hk htexts hg.serverNonce hc htexts.replaced List.mem_cons_self]
  exact turnedAway_of ha rfl (by rfl) rfl rfl

theorem settled_admissible {log : SealLog} {a : AccessParty} {g : GatewayParty} (ha : HonestAccess a)
    (hg : HonestGateway g) (hd : Digests a g.runtime.config) (hagree : KeysAgree a g)
    (htexts : ShortTexts a) (hanswers : AnswersFit g)
    (ht : credentials g.runtime.config = .ok g.runtime.credentials)
    (h : Admissible a g) : Settled a g (exchange log a g) := by
  have hk : Known a g.runtime.config := ⟨h.gateway, h.user⟩
  obtain ⟨cipher, hc, hentry⟩ := wsEntry_known ha hd ht hg.serverNonce hk
  obtain ⟨secret, hne, hours, htheirs⟩ := hagree
  obtain ⟨haccess, hgateway⟩ := fresh_fromTokens hc
  obtain ⟨credential, hname, haccepted⟩ := accepted_of_known g.runtime ha ht hk
  let log' := sealOf cipher.accessToGateway (registrationOfParty a) accessToGateway :: log
  let bootstrap := bootstrapOf a g.runtime.config g.serverNonce cipher
  let runtime := registered g.sessionId a.instanceId (ownToken a g.runtime.config) credential g.runtime
  let message := registerOk (some bootstrap) (Ring.publicKey g.privateKey) credential.name
  have hfits : Fits message := by
    obtain ⟨h3, h4⟩ := hanswers credential.name hname (handshakeUser a g.runtime.config).isSome
    show Fits (if a.gateway.userToken.isSome then _ else _)
    split
    · exact h4
    · exact h3
  have hanswer : answer log' (some bootstrap)
      (firstFrame cipher.accessToGateway (registrationOfParty a) accessToGateway) g =
      ⟨runtime, some ⟨a.gateway.userToken.isSome, g.runtime.config.auth.enabled, sessionCipher secret⟩,
        sealOf cipher.gatewayToAccess message gatewayToAccess :: log',
        some (firstFrame cipher.gatewayToAccess message gatewayToAccess)⟩ := by
    rw [answer_known hk htexts haccess hne htheirs List.mem_cons_self,
      register_of_accepted g.sessionId (haccepted h.active)]
    exact respond_fits hgateway hfits
  have hderive := deriveSessionCipher_of hne hours
  have hruns := enterSession_of_reconnects ha.runs
  obtain ⟨order, hlookup⟩ := registered_self g.sessionId a.instanceId (ownToken a g.runtime.config)
    credential g.runtime
  rw [exchange_known hk hg htexts hc hentry hanswer,
    connect_known hk htexts hg.serverNonce hc hfits List.mem_cons_self]
  simp only [message, bootstrap, answer_registerOk _ _ _ _ hk, bind, Except.bind, hderive, hruns]
  exact ⟨_, _, _, rfl, rfl, rfl, ⟨order, hlookup⟩, rfl, rfl, rfl, opensFirst_sessionCipher secret⟩

/-- **An honest handshake settles.** An access and a gateway of valid configurations, with
nothing between them, connect and register a session exactly when the access is
admissible, and then agree on all of it; any other access is told a terminal error. -/
theorem exchange_settles (log : SealLog) {a : AccessParty} {g : GatewayParty} (ha : HonestAccess a)
    (hg : HonestGateway g) (hd : Digests a g.runtime.config) (hagree : KeysAgree a g)
    (htexts : ShortTexts a) (hanswers : AnswersFit g) :
    ((exchange log a g).access.isOk = true ↔ Admissible a g) ∧
      ((exchange log a g).session.isSome = true ↔ Admissible a g) ∧
      (Admissible a g → Settled a g (exchange log a g)) ∧
      (¬ Admissible a g → TurnedAway a g (exchange log a g)) := by
  have ht := (consistent_reachable hg.runtime).table
  have hsettled : Admissible a g → Settled a g (exchange log a g) :=
    settled_admissible ha hg hd hagree htexts hanswers ht
  have haway : ¬ Admissible a g → TurnedAway a g (exchange log a g) := by
    intro hn
    by_cases hk : Known a g.runtime.config
    · have hretired : (credentialId (ownToken a g.runtime.config), a.instanceId) ∈ g.runtime.retired := by
        by_contra hactive
        exact hn ⟨hk.1, hk.2, hactive⟩
      exact turnedAway_retired ha hg hd hagree htexts ht hk hretired
    · exact turnedAway_unknown ha hd ht hk
  refine ⟨⟨fun hok => ?_, fun h => ?_⟩, ⟨fun hsome => ?_, fun h => ?_⟩, hsettled, haway⟩
  · by_contra hn
    obtain ⟨⟨error, haccess, _⟩, _⟩ := haway hn
    rw [haccess] at hok
    cases hok
  · obtain ⟨connected, connection, session, haccess, _⟩ := hsettled h
    rw [haccess]
    rfl
  · by_contra hn
    obtain ⟨_, hnone, _⟩ := haway hn
    rw [hnone] at hsome
    cases hsome
  · obtain ⟨connected, connection, session, _, hsession, _⟩ := hsettled h
    rw [hsession]
    rfl

end Settled

section Example

local instance exchangeLiterals : NetLiterals := .dottedQuad
local instance exchangeAead : Aead := .transparent
local instance exchangeCodec : MessageCodec := .plain

/-- The last thirty-two bytes, after zeros. -/
def last32 (bytes : Bytes) : Bytes := (List.replicate 32 0 ++ bytes).drop bytes.length

/-- Digests of thirty-two bytes, and a secret that both sides get. -/
local instance exchangeRing : Ring where
  sha256 := last32
  hkdfExtract := Ring.pair
  hkdfExpand := Ring.pair
  agree := fun key peer => some (List.zipWith (· + ·) (last32 key) (last32 peer))
  publicKey := last32

/-- A gateway of one user. -/
def oneUser (name : String) : GatewayConfig :=
  ⟨⟨"127.0.0.1:8443", "/tunnel"⟩, ⟨"shared", true, true⟩, [⟨name, "user", none, ["*"]⟩]⟩

def gatewayOf (name : String) : GatewayParty where
  runtime :=
    { config := oneUser name, credentials := AList.insert (credentialId "user") ⟨"user", name, true, [.any]⟩ ∅
      sessions := ∅, orders := ∅, retired := ∅, nextOrder := 0 }
  serverNonce := instanceB
  sessionId := "session"
  drawnInstance := instanceB
  privateKey := [2]

def userParty : AccessParty where
  gateway := ⟨"home", "wss://gateway/tunnel", "shared", some "user"⟩
  instanceId := instanceA
  clientNonce := instanceA
  privateKey := [1]
  connection := {}

theorem userParty_honest : HonestAccess userParty where
  configured := ⟨⟨⟨none, none, [], 1⟩, [userParty.gateway], []⟩, [userParty.gateway], by decide +kernel,
    List.mem_cons_self⟩
  instanceId := by decide +kernel
  clientNonce := by decide +kernel
  runs := rfl

theorem gatewayOf_honest {name : String} (hname : validateUsername name = .ok ()) :
    HonestGateway (gatewayOf name) := by
  have hblank : ¬ isBlank "user" = true ∧ ¬ isBlank "shared" = true := by decide +kernel
  have hother : "user" ≠ "shared" := by decide
  have hlisten : (NetLiterals.parseSocket "127.0.0.1:8443").isSome = true := by decide +kernel
  have hpath : "/tunnel".toList.head? = some '/' ∧ ¬ ('?' ∈ "/tunnel".toList ∨ '#' ∈ "/tunnel".toList) := by
    decide +kernel
  have huser : GatewayConfig.validateUser (oneUser name).auth [] ⟨name, "user", none, ["*"]⟩ = .ok () := by
    refine bind_eq_ok.mpr ⟨(), hname, bind_eq_ok.mpr ⟨(), ensure_eq_ok.mpr hblank.1, ?_⟩⟩
    exact bind_eq_ok.mpr ⟨(), ensure_eq_ok.mpr hother, bind_eq_ok.mpr ⟨(),
      ensure_eq_ok.mpr Bool.false_ne_true, bind_eq_ok.mpr ⟨(), ensure_eq_ok.mpr Bool.false_ne_true, rfl⟩⟩⟩
  have hvalid : (oneUser name).validate = .ok () :=
    bind_eq_ok.mpr ⟨(), ensure_eq_ok.mpr hblank.2, bind_eq_ok.mpr ⟨(), ensure_eq_ok.mpr hlisten,
      bind_eq_ok.mpr ⟨(), ensure_eq_ok.mpr hpath, bind_eq_ok.mpr ⟨(), huser, rfl⟩⟩⟩⟩
  have hnonce : validId instanceB = true := by decide +kernel
  exact ⟨.initial ⟨oneUser name, bind_eq_ok.mpr ⟨_, bind_eq_ok.mpr ⟨(), hvalid, rfl⟩, rfl⟩⟩, hnonce⟩

theorem userParty_digests (name : String) : Digests userParty (gatewayOf name).runtime.config := by
  constructor
  · intro bytes
    show (last32 bytes).length = 32
    rw [last32, List.length_drop, List.length_append, List.length_replicate]
    omega
  · show ∀ t ∈ ["shared", "shared", "user", "user"], ∀ t' ∈ ["shared", "shared", "user", "user"],
      credentialId t = credentialId t' → t = t'
    decide +kernel

theorem userParty_keysAgree (name : String) : KeysAgree userParty (gatewayOf name) := by
  have hagree : Ring.agree [2] (last32 [1]) = Ring.agree [1] (last32 [2]) := by decide +kernel
  exact ⟨List.zipWith (· + ·) (last32 [1]) (last32 (last32 [2])), by decide, rfl, hagree⟩

theorem userParty_shortTexts : ShortTexts userParty := by
  constructor
  · decide +kernel
  · decide +kernel

theorem userParty_admissible (name : String) : Admissible userParty (gatewayOf name) where
  gateway := rfl
  user _ := ⟨_, List.mem_cons_self, rfl⟩
  active := Finset.notMem_empty _

theorem exchange_settles_userParty :
    (exchange [] userParty (gatewayOf "lisi")).access.isOk = true ∧
      Settled userParty (gatewayOf "lisi") (exchange [] userParty (gatewayOf "lisi")) := by
  have hanswers : AnswersFit (gatewayOf "lisi") := by
    unfold AnswersFit
    decide +kernel
  have hg : HonestGateway (gatewayOf "lisi") := gatewayOf_honest (by decide +kernel)
  have h := userParty_admissible "lisi"
  obtain ⟨haccess, _, hsettled, _⟩ := exchange_settles [] userParty_honest
    hg (userParty_digests "lisi")
    (userParty_keysAgree "lisi") userParty_shortTexts hanswers
  exact ⟨haccess.mpr h, hsettled h⟩

/-! ### A name of sixteen mebibytes -/

/-- A message's text is as long as each of its fields. -/
theorem length_le_encodeMessage {message : Message} {field : Field} (h : field ∈ message.fields.2) :
    (Field.codec.write field).length ≤ (bytesOf (encodeMessage message)).length := by
  have hfields : (Field.codec.write field).length ≤ (message.fields.2.flatMap Field.codec.write).length :=
    (List.sublist_flatten_of_mem (List.mem_map.mpr ⟨field, h, rfl⟩)).length_le
  have htext : (message.fields.2.flatMap Field.codec.write).length ≤
      (encodeMessage message).toList.length := by
    show _ ≤ (String.ofList (Message.codec.write message.fields)).toList.length
    rw [String.toList_ofList]
    show _ ≤ (Codec.nat.write message.fields.1 ++ (Codec.nat.write message.fields.2.length ++
      message.fields.2.flatMap Field.codec.write)).length
    simp only [List.length_append]
    omega
  exact hfields.trans (htext.trans (length_le_bytesOf _))

theorem length_le_text (name : String) : name.toList.length ≤ (Field.codec.write (.text name)).length := by
  show _ ≤ ('r' :: 'l' :: (Codec.nat.write name.toList.length ++ name.toList.flatMap fun c => [c])).length
  rw [List.flatMap_singleton']
  simp only [List.length_cons, List.length_append]
  omega

def longName : String := String.ofList (List.replicate maxEncryptedTunnelFrameSize 'n')

theorem longName_length : longName.toList.length = maxEncryptedTunnelFrameSize := by
  rw [longName, String.toList_ofList, List.length_replicate]

theorem longName_valid : validateUsername longName = .ok () := by
  refine ensure_eq_ok.mpr ?_
  rw [isBlank, longName, String.toList_ofList, List.all_replicate, List.any_replicate]
  decide +kernel

theorem longName_unfit {message : Message} (h : Field.text longName ∈ message.fields.2) : ¬ Fits message := by
  have hlong := (length_le_text longName).trans (length_le_encodeMessage h)
  have hlimit : maxPayloadLen < maxEncryptedTunnelFrameSize := by decide +kernel
  rw [longName_length] at hlong
  unfold Fits
  omega

/-- The access is admissible, and reconnects for ever: its user's name is too long for the
answer. -/
theorem unsettled_longName :
    HonestAccess userParty ∧ HonestGateway (gatewayOf longName) ∧
      Digests userParty (gatewayOf longName).runtime.config ∧ KeysAgree userParty (gatewayOf longName) ∧
      ShortTexts userParty ∧ Admissible userParty (gatewayOf longName) ∧
      ¬ ((exchange [] userParty (gatewayOf longName)).access.isOk = true ∨
        (exchange [] userParty (gatewayOf longName)).session.isSome = true) := by
  have hg := gatewayOf_honest longName_valid
  have hd := userParty_digests longName
  have hagree := userParty_keysAgree longName
  have h := userParty_admissible longName
  refine ⟨userParty_honest, hg, hd, hagree, userParty_shortTexts, h, ?_⟩
  obtain ⟨haccess, hsession⟩ := exchange_unfit [] userParty_honest hg hd hagree
    userParty_shortTexts h (by
      intro name hname userAuth
      have hname : name ∈ [longName] := hname
      rw [List.mem_singleton.mp hname]
      exact ⟨longName_unfit (.tail _ (.head _)), longName_unfit (.tail _ (.head _))⟩)
  rw [haccess, hsession]
  exact fun hsettled => hsettled.elim Bool.false_ne_true Bool.false_ne_true

end Example

end WsNet.Handshake
