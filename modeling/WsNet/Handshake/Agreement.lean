import WsNet.Access.Handshake
import WsNet.Gateway.Handshake
import WsNet.Gateway.Takeover

/-! Which registrations a gateway accepts.

A connection selects its tokens when it is upgraded, opens a registration later and
registers it later still, with reloads in between. Accesses seal what they like
under the keys of the tokens they hold; everybody seals what they like under
other keys; and the network delivers any bytes to any connection.

`registered_by_holder`: a session is created only on the registration of an access
that holds the connection's tokens, sealed for that very connection, and only if the
configuration in force accepts the tokens. -/
namespace WsNet.Handshake
open Crypto Data Gateway Transition

/-! ### Who can seal -/

section Seals
variable [Ring]

/-- A token that somebody chose. It is no digest of other tokens, and it fits in the
memory of a machine with 64-bit addresses. -/
structure ChosenToken (token : String) : Prop where
  length : (bytesOf token).length < 2 ^ 64
  noDigest : ∀ gatewayToken userToken, token ≠ bootstrapSecret gatewayToken userToken

/-- Something that an access sealed for a handshake with the tokens it holds. -/
structure AccessSeal where
  gatewayToken : String
  userToken : Option String
  clientNonce : String
  serverNonce : String
  nonce : Bytes
  aad : Bytes
  plaintext : Bytes
  chosen : ChosenToken gatewayToken
  clientValid : validId clientNonce = true

def AccessSeal.record (a : AccessSeal) : Sealed :=
  ⟨connectionKey (handshakeSecret a.gatewayToken a.userToken) a.clientNonce a.serverNonce
    accessToGateway, a.nonce, a.aad, a.plaintext⟩

/-- A seal under any other key: the answers of gateways, the frames of sessions and of
header-less handshakes, and what an adversary makes. -/
structure ForeignSeal where
  record : Sealed
  foreign : ∀ secret clientNonce serverNonce, validId clientNonce = true →
    record.key ≠ connectionKey secret clientNonce serverNonce accessToGateway

/-- A digest of two tokens determines them: the length of the first is hashed too. -/
theorem bootstrapSecret_inj (ideal : Ring.Ideal) {gateway user gateway' user' : String}
    (h : (bytesOf gateway).length < 2 ^ 64) (h' : (bytesOf gateway').length < 2 ^ 64)
    (he : bootstrapSecret gateway user = bootstrapSecret gateway' user') :
    gateway = gateway' ∧ user = user' := by
  have hhash := ideal.sha256_inj _ _ (hex_inj he)
  simp only [List.append_assoc] at hhash
  have hrest := List.append_cancel_left hhash
  obtain ⟨hlength, hrest⟩ := List.append_inj hrest (by simp [toLeBytes])
  obtain ⟨hgateway, huser⟩ := List.append_inj hrest (toLeBytes_inj h h' hlength)
  exact ⟨bytesOf_inj hgateway, bytesOf_inj huser⟩

/-- The secret of a handshake determines its tokens. -/
theorem handshakeSecret_inj (ideal : Ring.Ideal) {gateway gateway' : String}
    {user user' : Option String} (h : ChosenToken gateway) (h' : ChosenToken gateway')
    (he : handshakeSecret gateway user = handshakeSecret gateway' user') :
    gateway = gateway' ∧ user = user' := by
  cases user with
  | none =>
    cases user' with
    | none => exact ⟨he, rfl⟩
    | some user' => exact absurd he (h.noDigest _ _)
  | some user =>
    cases user' with
    | none => exact absurd he.symm (h'.noDigest _ _)
    | some user' =>
      obtain ⟨hg, hu⟩ := bootstrapSecret_inj ideal h.length h'.length he
      exact ⟨hg, by rw [hu]⟩

/-- What an access seals when it registers is an access's seal. -/
theorem registration_byAccess [MessageCodec] {token clientNonce serverNonce : String}
    {userToken : Option String} {response : HeaderMap} {n : Access.Negotiated}
    (chosen : ChosenToken token)
    (hn : Access.negotiate token userToken clientNonce response = .ok n)
    (hnonce : response.text serverNonceHeader = some serverNonce) (instanceId : String)
    (publicKey : Bytes) :
    ∃ a : AccessSeal, a.gatewayToken = token ∧
      a.userToken = (if n.userAuth then userToken else none) ∧ a.clientNonce = clientNonce ∧
      a.serverNonce = serverNonce ∧
      a.record = n.bootstrap.accessToGateway.sealedAt 0 .text
        (bytesOf (encodeMessage (n.registration token instanceId publicKey))) accessToGateway := by
  obtain ⟨_, _, _, hcipher⟩ := Access.negotiate_ok hn
  rw [hnonce] at hcipher
  obtain ⟨hclient, _, hkeys⟩ := fromTokens_ok hcipher
  refine ⟨⟨token, if n.userAuth then userToken else none, clientNonce, serverNonce,
    sequenceNonce (bytesOf "A2GW") 0, accessToGateway, TunnelFrameKind.text.byte ::
      bytesOf (encodeMessage (n.registration token instanceId publicKey)), chosen, hclient⟩,
    rfl, rfl, rfl, rfl, ?_⟩
  rw [hkeys]
  rfl

end Seals

/-! ### The machine -/

inductive ConnStage where
  /-- Upgraded, not yet started. -/
  | upgraded
  | waiting (token : String) (userToken : Option String) (cipher : TunnelCipher)
  | registering (token : String) (userToken : Option String) (cipher : TunnelCipher)
      (instanceId : String) (clientPublicKey : Bytes)
  | closed

structure GatewayConn where
  bootstrap : Option Bootstrap
  clientNonce : String
  stage : ConnStage

/-- A session as it was created. -/
structure Created where
  connection : Nat
  bootstrap : Option Bootstrap
  clientNonce : String
  instanceId : String
  clientPublicKey : Bytes
  cipher : TunnelCipher
  /-- The configuration in force, and the session in the registry. -/
  config : GatewayConfig
  info : Option SessionInfo

section Machine
variable [NetLiterals] [Ring] [Aead] [MessageCodec]

structure HandshakeState where
  runtime : Runtime
  log : SealLog
  seals : List AccessSeal
  /-- Every server nonce drawn so far. -/
  issued : Finset String
  conns : HashMap Nat GatewayConn
  created : List Created

inductive HandshakeOp where
  | entry (conn : Nat) (headers : HeaderMap) (random : Bytes)
  | start (conn : Nat)
  | deliver (conn : Nat) (frame : WsMessage) (drawnInstance : String)
  | register (conn : Nat) (sessionId : String) (privateKey : Bytes)
  | reload (config : GatewayConfig) (chosen : ChosenToken config.auth.accessToken)
  | drop (sessionId : String)
  /-- An access seals something, or somebody else does. -/
  | byAccess (a : AccessSeal)
  | byOther (r : ForeignSeal)

namespace HandshakeState

def setStage (n : Nat) (conn : GatewayConn) (stage : ConnStage) (s : HandshakeState) : HandshakeState :=
  { s with conns := s.conns.insert n { conn with stage } }

/-- A message sealed under a handshake cipher: the one answer of a connection. -/
def answer (cipher : TunnelCipher) (message : Message) (s : HandshakeState) : HandshakeState :=
  match encryptGatewayMessage cipher (.text (encodeMessage message)) with
  | .ok _ =>
    let c := cipher.gatewayToAccess
    let payload := bytesOf (encodeMessage message)
    { s with log := c.sealedAt c.nextSendSequence .text payload gatewayToAccess :: s.log }
  | .error _ => s

def entry (n : Nat) (headers : HeaderMap) (random : Bytes) (s : HandshakeState) :
    Option HandshakeState :=
  if s.conns.lookup n = none ∧ random.length = 32 ∧ hex random ∉ s.issued then
    let s := { s with issued := insert (hex random) s.issued }
    match wsEntry headers (hex random) s.runtime with
    | .ok bootstrap =>
      let conn := ⟨bootstrap, headerText headers clientNonceHeader, .upgraded⟩
      some { s with conns := s.conns.insert n conn }
    | .error _ => some s
  else none

def start (n : Nat) (s : HandshakeState) : Option HandshakeState :=
  match s.conns.lookup n with
  | some ⟨bootstrap, clientNonce, .upgraded⟩ =>
    match startHandshake bootstrap s.runtime with
    | .ok (token, userToken, cipher) =>
      some (s.setStage n ⟨bootstrap, clientNonce, .upgraded⟩ (.waiting token userToken cipher))
    | .error _ => some (s.setStage n ⟨bootstrap, clientNonce, .upgraded⟩ .closed)
  | _ => none

def deliver (n : Nat) (frame : WsMessage) (drawnInstance : String) (s : HandshakeState) :
    Option HandshakeState :=
  match s.conns.lookup n with
  | some ⟨bootstrap, clientNonce, .waiting token userToken cipher⟩ =>
    let conn := ⟨bootstrap, clientNonce, .waiting token userToken cipher⟩
    let (result, cipher) := decodeAccessMessage s.log cipher frame
    match result.toOption.bind (registrationOf bootstrap token drawnInstance) with
    | some (instanceId, clientPublicKey) =>
      some (s.setStage n conn (.registering token userToken cipher instanceId clientPublicKey))
    | none => some ((s.setStage n conn .closed).answer cipher (refusal .unauthorized))
  | _ => none

def register (n : Nat) (sessionId : String) (privateKey : Bytes) (s : HandshakeState) :
    Option HandshakeState :=
  match s.conns.lookup n with
  | some ⟨bootstrap, clientNonce, .registering token userToken cipher instanceId clientPublicKey⟩ =>
    let conn := ⟨bootstrap, clientNonce,
      .registering token userToken cipher instanceId clientPublicKey⟩
    match TunnelCipher.deriveSessionCipher privateKey clientPublicKey with
    | .error _ => some (s.setStage n conn .closed)
    | .ok session =>
      match AppState.register sessionId token userToken instanceId (isLegacy bootstrap) s.runtime with
      | .error e => some ((s.setStage n conn .closed).answer cipher (refusal (refusalOf e)))
      | .ok (runtime, _, userName) =>
        let created := ⟨n, bootstrap, clientNonce, instanceId, clientPublicKey, session,
          s.runtime.config, runtime.sessions.lookup sessionId⟩
        let s := { s with runtime, created := created :: s.created }
        some ((s.setStage n conn .closed).answer cipher
          (registerOk bootstrap (Ring.publicKey privateKey) userName))
  | _ => none

def reload (config : GatewayConfig) (s : HandshakeState) : HandshakeState :=
  match AppState.reload config s.runtime with
  | .ok runtime => { s with runtime }
  | .error _ => s

end HandshakeState

def handshakes : Machine HandshakeState HandshakeOp where
  Initial := fun s => (∃ config, ChosenToken config.auth.accessToken ∧
      AppState.new config = .ok s.runtime) ∧
    s.log = [] ∧ s.seals = [] ∧ s.issued = ∅ ∧ s.conns = ∅ ∧ s.created = []
  step
    | .entry n headers random, s => s.entry n headers random
    | .start n, s => s.start n
    | .deliver n frame drawnInstance, s => s.deliver n frame drawnInstance
    | .register n sessionId privateKey, s => s.register n sessionId privateKey
    | .reload config _, s => some (s.reload config)
    | .drop sessionId, s => some { s with runtime := AppState.dropLease sessionId s.runtime }
    | .byAccess a, s => some { s with seals := a :: s.seals, log := a.record :: s.log }
    | .byOther r, s => some { s with log := r.record :: s.log }

end Machine

/-! ### What a connection knows -/

/-- The registration of a connection's version. -/
def registrationMessage (b : Bootstrap) (instanceId : String) (clientPublicKey : Bytes) : Message :=
  if b.dual then .registerAccessV4 instanceId clientPublicKey
  else .registerAccessV3 instanceId clientPublicKey

/-- A registration of a connection's version has the message of that version. -/
theorem registrationOf_some {b : Bootstrap} {token drawnInstance instanceId : String}
    {clientPublicKey : Bytes} {message : Message}
    (h : registrationOf (some b) token drawnInstance message = some (instanceId, clientPublicKey)) :
    message = registrationMessage b instanceId clientPublicKey := by
  unfold registrationMessage
  cases message with
  | registerAccessV4 i k =>
    simp only [registrationOf, Option.any_some] at h
    split at h <;> cases h
    rename_i hdual
    rw [if_pos hdual]
  | registerAccessV3 i k =>
    simp only [registrationOf, Option.any_some] at h
    split at h <;> cases h
    rename_i hdual
    rw [if_neg (by simpa using hdual)]
  | registerAccess t k => simp [registrationOf] at h
  | _ => cases h

section Knowledge
variable [Ring] [MessageCodec]

/-- An access with the connection's tokens sealed this registration for the connection. -/
def RegisteredBy (seals : List AccessSeal) (b : Bootstrap) (clientNonce instanceId : String)
    (clientPublicKey : Bytes) : Prop :=
  ∃ a ∈ seals, a.gatewayToken = b.token ∧ a.userToken = b.userToken ∧
    a.clientNonce = clientNonce ∧ a.serverNonce = b.serverNonce ∧
    ∃ payload, a.plaintext = TunnelFrameKind.text.byte :: payload ∧
      (textOf payload).bind decodeMessage = some (registrationMessage b instanceId clientPublicKey)

/-- No access seals under this key for a gateway to open. -/
def NotAccessKey (key : Bytes) : Prop :=
  ∀ secret clientNonce serverNonce, validId clientNonce = true →
    key ≠ connectionKey secret clientNonce serverNonce accessToGateway

def ConnStage.cipher : ConnStage → Option TunnelCipher
  | .waiting _ _ cipher | .registering _ _ cipher _ _ => some cipher
  | _ => none

def StageInv (seals : List AccessSeal) (b : Bootstrap) (clientNonce : String) : ConnStage → Prop
  | .waiting token userToken cipher => token = b.token ∧ userToken = b.userToken ∧ cipher = b.cipher
  | .registering token userToken _ instanceId clientPublicKey =>
    token = b.token ∧ userToken = b.userToken ∧
      RegisteredBy seals b clientNonce instanceId clientPublicKey
  | _ => True

structure ConnInv (seals : List AccessSeal) (conn : GatewayConn) (b : Bootstrap) : Prop where
  chosen : ChosenToken b.token
  cipher : TunnelCipher.fromTokens b.token b.userToken conn.clientNonce b.serverNonce = .ok b.cipher
  stage : StageInv seals b conn.clientNonce conn.stage

/-- What a session was created on. -/
structure CreatedInv (seals : List AccessSeal) (c : Created) (b : Bootstrap) : Prop where
  registered : RegisteredBy seals b c.clientNonce c.instanceId c.clientPublicKey
  cipher : ∃ privateKey, TunnelCipher.deriveSessionCipher privateKey c.clientPublicKey = .ok c.cipher
  gateway : c.config.auth.accessToken = b.token
  session : ∃ token, (if c.config.auth.enabled then
      b.userToken = some token ∧ ∃ user ∈ c.config.users, user.token = token
    else token = b.token) ∧
    ∃ order, c.info = some ⟨credentialId token, c.instanceId, order, none⟩

theorem RegisteredBy.mono {seals seals' : List AccessSeal} {b : Bootstrap}
    {clientNonce instanceId : String} {clientPublicKey : Bytes} (hs : ∀ a ∈ seals, a ∈ seals')
    (h : RegisteredBy seals b clientNonce instanceId clientPublicKey) :
    RegisteredBy seals' b clientNonce instanceId clientPublicKey := by
  obtain ⟨a, ha, h⟩ := h
  exact ⟨a, hs a ha, h⟩

theorem ConnInv.mono {seals seals' : List AccessSeal} {conn : GatewayConn} {b : Bootstrap}
    (hs : ∀ a ∈ seals, a ∈ seals') (h : ConnInv seals conn b) : ConnInv seals' conn b := by
  refine ⟨h.chosen, h.cipher, ?_⟩
  have hstage := h.stage
  cases hc : conn.stage with
  | registering token userToken cipher instanceId clientPublicKey =>
    rw [hc] at hstage
    exact ⟨hstage.1, hstage.2.1, hstage.2.2.mono hs⟩
  | waiting token userToken cipher =>
    rw [hc] at hstage
    exact hstage
  | upgraded => trivial
  | closed => trivial

theorem CreatedInv.mono {seals seals' : List AccessSeal} {c : Created} {b : Bootstrap}
    (hs : ∀ a ∈ seals, a ∈ seals') (h : CreatedInv seals c b) : CreatedInv seals' c b :=
  ⟨h.registered.mono hs, h.cipher, h.gateway, h.session⟩

/-- The cipher of a connection that is upgraded or started does not seal as an access. -/
theorem notAccessKey_start (ideal : Ring.Ideal) {s : HandshakeState} {token : String}
    {userToken : Option String} {conn : GatewayConn} {cipher : TunnelCipher}
    (hconn : ∀ b, conn.bootstrap = some b → ConnInv s.seals conn b)
    (hs : startHandshake conn.bootstrap s.runtime = .ok (token, userToken, cipher)) :
    NotAccessKey cipher.gatewayToAccess.key := by
  intro secret clientNonce serverNonce hvalid hkey
  cases hb : conn.bootstrap with
  | none =>
    rw [hb] at hs
    obtain ⟨shared, hshared, hs⟩ := bind_eq_ok.mp hs
    cases pure_eq_ok.mp hs
    rw [fromSharedKey_ok hshared] at hkey
    exact connectionKey_ne_legacyKey ideal hkey.symm
  | some b =>
    rw [hb] at hs
    have hsame := pure_eq_ok.mp hs
    obtain ⟨hclient, _, hkeys⟩ := fromTokens_ok (hconn b hb).cipher
    rw [← (Prod.mk.inj (Prod.mk.inj hsame).2).2, hkeys] at hkey
    obtain ⟨_, _, _, hdirection⟩ := connectionKey_inj ideal hclient hvalid hkey
    exact directions_ne hdirection.symm

end Knowledge

/-! ### The invariant -/

section Invariant
variable [NetLiterals] [Ring] [MessageCodec]

structure AgreementInv (s : HandshakeState) : Prop where
  table : credentials s.runtime.config = .ok s.runtime.credentials
  chosen : ChosenToken s.runtime.config.auth.accessToken
  log : ∀ r ∈ s.log, ¬ NotAccessKey r.key → ∃ a ∈ s.seals, r = a.record
  conn : ∀ n conn b, s.conns.lookup n = some conn → conn.bootstrap = some b → ConnInv s.seals conn b
  answers : ∀ n conn, s.conns.lookup n = some conn →
    ∀ cipher ∈ conn.stage.cipher, NotAccessKey cipher.gatewayToAccess.key
  issued : ∀ n conn b, s.conns.lookup n = some conn → conn.bootstrap = some b →
    b.serverNonce ∈ s.issued
  distinct : ∀ n n' conn conn' b b', s.conns.lookup n = some conn → s.conns.lookup n' = some conn' →
    conn.bootstrap = some b → conn'.bootstrap = some b' → b.serverNonce = b'.serverNonce → n = n'
  created : ∀ c ∈ s.created, ∀ b, c.bootstrap = some b → CreatedInv s.seals c b
  closed : ∀ c ∈ s.created, ∃ conn, s.conns.lookup c.connection = some conn ∧
    conn.bootstrap = c.bootstrap ∧ conn.stage = .closed
  once : (s.created.map Created.connection).Nodup

/-- A seal that is no access's, or an access's that is recorded, may be logged. -/
theorem AgreementInv.logSeal {s : HandshakeState} (h : AgreementInv s) {r : Sealed}
    {seals : List AccessSeal} (hs : ∀ a ∈ s.seals, a ∈ seals)
    (hr : ¬ NotAccessKey r.key → ∃ a ∈ seals, r = a.record) :
    AgreementInv { s with log := r :: s.log, seals } := by
  refine ⟨h.table, h.chosen, ?_, fun n conn b hl hb => (h.conn n conn b hl hb).mono hs, h.answers,
    h.issued, h.distinct, fun c hc b hb => (h.created c hc b hb).mono hs, h.closed, h.once⟩
  intro r' hr' hkey
  rcases List.mem_cons.mp hr' with rfl | hr'
  · exact hr hkey
  · obtain ⟨a, ha, he⟩ := h.log r' hr' hkey
    exact ⟨a, hs a ha, he⟩

/-- An open connection moves to a stage that says no more than is known. -/
theorem AgreementInv.setStage {s : HandshakeState} (h : AgreementInv s) {n : Nat} {conn : GatewayConn}
    (hl : s.conns.lookup n = some conn) (hopen : conn.stage ≠ .closed) {stage : ConnStage}
    (hstage : ∀ b, conn.bootstrap = some b → StageInv s.seals b conn.clientNonce stage)
    (hcipher : ∀ cipher ∈ stage.cipher, NotAccessKey cipher.gatewayToAccess.key) :
    AgreementInv (s.setStage n conn stage) := by
  -- a connection of the new map has the bootstrap it had
  have hold : ∀ m c, (s.conns.insert n { conn with stage }).lookup m = some c →
      ∃ c', s.conns.lookup m = some c' ∧ c'.bootstrap = c.bootstrap := by
    intro m c hm
    rcases HashMap.lookup_insert_some hm with ⟨rfl, rfl⟩ | ⟨_, hm⟩
    · exact ⟨conn, hl, rfl⟩
    · exact ⟨c, hm, rfl⟩
  refine ⟨h.table, h.chosen, h.log, ?_, ?_, ?_, ?_, h.created, ?_, h.once⟩
  · intro m c b hm hb
    rcases HashMap.lookup_insert_some hm with ⟨rfl, rfl⟩ | ⟨_, hm⟩
    · have hconn := h.conn _ conn b hl hb
      exact ⟨hconn.chosen, hconn.cipher, hstage b hb⟩
    · exact h.conn m c b hm hb
  · intro m c hm
    rcases HashMap.lookup_insert_some hm with ⟨rfl, rfl⟩ | ⟨_, hm⟩
    · exact hcipher
    · exact h.answers m c hm
  · intro m c b hm hb
    obtain ⟨c', hm', hb'⟩ := hold m c hm
    exact h.issued m c' b hm' (hb'.trans hb)
  · intro m m' c c' b b' hm hm' hb hb' he
    obtain ⟨d, hd, hbd⟩ := hold m c hm
    obtain ⟨d', hd', hbd'⟩ := hold m' c' hm'
    exact h.distinct m m' d d' b b' hd hd' (hbd.trans hb) (hbd'.trans hb') he
  · intro c hc
    obtain ⟨d, hd, hbd, hclosed⟩ := h.closed c hc
    have hne : c.connection ≠ n := by
      intro he
      rw [he, hl] at hd
      cases hd
      exact hopen hclosed
    refine ⟨d, ?_, hbd, hclosed⟩
    show (s.conns.insert n { conn with stage }).lookup c.connection = some d
    rw [AList.lookup_insert_ne hne]
    exact hd

theorem AgreementInv.close {s : HandshakeState} (h : AgreementInv s) {n : Nat} {conn : GatewayConn}
    (hl : s.conns.lookup n = some conn) (hopen : conn.stage ≠ .closed) :
    AgreementInv (s.setStage n conn .closed) :=
  h.setStage hl hopen (fun _ _ => trivial) fun _ hc => by cases hc

/-- A created session is recorded, its connection closed. -/
theorem AgreementInv.create {s : HandshakeState} (h : AgreementInv s) {n : Nat} {conn : GatewayConn}
    (hl : s.conns.lookup n = some conn) (hopen : conn.stage ≠ .closed) (c : Created)
    (hn : c.connection = n) (hboot : c.bootstrap = conn.bootstrap)
    (hc : ∀ b, conn.bootstrap = some b → CreatedInv s.seals c b) (runtime : Runtime)
    (hruntime : runtime.config = s.runtime.config ∧ runtime.credentials = s.runtime.credentials) :
    AgreementInv ({ s with runtime, created := c :: s.created }.setStage n conn .closed) := by
  have hset := h.close hl hopen
  refine ⟨?_, ?_, h.log, hset.conn, hset.answers, hset.issued, hset.distinct, ?_, ?_, ?_⟩
  · show credentials runtime.config = .ok runtime.credentials
    rw [hruntime.1, hruntime.2]
    exact h.table
  · show ChosenToken runtime.config.auth.accessToken
    rw [hruntime.1]
    exact h.chosen
  · intro c' hc' b hb
    rcases List.mem_cons.mp hc' with rfl | hc'
    · exact hc b (hboot.symm.trans hb)
    · exact h.created c' hc' b hb
  · intro c' hc'
    rcases List.mem_cons.mp hc' with rfl | hc'
    · exact ⟨{ conn with stage := .closed }, by rw [hn]; exact AList.lookup_insert _, hboot.symm, rfl⟩
    · exact hset.closed c' hc'
  · refine List.nodup_cons.mpr ⟨fun hmem => ?_, h.once⟩
    obtain ⟨c', hc', he⟩ := List.mem_map.mp hmem
    obtain ⟨conn', hl', _, hclosed⟩ := h.closed c' hc'
    rw [he, hn, hl] at hl'
    cases hl'
    exact hopen hclosed

/-- What a registration leaves for the connection that made it. -/
theorem createdInv_register {s : HandshakeState} (h : AgreementInv s) {n : Nat} {conn : GatewayConn}
    {b : Bootstrap} (hl : s.conns.lookup n = some conn) (hb : conn.bootstrap = some b)
    {token sessionId instanceId userName : String} {userToken : Option String}
    {cipher session : TunnelCipher} {clientPublicKey privateKey : Bytes} {lease : SessionLease}
    {runtime : Runtime}
    (hstage : conn.stage = .registering token userToken cipher instanceId clientPublicKey)
    (hsession : TunnelCipher.deriveSessionCipher privateKey clientPublicKey = .ok session)
    (hr : AppState.register sessionId token userToken instanceId (isLegacy conn.bootstrap) s.runtime =
      .ok (runtime, lease, userName)) :
    CreatedInv s.seals ⟨n, conn.bootstrap, conn.clientNonce, instanceId, clientPublicKey, session,
      s.runtime.config, runtime.sessions.lookup sessionId⟩ b := by
  have hconn := (h.conn n conn b hl hb).stage
  rw [hstage] at hconn
  obtain ⟨rfl, rfl, hregistered⟩ := hconn
  obtain ⟨token, credential, haccepted, rfl, _, _⟩ := register_ok hr
  refine ⟨hregistered, ⟨privateKey, hsession⟩, haccepted.gateway.symm, token, ?_, ?_⟩
  · have hsubmitted := haccepted.submitted
    show if s.runtime.config.auth.enabled = true then _ else _
    by_cases he : s.runtime.config.auth.enabled = true
    · rw [if_pos he] at hsubmitted ⊢
      obtain ⟨user, huser, _, htoken, _⟩ := credentials_mem h.table he haccepted.known
      exact ⟨hsubmitted, user, huser, by rw [← htoken, haccepted.same]⟩
    · rw [if_neg he] at hsubmitted ⊢
      exact hsubmitted
  · show ∃ order, (registered sessionId instanceId token credential s.runtime).sessions.lookup
      sessionId = some ⟨credentialId token, instanceId, order, none⟩
    unfold registered
    obtain ⟨order, hs, _⟩ := enroll_spec sessionId (credentialId token) instanceId
      (if credential.single then s.runtime.takeover (credentialId token) instanceId else s.runtime)
    exact ⟨order, by rw [hs, AList.lookup_insert]⟩

theorem agreementInv_entry {n : Nat} {headers : HeaderMap} {random : Bytes} {s t : HandshakeState}
    (h : AgreementInv s) (hs : s.entry n headers random = some t) : AgreementInv t := by
  unfold HandshakeState.entry at hs
  split at hs
  swap
  · cases hs
  rename_i hfresh
  obtain ⟨hnew, _, hnonce⟩ := hfresh
  dsimp only at hs
  split at hs <;> cases hs
  · rename_i bootstrap hentry
    have hboot : ∀ b, bootstrap = some b → ConnInv s.seals
        ⟨bootstrap, headerText headers clientNonceHeader, .upgraded⟩ b ∧ b.serverNonce = hex random := by
      intro b heq
      subst heq
      obtain ⟨hserver, htoken, hcipher⟩ := wsEntry_ok hentry
      exact ⟨⟨htoken ▸ h.chosen, hserver ▸ hcipher, trivial⟩, hserver⟩
    have hkeep : ∀ c ∈ s.created, c.connection ≠ n := by
      intro c hc he
      obtain ⟨conn, hl, _⟩ := h.closed c hc
      rw [he, hnew] at hl
      cases hl
    refine ⟨h.table, h.chosen, h.log, ?_, ?_, ?_, ?_, h.created, ?_, h.once⟩
    · intro m conn b hm hb
      rcases HashMap.lookup_insert_some hm with ⟨rfl, rfl⟩ | ⟨_, hm⟩
      · exact (hboot b hb).1
      · exact h.conn m conn b hm hb
    · intro m conn hm
      rcases HashMap.lookup_insert_some hm with ⟨rfl, rfl⟩ | ⟨_, hm⟩
      · intro cipher hc
        cases hc
      · exact h.answers m conn hm
    · intro m conn b hm hb
      rcases HashMap.lookup_insert_some hm with ⟨rfl, rfl⟩ | ⟨_, hm⟩
      · rw [(hboot b hb).2]
        exact Finset.mem_insert_self _ _
      · exact Finset.mem_insert_of_mem (h.issued m conn b hm hb)
    · intro m m' conn conn' b b' hm hm' hb hb' he
      rcases HashMap.lookup_insert_some hm with ⟨rfl, rfl⟩ | ⟨_, hold⟩ <;>
        rcases HashMap.lookup_insert_some hm' with ⟨rfl, rfl⟩ | ⟨_, hold'⟩
      · rfl
      · exact absurd (h.issued m' conn' b' hold' hb') (by rw [← he, (hboot b hb).2]; exact hnonce)
      · exact absurd (h.issued m conn b hold hb) (by rw [he, (hboot b' hb').2]; exact hnonce)
      · exact h.distinct m m' conn conn' b b' hold hold' hb hb' he
    · intro c hc
      obtain ⟨conn, hl, hrest⟩ := h.closed c hc
      exact ⟨conn, by rw [AList.lookup_insert_ne (hkeep c hc), hl], hrest⟩
  · exact ⟨h.table, h.chosen, h.log, h.conn, h.answers,
      fun m conn b hm hb => Finset.mem_insert_of_mem (h.issued m conn b hm hb), h.distinct, h.created,
      h.closed, h.once⟩

theorem agreementInv_reload {config : GatewayConfig} (chosen : ChosenToken config.auth.accessToken)
    {s : HandshakeState} (h : AgreementInv s) : AgreementInv (s.reload config) := by
  unfold HandshakeState.reload
  split
  · rename_i runtime hr
    obtain ⟨table, htable, _, rfl⟩ := reload_ok hr
    exact ⟨htable, chosen, h.log, h.conn, h.answers, h.issued, h.distinct, h.created, h.closed, h.once⟩
  · exact h

theorem agreementInv_start (ideal : Ring.Ideal) {n : Nat} {s t : HandshakeState} (h : AgreementInv s)
    (hs : s.start n = some t) : AgreementInv t := by
  unfold HandshakeState.start at hs
  split at hs
  · rename_i bootstrap clientNonce hl
    split at hs <;> cases hs
    · rename_i token userToken cipher hstart
      refine h.setStage hl (by simp) ?_ ?_
      · intro b hb
        have hb' : bootstrap = some b := hb
        rw [hb'] at hstart
        cases pure_eq_ok.mp hstart
        exact ⟨rfl, rfl, rfl⟩
      · intro c hc
        cases hc
        exact notAccessKey_start ideal (fun b hb => h.conn n _ b hl hb) hstart
    · exact h.close hl (by simp)
  · cases hs

end Invariant

/-! ### Steps -/

section Steps
variable [NetLiterals] [Ring] [Aead] [MessageCodec]

theorem AgreementInv.answer {s : HandshakeState} (h : AgreementInv s) {cipher : TunnelCipher}
    (hkey : NotAccessKey cipher.gatewayToAccess.key) (message : Message) :
    AgreementInv (s.answer cipher message) := by
  unfold HandshakeState.answer
  split
  · exact h.logSeal (fun _ ha => ha) fun hnot => absurd hkey hnot
  · exact h

/-- What a connection with nonces opens was sealed for it by an access with its
tokens. -/
theorem AgreementInv.opened (ideal : Ring.Ideal) {s : HandshakeState} (h : AgreementInv s) {n : Nat}
    {conn : GatewayConn} {b : Bootstrap} (hl : s.conns.lookup n = some conn)
    (hb : conn.bootstrap = some b) {frame : WsMessage} {message : Message}
    (hd : (decodeAccessMessage s.log b.cipher frame).1 = .ok message) :
    ∃ a ∈ s.seals, a.gatewayToken = b.token ∧ a.userToken = b.userToken ∧
      a.clientNonce = conn.clientNonce ∧ a.serverNonce = b.serverNonce ∧
      ∃ payload, a.plaintext = TunnelFrameKind.text.byte :: payload ∧
        (textOf payload).bind decodeMessage = some message := by
  have hconn := h.conn n conn b hl hb
  obtain ⟨hclient, _, hkeys⟩ := fromTokens_ok hconn.cipher
  obtain ⟨bytes, payload, rfl, hopen, hmessage⟩ := decodeAccessMessage_ok hd
  have hpair : b.cipher.accessToGateway.decrypt s.log bytes accessToGateway =
      (.ok (.text, payload), (b.cipher.accessToGateway.decrypt s.log bytes accessToGateway).2) :=
    Prod.ext hopen rfl
  obtain ⟨hmem, _, _⟩ := DirectionCipher.decrypt_ok hpair
  have hkey : b.cipher.accessToGateway.key = connectionKey (handshakeSecret b.token b.userToken)
      conn.clientNonce b.serverNonce accessToGateway := by
    rw [hkeys]
    rfl
  obtain ⟨a, ha, hrecord⟩ := h.log _ hmem fun hnot => hnot _ _ _ hclient hkey
  have hsame := congrArg Sealed.key hrecord
  rw [show (DirectionCipher.sealedAt _ _ _ _ b.cipher.accessToGateway).key =
    b.cipher.accessToGateway.key from rfl, hkey] at hsame
  obtain ⟨hsecret, hnonce, hserver, _⟩ := connectionKey_inj ideal hclient a.clientValid hsame
  obtain ⟨hgateway, huser⟩ := handshakeSecret_inj ideal hconn.chosen a.chosen hsecret
  exact ⟨a, ha, hgateway.symm, huser.symm, hnonce.symm, hserver.symm, payload,
    (congrArg Sealed.plaintext hrecord).symm, hmessage⟩

theorem agreementInv_initial {s : HandshakeState} (h : handshakes.Initial s) : AgreementInv s := by
  obtain ⟨⟨config, hchosen, hnew⟩, hlog, hseals, hissued, hconns, hcreated⟩ := h
  have htable := (consistent_new hnew).table
  have hconfig : s.runtime.config = config := by
    obtain ⟨table, _, hnew⟩ := bind_eq_ok.mp hnew
    rw [← pure_eq_ok.mp hnew]
  refine ⟨htable, hconfig ▸ hchosen, ?_, ?_, ?_, ?_, ?_, ?_, ?_, ?_⟩ <;>
    simp [hlog, hconns, hcreated]

theorem agreementInv_deliver (ideal : Ring.Ideal) {n : Nat} {frame : WsMessage}
    {drawnInstance : String} {s t : HandshakeState} (h : AgreementInv s)
    (hs : s.deliver n frame drawnInstance = some t) : AgreementInv t := by
  unfold HandshakeState.deliver at hs
  split at hs
  swap
  · cases hs
  rename_i bootstrap clientNonce token userToken cipher hl
  have hsame := decodeAccessMessage_gateway s.log cipher frame
  have hforeign := h.answers n _ hl cipher rfl
  dsimp only at hs
  split at hs <;> cases hs
  · rename_i instanceId clientPublicKey hregistration
    refine h.setStage hl (by simp) ?_ ?_
    · intro b hb
      have hb' : bootstrap = some b := hb
      obtain ⟨htoken, huser, hcipher⟩ := (h.conn n _ b hl hb).stage
      obtain ⟨message, hmessage, hof⟩ := Option.bind_eq_some_iff.mp hregistration
      rw [hb'] at hof
      have hdecoded : (decodeAccessMessage s.log b.cipher frame).1 = .ok message := by
        rw [← hcipher]
        cases hd : (decodeAccessMessage s.log cipher frame).1 with
        | error e => simp [hd, Except.toOption] at hmessage
        | ok m => simpa [hd, Except.toOption] using hmessage
      rw [registrationOf_some hof] at hdecoded
      exact ⟨htoken, huser, h.opened ideal hl hb hdecoded⟩
    · intro c hc
      cases hc
      rw [hsame]
      exact hforeign
  · refine (h.close hl (by simp)).answer ?_ _
    rw [hsame]
    exact hforeign

theorem agreementInv_register {n : Nat} {sessionId : String} {privateKey : Bytes}
    {s t : HandshakeState} (h : AgreementInv s) (hs : s.register n sessionId privateKey = some t) :
    AgreementInv t := by
  unfold HandshakeState.register at hs
  split at hs
  swap
  · cases hs
  rename_i bootstrap clientNonce token userToken cipher instanceId clientPublicKey hl
  have hforeign := h.answers n _ hl cipher rfl
  dsimp only at hs
  split at hs
  · cases hs
    exact h.close hl (by simp)
  rename_i session hsession
  split at hs <;> cases hs
  · exact (h.close hl (by simp)).answer hforeign _
  · rename_i runtime lease userName hr
    obtain ⟨token', credential, _, hnext, _, _⟩ := register_ok hr
    have hkept := registered_credentials sessionId instanceId token' credential s.runtime
    rw [← hnext] at hkept
    have hcreate := h.create hl (by simp) ⟨n, bootstrap, clientNonce, instanceId, clientPublicKey,
      session, s.runtime.config, runtime.sessions.lookup sessionId⟩ rfl rfl
      (fun b hb => createdInv_register h hl hb rfl hsession hr) runtime ⟨hkept.2, hkept.1⟩
    exact hcreate.answer hforeign _

theorem agreementInv_reachable (ideal : Ring.Ideal) {s : HandshakeState} (h : handshakes.Reachable s) :
    AgreementInv s := by
  apply Machine.ReachableUnder.invariant _ _ h
  · exact fun _ hi => agreementInv_initial hi
  · intro op s t _ hinv _ hs
    cases op with
    | entry n headers random => exact agreementInv_entry hinv hs
    | start n => exact agreementInv_start ideal hinv hs
    | deliver n frame drawnInstance => exact agreementInv_deliver ideal hinv hs
    | register n sessionId privateKey => exact agreementInv_register hinv hs
    | reload config chosen =>
      cases hs
      exact agreementInv_reload chosen hinv
    | drop sessionId =>
      cases hs
      exact ⟨hinv.table, hinv.chosen, hinv.log, hinv.conn, hinv.answers, hinv.issued, hinv.distinct,
        hinv.created, hinv.closed, hinv.once⟩
    | byAccess a =>
      cases hs
      exact hinv.logSeal (fun _ ha => List.mem_cons_of_mem _ ha) fun _ => ⟨a, List.mem_cons_self, rfl⟩
    | byOther r =>
      cases hs
      exact hinv.logSeal (fun _ ha => ha) fun hnot => absurd r.foreign hnot

/-- **Registered by a holder of the tokens, for this connection.** Every session created
on a connection with nonces was created on a registration of the connection's
version, with exactly its instance and public key, that an access with the
connection's tokens sealed under its client and server nonces; for the user of the
token, or the shared credential without users; under a configuration that accepts
the tokens. No two sessions are created on one server nonce. -/
theorem registered_by_holder (ideal : Ring.Ideal) {s : HandshakeState}
    (h : handshakes.Reachable s) :
    (∀ c ∈ s.created, ∀ b, c.bootstrap = some b → CreatedInv s.seals c b) ∧
    (∀ c ∈ s.created, ∀ c' ∈ s.created, ∀ b b', c.bootstrap = some b → c'.bootstrap = some b' →
      b.serverNonce = b'.serverNonce → c = c') := by
  have hinv := agreementInv_reachable ideal h
  refine ⟨hinv.created, ?_⟩
  intro c hc c' hc' b b' hb hb' he
  obtain ⟨conn, hl, hboot, _⟩ := hinv.closed c hc
  obtain ⟨conn', hl', hboot', _⟩ := hinv.closed c' hc'
  have hsame := hinv.distinct _ _ conn conn' b b' hl hl' (hboot.trans hb) (hboot'.trans hb') he
  exact List.inj_on_of_nodup_map hinv.once hc hc' hsame

end Steps

/-! ### A registration -/

section Example

local instance agreedNet : NetLiterals := .dottedQuad
local instance agreedRing : Ring := .free
local instance agreedAead : Aead := .transparent
local instance agreedCodec : MessageCodec := .plain

theorem sharedtoken_chosen : ChosenToken "sharedtoken" := by
  refine ⟨by decide +kernel, fun gatewayToken userToken h => ?_⟩
  -- a digest starts with the first digit of its domain
  obtain ⟨rest, hdomain⟩ : ∃ rest, bytesOf "ws-net/bootstrap-secret/v4\x00" = 119 :: rest :=
    ⟨_, by rfl⟩
  have hfree : ∀ bytes : Bytes, Ring.sha256 bytes = bytes := fun _ => rfl
  have hhead := congrArg (fun text : String => text.toList.head?) h
  simp [bootstrapSecret, tokenPairHash, hex, hdomain, hfree, hexByte, hexDigit] at hhead

def agreedConfig : GatewayConfig :=
  ⟨⟨"127.0.0.1:8443", "/tunnel"⟩, ⟨"sharedtoken", true, true⟩,
    [⟨"lisi", "lisis-token", none, ["127.0.0.1:*"]⟩]⟩

def agreedStart : HandshakeState :=
  { runtime := { config := agreedConfig, credentials := (credentials agreedConfig).toOption.getD ∅,
                 sessions := ∅, orders := ∅, retired := ∅, nextOrder := 0 }
    log := [], seals := [], issued := ∅, conns := ∅, created := [] }

def agreedNonce (c : Char) : String := String.ofList (List.replicate 64 c)

def agreedRandom : Bytes := List.replicate 32 1

def agreedSeal : AccessSeal where
  gatewayToken := "sharedtoken"
  userToken := some "lisis-token"
  clientNonce := agreedNonce 'a'
  serverNonce := hex agreedRandom
  nonce := sequenceNonce (bytesOf "A2GW") 0
  aad := accessToGateway
  plaintext := TunnelFrameKind.text.byte ::
    bytesOf (encodeMessage (.registerAccessV4 (agreedNonce 'b') [5]))
  chosen := sharedtoken_chosen
  clientValid := by decide +kernel

/-- An access registers; a configuration is reloaded in between. -/
def agreedOps : List HandshakeOp :=
  [.entry 0 (Access.requestHeaders "sharedtoken" (some "lisis-token") (agreedNonce 'a')) agreedRandom,
    .byAccess agreedSeal, .start 0,
    .deliver 0 (.binary (DirectionCipher.frameOf 0 agreedSeal.record)) (agreedNonce 'c'),
    .reload agreedConfig sharedtoken_chosen, .register 0 "s1" [9]]

def agreedState : HandshakeState := (handshakes.run agreedOps agreedStart).getD agreedStart

theorem agreedStart_initial : handshakes.Initial agreedStart :=
  ⟨⟨agreedConfig, sharedtoken_chosen, by rfl⟩, rfl, rfl, rfl, rfl, rfl⟩

theorem agreedState_ends : (handshakes.run agreedOps agreedStart).isSome = true ∧
    (agreedState.created.head?.bind Created.bootstrap).isSome = true := by decide +kernel

theorem registered_by_holder_agreedState :
    ∃ c ∈ agreedState.created, ∃ b, c.bootstrap = some b ∧ CreatedInv agreedState.seals c b := by
  obtain ⟨hrun, hone⟩ := agreedState_ends
  have hreach : handshakes.Reachable agreedState := Machine.reachable_getD agreedStart_initial hrun
  obtain ⟨hcreated, _⟩ := registered_by_holder Ring.free_ideal hreach
  obtain ⟨b, hb⟩ := Option.isSome_iff_exists.mp hone
  obtain ⟨c, hc, hboot⟩ := Option.bind_eq_some_iff.mp hb
  have hmem := List.mem_of_head? hc
  exact ⟨c, hmem, b, hboot, hcreated c hmem b hboot⟩

end Example

end WsNet.Handshake
