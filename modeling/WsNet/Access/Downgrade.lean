import WsNet.Access.Handshake

/-! What user authentication is worth to an access with a user token.

The gateway's answer says that the user is authenticated; it opens under a key of
the handshake. The headers of the response, which nothing protects, say how that
key is derived. With a server nonce it is derived from both tokens. Without one
it is the header-less handshake's, whatever the other headers say: the gateway's
token alone answers it, and every user has that. -/
namespace WsNet.Access
open Crypto

section Keys
variable [Ring] {token userToken clientNonce : String} {response : HeaderMap}

/-- The cipher of a handshake has not been used. -/
theorem bootstrap_fresh {userToken : Option String} {n : Negotiated}
    (h : negotiate token userToken clientNonce response = .ok n) :
    n.bootstrap.gatewayToAccess.nextReceiveSequence = 0 := by
  obtain ⟨_, _, _, hcipher⟩ := negotiate_ok h
  unfold bootstrapCipher at hcipher
  split at hcipher
  · obtain ⟨_, _, hkeys⟩ := fromTokens_ok hcipher
    rw [hkeys]
    rfl
  · rw [fromSharedKey_ok hcipher]
    rfl

/-- With a server nonce, user authentication takes the key of both tokens. -/
theorem key_with_nonce {n : Negotiated} {serverNonce : String}
    (h : negotiate token (some userToken) clientNonce response = .ok n) (ha : n.userAuth = true)
    (hnonce : response.text serverNonceHeader = some serverNonce) :
    n.bootstrap.gatewayToAccess.key =
      connectionKey (bootstrapSecret token userToken) clientNonce serverNonce gatewayToAccess := by
  obtain ⟨_, _, _, hcipher⟩ := negotiate_ok h
  rw [hnonce, ha] at hcipher
  obtain ⟨_, _, hkeys⟩ := fromTokens_ok hcipher
  rw [hkeys]
  rfl

/-- Without one, the key is the gateway token's. -/
theorem key_without_nonce {userToken : Option String} {n : Negotiated}
    (h : negotiate token userToken clientNonce response = .ok n)
    (hnonce : response.text serverNonceHeader = none) :
    n.bootstrap.gatewayToAccess.key = legacyKey token gatewayToAccess := by
  obtain ⟨_, _, _, hcipher⟩ := negotiate_ok h
  rw [hnonce] at hcipher
  rw [fromSharedKey_ok hcipher]
  rfl

end Keys

section Downgrade
variable [Ring] [Aead] [MessageCodec]
variable {log : SealLog} {token userToken instanceId clientNonce : String} {privateKey : Bytes}
  {response : HeaderMap} {first : Option WsMessage} {connected : Connected}

/-- A key of both tokens, of a handshake with this client nonce. -/
def PairKey (token userToken clientNonce : String) (key : Bytes) : Prop :=
  ∃ serverNonce, key =
    connectionKey (bootstrapSecret token userToken) clientNonce serverNonce gatewayToAccess

/-- The message that the access accepted was sealed under a key of both tokens. -/
def SealedByBoth (log : SealLog) (token userToken clientNonce : String) (first : Option WsMessage)
    (connected : Connected) : Prop :=
  ∃ frame r, first = some frame ∧ OpenedBy log connected.negotiated.bootstrap frame r ∧
    PairKey token userToken clientNonce r.key

/-- A connected access opened the first message under its cipher. -/
theorem opened_of_connect {userToken : Option String}
    (h : connect log token userToken instanceId clientNonce privateKey response first =
      .ok connected) :
    ∃ frame r, first = some frame ∧ OpenedBy log connected.negotiated.bootstrap frame r := by
  obtain ⟨hn, frame, bootstrap, message, hframe, hsame, hm, _⟩ := connect_ok h
  obtain ⟨bytes, payload, rfl, hd, _⟩ := decodeGatewayMessage_ok hm
  have hfresh := bootstrap_fresh hn
  rw [← hsame] at hfresh
  have hopened : bootstrap.gatewayToAccess.decrypt log bytes gatewayToAccess =
      (.ok (.text, payload), (bootstrap.gatewayToAccess.decrypt log bytes gatewayToAccess).2) :=
    Prod.ext hd rfl
  obtain ⟨hmem, hbody, _⟩ := DirectionCipher.decrypt_ok hopened
  rw [hfresh, hsame] at hmem hbody
  exact ⟨_, _, hframe, hmem, rfl, rfl, rfl, bytes, rfl, hbody⟩

/-- **User authentication needs both tokens exactly when the response has a server
nonce.** For an access with a user token that is connected with user
authentication: the message it accepted was sealed under a key of both tokens if
and only if the response has a readable server nonce; and then somebody sealed
under such a key, which the gateway's token alone does not give. -/
theorem sealedByBoth_iff_server_nonce (ideal : Ring.Ideal)
    (h : connect log token (some userToken) instanceId clientNonce privateKey response first =
      .ok connected)
    (ha : connected.negotiated.userAuth = true) :
    (SealedByBoth log token userToken clientNonce first connected ↔
      (response.text serverNonceHeader).isSome = true) ∧
    ((response.text serverNonceHeader).isSome = true →
      ∃ r ∈ log, PairKey token userToken clientNonce r.key) := by
  obtain ⟨hn, _⟩ := connect_ok h
  obtain ⟨frame, r, hframe, hr⟩ := opened_of_connect h
  have hpair : (response.text serverNonceHeader).isSome = true →
      PairKey token userToken clientNonce r.key := by
    intro hsome
    obtain ⟨serverNonce, hnonce⟩ := Option.isSome_iff_exists.mp hsome
    exact ⟨serverNonce, hr.key.trans (key_with_nonce hn ha hnonce)⟩
  refine ⟨⟨?_, fun hsome => ⟨frame, r, hframe, hr, hpair hsome⟩⟩, fun hsome => ⟨r, hr.logged, hpair hsome⟩⟩
  intro hboth
  obtain ⟨frame', r', _, hr', serverNonce, hkey⟩ := hboth
  by_contra hnone
  have hlegacy := key_without_nonce hn (by simpa using hnone)
  exact connectionKey_ne_legacyKey ideal (hkey.symm.trans (hr'.key.trans hlegacy))

end Downgrade

/-! ### With and without a server nonce -/

section Example

local instance : Ring := .free
local instance : Aead := .transparent
local instance : MessageCodec := .plain

def nonceA : String := String.ofList (List.replicate 64 'a')
def nonceB : String := String.ofList (List.replicate 64 'b')

/-- The seal of a gateway's answer under a key, and its frame. -/
def answerSeal (key : Bytes) (message : Message) : Sealed :=
  (DirectionCipher.new key (bytesOf "G2AC")).sealedAt 0 .text (bytesOf (encodeMessage message))
    gatewayToAccess

def answerFrame (key : Bytes) (message : Message) : WsMessage :=
  .binary (DirectionCipher.frameOf 0 (answerSeal key message))

def userAuthAnswer : Message := .registerOkV4 [3] "lisi" true

def bothTokensKey : Bytes :=
  connectionKey (bootstrapSecret "shared" "user") nonceA nonceB gatewayToAccess

def honestResponse : HeaderMap :=
  [(serverNonceHeader, bytesOf nonceB), (protocolHeader, bytesOf "4"), (userAuthHeader, bytesOf "true")]

/-- The same response without its server nonce. -/
def strippedResponse : HeaderMap :=
  [(protocolHeader, bytesOf "4"), (userAuthHeader, bytesOf "true")]

def attempt (key : Bytes) (response : HeaderMap) : Except Error Connected :=
  connect [answerSeal key userAuthAnswer] "shared" (some "user") nonceA nonceA [5] response
    (some (answerFrame key userAuthAnswer))

/-- The user authentication of an attempt that connects. -/
def attemptUserAuth (key : Bytes) (response : HeaderMap) : Option Bool :=
  (attempt key response).toOption.map (·.negotiated.userAuth)

theorem sealedByBoth_iff_server_nonce_honest :
    ∃ connected, attempt bothTokensKey honestResponse = .ok connected ∧
      SealedByBoth [answerSeal bothTokensKey userAuthAnswer] "shared" "user" nonceA
        (some (answerFrame bothTokensKey userAuthAnswer)) connected := by
  have hauth : attemptUserAuth bothTokensKey honestResponse = some true := by decide +kernel
  cases hc : attempt bothTokensKey honestResponse with
  | error e => simp [attemptUserAuth, hc, Except.toOption] at hauth
  | ok connected =>
    have ha : connected.negotiated.userAuth = true := by
      simpa [attemptUserAuth, hc, Except.toOption] using hauth
    obtain ⟨hiff, _⟩ := sealedByBoth_iff_server_nonce Ring.free_ideal hc ha
    exact ⟨connected, rfl, hiff.mpr (by decide +kernel)⟩

/-- The answer is sealed under a key that the gateway's token gives alone. -/
theorem downgraded_without_nonce :
    ∃ connected, attempt (legacyKey "shared" gatewayToAccess) strippedResponse = .ok connected ∧
      connected.negotiated.userAuth = true ∧
      ¬ SealedByBoth [answerSeal (legacyKey "shared" gatewayToAccess) userAuthAnswer] "shared" "user"
        nonceA (some (answerFrame (legacyKey "shared" gatewayToAccess) userAuthAnswer)) connected := by
  have hauth : attemptUserAuth (legacyKey "shared" gatewayToAccess) strippedResponse = some true := by
    decide +kernel
  cases hc : attempt (legacyKey "shared" gatewayToAccess) strippedResponse with
  | error e => simp [attemptUserAuth, hc, Except.toOption] at hauth
  | ok connected =>
    have ha : connected.negotiated.userAuth = true := by
      simpa [attemptUserAuth, hc, Except.toOption] using hauth
    refine ⟨connected, rfl, ha, ?_⟩
    intro hboth
    obtain ⟨frame, r, _, hr, serverNonce, hkey⟩ := hboth
    have hlegacy : r.key = legacyKey "shared" gatewayToAccess := by
      rw [List.mem_singleton.mp hr.logged]
      rfl
    exact connectionKey_ne_legacyKey Ring.free_ideal (hkey.symm.trans hlegacy)

end Example

end WsNet.Access
