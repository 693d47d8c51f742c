import WsNet.Access.Handshake
import WsNet.Gateway.Handshake

/-! The nonces of the handshake ciphers, over any number of connections.

A handshake cipher seals one frame: the access its registration, the gateway its
answer. Both are frame zero of their direction, so that a nonce is used once under
a key exactly when the keys of different connections differ. The keys of a
handshake with nonces do: one of its two nonces was drawn by the side that seals.
The keys of the header-less handshake are the token's, and are the same in all of
them. -/
namespace WsNet.Handshake
open Crypto

/-! ### Connections -/

/-- An access's side of a connection: what it drew and the response it was given. -/
structure AccessRun where
  userToken : Option String
  instanceId : String
  clientNonce : String
  privateKey : Bytes
  response : HeaderMap
  deriving DecidableEq

/-- A gateway's side: the request, the nonce it drew, its configuration, and what came
of the registration, an error or the private key and the name of the user, if
anything came. -/
structure GatewayRun where
  headers : HeaderMap
  serverNonce : String
  runtime : Gateway.Runtime
  outcome : Option (Except GatewayError (Bytes × String))

/-! ### What is sealed -/

theorem textPlain_inj [MessageCodec] {m m' : Message}
    (h : TunnelFrameKind.text.byte :: bytesOf (encodeMessage m) =
      TunnelFrameKind.text.byte :: bytesOf (encodeMessage m')) : m = m' :=
  encodeMessage_inj (bytesOf_inj (List.cons.inj h).2)

/-- A registration gives its public key away. -/
theorem registration_inj {n n' : Access.Negotiated} {token instanceId instanceId' : String}
    {key key' : Bytes}
    (h : n.registration token instanceId key = n'.registration token instanceId' key') : key = key' := by
  unfold Access.Negotiated.registration at h
  split at h <;> split at h <;> (try split at h) <;> (try split at h) <;> simp_all

section Reply
variable [Ring]

/-- The answer of a gateway. -/
def replyTo (bootstrap : Option Gateway.Bootstrap) : Except GatewayError (Bytes × String) → Message
  | .error e => Gateway.refusal e
  | .ok (privateKey, userName) =>
    Gateway.registerOk bootstrap (Ring.publicKey privateKey) userName

/-- Equal answers without a version are one refusal, or have one public key. -/
theorem replyTo_none_inj {outcome outcome' : Except GatewayError (Bytes × String)}
    (h : replyTo none outcome = replyTo none outcome') :
    (∃ e, outcome = .error e ∧ outcome' = .error e) ∨
      ∃ key name key' name', outcome = .ok (key, name) ∧ outcome' = .ok (key', name') ∧
        Ring.publicKey key = Ring.publicKey key' := by
  cases outcome with
  | error e =>
    cases outcome' with
    | error e' =>
      simp only [replyTo, Gateway.refusal, Message.error.injEq, true_and] at h
      have he : e = e' := by
        obtain ⟨code, message⟩ := e
        obtain ⟨code', message'⟩ := e'
        simp_all
      exact .inl ⟨e, rfl, by rw [he]⟩
    | ok v => simp [replyTo, Gateway.refusal, Gateway.registerOk] at h
  | ok v =>
    cases outcome' with
    | error e' => simp [replyTo, Gateway.refusal, Gateway.registerOk] at h
    | ok v' =>
      simp only [replyTo, Gateway.registerOk, Message.registerOk.injEq] at h
      exact .inr ⟨v.1, v.2, v'.1, v'.2, rfl, rfl, h⟩

end Reply

section Runs
variable [Ring] [Aead] [MessageCodec]

/-- The registration that an access seals, if it gets that far. -/
def AccessRun.seal (token : String) (run : AccessRun) : Option Sealed :=
  match Access.negotiate token run.userToken run.clientNonce run.response with
  | .error _ => none
  | .ok n =>
    match n.register token run.instanceId run.privateKey with
    | .error _ => none
    | .ok _ => some (n.bootstrap.accessToGateway.sealedAt 0 .text
        (bytesOf (encodeMessage (n.registration token run.instanceId (Ring.publicKey run.privateKey))))
        accessToGateway)

/-- The answer that a gateway seals, if it accepts the upgrade. -/
def GatewayRun.seal (run : GatewayRun) : Option Sealed :=
  match run.outcome, Gateway.wsEntry run.headers run.serverNonce run.runtime with
  | some outcome, .ok bootstrap =>
    match Gateway.startHandshake bootstrap run.runtime with
    | .error _ => none
    | .ok (_, _, cipher) =>
      match encryptGatewayMessage cipher (.text (encodeMessage (replyTo bootstrap outcome))) with
      | .error _ => none
      | .ok _ => some (cipher.gatewayToAccess.sealedAt 0 .text
          (bytesOf (encodeMessage (replyTo bootstrap outcome))) gatewayToAccess)
  | _, _ => none

/-- Connections of accesses and gateways with one gateway token. -/
structure Connections where
  token : String
  access : List AccessRun
  gateway : List GatewayRun

namespace Connections

def seals (c : Connections) : List Sealed :=
  c.access.filterMap (AccessRun.seal c.token) ++ c.gateway.filterMap GatewayRun.seal

/-- Nonces and ephemeral keys are drawn for one connection. -/
structure Fresh (c : Connections) : Prop where
  clientNonces : (c.access.map AccessRun.clientNonce).Nodup
  serverNonces : (c.gateway.map GatewayRun.serverNonce).Nodup
  accessKeys : (c.access.map fun run => Ring.publicKey run.privateKey).Nodup
  gatewayKeys : ∀ run ∈ c.gateway, ∀ run' ∈ c.gateway, ∀ key name key' name',
    run.outcome = some (.ok (key, name)) → run'.outcome = some (.ok (key', name')) →
    Ring.publicKey key = Ring.publicKey key' → run = run'
  /-- The gateways have the accesses' token. -/
  sameToken : ∀ run ∈ c.gateway, run.runtime.config.auth.accessToken = c.token

/-- A nonce is used for one plaintext under each key. -/
def NoncesUnique (c : Connections) : Prop :=
  ∀ r ∈ c.seals, ∀ r' ∈ c.seals, r.key = r'.key → r.nonce = r'.nonce → r.plaintext = r'.plaintext

/-- An access that registers without a server nonce. -/
def HeaderlessAccess (c : Connections) (run : AccessRun) : Prop :=
  run ∈ c.access ∧ run.response.text serverNonceHeader = none ∧ (run.seal c.token).isSome = true

/-- A gateway that answers a request without a version. -/
def HeaderlessGateway (c : Connections) (run : GatewayRun) : Prop :=
  run ∈ c.gateway ∧ run.headers.get protocolHeader = none ∧ run.seal.isSome = true

/-- At most one access registers without nonces, and gateways answer header-less
requests at most once, or with one and the same refusal. -/
structure HeaderlessOnce (c : Connections) : Prop where
  access : ∀ run run', c.HeaderlessAccess run → c.HeaderlessAccess run' → run = run'
  gateway : ∀ run run', c.HeaderlessGateway run → c.HeaderlessGateway run' →
    run = run' ∨ ∃ e, run.outcome = some (.error e) ∧ run'.outcome = some (.error e)

end Connections

/-! ### Seals and their keys -/

/-- Every seal is under nonce zero of its direction, and says what the run sends. -/
theorem accessSeal_some {token : String} {run : AccessRun} {r : Sealed}
    (h : run.seal token = some r) :
    r.nonce = sequenceNonce (bytesOf "A2GW") 0 ∧
    (∃ n : Access.Negotiated, n.v3 = (run.response.text serverNonceHeader).isSome ∧
      r.plaintext = TunnelFrameKind.text.byte :: bytesOf (encodeMessage
        (n.registration token run.instanceId (Ring.publicKey run.privateKey)))) ∧
    (∀ serverNonce, run.response.text serverNonceHeader = some serverNonce →
      validId run.clientNonce = true ∧ ∃ secret, r.key =
        connectionKey secret run.clientNonce serverNonce accessToGateway) ∧
    (run.response.text serverNonceHeader = none → r.key = legacyKey token accessToGateway) := by
  unfold AccessRun.seal at h
  split at h
  · cases h
  rename_i n hn
  split at h
  · cases h
  cases h
  obtain ⟨_, hv3, _, hcipher⟩ := Access.negotiate_ok hn
  unfold Access.bootstrapCipher at hcipher
  split at hcipher
  · rename_i serverNonce hnonce
    obtain ⟨hclient, _, hkeys⟩ := fromTokens_ok hcipher
    refine ⟨by rw [hkeys]; rfl, ⟨n, hv3, rfl⟩, ?_, fun hnone => ?_⟩
    · intro serverNonce' hnonce'
      rw [hnonce] at hnonce'
      cases hnonce'
      exact ⟨hclient, _, by rw [hkeys]; rfl⟩
    · rw [hnonce] at hnone
      cases hnone
  · rename_i hnonce
    have hkeys := fromSharedKey_ok hcipher
    refine ⟨by rw [hkeys]; rfl, ⟨n, hv3, rfl⟩, ?_, fun _ => by rw [hkeys]; rfl⟩
    intro serverNonce hsome
    rw [hnonce] at hsome
    cases hsome

theorem gatewaySeal_some {run : GatewayRun} {r : Sealed} (h : run.seal = some r) :
    r.nonce = sequenceNonce (bytesOf "G2AC") 0 ∧
    (∃ bootstrap outcome, (run.headers.get protocolHeader = none → bootstrap = none) ∧
      run.outcome = some outcome ∧
      r.plaintext = TunnelFrameKind.text.byte :: bytesOf (encodeMessage (replyTo bootstrap outcome))) ∧
    (run.headers.get protocolHeader ≠ none → ∃ secret clientNonce, validId clientNonce = true ∧
      r.key = connectionKey secret clientNonce run.serverNonce gatewayToAccess) ∧
    (run.headers.get protocolHeader = none →
      r.key = legacyKey run.runtime.config.auth.accessToken gatewayToAccess) := by
  unfold GatewayRun.seal at h
  split at h
  swap
  · cases h
  rename_i outcome bootstrap houtcome hentry
  split at h
  · cases h
  rename_i token userToken cipher hstart
  split at h
  · cases h
  cases h
  cases bootstrap with
  | some b =>
    obtain ⟨_, _, hcipher⟩ := Gateway.wsEntry_ok hentry
    obtain ⟨hclient, _, hkeys⟩ := fromTokens_ok hcipher
    have hsame : cipher = b.cipher := by
      simp only [Gateway.startHandshake, pure_eq_ok, Prod.mk.injEq] at hstart
      exact hstart.2.2.symm
    have hversion : run.headers.get protocolHeader ≠ none := by
      intro hnone
      unfold Gateway.wsEntry at hentry
      rw [hnone] at hentry
      dsimp only at hentry
      split at hentry <;> cases hentry
    refine ⟨by rw [hsame, hkeys]; rfl,
      ⟨some b, outcome, fun hnone => absurd hnone hversion, houtcome, rfl⟩,
      fun _ => ⟨_, _, hclient, by rw [hsame, hkeys]; rfl⟩, fun hnone => absurd hnone hversion⟩
  | none =>
    obtain ⟨shared, hshared, hstart⟩ := bind_eq_ok.mp hstart
    cases pure_eq_ok.mp hstart
    have hkeys := fromSharedKey_ok hshared
    have hversion : run.headers.get protocolHeader = none := by
      unfold Gateway.wsEntry at hentry
      split at hentry
      · cases hv : Gateway.versionedEntry run.headers ‹_› run.serverNonce run.runtime with
        | error e =>
          rw [hv] at hentry
          cases hentry
        | ok b =>
          rw [hv] at hentry
          cases hentry
      · assumption
    exact ⟨by rw [hkeys]; rfl, ⟨none, outcome, fun _ => rfl, houtcome, rfl⟩, fun hne => absurd hversion hne,
      fun _ => by rw [hkeys]; rfl⟩

/-! ### When nonces are unique -/

section Unique
variable {c : Connections}

theorem mem_seals {r : Sealed} :
    r ∈ c.seals ↔ (∃ run ∈ c.access, run.seal c.token = some r) ∨ ∃ run ∈ c.gateway, run.seal = some r := by
  simp only [Connections.seals, List.mem_append, List.mem_filterMap]

/-- Two accesses use one nonce under one key only without server nonces. -/
theorem access_unique (ideal : Ring.Ideal) (hf : c.Fresh)
    (honce : ∀ run run', c.HeaderlessAccess run → c.HeaderlessAccess run' → run = run')
    {run run' : AccessRun} (hrun : run ∈ c.access) (hrun' : run' ∈ c.access) {r r' : Sealed}
    (hr : run.seal c.token = some r) (hr' : run'.seal c.token = some r') (hkey : r.key = r'.key) :
    run = run' := by
  obtain ⟨_, _, hversioned, hlegacy⟩ := accessSeal_some hr
  obtain ⟨_, _, hversioned', hlegacy'⟩ := accessSeal_some hr'
  cases hn : run.response.text serverNonceHeader with
  | none =>
    cases hn' : run'.response.text serverNonceHeader with
    | none => exact honce run run' ⟨hrun, hn, by rw [hr]; rfl⟩ ⟨hrun', hn', by rw [hr']; rfl⟩
    | some serverNonce =>
      obtain ⟨_, secret, hk⟩ := hversioned' serverNonce hn'
      exact absurd (hk.symm.trans (hkey.symm.trans (hlegacy hn))) (connectionKey_ne_legacyKey ideal)
  | some serverNonce =>
    obtain ⟨hvalid, secret, hk⟩ := hversioned serverNonce hn
    cases hn' : run'.response.text serverNonceHeader with
    | none =>
      exact absurd (hk.symm.trans (hkey.trans (hlegacy' hn'))) (connectionKey_ne_legacyKey ideal)
    | some serverNonce' =>
      obtain ⟨hvalid', secret', hk'⟩ := hversioned' serverNonce' hn'
      obtain ⟨_, hclient, _⟩ :=
        connectionKey_inj ideal hvalid hvalid' (hk.symm.trans (hkey.trans hk'))
      exact List.inj_on_of_nodup_map hf.clientNonces hrun hrun' hclient

/-- Two gateways use one nonce under one key only in one connection or both without a
version. -/
theorem gateway_unique (ideal : Ring.Ideal) (hf : c.Fresh) {run run' : GatewayRun}
    (hrun : run ∈ c.gateway) (hrun' : run' ∈ c.gateway) {r r' : Sealed} (hr : run.seal = some r)
    (hr' : run'.seal = some r') (hkey : r.key = r'.key) :
    run = run' ∨ c.HeaderlessGateway run ∧ c.HeaderlessGateway run' := by
  obtain ⟨_, _, hversioned, hlegacy⟩ := gatewaySeal_some hr
  obtain ⟨_, _, hversioned', hlegacy'⟩ := gatewaySeal_some hr'
  by_cases hn : run.headers.get protocolHeader = none
  · by_cases hn' : run'.headers.get protocolHeader = none
    · exact .inr ⟨⟨hrun, hn, by rw [hr]; rfl⟩, ⟨hrun', hn', by rw [hr']; rfl⟩⟩
    · obtain ⟨secret, client, _, hk⟩ := hversioned' hn'
      exact absurd (hk.symm.trans (hkey.symm.trans (hlegacy hn))) (connectionKey_ne_legacyKey ideal)
  · obtain ⟨secret, client, hvalid, hk⟩ := hversioned hn
    by_cases hn' : run'.headers.get protocolHeader = none
    · exact absurd (hk.symm.trans (hkey.trans (hlegacy' hn'))) (connectionKey_ne_legacyKey ideal)
    · obtain ⟨secret', client', hvalid', hk'⟩ := hversioned' hn'
      obtain ⟨_, _, hserver, _⟩ :=
        connectionKey_inj ideal hvalid hvalid' (hk.symm.trans (hkey.trans hk'))
      exact .inl (List.inj_on_of_nodup_map hf.serverNonces hrun hrun' hserver)

/-- No key is of both directions. -/
theorem access_gateway_ne (ideal : Ring.Ideal) {token : String} {run : AccessRun} {run' : GatewayRun}
    {r r' : Sealed} (hr : run.seal token = some r) (hr' : run'.seal = some r') : r.key ≠ r'.key := by
  intro hkey
  obtain ⟨_, _, hversioned, hlegacy⟩ := accessSeal_some hr
  obtain ⟨_, _, hversioned', hlegacy'⟩ := gatewaySeal_some hr'
  by_cases hn' : run'.headers.get protocolHeader = none
  · have hk' := hlegacy' hn'
    cases hn : run.response.text serverNonceHeader with
    | none =>
      exact directions_ne (legacyKey_inj ideal ((hlegacy hn).symm.trans (hkey.trans hk'))).2
    | some serverNonce =>
      obtain ⟨_, secret, hk⟩ := hversioned serverNonce hn
      exact connectionKey_ne_legacyKey ideal (hk.symm.trans (hkey.trans hk'))
  · obtain ⟨secret', client', hvalid', hk'⟩ := hversioned' hn'
    cases hn : run.response.text serverNonceHeader with
    | none =>
      exact connectionKey_ne_legacyKey ideal (hk'.symm.trans (hkey.symm.trans (hlegacy hn)))
    | some serverNonce =>
      obtain ⟨hvalid, secret, hk⟩ := hversioned serverNonce hn
      obtain ⟨_, _, _, hdirection⟩ :=
        connectionKey_inj ideal hvalid hvalid' (hk.symm.trans (hkey.trans hk'))
      exact directions_ne hdirection

theorem noncesUnique_of_once (ideal : Ring.Ideal) (hf : c.Fresh) (honce : c.HeaderlessOnce) :
    c.NoncesUnique := by
  intro r hr r' hr' hkey _
  rcases mem_seals.mp hr with ⟨run, hrun, hs⟩ | ⟨run, hrun, hs⟩ <;>
    rcases mem_seals.mp hr' with ⟨run', hrun', hs'⟩ | ⟨run', hrun', hs'⟩
  · have hsame := access_unique ideal hf honce.access hrun hrun' hs hs' hkey
    rw [hsame, hs'] at hs
    rw [Option.some.inj hs]
  · exact absurd hkey (access_gateway_ne ideal hs hs')
  · exact absurd hkey.symm (access_gateway_ne ideal hs' hs)
  · have hsame : run = run' ∨ ∃ e, run.headers.get protocolHeader = none ∧
        run'.headers.get protocolHeader = none ∧ run.outcome = some (.error e) ∧
        run'.outcome = some (.error e) := by
      rcases gateway_unique ideal hf hrun hrun' hs hs' hkey with h | ⟨h, h'⟩
      · exact .inl h
      · rcases honce.gateway run run' h h' with h | ⟨e, he, he'⟩
        · exact .inl h
        · exact .inr ⟨e, ‹c.HeaderlessGateway run›.2.1, ‹c.HeaderlessGateway run'›.2.1, he, he'⟩
    rcases hsame with hsame | ⟨e, hn, hn', he, he'⟩
    · rw [hsame, hs'] at hs
      rw [Option.some.inj hs]
    · obtain ⟨_, ⟨b, outcome, hb, ho, hp⟩, _⟩ := gatewaySeal_some hs
      obtain ⟨_, ⟨b', outcome', hb', ho', hp'⟩, _⟩ := gatewaySeal_some hs'
      rw [hp, hp', hb hn, hb' hn', Option.some.inj (ho.symm.trans he),
        Option.some.inj (ho'.symm.trans he')]

theorem once_of_noncesUnique (hf : c.Fresh) (h : c.NoncesUnique) : c.HeaderlessOnce := by
  constructor
  · intro run run' hheaderless hheaderless'
    obtain ⟨hrun, hn, hs⟩ := hheaderless
    obtain ⟨hrun', hn', hs'⟩ := hheaderless'
    obtain ⟨r, hr⟩ := Option.isSome_iff_exists.mp hs
    obtain ⟨r', hr'⟩ := Option.isSome_iff_exists.mp hs'
    obtain ⟨hnonce, ⟨n, _, hp⟩, _, hkey⟩ := accessSeal_some hr
    obtain ⟨hnonce', ⟨n', _, hp'⟩, _, hkey'⟩ := accessSeal_some hr'
    have hsame := h r (mem_seals.mpr (.inl ⟨run, hrun, hr⟩)) r' (mem_seals.mpr (.inl ⟨run', hrun', hr'⟩))
      ((hkey hn).trans (hkey' hn').symm) (hnonce.trans hnonce'.symm)
    rw [hp, hp'] at hsame
    exact List.inj_on_of_nodup_map hf.accessKeys hrun hrun' (registration_inj (textPlain_inj hsame))
  · intro run run' hheaderless hheaderless'
    obtain ⟨hrun, hn, hs⟩ := hheaderless
    obtain ⟨hrun', hn', hs'⟩ := hheaderless'
    obtain ⟨r, hr⟩ := Option.isSome_iff_exists.mp hs
    obtain ⟨r', hr'⟩ := Option.isSome_iff_exists.mp hs'
    obtain ⟨hnonce, ⟨b, outcome, hb, ho, hp⟩, _, hkey⟩ := gatewaySeal_some hr
    obtain ⟨hnonce', ⟨b', outcome', hb', ho', hp'⟩, _, hkey'⟩ := gatewaySeal_some hr'
    have hkeys : r.key = r'.key := by
      rw [hkey hn, hkey' hn', hf.sameToken run hrun, hf.sameToken run' hrun']
    have hsame := h r (mem_seals.mpr (.inr ⟨run, hrun, hr⟩)) r' (mem_seals.mpr (.inr ⟨run', hrun', hr'⟩))
      hkeys (hnonce.trans hnonce'.symm)
    rw [hp, hp', hb hn, hb' hn'] at hsame
    rcases replyTo_none_inj (textPlain_inj hsame) with ⟨e, he, he'⟩ | ⟨key, name, key', name', he, he', hk⟩
    · exact .inr ⟨e, ho.trans (by rw [he]), ho'.trans (by rw [he'])⟩
    · exact .inl (hf.gatewayKeys run hrun run' hrun' key name key' name' (ho.trans (by rw [he]))
        (ho'.trans (by rw [he'])) hk)

/-- **Nonces are unique exactly without repeated header-less handshakes.** For any
connections with one gateway token and fresh nonces and ephemeral keys, no two
frames that the handshake ciphers seal use one nonce under one key for different
plaintexts, if and only if at most one access registers without a server nonce,
and header-less requests are answered at most once or with one refusal. -/
theorem noncesUnique_iff (ideal : Ring.Ideal) (hf : c.Fresh) : c.NoncesUnique ↔ c.HeaderlessOnce :=
  ⟨once_of_noncesUnique hf, noncesUnique_of_once ideal hf⟩

end Unique

end Runs

/-! ### Header-less handshakes -/

section Example

local instance : Ring := .free
local instance : Aead := .transparent
local instance : MessageCodec := .plain

def drawn (c : Char) : String := String.ofList (List.replicate 64 c)

def headerlessRun (nonce : String) (key : Bytes) : AccessRun := ⟨none, drawn 'e', nonce, key, []⟩

/-- One access of each kind. -/
def mixedConnections : Connections where
  token := "shared"
  access := [headerlessRun (drawn 'a') [5],
    ⟨none, drawn 'e', drawn 'b', [6], [(serverNonceHeader, bytesOf (drawn 'c'))]⟩]
  gateway := []

theorem noncesUnique_iff_mixed : mixedConnections.NoncesUnique := by
  have hfresh : mixedConnections.Fresh := by
    refine ⟨by decide +kernel, by decide +kernel, by decide +kernel, ?_, ?_⟩
    · intro run hrun
      cases hrun
    · intro run hrun
      cases hrun
  refine (noncesUnique_iff Ring.free_ideal hfresh).mpr ⟨?_, ?_⟩
  · -- the second access has a server nonce
    have honly : ∀ run, mixedConnections.HeaderlessAccess run →
        run = headerlessRun (drawn 'a') [5] := by
      intro run hheaderless
      obtain ⟨hrun, hnone, _⟩ := hheaderless
      rcases List.mem_cons.mp hrun with h | h
      · exact h
      · rw [List.mem_singleton.mp h] at hnone
        have hsome : HeaderMap.text [(serverNonceHeader, bytesOf (drawn 'c'))] serverNonceHeader ≠
          none := by decide +kernel
        exact absurd hnone hsome
    intro run run' h h'
    rw [honly run h, honly run' h']
  · intro run run' hheaderless
    obtain ⟨hrun, _⟩ := hheaderless
    cases hrun

/-- Two accesses, both without nonces. -/
def headerlessConnections : Connections where
  token := "shared"
  access := [headerlessRun (drawn 'a') [5], headerlessRun (drawn 'b') [6]]
  gateway := []

theorem headerless_reuse :
    headerlessConnections.Fresh ∧ ¬ headerlessConnections.NoncesUnique := by
  constructor
  · refine ⟨by decide +kernel, by decide +kernel, by decide +kernel, ?_, ?_⟩
    · intro run hrun
      cases hrun
    · intro run hrun
      cases hrun
  · intro h
    have hreused : ∃ r ∈ headerlessConnections.seals, ∃ r' ∈ headerlessConnections.seals,
        r.key = r'.key ∧ r.nonce = r'.nonce ∧ r.plaintext ≠ r'.plaintext := by decide +kernel
    obtain ⟨r, hr, r', hr', hkey, hnonce, hne⟩ := hreused
    exact hne (h r hr r' hr' hkey hnonce)

end Example

end WsNet.Handshake
