import WsNet.Gateway.Takeover

/-! What an authorized address is worth, over time.

A session asks for a target; the answer is a list of addresses that the rules of
its credential allow. Between the first check and the answer the configuration
may be reloaded any number of times, and afterwards again. A reload that narrows
what a credential allows cancels its sessions, so that an address once granted to
a session stays allowed for as long as the session is not cancelled. -/
namespace WsNet.Gateway
open Data Transition

/-! ### Grants -/

structure Grant where
  sessionId : String
  addresses : List SocketAddr

/-- The rules in force allow what was granted to the sessions that are live. -/
def GrantsHold (runtime : Runtime) (granted : List Grant) : Prop :=
  ∀ g ∈ granted, g.addresses ≠ [] ∧ ∀ session, runtime.LiveSession g.sessionId session →
    ∃ c, runtime.credentials.lookup session.credential = some c ∧
      ∀ a ∈ g.addresses, c.rules.any (·.allows a) = true

theorem check_eq_ok {runtime : Runtime} {lease : SessionLease} {u : Unit} :
    runtime.check lease = .ok u ↔ runtime.signal lease.id = none := by
  unfold Runtime.check
  split <;> simp_all

/-- What a returned list was checked against. -/
theorem authorizeAddresses_ok {lease : SessionLease} {target : TargetConfig}
    {found addresses : List SocketAddr} {runtime : Runtime}
    (h : AppState.authorizeAddresses lease target found runtime = .ok addresses) :
    runtime.signal lease.id = none ∧ addresses ≠ [] ∧
      ∃ c, runtime.credentials.lookup lease.credential = some c ∧
        ∀ a ∈ addresses, c.rules.any (·.allows a) = true := by
  obtain ⟨_, hcheck, h⟩ := bind_eq_ok.mp h
  obtain ⟨c, hc, h⟩ := bind_eq_ok.mp h
  obtain ⟨_, hne, h⟩ := bind_eq_ok.mp h
  have hdone := pure_eq_ok.mp h
  subst hdone
  exact ⟨check_eq_ok.mp hcheck, ensure_eq_ok.mp hne, c, orError_eq_ok.mp hc,
    fun a ha => (List.mem_filter.mp ha).2⟩

/-- A reload keeps the grants of the sessions it leaves alone: their rules were
covered by the new ones. -/
theorem grantsHold_reconfigure {config : GatewayConfig} {table : Credentials} {runtime : Runtime}
    {granted : List Grant} (h : GrantsHold runtime granted) :
    GrantsHold (runtime.reconfigure config table) granted := by
  intro g hg
  obtain ⟨hne, hallowed⟩ := h g hg
  refine ⟨hne, fun session hl => ?_⟩
  obtain ⟨hold, hs⟩ := live_reconfigure hl
  obtain ⟨old, hlookup, hrules⟩ := hallowed session hold
  obtain ⟨new, hnew, hcovered⟩ := hs.known
  refine ⟨new, hnew, fun a ha => ?_⟩
  obtain ⟨rule, hrule, hallows⟩ := List.any_eq_true.mp (hrules a ha)
  obtain ⟨wider, hwider, hcovers⟩ := (hcovered old hlookup).2 rule hrule
  exact List.any_eq_true.mpr ⟨wider, hwider, AccessRule.allows_of_covers hcovers hallows⟩

/-- The sessions of a registry keep their keys and credentials under a reload. -/
theorem reconfigure_session {config : GatewayConfig} {table : Credentials} {runtime : Runtime}
    {sid : String} {session : SessionInfo} (h : runtime.sessions.lookup sid = some session) :
    ∃ session', (runtime.reconfigure config table).sessions.lookup sid = some session' ∧
      session'.credential = session.credential := by
  simp only [Runtime.reconfigure, HashMap.lookup_mapValues, h, Option.map_some]
  refine ⟨_, rfl, ?_⟩
  unfold Runtime.cancel
  split <;> rfl

theorem reconfigure_isSome {config : GatewayConfig} {table : Credentials} {runtime : Runtime}
    {sid : String} :
    ((runtime.reconfigure config table).sessions.lookup sid).isSome =
      (runtime.sessions.lookup sid).isSome := by
  simp [Runtime.reconfigure]

section Authorization
variable [NetLiterals] [Ring]

/-- The configuration gives the credential a rule that allows the address. -/
def ConfigAllows (config : GatewayConfig) (credential : String) (address : SocketAddr) : Prop :=
  ∃ table c, credentials config = .ok table ∧ table.lookup credential = some c ∧
    c.rules.any (·.allows address) = true

/-! ### The machine -/

inductive Stage where
  /-- Waiting for the lookup of the host name. -/
  | lookup
  /-- The addresses are known, not yet checked. -/
  | addresses (found : List SocketAddr)

/-- A call of `authorize_target`; it borrows the lease until it returns. -/
structure Call where
  lease : SessionLease
  target : TargetConfig
  stage : Stage

structure AuthState where
  runtime : Runtime
  leases : HashMap String SessionLease
  calls : HashMap Nat Call
  /-- Every session identifier drawn so far. -/
  issued : Finset String
  /-- Every list of addresses returned so far. -/
  granted : List Grant

inductive AuthOp where
  /-- Register under a session identifier never drawn before. -/
  | register (sessionId gatewayToken : String) (userToken : Option String) (instanceId : String)
      (legacy : Bool)
  | reload (config : GatewayConfig)
  | drop (sessionId : String)
  | authorize (call : Nat) (sessionId : String) (target : TargetConfig)
  | resolve (call : Nat) (answer : Except Error (List SocketAddr))
  | finish (call : Nat)

namespace AuthState

def register (sessionId gatewayToken : String) (userToken : Option String) (instanceId : String)
    (legacy : Bool) (s : AuthState) : Option AuthState :=
  if sessionId ∈ s.issued then none
  else
    match AppState.register sessionId gatewayToken userToken instanceId legacy s.runtime with
    | .ok (runtime, lease, _) =>
      some { s with
        runtime
        leases := s.leases.insert sessionId lease
        issued := insert sessionId s.issued }
    | .error _ => some { s with issued := insert sessionId s.issued }

def reload (config : GatewayConfig) (s : AuthState) : Option AuthState :=
  match AppState.reload config s.runtime with
  | .ok runtime => some { s with runtime }
  | .error _ => some s

/-- The last clone of a lease is dropped: no call borrows it. -/
def drop (sessionId : String) (s : AuthState) : Option AuthState :=
  if s.calls.entries.all (fun e => e.2.lease.id ≠ sessionId) then
    some { s with
      runtime := AppState.dropLease sessionId s.runtime
      leases := s.leases.erase sessionId }
  else none

def authorize (call : Nat) (sessionId : String) (target : TargetConfig) (s : AuthState) :
    Option AuthState :=
  match s.calls.lookup call, s.leases.lookup sessionId with
  | none, some lease =>
    match AppState.authorizeEntry lease target s.runtime, AppState.resolveHost target with
    | .ok _, .ok (.literal found) =>
      some { s with calls := s.calls.insert call ⟨lease, target, .addresses found⟩ }
    | .ok _, .ok (.lookup _) => some { s with calls := s.calls.insert call ⟨lease, target, .lookup⟩ }
    | _, _ => some s
  | _, _ => none

def resolve (call : Nat) (answer : Except Error (List SocketAddr)) (s : AuthState) :
    Option AuthState :=
  match s.calls.lookup call with
  | some ⟨lease, target, .lookup⟩ =>
    match AppState.awaitLookup lease answer s.runtime with
    | .ok found => some { s with calls := s.calls.insert call ⟨lease, target, .addresses found⟩ }
    | .error _ => some { s with calls := s.calls.erase call }
  | _ => none

def finish (call : Nat) (s : AuthState) : Option AuthState :=
  match s.calls.lookup call with
  | some ⟨lease, target, .addresses found⟩ =>
    match AppState.authorizeAddresses lease target found s.runtime with
    | .ok addresses =>
      some { s with calls := s.calls.erase call, granted := ⟨lease.id, addresses⟩ :: s.granted }
    | .error _ => some { s with calls := s.calls.erase call }
  | _ => none

end AuthState

def authorization : Machine AuthState AuthOp where
  Initial := fun s => (∃ config, AppState.new config = .ok s.runtime) ∧ s.leases = ∅ ∧ s.calls = ∅ ∧
    s.issued = ∅ ∧ s.granted = []
  step
    | .register sessionId gatewayToken userToken instanceId legacy, s =>
      s.register sessionId gatewayToken userToken instanceId legacy
    | .reload config, s => s.reload config
    | .drop sessionId, s => s.drop sessionId
    | .authorize call sessionId target, s => s.authorize call sessionId target
    | .resolve call answer, s => s.resolve call answer
    | .finish call, s => s.finish call

/-! ### The invariant -/

structure AuthInv (s : AuthState) : Prop where
  table : credentials s.runtime.config = .ok s.runtime.credentials
  /-- A lease is held exactly for the sessions in the map, with their credential. -/
  lease : ∀ sid lease, s.leases.lookup sid = some lease → lease.id = sid ∧
    ∃ session, s.runtime.sessions.lookup sid = some session ∧ session.credential = lease.credential
  session : ∀ sid, (s.runtime.sessions.lookup sid).isSome = true → (s.leases.lookup sid).isSome = true
  call : ∀ n call, s.calls.lookup n = some call → s.leases.lookup call.lease.id = some call.lease
  issued : ∀ sid, (s.leases.lookup sid).isSome = true → sid ∈ s.issued
  grantIssued : ∀ g ∈ s.granted, g.sessionId ∈ s.issued
  grants : GrantsHold s.runtime s.granted

omit [NetLiterals] in
/-- A registration adds its session and keeps the credentials of the others. -/
theorem registered_session (sessionId instanceId token : String) (credential : Credential)
    (runtime : Runtime) :
    (∃ session, (registered sessionId instanceId token credential runtime).sessions.lookup sessionId =
      some session ∧ session.credential = credentialId token) ∧
    (∀ sid, sid ≠ sessionId → ∀ session, runtime.sessions.lookup sid = some session →
      ∃ session', (registered sessionId instanceId token credential runtime).sessions.lookup sid =
        some session' ∧ session'.credential = session.credential) ∧
    (∀ sid, sid ≠ sessionId →
      ((registered sessionId instanceId token credential runtime).sessions.lookup sid).isSome =
        (runtime.sessions.lookup sid).isSome) := by
  unfold registered
  split
  · obtain ⟨order, hs, _⟩ := enroll_spec sessionId (credentialId token) instanceId
      (runtime.takeover (credentialId token) instanceId)
    rw [hs]
    refine ⟨⟨_, AList.lookup_insert _, rfl⟩, fun sid hne session hold => ?_, fun sid hne => ?_⟩
    · simp only [AList.lookup_insert_ne hne, Runtime.takeover, HashMap.lookup_mapValues, hold,
        Option.map_some]
      refine ⟨_, rfl, ?_⟩
      split <;> rfl
    · simp [AList.lookup_insert_ne hne, Runtime.takeover]
  · obtain ⟨order, hs, _⟩ := enroll_spec sessionId (credentialId token) instanceId runtime
    rw [hs]
    exact ⟨⟨_, AList.lookup_insert _, rfl⟩,
      fun sid hne session hold => ⟨session, by rw [AList.lookup_insert_ne hne, hold], rfl⟩,
      fun sid hne => by rw [AList.lookup_insert_ne hne]⟩

/-! ### Steps -/

theorem authInv_initial {s : AuthState} (h : authorization.Initial s) : AuthInv s := by
  obtain ⟨⟨config, hnew⟩, hleases, hcalls, hissued, hgranted⟩ := h
  have hsessions : s.runtime.sessions = ∅ := by
    obtain ⟨table, _, hnew⟩ := bind_eq_ok.mp hnew
    rw [← pure_eq_ok.mp hnew]
  refine ⟨(consistent_new hnew).table, ?_, ?_, ?_, ?_, ?_, ?_⟩
  · intro sid lease hl
    simp [hleases] at hl
  · intro sid hl
    simp [hsessions] at hl
  · intro n call hl
    simp [hcalls] at hl
  · intro sid hl
    simp [hleases] at hl
  · intro g hg
    simp [hgranted] at hg
  · intro g hg
    simp [hgranted] at hg

theorem authInv_register {sessionId gatewayToken instanceId : String} {userToken : Option String}
    {legacy : Bool} {s t : AuthState} (h : AuthInv s)
    (hs : s.register sessionId gatewayToken userToken instanceId legacy = some t) : AuthInv t := by
  unfold AuthState.register at hs
  split at hs
  · cases hs
  rename_i hfresh
  -- the identifier is new: no lease, no session and no grant has it
  have hold : ∀ sid, (s.leases.lookup sid).isSome = true → sid ≠ sessionId := by
    intro sid hl heq
    subst heq
    exact hfresh (h.issued sid hl)
  have hgrant : ∀ g ∈ s.granted, g.sessionId ≠ sessionId := by
    intro g hg he
    exact hfresh (he ▸ h.grantIssued g hg)
  split at hs
  · rename_i runtime lease name hr
    cases hs
    obtain ⟨token, credential, _, hnext, hlease, _⟩ := register_ok hr
    obtain ⟨hcredentials, hconfig⟩ :=
      registered_credentials sessionId instanceId token credential s.runtime
    obtain ⟨hnew, hkept, hsome⟩ :=
      registered_session sessionId instanceId token credential s.runtime
    rw [← hnext] at hcredentials hconfig hnew hkept hsome
    refine ⟨by rw [hconfig, hcredentials]; exact h.table, ?_, ?_, ?_, ?_, ?_, ?_⟩
    · intro sid l hl
      rcases HashMap.lookup_insert_some hl with ⟨rfl, rfl⟩ | ⟨hne, hl⟩
      · obtain ⟨session, hsession, hc⟩ := hnew
        exact ⟨by rw [hlease], session, hsession, by rw [hc, hlease]⟩
      · obtain ⟨hid, session, hsession, hc⟩ := h.lease sid l hl
        obtain ⟨session', hsession', hc'⟩ := hkept sid hne session hsession
        exact ⟨hid, session', hsession', hc'.trans hc⟩
    · intro sid hl
      by_cases hne : sid = sessionId
      · rw [hne]
        simp
      · rw [AList.lookup_insert_ne hne]
        exact h.session sid ((hsome sid hne).symm.trans hl)
    · intro n call hl
      have hc := h.call n call hl
      have hne := hold call.lease.id (by rw [hc]; rfl)
      rw [AList.lookup_insert_ne hne]
      exact hc
    · intro sid hl
      by_cases hne : sid = sessionId
      · simp [hne]
      · rw [AList.lookup_insert_ne hne] at hl
        exact Finset.mem_insert_of_mem (h.issued sid hl)
    · exact fun g hg => Finset.mem_insert_of_mem (h.grantIssued g hg)
    · intro g hg
      obtain ⟨hnonempty, hallowed⟩ := h.grants g hg
      refine ⟨hnonempty, fun session hl => ?_⟩
      rw [hcredentials]
      have hl' : runtime.LiveSession g.sessionId session := hl
      rw [hnext] at hl'
      rcases live_registered hl' with ⟨he, _⟩ | ⟨_, hlive, _⟩
      · exact absurd he (hgrant g hg)
      · exact hallowed session hlive
  · cases hs
    exact ⟨h.table, h.lease, h.session, h.call,
      fun sid hl => Finset.mem_insert_of_mem (h.issued sid hl),
      fun g hg => Finset.mem_insert_of_mem (h.grantIssued g hg), h.grants⟩

theorem authInv_reload {config : GatewayConfig} {s t : AuthState} (h : AuthInv s)
    (hs : s.reload config = some t) : AuthInv t := by
  unfold AuthState.reload at hs
  split at hs
  · rename_i runtime hr
    cases hs
    obtain ⟨table, htable, _, rfl⟩ := reload_ok hr
    refine ⟨htable, ?_, ?_, h.call, h.issued, h.grantIssued, grantsHold_reconfigure h.grants⟩
    · intro sid lease hl
      obtain ⟨hid, session, hsession, hc⟩ := h.lease sid lease hl
      obtain ⟨session', hsession', hc'⟩ := reconfigure_session hsession
      exact ⟨hid, session', hsession', hc'.trans hc⟩
    · exact fun sid hl => h.session sid (reconfigure_isSome.symm.trans hl)
  · cases hs
    exact h

theorem authInv_drop {sessionId : String} {s t : AuthState} (h : AuthInv s)
    (hs : s.drop sessionId = some t) : AuthInv t := by
  unfold AuthState.drop at hs
  split at hs
  · rename_i hidle
    cases hs
    refine ⟨h.table, ?_, ?_, ?_, ?_, h.grantIssued, ?_⟩
    · intro sid lease hl
      obtain ⟨hne, hl⟩ := HashMap.lookup_erase_some hl
      obtain ⟨hid, session, hsession, hc⟩ := h.lease sid lease hl
      exact ⟨hid, session, by simp only [AppState.dropLease, AList.lookup_erase_ne hne, hsession], hc⟩
    · intro sid hl
      obtain ⟨session, hsession⟩ := Option.isSome_iff_exists.mp hl
      obtain ⟨hne, hsession⟩ := HashMap.lookup_erase_some hsession
      rw [AList.lookup_erase_ne hne]
      exact h.session sid (by rw [hsession]; rfl)
    · intro n call hl
      have hne : call.lease.id ≠ sessionId := by
        have hmem := (HashMap.lookup_eq_some_iff _ _ _).mp hl
        simpa using List.all_eq_true.mp hidle _ hmem
      rw [AList.lookup_erase_ne hne]
      exact h.call n call hl
    · intro sid hl
      obtain ⟨lease, hlease⟩ := Option.isSome_iff_exists.mp hl
      exact h.issued sid (by rw [(HashMap.lookup_erase_some hlease).2]; rfl)
    · intro g hg
      obtain ⟨hnonempty, hallowed⟩ := h.grants g hg
      refine ⟨hnonempty, fun session hl => ?_⟩
      exact hallowed session ⟨(HashMap.lookup_erase_some hl.1).2, hl.2⟩
  · cases hs

/-- A call that borrows a held lease may be added or replaced. -/
theorem authInv_insert_call {s : AuthState} (h : AuthInv s) (n : Nat) (call : Call)
    (hlease : s.leases.lookup call.lease.id = some call.lease) :
    AuthInv { s with calls := s.calls.insert n call } := by
  refine ⟨h.table, h.lease, h.session, ?_, h.issued, h.grantIssued, h.grants⟩
  intro m c hl
  rcases HashMap.lookup_insert_some hl with ⟨_, rfl⟩ | ⟨_, hl⟩
  · exact hlease
  · exact h.call m c hl

theorem authInv_erase_call {s : AuthState} (h : AuthInv s) (n : Nat) :
    AuthInv { s with calls := s.calls.erase n } :=
  ⟨h.table, h.lease, h.session, fun m c hl => h.call m c (HashMap.lookup_erase_some hl).2,
    h.issued, h.grantIssued, h.grants⟩

theorem authInv_authorize {call : Nat} {sessionId : String} {target : TargetConfig}
    {s t : AuthState} (h : AuthInv s) (hs : s.authorize call sessionId target = some t) :
    AuthInv t := by
  unfold AuthState.authorize at hs
  split at hs
  · rename_i lease _ hlease
    obtain ⟨hid, _⟩ := h.lease sessionId lease hlease
    have hheld : s.leases.lookup lease.id = some lease := by rw [hid, hlease]
    split at hs <;> cases hs
    · exact authInv_insert_call h call _ hheld
    · exact authInv_insert_call h call _ hheld
    · exact h
  · cases hs

theorem authInv_resolve {call : Nat} {answer : Except Error (List SocketAddr)} {s t : AuthState}
    (h : AuthInv s) (hs : s.resolve call answer = some t) : AuthInv t := by
  unfold AuthState.resolve at hs
  split at hs
  · rename_i lease target hcall
    split at hs <;> cases hs
    · have hheld := h.call call _ hcall
      exact authInv_insert_call h call _ hheld
    · exact authInv_erase_call h call
  · cases hs

theorem authInv_finish {call : Nat} {s t : AuthState} (h : AuthInv s)
    (hs : s.finish call = some t) : AuthInv t := by
  unfold AuthState.finish at hs
  split at hs
  · rename_i lease target found hcall
    split at hs <;> cases hs
    · rename_i addresses hok
      obtain ⟨_, hne, c, hc, hallowed⟩ := authorizeAddresses_ok hok
      have hheld := h.call call _ hcall
      obtain ⟨_, session, hsession, hcredential⟩ := h.lease _ _ hheld
      have herased := authInv_erase_call h call
      refine ⟨h.table, h.lease, h.session, herased.call, h.issued, ?_, ?_⟩
      · intro g hg
        rcases List.mem_cons.mp hg with rfl | hg
        · exact h.issued lease.id (by rw [hheld]; rfl)
        · exact h.grantIssued g hg
      · intro g hg
        rcases List.mem_cons.mp hg with rfl | hg
        · refine ⟨hne, fun live hl => ?_⟩
          have hsame : live = session := Option.some.inj (hl.1.symm.trans hsession)
          exact ⟨c, by rw [hsame, hcredential]; exact hc, hallowed⟩
        · exact h.grants g hg
    · exact authInv_erase_call h call
  · cases hs

theorem authInv_reachable {s : AuthState} (h : authorization.Reachable s) : AuthInv s := by
  apply Machine.ReachableUnder.invariant _ _ h
  · exact fun _ hi => authInv_initial hi
  · intro op s t _ hinv _ hs
    cases op with
    | register => exact authInv_register hinv hs
    | reload => exact authInv_reload hinv hs
    | drop => exact authInv_drop hinv hs
    | authorize => exact authInv_authorize hinv hs
    | resolve => exact authInv_resolve hinv hs
    | finish => exact authInv_finish hinv hs

/-- **Granted means allowed, then and for as long as the session lives.** A list
that a call returns is not empty, and each of its addresses is allowed by the rules
that the configuration in force gives the session's credential; and in every state
every address granted so far is allowed by the rules in force of the session's
credential, if the session's signal is unset. -/
theorem granted_stays_allowed {s : AuthState} (h : authorization.Reachable s) :
    (∀ n lease target found addresses, s.calls.lookup n = some ⟨lease, target, .addresses found⟩ →
      AppState.authorizeAddresses lease target found s.runtime = .ok addresses →
      addresses ≠ [] ∧ ∃ session, s.runtime.LiveSession lease.id session ∧
        ∀ a ∈ addresses, ConfigAllows s.runtime.config session.credential a) ∧
    (∀ g ∈ s.granted, ∀ session, s.runtime.LiveSession g.sessionId session →
      ∀ a ∈ g.addresses, ConfigAllows s.runtime.config session.credential a) := by
  have hinv := authInv_reachable h
  constructor
  · intro n lease target found addresses hcall hok
    obtain ⟨hsignal, hne, c, hc, hallowed⟩ := authorizeAddresses_ok hok
    obtain ⟨_, session, hsession, hcredential⟩ := hinv.lease _ _ (hinv.call n _ hcall)
    have hlive : session.signal = none := by
      simpa [Runtime.signal, hsession] using hsignal
    exact ⟨hne, session, ⟨hsession, hlive⟩, fun a ha =>
      ⟨_, c, hinv.table, by rw [hcredential]; exact hc, hallowed a ha⟩⟩
  · intro g hg session hl a ha
    obtain ⟨_, hallowed⟩ := hinv.grants g hg
    obtain ⟨c, hc, hrules⟩ := hallowed session hl
    exact ⟨_, c, hinv.table, hc, hrules a ha⟩

end Authorization

/-! ### A grant -/

section Example

local instance : NetLiterals := .dottedQuad
local instance : Ring := .free

def localTarget (port : UInt16) : TargetConfig :=
  ⟨.tcp, "127.0.0.1", port, none, false, false, false⟩

def grantStart : AuthState := ⟨singleStart, ∅, ∅, ∅, []⟩

def grantOps : List AuthOp :=
  [.register "s1" "shared" (some "user") instanceA false,
    .authorize 0 "s1" (localTarget 22), .reload singleConfig, .finish 0,
    .authorize 1 "s1" (localTarget 80)]

/-- An address granted to a session, and a second call of the session before its check. -/
def grantState : AuthState := (authorization.run grantOps grantStart).getD grantStart

theorem grantState_reachable : authorization.Reachable grantState := by
  have hstart : authorization.Initial grantStart := ⟨⟨singleConfig, by rfl⟩, rfl, rfl, rfl, rfl⟩
  exact Machine.reachable_getD hstart (by decide +kernel)

def localhost (port : UInt16) : SocketAddr := ⟨.v4 0x7f000001, port⟩

def liveA : SessionInfo := ⟨credentialId "user", instanceA, 1, none⟩

theorem granted_stays_allowed_grantState :
    (∃ session, grantState.runtime.LiveSession "s1" session ∧
      ConfigAllows grantState.runtime.config session.credential (localhost 80)) ∧
    ConfigAllows grantState.runtime.config (credentialId "user") (localhost 22) := by
  obtain ⟨hcall, hgrant⟩ := granted_stays_allowed grantState_reachable
  have hlive : grantState.runtime.LiveSession "s1" liveA := by
    constructor <;> decide +kernel
  constructor
  · obtain ⟨_, session, hsession, hallowed⟩ := hcall 1 ⟨"s1", some "lisi", credentialId "user"⟩
      (localTarget 80) [localhost 80] [localhost 80] (by rfl) (by rfl)
    exact ⟨session, hsession, hallowed (localhost 80) (by simp)⟩
  · exact hgrant ⟨"s1", [localhost 22]⟩ (by
      have h : grantState.granted = [⟨"s1", [localhost 22]⟩] := by rfl
      rw [h]
      exact List.mem_singleton.mpr rfl) liveA hlive (localhost 22) (List.mem_singleton.mpr rfl)

end Example

end WsNet.Gateway
