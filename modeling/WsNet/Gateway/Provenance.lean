import WsNet.Gateway.Takeover

/-! Where a live session comes from.

Beside the registry a record is kept of what each session was registered with.
A session that no reload has cancelled still has all of it: its gateway token is
the one in force, its token is still the token of a user of that name or, without
users, the gateway's own, and users are still on or still off. -/
namespace WsNet.Gateway
open Data Transition

/-- What a session was registered with. -/
structure Registration where
  gatewayToken : String
  enabled : Bool
  /-- The token that identified the user. -/
  token : String
  name : String
  deriving DecidableEq, Repr

structure Recorded where
  runtime : Runtime
  registrations : HashMap String Registration

section Provenance
variable [NetLiterals] [Ring]

/-- An accepted registration is recorded under the identifier of its session. -/
def record : Op → Runtime → HashMap String Registration → HashMap String Registration
  | .register sessionId gatewayToken userToken instanceId legacy, runtime, log =>
    match AppState.register sessionId gatewayToken userToken instanceId legacy runtime,
        AppState.submittedToken runtime.config.auth gatewayToken userToken with
    | .ok (_, _, name), .ok token =>
      log.insert sessionId ⟨gatewayToken, runtime.config.auth.enabled, token, name⟩
    | _, _ => log
  | _, _, log => log

/-- The registry, with its record. -/
def recorded : Machine Recorded Op where
  Initial := fun s => registry.Initial s.runtime ∧ s.registrations = ∅
  step := fun op s =>
    (applyOp op s.runtime).map fun next => ⟨next, record op s.runtime s.registrations⟩

/-- The record does not influence the registry. -/
theorem recorded_registry {s : Recorded} (h : recorded.Reachable s) :
    registry.Reachable s.runtime := by
  apply Machine.ReachableUnder.invariant _ _ h
  · exact fun s hs => .initial hs.1
  · intro op s t _ ih _ hstep
    obtain ⟨next, hnext, rfl⟩ := Option.map_eq_some_iff.mp hstep
    exact ih.next trivial hnext

/-- The session's registration agrees with a configuration, and with the credential of
the session in its table. -/
structure Current (config : GatewayConfig) (table : Credentials) (session : SessionInfo)
    (r : Registration) : Prop where
  gateway : r.gatewayToken = config.auth.accessToken
  enabled : r.enabled = config.auth.enabled
  selector : session.credential = credentialId r.token
  known : ∃ c, table.lookup session.credential = some c ∧ c.token = r.token ∧ c.name = r.name

/-- What every operation keeps. -/
structure Traced (s : Recorded) : Prop where
  table : credentials s.runtime.config = .ok s.runtime.credentials
  session : ∀ sid session, s.runtime.LiveSession sid session →
    ∃ r, s.registrations.lookup sid = some r ∧
      Current s.runtime.config s.runtime.credentials session r

theorem traced_initial {s : Recorded} (h : recorded.Initial s) : Traced s := by
  obtain ⟨config, hnew⟩ := h.1
  refine ⟨(consistent_new hnew).table, fun sid session hl => ?_⟩
  obtain ⟨table, _, hnew⟩ := bind_eq_ok.mp hnew
  have hruntime := pure_eq_ok.mp hnew
  have hl := hl.1
  rw [← hruntime] at hl
  simp at hl

/-- A new session is recorded as it is; the other live sessions are as before. -/
theorem traced_register {sessionId gatewayToken instanceId : String} {userToken : Option String}
    {legacy : Bool} {runtime next : Runtime} {log : HashMap String Registration}
    {lease : SessionLease} {name : String} (h : Traced ⟨runtime, log⟩)
    (hr : AppState.register sessionId gatewayToken userToken instanceId legacy runtime =
      .ok (next, lease, name)) :
    Traced ⟨next, record (.register sessionId gatewayToken userToken instanceId legacy) runtime log⟩ := by
  obtain ⟨token, credential, ha, rfl, _, rfl⟩ := register_ok hr
  obtain ⟨hcredentials, hconfig⟩ :=
    registered_credentials sessionId instanceId token credential runtime
  have hrecord : record (.register sessionId gatewayToken userToken instanceId legacy) runtime log =
      log.insert sessionId ⟨gatewayToken, runtime.config.auth.enabled, token, credential.name⟩ := by
    simp only [record, hr, submittedToken_ok.mpr ha.submitted]
  refine ⟨by rw [hconfig, hcredentials]; exact h.table, fun sid session hl => ?_⟩
  rw [hrecord]
  rcases live_registered hl with ⟨rfl, hc, _⟩ | ⟨hne, hold, _⟩
  · refine ⟨_, AList.lookup_insert _, ?_, ?_, hc, credential, ?_, ha.same, rfl⟩
    · rw [hconfig]
      exact ha.gateway
    · rw [hconfig]
    · rw [hcredentials, hc]
      exact ha.known
  · obtain ⟨r, hlog, hcurrent⟩ := h.session sid session hold
    refine ⟨r, by rw [AList.lookup_insert_ne hne]; exact hlog, ?_, ?_, hcurrent.selector, ?_⟩
    · rw [hconfig]
      exact hcurrent.gateway
    · rw [hconfig]
      exact hcurrent.enabled
    · rw [hcredentials]
      exact hcurrent.known

/-- A session that a reload leaves alone still agrees with its registration. -/
theorem current_reconfigure (hinj : Function.Injective credentialId) {config : GatewayConfig}
    {table : Credentials} {runtime : Runtime} {session : SessionInfo} {r : Registration}
    (htable : credentials runtime.config = .ok runtime.credentials)
    (ht : credentials config = .ok table)
    (h : Current runtime.config runtime.credentials session r)
    (hs : Survives config table runtime session) : Current config table session r := by
  obtain ⟨c, hc, htoken, hname⟩ := h.known
  obtain ⟨new, hnew, hsame⟩ := hs.known
  obtain ⟨_, holdMode⟩ := credentials_lookup htable hc
  obtain ⟨hselector, hnewMode⟩ := credentials_lookup ht hnew
  have hnewToken : new.token = r.token := hinj (hselector.symm.trans h.selector)
  refine ⟨h.gateway.trans hs.gateway, ?_, h.selector, new, hnew, hnewToken, ?_⟩
  · -- one token, and one gateway token to compare it with
    rw [h.enabled, Bool.eq_iff_iff, holdMode, hnewMode, htoken, hnewToken, hs.gateway]
  · rw [← (hsame c hc).1, hname]

theorem traced_step (hinj : Function.Injective credentialId) {op : Op} {s t : Recorded}
    (h : Traced s) (hs : recorded.step op s = some t) : Traced t := by
  obtain ⟨next, hnext, rfl⟩ := Option.map_eq_some_iff.mp hs
  cases op with
  | register sessionId gatewayToken userToken instanceId legacy =>
    simp only [applyOp] at hnext
    split at hnext
    · split at hnext
      · rename_i r lease name hr
        cases hnext
        exact traced_register h hr
      · rename_i e hr
        cases hnext
        simp only [record, hr]
        exact h
    · cases hnext
  | reload config =>
    rcases applyOp_cases hnext with rfl | ⟨_, _, _, _, _, _, _, hop, _⟩ | ⟨_, table, hop, ht, rfl⟩ |
      ⟨_, hop, _⟩
    · exact h
    · cases hop
    · cases hop
      refine ⟨ht, fun sid session hl => ?_⟩
      obtain ⟨hold, hsurvives⟩ := live_reconfigure hl
      obtain ⟨r, hlog, hcurrent⟩ := h.session sid session hold
      exact ⟨r, hlog, current_reconfigure hinj h.table ht hcurrent hsurvives⟩
    · cases hop
  | drop sessionId =>
    cases hnext
    exact ⟨h.table, fun sid session hl =>
      h.session sid session ⟨(HashMap.lookup_erase_some hl.1).2, hl.2⟩⟩

theorem traced_reachable (hinj : Function.Injective credentialId) {s : Recorded}
    (h : recorded.Reachable s) : Traced s :=
  h.invariant (fun _ => traced_initial) fun _ _ _ _ ht _ hs => traced_step hinj ht hs

/-- **No live session outlives its registration.** In every reachable registry a
session whose signal is unset was registered with the gateway token in force; its
credential is still in the table, with the token and the name it had then; users are
on or off as they were, and the token is that of a user of that name, or the shared
one. -/
theorem live_session_current (hinj : Function.Injective credentialId) {s : Recorded}
    (h : recorded.Reachable s) {sid : String} {session : SessionInfo}
    (hlive : s.runtime.LiveSession sid session) :
    ∃ r, s.registrations.lookup sid = some r ∧
      r.gatewayToken = s.runtime.config.auth.accessToken ∧
      (∃ c, s.runtime.credentials.lookup session.credential = some c ∧ c.token = r.token ∧
        c.name = r.name) ∧
      r.enabled = s.runtime.config.auth.enabled ∧
      (s.runtime.config.auth.enabled = true →
        ∃ user ∈ s.runtime.config.users, user.token = r.token ∧ user.name = r.name) ∧
      (s.runtime.config.auth.enabled = false → r.token = s.runtime.config.auth.accessToken) := by
  have ht := traced_reachable hinj h
  obtain ⟨r, hlog, hcurrent⟩ := ht.session sid session hlive
  obtain ⟨c, hc, htoken, hname⟩ := hcurrent.known
  refine ⟨r, hlog, hcurrent.gateway, ⟨c, hc, htoken, hname⟩, hcurrent.enabled, ?_, ?_⟩
  · intro he
    obtain ⟨user, hu, _, hut, hun⟩ := credentials_mem ht.table he hc
    exact ⟨user, hu, hut.symm.trans htoken, hun.symm.trans hname⟩
  · intro he
    obtain ⟨_, hshared⟩ := credentials_shared ht.table (by simp [he]) hc
    rw [← htoken, hshared]
    rfl

end Provenance

/-! ### A session after two reloads -/

section Example

local instance provenanceLiterals : NetLiterals := .dottedQuad
local instance provenanceRing : Ring := .free

/-- Another user beside the first. -/
def secondUser : GatewayConfig :=
  { singleConfig with users := singleConfig.users ++ [⟨"zhangsan", "other", none, []⟩] }

def provenanceOps : List Op :=
  [.register "s1" "shared" (some "user") instanceA false,
    .register "s2" "shared" (some "user") instanceB false, .reload secondUser]

def recordedStart : Recorded := ⟨singleStart, ∅⟩

def recordedState : Recorded := (recorded.run provenanceOps recordedStart).getD recordedStart

theorem recordedState_reachable : recorded.Reachable recordedState := by
  have hstart : recorded.Initial recordedStart := ⟨⟨singleConfig, by rfl⟩, rfl⟩
  exact Machine.reachable_getD hstart (by decide +kernel)

theorem live_session_current_recordedState :
    ∃ r, recordedState.registrations.lookup "s2" = some r ∧ r.gatewayToken = "shared" := by
  have hlive : recordedState.runtime.LiveSession "s2" ⟨credentialId "user", instanceB, 2, none⟩ := by
    constructor <;> decide +kernel
  obtain ⟨r, hlog, hgateway, _⟩ :=
    live_session_current (credentialId_inj Ring.free_ideal) recordedState_reachable hlive
  exact ⟨r, hlog, hgateway.trans (by decide +kernel)⟩

end Example

end WsNet.Gateway
