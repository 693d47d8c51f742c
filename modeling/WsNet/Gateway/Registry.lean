import WsNet.Gateway.App
import WsNet.Transition.Machine

/-! The session registry over whole runs.

The registry is a machine: registrations, reloads and lease drops, in any order,
accepted or refused. What each operation can do is said once (`register_ok`,
`reload_ok`, and the two lemmas on which sessions stay live), and the invariants
follow from that. -/
namespace WsNet.Gateway
open Data Transition

/-! ### The credential table -/

section Table
variable [NetLiterals] [Ring]

theorem userCredentials_kept {auth : GatewayAuth} {users : List GatewayUser}
    {table next : Credentials} (h : userCredentials auth table users = .ok next)
    {id : String} {c : Credential} (hc : table.lookup id = some c) : next.lookup id = some c := by
  induction users generalizing table with
  | nil =>
    cases h
    exact hc
  | cons user rest ih =>
    obtain ⟨rules, _, h⟩ := bind_eq_ok.mp h
    obtain ⟨_, hfree, h⟩ := bind_eq_ok.mp h
    have hfree := ensure_eq_ok.mp hfree
    apply ih h
    by_cases hid : id = credentialId user.token
    · rw [hid, hfree] at hc
      cases hc
    · rw [AList.lookup_insert_ne hid]
      exact hc

/-- Every user has its credential in the table. -/
theorem userCredentials_user {auth : GatewayAuth} {users : List GatewayUser}
    {table next : Credentials} (h : userCredentials auth table users = .ok next)
    {user : GatewayUser} (hu : user ∈ users) :
    ∃ rules, user.rules = .ok rules ∧ next.lookup (credentialId user.token) =
      some ⟨user.token, user.name, user.isSingleAccess auth, rules⟩ := by
  induction users generalizing table with
  | nil => cases hu
  | cons first rest ih =>
    obtain ⟨rules, hrules, h⟩ := bind_eq_ok.mp h
    obtain ⟨_, _, h⟩ := bind_eq_ok.mp h
    rcases List.mem_cons.mp hu with rfl | hu
    · exact ⟨rules, hrules, userCredentials_kept h (AList.lookup_insert _)⟩
    · exact ih h hu

theorem credentials_user {config : GatewayConfig} {table : Credentials}
    (h : credentials config = .ok table) (he : config.auth.enabled = true) {user : GatewayUser}
    (hu : user ∈ config.users) :
    ∃ rules, user.rules = .ok rules ∧ table.lookup (credentialId user.token) =
      some ⟨user.token, user.name, user.isSingleAccess config.auth, rules⟩ := by
  obtain ⟨_, _, h⟩ := bind_eq_ok.mp h
  rw [if_pos he] at h
  exact userCredentials_user h hu

/-- Every credential in the table is a user's, under the user's token. -/
theorem userCredentials_mem {auth : GatewayAuth} {users : List GatewayUser}
    {table next : Credentials} (h : userCredentials auth table users = .ok next)
    {id : String} {c : Credential} (hc : next.lookup id = some c) :
    table.lookup id = some c ∨
      ∃ user ∈ users, id = credentialId user.token ∧ c.token = user.token ∧ c.name = user.name := by
  induction users generalizing table with
  | nil =>
    cases h
    exact .inl hc
  | cons user rest ih =>
    obtain ⟨rules, _, h⟩ := bind_eq_ok.mp h
    obtain ⟨_, _, h⟩ := bind_eq_ok.mp h
    rcases ih h with hold | ⟨other, hother, hcredential⟩
    · rcases HashMap.lookup_insert_some hold with ⟨hid, rfl⟩ | ⟨_, hold⟩
      · exact .inr ⟨user, List.mem_cons_self, hid, rfl, rfl⟩
      · exact .inl hold
    · exact .inr ⟨other, List.mem_cons_of_mem _ hother, hcredential⟩

theorem credentials_mem {config : GatewayConfig} {table : Credentials}
    (h : credentials config = .ok table) (he : config.auth.enabled = true) {id : String}
    {c : Credential} (hc : table.lookup id = some c) :
    ∃ user ∈ config.users, id = credentialId user.token ∧ c.token = user.token ∧
      c.name = user.name := by
  obtain ⟨_, _, h⟩ := bind_eq_ok.mp h
  rw [if_pos he] at h
  rcases userCredentials_mem h hc with hold | hmem
  · simp at hold
  · exact hmem

/-- Without users, the shared credential is the only one. -/
theorem credentials_shared {config : GatewayConfig} {table : Credentials}
    (h : credentials config = .ok table) (he : config.auth.enabled ≠ true) {id : String}
    {c : Credential} (hc : table.lookup id = some c) :
    id = credentialId config.auth.accessToken ∧ c = sharedCredential config.auth := by
  obtain ⟨_, _, h⟩ := bind_eq_ok.mp h
  rw [if_neg he] at h
  cases pure_eq_ok.mp h
  rcases HashMap.lookup_insert_some hc with ⟨hid, hshared⟩ | ⟨_, hold⟩
  · exact ⟨hid, hshared⟩
  · simp at hold

/-- A credential is kept under the selector of its token, and its token tells
whether there are users: only the shared credential has the gateway's own. -/
theorem credentials_lookup {config : GatewayConfig} {table : Credentials}
    (h : credentials config = .ok table) {id : String} {c : Credential}
    (hc : table.lookup id = some c) :
    id = credentialId c.token ∧
      (config.auth.enabled = true ↔ c.token ≠ config.auth.accessToken) := by
  by_cases he : config.auth.enabled = true
  · obtain ⟨user, hu, hid, htoken, _⟩ := credentials_mem h he hc
    obtain ⟨_, hvalid, _⟩ := bind_eq_ok.mp h
    rw [htoken]
    exact ⟨hid, fun _ => GatewayConfig.validate_tokens hvalid hu, fun _ => he⟩
  · obtain ⟨hid, hshared⟩ := credentials_shared h he hc
    rw [hshared]
    exact ⟨hid, fun h => absurd h he, fun h => absurd rfl h⟩

end Table

/-! ### What an operation does -/

theorem submittedToken_ok {auth : GatewayAuth} {gatewayToken token : String}
    {userToken : Option String} :
    AppState.submittedToken auth gatewayToken userToken = .ok token ↔
      if auth.enabled then userToken = some token else token = gatewayToken := by
  unfold AppState.submittedToken
  split
  · exact orError_eq_ok
  · rw [Except.ok.injEq]
    exact eq_comm

section Registration
variable [Ring]

/-- What an accepted registration has checked. -/
structure Accepted (gatewayToken : String) (userToken : Option String) (instanceId : String)
    (legacy : Bool) (runtime : Runtime) (token : String) (credential : Credential) : Prop where
  gateway : gatewayToken = runtime.config.auth.accessToken
  notLegacy : ¬ (legacy = true ∧ runtime.config.auth.enabled = true)
  submitted : if runtime.config.auth.enabled then userToken = some token else token = gatewayToken
  known : runtime.credentials.lookup (credentialId token) = some credential
  same : credential.token = token
  validInstance : validId instanceId = true
  active : (credentialId token, instanceId) ∉ runtime.retired

/-- The registry after an accepted registration. -/
def registered (sessionId instanceId token : String) (credential : Credential) (runtime : Runtime) :
    Runtime :=
  (if credential.single then runtime.takeover (credentialId token) instanceId else runtime).enroll
    sessionId (credentialId token) instanceId

theorem register_ok {sessionId gatewayToken instanceId name : String} {userToken : Option String}
    {legacy : Bool} {runtime next : Runtime} {lease : SessionLease}
    (h : AppState.register sessionId gatewayToken userToken instanceId legacy runtime =
      .ok (next, lease, name)) :
    ∃ token credential, Accepted gatewayToken userToken instanceId legacy runtime token credential ∧
      next = registered sessionId instanceId token credential runtime ∧
      lease = ⟨sessionId, if runtime.config.auth.enabled then some credential.name else none,
        credentialId token⟩ ∧
      name = credential.name := by
  obtain ⟨_, hgate, h⟩ := bind_eq_ok.mp h
  obtain ⟨token, htoken, h⟩ := bind_eq_ok.mp h
  obtain ⟨credential, hcredential, h⟩ := bind_eq_ok.mp h
  obtain ⟨_, hinstance, h⟩ := bind_eq_ok.mp h
  obtain ⟨_, hactive, h⟩ := bind_eq_ok.mp h
  have hgate := ensure_eq_ok.mp hgate
  have hcredential := Option.filter_eq_some_iff.mp (orError_eq_ok.mp hcredential)
  have hdone := pure_eq_ok.mp h
  simp only [Prod.mk.injEq] at hdone
  obtain ⟨rfl, rfl, rfl⟩ := hdone
  refine ⟨token, credential, ⟨?_, ?_, ?_, hcredential.1, by simpa using hcredential.2,
    ensure_eq_ok.mp hinstance, ensure_eq_ok.mp hactive⟩, rfl, rfl, rfl⟩
  · by_contra hne
    exact hgate (.inl hne)
  · exact fun hl => hgate (.inr hl)
  · exact submittedToken_ok.mp htoken

/-- What has passed the checks is registered. -/
theorem register_of_accepted {gatewayToken instanceId token : String} {userToken : Option String}
    {legacy : Bool} {runtime : Runtime} {credential : Credential} (sessionId : String)
    (h : Accepted gatewayToken userToken instanceId legacy runtime token credential) :
    AppState.register sessionId gatewayToken userToken instanceId legacy runtime =
      .ok (registered sessionId instanceId token credential runtime,
        ⟨sessionId, if runtime.config.auth.enabled then some credential.name else none,
          credentialId token⟩, credential.name) := by
  have hgate : ¬ (gatewayToken ≠ runtime.config.auth.accessToken ∨
      (legacy = true ∧ runtime.config.auth.enabled = true)) := by
    intro hgate
    rcases hgate with hne | hlegacy
    · exact hne h.gateway
    · exact h.notLegacy hlegacy
  have hknown : (runtime.credentials.lookup (credentialId token)).filter (·.token = token) =
      some credential :=
    Option.filter_eq_some_iff.mpr ⟨h.known, by simpa using h.same⟩
  unfold AppState.register
  refine bind_eq_ok.mpr ⟨(), ensure_eq_ok.mpr hgate, ?_⟩
  refine bind_eq_ok.mpr ⟨token, submittedToken_ok.mpr h.submitted, ?_⟩
  refine bind_eq_ok.mpr ⟨credential, orError_eq_ok.mpr hknown, ?_⟩
  refine bind_eq_ok.mpr ⟨(), ensure_eq_ok.mpr h.validInstance, ?_⟩
  exact bind_eq_ok.mpr ⟨(), ensure_eq_ok.mpr h.active, rfl⟩

/-- The submission determines the token, and the token the credential. -/
theorem Accepted.unique {gatewayToken instanceId token token' : String} {userToken : Option String}
    {legacy : Bool} {runtime : Runtime} {credential credential' : Credential}
    (h : Accepted gatewayToken userToken instanceId legacy runtime token credential)
    (h' : Accepted gatewayToken userToken instanceId legacy runtime token' credential') :
    token = token' ∧ credential = credential' := by
  have htoken : token = token' := by
    have hs := h.submitted
    have hs' := h'.submitted
    split at hs
    · rename_i he
      rw [if_pos he] at hs'
      exact Option.some.inj (hs.symm.trans hs')
    · rename_i he
      rw [if_neg he] at hs'
      exact hs.trans hs'.symm
  subst htoken
  exact ⟨rfl, Option.some.inj (h.known.symm.trans h'.known)⟩

end Registration

section Registry
variable [NetLiterals] [Ring]

theorem reload_ok {config : GatewayConfig} {runtime next : Runtime}
    (h : AppState.reload config runtime = .ok next) :
    ∃ table, credentials config = .ok table ∧ runtime.config.gateway = config.gateway ∧
      next = runtime.reconfigure config table := by
  obtain ⟨table, htable, h⟩ := bind_eq_ok.mp h
  obtain ⟨_, hsection, h⟩ := bind_eq_ok.mp h
  exact ⟨table, htable, ensure_eq_ok.mp hsection, (pure_eq_ok.mp h).symm⟩

/-! ### The machine -/

inductive Op where
  /-- Register under a session identifier that no session in the map has. -/
  | register (sessionId gatewayToken : String) (userToken : Option String) (instanceId : String)
      (legacy : Bool)
  | reload (config : GatewayConfig)
  | drop (sessionId : String)

/-- The registry after an operation; a refused one leaves it as it was. -/
def applyOp : Op → Runtime → Option Runtime
  | .register sessionId gatewayToken userToken instanceId legacy, runtime =>
    if runtime.sessions.lookup sessionId = none then
      match AppState.register sessionId gatewayToken userToken instanceId legacy runtime with
      | .ok (next, _, _) => some next
      | .error _ => some runtime
    else none
  | .reload config, runtime =>
    match AppState.reload config runtime with
    | .ok next => some next
    | .error _ => some runtime
  | .drop sessionId, runtime => some (AppState.dropLease sessionId runtime)

def registry : Machine Runtime Op where
  Initial := fun runtime => ∃ config, AppState.new config = .ok runtime
  step := applyOp

theorem applyOp_getD {op : Op} {runtime : Runtime} (h : (applyOp op runtime).isSome = true) :
    applyOp op runtime = some ((applyOp op runtime).getD runtime) := by
  obtain ⟨next, hnext⟩ := Option.isSome_iff_exists.mp h
  rw [hnext, Option.getD_some]

/-- An operation registers, reloads, drops a lease or changes nothing. -/
theorem applyOp_cases {op : Op} {runtime next : Runtime} (h : applyOp op runtime = some next) :
    next = runtime ∨
    (∃ sessionId gatewayToken userToken instanceId legacy token credential,
      op = .register sessionId gatewayToken userToken instanceId legacy ∧
      runtime.sessions.lookup sessionId = none ∧
      Accepted gatewayToken userToken instanceId legacy runtime token credential ∧
      next = registered sessionId instanceId token credential runtime) ∨
    (∃ config table, op = .reload config ∧ credentials config = .ok table ∧
      next = runtime.reconfigure config table) ∨
    (∃ sessionId, op = .drop sessionId ∧ next = AppState.dropLease sessionId runtime) := by
  cases op with
  | register sessionId gatewayToken userToken instanceId legacy =>
    simp only [applyOp] at h
    split at h
    · rename_i hfresh
      split at h
      · rename_i r lease name hr
        cases h
        obtain ⟨token, credential, haccepted, hnext, _⟩ := register_ok hr
        exact .inr (.inl ⟨_, _, _, _, _, token, credential, rfl, hfresh, haccepted, hnext⟩)
      · cases h
        exact .inl rfl
    · cases h
  | reload config =>
    simp only [applyOp] at h
    split at h
    · rename_i r hr
      cases h
      obtain ⟨table, htable, _, hnext⟩ := reload_ok hr
      exact .inr (.inr (.inl ⟨config, table, rfl, htable, hnext⟩))
    · cases h
      exact .inl rfl
  | drop sessionId =>
    cases h
    exact .inr (.inr (.inr ⟨sessionId, rfl, rfl⟩))

end Registry

/-! ### Live sessions -/

namespace Runtime

/-- The session is in the map and its signal is unset. -/
def LiveSession (runtime : Runtime) (id : String) (session : SessionInfo) : Prop :=
  runtime.sessions.lookup id = some session ∧ session.Live

end Runtime

theorem assignOrder_sessions (key : String × String) (runtime : Runtime) :
    (runtime.assignOrder key).2.sessions = runtime.sessions ∧
      (runtime.assignOrder key).2.retired = runtime.retired ∧
      (runtime.assignOrder key).2.credentials = runtime.credentials ∧
      (runtime.assignOrder key).2.config = runtime.config := by
  unfold Runtime.assignOrder
  split <;> exact ⟨rfl, rfl, rfl, rfl⟩

/-- Admission adds one live session and leaves the rest of the registry alone. -/
theorem enroll_spec (sessionId id instanceId : String) (runtime : Runtime) :
    ∃ order, (runtime.enroll sessionId id instanceId).sessions =
        runtime.sessions.insert sessionId ⟨id, instanceId, order, none⟩ ∧
      (runtime.enroll sessionId id instanceId).retired = runtime.retired ∧
      (runtime.enroll sessionId id instanceId).credentials = runtime.credentials ∧
      (runtime.enroll sessionId id instanceId).config = runtime.config := by
  obtain ⟨hs, hr, hc, hconfig⟩ := assignOrder_sessions (id, instanceId) runtime
  exact ⟨(runtime.assignOrder (id, instanceId)).1, by simp only [Runtime.enroll, hs], hr, hc, hconfig⟩

section Live
variable [Ring]

theorem registered_credentials (sessionId instanceId token : String) (credential : Credential)
    (runtime : Runtime) :
    (registered sessionId instanceId token credential runtime).credentials = runtime.credentials ∧
      (registered sessionId instanceId token credential runtime).config = runtime.config := by
  unfold registered
  split
  · obtain ⟨_, _, _, hc, hconfig⟩ := enroll_spec sessionId (credentialId token) instanceId
      (runtime.takeover (credentialId token) instanceId)
    exact ⟨hc, hconfig⟩
  · obtain ⟨_, _, _, hc, hconfig⟩ := enroll_spec sessionId (credentialId token) instanceId runtime
    exact ⟨hc, hconfig⟩

/-- What an accepted registration does to a session in the map: a single-access
credential is taken over from its other instances. -/
def displace (credential : Credential) (id instanceId : String) (session : SessionInfo) : SessionInfo :=
  if credential.single = true ∧ session.credential = id ∧ session.instanceId ≠ instanceId then
    { session with signal := some .replaced }
  else session

theorem registered_lookup {sessionId instanceId token sid : String} {credential : Credential}
    {runtime : Runtime} (hne : sid ≠ sessionId) :
    (registered sessionId instanceId token credential runtime).sessions.lookup sid =
      (runtime.sessions.lookup sid).map (displace credential (credentialId token) instanceId) := by
  unfold registered
  split
  · rename_i hsingle
    obtain ⟨order, hs, _⟩ := enroll_spec sessionId (credentialId token) instanceId
      (runtime.takeover (credentialId token) instanceId)
    rw [hs, AList.lookup_insert_ne hne]
    simp only [Runtime.takeover, HashMap.lookup_mapValues]
    congr 1
    funext session
    simp only [displace, hsingle, true_and]
  · rename_i hsingle
    obtain ⟨order, hs, _⟩ := enroll_spec sessionId (credentialId token) instanceId runtime
    rw [hs, AList.lookup_insert_ne hne]
    have hkeep : displace credential (credentialId token) instanceId = id := by
      funext session
      simp only [displace, hsingle, Bool.false_eq_true, false_and, if_false, id_eq]
    rw [hkeep, Option.map_id, id_eq]

theorem registered_self (sessionId instanceId token : String) (credential : Credential)
    (runtime : Runtime) :
    ∃ order, (registered sessionId instanceId token credential runtime).sessions.lookup sessionId =
      some ⟨credentialId token, instanceId, order, none⟩ := by
  unfold registered
  split
  · obtain ⟨order, hs, _⟩ := enroll_spec sessionId (credentialId token) instanceId
      (runtime.takeover (credentialId token) instanceId)
    exact ⟨order, by rw [hs, AList.lookup_insert]⟩
  · obtain ⟨order, hs, _⟩ := enroll_spec sessionId (credentialId token) instanceId runtime
    exact ⟨order, by rw [hs, AList.lookup_insert]⟩

/-- A session live after a registration is the new one or was live before; under
single access it was not another instance of the credential. -/
theorem live_registered {sessionId instanceId token : String} {credential : Credential}
    {runtime : Runtime} {sid : String} {session : SessionInfo}
    (h : (registered sessionId instanceId token credential runtime).LiveSession sid session) :
    (sid = sessionId ∧ session.credential = credentialId token ∧ session.instanceId = instanceId) ∨
    (sid ≠ sessionId ∧ runtime.LiveSession sid session ∧
      (credential.single = true → session.credential = credentialId token →
        session.instanceId = instanceId)) := by
  obtain ⟨hlookup, hlive⟩ := h
  unfold registered at hlookup
  split at hlookup
  · obtain ⟨order, hs, _⟩ := enroll_spec sessionId (credentialId token) instanceId
      (runtime.takeover (credentialId token) instanceId)
    rw [hs] at hlookup
    rcases HashMap.lookup_insert_some hlookup with ⟨rfl, rfl⟩ | ⟨hne, hold⟩
    · exact .inl ⟨rfl, rfl, rfl⟩
    · simp only [Runtime.takeover, HashMap.lookup_mapValues, Option.map_eq_some_iff] at hold
      obtain ⟨old, hold, hmap⟩ := hold
      split at hmap
      · -- cancelled by the takeover
        subst hmap
        cases hlive
      · rename_i hkept
        subst hmap
        refine .inr ⟨hne, ⟨hold, hlive⟩, fun _ hc => ?_⟩
        by_contra hi
        exact hkept ⟨hc, hi⟩
  · rename_i hsingle
    obtain ⟨order, hs, _⟩ := enroll_spec sessionId (credentialId token) instanceId runtime
    rw [hs] at hlookup
    rcases HashMap.lookup_insert_some hlookup with ⟨rfl, rfl⟩ | ⟨hne, hold⟩
    · exact .inl ⟨rfl, rfl, rfl⟩
    · exact .inr ⟨hne, ⟨hold, hlive⟩, fun hs => absurd hs hsingle⟩

/-- A registration retires other instances of its credential only. -/
theorem mem_retired_registered {sessionId instanceId token : String} {credential : Credential}
    {runtime : Runtime} {key : String × String}
    (h : key ∈ (registered sessionId instanceId token credential runtime).retired) :
    key ∈ runtime.retired ∨
      (credential.single = true ∧ key.1 = credentialId token ∧ key.2 ≠ instanceId) := by
  unfold registered at h
  split at h
  · rename_i hsingle
    obtain ⟨_, _, hr, _⟩ := enroll_spec sessionId (credentialId token) instanceId
      (runtime.takeover (credentialId token) instanceId)
    rw [hr] at h
    simp only [Runtime.takeover, Finset.mem_union, List.mem_toFinset, List.mem_filter,
      decide_eq_true_eq] at h
    rcases h with h | ⟨_, hid, hne⟩
    · exact .inl h
    · exact .inr ⟨hsingle, hid, hne⟩
  · obtain ⟨_, _, hr, _⟩ := enroll_spec sessionId (credentialId token) instanceId runtime
    rw [hr] at h
    exact .inl h

end Live

/-! ### Reload -/

/-- A single-access credential with a live session has a winner once the sessions
are counted, and counting keeps it. -/
theorem recordWinner_spec (next : Credentials) (winners : Winners) (session : SessionInfo)
    (id : String) :
    ((winners.lookup id).isSome = true →
      ((recordWinner next winners session).lookup id).isSome = true) ∧
    (session.signal = none → session.credential = id →
      ((next.lookup id).any (·.single)) = true →
      ((recordWinner next winners session).lookup id).isSome = true) := by
  have hinsert : ∀ w, (winners.lookup id).isSome = true ∨ session.credential = id →
      ((winners.insert session.credential w).lookup id).isSome = true := by
    intro w h
    by_cases hid : id = session.credential
    · rw [hid, AList.lookup_insert]
      rfl
    · rw [AList.lookup_insert_ne hid]
      exact h.resolve_right (fun he => hid he.symm)
  constructor
  · intro h
    unfold recordWinner
    split
    · split
      · exact hinsert _ (.inl h)
      · split
        · exact hinsert _ (.inl h)
        · exact h
    · exact h
  · intro hsignal hcredential hsingle
    unfold recordWinner
    rw [if_pos ⟨hsignal, hcredential ▸ hsingle⟩]
    split
    · exact hinsert _ (.inr hcredential)
    · rename_i winner hwinner
      split
      · exact hinsert _ (.inr hcredential)
      · rw [← hcredential, hwinner]
        rfl

theorem foldl_recordWinner (next : Credentials) (sessions : List SessionInfo) (winners : Winners)
    (id : String)
    (h : (winners.lookup id).isSome = true ∨ ∃ session ∈ sessions, session.signal = none ∧
      session.credential = id ∧ ((next.lookup id).any (·.single)) = true) :
    ((sessions.foldl (recordWinner next) winners).lookup id).isSome = true := by
  induction sessions generalizing winners with
  | nil =>
    rcases h with h | ⟨_, hmem, _⟩
    · exact h
    · cases hmem
  | cons first rest ih =>
    obtain ⟨hkeep, hcount⟩ := recordWinner_spec next winners first id
    apply ih
    rcases h with h | ⟨session, hmem, hsignal, hcredential, hsingle⟩
    · exact .inl (hkeep h)
    · rcases List.mem_cons.mp hmem with rfl | hmem
      · exact .inl (hcount hsignal hcredential hsingle)
      · exact .inr ⟨session, hmem, hsignal, hcredential, hsingle⟩

/-- A session live after a reload was live before; the gateway token is the same,
its credential is in the new table, with the same name and no narrower rules if it
was in the old one, and it is the winner's instance where there is a winner. -/
structure Survives (config : GatewayConfig) (next : Credentials) (runtime : Runtime)
    (session : SessionInfo) : Prop where
  gateway : runtime.config.auth.accessToken = config.auth.accessToken
  known : ∃ new, next.lookup session.credential = some new ∧
    ∀ old, runtime.credentials.lookup session.credential = some old →
      old.name = new.name ∧ ∀ rule ∈ old.rules, ∃ wider ∈ new.rules, wider.covers rule = true
  winner : ∀ w, (runtime.winners false next).lookup session.credential = some w →
    w.2 = session.instanceId

theorem reloadError_none {changed : Bool} {old next : Credentials} {winners : Winners}
    {session : SessionInfo} (h : reloadError changed old next winners session = none) :
    changed = false ∧ ∃ new, next.lookup session.credential = some new ∧
      (∀ o, old.lookup session.credential = some o →
        o.name = new.name ∧ ∀ rule ∈ o.rules, ∃ wider ∈ new.rules, wider.covers rule = true) ∧
      ∀ w, winners.lookup session.credential = some w → w.2 = session.instanceId := by
  have hwinner : (if (winners.lookup session.credential).any (·.2 ≠ session.instanceId) then
      some GatewayError.replaced else none) = none →
      ∀ w, winners.lookup session.credential = some w → w.2 = session.instanceId := by
    intro hnone w hw
    by_contra hne
    rw [hw] at hnone
    simp [hne] at hnone
  unfold reloadError at h
  cases changed with
  | true => cases h
  | false =>
    refine ⟨rfl, ?_⟩
    simp only [Bool.false_eq_true, if_false] at h
    split at h
    · cases h
    · rename_i o new ho hnew
      split at h
      · cases h
      · rename_i hsame
        simp only [not_or, not_not, ne_eq] at hsame
        refine ⟨new, hnew, ?_, hwinner h⟩
        intro o' ho'
        rw [ho] at ho'
        cases ho'
        refine ⟨hsame.1, fun rule hrule => ?_⟩
        exact List.any_eq_true.mp (List.all_eq_true.mp hsame.2 rule hrule)
    · rename_i new ho hnew
      refine ⟨new, hnew, ?_, hwinner h⟩
      intro o' ho'
      rw [ho] at ho'
      cases ho'

theorem live_reconfigure {config : GatewayConfig} {next : Credentials} {runtime : Runtime}
    {sid : String} {session : SessionInfo}
    (h : (runtime.reconfigure config next).LiveSession sid session) :
    runtime.LiveSession sid session ∧ Survives config next runtime session := by
  obtain ⟨hlookup, hlive⟩ := h
  simp only [Runtime.reconfigure, HashMap.lookup_mapValues, Option.map_eq_some_iff] at hlookup
  obtain ⟨old, hold, hcancel⟩ := hlookup
  unfold Runtime.cancel at hcancel
  split at hcancel
  · rename_i hsignal
    subst hcancel
    have hnone : reloadError (runtime.gatewayChanged config) runtime.credentials next
        (runtime.winners (runtime.gatewayChanged config) next) old = none := hlive
    rw [hnone, ← hsignal]
    obtain ⟨hchanged, new, hnew, hrules, hwinner⟩ := reloadError_none hnone
    rw [hchanged] at hwinner
    refine ⟨⟨hold, hsignal⟩, ?_, ⟨new, hnew, hrules⟩, hwinner⟩
    simpa [Runtime.gatewayChanged] using hchanged
  · rename_i hsignal
    subst hcancel
    exact absurd hlive hsignal

theorem mem_retired_reconfigure {config : GatewayConfig} {next : Credentials} {runtime : Runtime}
    (hg : runtime.config.auth.accessToken = config.auth.accessToken) {key : String × String}
    (h : key ∈ (runtime.reconfigure config next).retired) :
    key ∈ runtime.retired ∨
      ∃ w, (runtime.winners false next).lookup key.1 = some w ∧ key.2 ≠ w.2 := by
  have hchanged : runtime.gatewayChanged config = false := by simp [Runtime.gatewayChanged, hg]
  simp only [Runtime.reconfigure, hchanged, Bool.false_eq_true, if_false, Finset.mem_union,
    Runtime.losers, List.mem_toFinset, List.mem_filter, Option.any_eq_true, decide_eq_true_eq] at h
  rcases h with h | ⟨_, w, hw, hne⟩
  · exact .inl h
  · exact .inr ⟨w, hw, hne⟩

/-- A live session of a credential that the next table makes single-access has a
winner to agree with. -/
theorem winner_exists {next : Credentials} {runtime : Runtime} {sid : String} {session : SessionInfo}
    (h : runtime.LiveSession sid session) {credential : Credential}
    (hc : next.lookup session.credential = some credential) (hs : credential.single = true) :
    ∃ w, (runtime.winners false next).lookup session.credential = some w := by
  apply Option.isSome_iff_exists.mp
  apply foldl_recordWinner
  refine .inr ⟨session, (HashMap.mem_values _ _).mpr ⟨sid, h.1⟩, h.2, rfl, ?_⟩
  rw [hc]
  exact hs

end WsNet.Gateway
