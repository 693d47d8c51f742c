import WsNet.Gateway.Takeover

/-! The reason a session is cancelled with.

A cancelled session stays in the map until its last lease is dropped, so later
registrations and reloads meet it again. A reload sets only a signal that is
unset. A takeover sets the signal of every session that it displaces, cancelled
or not, and so replaces the reason that was there. -/
namespace WsNet.Gateway
open Data Transition

/-- The operation takes the credential over from the instance of this session. -/
def Displaces [Ring] (op : Op) (runtime : Runtime) (session : SessionInfo) : Prop :=
  ∃ sessionId gatewayToken userToken instanceId legacy token credential,
    op = .register sessionId gatewayToken userToken instanceId legacy ∧
    Accepted gatewayToken userToken instanceId legacy runtime token credential ∧
    credential.single = true ∧ session.credential = credentialId token ∧
    session.instanceId ≠ instanceId

/-- No session that is displaced was cancelled for another reason before. -/
def ReasonKept [Ring] (op : Op) (runtime : Runtime) : Prop :=
  ∀ sid session, runtime.sessions.lookup sid = some session → Displaces op runtime session →
    session.signal = none ∨ session.signal = some .replaced

/-- The errors that are set stay, in the sessions that stay. -/
def KeepsReasons (runtime next : Runtime) : Prop :=
  ∀ sid session session' error, runtime.sessions.lookup sid = some session →
    next.sessions.lookup sid = some session' → session.signal = some error →
    session'.signal = some error

theorem signal_eq_some {runtime : Runtime} {sid : String} {error : GatewayError} :
    runtime.signal sid = some error ↔
      ∃ session, runtime.sessions.lookup sid = some session ∧ session.signal = some error :=
  Option.bind_eq_some_iff

theorem keepsReasons_refl (runtime : Runtime) : KeepsReasons runtime runtime := by
  intro sid session session' error hs hs' herror
  rw [hs] at hs'
  cases hs'
  exact herror

/-- What does not register displaces nothing. -/
theorem reasonKept_of_ne [Ring] {op : Op} {runtime : Runtime}
    (h : ∀ sessionId gatewayToken userToken instanceId legacy,
      op ≠ .register sessionId gatewayToken userToken instanceId legacy) : ReasonKept op runtime := by
  intro sid session _ hdisplaces
  obtain ⟨sessionId, gatewayToken, userToken, instanceId, legacy, _, _, hop, _⟩ := hdisplaces
  exact absurd hop (h sessionId gatewayToken userToken instanceId legacy)

theorem cancel_signal {session : SessionInfo} {error : GatewayError}
    (h : session.signal = some error) (reason : Option GatewayError) :
    (Runtime.cancel reason session).signal = some error := by
  unfold Runtime.cancel
  rw [if_neg (by rw [h]; exact Option.some_ne_none error)]
  exact h

/-- A reload leaves a reason that is set. -/
theorem keepsReasons_reconfigure (config : GatewayConfig) (table : Credentials) (runtime : Runtime) :
    KeepsReasons runtime (runtime.reconfigure config table) := by
  intro sid session session' error hs hs' herror
  simp only [Runtime.reconfigure, HashMap.lookup_mapValues, hs, Option.map_some] at hs'
  cases hs'
  exact cancel_signal herror _

theorem keepsReasons_dropLease (id : String) (runtime : Runtime) :
    KeepsReasons runtime (AppState.dropLease id runtime) := by
  intro sid session session' error hs hs' herror
  obtain ⟨_, hs'⟩ := HashMap.lookup_erase_some hs'
  rw [hs] at hs'
  cases hs'
  exact herror

/-- A registration replaces the reason of the sessions it displaces, no other. -/
theorem keepsReasons_registered [Ring] {sessionId gatewayToken instanceId token : String}
    {userToken : Option String} {legacy : Bool} {runtime : Runtime} {credential : Credential}
    (hfresh : runtime.sessions.lookup sessionId = none)
    (ha : Accepted gatewayToken userToken instanceId legacy runtime token credential) :
    KeepsReasons runtime (registered sessionId instanceId token credential runtime) ↔
      ReasonKept (.register sessionId gatewayToken userToken instanceId legacy) runtime := by
  have hne : ∀ {sid session}, runtime.sessions.lookup sid = some session → sid ≠ sessionId := by
    intro sid session hs heq
    rw [heq, hfresh] at hs
    cases hs
  constructor
  · intro hkeeps sid session hs hdisplaces
    obtain ⟨_, _, _, _, _, token', credential', hop, ha', hsingle, hcredential, hinstance⟩ := hdisplaces
    cases hop
    -- the registration is the one that was accepted
    obtain ⟨rfl, rfl⟩ : token' = token ∧ credential' = credential := ha'.unique ha
    cases hsignal : session.signal with
    | none => exact .inl rfl
    | some error =>
      right
      have hafter := hkeeps sid session _ error hs
        (by rw [registered_lookup (hne hs), hs, Option.map_some]) hsignal
      rw [displace, if_pos ⟨hsingle, hcredential, hinstance⟩] at hafter
      exact hafter.symm
  · intro hkept sid session session' error hs hs' herror
    rw [registered_lookup (hne hs), hs, Option.map_some] at hs'
    cases hs'
    unfold displace
    split
    · rename_i hdisplaced
      rcases hkept sid session hs ⟨_, _, _, _, _, token, credential, rfl, ha, hdisplaced⟩ with hs | hs
      · rw [herror] at hs
        cases hs
      · rw [herror] at hs
        exact hs.symm
    · exact herror

section Runs
variable [NetLiterals] [Ring]

/-- An operation keeps every reason exactly when it displaces no session that was
cancelled for another one. -/
theorem keepsReasons_iff {op : Op} {runtime next : Runtime} (h : applyOp op runtime = some next) :
    KeepsReasons runtime next ↔ ReasonKept op runtime := by
  cases op with
  | register sessionId gatewayToken userToken instanceId legacy =>
    simp only [applyOp] at h
    split at h
    · rename_i hfresh
      split at h
      · rename_i r lease name hr
        cases h
        obtain ⟨token, credential, ha, rfl, _⟩ := register_ok hr
        exact keepsReasons_registered hfresh ha
      · rename_i e hr
        cases h
        -- refused: nothing changes, and nothing is displaced
        refine iff_of_true (keepsReasons_refl runtime) fun sid session _ hdisplaces => ?_
        obtain ⟨_, _, _, _, _, token, credential, hop, ha, _⟩ := hdisplaces
        cases hop
        rw [register_of_accepted sessionId ha] at hr
        cases hr
    · cases h
  | reload config =>
    refine iff_of_true ?_ (reasonKept_of_ne fun _ _ _ _ _ hop => by cases hop)
    rcases applyOp_cases h with rfl | ⟨_, _, _, _, _, _, _, hop, _⟩ | ⟨_, table, _, _, rfl⟩ |
      ⟨_, hop, _⟩
    · exact keepsReasons_refl _
    · cases hop
    · exact keepsReasons_reconfigure _ table runtime
    · cases hop
  | drop sessionId =>
    cases h
    exact iff_of_true (keepsReasons_dropLease sessionId runtime)
      (reasonKept_of_ne fun _ _ _ _ _ hop => by cases hop)

/-- Only a drop takes a session out of the map. -/
theorem lookup_isSome_step {op : Op} {runtime next : Runtime} (h : applyOp op runtime = some next)
    {sid : String} (hop : op ≠ .drop sid) (hs : (runtime.sessions.lookup sid).isSome = true) :
    (next.sessions.lookup sid).isSome = true := by
  rcases applyOp_cases h with rfl | ⟨sessionId, _, _, instanceId, _, token, credential, _, _, _, rfl⟩ |
    ⟨_, _, _, _, rfl⟩ | ⟨dropped, rfl, rfl⟩
  · exact hs
  · by_cases hne : sid = sessionId
    · obtain ⟨order, hself⟩ := registered_self sessionId instanceId token credential runtime
      rw [hne, hself]
      rfl
    · rw [registered_lookup hne, Option.isSome_map]
      exact hs
  · simp only [Runtime.reconfigure, HashMap.lookup_mapValues, Option.isSome_map]
    exact hs
  · have hne : sid ≠ dropped := fun heq => hop (by rw [heq])
    simp only [AppState.dropLease, AList.lookup_erase_ne hne]
    exact hs

/-- **The first reason wins, up to a takeover.** An operation keeps every error that
is set, in the sessions that stay in the map, exactly when it displaces no session
that was cancelled for another reason; and over a run of such operations a
session's reason stays for as long as its lease is not dropped. -/
theorem first_reason_wins (runtime : Runtime) :
    (∀ op next, applyOp op runtime = some next →
      (KeepsReasons runtime next ↔ ReasonKept op runtime)) ∧
    (∀ sid error later, runtime.signal sid = some error →
      registry.StepsUnder (fun op r => ReasonKept op r ∧ op ≠ .drop sid) runtime later →
      later.signal sid = some error) := by
  refine ⟨fun op next h => keepsReasons_iff h, fun sid error later hsignal hrun => ?_⟩
  apply hrun.preserves _ hsignal
  intro op r next hr hrule hstep
  obtain ⟨session, hs, herror⟩ := signal_eq_some.mp hr
  obtain ⟨session', hs'⟩ := Option.isSome_iff_exists.mp
    (lookup_isSome_step hstep hrule.2 (by rw [hs]; rfl))
  exact signal_eq_some.mpr ⟨session', hs',
    (keepsReasons_iff hstep).mpr hrule.1 sid session session' error hs hs' herror⟩

end Runs

/-! ### A reason replaced -/

section Example

local instance reasonLiterals : NetLiterals := .dottedQuad
local instance reasonRing : Ring := .free

/-- The user's rules taken away. -/
def narrowedConfig : GatewayConfig := { singleConfig with users := [⟨"lisi", "user", none, []⟩] }

def narrowedOps : List Op :=
  [.register "s1" "shared" (some "user") instanceA false, .reload narrowedConfig]

/-- A session cancelled because its rules were narrowed. -/
def narrowed : Runtime := (registry.run narrowedOps singleStart).getD singleStart

/-- The rules given back. -/
def restored : Runtime := (applyOp (.reload singleConfig) narrowed).getD narrowed

/-- Another instance of the user. -/
def displacing : Op := .register "s2" "shared" (some "user") instanceB false

def displaced : Runtime := (applyOp displacing narrowed).getD narrowed

theorem narrowed_ends : (registry.run narrowedOps singleStart).isSome = true ∧
    narrowed.sessions.lookup "s1" = some ⟨credentialId "user", instanceA, 1, some .changed⟩ ∧
    (applyOp (.reload singleConfig) narrowed).isSome = true ∧
    (applyOp displacing narrowed).isSome = true ∧
    displaced.sessions.lookup "s1" = some ⟨credentialId "user", instanceA, 1, some .replaced⟩ := by
  decide +kernel

theorem first_reason_wins_narrowed :
    KeepsReasons narrowed restored ∧ restored.signal "s1" = some .changed := by
  have hkept : ReasonKept (.reload singleConfig) narrowed :=
    reasonKept_of_ne fun _ _ _ _ _ hop => by cases hop
  obtain ⟨_, hsession, hback, _⟩ := narrowed_ends
  have hrestored : applyOp (.reload singleConfig) narrowed = some restored := applyOp_getD hback
  obtain ⟨hstep, hrun⟩ := first_reason_wins narrowed
  refine ⟨(hstep _ _ hrestored).mpr hkept, hrun "s1" .changed _ (signal_eq_some.mpr ⟨_, hsession, rfl⟩) ?_⟩
  exact .tail (.refl narrowed) ⟨hkept, fun hop => by cases hop⟩ hrestored

theorem reason_replaced :
    registry.Reachable narrowed ∧ applyOp displacing narrowed = some displaced ∧
      narrowed.signal "s1" = some .changed ∧ displaced.signal "s1" = some .replaced ∧
      ¬ KeepsReasons narrowed displaced := by
  obtain ⟨hrun, hbefore, _, hdisplaced, hafter⟩ := narrowed_ends
  refine ⟨Machine.reachable_getD singleStart_initial hrun, applyOp_getD hdisplaced,
    signal_eq_some.mpr ⟨_, hbefore, rfl⟩, signal_eq_some.mpr ⟨_, hafter, rfl⟩, ?_⟩
  intro hkeeps
  have hsame := hkeeps "s1" _ _ .changed hbefore hafter rfl
  exact absurd hsame (by decide)

end Example

end WsNet.Gateway
