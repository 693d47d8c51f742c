import WsNet.Gateway.Takeover

/-! Takeover is one-way.

The sessions that a takeover cancels are found in the session map, the instances
that it retires in the orders. The two agree because every live session's instance
has an order: a registration gives it one, and orders are only forgotten when the
gateway token changes, which cancels every session. So an instance whose session
is replaced is retired, and stays so until the gateway token changes. -/
namespace WsNet.Gateway
open Data Transition

theorem replaced_ne_changed : GatewayError.replaced ≠ GatewayError.changed := by decide

/-! ### Orders -/

/-- The instance of every live session has an order. -/
def Ordered (runtime : Runtime) : Prop :=
  ∀ sid session, runtime.LiveSession sid session →
    (session.credential, session.instanceId) ∈ runtime.orders

theorem mem_orders_enroll (sessionId id instanceId : String) (runtime : Runtime)
    {key : String × String} (h : key = (id, instanceId) ∨ key ∈ runtime.orders) :
    key ∈ (runtime.enroll sessionId id instanceId).orders := by
  unfold Runtime.enroll Runtime.assignOrder
  cases hl : runtime.orders.lookup (id, instanceId) with
  | some order =>
    rcases h with rfl | h
    · exact AList.lookup_isSome.mp (by rw [hl]; rfl)
    · exact h
  | none => exact (AList.mem_insert _).mpr h

section Registration
variable [Ring]

theorem mem_orders_registered (sessionId instanceId token : String) (credential : Credential)
    (runtime : Runtime) {key : String × String}
    (h : key = (credentialId token, instanceId) ∨ key ∈ runtime.orders) :
    key ∈ (registered sessionId instanceId token credential runtime).orders := by
  unfold registered
  apply mem_orders_enroll
  split
  · exact h
  · exact h

/-- A takeover retires every other instance of the credential that has an order. -/
theorem mem_retired_takeover {sessionId instanceId token : String} {credential : Credential}
    {runtime : Runtime} (hsingle : credential.single = true) {other : String}
    (hne : other ≠ instanceId) (h : (credentialId token, other) ∈ runtime.orders) :
    (credentialId token, other) ∈
      (registered sessionId instanceId token credential runtime).retired := by
  obtain ⟨_, _, hr, _⟩ := enroll_spec sessionId (credentialId token) instanceId
    (runtime.takeover (credentialId token) instanceId)
  rw [registered, if_pos hsingle, hr]
  apply Finset.mem_union_right
  simp only [List.mem_toFinset, List.mem_filter, decide_eq_true_eq, true_and]
  exact ⟨h, hne⟩

theorem retired_subset_registered (sessionId instanceId token : String) (credential : Credential)
    (runtime : Runtime) :
    runtime.retired ⊆ (registered sessionId instanceId token credential runtime).retired := by
  unfold registered
  split
  · obtain ⟨_, _, hr, _⟩ := enroll_spec sessionId (credentialId token) instanceId
      (runtime.takeover (credentialId token) instanceId)
    rw [hr]
    exact Finset.subset_union_left
  · obtain ⟨_, _, hr, _⟩ := enroll_spec sessionId (credentialId token) instanceId runtime
    rw [hr]

/-- A retired instance is refused. -/
theorem register_retired {sessionId gatewayToken instanceId token : String}
    {userToken : Option String} {legacy : Bool} {runtime : Runtime}
    (h : (credentialId token, instanceId) ∈ runtime.retired)
    (htoken : AppState.submittedToken runtime.config.auth gatewayToken userToken = .ok token) :
    ∃ error, AppState.register sessionId gatewayToken userToken instanceId legacy runtime =
      .error error := by
  cases hr : AppState.register sessionId gatewayToken userToken instanceId legacy runtime with
  | error error => exact ⟨error, rfl⟩
  | ok done =>
    obtain ⟨next, lease, name⟩ := done
    obtain ⟨token', credential, ha, _⟩ := register_ok hr
    have hsame : token' = token :=
      Except.ok.inj ((submittedToken_ok.mpr ha.submitted).symm.trans htoken)
    exact absurd (hsame ▸ h) ha.active

end Registration

section Invariant
variable [NetLiterals] [Ring]

theorem ordered_step {op : Op} {runtime next : Runtime} (h : Ordered runtime)
    (hs : applyOp op runtime = some next) : Ordered next := by
  rcases applyOp_cases hs with rfl | ⟨_, _, _, instanceId, _, token, credential, _, _, _, rfl⟩ |
    ⟨config, table, _, _, rfl⟩ | ⟨dropped, _, rfl⟩
  · exact h
  · intro sid session hl
    apply mem_orders_registered
    rcases live_registered hl with ⟨_, hc, hi⟩ | ⟨_, hold, _⟩
    · rw [hc, hi]
      exact .inl rfl
    · exact .inr (h sid session hold)
  · intro sid session hl
    obtain ⟨hold, hsurvives⟩ := live_reconfigure hl
    have hsame : runtime.gatewayChanged config = false := by
      simp [Runtime.gatewayChanged, hsurvives.gateway]
    simp only [Runtime.reconfigure, hsame, Bool.false_eq_true, if_false]
    exact h sid session hold
  · exact fun sid session hl => h sid session ⟨(HashMap.lookup_erase_some hl.1).2, hl.2⟩

theorem ordered_reachable {runtime : Runtime} (h : registry.Reachable runtime) : Ordered runtime := by
  apply Machine.ReachableUnder.invariant _ _ h
  · intro runtime hstart sid session hl
    obtain ⟨config, hnew⟩ := hstart
    obtain ⟨table, _, hnew⟩ := bind_eq_ok.mp hnew
    cases pure_eq_ok.mp hnew
    have hl := hl.1
    simp at hl
  · exact fun _ _ _ _ ho _ hs => ordered_step ho hs

end Invariant

/-! ### Winners -/

/-- What is recorded was recorded before, or is the order and the instance of a
session that competes. -/
theorem recordWinner_some {next : Credentials} {winners : Winners} {session : SessionInfo}
    {id : String} {w : Nat × String}
    (h : (recordWinner next winners session).lookup id = some w) :
    winners.lookup id = some w ∨ (session.signal = none ∧
      ((next.lookup session.credential).any (·.single)) = true ∧ session.credential = id ∧
      w = (session.order, session.instanceId)) := by
  unfold recordWinner at h
  split at h
  · rename_i hcompetes
    have hinsert : (winners.insert session.credential (session.order, session.instanceId)).lookup id =
        some w → winners.lookup id = some w ∨ (session.signal = none ∧
          ((next.lookup session.credential).any (·.single)) = true ∧ session.credential = id ∧
          w = (session.order, session.instanceId)) := by
      intro hlookup
      rcases HashMap.lookup_insert_some hlookup with ⟨rfl, rfl⟩ | ⟨_, hold⟩
      · exact .inr ⟨hcompetes.1, hcompetes.2, rfl, rfl⟩
      · exact .inl hold
    split at h
    · exact hinsert h
    · split at h
      · exact hinsert h
      · exact .inl h
  · exact .inl h

theorem foldl_recordWinner_some {next : Credentials} {sessions : List SessionInfo}
    {winners : Winners} {id : String} {w : Nat × String}
    (h : (sessions.foldl (recordWinner next) winners).lookup id = some w) :
    winners.lookup id = some w ∨ ∃ session ∈ sessions, session.signal = none ∧
      ((next.lookup session.credential).any (·.single)) = true ∧ session.credential = id ∧
      w = (session.order, session.instanceId) := by
  induction sessions generalizing winners with
  | nil => exact .inl h
  | cons first rest ih =>
    rcases ih h with hold | ⟨session, hmem, hcompetes⟩
    · rcases recordWinner_some hold with hold | hfirst
      · exact .inl hold
      · exact .inr ⟨first, List.mem_cons_self, hfirst⟩
    · exact .inr ⟨session, List.mem_cons_of_mem _ hmem, hcompetes⟩

/-- Every winner is a live session's instance, of a credential that the next table
makes single-access. -/
theorem winner_live {next : Credentials} {runtime : Runtime} {changed : Bool} {id : String}
    {w : Nat × String} (h : (runtime.winners changed next).lookup id = some w) :
    ((next.lookup id).any (·.single)) = true ∧
    ∃ sid session, runtime.LiveSession sid session ∧ session.credential = id ∧
      session.instanceId = w.2 := by
  unfold Runtime.winners at h
  split at h
  · simp at h
  · rcases foldl_recordWinner_some h with hnone | ⟨session, hmem, hsignal, hsingle, rfl, rfl⟩
    · simp at hnone
    · obtain ⟨sid, hsid⟩ := (HashMap.mem_values _ _).mp hmem
      exact ⟨hsingle, sid, session, ⟨hsid, hsignal⟩, rfl, rfl⟩

/-- A reload that replaces a session has another instance for winner, and would not
cancel a session of the winner. -/
theorem reloadError_replaced {changed : Bool} {old next : Credentials} {winners : Winners}
    {session : SessionInfo}
    (h : reloadError changed old next winners session = some .replaced) :
    changed = false ∧ ∃ w, winners.lookup session.credential = some w ∧
      w.2 ≠ session.instanceId ∧
      ∀ other, other.credential = session.credential → other.instanceId = w.2 →
        reloadError changed old next winners other = none := by
  have hwinner : ∀ o : Option (Nat × String),
      (if o.any (·.2 ≠ session.instanceId) then some GatewayError.replaced else none) =
        some .replaced → ∃ w, o = some w ∧ w.2 ≠ session.instanceId := by
    intro o hsome
    cases o with
    | none => cases hsome
    | some w =>
      refine ⟨w, rfl, fun heq => ?_⟩
      simp [heq] at hsome
  have hown : ∀ {o : Option (Nat × String)} {w : Nat × String} {other : SessionInfo}, o = some w →
      other.instanceId = w.2 →
      (if o.any (·.2 ≠ other.instanceId) then some GatewayError.replaced else none) = none := by
    intro o w other ho hi
    simp [ho, hi]
  unfold reloadError at h ⊢
  cases changed with
  | true => exact absurd (Option.some.inj h).symm replaced_ne_changed
  | false =>
    refine ⟨rfl, ?_⟩
    simp only [Bool.false_eq_true, if_false] at h ⊢
    split at h
    · exact absurd (Option.some.inj h).symm replaced_ne_changed
    · rename_i o new ho hnew
      split at h
      · exact absurd (Option.some.inj h).symm replaced_ne_changed
      · rename_i hsame
        obtain ⟨w, hw, hne⟩ := hwinner _ h
        refine ⟨w, hw, hne, fun other hc hi => ?_⟩
        rw [hc, ho, hnew]
        simp only [if_neg hsame]
        exact hown hw hi
    · rename_i new ho hnew
      obtain ⟨w, hw, hne⟩ := hwinner _ h
      refine ⟨w, hw, hne, fun other hc hi => ?_⟩
      rw [hc, ho, hnew]
      exact hown hw hi

theorem cancel_none (session : SessionInfo) : Runtime.cancel none session = session := by
  unfold Runtime.cancel
  split
  · rename_i hunset
    cases session
    cases hunset
    rfl
  · rfl

/-! ### Takeovers -/

/-- In this step a session of one instance is replaced while another instance holds
the credential. -/
def TakesOver (id winner loser : String) (runtime next : Runtime) : Prop :=
  winner ≠ loser ∧
    (∃ sid session, runtime.LiveSession sid session ∧ session.credential = id ∧
      session.instanceId = loser ∧ next.signal sid = some .replaced) ∧
    ∃ sid session, next.LiveSession sid session ∧ session.credential = id ∧
      session.instanceId = winner

section Takeover
variable [NetLiterals] [Ring]

/-- The step keeps the gateway token. -/
def KeepsGatewayToken (op : Op) (runtime : Runtime) : Prop :=
  ∀ next, applyOp op runtime = some next →
    next.config.auth.accessToken = runtime.config.auth.accessToken

/-- Without a change of the gateway token, what is retired stays retired. -/
theorem retired_subset_step {op : Op} {runtime next : Runtime} (hr : KeepsGatewayToken op runtime)
    (hs : applyOp op runtime = some next) : runtime.retired ⊆ next.retired := by
  have htoken := hr next hs
  rcases applyOp_cases hs with rfl | ⟨sessionId, _, _, instanceId, _, token, credential, _, _, _, rfl⟩ |
    ⟨config, table, _, _, rfl⟩ | ⟨dropped, _, rfl⟩
  · exact Finset.Subset.refl _
  · exact retired_subset_registered sessionId instanceId token credential runtime
  · have hsame : runtime.gatewayChanged config = false := by
      simpa [Runtime.gatewayChanged, Runtime.reconfigure] using htoken.symm
    simp only [Runtime.reconfigure, hsame, Bool.false_eq_true, if_false]
    exact Finset.subset_union_left
  · exact Finset.Subset.refl _

/-- A live session that a step replaces loses its credential to an instance that is
live after the step, and its own instance is retired. The gateway token stays. -/
theorem replaced_step {op : Op} {runtime next : Runtime} (hordered : Ordered runtime)
    (hs : applyOp op runtime = some next) {sid : String} {session : SessionInfo}
    (hlive : runtime.LiveSession sid session) (hreplaced : next.signal sid = some .replaced) :
    next.config.auth.accessToken = runtime.config.auth.accessToken ∧
    (session.credential, session.instanceId) ∈ next.retired ∧
    ∃ winner, TakesOver session.credential winner session.instanceId runtime next := by
  have hlookup := hlive.1
  have hunset : session.signal = none := hlive.2
  obtain ⟨session', hlookup', hsignal⟩ := Option.bind_eq_some_iff.mp hreplaced
  rcases applyOp_cases hs with rfl |
    ⟨sessionId, gatewayToken, _, instanceId, _, token, credential, _, hfresh, _, rfl⟩ |
    ⟨config, table, _, _, rfl⟩ | ⟨dropped, _, rfl⟩
  · rw [hlookup] at hlookup'
    cases hlookup'
    rw [hunset] at hsignal
    cases hsignal
  · have hne : sid ≠ sessionId := by
      intro heq
      rw [heq, hfresh] at hlookup
      cases hlookup
    rw [registered_lookup hne, hlookup, Option.map_some] at hlookup'
    cases hlookup'
    unfold displace at hsignal
    split at hsignal
    · rename_i hdisplaced
      obtain ⟨hsingle, hc, hi⟩ := hdisplaced
      obtain ⟨order, hself⟩ := registered_self sessionId instanceId token credential runtime
      have hkey := hordered sid session ⟨hlookup, hunset⟩
      rw [hc] at hkey ⊢
      refine ⟨by rw [(registered_credentials _ _ _ _ _).2], mem_retired_takeover hsingle hi hkey,
        instanceId, fun heq => hi heq.symm, ?_, sessionId, _, ⟨hself, rfl⟩, rfl, rfl⟩
      exact ⟨sid, session, ⟨hlookup, hunset⟩, hc, rfl, hreplaced⟩
    · rw [hunset] at hsignal
      cases hsignal
  · simp only [Runtime.reconfigure, HashMap.lookup_mapValues, hlookup, Option.map_some] at hlookup'
    cases hlookup'
    rw [Runtime.cancel, if_pos hunset] at hsignal
    obtain ⟨hchanged, w, hw, hne, hkept⟩ := reloadError_replaced hsignal
    have hsame : runtime.config.auth.accessToken = config.auth.accessToken := by
      simpa [Runtime.gatewayChanged] using hchanged
    obtain ⟨_, sid', other, hother, hc, hi⟩ := winner_live hw
    refine ⟨hsame.symm, ?_, w.2, hne, ⟨sid, session, ⟨hlookup, hunset⟩, rfl, rfl, hreplaced⟩, sid',
      other, ⟨?_, hother.2⟩, hc, hi⟩
    · simp only [Runtime.reconfigure, hchanged, Bool.false_eq_true, if_false, Finset.mem_union]
      rw [hchanged] at hw
      right
      simp only [Runtime.losers, List.mem_toFinset, List.mem_filter, hw]
      exact ⟨hordered sid session ⟨hlookup, hunset⟩, by simpa using fun h => hne h.symm⟩
    · -- the winner's session is not cancelled
      simp only [Runtime.reconfigure, HashMap.lookup_mapValues, hother.1, Option.map_some,
        hkept other hc hi, cancel_none]
  · obtain ⟨_, hlookup'⟩ := HashMap.lookup_erase_some hlookup'
    rw [hlookup] at hlookup'
    cases hlookup'
    rw [hunset] at hsignal
    cases hsignal

/-- **Takeover is one-way.** A step that replaces a live session hands its credential
to another instance; from then on, until the gateway token changes, the session's
instance is retired, every registration of it fails, and it never takes the
credential back. -/
theorem takeover_one_way {op : Op} {runtime next : Runtime} (h : registry.Reachable runtime)
    (hs : applyOp op runtime = some next) {sid : String} {session : SessionInfo}
    (hlive : runtime.LiveSession sid session) (hreplaced : next.signal sid = some .replaced) :
    (∃ winner, TakesOver session.credential winner session.instanceId runtime next) ∧
    ∀ later, registry.StepsUnder KeepsGatewayToken next later →
      (session.credential, session.instanceId) ∈ later.retired ∧
      (∀ sessionId gatewayToken userToken legacy token,
        AppState.submittedToken later.config.auth gatewayToken userToken = .ok token →
        credentialId token = session.credential →
        ∃ error, AppState.register sessionId gatewayToken userToken session.instanceId legacy later =
          .error error) ∧
      ∀ op' last loser, applyOp op' later = some last →
        ¬ TakesOver session.credential session.instanceId loser later last := by
  obtain ⟨_, hretired, hwinner⟩ := replaced_step (ordered_reachable h) hs hlive hreplaced
  refine ⟨hwinner, fun later hrun => ?_⟩
  have hnext : registry.Reachable next := h.next trivial hs
  have hstays : ∀ later, registry.StepsUnder KeepsGatewayToken next later →
      (session.credential, session.instanceId) ∈ later.retired := by
    intro later hrun
    exact hrun.preserves (fun _ _ _ hmem hr hstep => retired_subset_step hr hstep hmem) hretired
  refine ⟨hstays later hrun, ?_, ?_⟩
  · intro sessionId gatewayToken userToken legacy token htoken hid
    exact register_retired (hid ▸ hstays later hrun) htoken
  · intro op' last loser hstep htakes
    obtain ⟨_, ⟨sid', other, hother, _, _, hsignal⟩, sid'', back, hback, hc, hi⟩ := htakes
    -- the instance would be live after the step, but it is retired
    have hlater : registry.Reachable later := hnext.steps (hrun.mono fun _ _ _ => trivial)
    have hlast := (consistent_reachable (hlater.next trivial hstep)).active sid'' back hback
    have hkeeps : KeepsGatewayToken op' later := by
      intro last' hlast'
      rw [hstep] at hlast'
      cases hlast'
      exact (replaced_step (ordered_reachable hlater) hstep hother hsignal).1
    rw [hc, hi] at hlast
    exact hlast (hstays last (.tail hrun hkeeps hstep))

end Takeover

/-! ### A takeover, then single access switched off -/

section Example

local instance retirementLiterals : NetLiterals := .dottedQuad
local instance retirementRing : Ring := .free

def holdsA : Runtime :=
  (registry.run [.register "s1" "shared" (some "user") instanceA false] singleStart).getD singleStart

def takeOp : Op := .register "s2" "shared" (some "user") instanceB false

def holdsB : Runtime := (applyOp takeOp holdsA).getD holdsA

def sharedAccess : Op :=
  .reload { singleConfig with auth := { singleConfig.auth with singleAccess := false } }

def sharedByAll : Runtime := (applyOp sharedAccess holdsB).getD holdsB

theorem holdsA_ends :
    (registry.run [.register "s1" "shared" (some "user") instanceA false] singleStart).isSome = true ∧
      holdsA.LiveSession "s1" ⟨credentialId "user", instanceA, 1, none⟩ ∧
      (applyOp takeOp holdsA).isSome = true ∧ holdsB.signal "s1" = some .replaced ∧
      (applyOp sharedAccess holdsB).isSome = true ∧
      sharedByAll.config.auth.accessToken = holdsB.config.auth.accessToken := by
  unfold Runtime.LiveSession
  decide +kernel

theorem takeover_one_way_sharedByAll :
    (credentialId "user", instanceA) ∈ sharedByAll.retired ∧
      ∃ error, AppState.register "s3" "shared" (some "user") instanceA false sharedByAll =
        .error error := by
  obtain ⟨hrun, hlive, htake, hcanceled, hshare, htoken⟩ := holdsA_ends
  have hreach : registry.Reachable holdsA := Machine.reachable_getD singleStart_initial hrun
  have hstep : applyOp takeOp holdsA = some holdsB := applyOp_getD htake
  have hlater : applyOp sharedAccess holdsB = some sharedByAll := applyOp_getD hshare
  have hkeeps : KeepsGatewayToken sharedAccess holdsB := by
    intro next hnext
    rw [hlater] at hnext
    rw [← Option.some.inj hnext]
    exact htoken
  obtain ⟨_, hall⟩ := takeover_one_way hreach hstep hlive hcanceled
  obtain ⟨hretired, hrefused, _⟩ := hall sharedByAll (.tail (.refl holdsB) hkeeps hlater)
  exact ⟨hretired, hrefused "s3" "shared" (some "user") false "user" (by rfl) (by rfl)⟩

end Example

end WsNet.Gateway
