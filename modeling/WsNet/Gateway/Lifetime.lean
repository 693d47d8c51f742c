import WsNet.Gateway.IterationOrder
import WsNet.Gateway.Reload

/-! How long a session lives.

A session ends with its lease, when its credential is taken over, or at a reload: when
the gateway's token changes, its credential leaves the table (the user is removed or given
a new token, or users are switched on or off), its user is renamed or loses an address, or
its credential is single-access from then on and a live session of it belongs to an instance
whose first registration is later. The order is the instance's and not the session's: an
instance that comes back keeps the place of its first registration. `Ends` says so in an
operator's terms; it is exactly what the registry does, operation by operation
(`live_iff_not_ends`), and so over whole runs (`session_lifetime`). -/
namespace WsNet.Gateway
open Data Transition

/-! ### What ends a session -/

section Ends
variable [NetLiterals] [Ring]

/-- A reload takes from a session what it was registered with. -/
inductive Disowned (config : GatewayConfig) (table : Credentials) (runtime : Runtime)
    (session : SessionInfo) : Prop
  | token (changed : runtime.config.auth.accessToken ≠ config.auth.accessToken)
  /-- The user is removed or has a new token, or users are switched on or off. -/
  | removed (gone : table.lookup session.credential = none)
  | renamed {old new : Credential} (before : runtime.credentials.lookup session.credential = some old)
      (after : table.lookup session.credential = some new) (changed : old.name ≠ new.name)
  | narrowed {old new : Credential} (before : runtime.credentials.lookup session.credential = some old)
      (after : table.lookup session.credential = some new) (address : SocketAddr)
      (had : AccessRule.Reaches old.rules address) (lost : ¬ AccessRule.Reaches new.rules address)

/-- The credential is single-access from now on, and a live session of it belongs to an
instance whose first registration is later. -/
structure Outranked (table : Credentials) (runtime : Runtime) (session : SessionInfo) : Prop where
  single : ∃ new, table.lookup session.credential = some new ∧ new.single = true
  later : ∃ sid rival, runtime.LiveSession sid rival ∧ rival.credential = session.credential ∧
    session.order < rival.order

/-- The operation ends the live session, with an error or with its lease. -/
inductive Ends (runtime : Runtime) (sid : String) (session : SessionInfo) :
    Op → Option GatewayError → Prop
  | dropped : Ends runtime sid session (.drop sid) none
  | takenOver {sessionId gatewayToken instanceId token : String} {userToken : Option String} {legacy : Bool}
      {credential : Credential}
      (accepted : Accepted gatewayToken userToken instanceId legacy runtime token credential)
      (single : credential.single = true) (same : session.credential = credentialId token)
      (other : session.instanceId ≠ instanceId) :
      Ends runtime sid session (.register sessionId gatewayToken userToken instanceId legacy)
        (some .replaced)
  | disowned {config : GatewayConfig} {table : Credentials} (valid : credentials config = .ok table)
      (unmoved : runtime.config.gateway = config.gateway) (disowned : Disowned config table runtime session) :
      Ends runtime sid session (.reload config) (some .changed)
  | outranked {config : GatewayConfig} {table : Credentials} (valid : credentials config = .ok table)
      (unmoved : runtime.config.gateway = config.gateway)
      (owned : ¬ Disowned config table runtime session) (outranked : Outranked table runtime session) :
      Ends runtime sid session (.reload config) (some .replaced)

/-- A session identifier that the operation draws. -/
def Op.draws : Op → Option String
  | .register sessionId _ _ _ _ => some sessionId
  | _ => none

/-- The users have fewer than 2^32 rules each, so that rules can be compared by what
they allow. -/
def Op.FewRules (op : Op) : Prop :=
  ∀ config, op = .reload config → ∀ user ∈ config.users, user.allow.length < 2 ^ 32

end Ends

/-! ### The rules of a table -/

theorem length_of_mapM_ok {ε α β : Type} {f : α → Except ε β} {l : List α} {l' : List β}
    (h : l.mapM f = .ok l') : l'.length = l.length := by
  induction l generalizing l' with
  | nil =>
    rw [← pure_eq_ok.mp h]
    rfl
  | cons a rest ih =>
    rw [List.mapM_cons] at h
    obtain ⟨first, _, h⟩ := bind_eq_ok.mp h
    obtain ⟨others, hothers, h⟩ := bind_eq_ok.mp h
    rw [← pure_eq_ok.mp h, List.length_cons, ih hothers, List.length_cons]

/-- Every credential's rules name ports from 1 on, and are few if the users' are. -/
theorem credentials_rules [NetLiterals] [Ring] {config : GatewayConfig} {table : Credentials}
    (h : credentials config = .ok table) (hfew : ∀ user ∈ config.users, user.allow.length < 2 ^ 32)
    {id : String} {c : Credential} (hc : table.lookup id = some c) :
    AccessRule.NamesPorts c.rules ∧ c.rules.length < 2 ^ 32 := by
  by_cases he : config.auth.enabled = true
  · obtain ⟨user, hu, hid, _⟩ := credentials_mem h he hc
    obtain ⟨rules, hrules, hlookup⟩ := credentials_user h he hu
    rw [← hid, hc] at hlookup
    cases hlookup
    refine ⟨GatewayUser.rules_namesPorts hrules, ?_⟩
    rw [length_of_mapM_ok hrules]
    exact hfew user hu
  · obtain ⟨_, hshared⟩ := credentials_shared h he hc
    rw [hshared]
    exact ⟨fun ip port hmem => by simp [sharedCredential] at hmem, by simp [sharedCredential]⟩

/-! ### A reload -/

section Winner
variable {table : Credentials} {runtime : Runtime} {sid : String} {session : SessionInfo}

/-- The winner is a live session's instance, with its order. -/
theorem winner_order {id : String} {w : Nat × String}
    (hw : (runtime.winners false table).lookup id = some w) :
    ∃ sid rival, runtime.LiveSession sid rival ∧ rival.credential = id ∧
      w = (rival.order, rival.instanceId) ∧ ∃ new, table.lookup id = some new ∧ new.single = true := by
  rcases foldl_recordWinner_some hw with hnone | ⟨rival, hmem, hlive, hsingle, hid, hw⟩
  · simp at hnone
  · obtain ⟨sid, hlookup⟩ := (HashMap.mem_values _ _).mp hmem
    rw [hid] at hsingle
    rw [Option.any_eq_true] at hsingle
    exact ⟨sid, rival, ⟨hlookup, hlive⟩, hid, hw, hsingle⟩

/-- No live session of the credential has a later place than the winner. -/
theorem winner_latest (h : runtime.LiveSession sid session) {new : Credential}
    (hnew : table.lookup session.credential = some new) (hsingle : new.single = true) :
    ∃ w, (runtime.winners false table).lookup session.credential = some w ∧ session.order ≤ w.1 := by
  have hcompetes : Competes table session := by
    refine ⟨h.2, ?_⟩
    rw [hnew]
    exact hsingle
  have hmem : session ∈ HashMap.values runtime.sessions := (HashMap.mem_values _ _).mpr ⟨sid, h.1⟩
  exact foldl_recordWinner_grows (.inr ⟨session, hmem, hcompetes, rfl, Nat.le_refl _⟩)

/-- A session loses to the winner exactly when it is outranked. -/
theorem outranked_iff (hn : Numbered runtime) (h : runtime.LiveSession sid session) :
    ((runtime.winners false table).lookup session.credential).any (·.2 ≠ session.instanceId) = true ↔
      Outranked table runtime session := by
  rw [Option.any_eq_true]
  constructor
  · rintro ⟨w, hw, hother⟩
    have hother : w.2 ≠ session.instanceId := of_decide_eq_true hother
    obtain ⟨sid', rival, hrival, hcredential, rfl, new, hnew, hsingle⟩ := winner_order hw
    obtain ⟨w', hw', hle⟩ := winner_latest h hnew hsingle
    rw [hw] at hw'
    cases hw'
    have horder : session.order ≠ rival.order := fun heq => hother (hn.instance_eq h hrival heq).symm
    exact ⟨⟨new, hnew, hsingle⟩, sid', rival, hrival, hcredential, lt_of_le_of_ne hle horder⟩
  · rintro ⟨⟨new, hnew, hsingle⟩, sid', rival, hrival, hcredential, hlater⟩
    obtain ⟨w, hw, hle⟩ := winner_latest hrival (by rw [hcredential]; exact hnew) hsingle
    rw [hcredential] at hw
    refine ⟨w, hw, decide_eq_true fun hsame => ?_⟩
    obtain ⟨sid'', first, hfirst, hcred, rfl, _⟩ := winner_order hw
    -- one instance has one order
    have horder := hn.order sid'' first hfirst
    have hsame : first.instanceId = session.instanceId := hsame
    rw [hcred, hsame, hn.order sid session h] at horder
    have horder : session.order = first.order := Option.some.inj horder
    omega

end Winner

section Steps
variable [NetLiterals] [Ring] {runtime next : Runtime} {sid : String} {session : SessionInfo}

/-- The error of a reload, for a live session. -/
theorem reloadError_disowned {config : GatewayConfig} {table : Credentials}
    (hc : credentials config = .ok table) (hfew : (Op.reload config).FewRules)
    (h : Disowned config table runtime session) :
    reloadError (runtime.gatewayChanged config) runtime.credentials table
      (runtime.winners (runtime.gatewayChanged config) table) session = some .changed := by
  cases hchanged : runtime.gatewayChanged config with
  | true => rfl
  | false =>
    simp only [reloadError, Bool.false_eq_true, if_false]
    cases h with
    | token changed =>
      simp only [Runtime.gatewayChanged, bne_eq_false_iff_eq] at hchanged
      exact absurd hchanged changed
    | removed gone => simp only [gone]
    | renamed before after changed => simp only [before, after, if_pos (Or.inl changed)]
    | narrowed before after address had lost =>
      obtain ⟨hports, hlt⟩ := credentials_rules hc (hfew config rfl) after
      have huncovered : ¬ (_ : List AccessRule).all _ = true := fun hcovered =>
        lost ((AccessRule.all_covers_iff hports hlt).mp hcovered address had)
      simp only [before, after, if_pos (Or.inr huncovered)]

theorem reloadError_owned {config : GatewayConfig} {table : Credentials} (hk : Known runtime)
    (hn : Numbered runtime) (hl : runtime.LiveSession sid session) (hc : credentials config = .ok table)
    (hfew : (Op.reload config).FewRules) (h : ¬ Disowned config table runtime session) :
    (Outranked table runtime session ∧
      reloadError (runtime.gatewayChanged config) runtime.credentials table
        (runtime.winners (runtime.gatewayChanged config) table) session = some .replaced) ∨
    (¬ Outranked table runtime session ∧
      reloadError (runtime.gatewayChanged config) runtime.credentials table
        (runtime.winners (runtime.gatewayChanged config) table) session = none) := by
  have hchanged : runtime.gatewayChanged config = false := by
    simp only [Runtime.gatewayChanged, bne_eq_false_iff_eq]
    by_contra hne
    exact h (.token hne)
  obtain ⟨old, hold⟩ := hk sid session hl
  cases hnew : table.lookup session.credential with
  | none => exact absurd (.removed hnew) h
  | some new =>
    have hname : old.name = new.name := by
      by_contra hne
      exact h (.renamed hold hnew hne)
    obtain ⟨hports, hlt⟩ := credentials_rules hc (hfew config rfl) hnew
    have hcovered : old.rules.all (fun rule => new.rules.any (·.covers rule)) = true := by
      rw [AccessRule.all_covers_iff hports hlt]
      intro address had
      by_contra hlost
      exact h (.narrowed hold hnew address had hlost)
    have hsame : ¬ (old.name ≠ new.name ∨
        ¬ old.rules.all (fun rule => new.rules.any (·.covers rule)) = true) := fun hdiffer =>
      hdiffer.elim (absurd hname) (absurd hcovered)
    have herror : reloadError (runtime.gatewayChanged config) runtime.credentials table
        (runtime.winners (runtime.gatewayChanged config) table) session =
        if ((runtime.winners false table).lookup session.credential).any (·.2 ≠ session.instanceId) then
          some GatewayError.replaced else none := by
      simp only [reloadError, hchanged, Bool.false_eq_true, if_false, hold, hnew, if_neg hsame]
    rw [herror, ← outranked_iff hn hl]
    split
    · rename_i hloses
      exact .inl ⟨hloses, rfl⟩
    · rename_i hwins
      exact .inr ⟨hwins, rfl⟩

/-- A session that is not live after an operation is told why. -/
theorem signal_of_ends (h : registry.Reachable runtime) (hl : runtime.LiveSession sid session) {op : Op}
    (hfresh : op.draws ≠ some sid) (hfew : op.FewRules) {why : Option GatewayError}
    (hend : Ends runtime sid session op why) (hs : applyOp op runtime = some next) :
    next.signal sid = why ∧ ¬ next.LiveSession sid session := by
  have of_lookup : ∀ {other : SessionInfo}, next.sessions.lookup sid = some other →
      other.signal ≠ none → next.signal sid = other.signal ∧ ¬ next.LiveSession sid session := by
    intro other hlookup hset
    refine ⟨by rw [Runtime.signal, hlookup, Option.bind_some], fun hlive => ?_⟩
    rw [hlive.1] at hlookup
    cases hlookup
    exact hset hlive.2
  have of_reload : ∀ {config : GatewayConfig} {table : Credentials} {error : GatewayError},
      credentials config = .ok table → runtime.config.gateway = config.gateway → op = .reload config →
      reloadError (runtime.gatewayChanged config) runtime.credentials table
        (runtime.winners (runtime.gatewayChanged config) table) session = some error →
      next.signal sid = some error ∧ ¬ next.LiveSession sid session := by
    rintro config table error hvalid hunmoved rfl herror
    have hreload : AppState.reload config runtime = .ok (runtime.reconfigure config table) :=
      bind_eq_ok.mpr ⟨table, hvalid, bind_eq_ok.mpr ⟨(), ensure_eq_ok.mpr hunmoved, rfl⟩⟩
    simp only [applyOp, hreload, Option.some.injEq] at hs
    subst hs
    have hsignal : (runtime.reconfigure config table).signal sid = some error :=
      (signal_reconfigure hl).trans herror
    refine ⟨hsignal, fun hlive => ?_⟩
    rw [Runtime.signal, hlive.1, Option.bind_some, hlive.2] at hsignal
    cases hsignal
  cases hend with
  | dropped =>
    cases hs
    have hgone : (AppState.dropLease sid runtime).sessions.lookup sid = none := AList.lookup_erase _ _
    refine ⟨by rw [Runtime.signal, hgone]; rfl, fun hlive => ?_⟩
    rw [hlive.1] at hgone
    cases hgone
  | takenOver accepted single same other =>
    rename_i sessionId gatewayToken instanceId token userToken legacy credential
    have hne : sid ≠ sessionId := fun heq => hfresh (congrArg some heq.symm)
    rw [applyOp] at hs
    split at hs
    · rw [register_of_accepted sessionId accepted] at hs
      cases hs
      have hlookup : (registered sessionId instanceId token credential runtime).sessions.lookup sid =
          some { session with signal := some .replaced } := by
        rw [registered_lookup hne, hl.1, Option.map_some, displace, if_pos ⟨single, same, other⟩]
      exact of_lookup hlookup (Option.some_ne_none _)
    · cases hs
  | disowned valid unmoved disowned =>
    exact of_reload valid unmoved rfl (reloadError_disowned valid hfew disowned)
  | outranked valid unmoved owned outranked =>
    refine of_reload valid unmoved rfl ?_
    rcases reloadError_owned (known_reachable h) (numbered_reachable h) hl valid hfew owned with hout | hin
    · exact hout.2
    · exact absurd outranked hin.1

/-- What no operation ends stays. -/
theorem live_of_not_ends (h : registry.Reachable runtime) (hl : runtime.LiveSession sid session) {op : Op}
    (hfresh : op.draws ≠ some sid) (hfew : op.FewRules)
    (hnot : ∀ why, ¬ Ends runtime sid session op why) (hs : applyOp op runtime = some next) :
    next.LiveSession sid session := by
  cases op with
  | register sessionId gatewayToken userToken instanceId legacy =>
    have hne : sid ≠ sessionId := fun heq => hfresh (congrArg some heq.symm)
    simp only [applyOp] at hs
    split at hs
    · split at hs
      · rename_i taken lease name hr
        cases hs
        obtain ⟨token, credential, haccepted, rfl, _⟩ := register_ok hr
        refine ⟨?_, hl.2⟩
        rw [registered_lookup hne, hl.1, Option.map_some, displace, if_neg]
        rintro ⟨hsingle, hsame, hother⟩
        exact hnot _ (.takenOver haccepted hsingle hsame hother)
      · cases hs
        exact hl
    · cases hs
  | reload config =>
    simp only [applyOp] at hs
    split at hs
    · rename_i done hr
      cases hs
      obtain ⟨table, hvalid, hunmoved, rfl⟩ := reload_ok hr
      have howned : ¬ Disowned config table runtime session := fun hd =>
        hnot _ (.disowned hvalid hunmoved hd)
      rcases reloadError_owned (known_reachable h) (numbered_reachable h) hl hvalid hfew howned with
        ⟨hout, _⟩ | ⟨_, herror⟩
      · exact absurd (.outranked hvalid hunmoved howned hout) (hnot _)
      · refine ⟨?_, hl.2⟩
        have hsignal : session.signal = none := hl.2
        simp only [Runtime.reconfigure, HashMap.lookup_mapValues, hl.1, Option.map_some, Runtime.cancel,
          herror, hsignal, if_true]
        rw [← hsignal]
    · cases hs
      exact hl
  | drop dropped =>
    cases hs
    have hne : sid ≠ dropped := by
      rintro rfl
      exact hnot _ .dropped
    exact ⟨(AList.lookup_erase_ne hne).trans hl.1, hl.2⟩

/-- A live session is live after an operation exactly when the operation does not end it. -/
theorem live_iff_not_ends (h : registry.Reachable runtime) (hl : runtime.LiveSession sid session) {op : Op}
    (hfresh : op.draws ≠ some sid) (hfew : op.FewRules) (hs : applyOp op runtime = some next) :
    next.LiveSession sid session ↔ ∀ why, ¬ Ends runtime sid session op why :=
  ⟨fun hlive _ hend => (signal_of_ends h hl hfresh hfew hend hs).2 hlive,
    fun hnot => live_of_not_ends h hl hfresh hfew hnot hs⟩

/-- What is not live stays so, under its identifier. -/
theorem not_live_step {op : Op} (hfresh : op.draws ≠ some sid) (hl : ¬ runtime.LiveSession sid session)
    (hs : applyOp op runtime = some next) : ¬ next.LiveSession sid session := by
  intro hlive
  apply hl
  rcases applyOp_cases hs with rfl | ⟨_, _, _, _, _, _, _, rfl, _, _, rfl⟩ |
    ⟨_, _, rfl, _, rfl⟩ | ⟨_, _, rfl⟩
  · exact hlive
  · rcases live_registered hlive with ⟨rfl, _⟩ | ⟨_, hold, _⟩
    · exact absurd rfl hfresh
    · exact hold
  · exact (live_reconfigure hlive).1
  · exact ⟨(HashMap.lookup_erase_some hlive.1).2, hlive.2⟩

/-- Over the rest of a run, too. -/
theorem not_live_run {ops : List Op} (hfresh : ∀ op ∈ ops, op.draws ≠ some sid)
    (hgone : ¬ runtime.LiveSession sid session) (hrun : registry.run ops runtime = some next) :
    ¬ next.LiveSession sid session := by
  induction ops generalizing runtime with
  | nil =>
    cases hrun
    exact hgone
  | cons op rest ih =>
    obtain ⟨hop, hrest⟩ := List.forall_mem_cons.mp hfresh
    obtain ⟨after, hs, hrun⟩ := Option.bind_eq_some_iff.mp hrun
    exact ih hrest (not_live_step hop hgone hs) hrun

/-- **How long a session lives.** Over any run of registrations, reloads and lease drops
a session stays live exactly as long as no operation ends it; and the one that does
leaves it the reason. -/
theorem session_lifetime (h : registry.Reachable runtime) (hl : runtime.LiveSession sid session)
    {ops : List Op} (hfresh : ∀ op ∈ ops, op.draws ≠ some sid) (hfew : ∀ op ∈ ops, op.FewRules)
    (hrun : registry.run ops runtime = some next) :
    (next.LiveSession sid session ↔
      registry.Throughout (fun op before _ => ∀ why, ¬ Ends before sid session op why) ops runtime) ∧
    registry.Throughout (fun op before after => before.LiveSession sid session →
      ∀ why, Ends before sid session op why → after.signal sid = why) ops runtime := by
  constructor
  · induction ops generalizing runtime with
    | nil =>
      cases hrun
      exact ⟨fun _ => trivial, fun _ => hl⟩
    | cons op rest ih =>
      obtain ⟨hop, hrestFresh⟩ := List.forall_mem_cons.mp hfresh
      obtain ⟨hrules, hrestFew⟩ := List.forall_mem_cons.mp hfew
      obtain ⟨after, hs, hrest⟩ := Option.bind_eq_some_iff.mp hrun
      have hstep := live_iff_not_ends h hl hop hrules hs
      have hafter : registry.Reachable after := h.next trivial hs
      constructor
      · intro hlive t ht
        cases hs.symm.trans ht
        by_cases hkept : after.LiveSession sid session
        · exact ⟨hstep.mp hkept, (ih hafter hkept hrestFresh hrestFew hrest).mp hlive⟩
        · exact absurd hlive (not_live_run hrestFresh hkept hrest)
      · intro hall
        obtain ⟨hnot, hall⟩ := hall after hs
        exact (ih hafter (hstep.mpr hnot) hrestFresh hrestFew hrest).mpr hall
  · clear hl hrun
    induction ops generalizing runtime with
    | nil => trivial
    | cons op rest ih =>
      obtain ⟨hop, hrestFresh⟩ := List.forall_mem_cons.mp hfresh
      obtain ⟨hrules, hrestFew⟩ := List.forall_mem_cons.mp hfew
      intro after hs
      exact ⟨fun hlive why hend => (signal_of_ends h hlive hop hrules hend hs).1,
        ih (h.next trivial hs) hrestFresh hrestFew⟩

end Steps

/-! ### Single access, switched on again -/

section Example

local instance lifetimeLiterals : NetLiterals := .dottedQuad
local instance lifetimeRing : Ring := .free

def instanceC : String := String.ofList (List.replicate 64 'c')

/-- With single access off another instance joins; with it on again only the instance that
came last stays. -/
def joinedOps : List Op :=
  [sharedAccess, .register "s4" "shared" (some "user") instanceC false, .reload singleConfig]

def joined : Runtime := (registry.run joinedOps takenOver).getD takenOver

theorem session_lifetime_joined :
    joined.signal "s2" = some .replaced ∧ ¬ joined.LiveSession "s2" (liveB 2) ∧
      ¬ registry.Throughout (fun op before _ => ∀ why, ¬ Ends before "s2" (liveB 2) op why) joinedOps
        takenOver := by
  have hends : (registry.run joinedOps takenOver).isSome = true ∧ joined.signal "s2" = some .replaced := by
    decide +kernel
  obtain ⟨hrun, hsignal⟩ := hends
  have hrun : registry.run joinedOps takenOver = some joined := by
    obtain ⟨t, ht⟩ := Option.isSome_iff_exists.mp hrun
    rw [joined, ht, Option.getD_some]
  have hgone : ¬ joined.LiveSession "s2" (liveB 2) := by
    intro hlive
    rw [Runtime.signal, hlive.1, Option.bind_some, hlive.2] at hsignal
    cases hsignal
  have hfew : ∀ op ∈ joinedOps, op.FewRules := by
    rintro op hop config rfl user huser
    simp only [joinedOps, sharedAccess, List.mem_cons, Op.reload.injEq, reduceCtorEq, List.not_mem_nil,
      or_false, false_or] at hop
    rcases hop with rfl | rfl
    all_goals
      rcases List.mem_singleton.mp huser with rfl
      decide
  exact ⟨hsignal, hgone, fun hall => hgone ((session_lifetime takenOver_reachable takenOver_ends.2.1
    (by decide) hfew hrun).1.mpr hall)⟩

end Example

end WsNet.Gateway
