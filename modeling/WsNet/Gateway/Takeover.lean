import WsNet.Gateway.Registry

/-! Single access: one instance of a credential at a time.

A single-access credential belongs to one instance: registering another one
cancels the sessions of the rest and retires them, and a reload that switches
single access on picks a winner among the instances that are live. The invariant
is the same for both: the table is the one of the configuration in force, the
live sessions of a single-access credential agree on the instance, and no live
session's instance is retired. -/
namespace WsNet.Gateway
open Data Transition

section Invariant
variable [NetLiterals] [Ring]

/-- What every operation keeps. -/
structure Consistent (runtime : Runtime) : Prop where
  table : credentials runtime.config = .ok runtime.credentials
  single : ∀ id credential, runtime.credentials.lookup id = some credential →
    credential.single = true → ∀ sid sid' a b, runtime.LiveSession sid a →
    runtime.LiveSession sid' b → a.credential = id → b.credential = id →
    a.instanceId = b.instanceId
  active : ∀ sid session, runtime.LiveSession sid session →
    (session.credential, session.instanceId) ∉ runtime.retired

theorem consistent_new {config : GatewayConfig} {runtime : Runtime}
    (h : AppState.new config = .ok runtime) : Consistent runtime := by
  obtain ⟨table, htable, h⟩ := bind_eq_ok.mp h
  have hruntime := pure_eq_ok.mp h
  subst hruntime
  have hnone : ∀ sid session, ¬ Runtime.LiveSession
      { config, credentials := table, sessions := ∅, orders := ∅, retired := ∅, nextOrder := 0 }
      sid session := by
    intro sid session hl
    have hl := hl.1
    simp at hl
  exact ⟨htable, fun _ _ _ _ sid _ a _ ha => absurd ha (hnone sid a),
    fun sid session hl => absurd hl (hnone sid session)⟩

theorem consistent_registered {sessionId gatewayToken instanceId token : String}
    {userToken : Option String} {legacy : Bool} {runtime : Runtime} {credential : Credential}
    (h : Consistent runtime)
    (ha : Accepted gatewayToken userToken instanceId legacy runtime token credential) :
    Consistent (registered sessionId instanceId token credential runtime) := by
  obtain ⟨hcredentials, hconfig⟩ :=
    registered_credentials sessionId instanceId token credential runtime
  refine ⟨by rw [hconfig, hcredentials]; exact h.table, ?_, ?_⟩
  · intro id c hc hsingle sid sid' a b hla hlb hca hcb
    rw [hcredentials] at hc
    -- a live session of the registered credential has the new instance
    have hown : id = credentialId token → ∀ sid s,
        (registered sessionId instanceId token credential runtime).LiveSession sid s →
        s.credential = id → s.instanceId = instanceId := by
      intro hid sid s hs hsc
      have hsame : c = credential := by
        rw [hid, ha.known] at hc
        exact (Option.some.inj hc).symm
      rcases live_registered hs with ⟨_, _, hi⟩ | ⟨_, _, hold⟩
      · exact hi
      · exact hold (hsame ▸ hsingle) (hsc.trans hid)
    by_cases hid : id = credentialId token
    · rw [hown hid sid a hla hca, hown hid sid' b hlb hcb]
    · have hother : ∀ sid s,
          (registered sessionId instanceId token credential runtime).LiveSession sid s →
          s.credential = id → runtime.LiveSession sid s := by
        intro sid s hs hsc
        rcases live_registered hs with ⟨_, hnew, _⟩ | ⟨_, hold, _⟩
        · exact absurd (hsc.symm.trans hnew) hid
        · exact hold
      exact h.single id c hc hsingle sid sid' a b (hother sid a hla hca) (hother sid' b hlb hcb) hca hcb
  · intro sid session hl hretired
    rcases mem_retired_registered hretired with hretired | ⟨hsingle, hid, hne⟩
    · rcases live_registered hl with ⟨_, hc, hi⟩ | ⟨_, hold, _⟩
      · rw [hc, hi] at hretired
        exact ha.active hretired
      · exact h.active sid session hold hretired
    · rcases live_registered hl with ⟨_, _, hi⟩ | ⟨_, _, hold⟩
      · exact hne hi
      · exact hne (hold hsingle hid)

theorem consistent_reconfigure {config : GatewayConfig} {table : Credentials} {runtime : Runtime}
    (h : Consistent runtime) (ht : credentials config = .ok table) :
    Consistent (runtime.reconfigure config table) := by
  refine ⟨ht, ?_, ?_⟩
  · intro id c hc hsingle sid sid' a b hla hlb hca hcb
    obtain ⟨hola, hsa⟩ := live_reconfigure hla
    obtain ⟨_, hsb⟩ := live_reconfigure hlb
    -- both agree with the winner
    obtain ⟨w, hw⟩ := winner_exists hola (hca ▸ hc) hsingle
    rw [← hsa.winner w hw, ← hsb.winner w (by rw [hcb, ← hca]; exact hw)]
  · intro sid session hl hretired
    obtain ⟨hold, hs⟩ := live_reconfigure hl
    rcases mem_retired_reconfigure hs.gateway hretired with hretired | ⟨w, hw, hne⟩
    · exact h.active sid session hold hretired
    · exact hne (hs.winner w hw).symm

theorem consistent_dropLease {runtime : Runtime} (h : Consistent runtime) (id : String) :
    Consistent (AppState.dropLease id runtime) := by
  have hlive : ∀ sid session, (AppState.dropLease id runtime).LiveSession sid session →
      runtime.LiveSession sid session :=
    fun _ _ hl => ⟨(HashMap.lookup_erase_some hl.1).2, hl.2⟩
  exact ⟨h.table, fun id c hc hs sid sid' a b ha hb =>
    h.single id c hc hs sid sid' a b (hlive sid a ha) (hlive sid' b hb),
    fun sid session hl => h.active sid session (hlive sid session hl)⟩

/-- Every operation, accepted or refused, keeps the registry consistent. -/
theorem consistent_step {op : Op} {runtime next : Runtime} (h : Consistent runtime)
    (hs : applyOp op runtime = some next) : Consistent next := by
  rcases applyOp_cases hs with rfl | ⟨_, _, _, _, _, _, _, _, _, ha, rfl⟩ | ⟨_, _, _, ht, rfl⟩ |
    ⟨sid, _, rfl⟩
  · exact h
  · exact consistent_registered h ha
  · exact consistent_reconfigure h ht
  · exact consistent_dropLease h sid

theorem consistent_reachable {runtime : Runtime} (h : registry.Reachable runtime) :
    Consistent runtime := by
  apply Machine.ReachableUnder.invariant _ _ h
  · intro runtime hstart
    obtain ⟨config, hnew⟩ := hstart
    exact consistent_new hnew
  · exact fun _ _ _ _ hc _ hs => consistent_step hc hs

/-- **One instance at a time.** In every reachable registry the live sessions of a
user that the configuration in force marks single-access belong to one instance,
and no live session's instance is retired. -/
theorem one_live_instance {runtime : Runtime} (h : registry.Reachable runtime) :
    (runtime.config.auth.enabled = true → ∀ user ∈ runtime.config.users,
      user.isSingleAccess runtime.config.auth = true → ∀ sid sid' a b,
      runtime.LiveSession sid a → runtime.LiveSession sid' b →
      a.credential = credentialId user.token → b.credential = credentialId user.token →
      a.instanceId = b.instanceId) ∧
    (∀ sid session, runtime.LiveSession sid session →
      (session.credential, session.instanceId) ∉ runtime.retired) := by
  have hc := consistent_reachable h
  refine ⟨fun he user hu hsingle sid sid' a b ha hb hca hcb => ?_, hc.active⟩
  obtain ⟨rules, _, hlookup⟩ := credentials_user hc.table he hu
  exact hc.single _ _ hlookup hsingle sid sid' a b ha hb hca hcb

end Invariant

/-! ### A takeover -/

section Example

local instance : NetLiterals := .dottedQuad
local instance : Ring := .free

def instanceA : String := String.ofList (List.replicate 64 'a')
def instanceB : String := String.ofList (List.replicate 64 'b')

/-- One user, single-access by default. -/
def singleConfig : GatewayConfig :=
  ⟨⟨"127.0.0.1:8443", "/tunnel"⟩, ⟨"shared", true, true⟩, [⟨"lisi", "user", none, ["127.0.0.1:*"]⟩]⟩

def singleStart : Runtime :=
  { config := singleConfig, credentials := (credentials singleConfig).toOption.getD ∅,
    sessions := ∅, orders := ∅, retired := ∅, nextOrder := 0 }

def takeoverOps : List Op :=
  [.register "s1" "shared" (some "user") instanceA false,
    .register "s2" "shared" (some "user") instanceB false,
    .register "s3" "shared" (some "user") instanceB false]

/-- Instance `a`, then two sessions of instance `b`. -/
def takenOver : Runtime := (registry.run takeoverOps singleStart).getD singleStart

theorem singleStart_initial : registry.Initial singleStart := ⟨singleConfig, by rfl⟩

def liveB (order : Nat) : SessionInfo := ⟨credentialId "user", instanceB, order, none⟩

theorem takenOver_ends : (registry.run takeoverOps singleStart).isSome = true ∧
    takenOver.LiveSession "s2" (liveB 2) ∧ takenOver.LiveSession "s3" (liveB 2) ∧
    (credentialId "user", instanceA) ∈ takenOver.retired ∧ takenOver.signal "s1" = some .replaced ∧
    takenOver.config = singleConfig := by
  unfold Runtime.LiveSession
  decide +kernel

theorem takenOver_reachable : registry.Reachable takenOver :=
  Machine.reachable_getD singleStart_initial takenOver_ends.1

/-- Both live sessions of the user belong to the instance that came last. -/
theorem one_live_instance_takenOver :
    (takenOver.sessions.lookup "s2").map SessionInfo.instanceId =
        (takenOver.sessions.lookup "s3").map SessionInfo.instanceId ∧
      (credentialId "user", instanceB) ∉ takenOver.retired ∧
      (credentialId "user", instanceA) ∈ takenOver.retired := by
  obtain ⟨_, hs2, hs3, hretired, _, hconfig⟩ := takenOver_ends
  obtain ⟨hone, hactive⟩ := one_live_instance takenOver_reachable
  rw [hconfig] at hone
  have hsame := hone rfl ⟨"lisi", "user", none, ["127.0.0.1:*"]⟩ List.mem_cons_self rfl "s2" "s3" (liveB 2)
    (liveB 2) hs2 hs3 rfl rfl
  rw [hs2.1, hs3.1]
  exact ⟨congrArg some hsame, hactive "s2" (liveB 2) hs2, hretired⟩

end Example

end WsNet.Gateway
