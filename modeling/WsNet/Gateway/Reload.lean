import WsNet.Gateway.Narrowing
import WsNet.Gateway.Retirement

/-! Reloading what is in force.

Adding a user reloads the configuration, so a reload often brings what the gateway
has already. It disconnects nobody: a live session's credential is in the table, its
rules cover themselves, and a winner of its credential can only be its own instance.
A second reload of a configuration finds the first one's state in force. -/
namespace WsNet.Gateway
open Data Transition

section Reload
variable [NetLiterals] [Ring]

/-- The credential of every live session is in the table. -/
def Known (runtime : Runtime) : Prop :=
  ∀ sid session, runtime.LiveSession sid session →
    ∃ credential, runtime.credentials.lookup session.credential = some credential

theorem known_step {op : Op} {runtime next : Runtime} (h : Known runtime)
    (hs : applyOp op runtime = some next) : Known next := by
  rcases applyOp_cases hs with rfl | ⟨sessionId, _, _, instanceId, _, token, credential, _, _, ha, rfl⟩ |
    ⟨config, table, _, _, rfl⟩ | ⟨dropped, _, rfl⟩
  · exact h
  · intro sid session hl
    rw [(registered_credentials _ _ _ _ _).1]
    rcases live_registered hl with ⟨_, hc, _⟩ | ⟨_, hold, _⟩
    · rw [hc]
      exact ⟨credential, ha.known⟩
    · exact h sid session hold
  · intro sid session hl
    obtain ⟨credential, hknown, _⟩ := (live_reconfigure hl).2.known
    exact ⟨credential, hknown⟩
  · exact fun sid session hl => h sid session ⟨(HashMap.lookup_erase_some hl.1).2, hl.2⟩

theorem known_reachable {runtime : Runtime} (h : registry.Reachable runtime) : Known runtime := by
  apply Machine.ReachableUnder.invariant _ _ h
  · intro runtime hstart sid session hl
    obtain ⟨config, hnew⟩ := hstart
    obtain ⟨table, _, hnew⟩ := bind_eq_ok.mp hnew
    cases pure_eq_ok.mp hnew
    have hl := hl.1
    simp at hl
  · exact fun _ _ _ _ hk _ hs => known_step hk hs

/-! ### The configuration in force -/

/-- Its own table finds nothing to cancel in a live session. -/
theorem reloadError_inForce {runtime : Runtime} (hc : Consistent runtime) (hk : Known runtime)
    {sid : String} {session : SessionInfo} (h : runtime.LiveSession sid session) :
    reloadError false runtime.credentials runtime.credentials
      (runtime.winners false runtime.credentials) session = none := by
  obtain ⟨credential, hcredential⟩ := hk sid session h
  have hcovered : (credential.rules.all fun rule => credential.rules.any (·.covers rule)) = true := by
    apply List.all_eq_true.mpr
    intro rule hrule
    exact List.any_eq_true.mpr ⟨rule, hrule, rule.covers_refl⟩
  have hwinner : ¬ ((runtime.winners false runtime.credentials).lookup session.credential).any
      (·.2 ≠ session.instanceId) = true := by
    intro hlost
    rw [Option.any_eq_true] at hlost
    obtain ⟨w, hw, hne⟩ := hlost
    obtain ⟨hsingle, sid', other, hother, hid, hinstance⟩ := winner_live hw
    rw [hcredential] at hsingle
    have hagree := hc.single _ credential hcredential hsingle sid' sid other session hother h hid rfl
    rw [← hinstance, hagree] at hne
    simp at hne
  simp only [reloadError, Bool.false_eq_true, if_false, hcredential, ne_eq, not_true_eq_false, hcovered,
    or_false]
  rw [if_neg (by simpa using hwinner)]

omit [NetLiterals] [Ring] in
theorem signal_mapValues {sessions : HashMap String SessionInfo} {f : SessionInfo → SessionInfo}
    {sid : String} (h : ∀ session, sessions.lookup sid = some session →
      (f session).signal = session.signal) :
    ((HashMap.mapValues f sessions).lookup sid).bind SessionInfo.signal =
      (sessions.lookup sid).bind SessionInfo.signal := by
  rw [HashMap.lookup_mapValues]
  cases hlookup : sessions.lookup sid with
  | none => rfl
  | some session => exact h session hlookup

/-- A reload of the configuration in force is accepted and leaves every signal. -/
theorem reload_inForce {runtime : Runtime} (hc : Consistent runtime) (hk : Known runtime) :
    AppState.reload runtime.config runtime =
      .ok (runtime.reconfigure runtime.config runtime.credentials) ∧
    ∀ sid, (runtime.reconfigure runtime.config runtime.credentials).signal sid =
      runtime.signal sid := by
  refine ⟨bind_eq_ok.mpr ⟨_, hc.table, bind_eq_ok.mpr ⟨(), ensure_eq_ok.mpr rfl, rfl⟩⟩, ?_⟩
  intro sid
  apply signal_mapValues
  intro session hlookup
  by_cases hlive : session.signal = none
  · have hsame : runtime.gatewayChanged runtime.config = false := by simp [Runtime.gatewayChanged]
    rw [hsame, reloadError_inForce hc hk ⟨hlookup, hlive⟩, cancel_none]
  · rw [Runtime.cancel, if_neg hlive]

/-! ### Twice -/

omit [NetLiterals] [Ring] in
theorem mem_losers {orders : HashMap (String × String) Nat} {winners : Winners}
    {key : String × String} :
    key ∈ Runtime.losers orders winners ↔
      key ∈ orders ∧ ∃ w, winners.lookup key.1 = some w ∧ key.2 ≠ w.2 := by
  simp only [Runtime.losers, List.mem_toFinset, List.mem_filter, Option.any_eq_true, decide_eq_true_eq,
    AList.mem_keys]

omit [NetLiterals] [Ring] in
/-- Under the access token in force the histories are kept. -/
theorem reconfigure_histories (runtime : Runtime) (table : Credentials) :
    (runtime.reconfigure runtime.config table).orders = runtime.orders ∧
      (runtime.reconfigure runtime.config table).retired =
        runtime.retired ∪ Runtime.losers runtime.orders (runtime.winners false table) := by
  have hsame : runtime.gatewayChanged runtime.config = false := by simp [Runtime.gatewayChanged]
  simp only [Runtime.reconfigure, hsame, Bool.false_eq_true, if_false, and_self]

omit [NetLiterals] [Ring] in
/-- A second reload retires nobody: its winners were the first one's. -/
theorem losers_reconfigure {config : GatewayConfig} {table : Credentials} {runtime : Runtime} :
    Runtime.losers (runtime.reconfigure config table).orders
        ((runtime.reconfigure config table).winners false table) ⊆
      (runtime.reconfigure config table).retired := by
  intro key hkey
  obtain ⟨hordered, w, hw, hne⟩ := mem_losers.mp hkey
  obtain ⟨hsingle, sid, session, hlive, hid, hinstance⟩ := winner_live hw
  obtain ⟨hold, hsurvives⟩ := live_reconfigure hlive
  obtain ⟨credential, hcredential, _⟩ := hsurvives.known
  rw [← hid, hcredential] at hsingle
  -- the session was live before the first reload, which had a winner to agree with
  obtain ⟨w', hw'⟩ := winner_exists hold hcredential hsingle
  have hsame : runtime.gatewayChanged config = false := by
    simp [Runtime.gatewayChanged, hsurvives.gateway]
  have hagree : w'.2 = w.2 := (hsurvives.winner w' hw').trans hinstance
  simp only [Runtime.reconfigure, hsame, Bool.false_eq_true, if_false] at hordered ⊢
  apply Finset.mem_union_right
  exact mem_losers.mpr ⟨hordered, w', hid ▸ hw', by rw [hagree]; exact hne⟩

/-- **Reloads are harmless.** In every reachable registry a reload of the
configuration in force changes no session's signal, and a reload of any valid
configuration with the same gateway section leaves, when it is made twice, the
credentials, signals, orders and retired instances of the first. -/
theorem reload_harmless {runtime : Runtime} (h : registry.Reachable runtime) :
    (∃ next, AppState.reload runtime.config runtime = .ok next ∧
      ∀ sid, next.signal sid = runtime.signal sid) ∧
    ∀ config table, credentials config = .ok table → runtime.config.gateway = config.gateway →
      ∃ first second, AppState.reload config runtime = .ok first ∧
        AppState.reload config first = .ok second ∧ second.credentials = first.credentials ∧
        (∀ sid, second.signal sid = first.signal sid) ∧ second.orders = first.orders ∧
        second.retired = first.retired := by
  refine ⟨⟨_, reload_inForce (consistent_reachable h) (known_reachable h)⟩, ?_⟩
  intro config table htable hgateway
  have hfirst : AppState.reload config runtime = .ok (runtime.reconfigure config table) :=
    bind_eq_ok.mpr ⟨table, htable, bind_eq_ok.mpr ⟨(), ensure_eq_ok.mpr hgateway, rfl⟩⟩
  have hnext : registry.Reachable (runtime.reconfigure config table) := by
    have hstep : registry.step (.reload config) runtime = some (runtime.reconfigure config table) := by
      simp only [registry, applyOp, hfirst]
    exact h.next trivial hstep
  obtain ⟨hsecond, hsignals⟩ := reload_inForce (consistent_reachable hnext) (known_reachable hnext)
  obtain ⟨horders, hretired⟩ := reconfigure_histories (runtime.reconfigure config table) table
  exact ⟨_, _, hfirst, hsecond, rfl, hsignals, horders,
    hretired.trans (Finset.union_eq_left.mpr losers_reconfigure)⟩

end Reload

/-! ### After a takeover -/

section Example

local instance reloadLiterals : NetLiterals := .dottedQuad
local instance reloadRing : Ring := .free

theorem reload_harmless_takenOver :
    (∃ next, AppState.reload takenOver.config takenOver = .ok next ∧
      next.signal "s1" = some .replaced ∧ next.signal "s3" = none) ∧
    ∃ first second, AppState.reload portsConfig takenOver = .ok first ∧
      AppState.reload portsConfig first = .ok second ∧ second.signal "s3" = first.signal "s3" ∧
      second.retired = first.retired := by
  have htable : (credentials portsConfig).toOption.isSome = true := by decide +kernel
  have htable : credentials portsConfig = .ok ((credentials portsConfig).toOption.getD ∅) := by
    cases h : credentials portsConfig with
    | error e => simp [h, Except.toOption] at htable
    | ok table => rfl
  obtain ⟨_, _, ⟨hlookup, hlive⟩, _, hreplaced, hconfig⟩ := takenOver_ends
  have hgateway : takenOver.config.gateway = portsConfig.gateway := by rw [hconfig]; rfl
  obtain ⟨⟨next, hnext, hsignals⟩, htwice⟩ := reload_harmless takenOver_reachable
  obtain ⟨first, second, hfirst, hsecond, _, hsame, _, hretired⟩ := htwice _ _ htable hgateway
  refine ⟨⟨next, hnext, ?_, ?_⟩, first, second, hfirst, hsecond, hsame "s3", hretired⟩
  · rw [hsignals]
    exact hreplaced
  · rw [hsignals, Runtime.signal, hlookup]
    exact hlive

end Example

end WsNet.Gateway
