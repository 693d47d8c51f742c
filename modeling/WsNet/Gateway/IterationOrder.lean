import WsNet.Gateway.Retirement

/-! The order in which the hash maps are iterated.

A hash map is iterated in an order that the program does not choose. Only one loop
of the registry could show it: the first session visited is the winner of its
credential until one with a greater order comes. It does not, because two live
sessions with the same order are sessions of one instance: orders are given once
and a session carries its instance's. -/
namespace WsNet.Gateway
open Data Transition

/-! ### Orders of live sessions -/

/-- A live session carries its instance's order, and no order was given twice. -/
structure Numbered (runtime : Runtime) : Prop where
  order : ∀ sid session, runtime.LiveSession sid session →
    runtime.orders.lookup (session.credential, session.instanceId) = some session.order
  bound : ∀ key n, runtime.orders.lookup key = some n → n ≤ runtime.nextOrder
  injective : ∀ key key' n, runtime.orders.lookup key = some n →
    runtime.orders.lookup key' = some n → key = key'

/-- Live sessions of one credential with the same order are of one instance. -/
theorem Numbered.instance_eq {runtime : Runtime} (h : Numbered runtime) {sid sid' : String}
    {a b : SessionInfo} (ha : runtime.LiveSession sid a) (hb : runtime.LiveSession sid' b)
    (ho : a.order = b.order) : a.instanceId = b.instanceId := by
  have hb := h.order sid' b hb
  rw [← ho] at hb
  exact congrArg Prod.snd (h.injective _ _ _ (h.order sid a ha) hb)

theorem live_takeover {id instanceId sid : String} {runtime : Runtime} {session : SessionInfo}
    (h : (runtime.takeover id instanceId).LiveSession sid session) : runtime.LiveSession sid session := by
  obtain ⟨hlookup, hlive⟩ := h
  simp only [Runtime.takeover, HashMap.lookup_mapValues, Option.map_eq_some_iff] at hlookup
  obtain ⟨old, hold, hmap⟩ := hlookup
  split at hmap
  · subst hmap
    cases hlive
  · subst hmap
    exact ⟨hold, hlive⟩

theorem numbered_takeover {runtime : Runtime} (h : Numbered runtime) (id instanceId : String) :
    Numbered (runtime.takeover id instanceId) :=
  ⟨fun sid session hl => h.order sid session (live_takeover hl), h.bound, h.injective⟩

theorem numbered_enroll {runtime : Runtime} (h : Numbered runtime) (sessionId id instanceId : String) :
    Numbered (runtime.enroll sessionId id instanceId) := by
  unfold Runtime.enroll Runtime.assignOrder
  cases hkey : runtime.orders.lookup (id, instanceId) with
  | some order =>
    refine ⟨?_, h.bound, h.injective⟩
    intro sid session hl
    rcases HashMap.lookup_insert_some hl.1 with ⟨rfl, rfl⟩ | ⟨_, hold⟩
    · exact hkey
    · exact h.order sid session ⟨hold, hl.2⟩
  | none =>
    refine ⟨?_, ?_, ?_⟩
    · intro sid session hl
      rcases HashMap.lookup_insert_some hl.1 with ⟨rfl, rfl⟩ | ⟨_, hold⟩
      · exact AList.lookup_insert _
      · have horder := h.order sid session ⟨hold, hl.2⟩
        have hne : (session.credential, session.instanceId) ≠ (id, instanceId) := by
          intro heq
          rw [heq, hkey] at horder
          nomatch horder
        exact (AList.lookup_insert_ne hne).trans horder
    · intro key n hn
      rcases HashMap.lookup_insert_some hn with ⟨_, rfl⟩ | ⟨_, hold⟩
      · exact le_refl _
      · exact Nat.le_succ_of_le (h.bound key n hold)
    · intro key key' n hn hn'
      rcases HashMap.lookup_insert_some hn with ⟨rfl, rfl⟩ | ⟨_, hold⟩
      · rcases HashMap.lookup_insert_some hn' with ⟨rfl, _⟩ | ⟨_, hold'⟩
        · rfl
        · have hle := h.bound key' _ hold'
          omega
      · rcases HashMap.lookup_insert_some hn' with ⟨rfl, rfl⟩ | ⟨_, hold'⟩
        · have hle := h.bound key _ hold
          omega
        · exact h.injective key key' n hold hold'

section Invariant
variable [NetLiterals] [Ring]

theorem numbered_step {op : Op} {runtime next : Runtime} (h : Numbered runtime)
    (hs : applyOp op runtime = some next) : Numbered next := by
  rcases applyOp_cases hs with rfl | ⟨sessionId, _, _, instanceId, _, token, credential, _, _, _, rfl⟩ |
    ⟨config, table, _, _, rfl⟩ | ⟨dropped, _, rfl⟩
  · exact h
  · unfold registered
    split
    · exact numbered_enroll (numbered_takeover h _ _) _ _ _
    · exact numbered_enroll h _ _ _
  · by_cases hsame : runtime.config.auth.accessToken = config.auth.accessToken
    · have hunchanged : runtime.gatewayChanged config = false := by
        simp [Runtime.gatewayChanged, hsame]
      have horders : (runtime.reconfigure config table).orders = runtime.orders := by
        simp only [Runtime.reconfigure, hunchanged, Bool.false_eq_true, if_false]
      refine ⟨?_, ?_, ?_⟩
      · intro sid session hl
        rw [horders]
        exact h.order sid session (live_reconfigure hl).1
      · rw [horders]
        exact h.bound
      · rw [horders]
        exact h.injective
    · have hchanged : runtime.gatewayChanged config = true := by
        simp [Runtime.gatewayChanged, hsame]
      have horders : (runtime.reconfigure config table).orders = ∅ := by
        simp only [Runtime.reconfigure, hchanged, if_true]
      refine ⟨?_, ?_, ?_⟩
      · intro sid session hl
        exact absurd (live_reconfigure hl).2.gateway hsame
      · rw [horders]
        intro a n hl
        cases hl
      · rw [horders]
        intro a b n hl
        cases hl
  · exact ⟨fun sid session hl => h.order sid session ⟨(HashMap.lookup_erase_some hl.1).2, hl.2⟩,
      h.bound, h.injective⟩

theorem numbered_reachable {runtime : Runtime} (h : registry.Reachable runtime) :
    Numbered runtime := by
  apply Machine.ReachableUnder.invariant _ _ h
  · intro runtime hstart
    obtain ⟨config, hnew⟩ := hstart
    obtain ⟨table, _, hnew⟩ := bind_eq_ok.mp hnew
    cases pure_eq_ok.mp hnew
    refine ⟨?_, nofun, nofun⟩
    intro sid session hl
    have hl := hl.1
    simp at hl
  · exact fun _ _ _ _ hn _ hs => numbered_step hn hs

end Invariant

/-! ### Winners -/

/-- The session competes for its credential. -/
def Competes (next : Credentials) (session : SessionInfo) : Prop :=
  session.signal = none ∧ ((next.lookup session.credential).any (·.single)) = true

theorem recordWinner_grows {next : Credentials} {winners : Winners} {session : SessionInfo}
    {id : String} {n : Nat}
    (h : (∃ w, winners.lookup id = some w ∧ n ≤ w.1) ∨
      (Competes next session ∧ session.credential = id ∧ n ≤ session.order)) :
    ∃ w, (recordWinner next winners session).lookup id = some w ∧ n ≤ w.1 := by
  unfold recordWinner
  by_cases hid : id = session.credential
  · subst hid
    split
    · cases hw : winners.lookup session.credential with
      | none =>
        rcases h with ⟨w, hw', _⟩ | ⟨_, _, hn⟩
        · rw [hw] at hw'
          nomatch hw'
        · exact ⟨_, AList.lookup_insert _, hn⟩
      | some winner =>
        -- the greater of the two orders is kept
        have hn : n ≤ winner.1 ∨ n ≤ session.order := by
          rcases h with ⟨w, hw', hn⟩ | ⟨_, _, hn⟩
          · rw [hw] at hw'
            cases hw'
            exact .inl hn
          · exact .inr hn
        by_cases hgreater : session.order > winner.1
        · simp only [if_pos hgreater]
          exact ⟨_, AList.lookup_insert _, show n ≤ session.order by omega⟩
        · simp only [if_neg hgreater]
          exact ⟨winner, hw, by omega⟩
    · rename_i hcompetes
      rcases h with hw | ⟨hc, _⟩
      · exact hw
      · exact absurd hc hcompetes
  · have hw : ∃ w, winners.lookup id = some w ∧ n ≤ w.1 := by
      rcases h with hw | ⟨_, hc, _⟩
      · exact hw
      · exact absurd hc.symm hid
    split
    · split
      · rw [AList.lookup_insert_ne hid]
        exact hw
      · split
        · rw [AList.lookup_insert_ne hid]
          exact hw
        · exact hw
    · exact hw

/-- The winner's order is the greatest. -/
theorem foldl_recordWinner_grows {next : Credentials} {sessions : List SessionInfo}
    {winners : Winners} {id : String} {n : Nat}
    (h : (∃ w, winners.lookup id = some w ∧ n ≤ w.1) ∨
      ∃ session ∈ sessions, Competes next session ∧ session.credential = id ∧ n ≤ session.order) :
    ∃ w, (sessions.foldl (recordWinner next) winners).lookup id = some w ∧ n ≤ w.1 := by
  induction sessions generalizing winners with
  | nil =>
    rcases h with hw | ⟨_, hmem, _⟩
    · exact hw
    · nomatch hmem
  | cons first rest ih =>
    apply ih
    rcases h with hw | ⟨session, hmem, hcompetes⟩
    · exact .inl (recordWinner_grows (.inl hw))
    · rcases List.mem_cons.mp hmem with rfl | hmem
      · exact .inl (recordWinner_grows (.inr hcompetes))
      · exact .inr ⟨session, hmem, hcompetes⟩

/-- Where equal orders mean one instance, a winner does not depend on the order of
the visits. -/
theorem winner_of_perm {next : Credentials} {sessions sessions' : List SessionInfo}
    (hp : sessions.Perm sessions')
    (hone : ∀ a ∈ sessions, ∀ b ∈ sessions, a.signal = none → b.signal = none → a.order = b.order →
      a.instanceId = b.instanceId) {id : String} {w : Nat × String}
    (h : (sessions.foldl (recordWinner next) ∅).lookup id = some w) :
    (sessions'.foldl (recordWinner next) ∅).lookup id = some w := by
  have hcompetitor : ∀ {l : List SessionInfo} {w : Nat × String},
      (l.foldl (recordWinner next) ∅).lookup id = some w → ∃ session ∈ l, Competes next session ∧
        session.credential = id ∧ w = (session.order, session.instanceId) := by
    intro l w hw
    rcases foldl_recordWinner_some hw with hnone | ⟨session, hmem, hunset, hsingle, hid, hw⟩
    · simp at hnone
    · exact ⟨session, hmem, ⟨hunset, hsingle⟩, hid, hw⟩
  obtain ⟨a, ha, hca, hida, rfl⟩ := hcompetitor h
  obtain ⟨w', hw', hle⟩ := foldl_recordWinner_grows
    (.inr ⟨a, hp.subset ha, hca, hida, le_refl a.order⟩)
  obtain ⟨b, hb, hcb, hidb, rfl⟩ := hcompetitor hw'
  obtain ⟨w'', hw'', hge⟩ := foldl_recordWinner_grows
    (.inr ⟨b, hp.symm.subset hb, hcb, hidb, le_refl b.order⟩)
  rw [h] at hw''
  cases hw''
  have horder : a.order = b.order := le_antisymm hle hge
  rw [hw', horder, hone a ha b (hp.symm.subset hb) hca.1 hcb.1 horder]

/-! ### Reordered registries -/

/-- The same registry, its maps iterated in other orders. -/
structure Runtime.Reordered (a b : Runtime) : Prop where
  config : a.config = b.config
  credentials : HashMap.Reordered a.credentials b.credentials
  sessions : HashMap.Reordered a.sessions b.sessions
  orders : HashMap.Reordered a.orders b.orders
  retired : a.retired = b.retired
  nextOrder : a.nextOrder = b.nextOrder

namespace Runtime.Reordered
variable {a b : Runtime}

theorem signal (h : a.Reordered b) (sid : String) : a.signal sid = b.signal sid := by
  rw [Runtime.signal, Runtime.signal, h.sessions.lookup]

theorem takeover (h : a.Reordered b) (id instanceId : String) :
    (a.takeover id instanceId).Reordered (b.takeover id instanceId) := by
  refine ⟨h.config, h.credentials, h.sessions.mapValues _, h.orders, ?_, h.nextOrder⟩
  simp only [Runtime.takeover, h.retired]
  rw [List.toFinset_eq_of_perm _ _ (h.orders.keys.filter _)]

theorem enroll (h : a.Reordered b) (sessionId id instanceId : String) :
    (a.enroll sessionId id instanceId).Reordered (b.enroll sessionId id instanceId) := by
  unfold Runtime.enroll Runtime.assignOrder
  rw [← h.orders.lookup, ← h.nextOrder]
  cases a.orders.lookup (id, instanceId) with
  | some order =>
    exact ⟨h.config, h.credentials, h.sessions.insert _ _, h.orders, h.retired, h.nextOrder⟩
  | none =>
    exact ⟨h.config, h.credentials, h.sessions.insert _ _, h.orders.insert _ _, h.retired, rfl⟩

end Runtime.Reordered

/-! ### The loops of a reload -/

namespace Runtime

/-- One turn of the loop over the winners. -/
def retireLosers (orders : HashMap (String × String) Nat) (retired : Finset (String × String))
    (winner : Sigma fun _ : String => Nat × String) : Finset (String × String) :=
  retired ∪ (orders.keys.filter fun key => key.1 = winner.1 ∧ key.2 ≠ winner.2.2).toFinset

/-- `reconfigure` loop by loop: the winners are those that the sessions make in their
order, and are iterated in the order that `visit` gives them. -/
def reconfigureVisiting (visit : Winners → Winners) (config : GatewayConfig) (next : Credentials)
    (runtime : Runtime) : Runtime :=
  let changed := runtime.gatewayChanged config
  let orders := if changed then ∅ else runtime.orders
  let retired := if changed then ∅ else runtime.retired
  let winners := visit (runtime.winners changed next)
  { runtime with
    config := config
    credentials := next
    orders := orders
    retired := winners.entries.foldl (retireLosers orders) retired
    sessions := runtime.sessions.mapValues fun session =>
      cancel (reloadError changed runtime.credentials next winners session) session }

theorem mem_foldl_retireLosers {orders : HashMap (String × String) Nat}
    {winners : List (Sigma fun _ : String => Nat × String)} {retired : Finset (String × String)}
    {key : String × String} :
    key ∈ winners.foldl (retireLosers orders) retired ↔
      key ∈ retired ∨ key ∈ orders ∧ ∃ w ∈ winners, key.1 = w.1 ∧ key.2 ≠ w.2.2 := by
  induction winners generalizing retired with
  | nil => simp
  | cons first rest ih =>
    simp only [List.foldl_cons, ih, retireLosers, Finset.mem_union, List.mem_toFinset, List.mem_filter,
      decide_eq_true_eq, List.mem_cons, exists_eq_or_imp, ← AList.mem_keys]
    tauto

/-- The loop over the winners retires the losers, whatever its order. -/
theorem foldl_retireLosers (orders : HashMap (String × String) Nat)
    (retired : Finset (String × String)) (winners : Winners) :
    winners.entries.foldl (retireLosers orders) retired = retired ∪ losers orders winners := by
  ext key
  simp only [mem_foldl_retireLosers, Finset.mem_union, losers, List.mem_toFinset, List.mem_filter,
    Option.any_eq_true, decide_eq_true_eq, ← AList.mem_keys, HashMap.lookup_eq_some_iff]
  apply or_congr_right
  apply and_congr_right
  intro _
  constructor
  · intro hw
    obtain ⟨⟨id, w⟩, hmem, rfl, hne⟩ := hw
    exact ⟨w, hmem, hne⟩
  · intro hw
    obtain ⟨w, hmem, hne⟩ := hw
    exact ⟨⟨key.1, w⟩, hmem, rfl, hne⟩

theorem losers_congr {orders orders' : HashMap (String × String) Nat} {winners winners' : Winners}
    (ho : HashMap.Reordered orders orders') (hw : ∀ id, winners.lookup id = winners'.lookup id) :
    losers orders winners = losers orders' winners' := by
  unfold losers
  simp only [hw]
  exact List.toFinset_eq_of_perm _ _ (ho.keys.filter _)

theorem reloadError_congr {changed : Bool} {old old' next next' : Credentials}
    {winners winners' : Winners} (hold : ∀ id, old.lookup id = old'.lookup id)
    (hnext : ∀ id, next.lookup id = next'.lookup id)
    (hw : ∀ id, winners.lookup id = winners'.lookup id) (session : SessionInfo) :
    reloadError changed old next winners session = reloadError changed old' next' winners' session := by
  simp only [reloadError, hold, hnext, hw]

theorem recordWinner_congr {next next' : Credentials}
    (hnext : ∀ id, next.lookup id = next'.lookup id) : recordWinner next = recordWinner next' := by
  funext winners session
  simp only [recordWinner, hnext]

theorem winners_reordered {a b : Runtime} (h : a.Reordered b) (ha : Numbered a)
    {next next' : Credentials} (hnext : ∀ id, next.lookup id = next'.lookup id) (changed : Bool)
    (id : String) : (a.winners changed next).lookup id = (b.winners changed next').lookup id := by
  have hone : ∀ x ∈ a.sessions.values, ∀ y ∈ a.sessions.values, x.signal = none → y.signal = none →
      x.order = y.order → x.instanceId = y.instanceId := by
    intro x hx y hy hlx hly ho
    obtain ⟨sid, hsid⟩ := (HashMap.mem_values _ _).mp hx
    obtain ⟨sid', hsid'⟩ := (HashMap.mem_values _ _).mp hy
    exact ha.instance_eq ⟨hsid, hlx⟩ ⟨hsid', hly⟩ ho
  have hperm := h.sessions.values
  have hone' : ∀ x ∈ b.sessions.values, ∀ y ∈ b.sessions.values, x.signal = none → y.signal = none →
      x.order = y.order → x.instanceId = y.instanceId :=
    fun x hx y hy => hone x (hperm.symm.subset hx) y (hperm.symm.subset hy)
  cases changed with
  | true => rfl
  | false =>
    simp only [winners, Bool.false_eq_true, if_false, ← recordWinner_congr hnext]
    apply Option.ext
    intro w
    exact ⟨winner_of_perm hperm hone, winner_of_perm hperm.symm hone'⟩

/-- A reconfiguration makes the same registry of one in another order, whatever the
order of its loops. -/
theorem reconfigureVisiting_reordered {a b : Runtime} (h : a.Reordered b) (ha : Numbered a)
    {visit : Winners → Winners} (hvisit : ∀ w, HashMap.Reordered w (visit w)) (config : GatewayConfig)
    {next next' : Credentials} (hnext : HashMap.Reordered next next') :
    (a.reconfigure config next).Reordered (b.reconfigureVisiting visit config next') := by
  have hchanged : a.gatewayChanged config = b.gatewayChanged config := by
    simp only [gatewayChanged, h.config]
  have hwinners : ∀ id, (a.winners (b.gatewayChanged config) next).lookup id =
      (visit (b.winners (b.gatewayChanged config) next')).lookup id := by
    intro id
    rw [winners_reordered h ha hnext.lookup, (hvisit _).lookup]
  have horders : HashMap.Reordered (if b.gatewayChanged config = true then ∅ else a.orders)
      (if b.gatewayChanged config = true then ∅ else b.orders) := by
    split
    · exact .refl _
    · exact h.orders
  simp only [reconfigure, reconfigureVisiting, hchanged]
  refine ⟨rfl, hnext, ?_, horders, ?_, h.nextOrder⟩
  · simp only [reloadError_congr h.credentials.lookup hnext.lookup hwinners]
    exact h.sessions.mapValues _
  · simp only [foldl_retireLosers, h.retired, losers_congr horders hwinners]

end Runtime

/-! ### Results -/

/-- Both computations fail with the same error, or their values are related. -/
def Agree {ε α β : Type} (R : α → β → Prop) : Except ε α → Except ε β → Prop
  | .ok a, .ok b => R a b
  | .error e, .error e' => e = e'
  | _, _ => False

theorem agree_bind {ε γ α β : Type} {R : α → β → Prop} (x : Except ε γ) {f : γ → Except ε α}
    {g : γ → Except ε β} (h : ∀ c, Agree R (f c) (g c)) : Agree R (x >>= f) (x >>= g) := by
  cases x with
  | error e => exact rfl
  | ok c => exact h c

section Results
variable [NetLiterals] [Ring]

/-- `reload` with its table and its winners in orders of their own. -/
def AppState.reloadVisiting (visit : Winners → Winners) (arrange : Credentials → Credentials)
    (config : GatewayConfig) (runtime : Runtime) : Except Error Runtime := do
  let next ← credentials config
  ensure (runtime.config.gateway = config.gateway)
    (.other "listen 或 path 已修改，需要重启 gateway；本次重载未生效")
  return runtime.reconfigureVisiting visit config (arrange next)

/-- **Iteration order does not show.** A reachable registry and one with the same maps
in other orders answer a reload and a registration alike: the same error, or the same
signals, retired instances, orders and credentials, whatever the orders in which the
reload's own maps are iterated. -/
theorem iteration_order_irrelevant {a b : Runtime} (h : registry.Reachable a) (hab : a.Reordered b) :
    (∀ config visit arrange, (∀ w, HashMap.Reordered w (visit w)) →
      (∀ table, HashMap.Reordered table (arrange table)) →
      Agree (fun next next' => next.Reordered next' ∧ ∀ sid, next.signal sid = next'.signal sid)
        (AppState.reload config a) (AppState.reloadVisiting visit arrange config b)) ∧
    (∀ sessionId gatewayToken userToken instanceId legacy,
      Agree (fun done done' => done.1.Reordered done'.1 ∧
          (∀ sid, done.1.signal sid = done'.1.signal sid) ∧ done.2 = done'.2)
        (AppState.register sessionId gatewayToken userToken instanceId legacy a)
        (AppState.register sessionId gatewayToken userToken instanceId legacy b)) := by
  constructor
  · intro config visit arrange hvisit harrange
    unfold AppState.reload AppState.reloadVisiting
    rw [← hab.config]
    refine agree_bind _ fun table => agree_bind _ fun _ => ?_
    have hnext := Runtime.reconfigureVisiting_reordered hab (numbered_reachable h) hvisit config
      (harrange table)
    exact ⟨hnext, hnext.signal⟩
  · intro sessionId gatewayToken userToken instanceId legacy
    unfold AppState.register
    rw [← hab.config, ← hab.retired]
    refine agree_bind _ fun _ => agree_bind _ fun token => ?_
    simp only [← hab.credentials.lookup]
    refine agree_bind _ fun credential => agree_bind _ fun _ => agree_bind _ fun _ => ?_
    have htaken : (if credential.single then a.takeover (credentialId token) instanceId else a).Reordered
        (if credential.single then b.takeover (credentialId token) instanceId else b) := by
      split
      · exact hab.takeover _ _
      · exact hab
    have hdone := htaken.enroll sessionId (credentialId token) instanceId
    exact ⟨hdone, hdone.signal, rfl⟩

end Results

/-! ### Backwards -/

section Example

local instance orderLiterals : NetLiterals := .dottedQuad
local instance orderRing : Ring := .free

/-- The registry after a takeover, its sessions and orders iterated backwards. -/
def backwards : Runtime :=
  { takenOver with sessions := takenOver.sessions.reverse, orders := takenOver.orders.reverse }

theorem iteration_order_irrelevant_backwards :
    Agree (fun next next' => next.Reordered next' ∧ ∀ sid, next.signal sid = next'.signal sid)
      (AppState.reload singleConfig takenOver)
      (AppState.reloadVisiting HashMap.reverse HashMap.reverse singleConfig backwards) := by
  have hback : takenOver.Reordered backwards :=
    ⟨rfl, .refl _, HashMap.reordered_reverse _, HashMap.reordered_reverse _, rfl, rfl⟩
  exact (iteration_order_irrelevant takenOver_reachable hback).1 singleConfig _ _
    HashMap.reordered_reverse HashMap.reordered_reverse

end Example

end WsNet.Gateway
