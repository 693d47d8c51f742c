import WsNet.Access.Connection
import WsNet.Common.AccessConfig
import WsNet.Transition.Machine

/-! From a listener to a connection.

A pool of connections is started for each gateway of the configuration, and each
request of a listener picks a connection of one pool. Validation, the default URL and
the lookup read the configuration each on their own; what they make of it agrees
(`forListener_routes`). -/
namespace WsNet.Access
open Transition

def usizeValues : Nat := 2 ^ 64

/-! ### Pools -/

/-- What the choice of a connection reads: the connection's maps and its queue. -/
structure ConnectionView where
  connection : GatewayConnection
  outboundClosed : Bool
  capacity : Nat

structure GatewayConnectionPool (κ : Type) where
  gatewayName : String
  serverUrl : String
  connections : List κ
  next : Nat := 0
  nonempty : connections ≠ []

structure GatewayConnections (κ : Type) where
  pools : List (GatewayConnectionPool κ)

variable {κ : Type}

structure Best (κ : Type) where
  best : Option κ := none
  load : Nat := usizeValues - 1
  capacity : Nat := 0

/-- One round of the choice: an open connection with less load, or with more room. -/
def Best.consider (view : κ → ConnectionView) (b : Best κ) (c : κ) : Best κ :=
  let v := view c
  if v.connection.closed = false ∧ v.outboundClosed = false then
    let load := connectionLoad v.connection
    if b.best.isNone ∨ load < b.load ∨ load = b.load ∧ v.capacity > b.capacity then
      ⟨some c, load, v.capacity⟩
    else b
  else b

namespace GatewayConnectionPool

def new (gatewayName serverUrl : String) (connections : List κ) :
    Except Error (GatewayConnectionPool κ) :=
  if h : connections = [] then .error (.other s!"网关连接池“{serverUrl}”没有连接")
  else .ok { gatewayName, serverUrl, connections, nonempty := h }

/-- The connection at an index, counted around the pool. -/
def connectionAt (pool : GatewayConnectionPool κ) (i : Nat) : κ :=
  pool.connections.get
    ⟨i % pool.connections.length, Nat.mod_lt i (List.length_pos_of_ne_nil pool.nonempty)⟩

/-- The open connection with the least load, and the counter moved on. -/
def nextConnection (view : κ → ConnectionView) (pool : GatewayConnectionPool κ) :
    κ × GatewayConnectionPool κ :=
  let start := pool.next
  let rounds := (List.range pool.connections.length).map fun offset =>
    pool.connectionAt ((start + offset) % usizeValues)
  let found := rounds.foldl (Best.consider view) {}
  (found.best.getD (pool.connectionAt start), { pool with next := (pool.next + 1) % usizeValues })

theorem connectionAt_mem (pool : GatewayConnectionPool κ) (i : Nat) :
    pool.connectionAt i ∈ pool.connections := List.get_mem _ _

theorem consider_mem {view : κ → ConnectionView} {b : Best κ} {c d : κ}
    (h : (b.consider view c).best = some d) : d = c ∨ b.best = some d := by
  unfold Best.consider at h
  dsimp only at h
  split at h
  · split at h
    · exact .inl (Option.some.inj h).symm
    · exact .inr h
  · exact .inr h

theorem foldl_consider_mem {view : κ → ConnectionView} {rounds : List κ} {b : Best κ} {d : κ}
    (h : (rounds.foldl (Best.consider view) b).best = some d) : d ∈ rounds ∨ b.best = some d := by
  induction rounds generalizing b with
  | nil => exact .inr h
  | cons c rounds ih =>
    rcases ih h with hd | hd
    · exact .inl (List.mem_cons_of_mem _ hd)
    · rcases consider_mem hd with rfl | hd
      · exact .inl List.mem_cons_self
      · exact .inr hd

/-- What is picked is a connection of the pool, whatever the connections' state. -/
theorem nextConnection_mem (view : κ → ConnectionView) (pool : GatewayConnectionPool κ) :
    (pool.nextConnection view).1 ∈ pool.connections := by
  unfold nextConnection
  dsimp only
  cases hfound : (((List.range pool.connections.length).map fun offset =>
      pool.connectionAt ((pool.next + offset) % usizeValues)).foldl (Best.consider view) {}).best with
  | none => exact pool.connectionAt_mem _
  | some c =>
    rcases foldl_consider_mem hfound with hc | hc
    · obtain ⟨offset, _, rfl⟩ := List.mem_map.mp hc
      exact pool.connectionAt_mem _
    · cases hc

end GatewayConnectionPool

/-! ### The pools of a configuration -/

/-- The connections of one gateway. -/
def startPool (start : AccessGatewayConfig → Nat → κ) (poolSize : Nat) (gateway : AccessGatewayConfig) :
    Except Error (GatewayConnectionPool κ) :=
  GatewayConnectionPool.new gateway.name gateway.serverUrl ((List.range poolSize).map (start gateway))

def GatewayConnections.new (pools : List (GatewayConnectionPool κ)) :
    Except Error (GatewayConnections κ) := do
  ensure (pools ≠ []) (.other "没有可用的网关连接池")
  return ⟨pools⟩

def poolSize (config : AccessConfig) : Nat := max config.access.gatewayPoolSize 1

/-- The identities are looked up before any connection is started. -/
def connectAllRegistered (identity : AccessGatewayConfig → Except Error Unit)
    (start : AccessGatewayConfig → Nat → κ) (config : AccessConfig) :
    Except Error (GatewayConnections κ) := do
  let gateways ← config.gatewayConfigs
  gateways.forM identity
  let pools ← gateways.mapM (startPool start (poolSize config))
  GatewayConnections.new pools

def defaultServerUrl (config : AccessConfig) : Option String :=
  if config.gateways ≠ [] then
    match config.gateways with
    | [gateway] => some (trim gateway.serverUrl)
    | _ => none
  else
    (trimmed config.access.serverUrl).or
      (match config.gatewayConfigs with
      | .ok [gateway] => some gateway.serverUrl
      | _ => none)

/-! ### The lookup -/

/-- A connection of the first pool that is meant. -/
def takeFrom (view : κ → ConnectionView) (meant : GatewayConnectionPool κ → Bool) :
    List (GatewayConnectionPool κ) → Option (κ × List (GatewayConnectionPool κ))
  | [] => none
  | pool :: rest =>
    if meant pool then
      let (connection, pool) := pool.nextConnection view
      some (connection, pool :: rest)
    else (takeFrom view meant rest).map fun r => (r.1, pool :: r.2)

/-- By the gateway's name, by the URL, or the only pool. -/
def route (view : κ → ConnectionView) (listener : ListenerConfig) (gatewayName serverUrl : Option String)
    (pools : List (GatewayConnectionPool κ)) : Except Error (κ × List (GatewayConnectionPool κ)) :=
  match gatewayName, serverUrl, pools with
  | some name, _, pools =>
    orError (takeFrom view (·.gatewayName = name) pools)
      (.other s!"监听器“{listener.name}”引用了不存在的网关“{name}”")
  | none, some url, pools =>
    orError (takeFrom view (·.serverUrl = url) pools)
      (.other s!"监听器“{listener.name}”引用了不存在的网关“{url}”")
  | none, none, [pool] =>
    let (connection, pool) := pool.nextConnection view
    .ok (connection, [pool])
  | none, none, _ => .error (.other s!"监听器“{listener.name}”必须指定 gateway 或 server_url")

def GatewayConnections.forListener (view : κ → ConnectionView) (listener : ListenerConfig)
    (defaultServerUrl : Option String) (c : GatewayConnections κ) :
    Except Error (κ × GatewayConnections κ) := do
  let gatewayName := trimmed listener.gateway
  let listenerServerUrl := trimmed listener.serverUrl
  ensure (¬ (gatewayName.isSome ∧ listenerServerUrl.isSome))
    (.other s!"监听器“{listener.name}”不能同时配置 gateway 和 server_url")
  let found ← route view listener gatewayName (listenerServerUrl.or defaultServerUrl) c.pools
  return (found.1, ⟨found.2⟩)

/-- One request of a listener. -/
structure ListenerRequest (κ : Type) where
  listener : ListenerConfig
  view : κ → ConnectionView

/-- The access's pools, from their start on. -/
def routing (start : AccessGatewayConfig → Nat → κ) (config : AccessConfig) :
    Machine (GatewayConnections κ) (ListenerRequest κ) where
  Initial := fun c => ∃ identity, connectAllRegistered identity start config = .ok c
  step := fun request c =>
    match c.forListener request.view request.listener (defaultServerUrl config) with
    | .ok (_, c) => some c
    | .error _ => some c

/-! ### The pools follow the configuration -/

/-- The pool of a gateway, whatever its counter. -/
structure PoolOf (start : AccessGatewayConfig → Nat → κ) (size : Nat) (gateway : AccessGatewayConfig)
    (pool : GatewayConnectionPool κ) : Prop where
  gatewayName : pool.gatewayName = gateway.name
  serverUrl : pool.serverUrl = gateway.serverUrl
  connections : pool.connections = (List.range size).map (start gateway)

/-- One pool for each gateway, in the same order. -/
abbrev PoolsOf (start : AccessGatewayConfig → Nat → κ) (size : Nat) (gateways : List AccessGatewayConfig)
    (c : GatewayConnections κ) : Prop := List.Forall₂ (PoolOf start size) gateways c.pools

variable {start : AccessGatewayConfig → Nat → κ} {size : Nat}

theorem startPool_ok (start : AccessGatewayConfig → Nat → κ) (gateway : AccessGatewayConfig) (h : 0 < size) :
    ∃ pool, startPool start size gateway = .ok pool ∧ PoolOf start size gateway pool := by
  have hne : (List.range size).map (start gateway) ≠ [] := by
    intro hnil
    have hlen := congrArg List.length hnil
    rw [List.length_map, List.length_range, List.length_nil] at hlen
    omega
  exact ⟨_, dif_neg hne, rfl, rfl, rfl⟩

/-- Every gateway has its pool: a pool without connections is not asked for. -/
theorem mapM_startPool (start : AccessGatewayConfig → Nat → κ) (gateways : List AccessGatewayConfig) (h : 0 < size) :
    ∃ pools, gateways.mapM (startPool start size) = .ok pools ∧
      List.Forall₂ (PoolOf start size) gateways pools := by
  induction gateways with
  | nil => exact ⟨[], rfl, .nil⟩
  | cons gateway rest ih =>
    obtain ⟨pool, hpool, hof⟩ := startPool_ok start gateway h
    obtain ⟨pools, hpools, hrest⟩ := ih
    refine ⟨pool :: pools, ?_, .cons hof hrest⟩
    rw [List.mapM_cons]
    refine bind_eq_ok.mpr ⟨pool, hpool, bind_eq_ok.mpr ⟨pools, hpools, rfl⟩⟩

theorem poolsOf_initial {config : AccessConfig} {gateways : List AccessGatewayConfig}
    (hg : config.gatewayConfigs = .ok gateways) {identity : AccessGatewayConfig → Except Error Unit}
    {c : GatewayConnections κ} (h : connectAllRegistered identity start config = .ok c) :
    PoolsOf start (poolSize config) gateways c := by
  obtain ⟨_, hgateways, h⟩ := bind_eq_ok.mp h
  rw [hg] at hgateways
  cases hgateways
  obtain ⟨_, _, h⟩ := bind_eq_ok.mp h
  obtain ⟨pools, hpools, h⟩ := bind_eq_ok.mp h
  have hsize : 0 < poolSize config := lt_of_lt_of_le Nat.one_pos (le_max_right _ _)
  obtain ⟨pools', hpools', hof⟩ := mapM_startPool start gateways hsize
  rw [hpools] at hpools'
  cases hpools'
  obtain ⟨_, _, h⟩ := bind_eq_ok.mp h
  cases pure_eq_ok.mp h
  exact hof

theorem PoolOf.next {gateway : AccessGatewayConfig} {pool : GatewayConnectionPool κ}
    (h : PoolOf start size gateway pool) (view : κ → ConnectionView) :
    PoolOf start size gateway (pool.nextConnection view).2 ∧
      ∃ i < size, (pool.nextConnection view).1 = start gateway i := by
  refine ⟨⟨h.gatewayName, h.serverUrl, h.connections⟩, ?_⟩
  have hmem := pool.nextConnection_mem view
  rw [h.connections] at hmem
  obtain ⟨i, hi, heq⟩ := List.mem_map.mp hmem
  exact ⟨i, List.mem_range.mp hi, heq.symm⟩

/-- The first pool that is meant is the pool of the first gateway that is. -/
theorem takeFrom_find {gateways : List AccessGatewayConfig} {pools : List (GatewayConnectionPool κ)}
    (h : List.Forall₂ (PoolOf start size) gateways pools) (view : κ → ConnectionView)
    {means : AccessGatewayConfig → Bool} {meant : GatewayConnectionPool κ → Bool}
    (hmeant : ∀ gateway pool, PoolOf start size gateway pool → meant pool = means gateway)
    {gateway : AccessGatewayConfig} (hfind : gateways.find? means = some gateway) :
    ∃ i < size, ∃ pools', takeFrom view meant pools = some (start gateway i, pools') := by
  induction h with
  | nil => cases hfind
  | @cons first pool rest pools hof _ ih =>
    rw [List.find?_cons] at hfind
    rw [takeFrom, hmeant first pool hof]
    cases hmeans : means first with
    | true =>
      rw [hmeans] at hfind
      cases hfind
      obtain ⟨_, i, hi, heq⟩ := hof.next view
      refine ⟨i, hi, (pool.nextConnection view).2 :: pools, ?_⟩
      rw [if_pos rfl, ← heq]
    | false =>
      rw [hmeans] at hfind
      obtain ⟨i, hi, pools', htake⟩ := ih hfind
      refine ⟨i, hi, pool :: pools', ?_⟩
      rw [if_neg Bool.false_ne_true, htake]
      rfl

theorem takeFrom_poolsOf {gateways : List AccessGatewayConfig} {pools pools' : List (GatewayConnectionPool κ)}
    (h : List.Forall₂ (PoolOf start size) gateways pools) {view : κ → ConnectionView}
    {meant : GatewayConnectionPool κ → Bool} {c : κ} (htake : takeFrom view meant pools = some (c, pools')) :
    List.Forall₂ (PoolOf start size) gateways pools' := by
  induction h generalizing pools' with
  | nil => cases htake
  | @cons first pool rest pools hof hrest ih =>
    rw [takeFrom] at htake
    split at htake
    · cases htake
      exact .cons (hof.next view).1 hrest
    · obtain ⟨⟨_, pools''⟩, hr, heq⟩ := Option.map_eq_some_iff.mp htake
      cases heq
      exact .cons hof (ih hr)

theorem route_poolsOf {gateways : List AccessGatewayConfig} {pools pools' : List (GatewayConnectionPool κ)}
    (h : List.Forall₂ (PoolOf start size) gateways pools) {view : κ → ConnectionView}
    {listener : ListenerConfig} {name url : Option String} {connection : κ}
    (hr : route view listener name url pools = .ok (connection, pools')) :
    List.Forall₂ (PoolOf start size) gateways pools' := by
  unfold route at hr
  split at hr
  · exact takeFrom_poolsOf h (orError_eq_ok.mp hr)
  · exact takeFrom_poolsOf h (orError_eq_ok.mp hr)
  · cases hr
    cases h with
    | cons hof hrest => exact .cons (hof.next view).1 hrest
  · cases hr

theorem poolsOf_forListener {gateways : List AccessGatewayConfig} {c c' : GatewayConnections κ}
    (h : PoolsOf start size gateways c) {view : κ → ConnectionView} {listener : ListenerConfig}
    {url : Option String} {connection : κ} (hs : c.forListener view listener url = .ok (connection, c')) :
    PoolsOf start size gateways c' := by
  obtain ⟨_, _, hs⟩ := bind_eq_ok.mp hs
  obtain ⟨found, hfound, hs⟩ := bind_eq_ok.mp hs
  cases pure_eq_ok.mp hs
  exact route_poolsOf h hfound

theorem poolsOf_reachable {config : AccessConfig} {gateways : List AccessGatewayConfig}
    (hg : config.gatewayConfigs = .ok gateways) {c : GatewayConnections κ}
    (h : (routing start config).Reachable c) : PoolsOf start (poolSize config) gateways c := by
  apply h.invariant
  · intro c hc
    obtain ⟨identity, hc⟩ := hc
    exact poolsOf_initial hg hc
  · intro request c c' _ hof _ hs
    simp only [routing] at hs
    split at hs
    · rename_i hok
      cases hs
      exact poolsOf_forListener hof hok
    · cases hs
      exact hof

/-! ### Routes -/

/-- The gateway that a listener names, else the first with its URL, else the only one
or the one of the old form's `server_url`. -/
def RoutesTo (config : AccessConfig) (gateways : List AccessGatewayConfig) (listener : ListenerConfig)
    (gateway : AccessGatewayConfig) : Prop :=
  match trimmed listener.gateway, trimmed listener.serverUrl with
  | some name, _ => gateway.name = name ∧ ∀ other ∈ gateways, other.name = name → other = gateway
  | none, some url => gateways.find? (·.serverUrl = url) = some gateway
  | none, none => gateways = [gateway] ∨ config.gateways = [] ∧
      ∃ url, trimmed config.access.serverUrl = some url ∧
        gateways.find? (·.serverUrl = url) = some gateway

theorem exists_find {gateways : List AccessGatewayConfig} {p : AccessGatewayConfig → Bool}
    (h : ∃ g ∈ gateways, p g = true) : ∃ g ∈ gateways, gateways.find? p = some g ∧ p g = true := by
  obtain ⟨g, hg⟩ := Option.isSome_iff_exists.mp (List.find?_isSome.mpr h)
  exact ⟨g, List.mem_of_find?_eq_some hg, hg, List.find?_some hg⟩

/-- The default URL of a configuration that may leave the gateway out has a gateway. -/
theorem defaultServerUrl_found {config : AccessConfig} {gateways : List AccessGatewayConfig}
    (hg : config.gatewayConfigs = .ok gateways) (hdefault : config.hasDefaultGateway gateways = true) :
    ∃ url, defaultServerUrl config = some url ∧ ∃ gateway ∈ gateways,
      gateways.find? (·.serverUrl = url) = some gateway ∧
        (gateways = [gateway] ∨ config.gateways = [] ∧ trimmed config.access.serverUrl = some url) := by
  have hv := AccessConfig.valid_of_gatewayConfigs hg
  have hdefault := of_decide_eq_true hdefault
  have hsingle : ∀ gateway url, gateways = [gateway] → gateway.serverUrl = url →
      gateways.find? (·.serverUrl = url) = some gateway := by
    intro gateway url hone hurl
    rw [hone]
    exact List.find?_cons_of_pos (decide_eq_true hurl)
  by_cases hold : config.gateways = []
  · cases hlegacy : trimmed config.access.serverUrl with
    | some url =>
      obtain ⟨gateway, hmem, hfind, _⟩ := exists_find (p := fun g => g.serverUrl = url) (by
        obtain ⟨g, hmem, hurl⟩ := hv.legacy hold hlegacy
        exact ⟨g, hmem, decide_eq_true hurl⟩)
      refine ⟨url, ?_, gateway, hmem, hfind, .inr ⟨hold, rfl⟩⟩
      rw [defaultServerUrl, if_neg (not_not.mpr hold), hlegacy]
      rfl
    | none =>
      have hlength : gateways.length = 1 := by
        rcases hdefault with hone | ⟨_, hany⟩
        · exact hone
        · rw [any_trim, hlegacy] at hany
          cases hany
      obtain ⟨gateway, hone⟩ := List.length_eq_one_iff.mp hlength
      refine ⟨gateway.serverUrl, ?_, gateway, ?_, hsingle _ _ hone rfl, .inl hone⟩
      · rw [defaultServerUrl, if_neg (not_not.mpr hold), hlegacy, hg, hone]
        rfl
      · rw [hone]
        exact List.mem_cons_self
  · obtain ⟨raw, hraw, hmap⟩ := hv.trimmed
    rw [AccessConfig.configuredGateways, if_neg hold] at hraw
    cases hraw
    have hlength : gateways.length = 1 := by
      rcases hdefault with hone | ⟨hnil, _⟩
      · exact hone
      · exact absurd hnil hold
    rw [hmap, List.length_map] at hlength
    obtain ⟨gateway, hone⟩ := List.length_eq_one_iff.mp hlength
    rw [hone] at hmap
    refine ⟨trim gateway.serverUrl, ?_, AccessConfig.trimGateway gateway, ?_,
      hsingle _ _ hmap rfl, .inl hmap⟩
    · rw [defaultServerUrl, if_pos hold, hone]
    · rw [hmap]
      exact List.mem_cons_self

/-- **A listener of a valid configuration is always routed**: from the start on and
whatever the connections' state, a request gets a connection that was started for the
gateway which the listener means. -/
theorem forListener_routes {config : AccessConfig} {gateways : List AccessGatewayConfig}
    (hg : config.gatewayConfigs = .ok gateways) (start : AccessGatewayConfig → Nat → κ)
    {c : GatewayConnections κ} (h : (routing start config).Reachable c) (view : κ → ConnectionView)
    {listener : ListenerConfig} (hl : listener ∈ config.listeners) :
    ∃ gateway ∈ gateways, RoutesTo config gateways listener gateway ∧ ∃ i < poolSize config, ∃ c',
      c.forListener view listener (defaultServerUrl config) = .ok (start gateway i, c') := by
  have hv := AccessConfig.valid_of_gatewayConfigs hg
  have hof := poolsOf_reachable hg h
  obtain ⟨_, hboth, hcheck⟩ := bind_eq_ok.mp (hv.listener listener hl)
  have hboth := ensure_eq_ok.mp hboth
  -- the lookup among the pools is the one among the gateways
  have byUrl : ∀ {gateway url}, gateways.find? (·.serverUrl = url) = some gateway →
      ∃ i < poolSize config, ∃ pools', takeFrom view (·.serverUrl = url) c.pools =
        some (start gateway i, pools') := fun hfind =>
    takeFrom_find hof view (fun _ _ hp => by rw [hp.serverUrl]) hfind
  have routed : ∀ {gateway i} pools',
      route view listener (trimmed listener.gateway)
        ((trimmed listener.serverUrl).or (defaultServerUrl config)) c.pools =
          .ok (start gateway i, pools') →
      ∃ c', c.forListener view listener (defaultServerUrl config) = .ok (start gateway i, c') :=
    fun _ hr => ⟨_, bind_eq_ok.mpr ⟨(), ensure_eq_ok.mpr hboth, bind_eq_ok.mpr ⟨_, hr, rfl⟩⟩⟩
  cases hname : trimmed listener.gateway with
  | some name =>
    rw [hname] at hcheck
    obtain ⟨gateway, hmem, hfind, hgateway⟩ := exists_find (List.any_eq_true.mp (ensure_eq_ok.mp hcheck))
    have hmeant : ∀ gateway pool, PoolOf start (poolSize config) gateway pool →
        decide (pool.gatewayName = name) = decide (gateway.name = name) := by
      intro gateway pool hp
      rw [hp.gatewayName]
    obtain ⟨i, hi, pools', htake⟩ := takeFrom_find hof view hmeant hfind
    refine ⟨gateway, hmem, ?_, i, hi, routed pools' ?_⟩
    · have hgateway : gateway.name = name := of_decide_eq_true hgateway
      simp only [RoutesTo, hname]
      exact ⟨hgateway, fun other ho hother => hv.unique ho hmem (hother.trans hgateway.symm)⟩
    · rw [hname]
      exact orError_eq_ok.mpr htake
  | none =>
    rw [hname] at hcheck
    cases hurl : trimmed listener.serverUrl with
    | some url =>
      rw [hurl] at hcheck
      obtain ⟨gateway, hmem, hfind, _⟩ := exists_find (List.any_eq_true.mp (ensure_eq_ok.mp hcheck))
      obtain ⟨i, hi, pools', htake⟩ := byUrl hfind
      refine ⟨gateway, hmem, ?_, i, hi, routed pools' ?_⟩
      · simp only [RoutesTo, hname, hurl]
        exact hfind
      · rw [hname, hurl]
        exact orError_eq_ok.mpr htake
    | none =>
      rw [hurl] at hcheck
      obtain ⟨url, hdefault, gateway, hmem, hfind, hwhich⟩ :=
        defaultServerUrl_found hg (ensure_eq_ok.mp hcheck)
      obtain ⟨i, hi, pools', htake⟩ := byUrl hfind
      refine ⟨gateway, hmem, ?_, i, hi, routed pools' ?_⟩
      · simp only [RoutesTo, hname, hurl]
        rcases hwhich with hone | ⟨hold, hlegacy⟩
        · exact .inl hone
        · exact .inr ⟨hold, url, hlegacy, hfind⟩
      · rw [hname, hurl, hdefault]
        exact orError_eq_ok.mpr htake

/-! ### A configuration of the old form -/

/-- Two URLs, and a listener that names neither. -/
def legacyConfig : AccessConfig where
  access := ⟨some "token", some " ws://a/tunnel ", ["ws://b/tunnel"], 0⟩
  gateways := []
  listeners := [⟨"web", some " ", none⟩]

def legacyGateways : List AccessGatewayConfig :=
  [⟨"gateway-1", "ws://a/tunnel", "token", none⟩, ⟨"gateway-2", "ws://b/tunnel", "token", none⟩]

/-- A connection is its gateway and its number. -/
def legacyConnections : GatewayConnections (AccessGatewayConfig × Nat) :=
  ((connectAllRegistered (fun _ => .ok ()) Prod.mk legacyConfig).toOption).getD ⟨[]⟩

theorem forListener_routes_legacyConfig :
    ∃ gateway ∈ legacyGateways, RoutesTo legacyConfig legacyGateways ⟨"web", some " ", none⟩ gateway ∧
      ∃ i < poolSize legacyConfig, ∃ c',
        legacyConnections.forListener (fun _ => ⟨{}, false, 1024⟩) ⟨"web", some " ", none⟩
          (defaultServerUrl legacyConfig) = .ok ((gateway, i), c') := by
  have hgateways : legacyConfig.gatewayConfigs = .ok legacyGateways := by decide +kernel
  have hinitial : connectAllRegistered (fun _ => .ok ()) Prod.mk legacyConfig = .ok legacyConnections := by
    unfold legacyConnections
    cases hconnect : connectAllRegistered (fun _ => .ok ()) Prod.mk legacyConfig with
    | ok c => rfl
    | error e =>
      have hok : (connectAllRegistered (fun _ => .ok ()) Prod.mk legacyConfig).isOk = true := by
        decide +kernel
      rw [hconnect] at hok
      cases hok
  exact forListener_routes hgateways Prod.mk (.initial ⟨_, hinitial⟩) _ List.mem_cons_self

end WsNet.Access
