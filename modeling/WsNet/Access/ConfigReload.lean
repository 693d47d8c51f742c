import WsNet.Access.Identity
import WsNet.Access.Routing

/-! Reloading the access's configuration.

A reload releases the listeners and the connections of the configuration in force
before it binds those of the new one, so an address can move from one listener to
another. Each failure after that point has its own way back: the old listeners are
bound again and the old connections started anew, or, where that fails too, nothing
is left running and the next reload starts from there.

The listeners and the tasks of the connections are the state here. What a listener
accepts and a task sends are left out, as are the counters of the pools. -/
namespace WsNet

/-- A failure with what was being done: the text of both, as the log prints it. -/
def Error.context (text : String) (error : Error) : Error := .other (text ++ ": " ++ error.text)

namespace Access
open Transition

/-! ### Listeners -/

/-- A listener with what it binds and how it serves, beside what routes it. -/
structure Listener extends ListenerConfig where
  mode : Mode
  listen : String
  host : String
  localScheme : Option String
  autoCert : Bool
  deriving DecidableEq, Repr

/-- The content of the configuration file. -/
structure FileConfig where
  access : AccessSection
  gateways : List AccessGatewayConfig
  listeners : List Listener
  deriving DecidableEq, Repr

/-- What the gateways and the routes read. -/
def FileConfig.routing (config : FileConfig) : AccessConfig :=
  ⟨config.access, config.gateways, config.listeners.map (·.toListenerConfig)⟩

/-- A listener and the host of its certificate, where it serves HTTPS. -/
structure PreparedListener where
  listener : Listener
  tls : Option String
  deriving DecidableEq, Repr

/-- `self_signed_tls_config` for each host: it succeeds, or why it does not. -/
abbrev Certificates := String → Except Error Unit

def listenerTlsAcceptor (certificates : Certificates) (listener : Listener) :
    Except Error (Option String) :=
  if listener.localScheme ≠ some "https" then .ok none
  else do
    ensure listener.autoCert (.other s!"监听器“{listener.name}”使用 HTTPS，必须开启 auto_cert")
    certificates listener.host
    return some listener.host

/-- A listener that serves HTTPS to its own clients. -/
def Listener.TerminatesTls (listener : Listener) : Prop :=
  listener.mode = .http ∧ listener.localScheme = some "https"

/-- Only an HTTP listener has one. -/
def tlsOf (certificates : Certificates) (listener : Listener) : Except Error (Option String) :=
  if listener.mode = .http then listenerTlsAcceptor certificates listener else .ok none

namespace PreparedListeners

/-- The listeners after those whose names are given. -/
def newAfter (certificates : Certificates) (names : List String) :
    List Listener → Except Error (List PreparedListener)
  | [] => .ok []
  | listener :: rest => do
    ensure (¬ (isBlank listener.name ∨ listener.name ∈ names))
      (.other s!"监听器名称不能为空或重复：{listener.name}")
    let tls ← tlsOf certificates listener
    let prepared ← newAfter certificates (listener.name :: names) rest
    return ⟨listener, tls⟩ :: prepared

def new (certificates : Certificates) (listeners : List Listener) :
    Except Error (List PreparedListener) :=
  newAfter certificates [] listeners

/-- Binds from the position on. A socket bound before a failure is dropped with the
list that holds it. -/
def bindFrom (failures : Nat → Option String) (position : Nat) :
    List PreparedListener → Except Error (List PreparedListener)
  | [] => .ok []
  | prepared :: rest =>
    match failures position with
    | some cause => .error (Error.context
        s!"监听器“{prepared.listener.name}”无法绑定 {prepared.listener.listen}" (.other cause))
    | none => do
      let bound ← bindFrom failures (position + 1) rest
      return prepared :: bound

/-- The binds fail at the positions that have a cause. -/
def bind (failures : Nat → Option String) (prepared : List PreparedListener) :
    Except Error (List PreparedListener) :=
  bindFrom failures 0 prepared

end PreparedListeners

/-! ### Connections -/

/-- A connection's task: its gateway and its place in the pool, in a generation of pools. -/
structure ConnectionTask where
  generation : Nat
  gateway : AccessGatewayConfig
  place : Nat
  deriving DecidableEq, Repr

def GatewayConnections.tasks (c : GatewayConnections ConnectionTask) : List ConnectionTask :=
  c.pools.flatMap (·.connections)

/-- The bound listeners, and the state with which they serve. -/
structure Listeners where
  bound : List PreparedListener
  defaultServerUrl : Option String
  connections : GatewayConnections ConnectionTask

structure AccessState where
  currentConfig : FileConfig
  defaultServerUrl : Option String
  connections : GatewayConnections ConnectionTask
  listeners : Listeners
  /-- The tasks that were spawned. -/
  started : List ConnectionTask := []
  /-- The tasks that were told to stop. -/
  stopped : List ConnectionTask := []
  generation : Nat := 0

section Reload
variable [Ring] [UrlParser]

/-- The identity of a gateway, which is kept in the registry under its key. -/
def identity (gateway : AccessGatewayConfig) : Except Error Unit := do
  let _ ← identityKey gateway.serverUrl gateway.token gateway.userToken

/-- The gateways of a configuration, their identities looked up. -/
def identities (config : FileConfig) : Except Error (List AccessGatewayConfig) := do
  let gateways ← config.routing.gatewayConfigs
  gateways.forM identity
  return gateways

namespace AccessState

/-- One more generation of tasks. -/
def spawn (tasks : List ConnectionTask) (s : AccessState) : AccessState :=
  { s with started := s.started ++ tasks, generation := s.generation + 1 }

/-- `connect_all_registered`: the tasks are spawned once the identities are there. -/
def connect (config : FileConfig) (s : AccessState) :
    Except Error (GatewayConnections ConnectionTask) × AccessState :=
  let pools := connectAllRegistered identity (ConnectionTask.mk s.generation) config.routing
  match identities config with
  | .error _ => (pools, s)
  | .ok gateways =>
    (pools, s.spawn (gateways.flatMap fun gateway =>
      (List.range (poolSize config.routing)).map (ConnectionTask.mk s.generation gateway)))

/-- `Listeners::stop`, which waits for the listeners' tasks. -/
def stopListeners (s : AccessState) : AccessState :=
  { s with listeners := { s.listeners with bound := [] } }

def stopGatewayConnections (s : AccessState) : AccessState :=
  { s with stopped := s.stopped ++ s.connections.tasks }

/-- `Listeners::start`, with a copy of the state. -/
def startListeners (bound : List PreparedListener) (s : AccessState) : AccessState :=
  { s with listeners := ⟨bound, s.defaultServerUrl, s.connections⟩ }

end AccessState

/-! ### The reload -/

def load (content : Except Error FileConfig) : Except Error FileConfig := do
  let config ← content
  let _ ← config.routing.gatewayConfigs
  return config

/-- What the environment answers in one reload. -/
structure ReloadInput where
  content : Except Error FileConfig
  certificates : Certificates
  /-- The certificates of the listeners in force. -/
  previousCertificates : Certificates
  /-- The binds of the attempt and of the restoration that fail. -/
  failures : Nat → Option String
  restoreFailures : Nat → Option String

/-- What the checks before the stop leave: the new configuration, its listeners and
those in force. -/
structure Checked where
  config : FileConfig
  prepared : List PreparedListener
  previous : List PreparedListener

def checks (r : ReloadInput) (current : FileConfig) : Except Error Checked := do
  let config ← (load r.content).mapError (Error.context "加载 access 配置失败")
  let prepared ← PreparedListeners.new r.certificates config.listeners
  let previous ← PreparedListeners.new r.previousCertificates current.listeners
  let _ ← identities config
  return ⟨config, prepared, previous⟩

namespace AccessState

/-- The attempt: nothing is started unless every listener is bound. -/
def replacement (r : ReloadInput) (c : Checked) (s : AccessState) :
    Except Error (List PreparedListener × GatewayConnections ConnectionTask) × AccessState :=
  match PreparedListeners.bind r.failures c.prepared with
  | .error e => (.error e, s)
  | .ok bound =>
    match s.connect c.config with
    | (.error e, s) => (.error e, s)
    | (.ok connections, s) => (.ok (bound, connections), s)

/-- The way back to the configuration in force. -/
def restore (r : ReloadInput) (c : Checked) (error : Error) (s : AccessState) :
    Error × AccessState :=
  match PreparedListeners.bind r.restoreFailures c.previous with
  | .error e =>
    (e.context s!"新配置应用失败（{error.text}），旧监听器恢复也失败，请检查端口占用后重新加载或重启客户端", s)
  | .ok restored =>
    match s.connect s.currentConfig with
    | (.error e, s) => (e.context "恢复原配置的网关连接失败", s)
    | (.ok connections, s) =>
      (error.context "已恢复原配置的监听器",
        { s with connections }.startListeners restored)

def reloadAccessConfig (r : ReloadInput) (s : AccessState) : Except Error Unit × AccessState :=
  match checks r s.currentConfig with
  | .error e => (.error e, s)
  | .ok c =>
    match s.stopListeners.stopGatewayConnections.replacement r c with
    | (.ok (bound, connections), s) =>
      (.ok (), { { s with
          connections
          defaultServerUrl := Access.defaultServerUrl c.config.routing }.startListeners bound with
        currentConfig := c.config })
    | (.error e, s) =>
      let (e, s) := s.restore r c e
      (.error e, s)

end AccessState

/-! ### The machine -/

/-- Before anything runs. -/
def blank (config : FileConfig) : AccessState where
  currentConfig := config
  defaultServerUrl := defaultServerUrl config.routing
  connections := ⟨[]⟩
  listeners := ⟨[], none, ⟨[]⟩⟩

/-- The state at the end of `run`, if it gets there. -/
def startAccess (content : Except Error FileConfig) (certificates : Certificates)
    (failures : Nat → Option String) : Except Error AccessState := do
  let config ← load content
  let prepared ← PreparedListeners.new certificates config.listeners
  let bound ← PreparedListeners.bind failures prepared
  let (connections, s) := (blank config).connect config
  let connections ← connections
  return { s with connections }.startListeners bound

inductive AccessOp where
  | reload (input : ReloadInput)
  /-- A blocked identity tells one of its tasks to stop. -/
  | stopIdentity (task : ConnectionTask)

def access : Machine AccessState AccessOp where
  Initial := fun s => ∃ content certificates failures,
    startAccess content certificates failures = .ok s
  step
    | .reload input, s => some (s.reloadAccessConfig input).2
    | .stopIdentity task, s =>
      if task ∈ s.started then some { s with stopped := s.stopped ++ [task] } else none

/-! ### What a state belongs to -/

/-- Listeners, pools and default URL are those of the configuration. -/
structure Belongs (config : FileConfig) (s : AccessState) : Prop where
  current : s.currentConfig = config
  bound : ∃ certificates, PreparedListeners.new certificates config.listeners = .ok s.listeners.bound
  default : s.defaultServerUrl = defaultServerUrl config.routing
  pools : ∃ gateways generation, config.routing.gatewayConfigs = .ok gateways ∧
    PoolsOf (ConnectionTask.mk generation) (poolSize config.routing) gateways s.connections
  serving : s.listeners.defaultServerUrl = s.defaultServerUrl ∧ s.listeners.connections = s.connections
  running : ∀ task ∈ s.connections.tasks, task ∈ s.started

/-- None of the connections in use was told to stop. -/
def Unstopped (s : AccessState) : Prop := ∀ task ∈ s.connections.tasks, task ∉ s.stopped

/-- Nothing is bound, and every task was told to stop. -/
structure Down (s : AccessState) : Prop where
  bound : s.listeners.bound = []
  stopped : ∀ task ∈ s.started, task ∈ s.stopped

/-- Every task that was not told to stop is in use. -/
def Owned (s : AccessState) : Prop :=
  ∀ task ∈ s.started, task ∉ s.stopped → task ∈ s.connections.tasks

/-! ### Preparing and binding -/

omit [Ring] [UrlParser] in
theorem bindFrom_ok {failures : Nat → Option String} {position : Nat}
    {prepared bound : List PreparedListener}
    (h : PreparedListeners.bindFrom failures position prepared = .ok bound) : bound = prepared := by
  induction prepared generalizing position bound with
  | nil => exact (Except.ok.inj h).symm
  | cons first rest ih =>
    unfold PreparedListeners.bindFrom at h
    split at h
    · nomatch h
    · obtain ⟨others, hothers, h⟩ := bind_eq_ok.mp h
      rw [← pure_eq_ok.mp h, ih hothers]

omit [Ring] [UrlParser] in
theorem bindFrom_of_none {failures : Nat → Option String} {position : Nat}
    {prepared : List PreparedListener}
    (h : ∀ i, i < prepared.length → failures (position + i) = none) :
    PreparedListeners.bindFrom failures position prepared = .ok prepared := by
  induction prepared generalizing position with
  | nil => rfl
  | cons first rest ih =>
    have hfirst := h 0 (by simp)
    have hrest : ∀ i, i < rest.length → failures (position + 1 + i) = none := by
      intro i hi
      have hnext := h (i + 1) (by simp only [List.length_cons]; omega)
      rwa [show position + (i + 1) = position + 1 + i by omega] at hnext
    rw [Nat.add_zero] at hfirst
    simp only [PreparedListeners.bindFrom, hfirst, ih hrest]
    rfl

omit [Ring] [UrlParser] in
theorem tlsOf_again {certificates certificates' : Certificates} {listener : Listener}
    {tls : Option String} (h : tlsOf certificates listener = .ok tls)
    (hc : listener.TerminatesTls → certificates' listener.host = .ok ()) :
    ∃ tls', tlsOf certificates' listener = .ok tls' := by
  unfold tlsOf listenerTlsAcceptor at h ⊢
  by_cases hhttps : listener.TerminatesTls
  · rw [if_pos hhttps.1, if_neg (not_not.mpr hhttps.2)] at h
    obtain ⟨_, hauto, _⟩ := bind_eq_ok.mp h
    rw [if_pos hhttps.1, if_neg (not_not.mpr hhttps.2)]
    exact ⟨_, bind_eq_ok.mpr ⟨(), hauto, bind_eq_ok.mpr ⟨(), hc hhttps, rfl⟩⟩⟩
  · refine ⟨none, ?_⟩
    split_ifs with hmode hscheme
    · rfl
    · exact absurd ⟨hmode, not_not.mp hscheme⟩ hhttps
    · rfl

omit [Ring] [UrlParser] in
/-- What could be prepared can be prepared again, when the certificates are made. -/
theorem newAfter_again {certificates certificates' : Certificates} {names : List String}
    {listeners : List Listener} {prepared : List PreparedListener}
    (h : PreparedListeners.newAfter certificates names listeners = .ok prepared)
    (hc : ∀ listener ∈ listeners, listener.TerminatesTls → certificates' listener.host = .ok ()) :
    ∃ prepared', PreparedListeners.newAfter certificates' names listeners = .ok prepared' := by
  induction listeners generalizing names prepared with
  | nil => exact ⟨[], rfl⟩
  | cons first rest ih =>
    obtain ⟨_, hname, h⟩ := bind_eq_ok.mp h
    obtain ⟨tls, htls, h⟩ := bind_eq_ok.mp h
    obtain ⟨others, hothers, _⟩ := bind_eq_ok.mp h
    obtain ⟨others', hothers'⟩ := ih hothers fun listener hmem => hc listener (List.mem_cons_of_mem _ hmem)
    obtain ⟨tls', htls'⟩ := tlsOf_again htls (hc first List.mem_cons_self)
    exact ⟨_, bind_eq_ok.mpr ⟨(), hname, bind_eq_ok.mpr ⟨tls', htls',
      bind_eq_ok.mpr ⟨others', hothers', rfl⟩⟩⟩⟩

/-! ### Connecting -/

omit [Ring] [UrlParser] in
theorem tasks_of_poolsOf {generation size : Nat} {gateways : List AccessGatewayConfig}
    {c : GatewayConnections ConnectionTask}
    (h : PoolsOf (ConnectionTask.mk generation) size gateways c) :
    c.tasks = gateways.flatMap fun gateway =>
      (List.range size).map (ConnectionTask.mk generation gateway) := by
  have hpools : ∀ {gateways : List AccessGatewayConfig} {pools : List (GatewayConnectionPool ConnectionTask)},
      List.Forall₂ (PoolOf (ConnectionTask.mk generation) size) gateways pools →
      pools.flatMap (·.connections) = gateways.flatMap fun gateway =>
        (List.range size).map (ConnectionTask.mk generation gateway) := by
    intro gateways pools hall
    induction hall with
    | nil => rfl
    | cons hpool _ ih => rw [List.flatMap_cons, List.flatMap_cons, hpool.connections, ih]
  exact hpools h

/-- With the gateways valid and their identities there, the pools are started. -/
theorem connect_of_identities {config : FileConfig} {gateways : List AccessGatewayConfig}
    (h : identities config = .ok gateways) (s : AccessState) :
    ∃ connections, s.connect config = (.ok connections, s.spawn connections.tasks) ∧
      PoolsOf (ConnectionTask.mk s.generation) (poolSize config.routing) gateways connections := by
  obtain ⟨checked, hgateways, hrest⟩ := bind_eq_ok.mp h
  obtain ⟨_, hidentities, hdone⟩ := bind_eq_ok.mp hrest
  cases pure_eq_ok.mp hdone
  have hsize : 0 < poolSize config.routing := lt_of_lt_of_le Nat.one_pos (le_max_right _ _)
  obtain ⟨pools, hpools, hof⟩ := mapM_startPool (ConnectionTask.mk s.generation) gateways hsize
  have hne : pools ≠ [] := by
    intro hnil
    rw [hnil] at hof
    cases hof
    exact (AccessConfig.valid_of_gatewayConfigs hgateways).nonempty rfl
  have hconnect : connectAllRegistered identity (ConnectionTask.mk s.generation) config.routing =
      .ok ⟨pools⟩ := by
    refine bind_eq_ok.mpr ⟨gateways, hgateways, bind_eq_ok.mpr ⟨(), hidentities, ?_⟩⟩
    exact bind_eq_ok.mpr ⟨pools, hpools, bind_eq_ok.mpr ⟨(), ensure_eq_ok.mpr hne, rfl⟩⟩
  have hpoolsOf : PoolsOf (ConnectionTask.mk s.generation) (poolSize config.routing) gateways ⟨pools⟩ := hof
  refine ⟨⟨pools⟩, ?_, hpoolsOf⟩
  simp only [AccessState.connect, h, hconnect, tasks_of_poolsOf hpoolsOf]

/-! ### The invariant -/

structure ReloadInv (s : AccessState) : Prop where
  owned : Owned s
  inUse : ∀ task ∈ s.connections.tasks, task ∈ s.started
  startedBefore : ∀ task ∈ s.started, task.generation < s.generation
  stoppedBefore : ∀ task ∈ s.stopped, task.generation < s.generation
  valid : ∃ gateways, identities s.currentConfig = .ok gateways
  prepared : ∃ certificates prepared,
    PreparedListeners.new certificates s.currentConfig.listeners = .ok prepared
  default : s.defaultServerUrl = defaultServerUrl s.currentConfig.routing

/-- Nothing runs. -/
structure Idle (s : AccessState) : Prop where
  stopped : ∀ task ∈ s.started, task ∈ s.stopped
  startedBefore : ∀ task ∈ s.started, task.generation < s.generation
  stoppedBefore : ∀ task ∈ s.stopped, task.generation < s.generation

/-- After the stop nothing runs. -/
theorem idle_stop {s : AccessState} (h : ReloadInv s) :
    Idle s.stopListeners.stopGatewayConnections := by
  refine ⟨?_, h.startedBefore, ?_⟩
  · intro task htask
    by_cases hstopped : task ∈ s.stopped
    · exact List.mem_append_left _ hstopped
    · exact List.mem_append_right _ (h.owned task htask hstopped)
  · intro task htask
    rcases List.mem_append.mp htask with hold | hnew
    · exact h.stoppedBefore task hold
    · exact h.startedBefore task (h.inUse task hnew)

/-- From where nothing runs, a configuration is taken up as a whole. -/
theorem Idle.begin {s t : AccessState} (h : Idle s) {config : FileConfig}
    {gateways : List AccessGatewayConfig} (hid : identities config = .ok gateways)
    {certificates : Certificates} {bound : List PreparedListener}
    (hbound : PreparedListeners.new certificates config.listeners = .ok bound)
    {connections : GatewayConnections ConnectionTask}
    (hof : PoolsOf (ConnectionTask.mk s.generation) (poolSize config.routing) gateways connections)
    (hcurrent : t.currentConfig = config)
    (hdefault : t.defaultServerUrl = defaultServerUrl config.routing)
    (hconnections : t.connections = connections)
    (hlisteners : t.listeners = ⟨bound, t.defaultServerUrl, t.connections⟩)
    (hstarted : t.started = s.started ++ connections.tasks) (hstopped : t.stopped = s.stopped)
    (hgeneration : t.generation = s.generation + 1) :
    Belongs config t ∧ Unstopped t ∧ ReloadInv t := by
  have hinUse : ∀ task ∈ t.connections.tasks, task ∈ t.started := by
    intro task htask
    rw [hconnections] at htask
    rw [hstarted]
    exact List.mem_append_right _ htask
  have hnew : ∀ task ∈ connections.tasks, task.generation = s.generation := by
    intro task htask
    rw [tasks_of_poolsOf hof] at htask
    obtain ⟨gateway, _, hplace⟩ := List.mem_flatMap.mp htask
    obtain ⟨place, _, rfl⟩ := List.mem_map.mp hplace
    rfl
  refine ⟨⟨hcurrent, ⟨certificates, ?_⟩, hdefault, ?_, ?_, hinUse⟩, ?_, ?_⟩
  · rw [hlisteners]
    exact hbound
  · obtain ⟨checked, hgateways, hrest⟩ := bind_eq_ok.mp hid
    obtain ⟨_, _, hdone⟩ := bind_eq_ok.mp hrest
    cases pure_eq_ok.mp hdone
    rw [hconnections]
    exact ⟨gateways, s.generation, hgateways, hof⟩
  · rw [hlisteners]
    exact ⟨rfl, rfl⟩
  · -- the new tasks are of a generation of their own
    intro task htask hold
    rw [hconnections] at htask
    rw [hstopped] at hold
    have hbefore := h.stoppedBefore task hold
    rw [hnew task htask] at hbefore
    omega
  · refine ⟨?_, hinUse, ?_, ?_, ?_, ?_, ?_⟩
    · intro task htask hrunning
      rw [hstarted] at htask
      rw [hstopped] at hrunning
      rw [hconnections]
      rcases List.mem_append.mp htask with hold | hnew
      · exact absurd (h.stopped task hold) hrunning
      · exact hnew
    · intro task htask
      rw [hstarted] at htask
      rw [hgeneration]
      rcases List.mem_append.mp htask with hold | hmem
      · exact Nat.lt_succ_of_lt (h.startedBefore task hold)
      · rw [hnew task hmem]
        exact Nat.lt_succ_self _
    · intro task htask
      rw [hstopped] at htask
      rw [hgeneration]
      exact Nat.lt_succ_of_lt (h.stoppedBefore task htask)
    · rw [hcurrent]
      exact ⟨gateways, hid⟩
    · rw [hcurrent]
      exact ⟨certificates, bound, hbound⟩
    · rw [hcurrent]
      exact hdefault

/-! ### One reload -/

theorem checks_ok {r : ReloadInput} {current : FileConfig} {c : Checked}
    (h : checks r current = .ok c) :
    load r.content = .ok c.config ∧
      PreparedListeners.new r.certificates c.config.listeners = .ok c.prepared ∧
      PreparedListeners.new r.previousCertificates current.listeners = .ok c.previous ∧
      ∃ gateways, identities c.config = .ok gateways := by
  obtain ⟨config, hload, h⟩ := bind_eq_ok.mp h
  obtain ⟨prepared, hprepared, h⟩ := bind_eq_ok.mp h
  obtain ⟨previous, hprevious, h⟩ := bind_eq_ok.mp h
  obtain ⟨gateways, hgateways, h⟩ := bind_eq_ok.mp h
  cases pure_eq_ok.mp h
  exact ⟨mapError_eq_ok.mp hload, hprepared, hprevious, gateways, hgateways⟩

/-- Every listener bound: the new configuration is taken up. -/
theorem reload_bound {r : ReloadInput} {s : AccessState} {c : Checked} {bound : List PreparedListener}
    (h : ReloadInv s) (hc : checks r s.currentConfig = .ok c)
    (hb : PreparedListeners.bind r.failures c.prepared = .ok bound) :
    (s.reloadAccessConfig r).1 = .ok () ∧ Belongs c.config (s.reloadAccessConfig r).2 ∧
      Unstopped (s.reloadAccessConfig r).2 ∧ ReloadInv (s.reloadAccessConfig r).2 := by
  obtain ⟨_, hprepared, _, gateways, hgateways⟩ := checks_ok hc
  obtain ⟨connections, hconnect, hof⟩ := connect_of_identities hgateways s.stopListeners.stopGatewayConnections
  have hrun : s.stopListeners.stopGatewayConnections.replacement r c = (.ok (bound, connections),
      s.stopListeners.stopGatewayConnections.spawn connections.tasks) := by
    simp only [AccessState.replacement, hb, hconnect]
  simp only [AccessState.reloadAccessConfig, hc, hrun]
  refine ⟨trivial, ?_⟩
  rw [bindFrom_ok hb]
  exact (idle_stop h).begin hgateways hprepared hof rfl rfl rfl rfl rfl rfl rfl

/-- A bind fails and the old listeners are bound again: the old configuration is
taken up anew. -/
theorem reload_restored {r : ReloadInput} {s : AccessState} {c : Checked}
    {e : Error} {restored : List PreparedListener} (h : ReloadInv s)
    (hc : checks r s.currentConfig = .ok c)
    (hb : PreparedListeners.bind r.failures c.prepared = .error e)
    (hr : PreparedListeners.bind r.restoreFailures c.previous = .ok restored) :
    (∃ error, (s.reloadAccessConfig r).1 = .error error) ∧
      Belongs s.currentConfig (s.reloadAccessConfig r).2 ∧ Unstopped (s.reloadAccessConfig r).2 ∧
      ReloadInv (s.reloadAccessConfig r).2 := by
  obtain ⟨_, _, hprevious, _⟩ := checks_ok hc
  obtain ⟨gateways, hgateways⟩ := h.valid
  obtain ⟨connections, hconnect, hof⟩ := connect_of_identities hgateways s.stopListeners.stopGatewayConnections
  have hrun : s.stopListeners.stopGatewayConnections.replacement r c =
      (.error e, s.stopListeners.stopGatewayConnections) := by
    simp only [AccessState.replacement, hb]
  have hback : s.stopListeners.stopGatewayConnections.connect
      s.stopListeners.stopGatewayConnections.currentConfig = (.ok connections,
        s.stopListeners.stopGatewayConnections.spawn connections.tasks) := hconnect
  simp only [AccessState.reloadAccessConfig, hc, hrun, AccessState.restore, hr, hback]
  refine ⟨⟨_, rfl⟩, ?_⟩
  rw [bindFrom_ok hr]
  exact (idle_stop h).begin hgateways hprevious hof rfl h.default rfl rfl rfl rfl rfl

/-- Both fail: nothing is left running. -/
theorem reload_down {r : ReloadInput} {s : AccessState} {c : Checked} {e e' : Error}
    (h : ReloadInv s) (hc : checks r s.currentConfig = .ok c)
    (hb : PreparedListeners.bind r.failures c.prepared = .error e)
    (hr : PreparedListeners.bind r.restoreFailures c.previous = .error e') :
    (∃ error, (s.reloadAccessConfig r).1 = .error error) ∧ Down (s.reloadAccessConfig r).2 ∧
      ReloadInv (s.reloadAccessConfig r).2 := by
  have hrun : s.stopListeners.stopGatewayConnections.replacement r c =
      (.error e, s.stopListeners.stopGatewayConnections) := by
    simp only [AccessState.replacement, hb]
  have hidle := idle_stop h
  simp only [AccessState.reloadAccessConfig, hc, hrun, AccessState.restore, hr]
  refine ⟨⟨_, rfl⟩, ⟨rfl, hidle.stopped⟩, ⟨?_, h.inUse, hidle.startedBefore, hidle.stoppedBefore,
    h.valid, h.prepared, h.default⟩⟩
  exact fun task htask hrunning => absurd (hidle.stopped task htask) hrunning

theorem reload_refused {r : ReloadInput} {s : AccessState} {e : Error}
    (hc : checks r s.currentConfig = .error e) : s.reloadAccessConfig r = (.error e, s) := by
  simp only [AccessState.reloadAccessConfig, hc]

theorem reloadInv_reload {s : AccessState} (h : ReloadInv s) (r : ReloadInput) :
    ReloadInv (s.reloadAccessConfig r).2 := by
  cases hc : checks r s.currentConfig with
  | error e =>
    rw [reload_refused hc]
    exact h
  | ok c =>
    cases hb : PreparedListeners.bind r.failures c.prepared with
    | ok bound => exact (reload_bound h hc hb).2.2.2
    | error e =>
      cases hr : PreparedListeners.bind r.restoreFailures c.previous with
      | ok restored => exact (reload_restored h hc hb hr).2.2.2
      | error e' => exact (reload_down h hc hb hr).2.2

/-! ### Runs -/

theorem reloadInv_start {content : Except Error FileConfig} {certificates : Certificates}
    {failures : Nat → Option String} {s : AccessState}
    (h : startAccess content certificates failures = .ok s) : ReloadInv s := by
  obtain ⟨config, _, h⟩ := bind_eq_ok.mp h
  obtain ⟨prepared, hprepared, h⟩ := bind_eq_ok.mp h
  obtain ⟨bound, hbound, h⟩ := bind_eq_ok.mp h
  rw [bindFrom_ok hbound] at h
  have hidle : Idle (blank config) := ⟨nofun, nofun, nofun⟩
  cases hid : identities config with
  | error e =>
    -- without its identities the program does not start
    have hfails : ∃ e', connectAllRegistered identity (ConnectionTask.mk 0) config.routing = .error e' := by
      cases hconnect : connectAllRegistered identity (ConnectionTask.mk 0) config.routing with
      | error e' => exact ⟨e', rfl⟩
      | ok connections =>
        obtain ⟨gateways, hgateways, hrest⟩ := bind_eq_ok.mp hconnect
        obtain ⟨_, hforM, _⟩ := bind_eq_ok.mp hrest
        have hok : identities config = .ok gateways :=
          bind_eq_ok.mpr ⟨gateways, hgateways, bind_eq_ok.mpr ⟨(), hforM, rfl⟩⟩
        rw [hid] at hok
        nomatch hok
    obtain ⟨e', hfails⟩ := hfails
    rw [show (blank config).connect config = (.error e', blank config) by
      simp only [AccessState.connect, hid]; exact congrArg (·, blank config) hfails] at h
    nomatch h
  | ok gateways =>
    obtain ⟨connections, hconnect, hof⟩ := connect_of_identities hid (blank config)
    rw [hconnect] at h
    cases h
    have hbegun : Belongs config _ ∧ Unstopped _ ∧ ReloadInv (({ (blank config).spawn connections.tasks with
        connections } : AccessState).startListeners prepared) :=
      hidle.begin hid hprepared hof rfl rfl rfl rfl rfl rfl rfl
    exact hbegun.2.2

theorem reloadInv_step {op : AccessOp} {s t : AccessState} (h : ReloadInv s)
    (hs : access.step op s = some t) : ReloadInv t := by
  cases op with
  | reload input =>
    cases hs
    exact reloadInv_reload h input
  | stopIdentity task =>
    simp only [access] at hs
    split at hs
    · rename_i hstarted
      cases hs
      refine ⟨?_, h.inUse, h.startedBefore, ?_, h.valid, h.prepared, h.default⟩
      · exact fun other hother hrunning =>
          h.owned other hother fun hold => hrunning (List.mem_append_left _ hold)
      · intro other hother
        rcases List.mem_append.mp hother with hold | hnew
        · exact h.stoppedBefore other hold
        · rw [List.mem_singleton.mp hnew]
          exact h.startedBefore task hstarted
    · nomatch hs

theorem reloadInv_reachable {s : AccessState} (h : access.Reachable s) : ReloadInv s := by
  apply Machine.ReachableUnder.invariant _ _ h
  · intro s hs
    obtain ⟨content, certificates, failures, hs⟩ := hs
    exact reloadInv_start hs
  · exact fun _ _ _ _ hi _ hs => reloadInv_step hi hs

/-- The file holds a configuration that can be taken up from the one in force, and
every bind succeeds. -/
structure Bindable (r : ReloadInput) (current config : FileConfig) : Prop where
  content : load r.content = .ok config
  prepared : ∃ prepared, PreparedListeners.new r.certificates config.listeners = .ok prepared
  identities : ∃ gateways, Access.identities config = .ok gateways
  /-- The listeners in force have their certificates still. -/
  certificates : ∀ listener ∈ current.listeners, listener.TerminatesTls →
    r.previousCertificates listener.host = .ok ()
  binds : ∀ i, r.failures i = none

/-- A bindable configuration is taken up from every state. -/
theorem reload_bindable {r : ReloadInput} {config : FileConfig} {s : AccessState} (h : ReloadInv s)
    (hb : Bindable r s.currentConfig config) :
    (s.reloadAccessConfig r).1 = .ok () ∧ Belongs config (s.reloadAccessConfig r).2 ∧
      Unstopped (s.reloadAccessConfig r).2 := by
  obtain ⟨prepared, hprepared⟩ := hb.prepared
  obtain ⟨gateways, hgateways⟩ := hb.identities
  obtain ⟨_, _, hinForce⟩ := h.prepared
  obtain ⟨previous, hprevious⟩ := newAfter_again hinForce hb.certificates
  have hchecks : checks r s.currentConfig = .ok ⟨config, prepared, previous⟩ :=
    bind_eq_ok.mpr ⟨config, mapError_eq_ok.mpr hb.content, bind_eq_ok.mpr ⟨prepared, hprepared,
      bind_eq_ok.mpr ⟨previous, hprevious, bind_eq_ok.mpr ⟨gateways, hgateways, rfl⟩⟩⟩⟩
  obtain ⟨hok, hbelongs, hunstopped, _⟩ :=
    reload_bound h hchecks (bindFrom_of_none fun i _ => hb.binds (0 + i))
  exact ⟨hok, hbelongs, hunstopped⟩

/-- **A reload is all or nothing.** Whatever the file holds and whichever binds fail: a
reload that is refused before the stop changes nothing; with every listener bound,
all belongs to the new configuration; with a bind failed and the old listeners bound
again, all belongs to the old one; and where that fails too, nothing is bound and
every task was told to stop. No task outside the pools in use is left running, and a
later reload of a bindable configuration is taken up from any state. -/
theorem reload_all_or_nothing {s : AccessState} (h : access.Reachable s) (r : ReloadInput) :
    (∀ e, checks r s.currentConfig = .error e → s.reloadAccessConfig r = (.error e, s)) ∧
    (∀ c, checks r s.currentConfig = .ok c →
      (∀ bound, PreparedListeners.bind r.failures c.prepared = .ok bound →
        load r.content = .ok c.config ∧ (s.reloadAccessConfig r).1 = .ok () ∧
        Belongs c.config (s.reloadAccessConfig r).2 ∧ Unstopped (s.reloadAccessConfig r).2) ∧
      (∀ e, PreparedListeners.bind r.failures c.prepared = .error e →
        (∃ error, (s.reloadAccessConfig r).1 = .error error) ∧
        (∀ restored, PreparedListeners.bind r.restoreFailures c.previous = .ok restored →
          Belongs s.currentConfig (s.reloadAccessConfig r).2 ∧
          Unstopped (s.reloadAccessConfig r).2) ∧
        (∀ e', PreparedListeners.bind r.restoreFailures c.previous = .error e' →
          Down (s.reloadAccessConfig r).2))) ∧
    Owned (s.reloadAccessConfig r).2 ∧
    ∀ u, access.Steps (s.reloadAccessConfig r).2 u → Owned u ∧
      ∀ r' config, Bindable r' u.currentConfig config → (u.reloadAccessConfig r').1 = .ok () ∧
        Belongs config (u.reloadAccessConfig r').2 ∧ Unstopped (u.reloadAccessConfig r').2 := by
  have hinv := reloadInv_reachable h
  refine ⟨fun e he => reload_refused he, fun c hc => ⟨?_, ?_⟩, (reloadInv_reload hinv r).owned, ?_⟩
  · intro bound hb
    obtain ⟨hok, hbelongs, hunstopped, _⟩ := reload_bound hinv hc hb
    exact ⟨(checks_ok hc).1, hok, hbelongs, hunstopped⟩
  · intro e hb
    refine ⟨?_, ?_, ?_⟩
    · cases hr : PreparedListeners.bind r.restoreFailures c.previous with
      | ok restored => exact (reload_restored hinv hc hb hr).1
      | error e' => exact (reload_down hinv hc hb hr).1
    · intro restored hr
      obtain ⟨_, hbelongs, hunstopped, _⟩ := reload_restored hinv hc hb hr
      exact ⟨hbelongs, hunstopped⟩
    · exact fun e' hr => (reload_down hinv hc hb hr).2.1
  · intro u hu
    have hlater : ReloadInv u :=
      hu.preserves (fun _ _ _ hi _ hs => reloadInv_step hi hs) (reloadInv_reload hinv r)
    exact ⟨hlater.owned, fun r' config hb => reload_bindable hlater hb⟩

end Reload

/-! ### A bind that fails -/

section Example

local instance reloadRing : Ring := .free
local instance reloadUrls : UrlParser := .plain

def tcpListener (name listen : String) : Listener :=
  { name, gateway := none, serverUrl := none, mode := .tcp, listen, host := "127.0.0.1"
    localScheme := none, autoCert := false }

def oneGateway (listeners : List Listener) : FileConfig where
  access := ⟨none, none, [], 1⟩
  gateways := [⟨"test", "ws://127.0.0.1:9/tunnel", "test", none⟩]
  listeners

def original : FileConfig := oneGateway [tcpListener "original" "127.0.0.1:8001"]
def occupied : FileConfig :=
  oneGateway [tcpListener "new" "127.0.0.1:8002", tcpListener "occupied" "127.0.0.1:8003"]

/-- The second bind fails, and so does what comes after. -/
def occupiedReload (restoreFailures : Nat → Option String) : ReloadInput where
  content := .ok occupied
  certificates := fun _ => .ok ()
  previousCertificates := fun _ => .ok ()
  failures := fun i => if i = 1 then some "address in use" else none
  restoreFailures

def atStart : AccessState :=
  ((startAccess (.ok original) (fun _ => .ok ()) fun _ => none).toOption).getD (blank original)

theorem reload_all_or_nothing_occupied :
    Belongs original (atStart.reloadAccessConfig (occupiedReload fun _ => none)).2 ∧
      Down (atStart.reloadAccessConfig (occupiedReload fun _ => some "address in use")).2 := by
  have hstart : (startAccess (.ok original) (fun _ => .ok ()) fun _ => none).toOption.isSome = true := by
    decide +kernel
  have hreach : access.Reachable atStart := by
    refine .initial ⟨.ok original, fun _ => .ok (), fun _ => none, ?_⟩
    unfold atStart
    cases h : startAccess (.ok original) (fun _ => .ok ()) fun _ => none with
    | error e => simp [h, Except.toOption] at hstart
    | ok s => rfl
  have hcurrent : atStart.currentConfig = original := by decide +kernel
  have hchecked : ∀ restoreFailures, checks (occupiedReload restoreFailures) atStart.currentConfig =
      .ok ⟨occupied, occupied.listeners.map (⟨·, none⟩), original.listeners.map (⟨·, none⟩)⟩ := by
    intro restoreFailures
    rw [hcurrent]
    rfl
  have hb := fun restoreFailures =>
    ((reload_all_or_nothing hreach (occupiedReload restoreFailures)).2.1 _ (hchecked _)).2 _ rfl
  refine ⟨?_, (hb _).2.2 _ rfl⟩
  rw [← hcurrent]
  exact ((hb fun _ => none).2.1 _ rfl).1

end Example

end Access

end WsNet
