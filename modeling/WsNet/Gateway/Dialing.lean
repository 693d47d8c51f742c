import WsNet.Gateway.Authorization
import WsNet.Gateway.HttpRequest
import WsNet.Gateway.Narrowing

/-! What the gateway connects to.

An authorization's addresses are handed to a stream's task, which dials them some time
later, after any number of reloads. The task holds the lease and looks at its signal
at the head of each poll: so in the poll in which it dials, its session was live, and
the configuration then in force allowed each of its addresses (`only_allowed_dialed`).
The invariant carries the grant from the authorization to the task. -/
namespace WsNet.Gateway
open Data Transition

/-! ### The tasks -/

/-- What the stream's task does with the addresses. -/
inductive Work where
  | tcp
  | http (request : HttpRequestHead)
  deriving DecidableEq, Repr

def Work.mode : Work → Mode
  | .tcp => .tcp
  | .http _ => .http

structure DialTask where
  lease : SessionLease
  target : TargetConfig
  addresses : List SocketAddr
  /-- None while the session's own task has the addresses. -/
  work : Option Work := none
  /-- In a poll: the configuration in force when it found the lease's signal unset. -/
  polled : Option GatewayConfig := none

structure Dialed where
  lease : SessionLease
  target : TargetConfig
  address : SocketAddr
  /-- In force when the poll in which it was dialed began. -/
  config : GatewayConfig

structure DialState where
  auth : AuthState
  tasks : HashMap Nat DialTask := ∅
  dialed : List Dialed := []

inductive DialOp where
  | auth (op : AuthOp)
  /-- The session's task spawns the stream's, under the number of its call. -/
  | spawn (call : Nat) (work : Work)
  | poll (call : Nat)
  | pend (call : Nat)
  | dial (call : Nat) (address : SocketAddr)
  /-- The handling or the task ends. -/
  | exit (call : Nat)

section Model
variable [NetLiterals] [Ring]

namespace DialState

/-- A lease is not dropped while a task has it, and `lookup_host` gives every address
the port that it was asked for. -/
def allows (op : AuthOp) (s : DialState) : Bool :=
  match op with
  | .drop sid => s.tasks.entries.all fun e => e.2.lease.id ≠ sid
  | .authorize call _ _ => (s.tasks.lookup call).isNone
  | .resolve call (.ok found) =>
    (s.auth.calls.lookup call).all fun c => found.all fun a => a.port = c.target.port
  | _ => true

/-- An authorization that returns addresses hands them over. -/
def tasksAfter (op : AuthOp) (s : DialState) : HashMap Nat DialTask :=
  match op with
  | .finish call =>
    match s.auth.calls.lookup call with
    | some ⟨lease, target, .addresses found⟩ =>
      match AppState.authorizeAddresses lease target found s.auth.runtime with
      | .ok addresses => s.tasks.insert call { lease, target, addresses }
      | .error _ => s.tasks
    | _ => s.tasks
  | _ => s.tasks

def authStep (op : AuthOp) (s : DialState) : Option DialState :=
  if s.allows op then
    (authorization.step op s.auth).map fun auth => { s with auth, tasks := s.tasksAfter op }
  else none

/-- The lease is checked once more, and the mode. -/
def spawn (call : Nat) (work : Work) (s : DialState) : Option DialState :=
  match s.tasks.lookup call with
  | some task =>
    if task.work = none ∧ work.mode = task.target.mode ∧ s.auth.runtime.signal task.lease.id = none then
      some { s with tasks := s.tasks.insert call { task with work := some work } }
    else none
  | none => none

/-- The branch of `lease.cancelled()` comes first. -/
def poll (call : Nat) (s : DialState) : Option DialState :=
  match s.tasks.lookup call with
  | some task =>
    if task.work.isSome = true ∧ task.polled = none then
      if s.auth.runtime.signal task.lease.id = none then
        some { s with tasks := s.tasks.insert call { task with polled := some s.auth.runtime.config } }
      else some { s with tasks := s.tasks.erase call }
    else none
  | none => none

def pend (call : Nat) (s : DialState) : Option DialState :=
  (s.tasks.lookup call).map fun task => { s with tasks := s.tasks.insert call { task with polled := none } }

def exit (call : Nat) (s : DialState) : Option DialState := some { s with tasks := s.tasks.erase call }

end DialState

variable [HttpClient]

/-- What `TcpStream::connect` and the HTTP client connect to. -/
def DialTask.dials (task : DialTask) : Work → List SocketAddr
  | .tcp => task.addresses
  | .http request =>
    match httpRequest task.target task.addresses request with
    | .ok dispatch => dispatch.dials
    | .error _ => []

def DialState.dial (call : Nat) (address : SocketAddr) (s : DialState) : Option DialState :=
  match s.tasks.lookup call with
  | some task =>
    match task.work, task.polled with
    | some work, some config =>
      if address ∈ task.dials work then
        some { s with dialed := ⟨task.lease, task.target, address, config⟩ :: s.dialed }
      else none
    | _, _ => none
  | none => none

def dialing : Machine DialState DialOp where
  Initial := fun s => authorization.Initial s.auth ∧ s.tasks = ∅ ∧ s.dialed = []
  step
    | .auth op, s => s.authStep op
    | .spawn call work, s => s.spawn call work
    | .poll call, s => s.poll call
    | .pend call, s => s.pend call
    | .dial call address, s => s.dial call address
    | .exit call, s => s.exit call

end Model

/-! ### The authorization goes on -/

section Authorization
variable [NetLiterals] [Ring]

/-- All that a step can do. -/
inductive AuthMove (a : AuthState) : AuthOp → AuthState → Prop
  | registry {op : AuthOp} (runtime : Runtime) (issued : Finset String) :
      AuthMove a op { a with runtime, issued }
  | registered {gatewayToken instanceId : String} {userToken : Option String} {legacy : Bool}
      (sessionId : String) (runtime : Runtime) (lease : SessionLease) (fresh : sessionId ∉ a.issued) :
      AuthMove a (.register sessionId gatewayToken userToken instanceId legacy)
        { a with
          runtime
          leases := a.leases.insert sessionId lease
          issued := insert sessionId a.issued }
  | dropped (sessionId : String) (runtime : Runtime) :
      AuthMove a (.drop sessionId) { a with runtime, leases := a.leases.erase sessionId }
  | literal (call : Nat) (sessionId : String) (lease : SessionLease) (target : TargetConfig)
      (found : List SocketAddr) (resolved : AppState.resolveHost target = .ok (.literal found)) :
      AuthMove a (.authorize call sessionId target)
        { a with calls := a.calls.insert call ⟨lease, target, .addresses found⟩ }
  | lookup {op : AuthOp} (call : Nat) (lease : SessionLease) (target : TargetConfig) :
      AuthMove a op { a with calls := a.calls.insert call ⟨lease, target, .lookup⟩ }
  | answered (call : Nat) (lease : SessionLease) (target : TargetConfig) (found : List SocketAddr)
      (waits : a.calls.lookup call = some ⟨lease, target, .lookup⟩) :
      AuthMove a (.resolve call (.ok found))
        { a with calls := a.calls.insert call ⟨lease, target, .addresses found⟩ }
  | refused {op : AuthOp} (call : Nat) : AuthMove a op { a with calls := a.calls.erase call }
  | granted (call : Nat) (grant : Grant) :
      AuthMove a (.finish call) { a with calls := a.calls.erase call, granted := grant :: a.granted }

theorem authorization_move {op : AuthOp} {a b : AuthState} (hs : authorization.step op a = some b) :
    AuthMove a op b := by
  cases op with
  | register sessionId gatewayToken userToken instanceId legacy =>
    change a.register _ _ _ _ _ = some b at hs
    unfold AuthState.register at hs
    split at hs
    · cases hs
    · rename_i hfresh
      split at hs <;> cases hs
      · exact .registered sessionId _ _ hfresh
      · exact .registry a.runtime _
  | reload config =>
    change a.reload _ = some b at hs
    unfold AuthState.reload at hs
    split at hs <;> cases hs
    · exact .registry _ a.issued
    · exact .registry a.runtime a.issued
  | drop sessionId =>
    change a.drop _ = some b at hs
    unfold AuthState.drop at hs
    split at hs <;> cases hs
    exact .dropped sessionId _
  | authorize call sessionId target =>
    change a.authorize _ _ _ = some b at hs
    unfold AuthState.authorize at hs
    split at hs
    · split at hs <;> cases hs
      · rename_i hresolved
        exact .literal call sessionId _ target _ hresolved
      · exact .lookup call _ target
      · exact .registry a.runtime a.issued
    · cases hs
  | resolve call answer =>
    change a.resolve _ _ = some b at hs
    unfold AuthState.resolve at hs
    split at hs
    · rename_i lease target hcall
      split at hs <;> cases hs
      · rename_i found hanswer
        obtain ⟨_, _, hanswer⟩ := bind_eq_ok.mp hanswer
        subst hanswer
        exact .answered call lease target found hcall
      · exact .refused call
    · cases hs
  | finish call =>
    change a.finish _ = some b at hs
    unfold AuthState.finish at hs
    split at hs
    · split at hs <;> cases hs
      · exact .granted call _
      · exact .refused call
    · cases hs

variable {a b : AuthState} {op : AuthOp}

omit [Ring] in
/-- Grants and leases stay, but for the lease that is dropped. -/
theorem AuthMove.keeps (h : AuthMove a op b)
    (issued : ∀ sid, (a.leases.lookup sid).isSome = true → sid ∈ a.issued) :
    (∀ g ∈ a.granted, g ∈ b.granted) ∧ ∀ sid lease, a.leases.lookup sid = some lease →
      op ≠ .drop sid → b.leases.lookup sid = some lease := by
  cases h with
  | registered sessionId runtime lease fresh =>
    refine ⟨fun _ h => h, fun sid other hl _ => ?_⟩
    have hne : sid ≠ sessionId := by
      rintro rfl
      exact fresh (issued sid (by rw [hl]; rfl))
    exact (AList.lookup_insert_ne hne).trans hl
  | dropped sessionId runtime =>
    refine ⟨fun _ h => h, fun sid lease hl hkept => ?_⟩
    have hne : sid ≠ sessionId := fun heq => hkept (by rw [heq])
    exact (AList.lookup_erase_ne hne).trans hl
  | granted call grant => exact ⟨fun _ h => List.mem_cons_of_mem _ h, fun _ _ h _ => h⟩
  | _ => exact ⟨fun _ h => h, fun _ _ h _ => h⟩

omit [Ring] in
theorem resolveHost_literal {target : TargetConfig} {found : List SocketAddr}
    (h : AppState.resolveHost target = .ok (.literal found)) : ∀ a ∈ found, a.port = target.port := by
  unfold AppState.resolveHost at h
  simp only at h
  split at h
  · cases h
    intro a ha
    rw [List.mem_singleton.mp ha]
  · split at h <;> cases h

/-- The addresses of a call have the port of its target. -/
def CallPorts (s : AuthState) : Prop :=
  ∀ n lease target found, s.calls.lookup n = some ⟨lease, target, .addresses found⟩ →
    ∀ a ∈ found, a.port = target.port

omit [NetLiterals] [Ring] in
theorem CallPorts.insert {s : AuthState} (h : CallPorts s) (n : Nat) (call : Call)
    (hcall : ∀ found, call.stage = .addresses found → ∀ a ∈ found, a.port = call.target.port) :
    CallPorts { s with calls := s.calls.insert n call } := by
  intro m lease target found hl
  rcases HashMap.lookup_insert_some hl with ⟨_, heq⟩ | ⟨_, hl⟩
  · subst heq
    exact hcall found rfl
  · exact h m lease target found hl

omit [NetLiterals] [Ring] in
theorem CallPorts.erase {s : AuthState} (h : CallPorts s) (n : Nat) :
    CallPorts { s with calls := s.calls.erase n } := fun m lease target found hl =>
  h m lease target found (HashMap.lookup_erase_some hl).2

omit [Ring] in
theorem callPorts_move {s : DialState} (h : CallPorts s.auth) (hallows : s.allows op = true)
    (hm : AuthMove s.auth op b) : CallPorts b := by
  cases hm with
  | literal call sessionId lease target found resolved =>
    refine h.insert call _ fun found' hfound => ?_
    cases hfound
    exact resolveHost_literal resolved
  | lookup call lease target => exact h.insert call _ fun _ hfound => (by cases hfound)
  | answered call lease target found waits =>
    refine h.insert call _ fun found' hfound => ?_
    cases hfound
    simp only [DialState.allows, waits, Option.all_some, List.all_eq_true, decide_eq_true_eq] at hallows
    exact hallows
  | refused call => exact h.erase call
  | granted call grant => exact h.erase call
  | _ => exact h

/-! ### The invariant -/

/-- A task holds its lease and addresses granted under it, which were allowed when its
poll began. -/
structure TaskInv (s : AuthState) (task : DialTask) : Prop where
  lease : s.leases.lookup task.lease.id = some task.lease
  granted : ⟨task.lease.id, task.addresses⟩ ∈ s.granted
  ports : ∀ a ∈ task.addresses, a.port = task.target.port
  polled : ∀ config, task.polled = some config → ∀ a ∈ task.addresses,
    ConfigAllows config task.lease.credential a

/-- The address was granted, and allowed when its poll began. -/
structure DialedInv (s : AuthState) (d : Dialed) : Prop where
  granted : ∃ g ∈ s.granted, g.sessionId = d.lease.id ∧ d.address ∈ g.addresses
  port : d.address.port = d.target.port
  allowed : ConfigAllows d.config d.lease.credential d.address

structure DialInv (s : DialState) : Prop where
  auth : authorization.Reachable s.auth
  ports : CallPorts s.auth
  task : ∀ n task, s.tasks.lookup n = some task → TaskInv s.auth task
  dialed : ∀ d ∈ s.dialed, DialedInv s.auth d

theorem DialInv.insert {s : DialState} (h : DialInv s) (n : Nat) {task : DialTask}
    (ht : TaskInv s.auth task) : DialInv { s with tasks := s.tasks.insert n task } := by
  refine ⟨h.auth, h.ports, fun m other hl => ?_, h.dialed⟩
  rcases HashMap.lookup_insert_some hl with ⟨_, rfl⟩ | ⟨_, hl⟩
  · exact ht
  · exact h.task m other hl

theorem DialInv.erase {s : DialState} (h : DialInv s) (n : Nat) :
    DialInv { s with tasks := s.tasks.erase n } :=
  ⟨h.auth, h.ports, fun m other hl => h.task m other (HashMap.lookup_erase_some hl).2, h.dialed⟩

omit [NetLiterals] [Ring] in
/-- What a returned list was filtered from. -/
theorem authorizeAddresses_mem {lease : SessionLease} {target : TargetConfig}
    {found addresses : List SocketAddr} {runtime : Runtime}
    (h : AppState.authorizeAddresses lease target found runtime = .ok addresses) : addresses ⊆ found := by
  obtain ⟨_, _, h⟩ := bind_eq_ok.mp h
  obtain ⟨_, _, h⟩ := bind_eq_ok.mp h
  obtain ⟨_, _, h⟩ := bind_eq_ok.mp h
  rw [← pure_eq_ok.mp h]
  exact fun a ha => (List.mem_filter.mp ha).1

omit [NetLiterals] [Ring] in
/-- A task is an old one, or has what the finished call returned. -/
theorem tasksAfter_cases {op : AuthOp} {s : DialState} {n : Nat} {task : DialTask}
    (h : (s.tasksAfter op).lookup n = some task) :
    s.tasks.lookup n = some task ∨
      ∃ lease target found addresses, op = .finish n ∧
        s.auth.calls.lookup n = some ⟨lease, target, .addresses found⟩ ∧
        AppState.authorizeAddresses lease target found s.auth.runtime = .ok addresses ∧
        task = { lease, target, addresses } := by
  unfold DialState.tasksAfter at h
  split at h
  · rename_i call
    split at h
    · rename_i lease target found hcall
      split at h
      · rename_i addresses hok
        rcases HashMap.lookup_insert_some h with ⟨rfl, rfl⟩ | ⟨_, h⟩
        · exact .inr ⟨lease, target, found, addresses, rfl, hcall, hok, rfl⟩
        · exact .inl h
      · exact .inl h
    · exact .inl h
  · exact .inl h

theorem dialInv_auth {op : AuthOp} {s t : DialState} (h : DialInv s) (hs : s.authStep op = some t) :
    DialInv t := by
  obtain ⟨hallows, hs⟩ := Option.ite_none_right_eq_some.mp hs
  obtain ⟨b, hb, rfl⟩ := Option.map_eq_some_iff.mp hs
  have hmove := authorization_move hb
  obtain ⟨hgranted, hleases⟩ := hmove.keeps (authInv_reachable h.auth).issued
  have hkept : ∀ n task, s.tasks.lookup n = some task → TaskInv b task := by
    intro n task hl
    obtain ⟨hlease, hgrant, hports, hpolled⟩ := h.task n task hl
    refine ⟨hleases _ _ hlease ?_, hgranted _ hgrant, hports, hpolled⟩
    rintro rfl
    have hall := List.all_eq_true.mp hallows _ ((HashMap.lookup_eq_some_iff _ _ _).mp hl)
    exact of_decide_eq_true hall rfl
  refine ⟨h.auth.next trivial hb, callPorts_move h.ports hallows hmove, ?_, fun d hd => ?_⟩
  · intro n task hl
    rcases tasksAfter_cases hl with hl | ⟨lease, target, found, addresses, rfl, hcall, hok, rfl⟩
    · exact hkept n task hl
    · have hb : b = { s.auth with
          calls := s.auth.calls.erase n, granted := ⟨lease.id, addresses⟩ :: s.auth.granted } := by
        change s.auth.finish n = some b at hb
        simp only [AuthState.finish, hcall, hok, Option.some.injEq] at hb
        exact hb.symm
      refine ⟨hleases _ _ ((authInv_reachable h.auth).call n _ hcall) (by rintro ⟨⟩), ?_, ?_,
        fun _ hpolled => (by cases hpolled)⟩
      · rw [hb]
        exact List.mem_cons_self
      · exact fun a ha => h.ports n lease target found hcall a (authorizeAddresses_mem hok ha)
  · obtain ⟨⟨g, hg, hsame⟩, hport, hallowed⟩ := h.dialed d hd
    exact ⟨⟨g, hgranted g hg, hsame⟩, hport, hallowed⟩

/-- The session of a lease whose signal is unset is live, and the rules in force allow
what was granted to it. -/
theorem TaskInv.allowed_now {s : AuthState} {task : DialTask} (h : TaskInv s task) (ha : AuthInv s)
    (hsignal : s.runtime.signal task.lease.id = none) :
    ∀ a ∈ task.addresses, ConfigAllows s.runtime.config task.lease.credential a := by
  obtain ⟨_, session, hsession, hcredential⟩ := ha.lease _ _ h.lease
  have hlive : session.signal = none := by
    simpa [Runtime.signal, hsession] using hsignal
  obtain ⟨_, hallowed⟩ := ha.grants _ h.granted
  obtain ⟨c, hc, hrules⟩ := hallowed session ⟨hsession, hlive⟩
  exact fun a hmem => ⟨_, c, ha.table, by rw [← hcredential]; exact hc, hrules a hmem⟩

end Authorization

/-! ### Runs -/

section Runs
variable [NetLiterals] [Ring] [HttpClient]

omit [Ring] in
/-- What a task dials is among its addresses. -/
theorem DialTask.dials_subset [LawfulHttpClient] {task : DialTask}
    (hports : ∀ a ∈ task.addresses, a.port = task.target.port) (work : Work) :
    task.dials work ⊆ task.addresses := by
  cases work with
  | tcp => exact List.Subset.refl _
  | http request =>
    unfold DialTask.dials
    simp only
    split
    · rename_i dispatch hdispatch
      exact dispatch.dials_authorized hdispatch hports
    · exact List.nil_subset _

theorem dialInv_step [LawfulHttpClient] {op : DialOp} {s t : DialState} (h : DialInv s)
    (hs : dialing.step op s = some t) : DialInv t := by
  cases op with
  | auth op => exact dialInv_auth h hs
  | spawn call work =>
    change s.spawn call work = some t at hs
    unfold DialState.spawn at hs
    split at hs
    · rename_i task htask
      obtain ⟨_, hs⟩ := Option.ite_none_right_eq_some.mp hs
      cases hs
      obtain ⟨hlease, hgranted, hports, hpolled⟩ := h.task call task htask
      exact h.insert call ⟨hlease, hgranted, hports, hpolled⟩
    · cases hs
  | poll call =>
    change s.poll call = some t at hs
    unfold DialState.poll at hs
    split at hs
    · rename_i task htask
      have ht := h.task call task htask
      obtain ⟨_, hs⟩ := Option.ite_none_right_eq_some.mp hs
      split at hs <;> cases hs
      · rename_i hsignal
        refine h.insert call ⟨ht.lease, ht.granted, ht.ports, fun config hconfig => ?_⟩
        cases hconfig
        exact ht.allowed_now (authInv_reachable h.auth) hsignal
      · exact h.erase call
    · cases hs
  | pend call =>
    obtain ⟨task, htask, rfl⟩ := Option.map_eq_some_iff.mp hs
    obtain ⟨hlease, hgranted, hports, _⟩ := h.task call task htask
    exact h.insert call ⟨hlease, hgranted, hports, fun _ hpolled => (by cases hpolled)⟩
  | dial call address =>
    change s.dial call address = some t at hs
    unfold DialState.dial at hs
    split at hs
    · rename_i task htask
      have ht := h.task call task htask
      split at hs
      · rename_i work config hwork hpolled
        obtain ⟨hdials, hs⟩ := Option.ite_none_right_eq_some.mp hs
        cases hs
        have hmem : address ∈ task.addresses := DialTask.dials_subset ht.ports work hdials
        refine ⟨h.auth, h.ports, h.task, fun d hd => ?_⟩
        rcases List.mem_cons.mp hd with rfl | hd
        · have hallowed := ht.polled config hpolled address hmem
          exact ⟨⟨_, ht.granted, rfl, hmem⟩, ht.ports address hmem, hallowed⟩
        · exact h.dialed d hd
      · cases hs
    · cases hs
  | exit call =>
    cases hs
    exact h.erase call

theorem dialInv_reachable [LawfulHttpClient] {s : DialState} (h : dialing.Reachable s) : DialInv s := by
  apply Machine.ReachableUnder.invariant _ _ h
  · rintro s ⟨hauth, htasks, hdialed⟩
    refine ⟨.initial hauth, ?_, ?_, ?_⟩
    · intro n lease target found hl
      obtain ⟨_, _, hcalls, _⟩ := hauth
      simp [hcalls] at hl
    · intro n task hl
      simp [htasks] at hl
    · intro d hd
      simp [hdialed] at hd
  · exact fun _ _ _ _ hinv _ hs => dialInv_step hinv hs

/-- **Only what is allowed is dialed.** Whatever is registered, reloaded and resolved in
between, and whatever a request's URL is taken for, every address that a stream's task
dials was granted to its session for a target with this port, and the rules in force
when the poll began in which it was dialed allowed it; and while the session is live,
the rules in force allow it still. -/
theorem only_allowed_dialed [LawfulHttpClient] {s : DialState} (h : dialing.Reachable s) :
    ∀ d ∈ s.dialed, d.address.port = d.target.port ∧
      ConfigAllows d.config d.lease.credential d.address ∧
      (∃ g ∈ s.auth.granted, g.sessionId = d.lease.id ∧ d.address ∈ g.addresses) ∧
      ∀ session, s.auth.runtime.LiveSession d.lease.id session →
        ConfigAllows s.auth.runtime.config session.credential d.address := by
  intro d hd
  have hinv := dialInv_reachable h
  obtain ⟨⟨g, hg, hid, hmem⟩, hport, hallowed⟩ := hinv.dialed d hd
  refine ⟨hport, hallowed, ⟨g, hg, hid, hmem⟩, fun session hl => ?_⟩
  have ha := authInv_reachable hinv.auth
  obtain ⟨_, hgrants⟩ := ha.grants g hg
  rw [← hid] at hl
  obtain ⟨c, hc, hrules⟩ := hgrants session hl
  exact ⟨_, c, ha.table, hc, hrules d.address hmem⟩

end Runs

/-! ### A reload while a request is sent -/

section Example

local instance dialingLiterals : NetLiterals := .dottedQuad
local instance dialingRing : Ring := .free
local instance dialingClient : HttpClient := .plain

def webTarget : TargetConfig := ⟨.http, "127.0.0.1", 22, none, false, false, false⟩

/-- The reload takes port 22 from the user, in the poll in which it is dialed. -/
def dialOps : List DialOp :=
  [.auth (.register "s1" "shared" (some "user") instanceA false), .auth (.authorize 0 "s1" webTarget),
    .auth (.finish 0), .spawn 0 (.http ⟨"GET", "/", []⟩), .poll 0, .auth (.reload portsConfig),
    .dial 0 (localhost 22)]

def dialStart : DialState := { auth := grantStart }

def dialState : DialState := (dialing.run dialOps dialStart).getD dialStart

theorem only_allowed_dialed_dialState :
    dialState.auth.runtime.signal "s1" = some .changed ∧ ∃ d ∈ dialState.dialed,
      d.address = localhost 22 ∧ d.address.port = d.target.port ∧
        ConfigAllows d.config d.lease.credential d.address := by
  have hstart : dialing.Initial dialStart := ⟨⟨⟨singleConfig, by rfl⟩, rfl, rfl, rfl, rfl⟩, rfl, rfl⟩
  have hends : (dialing.run dialOps dialStart).isSome = true ∧
      dialState.auth.runtime.signal "s1" = some .changed ∧
      (dialState.dialed.map Dialed.address) = [localhost 22] := by
    decide +kernel
  obtain ⟨hrun, hsignal, hdialed⟩ := hends
  obtain ⟨d, hd, haddress⟩ := List.mem_map.mp (hdialed ▸ List.mem_singleton_self (localhost 22))
  have : LawfulHttpClient := HttpClient.plain_lawful
  obtain ⟨hport, hallowed, _⟩ := only_allowed_dialed (Machine.reachable_getD hstart hrun) d hd
  exact ⟨hsignal, d, hd, haddress, hport, hallowed⟩

end Example

end WsNet.Gateway
