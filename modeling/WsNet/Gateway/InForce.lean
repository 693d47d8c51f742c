import Mathlib.Order.CompletePartialOrder
import WsNet.Transition.Publication
import WsNet.Gateway.Control

/-! Users that are reported are in force.

What a gateway puts in force is what the file held when it was loaded, so a reload that
loaded early and applied late takes back what came between. Where nobody loads while
another has something loaded, the users in force are a publication of the users in the
file (`publication`), and a user whose command has reported success is in force, with the
token reported, at every gateway from then on.

A gateway also loads when it starts, before it takes the runtime lock. A command that
finds the lock free in between reports that no gateway runs, and the gateway then serves
what it loaded before. -/
namespace WsNet.Gateway
open Transition

/-- Only the calls of `add_user` write the file. Nobody loads it while another has loaded it
and not applied what was loaded, and a command finds the runtime lock free only when no
starting gateway has. A command that finds the lock taken asks for nothing. -/
def Orderly : ControlOp → ControlState → Prop
  | .edit (.foreign _), _ => False
  | .start _ none, s | .load _ none, s => s.pending = []
  | .probe _ none, s => s.runtimeLock = none → s.pending = []
  | _, _ => True

instance (op : ControlOp) (s : ControlState) : Decidable (Orderly op s) := by
  unfold Orderly
  split <;> infer_instance

namespace GatewayPhase

/-- The runtime of a gateway that has one. -/
def runtime : GatewayPhase → Option Runtime
  | .loaded runtime | .locked runtime | .serving runtime => some runtime
  | .absent | .ended => none

/-- The users in the configuration that a starting gateway has loaded. -/
def loadedUsers : GatewayPhase → Option (Set GatewayUser)
  | .loaded runtime => some {user | user ∈ runtime.config.users}
  | _ => none

end GatewayPhase

/-- The users in the configuration that a handler has loaded. -/
def HandlePhase.loadedUsers : HandlePhase → Option (Set GatewayUser)
  | .loaded _ config => some {user | user ∈ config.users}
  | _ => none

namespace ControlState

/-- The users in a configuration that a party has loaded and not applied. -/
def loadedUsers (s : ControlState) : Party → Option (Set GatewayUser)
  | .gateway g => (s.gateways g).loadedUsers
  | .client c => (s.handles c).loadedUsers


section Views
variable [NetLiterals] [Toml] [Ring]

/-! ### A step, as one party sees it -/

/-- What a step does to a gateway. -/
inductive GatewayStep (s t : ControlState) (g : Nat) : Prop where
  | same (gateways : t.gateways g = s.gateways g)
      (lock : s.runtimeLock = some (.gateway g) → t.runtimeLock = some (.gateway g))
      (pending : .gateway g ∈ s.pending → .gateway g ∈ t.pending)
  | ended (gateways : t.gateways g = .ended)
  | started {config : GatewayConfig} {runtime : Runtime} (gateways : t.gateways g = .loaded runtime)
      (new : AppState.new config = .ok runtime) (pending : .gateway g ∈ t.pending)
  | locked {runtime : Runtime} (from_ : s.gateways g = .loaded runtime)
      (gateways : t.gateways g = .locked runtime) (lock : t.runtimeLock = some (.gateway g))
      (settled : t.settled = runtime.config.users)
  | bound {runtime : Runtime} (from_ : s.gateways g = .locked runtime)
      (gateways : t.gateways g = .serving runtime) (lock : t.runtimeLock = s.runtimeLock)
  | session {runtime next : Runtime} {op : Op} (from_ : s.gateways g = .serving runtime)
      (gateways : t.gateways g = .serving next) (lock : t.runtimeLock = s.runtimeLock)
      (step : applyOp op runtime = some next) (config : next.config = runtime.config)
  | applied {runtime next : Runtime} {config : GatewayConfig} (from_ : s.gateways g = .serving runtime)
      (gateways : t.gateways g = .serving next) (lock : t.runtimeLock = s.runtimeLock)
      (reloads : AppState.reload config runtime = .ok next) (settled : t.settled = config.users)

/-- What a step does to the task that handles a request. -/
inductive HandleStep (s t : ControlState) (c : Client) : Prop where
  | same (handles : t.handles c = s.handles c) (pending : .client c ∈ s.pending → .client c ∈ t.pending)
  | accepted {g : Nat} {config : String} (handles : t.handles c = .accepted g config)
      (clients : t.clients c = .exchanging)
  | failed {g : Nat} {error : Error} (from_ : s.handles c ≠ .absent)
      (handles : t.handles c = .tried g (.error error))
  | aborted (from_ : s.handles c ≠ .absent) (handles : t.handles c = .aborted)
  | loaded {g : Nat} {config : GatewayConfig} (from_ : s.handles c ≠ .absent)
      (handles : t.handles c = .loaded g config) (loads : GatewayConfig.load s.edits.file = .ok config)
      (pending : .client c ∈ t.pending)
  | applied {g : Nat} {config : GatewayConfig} (from_ : s.handles c = .loaded g config)
      (handles : t.handles c = .tried g (.ok ())) (settled : t.settled = config.users)
  | answered {g : Nat} {result : Except Error Unit} {response : Response} (from_ : s.handles c = .tried g result)
      (handles : t.handles c = .answered response) (ok : response.ok = result.isOk)

/-- What a step does to a command. -/
inductive ClientStep (s t : ControlState) (c : Client) : Prop where
  | same (clients : t.clients c = s.clients c)
  | waits (clients : (t.clients c).waiting = true) (ready : s.clients c ≠ .idle ∨ s.ready c = true)
  | failed {error : Error} (clients : t.clients c = .done (.error error))
      (ready : s.clients c ≠ .idle ∨ s.ready c = true)
  | killed (from_ : s.clients c ≠ .idle) (clients : t.clients c = .killed)
  | probed (clients : t.clients c = .probing) (ready : s.ready c = true) (settled : t.settled = s.edits.users)
  | released (from_ : s.clients c = .probing) (clients : t.clients c = .done (.ok none))
  | received {response : Response} (from_ : s.clients c = .exchanging)
      (clients : t.clients c = .done (.ok (some response))) (answer : s.handles c = .answered response)

variable {path : String} {s t : ControlState} {op : ControlOp}

omit [Toml] in
theorem gatewayStep_update {j g : Nat} {phase : GatewayPhase} (ht : t.gateways = Function.update s.gateways j phase)
    (others : ∀ g, g ≠ j → s.runtimeLock = some (.gateway g) → t.runtimeLock = some (.gateway g))
    (pending : ∀ g, g ≠ j → .gateway g ∈ s.pending → .gateway g ∈ t.pending)
    (own : t.gateways j = phase → GatewayStep s t j) : GatewayStep s t g := by
  by_cases hg : g = j
  · subst hg
    refine own ?_
    rw [ht, Function.update_self]
  · refine .same ?_ (others g hg) (pending g hg)
    rw [ht, Function.update_of_ne hg]

omit [Ring] in
theorem handleStep_update {c d : Client} {phase : HandlePhase} (ht : t.handles = Function.update s.handles d phase)
    (pending : ∀ c, c ≠ d → .client c ∈ s.pending → .client c ∈ t.pending)
    (own : t.handles d = phase → HandleStep s t d) : HandleStep s t c := by
  by_cases hc : c = d
  · subst hc
    refine own ?_
    rw [ht, Function.update_self]
  · refine .same ?_ (pending c hc)
    rw [ht, Function.update_of_ne hc]

omit [Ring] in
theorem clientStep_update {c d : Client} {phase : ClientPhase} (ht : t.clients = Function.update s.clients d phase)
    (own : t.clients d = phase → ClientStep s t d) : ClientStep s t c := by
  by_cases hc : c = d
  · subst hc
    refine own ?_
    rw [ht, Function.update_self]
  · refine .same ?_
    rw [ht, Function.update_of_ne hc]

omit [NetLiterals] [Toml] [Ring] in
theorem unlock_kept {p q : Party} (s : ControlState) (hpq : q ≠ p) (h : s.runtimeLock = some q) :
    (s.unlock p).runtimeLock = some q := by
  simp only [unlock, h, Option.filter_some, ne_eq, hpq, not_false_eq_true, decide_true, if_true]

omit [Toml] in
theorem applyOp_config {op : Op} {runtime next : Runtime} (other : ∀ config, op ≠ .reload config)
    (h : applyOp op runtime = some next) : next.config = runtime.config := by
  rcases applyOp_cases h with rfl | ⟨_, _, _, _, _, _, _, _, _, _, rfl⟩ | ⟨config, _, rfl, _, _⟩ | ⟨_, _, rfl⟩
  · rfl
  · exact (registered_credentials ..).2
  · exact absurd rfl (other config)
  · rfl

omit [NetLiterals] [Toml] [Ring] in
theorem settle_kept {p q : Party} (s : ControlState) (hpq : q ≠ p) (h : q ∈ s.pending) :
    q ∈ (s.settle p).pending :=
  List.mem_filter.mpr ⟨h, decide_eq_true hpq⟩

/-- A gateway's view of a step. -/
theorem Move.gateway (move : Move path s op t) (g : Nat) : GatewayStep s t g := by
  have hother : ∀ j g : Nat, g ≠ j → Party.gateway g ≠ .gateway j := fun j g hg heq => hg (Party.gateway.inj heq)
  cases move with
  | notStarted from_ => exact gatewayStep_update rfl (fun _ _ h => h) (fun _ _ h => h) .ended
  | started from_ loads new =>
    exact gatewayStep_update rfl (fun _ _ h => h) (fun _ _ h => List.mem_cons_of_mem _ h)
      fun hphase => .started hphase new List.mem_cons_self
  | refused from_ =>
    exact gatewayStep_update rfl (fun _ _ h => h)
      (fun j hj h => settle_kept (s.setGateway _ _) (hother _ j hj) h) .ended
  | locked from_ free =>
    refine gatewayStep_update rfl ?_ (fun j hj h => settle_kept (s.setGateway _ _) (hother _ j hj) h)
      fun hphase => .locked from_ hphase rfl rfl
    intro j _ hj
    rw [free] at hj
    cases hj
  | unbound from_ =>
    exact gatewayStep_update rfl (fun j hj h => unlock_kept (s.setGateway _ _) (hother _ j hj) h)
      (fun _ _ h => h) .ended
  | bound from_ =>
    exact gatewayStep_update rfl (fun _ _ h => h) (fun _ _ h => h) fun hphase => .bound from_ hphase rfl
  | session from_ other step =>
    exact gatewayStep_update rfl (fun _ _ h => h) (fun _ _ h => h)
      fun hphase => .session from_ hphase rfl step (applyOp_config other step)
  | stopped from_ =>
    refine gatewayStep_update rfl (fun j hj h => unlock_kept (s.setGateway _ _) (hother _ j hj) h) ?_ .ended
    exact fun j hj h => List.mem_filter.mpr ⟨h, decide_eq_true hj⟩
  | applied from_ serves reloads =>
    exact gatewayStep_update rfl (fun _ _ h => h)
      (fun j _ h => settle_kept ((s.setHandle _ _).setGateway _ _) (fun heq => by cases heq) h)
      fun hphase => .applied serves hphase rfl reloads rfl
  | probed from_ ready free =>
    refine .same rfl (fun h => ?_) fun h => h
    rw [free] at h
    cases h
  | released from_ | killed from_ =>
    exact .same rfl (fun h => unlock_kept (s.setClient _ _) (fun heq => by cases heq) h) fun h => h
  | loaded from_ loads => exact .same rfl (fun h => h) fun h => List.mem_cons_of_mem _ h
  | rejected from_ =>
    exact .same rfl (fun h => h) fun h => settle_kept (s.setHandle _ _) (fun heq => by cases heq) h
  | _ => exact .same rfl (fun h => h) fun h => h

/-- A handler's view of a step. -/
theorem Move.handle (move : Move path s op t) (c : Client) : HandleStep s t c := by
  have hother : ∀ d c : Client, c ≠ d → Party.client c ≠ .client d := fun d c hc heq => hc (Party.client.inj heq)
  cases move with
  | @connected d g runtime from_ serves =>
    refine handleStep_update rfl (fun _ _ h => h) fun hphase => .accepted hphase ?_
    exact Function.update_self ..
  | @notLoaded d failure g config error from_ =>
    refine handleStep_update rfl (fun _ _ h => h) fun hphase => .failed ?_ hphase
    rw [from_]
    exact fun h => by cases h
  | loaded from_ loads =>
    refine handleStep_update rfl (fun _ _ h => List.mem_cons_of_mem _ h)
      fun hphase => .loaded ?_ hphase loads List.mem_cons_self
    rw [from_]
    exact fun h => by cases h
  | rejected from_ =>
    refine handleStep_update rfl (fun c hc h => settle_kept (s.setHandle _ _) (hother _ c hc) h)
      fun hphase => .failed ?_ hphase
    rw [from_]
    exact fun h => by cases h
  | applied from_ serves reloads =>
    exact handleStep_update rfl
      (fun c hc h => settle_kept ((s.setHandle _ _).setGateway _ _) (hother _ c hc) h)
      fun hphase => .applied from_ hphase rfl
  | answered from_ ok =>
    exact handleStep_update rfl (fun _ _ h => h) fun hphase => .answered from_ hphase ok
  | aborted from_ => exact handleStep_update rfl (fun _ _ h => h) fun hphase => .aborted from_ hphase
  | @stopped g from_ =>
    by_cases hc : (s.handles c).gateway = some g
    · refine .aborted ?_ (if_pos hc)
      intro habsent
      rw [habsent] at hc
      cases hc
    · exact .same (if_neg hc) fun h => List.mem_filter.mpr ⟨h, decide_eq_true hc⟩
  | started from_ loads new => exact .same rfl fun h => List.mem_cons_of_mem _ h
  | refused from_ | locked from_ free =>
    exact .same rfl fun h => settle_kept (s.setGateway _ _) (fun heq => by cases heq) h
  | _ => exact .same rfl fun h => h

/-- A command's view of a step. -/
theorem Move.client (move : Move path s op t) (c : Client) : ClientStep s t c := by
  cases move with
  | notProbed from_ ready => exact clientStep_update rfl (fun hphase => .failed hphase (.inr ready))
  | probed from_ ready free => exact clientStep_update rfl (fun hphase => .probed hphase ready rfl)
  | busy from_ ready =>
    exact clientStep_update rfl (fun hphase => .waits (by rw [hphase]; rfl) (.inr ready))
  | released from_ => exact clientStep_update rfl (fun hphase => .released from_ hphase)
  | connected from_ serves =>
    refine clientStep_update rfl (fun hphase => .waits (by rw [hphase]; rfl) (.inl ?_))
    rw [from_]
    exact fun h => by cases h
  | gaveUp from_ =>
    refine clientStep_update rfl (fun hphase => .failed hphase (.inl ?_))
    intro hidle
    rw [hidle] at from_
    cases from_
  | received from_ answer => exact clientStep_update rfl (fun hphase => .received from_ hphase answer)
  | killed from_ => exact clientStep_update rfl (fun hphase => .killed from_ hphase)
  | _ => exact .same rfl

end Views

section Wired
variable [NetLiterals] [Toml] [Ring]

/-! ### How the parts hang together -/

structure Wired (s : ControlState) : Prop where
  /-- A gateway in force holds the lock. -/
  lock : ∀ g runtime, (s.gateways g).holding = some runtime → s.runtimeLock = some (.gateway g)
  pending : ∀ p users, s.loadedUsers p = some users → p ∈ s.pending
  registry : ∀ g runtime, (s.gateways g).runtime = some runtime → registry.Reachable runtime
  /-- Who uses the channel after `add_user` has had a token from it. -/
  ready : ∀ c, s.clients c ≠ .idle → s.ready c = true
  handled : ∀ c, s.handles c ≠ .absent → s.clients c ≠ .idle

variable {path : String} {s t : ControlState} {op : ControlOp}

omit [NetLiterals] [Toml] [Ring] in
theorem ready_adduser {k : Nat} :
    s.ready (.adduser k) = true ↔ ∃ name token, s.edits.calls k = .returned name (.ok token) := by
  cases hphase : s.edits.calls k with
  | returned name result => cases result <;> simp [ready, hphase]
  | _ => simp [ready, hphase]

theorem ready_kept (move : Move path s op t) {c : Client} (h : s.ready c = true) : t.ready c = true := by
  cases move with
  | edited step =>
    cases c with
    | reload command => rfl
    | adduser k =>
      obtain ⟨name, token, hreturned⟩ := ready_adduser.mp h
      exact ready_adduser.mpr ⟨name, token, EditState.returned_step step hreturned⟩
  | _ => exact h

theorem wired_step (h : s.Wired) (move : Move path s op t) : t.Wired := by
  refine ⟨?_, ?_, ?_, ?_, ?_⟩
  · intro g runtime hholding
    cases move.gateway g with
    | same gateways lock =>
      rw [gateways] at hholding
      exact lock (h.lock g runtime hholding)
    | ended gateways | started gateways =>
      rw [gateways] at hholding
      cases hholding
    | locked from_ gateways lock => exact lock
    | bound from_ gateways lock | session from_ gateways lock | applied from_ gateways lock =>
      rw [lock]
      exact h.lock g _ (congrArg GatewayPhase.holding from_)
  · intro p users hloaded
    cases p with
    | gateway g =>
      cases move.gateway g with
      | same gateways lock pending =>
        refine pending (h.pending (.gateway g) users ?_)
        simpa only [loadedUsers, gateways] using hloaded
      | started gateways new pending => exact pending
      | ended gateways | locked _ gateways | bound _ gateways | session _ gateways | applied _ gateways =>
        simp only [loadedUsers, gateways, GatewayPhase.loadedUsers, reduceCtorEq] at hloaded
    | client c =>
      cases move.handle c with
      | same handles pending =>
        refine pending (h.pending (.client c) users ?_)
        simpa only [loadedUsers, handles] using hloaded
      | loaded _ handles _ pending => exact pending
      | accepted handles | failed _ handles | aborted _ handles | applied _ handles | answered _ handles =>
        simp only [loadedUsers, handles, HandlePhase.loadedUsers, reduceCtorEq] at hloaded
  · intro g runtime hruntime
    cases move.gateway g with
    | same gateways =>
      rw [gateways] at hruntime
      exact h.registry g runtime hruntime
    | ended gateways =>
      rw [gateways] at hruntime
      cases hruntime
    | started gateways new =>
      rw [gateways] at hruntime
      cases hruntime
      exact .initial ⟨_, new⟩
    | locked from_ gateways | bound from_ gateways =>
      rw [gateways] at hruntime
      cases hruntime
      exact h.registry g _ (congrArg GatewayPhase.runtime from_)
    | session from_ gateways lock step =>
      rw [gateways] at hruntime
      cases hruntime
      exact (h.registry g _ (congrArg GatewayPhase.runtime from_)).next trivial step
    | @applied old next config from_ gateways lock reloads =>
      rw [gateways] at hruntime
      cases hruntime
      refine (h.registry g old (congrArg GatewayPhase.runtime from_)).next (i := .reload config) trivial ?_
      simp only [registry, applyOp, reloads]
  · intro c hc
    refine ready_kept move ?_
    cases move.client c with
    | same clients =>
      rw [clients] at hc
      exact h.ready c hc
    | waits _ ready | failed _ ready => exact ready.elim (h.ready c) id
    | killed from_ => exact h.ready c from_
    | probed _ ready => exact ready
    | released from_ | received from_ =>
      refine h.ready c ?_
      rw [from_]
      exact fun heq => by cases heq
  · intro c hc
    have hbefore : s.handles c ≠ .absent → t.clients c ≠ .idle := by
      intro hpresent hidle
      have hclient := h.handled c hpresent
      cases move.client c with
      | same clients => exact hclient (clients.symm.trans hidle)
      | waits clients =>
        rw [hidle] at clients
        cases clients
      | failed clients | killed _ clients | probed clients | released _ clients | received _ clients =>
        rw [clients] at hidle
        cases hidle
    cases move.handle c with
    | same handles => exact hbefore (by rwa [← handles])
    | accepted handles clients =>
      rw [clients]
      exact fun heq => by cases heq
    | failed from_ | aborted from_ | loaded from_ => exact hbefore from_
    | applied from_ | answered from_ =>
      refine hbefore ?_
      rw [from_]
      exact fun heq => by cases heq

theorem wired_of_reached {Rule : ControlOp → ControlState → Prop}
    (h : (control path).ReachableUnder Rule s) : s.Wired := by
  refine h.invariant (P := Wired) ?_ fun _ _ _ _ hs _ hstep => wired_step hs (move_control hstep)
  intro s hi
  obtain ⟨-, hgateways, -, hclients, hhandles, -, -⟩ := hi
  refine ⟨?_, ?_, ?_, ?_, ?_⟩
  · intro g runtime hg
    rw [hgateways] at hg
    cases hg
  · intro p users hp
    cases p <;>
      simp only [loadedUsers, hgateways, hhandles, GatewayPhase.loadedUsers, HandlePhase.loadedUsers,
        reduceCtorEq] at hp
  · intro g runtime hg
    rw [hgateways] at hg
    cases hg
  · intro c hc
    rw [hclients] at hc
    exact absurd rfl hc
  · intro c hc
    rw [hhandles] at hc
    exact absurd rfl hc

end Wired

section Published
variable [NetLiterals] [Toml] [Ring] {path : String} {s t : ControlState} {op : ControlOp}

/-! ### The users in force are a publication of those in the file -/

def publication (s : ControlState) : Publication (Set GatewayUser) Party where
  source := {user | user ∈ s.edits.users}
  loaded := s.loadedUsers
  published := {user | user ∈ s.settled}

omit [NetLiterals] [Toml] [Ring] in
theorem loadedUsers_setGateway (g : Nat) (phase : GatewayPhase) (s : ControlState) :
    (s.setGateway g phase).loadedUsers = Function.update s.loadedUsers (.gateway g) phase.loadedUsers := by
  funext p
  cases p with
  | gateway j =>
    by_cases hj : j = g
    · subst hj
      simp [loadedUsers, setGateway]
    · simp [loadedUsers, setGateway, hj]
  | client c => simp [loadedUsers, setGateway]

omit [NetLiterals] [Toml] [Ring] in
theorem loadedUsers_setHandle (c : Client) (phase : HandlePhase) (s : ControlState) :
    (s.setHandle c phase).loadedUsers = Function.update s.loadedUsers (.client c) phase.loadedUsers := by
  funext p
  cases p with
  | gateway j => simp [loadedUsers, setHandle]
  | client d =>
    by_cases hd : d = c
    · subst hd
      simp [loadedUsers, setHandle]
    · simp [loadedUsers, setHandle, hd]

omit [NetLiterals] [Toml] [Ring] in
/-- A gateway that has nothing loaded, before or after. -/
theorem loadedUsers_gateway_idle {g : Nat} {phase : GatewayPhase} (hs : (s.gateways g).loadedUsers = none)
    (hphase : phase.loadedUsers = none) : (s.setGateway g phase).loadedUsers = s.loadedUsers := by
  rw [loadedUsers_setGateway, hphase, ← hs]
  exact Function.update_eq_self (Party.gateway g) s.loadedUsers

omit [NetLiterals] [Toml] [Ring] in
theorem loadedUsers_handle_idle {c : Client} {phase : HandlePhase} (hs : (s.handles c).loadedUsers = none)
    (hphase : phase.loadedUsers = none) : (s.setHandle c phase).loadedUsers = s.loadedUsers := by
  rw [loadedUsers_setHandle, hphase, ← hs]
  exact Function.update_eq_self (Party.client c) s.loadedUsers

omit [Toml] in
theorem nothing_loaded (h : s.Wired) (hp : s.pending = []) (p : Party) : s.loadedUsers p = none := by
  cases hloaded : s.loadedUsers p with
  | none => rfl
  | some users =>
    have hmem := h.pending p users hloaded
    rw [hp] at hmem
    cases hmem

omit [Toml] in
theorem new_config {config : GatewayConfig} {runtime : Runtime} (h : AppState.new config = .ok runtime) :
    runtime.config = config := by
  obtain ⟨table, -, hruntime⟩ := bind_eq_ok.mp h
  rw [← pure_eq_ok.mp hruntime]

/-- **The channel refines publication.** -/
theorem Move.matched (move : Move path s op t) (h : s.Wired) (lawful : Toml.Lawful)
    (hq : s.edits.QuietlyEdited) (he : s.edits.Edited) (hr : Orderly op s) :
    (Publication.machine (Set GatewayUser) Party).StepsUnder Publication.Alone s.publication t.publication := by
  have hsame : t.edits.users = s.edits.users → t.settled = s.settled → t.loadedUsers = s.loadedUsers →
      (Publication.machine (Set GatewayUser) Party).StepsUnder Publication.Alone s.publication t.publication := by
    intro husers hsettled hloaded
    have heq : t.publication = s.publication := by
      simp only [publication, husers, hsettled, hloaded]
    rw [heq]
    exact .refl _
  cases move with
  | @edited op edits step =>
    cases op with
    | foreign content => cases hr
    | act k op =>
      refine .single (i := .grow {user | user ∈ edits.users}) trivial ?_
      have hgrow : s.publication.source ≤ {user | user ∈ edits.users} := by
        intro user huser
        rcases EditState.users_act lawful hq he step with ⟨husers, -⟩ | ⟨edit, -, husers⟩
        · exact husers ▸ huser
        · exact husers ▸ List.mem_append_left _ huser
      exact if_pos hgrow
  | notStarted from_ => exact hsame rfl rfl (loadedUsers_gateway_idle (by rw [from_]; rfl) rfl)
  | @started g config runtime from_ loads new =>
    refine .single (i := .load (.gateway g)) (nothing_loaded h hr) (congrArg some ?_)
    refine Publication.ext rfl ?_ rfl
    show Function.update s.loadedUsers _ (some {user | user ∈ s.edits.users}) = ControlState.loadedUsers _
    rw [EditState.users_of_load loads, ← new_config new]
    exact (loadedUsers_setGateway g (.loaded runtime) s).symm
  | @refused g failed runtime from_ =>
    refine .single (i := .drop {.gateway g}) trivial
      ((Publication.step_drop_one _ _).trans (congrArg some (Publication.ext rfl ?_ rfl)))
    exact (loadedUsers_setGateway g .ended s).symm
  | @locked g failed runtime from_ free =>
    refine .single (i := .publish (.gateway g)) trivial ?_
    have hloaded : s.publication.loaded (.gateway g) = some {user | user ∈ runtime.config.users} :=
      congrArg GatewayPhase.loadedUsers from_
    refine Option.map_eq_some_iff.mpr ⟨_, hloaded, Publication.ext rfl ?_ rfl⟩
    exact (loadedUsers_setGateway g (.locked runtime) s).symm
  | unbound from_ => exact hsame rfl rfl (loadedUsers_gateway_idle (by rw [from_]; rfl) rfl)
  | bound from_ => exact hsame rfl rfl (loadedUsers_gateway_idle (by rw [from_]; rfl) rfl)
  | session from_ other step => exact hsame rfl rfl (loadedUsers_gateway_idle (by rw [from_]; rfl) rfl)
  | @stopped g from_ =>
    refine .single (i := .drop {p | p = .gateway g ∨ ∃ c, p = .client c ∧ (s.handles c).gateway = some g})
      trivial (congrArg some ?_)
    refine Publication.ext rfl ?_ rfl
    funext p
    cases p with
    | gateway j =>
      by_cases hj : j = g
      · simp [publication, loadedUsers, setGateway, unlock, hj]
        rfl
      · simp [publication, loadedUsers, setGateway, unlock, hj]
    | client c =>
      by_cases hc : (s.handles c).gateway = some g
      · simp [publication, loadedUsers, setGateway, unlock, hc]
        rfl
      · simp [publication, loadedUsers, setGateway, unlock, hc]
  | probed from_ ready free =>
    exact .single (i := .confirm) (nothing_loaded h (hr free)) rfl
  | @connected c g runtime from_ serves =>
    refine .single (i := .drop {.client c}) trivial
      ((Publication.step_drop_one _ _).trans (congrArg some (Publication.ext rfl ?_ rfl)))
    exact (loadedUsers_setHandle c (.accepted g path) s).symm
  | notLoaded from_ => exact hsame rfl rfl (loadedUsers_handle_idle (by rw [from_]; rfl) rfl)
  | @loaded c g requested config from_ loads =>
    refine .single (i := .load (.client c)) (nothing_loaded h hr) (congrArg some ?_)
    refine Publication.ext rfl ?_ rfl
    show Function.update s.loadedUsers _ (some {user | user ∈ s.edits.users}) = ControlState.loadedUsers _
    rw [EditState.users_of_load loads]
    exact (loadedUsers_setHandle c (.loaded g config) s).symm
  | @rejected c g config error from_ =>
    refine .single (i := .drop {.client c}) trivial
      ((Publication.step_drop_one _ _).trans (congrArg some (Publication.ext rfl ?_ rfl)))
    exact (loadedUsers_setHandle c (.tried g (.error error)) s).symm
  | @applied c g config runtime next from_ serves reloads =>
    refine .single (i := .publish (.client c)) trivial ?_
    have hloaded : s.publication.loaded (.client c) = some {user | user ∈ config.users} :=
      congrArg HandlePhase.loadedUsers from_
    refine Option.map_eq_some_iff.mpr ⟨_, hloaded, Publication.ext rfl ?_ rfl⟩
    have hset : ((s.setHandle c (.tried g (.ok ()))).setGateway g (.serving next)).loadedUsers =
        (s.setHandle c (.tried g (.ok ()))).loadedUsers := by
      refine loadedUsers_gateway_idle ?_ rfl
      rw [show (s.setHandle c _).gateways g = _ from serves]
      rfl
    exact (loadedUsers_setHandle c (.tried g (.ok ())) s).symm.trans hset.symm
  | answered from_ ok => exact hsame rfl rfl (loadedUsers_handle_idle (by rw [from_]; rfl) rfl)
  | @aborted c from_ unloaded =>
    refine hsame rfl rfl (loadedUsers_handle_idle ?_ rfl)
    cases hphase : s.handles c with
    | loaded g config => exact absurd hphase (unloaded g config)
    | _ => rfl
  | _ => exact hsame rfl rfl rfl

theorem Move.edits (move : Move path s op t) :
    t.edits = s.edits ∨ ∃ edit, op = .edit edit ∧ editing.step edit s.edits = some t.edits ∧
      t.clients = s.clients ∧ t.handles = s.handles := by
  cases move with
  | edited step => exact .inr ⟨_, rfl, step, rfl, rfl⟩
  | _ => exact .inl rfl

theorem edits_of_reached (h : (control path).ReachableUnder Orderly s) :
    editing.ReachableUnder EditState.OwnOnly s.edits := by
  refine h.simulation edits ?_ ?_
  · exact fun s hi => hi.1
  intro op s t _ hr hstep
  rcases (move_control hstep).edits with hsame | ⟨edit, rfl, hedit, -, -⟩
  · rw [hsame]
    exact .refl _
  · refine .single ?_ hedit
    cases edit with
    | foreign content => exact hr
    | act k op => trivial

theorem matched_step (lawful : Toml.Lawful) (h : (control path).ReachableUnder Orderly s) (hr : Orderly op s)
    (hs : (control path).step op s = some t) :
    (Publication.machine (Set GatewayUser) Party).StepsUnder Publication.Alone s.publication t.publication :=
  have hown := edits_of_reached h
  (move_control hs).matched (wired_of_reached h) lawful
    (EditState.quietlyEdited_of_reached (EditState.quiet_of_own hown))
    (EditState.edited_of_reached hown) hr

theorem ordered_publication (lawful : Toml.Lawful) (h : (control path).ReachableUnder Orderly s) :
    s.publication.Ordered := by
  refine Publication.ordered_of_reached (h.simulation publication ?_ ?_)
  · intro s hi
    obtain ⟨-, hgateways, -, -, hhandles, -, hsettled⟩ := hi
    refine ⟨?_, ?_⟩
    · intro user huser
      have hmem : user ∈ s.settled := huser
      rw [hsettled] at hmem
      cases hmem
    · intro p
      show s.loadedUsers p = none
      cases p <;> simp only [loadedUsers, hgateways, hhandles] <;> rfl
  · exact fun op s t hs hr hstep => matched_step lawful hs hr hstep

/-- A user that is settled stays so. -/
theorem settled_grows (lawful : Toml.Lawful) (h : (control path).ReachableUnder Orderly s) (hr : Orderly op s)
    (hs : (control path).step op s = some t) {user : GatewayUser} (hu : user ∈ s.settled) : user ∈ t.settled :=
  (Publication.published_grows (ordered_publication lawful h) (matched_step lawful h hr hs)).2 hu

end Published

section InForce
variable [NetLiterals] [Toml] [Ring] {path : String} {s t : ControlState} {op : ControlOp}

/-! ### What a command may rely on -/

/-- How far a command, and the task that handles its request, vouch for a user. -/
structure Vouched (s : ControlState) (c : Client) (user : GatewayUser) : Prop where
  loaded : ∀ g config, s.handles c = .loaded g config → user ∈ config.users
  tried : ∀ g, s.handles c = .tried g (.ok ()) → user ∈ s.settled
  answered : ∀ response, s.handles c = .answered response → response.ok = true → user ∈ s.settled
  probing : s.clients c = .probing → user ∈ s.settled
  done : ∀ outcome, s.clients c = .done outcome → outcome.Success → user ∈ s.settled

/-- What holds between the file, the gateways and the commands. -/
structure InForce (s : ControlState) : Prop where
  settled : ∀ g runtime, (s.gateways g).holding = some runtime → ∀ user ∈ s.settled, user ∈ runtime.config.users
  vouched : ∀ k name token, s.edits.calls k = .returned name (.ok token) →
    s.Vouched (.adduser k) ⟨name, token, none, []⟩

omit [Toml] in
theorem reload_config {config : GatewayConfig} {runtime next : Runtime}
    (h : AppState.reload config runtime = .ok next) : next.config = config := by
  obtain ⟨table, -, -, rfl⟩ := reload_ok h
  rfl

/-- The settled users change when the lock is free, or with a reload. -/
theorem Move.settled (move : Move path s op t) :
    t.settled = s.settled ∨ s.runtimeLock = none ∨ ∃ g old next, s.gateways g = .serving old ∧
      t.gateways g = .serving next ∧ t.settled = next.config.users := by
  cases move with
  | locked from_ free => exact .inr (.inl free)
  | probed from_ ready free => exact .inr (.inl free)
  | @applied c g config runtime next from_ serves reloads =>
    refine .inr (.inr ⟨g, runtime, next, serves, Function.update_self .., ?_⟩)
    rw [reload_config reloads]
  | _ => exact .inl rfl

theorem settled_step (h : s.InForce) (hw : s.Wired) (move : Move path s op t) (g : Nat)
    (runtime : Runtime) (hg : (t.gateways g).holding = some runtime) (user : GatewayUser)
    (hu : user ∈ t.settled) : user ∈ runtime.config.users := by
  have hcases : ∀ before, (s.gateways g).holding = some before →
      before.config.users = runtime.config.users → user ∈ runtime.config.users := by
    intro before hbefore hsame
    rcases move.settled with heq | hfree | ⟨j, old, next, hj, hnext, heq⟩
    · rw [heq] at hu
      exact hsame ▸ h.settled g before hbefore user hu
    · have hlock := hw.lock g before hbefore
      rw [hfree] at hlock
      cases hlock
    · have hown := hw.lock g before hbefore
      have hother := hw.lock j old (congrArg GatewayPhase.holding hj)
      obtain rfl : g = j := Party.gateway.inj (Option.some.inj (hown.symm.trans hother))
      rw [hnext] at hg
      cases hg
      rw [← heq]
      exact hu
  cases move.gateway g with
  | same gateways =>
    rw [gateways] at hg
    exact hcases runtime hg rfl
  | ended gateways | started gateways =>
    rw [gateways] at hg
    cases hg
  | locked from_ gateways lock settled =>
    rw [gateways] at hg
    cases hg
    rw [← settled]
    exact hu
  | bound from_ gateways =>
    rw [gateways] at hg
    cases hg
    exact hcases _ (congrArg GatewayPhase.holding from_) rfl
  | session from_ gateways lock step config =>
    rw [gateways] at hg
    cases hg
    exact hcases _ (congrArg GatewayPhase.holding from_) (by rw [config])
  | applied from_ gateways lock reloads settled =>
    rw [gateways] at hg
    cases hg
    rw [reload_config reloads, ← settled]
    exact hu

/-- A command goes on vouching for a user that is in the file. -/
theorem Vouched.step (lawful : Toml.Lawful) (hreached : (control path).ReachableUnder Orderly s)
    (hr : Orderly op s) (hs : (control path).step op s = some t) {c : Client} {user : GatewayUser}
    (hv : s.Vouched c user) (hfile : user ∈ s.edits.users) : t.Vouched c user := by
  have move := move_control hs
  have hgrows : ∀ {user}, user ∈ s.settled → user ∈ t.settled := settled_grows lawful hreached hr hs
  refine ⟨?_, ?_, ?_, ?_, ?_⟩
  · intro g config hg
    cases move.handle c with
    | same handles => exact hv.loaded g config (handles.symm.trans hg)
    | loaded from_ handles loads =>
      rw [handles] at hg
      cases hg
      rw [← EditState.users_of_load loads]
      exact hfile
    | accepted handles | failed _ handles | aborted _ handles | applied _ handles | answered _ handles =>
      rw [handles] at hg
      cases hg
  · intro g hg
    cases move.handle c with
    | same handles => exact hgrows (hv.tried g (handles.symm.trans hg))
    | applied from_ handles settled =>
      rw [settled]
      exact hv.loaded _ _ from_
    | accepted handles | failed _ handles | aborted _ handles | loaded _ handles | answered _ handles =>
      rw [handles] at hg
      cases hg
  · intro response hresponse hok
    cases move.handle c with
    | same handles => exact hgrows (hv.answered response (handles.symm.trans hresponse) hok)
    | @answered g result response' from_ handles ok =>
      rw [handles] at hresponse
      cases hresponse
      rw [ok] at hok
      cases result with
      | error error => cases hok
      | ok u => exact hgrows (hv.tried g from_)
    | accepted handles | failed _ handles | aborted _ handles | loaded _ handles | applied _ handles =>
      rw [handles] at hresponse
      cases hresponse
  · intro hprobing
    cases move.client c with
    | same clients => exact hgrows (hv.probing (clients.symm.trans hprobing))
    | probed clients ready settled =>
      rw [settled]
      exact hfile
    | waits clients =>
      rw [hprobing] at clients
      cases clients
    | failed clients | killed _ clients | released _ clients | received _ clients =>
      rw [clients] at hprobing
      cases hprobing
  · intro outcome houtcome hsuccess
    cases move.client c with
    | same clients => exact hgrows (hv.done outcome (clients.symm.trans houtcome) hsuccess)
    | released from_ => exact hgrows (hv.probing from_)
    | received from_ clients answer =>
      rw [clients] at houtcome
      cases houtcome
      exact hgrows (hv.answered _ answer hsuccess)
    | failed clients =>
      rw [clients] at houtcome
      cases houtcome
      cases hsuccess
    | waits clients =>
      rw [houtcome] at clients
      cases clients
    | killed _ clients | probed clients =>
      rw [clients] at houtcome
      cases houtcome

omit [NetLiterals] [Toml] [Ring] in
/-- A command that has not used the channel vouches for anything. -/
theorem vouched_idle {c : Client} {user : GatewayUser} (hclient : s.clients c = .idle)
    (hhandle : s.handles c = .absent) : s.Vouched c user := by
  refine ⟨?_, ?_, ?_, ?_, ?_⟩ <;> simp [hclient, hhandle]

omit [Toml] in
theorem Wired.absent (hw : s.Wired) {c : Client} (hidle : s.clients c = .idle) : s.handles c = .absent := by
  by_contra hpresent
  exact hw.handled _ hpresent hidle

theorem vouched_step (lawful : Toml.Lawful) (hreached : (control path).ReachableUnder Orderly s)
    (h : s.InForce) (hr : Orderly op s) (hs : (control path).step op s = some t) (k : Nat) (name token : String)
    (ht : t.edits.calls k = .returned name (.ok token)) : t.Vouched (.adduser k) ⟨name, token, none, []⟩ := by
  have hw := wired_of_reached hreached
  by_cases hbefore : s.edits.calls k = .returned name (.ok token)
  · have hown := edits_of_reached hreached
    refine (h.vouched k name token hbefore).step lawful hreached hr hs ?_
    obtain ⟨edit, hcommit, rfl, rfl⟩ := EditState.commit_of_returned (EditState.edited_of_reached hown) hbefore
    exact EditState.kept_of_reached lawful hown k edit hcommit
  · -- the call returns with this step: its command has not used the channel
    have hnew : t.edits ≠ s.edits := by
      intro heq
      rw [heq] at ht
      exact hbefore ht
    rcases (move_control hs).edits with heq | ⟨edit, -, hstep, hclients, hhandles⟩
    · exact absurd heq hnew
    have hidle : s.clients (.adduser k) = .idle := by
      by_contra hused
      obtain ⟨name', token', hreturned⟩ := ready_adduser.mp (hw.ready _ hused)
      have hsame := EditState.returned_step hstep hreturned
      rw [ht] at hsame
      cases hsame
      exact hbefore hreturned
    exact vouched_idle (hclients ▸ hidle) (hhandles ▸ hw.absent hidle)

theorem inForce_of_reached (lawful : Toml.Lawful) (h : (control path).ReachableUnder Orderly s) :
    s.InForce := by
  refine h.invariant (P := InForce) ?_ ?_
  · intro s hi
    obtain ⟨hedits, hgateways, -, hclients, hhandles, -, hsettled⟩ := hi
    refine ⟨?_, ?_⟩
    · intro g runtime hg
      rw [hgateways] at hg
      cases hg
    · intro k name token hk
      rw [hedits.2.2.1] at hk
      cases hk
  · intro op s t hreached hs hr hstep
    exact ⟨settled_step hs (wired_of_reached hreached) (move_control hstep),
      vouched_step lawful hreached hs hr hstep⟩

/-- **A reported user is in force.** In every orderly run without other writers: once the
`adduser` command has exited successfully, every gateway that serves, then or later, has
the user with the token reported, and, while its user system is on, registers the user's
sessions. -/
theorem reported_in_force (lawful : Toml.Lawful) (h : (control path).ReachableUnder Orderly s) {k : Nat}
    {name token : String} {outcome : Outcome} (hreturned : s.edits.calls k = .returned name (.ok token))
    (hdone : s.clients (.adduser k) = .done outcome) (hexit : (adduserReport name token outcome).2 = .ok ())
    {g : Nat} {runtime : Runtime} (hserving : s.gateways g = .serving runtime) :
    ⟨name, token, none, []⟩ ∈ runtime.config.users ∧
      (runtime.config.auth.enabled = true → ∀ sessionId instanceId, validId instanceId = true →
        (credentialId token, instanceId) ∉ runtime.retired → ∃ next lease,
          AppState.register sessionId runtime.config.auth.accessToken (some token) instanceId false runtime =
            .ok (next, lease, name)) := by
  have hforce := inForce_of_reached lawful h
  have huser := hforce.settled g runtime (congrArg GatewayPhase.holding hserving) _
    ((hforce.vouched k name token hreturned).done outcome hdone (adduserReport_ok.mp hexit))
  refine ⟨huser, ?_⟩
  intro henabled sessionId instanceId hinstance hactive
  have hconsistent := consistent_reachable
    ((wired_of_reached h).registry g runtime (congrArg GatewayPhase.runtime hserving))
  obtain ⟨rules, -, hlookup⟩ := credentials_user hconsistent.table henabled huser
  exact ⟨_, _, register_of_accepted sessionId ⟨rfl, fun hlegacy => Bool.false_ne_true hlegacy.1,
    by rw [if_pos henabled], hlookup, rfl, hinstance, hactive⟩⟩

/-- The users of the file stay in it. -/
theorem users_grow (lawful : Toml.Lawful) (h : (control path).ReachableUnder Orderly s) (hr : Orderly op s)
    (hs : (control path).step op s = some t) {user : GatewayUser} (hu : user ∈ s.edits.users) :
    user ∈ t.edits.users := by
  have hown := edits_of_reached h
  rcases (move_control hs).edits with heq | ⟨edit, rfl, hstep, -, -⟩
  · exact heq ▸ hu
  · cases edit with
    | foreign content => cases hr
    | act k op =>
      rcases EditState.users_act lawful (EditState.quietlyEdited_of_reached (EditState.quiet_of_own hown))
        (EditState.edited_of_reached hown) hstep with ⟨husers, -⟩ | ⟨_, -, husers⟩
      · exact husers ▸ hu
      · exact husers ▸ List.mem_append_left _ hu

/-- **What a `reload` reports.** Once the command has exited successfully, every user that
was in the file when it was given is in force at every gateway that serves. -/
theorem reloaded_in_force (lawful : Toml.Lawful) (h : (control path).ReachableUnder Orderly s) {command : Nat}
    (hidle : s.clients (.reload command) = .idle) (hrun : (control path).StepsUnder Orderly s t)
    {outcome : Outcome} (hdone : t.clients (.reload command) = .done outcome)
    (hexit : reloadReport outcome = .ok ()) {g : Nat} {runtime : Runtime}
    (hserving : t.gateways g = .serving runtime) : ∀ user ∈ s.edits.users, user ∈ runtime.config.users := by
  intro user huser
  have hvouched : t.Vouched (.reload command) user ∧ user ∈ t.edits.users := by
    clear hdone hexit hserving
    induction hrun with
    | refl => exact ⟨vouched_idle hidle ((wired_of_reached h).absent hidle), huser⟩
    | tail hbefore hr hs ih =>
      have hreached := h.steps hbefore
      exact ⟨ih.1.step lawful hreached hr hs ih.2, users_grow lawful hreached hr hs ih.2⟩
  obtain ⟨response, rfl, hok⟩ := reloadReport_ok.mp hexit
  have hforce := inForce_of_reached lawful (h.steps hrun)
  exact hforce.settled g runtime (congrArg GatewayPhase.holding hserving) user
    (hvouched.1.done _ hdone hok)

/-- A run of calls is one of the whole. -/
theorem stepsUnder_edits {after : EditState} (h : editing.StepsUnder EditState.OwnOnly s.edits after) :
    (control path).StepsUnder Orderly s { s with edits := after } := by
  generalize hbefore : s.edits = before at h
  induction h with
  | refl =>
    subst hbefore
    exact .refl _
  | @tail edits next op _ hr hs ih =>
    refine ih.tail (i := .edit op) ?_ ?_
    · cases op with
      | foreign content => exact hr
      | act k op => trivial
    · exact Option.map_eq_some_iff.mpr ⟨next, hs, rfl⟩

/-! ### A command and the gateway that answers it -/

variable {c : Client} {g : Nat} {runtime next : Runtime} {config : GatewayConfig}

theorem step_probe (from_ : s.clients c = .idle) (ready : s.ready c = true) (held : s.runtimeLock ≠ none) :
    (control path).step (.probe c none) s = some (s.setClient c .connecting) := by
  simp [control, probe, from_, ready, held]

theorem step_connect (from_ : s.clients c = .connecting) (serves : s.gateways g = .serving runtime) :
    (control path).step (.connect c g) s =
      some ((s.setClient c .exchanging).setHandle c (.accepted g path)) := by
  simp [control, connect, from_, serves]

theorem step_load (from_ : s.handles c = .accepted g path) (loads : GatewayConfig.load s.edits.file = .ok config) :
    (control path).step (.load c none) s =
      some { s.setHandle c (.loaded g config) with pending := .client c :: s.pending } := by
  simp [control, load, from_, loads]

theorem step_apply (from_ : s.handles c = .loaded g config) (serves : s.gateways g = .serving runtime)
    (reloads : AppState.reload config runtime = .ok next) :
    (control path).step (.apply c) s =
      some { ((s.setHandle c (.tried g (.ok ()))).setGateway g (.serving next)).settle (.client c) with
        settled := config.users } := by
  simp [control, apply, from_, serves, reloads]

theorem step_answer (from_ : s.handles c = .tried g (.ok ())) (serves : s.gateways g = .serving runtime) :
    (control path).step (.answer c) s =
      some (s.setHandle c (.answered ⟨true, runtime.config.auth.enabled, none⟩)) := by
  simp [control, answer, from_, serves, Except.isOk, Except.toBool]

theorem step_receive {response : Response} (from_ : s.clients c = .exchanging)
    (answered : s.handles c = .answered response) :
    (control path).step (.receive c) s = some (s.setClient c (.done (.ok (some response)))) := by
  simp [control, receive, from_, answered]

end InForce

end ControlState

namespace OneUser
open EditState ControlState

attribute [local instance] NetLiterals.dottedQuad toml Ring.free

def runtime : Runtime := ⟨config, ∅, ∅, ∅, ∅, 0⟩

def withZhang : GatewayConfig := withUser config "zhang" (hex seed)

def zhangRuntime : Runtime :=
  runtime.reconfigure withZhang (AList.insert (credentialId (hex seed)) ⟨hex seed, "zhang", true, []⟩ ∅)

theorem reload_zhang : AppState.reload withZhang runtime = .ok zhangRuntime := by
  have hcredentials : credentials withZhang =
      .ok (AList.insert (credentialId (hex seed)) ⟨hex seed, "zhang", true, []⟩ ∅) := by
    refine bind_eq_ok.mpr ⟨(), ?_, ?_⟩
    · exact validate_withUser rfl rfl (validId_hex seed.2) (by simp [config]) fresh_seed
    · rw [if_pos (by rfl)]
      rfl
  exact bind_eq_ok.mpr ⟨_, hcredentials, bind_eq_ok.mpr ⟨(), rfl, rfl⟩⟩

theorem load_added : GatewayConfig.load (bytesOf added) = .ok withZhang :=
  load_withUser (Toml.plain_lawful content config) rfl (validId_hex seed.2) load_content update_content

/-- The gateway serves, and no command has been given. -/
def serving : ControlState :=
  ⟨start, Function.update (fun _ => .absent) 0 (.serving runtime), some (.gateway 0), fun _ => .idle,
    fun _ => .absent, [], []⟩

/-- No gateway runs, and no command has been given. -/
def unserved : ControlState := ⟨start, fun _ => .absent, none, fun _ => .idle, fun _ => .absent, [], []⟩

theorem reached_unserved {Rule : ControlOp → ControlState → Prop} :
    (control "gateway.toml").ReachableUnder Rule unserved :=
  .initial ⟨⟨rfl, rfl, rfl, rfl, rfl⟩, rfl, rfl, rfl, rfl, rfl, rfl⟩

/-- The gateway has loaded the file, which holds no user. -/
def starting : ControlState := { unserved.setGateway 0 (.loaded runtime) with pending := [.gateway 0] }

theorem step_starting : (control "gateway.toml").step (.start 0 none) unserved = some starting := by
  have hload : (do AppState.new (← GatewayConfig.load start.file) : Except Error Runtime) = .ok runtime :=
    bind_eq_ok.mpr ⟨config, load_content, rfl⟩
  show unserved.start 0 none = _
  simp only [ControlState.start]
  rw [show unserved.edits.file = start.file from rfl, hload]
  rfl

theorem reached_serving : (control "gateway.toml").ReachableUnder Orderly serving := by
  have hidle : (control "gateway.toml").ReachableUnder Orderly unserved := reached_unserved
  have hstart := hidle.next (i := ControlOp.start 0 none) rfl step_starting
  have hlock := hstart.next (i := ControlOp.lock 0 false) trivial rfl
  have hlast := hlock.next (i := ControlOp.bind 0 false) trivial rfl
  convert hlast using 1
  simp [serving, starting, unserved, ControlState.setGateway, ControlState.settle, runtime, config]

theorem steps_added : editing.StepsUnder OwnOnly start (start.afterCall 0 edit) := by
  have acts : ∀ k op s, OwnOnly (.act k op) s := fun _ _ _ => trivial
  have hto : editing.runUnder OwnOnly (toRename 0 "zhang" seed) start = some (start.beforeRename 0 edit) :=
    run_toRename acts rfl rfl rfl load_content (checkAbsent_eq_ok.mpr (by simp [config])) fresh_seed
      update_content
  exact Machine.stepsUnder_of_run _ _ _ (Machine.runUnder_then hto (run_fromRename acts))

theorem reported_in_force_zhang :
    ⟨"zhang", hex seed, none, []⟩ ∈ zhangRuntime.config.users ∧
      ∃ next lease, AppState.register "s" "shared" (some (hex seed)) (hex seed) false zhangRuntime =
        .ok (next, lease, "zhang") := by
  have h := reached_serving.steps (stepsUnder_edits steps_added)
  have hprobe := h.next (i := ControlOp.probe (.adduser 0) none) (fun hfree => by cases hfree)
    (step_probe rfl rfl (Option.some_ne_none _))
  have hconnect := hprobe.next (i := ControlOp.connect (.adduser 0) 0) trivial (step_connect rfl rfl)
  have hload := hconnect.next (i := ControlOp.load (.adduser 0) none) rfl (step_load rfl load_added)
  have happly := hload.next (i := ControlOp.apply (.adduser 0)) trivial (step_apply rfl rfl reload_zhang)
  have hanswer := happly.next (i := ControlOp.answer (.adduser 0)) trivial (step_answer rfl rfl)
  have hreceive := hanswer.next (i := ControlOp.receive (.adduser 0)) trivial (step_receive rfl rfl)
  have hforce := reported_in_force (Toml.plain_lawful content config) hreceive (k := 0) rfl rfl rfl (g := 0) rfl
  exact ⟨hforce.1, hforce.2 rfl "s" (hex seed) (validId_hex seed.2) (by decide)⟩

/-- A `reload` that has loaded the file before the user is added, and applies it after the
user is reported, takes the user back. -/
theorem overtaken : ∃ s : ControlState, (control "gateway.toml").Reachable s ∧
    s.edits.calls 0 = .returned "zhang" (.ok (hex seed)) ∧
    (∃ outcome, s.clients (.adduser 0) = .done outcome ∧
      (adduserReport "zhang" (hex seed) outcome).2 = .ok ()) ∧
    ∃ runtime, s.gateways 0 = .serving runtime ∧ ⟨"zhang", hex seed, none, []⟩ ∉ runtime.config.users := by
  have hreload : AppState.reload config zhangRuntime = .ok (zhangRuntime.reconfigure config ∅) :=
    bind_eq_ok.mpr ⟨∅, by rfl, bind_eq_ok.mpr ⟨(), rfl, rfl⟩⟩
  obtain ⟨first, hinitial, hserving⟩ := reached_serving
  have h0 : (control "gateway.toml").Reachable serving := ⟨first, hinitial, hserving.mono fun _ _ _ => trivial⟩
  have h1 := h0.next (i := ControlOp.probe (.reload 0) none) trivial (step_probe rfl rfl (Option.some_ne_none _))
  have h2 := h1.next (i := ControlOp.connect (.reload 0) 0) trivial (step_connect rfl rfl)
  have h3 := h2.next (i := ControlOp.load (.reload 0) none) trivial (step_load rfl load_content)
  have h4 := h3.steps ((stepsUnder_edits steps_added).mono fun _ _ _ => trivial)
  have h5 := h4.next (i := ControlOp.probe (.adduser 0) none) trivial (step_probe rfl rfl (Option.some_ne_none _))
  have h6 := h5.next (i := ControlOp.connect (.adduser 0) 0) trivial (step_connect rfl rfl)
  have h7 := h6.next (i := ControlOp.load (.adduser 0) none) trivial (step_load rfl load_added)
  have h8 := h7.next (i := ControlOp.apply (.adduser 0)) trivial (step_apply rfl rfl reload_zhang)
  have h9 := h8.next (i := ControlOp.answer (.adduser 0)) trivial (step_answer rfl rfl)
  have h10 := h9.next (i := ControlOp.receive (.adduser 0)) trivial (step_receive rfl rfl)
  have h11 := h10.next (i := ControlOp.apply (.reload 0)) trivial (step_apply rfl rfl hreload)
  refine ⟨_, h11, rfl, ⟨_, rfl, rfl⟩, _, rfl, ?_⟩
  exact List.not_mem_nil

/-- A gateway that has loaded the file before the user is added, and takes the lock after
the user is reported, serves without the user. -/
theorem outstarted : ∃ s : ControlState, (control "gateway.toml").Reachable s ∧
    s.edits.calls 0 = .returned "zhang" (.ok (hex seed)) ∧
    (∃ outcome, s.clients (.adduser 0) = .done outcome ∧
      (adduserReport "zhang" (hex seed) outcome).2 = .ok ()) ∧
    ∃ runtime, s.gateways 0 = .serving runtime ∧ ⟨"zhang", hex seed, none, []⟩ ∉ runtime.config.users := by
  have h0 : (control "gateway.toml").Reachable unserved := reached_unserved
  have h1 := h0.next (i := ControlOp.start 0 none) trivial step_starting
  have h2 := h1.steps ((stepsUnder_edits steps_added).mono fun _ _ _ => trivial)
  have h3 := h2.next (i := ControlOp.probe (.adduser 0) none) trivial rfl
  have h4 := h3.next (i := ControlOp.release (.adduser 0)) trivial rfl
  have h5 := h4.next (i := ControlOp.lock 0 false) trivial rfl
  have h6 := h5.next (i := ControlOp.bind 0 false) trivial rfl
  refine ⟨_, h6, rfl, ⟨_, rfl, rfl⟩, _, rfl, ?_⟩
  exact List.not_mem_nil

end OneUser

end WsNet.Gateway
