import WsNet.Gateway.EditUsers
import WsNet.Gateway.Takeover

/-! The control channel: a user is added, and the running gateway told.

A gateway loads the configuration, takes the runtime lock of that file and then answers
on the channel. The command that has added a user probes the lock: if it is free no gateway
runs; else it asks over the channel for a reload. Commands, gateways and the tasks that
handle requests are interleaved in any way, and a process or a connection can end at any
point. -/
namespace WsNet.Gateway
open Transition

/-- What a reload request is answered. -/
structure Response where
  ok : Bool
  enabled : Bool
  error : Option String
  deriving DecidableEq, Repr

/-- What `control::reload` returns. -/
abbrev Outcome := Except Error (Option Response)

/-! ### What the commands report -/

/-- The lines that `adduser` prints after the user is saved, and how it exits. -/
def adduserReport (username token : String) : Outcome → List String × Except Error Unit
  | .ok (some response) =>
    if response.ok then
      let state :=
        if response.enabled then s!"用户“{username}”添加成功，已生效。"
        else s!"用户“{username}”已保存，配置已加载。用户体系当前已关闭，启用后该 Token 才能使用。"
      ([state, s!"Token：{token}", "默认未授权任何资源，请修改 allow 后执行 ws-net-gateway reload。"], .ok ())
    else
      let reason := response.error.getD "配置加载失败"
      ([s!"用户“{username}”已保存，但自动加载失败：{reason}", s!"Token：{token}",
        "运行进程继续使用原配置，请修正问题后执行 ws-net-gateway reload。"],
        .error (.other "用户已保存但尚未在线生效"))
  | .ok none =>
    ([s!"用户“{username}”已保存。", s!"Token：{token}", "gateway 未运行，下次启动时生效。"], .ok ())
  | .error error =>
    let reason := error.text
    ([s!"用户“{username}”已保存，但自动加载失败：{reason}", s!"Token：{token}",
      "未能确认运行进程是否已加载配置，请检查状态后执行 ws-net-gateway reload。"],
      .error (.other "用户已保存但尚未在线生效"))

/-- How `reload` exits. -/
def reloadReport : Outcome → Except Error Unit
  | .ok (some response) =>
    if response.ok then .ok ()
    else
      let reason := response.error.getD ""
      .error (.other s!"配置重载失败：{reason}。运行进程继续使用原配置。")
  | .ok none => .error (.other "配置重载失败：gateway 进程未运行")
  | .error error => .error error

/-- No gateway ran, or the one that ran has loaded the configuration. -/
def Outcome.Success : Outcome → Prop
  | .ok (some response) => response.ok = true
  | .ok none => True
  | .error _ => False

theorem adduserReport_ok {username token : String} {outcome : Outcome} :
    (adduserReport username token outcome).2 = .ok () ↔ outcome.Success := by
  cases outcome with
  | error error => simp [adduserReport, Outcome.Success]
  | ok answer =>
    cases answer with
    | none => simp [adduserReport, Outcome.Success]
    | some response => cases hok : response.ok <;> simp [adduserReport, Outcome.Success, hok]

/-- A `reload` succeeds where a gateway has answered that it has loaded. -/
theorem reloadReport_ok {outcome : Outcome} :
    reloadReport outcome = .ok () ↔ ∃ response, outcome = .ok (some response) ∧ response.ok = true := by
  cases outcome with
  | error error => simp [reloadReport]
  | ok answer =>
    cases answer with
    | none => simp [reloadReport]
    | some response => cases hok : response.ok <;> simp [reloadReport, hok]

/-! ### The parties -/

/-- The commands that use the channel. -/
inductive Client where
  /-- After a call of `add_user`. -/
  | adduser (call : Nat)
  | reload (command : Nat)
  deriving DecidableEq, Repr

inductive ClientPhase where
  | idle
  /-- The probe got the runtime lock, and has not closed the lock file. -/
  | probing
  | connecting
  | exchanging
  | done (outcome : Outcome)
  | killed

/-- The task that handles a client's request. -/
inductive HandlePhase where
  | absent
  | accepted (gateway : Nat) (config : String)
  | loaded (gateway : Nat) (config : GatewayConfig)
  | tried (gateway : Nat) (result : Except Error Unit)
  | answered (response : Response)
  | aborted

namespace HandlePhase

/-- The gateway whose task it is. -/
def gateway : HandlePhase → Option Nat
  | .accepted g _ | .loaded g _ | .tried g _ => some g
  | .absent | .answered _ | .aborted => none

end HandlePhase

inductive GatewayPhase where
  | absent
  | loaded (runtime : Runtime)
  /-- It holds the runtime lock, and does not answer yet. -/
  | locked (runtime : Runtime)
  | serving (runtime : Runtime)
  | ended

/-- Who may hold the runtime lock, or a configuration that has been loaded and not applied. -/
inductive Party where
  | gateway (g : Nat)
  | client (c : Client)
  deriving DecidableEq, Repr

structure ControlState where
  edits : EditState
  gateways : Nat → GatewayPhase
  runtimeLock : Option Party
  clients : Client → ClientPhase
  handles : Client → HandlePhase
  /-- Those who have loaded a configuration and not applied it. -/
  pending : List Party
  /-- The users that were last found in force, or by a probe in the file. -/
  settled : List GatewayUser

inductive ControlOp where
  | edit (op : EditOp)
  /-- `GatewayConfig::load` and `AppState::new`, at the start of a gateway. -/
  | start (g : Nat) (failure : Option Error)
  /-- The gateway tries the runtime lock. -/
  | lock (g : Nat) (failed : Bool)
  | bind (g : Nat) (failed : Bool)
  /-- Anything but a reload at a gateway's registry. -/
  | session (g : Nat) (op : Op)
  | stop (g : Nat)
  | probe (c : Client) (failure : Option Error)
  | release (c : Client)
  | connect (c : Client) (g : Nat)
  | giveUp (c : Client) (error : Error)
  | receive (c : Client)
  | kill (c : Client)
  | load (c : Client) (failure : Option Error)
  | apply (c : Client)
  | answer (c : Client)
  | abort (c : Client)

/-! ### The steps -/

namespace ControlState

def setGateway (g : Nat) (phase : GatewayPhase) (s : ControlState) : ControlState :=
  { s with gateways := Function.update s.gateways g phase }

def setClient (c : Client) (phase : ClientPhase) (s : ControlState) : ControlState :=
  { s with clients := Function.update s.clients c phase }

def setHandle (c : Client) (phase : HandlePhase) (s : ControlState) : ControlState :=
  { s with handles := Function.update s.handles c phase }

/-- A lock file is closed: the lock is free, if this party had it. -/
def unlock (p : Party) (s : ControlState) : ControlState :=
  { s with runtimeLock := s.runtimeLock.filter (· ≠ p) }

/-- The configuration that the party has loaded is applied, or dropped. -/
def settle (p : Party) (s : ControlState) : ControlState :=
  { s with pending := s.pending.filter (· ≠ p) }

section Steps
variable [NetLiterals] [Toml] [Ring]

def start (g : Nat) (failure : Option Error) (s : ControlState) : Option ControlState :=
  match s.gateways g, failure with
  | .absent, some _ => some (s.setGateway g .ended)
  | .absent, none =>
    match (do AppState.new (← GatewayConfig.load s.edits.file) : Except Error Runtime) with
    | .error _ => some (s.setGateway g .ended)
    | .ok runtime => some { s.setGateway g (.loaded runtime) with pending := .gateway g :: s.pending }
  | _, _ => none

def lock (g : Nat) (failed : Bool) (s : ControlState) : Option ControlState :=
  match s.gateways g with
  | .loaded runtime =>
    if failed ∨ s.runtimeLock ≠ none then some ((s.setGateway g .ended).settle (.gateway g))
    else some { (s.setGateway g (.locked runtime)).settle (.gateway g) with
      runtimeLock := some (.gateway g), settled := runtime.config.users }
  | _ => none

def bind (g : Nat) (failed : Bool) (s : ControlState) : Option ControlState :=
  match s.gateways g with
  | .locked runtime =>
    if failed then some ((s.setGateway g .ended).unlock (.gateway g))
    else some (s.setGateway g (.serving runtime))
  | _ => none

def session (g : Nat) (op : Op) (s : ControlState) : Option ControlState :=
  match s.gateways g, op with
  | .serving _, .reload _ => none
  | .serving runtime, op => (applyOp op runtime).map fun next => s.setGateway g (.serving next)
  | _, _ => none

/-- The process ends, and its tasks with it. -/
def stop (g : Nat) (s : ControlState) : Option ControlState :=
  match s.gateways g with
  | .absent | .ended => none
  | _ => some { (s.setGateway g .ended).unlock (.gateway g) with
      handles := fun c => if (s.handles c).gateway = some g then .aborted else s.handles c
      pending := s.pending.filter fun p =>
        match p with
        | .gateway j => j ≠ g
        | .client c => (s.handles c).gateway ≠ some g }

/-- `adduser` uses the channel once its user is saved. -/
def ready (c : Client) (s : ControlState) : Bool :=
  match c with
  | .reload _ => true
  | .adduser k =>
    match s.edits.calls k with
    | .returned _ (.ok _) => true
    | _ => false

def probe (c : Client) (failure : Option Error) (s : ControlState) : Option ControlState :=
  match s.clients c with
  | .idle =>
    if s.ready c then
      match failure with
      | some error => some (s.setClient c (.done (.error error)))
      | none =>
        if s.runtimeLock = none then
          some { s.setClient c .probing with
            runtimeLock := some (.client c), settled := s.edits.users }
        else some (s.setClient c .connecting)
    else none
  | _ => none

def release (c : Client) (s : ControlState) : Option ControlState :=
  match s.clients c with
  | .probing => some ((s.setClient c (.done (.ok none))).unlock (.client c))
  | _ => none

/-- The gateway accepts the connection; the request names the configuration. -/
def connect (path : String) (c : Client) (g : Nat) (s : ControlState) : Option ControlState :=
  match s.clients c, s.gateways g with
  | .connecting, .serving _ => some ((s.setClient c .exchanging).setHandle c (.accepted g path))
  | _, _ => none

def giveUp (c : Client) (error : Error) (s : ControlState) : Option ControlState :=
  match s.clients c with
  | .connecting | .exchanging => some (s.setClient c (.done (.error error)))
  | _ => none

def receive (c : Client) (s : ControlState) : Option ControlState :=
  match s.clients c, s.handles c with
  | .exchanging, .answered response => some (s.setClient c (.done (.ok (some response))))
  | _, _ => none

def kill (c : Client) (s : ControlState) : Option ControlState :=
  match s.clients c with
  | .probing | .connecting | .exchanging => some ((s.setClient c .killed).unlock (.client c))
  | _ => none

/-- `handle` as far as the loaded configuration. -/
def load (path : String) (c : Client) (failure : Option Error) (s : ControlState) : Option ControlState :=
  match s.handles c with
  | .accepted g config =>
    if config = path then
      match failure with
      | some error => some (s.setHandle c (.tried g (.error error)))
      | none =>
        match GatewayConfig.load s.edits.file with
        | .error error => some (s.setHandle c (.tried g (.error error)))
        | .ok config => some { s.setHandle c (.loaded g config) with pending := .client c :: s.pending }
    else some (s.setHandle c (.tried g (.error (.other "配置路径与运行实例不匹配"))))
  | _ => none

/-- `AppState::reload`. -/
def apply (c : Client) (s : ControlState) : Option ControlState :=
  match s.handles c with
  | .loaded g config =>
    match s.gateways g with
    | .serving runtime =>
      match AppState.reload config runtime with
      | .error error => some ((s.setHandle c (.tried g (.error error))).settle (.client c))
      | .ok next => some { ((s.setHandle c (.tried g (.ok ()))).setGateway g (.serving next)).settle (.client c) with
          settled := config.users }
    | _ => none
  | _ => none

/-- The response is made of the result and of the configuration in force by now. -/
def answer (c : Client) (s : ControlState) : Option ControlState :=
  match s.handles c with
  | .tried g result =>
    match s.gateways g with
    | .serving runtime => some (s.setHandle c (.answered {
        ok := result.isOk
        enabled := runtime.config.auth.enabled
        error :=
          match result with
          | .ok () => none
          | .error error => some error.text }))
    | _ => none
  | _ => none

/-- The handler times out, while it waits for the request or for the response to go out. -/
def abort (c : Client) (s : ControlState) : Option ControlState :=
  match s.handles c with
  | .accepted _ _ | .answered _ => some (s.setHandle c .aborted)
  | _ => none

end Steps

end ControlState

section Control
variable [NetLiterals] [Toml] [Ring]

def control (path : String) : Machine ControlState ControlOp where
  Initial := fun s => editing.Initial s.edits ∧ s.gateways = (fun _ => .absent) ∧ s.runtimeLock = none ∧
    s.clients = (fun _ => .idle) ∧ s.handles = (fun _ => .absent) ∧ s.pending = [] ∧ s.settled = []
  step
    | .edit op, s => (editing.step op s.edits).map fun edits => { s with edits := edits }
    | .start g failure, s => s.start g failure
    | .lock g failed, s => s.lock g failed
    | .bind g failed, s => s.bind g failed
    | .session g op, s => s.session g op
    | .stop g, s => s.stop g
    | .probe c failure, s => s.probe c failure
    | .release c, s => s.release c
    | .connect c g, s => s.connect path c g
    | .giveUp c error, s => s.giveUp c error
    | .receive c, s => s.receive c
    | .kill c, s => s.kill c
    | .load c failure, s => s.load path c failure
    | .apply c, s => s.apply c
    | .answer c, s => s.answer c
    | .abort c, s => s.abort c

/-! ### What a step does -/

namespace ClientPhase

/-- The process waits for the gateway. -/
def waiting : ClientPhase → Bool
  | .connecting | .exchanging => true
  | _ => false

end ClientPhase

namespace GatewayPhase

/-- The runtime of a gateway that holds the lock. -/
def holding : GatewayPhase → Option Runtime
  | .locked runtime | .serving runtime => some runtime
  | .absent | .loaded _ | .ended => none

end GatewayPhase

namespace ControlState

/-- The steps, with what each one has checked. -/
inductive Move (path : String) (s : ControlState) : ControlOp → ControlState → Prop where
  | edited {op : EditOp} {edits : EditState} (step : editing.step op s.edits = some edits) :
      Move path s (.edit op) { s with edits := edits }
  | notStarted {g : Nat} {failure : Option Error} (from_ : s.gateways g = .absent) :
      Move path s (.start g failure) (s.setGateway g .ended)
  | started {g : Nat} {config : GatewayConfig} {runtime : Runtime} (from_ : s.gateways g = .absent)
      (loads : GatewayConfig.load s.edits.file = .ok config) (new : AppState.new config = .ok runtime) :
      Move path s (.start g none)
        { s.setGateway g (.loaded runtime) with pending := .gateway g :: s.pending }
  | refused {g : Nat} {failed : Bool} {runtime : Runtime} (from_ : s.gateways g = .loaded runtime) :
      Move path s (.lock g failed) ((s.setGateway g .ended).settle (.gateway g))
  | locked {g : Nat} {failed : Bool} {runtime : Runtime} (from_ : s.gateways g = .loaded runtime)
      (free : s.runtimeLock = none) :
      Move path s (.lock g failed) { (s.setGateway g (.locked runtime)).settle (.gateway g) with
        runtimeLock := some (.gateway g), settled := runtime.config.users }
  | unbound {g : Nat} {failed : Bool} {runtime : Runtime} (from_ : s.gateways g = .locked runtime) :
      Move path s (.bind g failed) ((s.setGateway g .ended).unlock (.gateway g))
  | bound {g : Nat} {failed : Bool} {runtime : Runtime} (from_ : s.gateways g = .locked runtime) :
      Move path s (.bind g failed) (s.setGateway g (.serving runtime))
  | session {g : Nat} {op : Op} {runtime next : Runtime} (from_ : s.gateways g = .serving runtime)
      (other : ∀ config, op ≠ .reload config) (step : applyOp op runtime = some next) :
      Move path s (.session g op) (s.setGateway g (.serving next))
  | stopped {g : Nat} (from_ : s.gateways g ≠ .absent) :
      Move path s (.stop g) { (s.setGateway g .ended).unlock (.gateway g) with
        handles := fun c => if (s.handles c).gateway = some g then .aborted else s.handles c
        pending := s.pending.filter fun p =>
          match p with
          | .gateway j => j ≠ g
          | .client c => (s.handles c).gateway ≠ some g }
  | notProbed {c : Client} {failure : Option Error} {error : Error} (from_ : s.clients c = .idle)
      (ready : s.ready c = true) :
      Move path s (.probe c failure) (s.setClient c (.done (.error error)))
  | probed {c : Client} (from_ : s.clients c = .idle) (ready : s.ready c = true)
      (free : s.runtimeLock = none) :
      Move path s (.probe c none) { s.setClient c .probing with
        runtimeLock := some (.client c), settled := s.edits.users }
  | busy {c : Client} {failure : Option Error} (from_ : s.clients c = .idle) (ready : s.ready c = true) :
      Move path s (.probe c failure) (s.setClient c .connecting)
  | released {c : Client} (from_ : s.clients c = .probing) :
      Move path s (.release c) ((s.setClient c (.done (.ok none))).unlock (.client c))
  | connected {c : Client} {g : Nat} {runtime : Runtime} (from_ : s.clients c = .connecting)
      (serves : s.gateways g = .serving runtime) :
      Move path s (.connect c g) ((s.setClient c .exchanging).setHandle c (.accepted g path))
  | gaveUp {c : Client} {error : Error} (from_ : (s.clients c).waiting = true) :
      Move path s (.giveUp c error) (s.setClient c (.done (.error error)))
  | received {c : Client} {response : Response} (from_ : s.clients c = .exchanging)
      (answer : s.handles c = .answered response) :
      Move path s (.receive c) (s.setClient c (.done (.ok (some response))))
  | killed {c : Client} (from_ : s.clients c ≠ .idle) :
      Move path s (.kill c) ((s.setClient c .killed).unlock (.client c))
  | notLoaded {c : Client} {failure : Option Error} {g : Nat} {config : String} {error : Error}
      (from_ : s.handles c = .accepted g config) :
      Move path s (.load c failure) (s.setHandle c (.tried g (.error error)))
  | loaded {c : Client} {g : Nat} {requested : String} {config : GatewayConfig}
      (from_ : s.handles c = .accepted g requested)
      (loads : GatewayConfig.load s.edits.file = .ok config) :
      Move path s (.load c none)
        { s.setHandle c (.loaded g config) with pending := .client c :: s.pending }
  | rejected {c : Client} {g : Nat} {config : GatewayConfig} {error : Error}
      (from_ : s.handles c = .loaded g config) :
      Move path s (.apply c) ((s.setHandle c (.tried g (.error error))).settle (.client c))
  | applied {c : Client} {g : Nat} {config : GatewayConfig} {runtime next : Runtime}
      (from_ : s.handles c = .loaded g config) (serves : s.gateways g = .serving runtime)
      (reloads : AppState.reload config runtime = .ok next) :
      Move path s (.apply c) { ((s.setHandle c (.tried g (.ok ()))).setGateway g (.serving next)).settle
        (.client c) with settled := config.users }
  | answered {c : Client} {g : Nat} {result : Except Error Unit} {response : Response}
      (from_ : s.handles c = .tried g result) (ok : response.ok = result.isOk) :
      Move path s (.answer c) (s.setHandle c (.answered response))
  | aborted {c : Client} (from_ : s.handles c ≠ .absent) (unloaded : ∀ g config, s.handles c ≠ .loaded g config) :
      Move path s (.abort c) (s.setHandle c .aborted)

variable {path : String} {s t : ControlState}

theorem move_start {g : Nat} {failure : Option Error} (h : s.start g failure = some t) :
    Move path s (.start g failure) t := by
  unfold start at h
  split at h
  · cases h
    exact .notStarted ‹_›
  · split at h <;> cases h
    · exact .notStarted ‹_›
    · rename_i hnew
      obtain ⟨config, hload, hnew⟩ := bind_eq_ok.mp hnew
      exact .started ‹_› hload hnew
  · cases h

theorem move_lock {g : Nat} {failed : Bool} (h : s.lock g failed = some t) : Move path s (.lock g failed) t := by
  unfold lock at h
  split at h
  · split at h <;> cases h
    · exact .refused ‹_›
    · rename_i hfree
      rw [not_or, not_not] at hfree
      exact .locked ‹_› hfree.2
  · cases h

theorem move_bind {g : Nat} {failed : Bool} (h : s.bind g failed = some t) : Move path s (.bind g failed) t := by
  unfold bind at h
  split at h
  · split at h <;> cases h
    · exact .unbound ‹_›
    · exact .bound ‹_›
  · cases h

theorem move_session {g : Nat} {op : Op} (h : s.session g op = some t) : Move path s (.session g op) t := by
  unfold session at h
  split at h
  · cases h
  · rename_i hserving hother
    obtain ⟨next, hnext, rfl⟩ := Option.map_eq_some_iff.mp h
    exact .session hserving (fun config hop => hother config hop) hnext
  · cases h

theorem move_stop {g : Nat} (h : s.stop g = some t) : Move path s (.stop g) t := by
  unfold stop at h
  split at h <;> cases h
  rename_i habsent _
  exact .stopped habsent

theorem move_probe {c : Client} {failure : Option Error} (h : s.probe c failure = some t) :
    Move path s (.probe c failure) t := by
  unfold probe at h
  split at h
  · split at h
    · split at h
      · cases h
        exact .notProbed ‹_› ‹_›
      · split at h <;> cases h
        · exact .probed ‹_› ‹_› ‹_›
        · exact .busy ‹_› ‹_›
    · cases h
  · cases h

theorem move_load {c : Client} {failure : Option Error} (h : s.load path c failure = some t) :
    Move path s (.load c failure) t := by
  unfold load at h
  split at h
  · split at h
    · split at h
      · cases h
        exact .notLoaded ‹_›
      · split at h <;> cases h
        · exact .notLoaded ‹_›
        · exact .loaded ‹_› ‹_›
    · cases h
      exact .notLoaded ‹_›
  · cases h

theorem move_apply {c : Client} (h : s.apply c = some t) : Move path s (.apply c) t := by
  unfold apply at h
  split at h
  · split at h
    · split at h <;> cases h
      · exact .rejected ‹_›
      · exact .applied ‹_› ‹_› ‹_›
    · cases h
  · cases h

theorem move_answer {c : Client} (h : s.answer c = some t) : Move path s (.answer c) t := by
  unfold answer at h
  split at h
  · split at h <;> cases h
    exact .answered ‹_› rfl
  · cases h

/-- **A step does nothing else.** -/
theorem move_control {op : ControlOp} (h : (control path).step op s = some t) : Move path s op t := by
  cases op with
  | edit op =>
    obtain ⟨edits, hstep, rfl⟩ := Option.map_eq_some_iff.mp h
    exact .edited hstep
  | start g failure => exact move_start h
  | lock g failed => exact move_lock h
  | bind g failed => exact move_bind h
  | session g op => exact move_session h
  | stop g => exact move_stop h
  | probe c failure => exact move_probe h
  | load c failure => exact move_load h
  | apply c => exact move_apply h
  | answer c => exact move_answer h
  | release c =>
    simp only [control, release] at h
    split at h <;> cases h
    exact .released ‹_›
  | connect c g =>
    simp only [control, connect] at h
    split at h <;> cases h
    exact .connected ‹_› ‹_›
  | giveUp c error =>
    simp only [control, giveUp] at h
    split at h <;> cases h
    · exact .gaveUp (by simp [ClientPhase.waiting, *])
    · exact .gaveUp (by simp [ClientPhase.waiting, *])
  | receive c =>
    simp only [control, receive] at h
    split at h <;> cases h
    exact .received ‹_› ‹_›
  | kill c =>
    simp only [control, kill] at h
    split at h <;> cases h <;> exact .killed (by simp [*])
  | abort c =>
    simp only [control, abort] at h
    split at h <;> cases h <;> exact .aborted (by simp [*]) (by simp [*])

end ControlState

end Control

end WsNet.Gateway
