import WsNet.Data.HashMap
import WsNet.Gateway.StreamTask
import WsNet.Transition.Machine

/-! The gateway's session task and the tasks of its streams.

The session task is one loop over a `select!`. Between two of its awaits it runs
through a few statements, each on one of the session's tables or one cancellation,
and the stream tasks run at the same time: so the statements still to be run are
part of the state (`todo`), and each is a step. A table maps a stream to the task
that the entry belongs to: the sending side of the task's channel, its cancellation,
the sending side of its body. -/
namespace WsNet.Gateway
open Data Transition

/-! ### The session task -/

inductive Statement where
  | cancel (task : Nat)
  /-- Close: the registration is taken out, to be cancelled. -/
  | removeCancel (id : StreamId)
  | removeStream (id : StreamId)
  | removeBody (id : StreamId)
  /-- HttpRequestEnd. -/
  | endBody (id : StreamId)
  | clearCancels
  | clearStreams
  | clearBodies
  deriving DecidableEq

/-- The receiver of a data frame. -/
inductive Receiver where
  | body (task : Nat)
  | stream (task : Nat)
  deriving DecidableEq

/-- Where the session task is once its statements are run. -/
inductive Point where
  | select
  /-- `authorize_target` is awaited. -/
  | authorizing (message : Message)
  /-- `lease.check()?`, then the message. -/
  | handling (message : Message)
  /-- The new task's body is to be stored. -/
  | storing (task : Nat)
  /-- The new task's cancellation is to be registered. -/
  | registering (task : Nat)
  | spawning (task : Nat)
  /-- A reply waits for the queue; its failure may be the handling's. -/
  | sending (message : Message) (required : Bool)
  /-- The Ping of the heartbeat waits for the queue. -/
  | pinging
  /-- The receiver of a data frame is to be looked up. -/
  | dispatching (id : StreamId) (payload : Bytes)
  /-- A data frame waits for the channel, with a copy of its sender. -/
  | delivering (receiver : Receiver) (id : StreamId) (payload : Bytes)
  /-- The session is cancelled: the writer has its time to end. -/
  | draining
  | ended
  deriving DecidableEq

structure TunnelState where
  lease : Option GatewayError := none
  /-- The writer is there. -/
  writer : Bool := true
  streams : HashMap StreamId Nat := ∅
  streamCancels : HashMap StreamId Nat := ∅
  httpBodies : HashMap StreamId Nat := ∅
  tasks : Nat → Task := fun _ => {}
  /-- The number of the next task. -/
  next : Nat := 0
  todo : List Statement := []
  point : Point := .select
  /-- What the stream tasks have sent, the latest first. -/
  sent : List (Nat × Outgoing) := []

inductive TunnelOp where
  /-- The registry cancels the session. -/
  | cancelLease (error : GatewayError)
  | writerEnds
  /-- A text message of the access. -/
  | message (message : Message)
  /-- A data frame of the access. -/
  | data (id : StreamId) (payload : Bytes)
  | authorized
  | denied (error : Error)
  /-- The next statement. -/
  | exec
  | handle
  | store
  | register
  | spawn
  | dispatch
  | delivered
  | undelivered
  | tick
  | replied
  | notReplied
  /-- The cancellation drops what the handling awaits. -/
  | interrupt
  /-- The branch of the cancelled lease. -/
  | leaseEnds
  /-- The session ends, or its future is dropped. -/
  | finish
  | task (n : Nat) (op : TaskOp)

namespace TunnelState

def setTask (n : Nat) (t : Task) (s : TunnelState) : TunnelState :=
  { s with tasks := Function.update s.tasks n t }

@[simp] theorem setTask_self (n : Nat) (t : Task) (s : TunnelState) : (s.setTask n t).tasks n = t := by
  simp only [setTask, Function.update_self]

theorem setTask_ne {m n : Nat} (h : m ≠ n) (t : Task) (s : TunnelState) :
    (s.setTask n t).tasks m = s.tasks m := by
  simp only [setTask, Function.update_of_ne h]

def delivers (receiver : Receiver) (s : TunnelState) : Bool :=
  match s.point with
  | .delivering r _ _ => r = receiver
  | _ => false

/-- A sending side of the task's body is left. -/
def bodySender (n : Nat) (s : TunnelState) : Bool :=
  s.httpBodies.lookup (s.tasks n).id = some n ∨ s.point = .storing n ∨ s.delivers (.body n)

def streamSender (n : Nat) (s : TunnelState) : Bool :=
  s.streams.lookup (s.tasks n).id = some n ∨ s.delivers (.stream n)

def surroundings (n : Nat) (s : TunnelState) : Surroundings where
  lease := s.lease
  writer := s.writer
  streamSender := s.streamSender n
  bodySender := s.bodySender n

/-! ### Statements -/

/-- The cancellation of everything that is registered. -/
def cancelAll (s : TunnelState) : List Statement := (HashMap.values s.streamCancels).map .cancel

/-- The session's future ends: `SessionCleanup::drop`. -/
def endSession (s : TunnelState) : TunnelState :=
  { s with todo := s.cancelAll ++ [.clearCancels, .clearStreams, .clearBodies], point := .ended }

/-- One statement, with the rest of them in `todo`. -/
def run : Statement → TunnelState → TunnelState
  | .cancel n, s => s.setTask n { s.tasks n with canceled := true }
  | .removeCancel id, s =>
    { s with
      streamCancels := s.streamCancels.erase id
      todo := (s.streamCancels.lookup id).toList.map .cancel ++ s.todo }
  | .removeStream id, s => { s with streams := s.streams.erase id }
  | .removeBody id, s => { s with httpBodies := s.httpBodies.erase id }
  | .endBody id, s =>
    match s.httpBodies.lookup id with
    | some n =>
      { s.setTask n { s.tasks n with requestEnded := true } with httpBodies := s.httpBodies.erase id }
    | none => s
  | .clearCancels, s => { s with streamCancels := ∅ }
  | .clearStreams, s => { s with streams := ∅ }
  | .clearBodies, s => { s with httpBodies := ∅ }

def exec (s : TunnelState) : Option TunnelState :=
  match s.todo with
  | [] => none
  | statement :: rest => some (run statement { s with todo := rest })

/-- A step of the session task at the point where it is. -/
def atPoint (s : TunnelState) (next : Point → Option TunnelState) : Option TunnelState :=
  if s.todo = [] then next s.point else none

/-! ### Messages -/

/-- In the `select!`, with the lease not cancelled: its branch comes first. -/
def atSelect (s : TunnelState) (next : TunnelState) : Option TunnelState :=
  if s.todo = [] ∧ s.point = .select ∧ s.lease = none then some next else none

/-- The stream of a message whose target is authorized. -/
def authorizedStream : Message → Option StreamId
  | .open id _ _ | .httpRequest id _ _ _ | .httpRequestStart id _ _ _ => some id
  | _ => none

def message (m : Message) (s : TunnelState) : Option TunnelState :=
  s.atSelect { s with point := if (authorizedStream m).isSome then .authorizing m else .handling m }

/-- In the handling of a message: `lease.run` looks at the cancellation first. -/
def inHandling (s : TunnelState) (next : Point → Option TunnelState) : Option TunnelState :=
  if s.todo = [] ∧ s.lease = none then next s.point else none

def authorized (s : TunnelState) : Option TunnelState :=
  s.inHandling fun
    | .authorizing m => some { s with point := .handling m }
    | _ => none

/-- The error for a target that is not authorized. -/
def denial (error : Error) : GatewayError :=
  error.gatewayError.getD ⟨"TARGET_ERROR", "目标地址校验失败：" ++ error.text⟩

def denied (error : Error) (s : TunnelState) : Option TunnelState :=
  s.inHandling fun
    | .authorizing m =>
      some { s with
        point := .sending (.error (authorizedStream m) (denial error).code (denial error).message) true }
    | _ => none

/-- The new task of a message. -/
def create (id : StreamId) (kind : TaskKind) (s : TunnelState) : TunnelState :=
  { s.setTask s.next { id, kind, bodyOpen := kind = .upload } with
    next := s.next + 1
    point := if kind = .upload then .storing s.next else .registering s.next }

def modeError (id : StreamId) (text : String) : Message := .error (some id) "MODE_NOT_SUPPORTED" text

/-- The handling of a message, after `lease.check()`. -/
def start (m : Message) (s : TunnelState) : TunnelState :=
  match m with
  | .open id _ config =>
    if config.mode = .tcp then s.create id .tcp
    else { s with point := .sending (modeError id "目标未配置为 TCP 模式") true }
  | .httpRequest id _ config _ =>
    if config.mode = .http then s.create id .http
    else { s with point := .sending (modeError id "目标未配置为 HTTP 模式") true }
  | .httpRequestStart id _ config _ =>
    if config.mode = .http then s.create id .upload
    else { s with point := .sending (modeError id "目标未配置为 HTTP 模式") true }
  | .httpRequestEnd id => { s with todo := [.endBody id], point := .select }
  | .close id _ => { s with todo := [.removeCancel id, .removeStream id, .removeBody id], point := .select }
  | .tcpEof id => { s with todo := [.removeStream id], point := .select }
  | .ping => { s with point := .sending .pong true }
  | .pong => { s with point := .select }
  -- unexpected gateway-to-access message from access
  | _ => s.endSession

/-- A check that fails is no end of the session: its branch is the next. -/
def handle (s : TunnelState) : Option TunnelState :=
  s.atPoint fun
    | .handling m => some (if s.lease.isSome then { s with point := .select } else s.start m)
    | _ => none

def store (s : TunnelState) : Option TunnelState :=
  s.atPoint fun
    | .storing n =>
      some { s with httpBodies := s.httpBodies.insert (s.tasks n).id n, point := .registering n }
    | _ => none

def register (s : TunnelState) : Option TunnelState :=
  s.atPoint fun
    | .registering n =>
      some { s with
        streamCancels := s.streamCancels.insert (s.tasks n).id n
        todo := (s.streamCancels.lookup (s.tasks n).id).toList.map .cancel
        point := .spawning n }
    | _ => none

/-- The first phase of a task. -/
def firstPhase : TaskKind → TaskPhase
  | .tcp => .connecting
  | .http | .upload => .requesting

def spawn (s : TunnelState) : Option TunnelState :=
  s.atPoint fun
    | .spawning n =>
      some { s.setTask n { s.tasks n with phase := firstPhase (s.tasks n).kind } with point := .select }
    | _ => none

/-! ### Data frames -/

/-- The sender's channel asks for room. -/
def deliverTo (receiver : Receiver) (id : StreamId) (payload : Bytes) (s : TunnelState) : TunnelState :=
  let s := match receiver with
    | .body n => s.setTask n { s.tasks n with body := (s.tasks n).body.request () }
    | .stream n => s.setTask n { s.tasks n with channel := (s.tasks n).channel.request () }
  { s with point := .delivering receiver id payload }

def data (id : StreamId) (payload : Bytes) (s : TunnelState) : Option TunnelState :=
  s.atSelect { s with point := .dispatching id payload }

def dispatch (s : TunnelState) : Option TunnelState :=
  s.atPoint fun
    | .dispatching id payload =>
      some (match s.httpBodies.lookup id, s.streams.lookup id with
        | some n, _ => s.deliverTo (.body n) id payload
        | none, some n => s.deliverTo (.stream n) id payload
        | none, none => { s with point := .select })
    | _ => none

/-- The receiving side is there. -/
def receives (receiver : Receiver) (s : TunnelState) : Bool :=
  match receiver with
  | .body n => (s.tasks n).bodyOpen
  | .stream n => (s.tasks n).phase.listening

/-- The payload goes into the channel, under the permit. -/
def put (payload : Bytes) (s : TunnelState) : Receiver → Option TunnelState
  | .body n =>
    ((s.tasks n).body.put () (.ok payload)).map fun body => s.setTask n { s.tasks n with body }
  | .stream n =>
    ((s.tasks n).channel.put () payload).map fun channel => s.setTask n { s.tasks n with channel }

def delivered (s : TunnelState) : Option TunnelState :=
  s.inHandling fun
    | .delivering receiver _ payload =>
      if s.receives receiver then
        (s.put payload receiver).map fun s => { s with point := .select }
      else none
    | _ => none

/-- The receiver has gone: its entry is taken out and the access is told. -/
def undelivered (s : TunnelState) : Option TunnelState :=
  s.inHandling fun
    | .delivering receiver id _ =>
      if s.receives receiver then none
      else
        match receiver with
        | .body _ =>
          some { s with
            todo := [.removeBody id]
            point := .sending (.error (some id) "HTTP_BODY_BACKPRESSURE" "请求体接收通道已关闭") false }
        | .stream _ =>
          some { s with
            todo := [.removeStream id]
            point := .sending (.close id "target_backpressure") false }
    | _ => none

/-- The sender's copy goes, with its wait. -/
def withdraw (s : TunnelState) : TunnelState :=
  match s.point with
  | .delivering (.body n) _ _ => s.setTask n { s.tasks n with body := (s.tasks n).body.withdraw () }
  | .delivering (.stream n) _ _ =>
    s.setTask n { s.tasks n with channel := (s.tasks n).channel.withdraw () }
  | _ => s

/-! ### The loop -/

def tick (s : TunnelState) : Option TunnelState := s.atSelect { s with point := .pinging }

def replied (s : TunnelState) : Option TunnelState :=
  if s.writer = true then
    s.atPoint fun
      | .sending _ _ => if s.lease = none then some { s with point := .select } else none
      | .pinging => some { s with point := .select }
      | _ => none
  else none

def notReplied (s : TunnelState) : Option TunnelState :=
  if s.writer = true then none
  else
    s.atPoint fun
      | .sending _ required =>
        if s.lease = none then some (if required then s.endSession else { s with point := .select })
        else none
      | .pinging => some s.endSession
      | _ => none

def interrupt (s : TunnelState) : Option TunnelState :=
  if s.lease = none then none
  else
    s.atPoint fun
      | .authorizing _ | .sending _ _ | .delivering _ _ _ => some { s.withdraw with point := .select }
      | _ => none

def leaseEnds (s : TunnelState) : Option TunnelState :=
  if s.lease = none then none
  else
    s.atPoint fun
      | .select => some { s with todo := s.cancelAll ++ [.clearStreams, .clearBodies], point := .draining }
      | _ => none

/-- Every await is a point where the session may end; the others are passed. -/
def finish (s : TunnelState) : Option TunnelState :=
  s.atPoint fun
    | .handling _ | .storing _ | .registering _ | .spawning _ | .dispatching _ _ | .ended => none
    | _ => some s.withdraw.endSession

/-! ### The tasks -/

/-- The effect of a task on its session. -/
def apply (n : Nat) (effect : Effect) (s : TunnelState) : TunnelState :=
  let id := (s.tasks n).id
  match effect with
  | .quiet => s
  | .send out => { s with sent := (n, out) :: s.sent }
  | .insertStream => { s with streams := s.streams.insert id n }
  | .removeStream => { s with streams := s.streams.erase id }
  | .removeBody => { s with httpBodies := s.httpBodies.erase id }
  | .unregister =>
    if s.streamCancels.lookup id = some n then { s with streamCancels := s.streamCancels.erase id }
    else s

def task (n : Nat) (op : TaskOp) (s : TunnelState) : Option TunnelState :=
  ((s.tasks n).step (s.surroundings n) op).map fun (t, effect) => (s.setTask n t).apply n effect

end TunnelState

def tunnel : Machine TunnelState TunnelOp where
  Initial := fun s => s = {}
  step
    | .cancelLease error, s => some { s with lease := some error }
    | .writerEnds, s => some { s with writer := false }
    | .message m, s => s.message m
    | .data id payload, s => s.data id payload
    | .authorized, s => s.authorized
    | .denied error, s => s.denied error
    | .exec, s => s.exec
    | .handle, s => s.handle
    | .store, s => s.store
    | .register, s => s.register
    | .spawn, s => s.spawn
    | .dispatch, s => s.dispatch
    | .delivered, s => s.delivered
    | .undelivered, s => s.undelivered
    | .tick, s => s.tick
    | .replied, s => s.replied
    | .notReplied, s => s.notReplied
    | .interrupt, s => s.interrupt
    | .leaseEnds, s => s.leaseEnds
    | .finish, s => s.finish
    | .task n op, s => s.task n op

/-! ### What an effect leaves alone -/

/-- The session task is where it was, and so are the tasks. -/
structure TunnelState.Frame (s t : TunnelState) : Prop where
  tasks : t.tasks = s.tasks
  next : t.next = s.next
  lease : t.lease = s.lease
  todo : t.todo = s.todo
  point : t.point = s.point

theorem TunnelState.apply_frame (n : Nat) (effect : Effect) (s : TunnelState) : s.Frame (s.apply n effect) := by
  cases effect with
  | unregister =>
    simp only [TunnelState.apply]
    split <;> exact ⟨rfl, rfl, rfl, rfl, rfl⟩
  | _ => exact ⟨rfl, rfl, rfl, rfl, rfl⟩

/-! ### Targets for the runs of this development -/

def tcpTarget : TargetConfig := ⟨.tcp, "127.0.0.1", 22, none, false, false, false⟩

def httpTarget : TargetConfig := ⟨.http, "127.0.0.1", 80, some "http", false, false, false⟩

/-! ### What a step does -/

/-- The task that is being set up. -/
def Point.pending : Point → Option Nat
  | storing n | registering n | spawning n => some n
  | _ => none

/-- No task is being set up, and the session has not ended. -/
def Point.goesOn : Point → Bool
  | storing _ | registering _ | spawning _ | ended => false
  | _ => true

/-- The stream that a message starts a task for. -/
def startedStream : Message → Option StreamId
  | .open id _ config => if config.mode = .tcp then some id else none
  | .httpRequest id _ config _ | .httpRequestStart id _ config _ =>
    if config.mode = .http then some id else none
  | _ => none

/-- The statements of the handling of a message. -/
def Statement.removal : Statement → Bool
  | removeCancel _ | removeStream _ | removeBody _ | endBody _ => true
  | _ => false

/-- The statements after the cancellations at the end of a session. -/
def Statement.clearing : Statement → Bool
  | clearCancels | clearStreams | clearBodies => true
  | _ => false

/-- Up to what waits in its channels. -/
def Task.Alike (t t' : Task) : Prop := ∃ channel body, t' = { t with channel, body }

theorem Task.Alike.refl (t : Task) : t.Alike t := ⟨t.channel, t.body, rfl⟩

/-- The tables and the tasks stay as they are. -/
structure Quiet (s t : TunnelState) : Prop where
  streams : t.streams = s.streams
  streamCancels : t.streamCancels = s.streamCancels
  httpBodies : t.httpBodies = s.httpBodies
  next : t.next = s.next
  sent : t.sent = s.sent
  task : ∀ n, (s.tasks n).Alike (t.tasks n)

namespace TunnelState

/-- What a step of the session does. -/
inductive Move (s : TunnelState) : TunnelOp → TunnelState → Prop
  /-- The loop goes from one await to another, or starts on the removals of a message. -/
  | calm {op t} (quiet : Quiet s t)
      (todo : t.todo = s.todo ∨ s.todo = [] ∧ ∀ x ∈ t.todo, x.removal = true)
      (point : t.point = s.point ∨ s.point.pending = none ∧ t.point.goesOn = true) : Move s op t
  | create {m} (todo : s.todo = []) (point : s.point = .handling m) (lease : s.lease = none)
      (id : StreamId) (stream : startedStream m = some id) (kind : TaskKind) :
      Move s .handle (s.create id kind)
  | store (todo : s.todo = []) (n : Nat) (point : s.point = .storing n) :
      Move s .store { s with httpBodies := s.httpBodies.insert (s.tasks n).id n, point := .registering n }
  | register (todo : s.todo = []) (n : Nat) (point : s.point = .registering n) :
      Move s .register { s with
        streamCancels := s.streamCancels.insert (s.tasks n).id n
        todo := (s.streamCancels.lookup (s.tasks n).id).toList.map .cancel
        point := .spawning n }
  | spawn (todo : s.todo = []) (n : Nat) (point : s.point = .spawning n) :
      Move s .spawn
        { s.setTask n { s.tasks n with phase := firstPhase (s.tasks n).kind } with point := .select }
  | exec (x : Statement) (rest : List Statement) (todo : s.todo = x :: rest) :
      Move s .exec (run x { s with todo := rest })
  /-- The session ends, and everything is cancelled first. -/
  | sweep {op t} (quiet : Quiet s t) (todo : s.todo = []) (clearing : List Statement)
      (isClearing : ∀ x ∈ clearing, x.clearing = true) (todo' : t.todo = s.cancelAll ++ clearing)
      (point : s.point.pending = none) (point' : t.point.pending = none)
      (ended : t.point = .ended → .clearCancels ∈ clearing) : Move s op t
  | task (n : Nat) (op : TaskOp) (t' : Task) (effect : Effect)
      (step : (s.tasks n).step (s.surroundings n) op = some (t', effect)) :
      Move s (.task n op) ((s.setTask n t').apply n effect)

theorem goesOn_pending {point : Point} (h : point.goesOn = true) : point.pending = none := by
  cases point <;> first | rfl | cases h

theorem quiet_refl (s : TunnelState) : Quiet s s :=
  ⟨rfl, rfl, rfl, rfl, rfl, fun _ => Task.Alike.refl _⟩

theorem alike_setTask {s : TunnelState} {n : Nat} {t : Task} (h : (s.tasks n).Alike t) (m : Nat) :
    (s.tasks m).Alike ((s.setTask n t).tasks m) := by
  by_cases hm : m = n
  · subst hm
    rw [setTask_self]
    exact h
  · rw [setTask_ne hm]
    exact Task.Alike.refl _

theorem quiet_setTask {s : TunnelState} {n : Nat} {t : Task} (h : (s.tasks n).Alike t) :
    Quiet s (s.setTask n t) :=
  ⟨rfl, rfl, rfl, rfl, rfl, alike_setTask h⟩

theorem quiet_withdraw (s : TunnelState) : Quiet s s.withdraw := by
  unfold withdraw
  split
  · exact quiet_setTask ⟨_, _, rfl⟩
  · exact quiet_setTask ⟨_, _, rfl⟩
  · exact quiet_refl s

theorem atPoint_some {s t : TunnelState} {next : Point → Option TunnelState}
    (h : s.atPoint next = some t) : s.todo = [] ∧ next s.point = some t := by
  unfold atPoint at h
  split at h
  · rename_i htodo
    exact ⟨htodo, h⟩
  · cases h

theorem inHandling_some {s t : TunnelState} {next : Point → Option TunnelState}
    (h : s.inHandling next = some t) : s.todo = [] ∧ s.lease = none ∧ next s.point = some t := by
  unfold inHandling at h
  split at h
  · rename_i hguard
    exact ⟨hguard.1, hguard.2, h⟩
  · cases h

theorem atSelect_some {s t next : TunnelState} (h : s.atSelect next = some t) :
    s.todo = [] ∧ s.point = .select ∧ s.lease = none ∧ t = next := by
  unfold atSelect at h
  split at h
  · rename_i hguard
    exact ⟨hguard.1, hguard.2.1, hguard.2.2, (Option.some.inj h).symm⟩
  · cases h

/-- From one await to another. -/
theorem Move.moveTo {s : TunnelState} (op : TunnelOp) {point : Point} (h : s.point.pending = none)
    (h' : point.goesOn = true) : s.Move op { s with point } :=
  .calm ⟨rfl, rfl, rfl, rfl, rfl, fun _ => Task.Alike.refl _⟩ (.inl rfl) (.inr ⟨h, h'⟩)

theorem quiet_endSession {s u : TunnelState} (h : Quiet s u) : Quiet s u.endSession :=
  ⟨h.streams, h.streamCancels, h.httpBodies, h.next, h.sent, h.task⟩

theorem move_endSession {s u : TunnelState} (op : TunnelOp) (hq : Quiet s u) (htodo : s.todo = [])
    (hpoint : s.point.pending = none) : s.Move op u.endSession := by
  refine .sweep (quiet_endSession hq) htodo [.clearCancels, .clearStreams, .clearBodies] ?_ ?_ hpoint
    rfl fun _ => List.mem_cons_self
  · intro x hx
    simp only [List.mem_cons, List.not_mem_nil, or_false] at hx
    rcases hx with rfl | rfl | rfl <;> rfl
  · simp only [endSession, cancelAll, hq.streamCancels]

/-- The removals of a message. -/
theorem Move.removals {s : TunnelState} (op : TunnelOp) {point : Point} (todo : s.todo = [])
    (hpoint : s.point.pending = none) (hpoint' : point.goesOn = true) (l : List Statement)
    (hl : ∀ x ∈ l, x.removal = true) : s.Move op { s with todo := l, point } :=
  .calm ⟨rfl, rfl, rfl, rfl, rfl, fun _ => Task.Alike.refl _⟩ (.inr ⟨todo, hl⟩) (.inr ⟨hpoint, hpoint'⟩)

theorem move_start {s : TunnelState} {m : Message} (todo : s.todo = [])
    (point : s.point = .handling m) (lease : s.lease = none) : s.Move .handle (s.start m) := by
  have hpending : s.point.pending = none := by rw [point]; rfl
  unfold start
  split
  · split
    · rename_i hmode
      exact .create todo point lease _ (if_pos hmode) _
    · exact .moveTo _ hpending rfl
  · split
    · rename_i hmode
      exact .create todo point lease _ (if_pos hmode) _
    · exact .moveTo _ hpending rfl
  · split
    · rename_i hmode
      exact .create todo point lease _ (if_pos hmode) _
    · exact .moveTo _ hpending rfl
  · exact .removals _ todo hpending rfl _ (by simp [Statement.removal])
  · exact .removals _ todo hpending rfl _ (by simp [Statement.removal])
  · exact .removals _ todo hpending rfl _ (by simp [Statement.removal])
  · exact .moveTo _ hpending rfl
  · exact .moveTo _ hpending rfl
  · exact move_endSession _ (quiet_refl s) todo hpending

theorem move_message {s t : TunnelState} {m : Message} (h : s.message m = some t) :
    s.Move (.message m) t := by
  obtain ⟨_, hpoint, _, rfl⟩ := atSelect_some h
  apply Move.moveTo _ (by rw [hpoint]; rfl)
  split <;> rfl

theorem move_data {s t : TunnelState} {id : StreamId} {payload : Bytes}
    (h : s.data id payload = some t) : s.Move (.data id payload) t := by
  obtain ⟨_, hpoint, _, rfl⟩ := atSelect_some h
  exact .moveTo _ (by rw [hpoint]; rfl) rfl

theorem move_authorized {s t : TunnelState} (h : s.authorized = some t) : s.Move .authorized t := by
  obtain ⟨_, _, h⟩ := inHandling_some h
  split at h <;> rename_i hpoint
  · cases h
    exact .moveTo _ (by rw [hpoint]; rfl) rfl
  · cases h

theorem move_denied {s t : TunnelState} {error : Error} (h : s.denied error = some t) :
    s.Move (.denied error) t := by
  obtain ⟨_, _, h⟩ := inHandling_some h
  split at h <;> rename_i hpoint
  · cases h
    exact .moveTo _ (by rw [hpoint]; rfl) rfl
  · cases h

theorem move_exec {s t : TunnelState} (h : s.exec = some t) : s.Move .exec t := by
  unfold exec at h
  split at h
  · cases h
  · rename_i x rest htodo
    cases h
    exact .exec x rest htodo

theorem move_handle {s t : TunnelState} (h : s.handle = some t) : s.Move .handle t := by
  obtain ⟨htodo, h⟩ := atPoint_some h
  split at h <;> rename_i hpoint
  · cases h
    split
    · exact .moveTo _ (by rw [hpoint]; rfl) rfl
    · rename_i hlease
      exact move_start htodo hpoint (by simpa using hlease)
  · cases h

theorem move_store {s t : TunnelState} (h : s.store = some t) : s.Move .store t := by
  obtain ⟨htodo, h⟩ := atPoint_some h
  split at h <;> rename_i hpoint
  · cases h
    exact .store htodo _ hpoint
  · cases h

theorem move_register {s t : TunnelState} (h : s.register = some t) : s.Move .register t := by
  obtain ⟨htodo, h⟩ := atPoint_some h
  split at h <;> rename_i hpoint
  · cases h
    exact .register htodo _ hpoint
  · cases h

theorem move_spawn {s t : TunnelState} (h : s.spawn = some t) : s.Move .spawn t := by
  obtain ⟨htodo, h⟩ := atPoint_some h
  split at h <;> rename_i hpoint
  · cases h
    exact .spawn htodo _ hpoint
  · cases h

theorem quiet_deliverTo (receiver : Receiver) (id : StreamId) (payload : Bytes) (s : TunnelState) :
    Quiet s (s.deliverTo receiver id payload) := by
  cases receiver with
  | body n => exact ⟨rfl, rfl, rfl, rfl, rfl, alike_setTask ⟨_, _, rfl⟩⟩
  | stream n => exact ⟨rfl, rfl, rfl, rfl, rfl, alike_setTask ⟨_, _, rfl⟩⟩

theorem deliverTo_todo (receiver : Receiver) (id : StreamId) (payload : Bytes) (s : TunnelState) :
    (s.deliverTo receiver id payload).todo = s.todo := by
  cases receiver <;> rfl

theorem move_dispatch {s t : TunnelState} (h : s.dispatch = some t) : s.Move .dispatch t := by
  obtain ⟨_, h⟩ := atPoint_some h
  split at h <;> rename_i hpoint
  · have hpending : s.point.pending = none := by rw [hpoint]; rfl
    cases h
    split
    · exact .calm (quiet_deliverTo _ _ _ s) (.inl (deliverTo_todo _ _ _ s)) (.inr ⟨hpending, rfl⟩)
    · exact .calm (quiet_deliverTo _ _ _ s) (.inl (deliverTo_todo _ _ _ s)) (.inr ⟨hpending, rfl⟩)
    · exact .moveTo _ hpending rfl
  · cases h

theorem move_delivered {s t : TunnelState} (h : s.delivered = some t) : s.Move .delivered t := by
  obtain ⟨_, _, h⟩ := inHandling_some h
  split at h <;> rename_i hpoint
  · split at h
    · obtain ⟨u, hput, rfl⟩ := Option.map_eq_some_iff.mp h
      unfold put at hput
      split at hput
      · obtain ⟨body, _, rfl⟩ := Option.map_eq_some_iff.mp hput
        exact .calm ⟨rfl, rfl, rfl, rfl, rfl, alike_setTask ⟨_, _, rfl⟩⟩ (.inl rfl)
          (.inr ⟨by rw [hpoint]; rfl, rfl⟩)
      · obtain ⟨channel, _, rfl⟩ := Option.map_eq_some_iff.mp hput
        exact .calm ⟨rfl, rfl, rfl, rfl, rfl, alike_setTask ⟨_, _, rfl⟩⟩ (.inl rfl)
          (.inr ⟨by rw [hpoint]; rfl, rfl⟩)
    · cases h
  · cases h

theorem move_undelivered {s t : TunnelState} (h : s.undelivered = some t) : s.Move .undelivered t := by
  obtain ⟨htodo, _, h⟩ := inHandling_some h
  split at h <;> rename_i hpoint
  · have hpending : s.point.pending = none := by rw [hpoint]; rfl
    split at h
    · cases h
    · split at h
      · cases h
        exact .removals _ htodo hpending rfl _ (by simp [Statement.removal])
      · cases h
        exact .removals _ htodo hpending rfl _ (by simp [Statement.removal])
  · cases h

theorem move_replied {s t : TunnelState} (h : s.replied = some t) : s.Move .replied t := by
  unfold replied at h
  split at h
  · obtain ⟨_, h⟩ := atPoint_some h
    split at h <;> rename_i hpoint
    · split at h
      · cases h
        exact .moveTo _ (by rw [hpoint]; rfl) rfl
      · cases h
    · cases h
      exact .moveTo _ (by rw [hpoint]; rfl) rfl
    · cases h
  · cases h

theorem move_notReplied {s t : TunnelState} (h : s.notReplied = some t) : s.Move .notReplied t := by
  unfold notReplied at h
  split at h
  · cases h
  · obtain ⟨htodo, h⟩ := atPoint_some h
    split at h <;> rename_i hpoint
    · split at h
      · cases h
        split
        · exact move_endSession _ (quiet_refl s) htodo (by rw [hpoint]; rfl)
        · exact .moveTo _ (by rw [hpoint]; rfl) rfl
      · cases h
    · cases h
      exact move_endSession _ (quiet_refl s) htodo (by rw [hpoint]; rfl)
    · cases h

theorem withdraw_todo (s : TunnelState) : s.withdraw.todo = s.todo := by
  unfold withdraw
  split <;> rfl

theorem move_interrupt {s t : TunnelState} (h : s.interrupt = some t) : s.Move .interrupt t := by
  have hq := quiet_withdraw s
  have hcalm : s.point.pending = none → s.Move .interrupt { s.withdraw with point := .select } :=
    fun hpoint => .calm ⟨hq.streams, hq.streamCancels, hq.httpBodies, hq.next, hq.sent, hq.task⟩
      (.inl (withdraw_todo s)) (.inr ⟨hpoint, rfl⟩)
  unfold interrupt at h
  split at h
  · cases h
  · obtain ⟨_, h⟩ := atPoint_some h
    split at h <;> rename_i hpoint
    · cases h
      exact hcalm (by rw [hpoint]; rfl)
    · cases h
      exact hcalm (by rw [hpoint]; rfl)
    · cases h
      exact hcalm (by rw [hpoint]; rfl)
    · cases h

theorem move_leaseEnds {s t : TunnelState} (h : s.leaseEnds = some t) : s.Move .leaseEnds t := by
  unfold leaseEnds at h
  split at h
  · cases h
  · obtain ⟨htodo, h⟩ := atPoint_some h
    split at h <;> rename_i hpoint
    · cases h
      refine .sweep ⟨rfl, rfl, rfl, rfl, rfl, fun _ => Task.Alike.refl _⟩ htodo
        [.clearStreams, .clearBodies] ?_ rfl (by rw [hpoint]; rfl) rfl (fun h => by cases h)
      simp [Statement.clearing]
    · cases h

theorem move_finish {s t : TunnelState} (h : s.finish = some t) : s.Move .finish t := by
  obtain ⟨htodo, h⟩ := atPoint_some h
  have hend : s.point.pending = none → s.Move .finish s.withdraw.endSession :=
    move_endSession _ (quiet_withdraw s) htodo
  cases hpoint : s.point with
  | handling m => rw [hpoint] at h; cases h
  | storing n => rw [hpoint] at h; cases h
  | registering n => rw [hpoint] at h; cases h
  | spawning n => rw [hpoint] at h; cases h
  | dispatching id payload => rw [hpoint] at h; cases h
  | ended => rw [hpoint] at h; cases h
  | _ =>
    rw [hpoint] at h
    cases h
    exact hend (by rw [hpoint]; rfl)

theorem move_step {op : TunnelOp} {s t : TunnelState} (h : tunnel.step op s = some t) : s.Move op t := by
  cases op with
  | cancelLease error =>
    cases h
    exact .calm ⟨rfl, rfl, rfl, rfl, rfl, fun _ => Task.Alike.refl _⟩ (.inl rfl) (.inl rfl)
  | writerEnds =>
    cases h
    exact .calm ⟨rfl, rfl, rfl, rfl, rfl, fun _ => Task.Alike.refl _⟩ (.inl rfl) (.inl rfl)
  | message m => exact move_message h
  | data id payload => exact move_data h
  | authorized => exact move_authorized h
  | denied error => exact move_denied h
  | exec => exact move_exec h
  | handle => exact move_handle h
  | store => exact move_store h
  | register => exact move_register h
  | spawn => exact move_spawn h
  | dispatch => exact move_dispatch h
  | delivered => exact move_delivered h
  | undelivered => exact move_undelivered h
  | tick =>
    obtain ⟨_, hpoint, _, rfl⟩ := atSelect_some h
    exact .moveTo _ (by rw [hpoint]; rfl) rfl
  | replied => exact move_replied h
  | notReplied => exact move_notReplied h
  | interrupt => exact move_interrupt h
  | leaseEnds => exact move_leaseEnds h
  | finish => exact move_finish h
  | task n op =>
    obtain ⟨⟨t', effect⟩, hstep, rfl⟩ := Option.map_eq_some_iff.mp h
    exact .task n op t' effect hstep

end TunnelState

end WsNet.Gateway
