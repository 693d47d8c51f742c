import WsNet.Common.Error
import WsNet.Common.WsMessage
import WsNet.Data.BoundedChannel

/-! The tasks of a session's streams.

Open, HttpRequest and HttpRequestStart each spawn a task. A task's work runs under
the session's lease and, for HTTP, its own cancellation: a poll looks at these
first, and only then does the work go on, until it waits again. The cancellation can
come between the two. A TCP task looks at its cancellation itself, at its `select!`.

What a task does to the session's tables is an effect, one table at a time. The
response that HttpRequest collects and the bytes written to a TCP target are left
out. -/
namespace WsNet.Gateway
open Data

def tcpStreamChannelCapacity : Nat := 64

def httpBodyCapacity : Nat := 64

/-- The session task is the only sender that waits. -/
abbrev TcpChannel := BoundedChannel tcpStreamChannelCapacity Bytes Unit

abbrev BodyItem := Except Error Bytes

abbrev HttpBody := BoundedChannel httpBodyCapacity BodyItem Unit

inductive Outgoing where
  | message (message : Message)
  | data (id : StreamId) (payload : Bytes)
  deriving DecidableEq

/-- The head of a stream's response or a part of its body. -/
def Outgoing.ofResponse (id : StreamId) : Outgoing → Bool
  | .message (.httpResponseStart i _) => i = id
  | .data i _ => i = id
  | _ => false

/-- What goes into the queue. -/
def Outgoing.wsMessage [MessageCodec] : Outgoing → WsMessage
  | .message m => .text (encodeMessage m)
  | .data id payload => .binary (encodeDataFrame id payload)

/-- The message that spawned the task: Open, HttpRequest or HttpRequestStart. -/
inductive TaskKind where
  | tcp
  | http
  | upload
  deriving DecidableEq

inductive TaskPhase where
  | unspawned
  /-- TCP: `TcpStream::connect` is awaited. -/
  | connecting
  /-- TCP: OpenOk is being sent. -/
  | opening
  /-- TCP: at the `select!`; the directions that are closed. -/
  | forwarding (targetReadClosed accessClosed : Bool)
  /-- TCP: the target's data or its end is being sent. -/
  | relaying (out : Outgoing) (targetReadClosed accessClosed : Bool)
  /-- TCP: data is being written to the target. -/
  | writing (targetReadClosed : Bool)
  /-- TCP: the writing side of the target is being shut down. -/
  | shutting (targetReadClosed : Bool)
  /-- TCP: the error is being sent. -/
  | failing (message : Message)
  /-- HTTP: in `handle_http_request`. -/
  | requesting
  /-- HttpRequestStart: a part of the response is being sent. -/
  | responding (out : Outgoing)
  /-- HttpRequestStart: the request is over, its body is taken out next. -/
  | answered (message : Message)
  /-- HTTP: the end of the response is being sent. -/
  | replying (message : Message)
  /-- The work is over: the stream's sender is taken out next. -/
  | removing
  /-- The registration is taken out next. -/
  | unregistering
  /-- TCP: Close is being sent. -/
  | closing
  | finished
  deriving DecidableEq

namespace TaskPhase

/-- Under the lease and, for HTTP, the cancellation. -/
def guarded : TaskPhase → Bool
  | connecting | opening | forwarding _ _ | relaying _ _ _ | writing _ | shutting _ | requesting
  | responding _ | answered _ | replying _ => true
  | _ => false

/-- TCP: the channel's receiving side is there. -/
def listening : TaskPhase → Bool
  | opening | forwarding _ _ | relaying _ _ _ | writing _ | shutting _ => true
  | _ => false

/-- Spawned, and not past the removal of its registration. -/
def active : TaskPhase → Bool
  | unspawned | closing | finished => false
  | _ => true

/-- A phase of an HTTP task. -/
def http : TaskPhase → Bool
  | unspawned | requesting | responding _ | answered _ | replying _ | removing | unregistering
  | finished => true
  | _ => false

end TaskPhase

structure Task where
  id : StreamId := 0
  kind : TaskKind := .tcp
  phase : TaskPhase := .unspawned
  /-- The flag of its `StreamCancellation`. -/
  canceled : Bool := false
  /-- In a poll, past the guard. -/
  awake : Bool := false
  /-- TCP: from the session to the target. -/
  channel : TcpChannel := .empty
  /-- HttpRequestStart: the request's body. -/
  body : HttpBody := .empty
  /-- The body's receiving side is there. -/
  bodyOpen : Bool := false
  /-- What the HTTP client has read of the body, and whether it was told the end. -/
  bodyRead : List BodyItem := []
  bodyEnd : Bool := false
  /-- The body's sender was taken out by HttpRequestEnd. -/
  requestEnded : Bool := false

/-- What a task does outside itself. -/
inductive Effect where
  | quiet
  | send (out : Outgoing)
  /-- TCP: the stream's sender is inserted. -/
  | insertStream
  | removeStream
  | removeBody
  /-- The registration is removed if it is the task's own. -/
  | unregister
  deriving DecidableEq

/-- What a task sees of its session. -/
structure Surroundings where
  lease : Option GatewayError
  /-- The queue to the writer is open. -/
  writer : Bool
  /-- A sending side of the TCP channel is left. -/
  streamSender : Bool
  /-- A sending side of the body is left. -/
  bodySender : Bool

inductive TaskOp where
  /-- A poll of the work: the guard. -/
  | poll
  /-- The work waits, and the poll ends. -/
  | suspend
  | connected
  | connectFails (error : String)
  /-- What is being sent is in the queue. -/
  | sent
  /-- The queue is closed. -/
  | refused (error : String)
  /-- TCP: the cancellation is seen. -/
  | observe
  | readTarget (payload : Bytes)
  | targetEof
  | targetFails (error : String)
  | recv
  | wrote
  | writeFails (error : String)
  | respond (out : Outgoing)
  | requestEnds (result : Except String (Option HttpResponsePayload))
  /-- The next statement after the work, or after `handle_http_request`. -/
  | wind
  /-- The HTTP client's connection reads the body. -/
  | readBody
  | dropBody

namespace Task

/-- The error of a TCP task. -/
def tcpError (error : String) (t : Task) : Message := .error (some t.id) "TCP_TARGET_ERROR" error

def httpError (error : String) (t : Task) : Message := .error (some t.id) "HTTP_TARGET_ERROR" error

/-- The last message of a request. -/
def reply (result : Except String (Option HttpResponsePayload)) (t : Task) : Message :=
  match t.kind, result with
  | _, .error e => t.httpError e
  | .upload, .ok _ => .httpResponseEnd t.id
  | _, .ok (some response) => .httpResponse t.id response
  | _, .ok none => t.httpError "目标未返回有效的 HTTP 响应头"

/-- The work of an HTTP task is over, or dropped. -/
def leave (t : Task) : Task :=
  { t with phase := if t.kind = .upload then .removing else .unregistering, awake := false }

/-- The work of a TCP task is over; its socket and its receiver are dropped. -/
def tcpLeave (t : Task) : Task := { t with phase := .removing, awake := false }

def tcpFail (error : String) (t : Task) : Task :=
  { t with phase := .failing (t.tcpError error), awake := false }

/-- After a direction of a TCP stream has made progress. -/
def resume (targetReadClosed accessClosed : Bool) (t : Task) : Task :=
  if targetReadClosed ∧ accessClosed then t.tcpLeave
  else { t with phase := .forwarding targetReadClosed accessClosed }

def poll (env : Surroundings) (t : Task) : Option (Task × Effect) :=
  if t.phase.guarded ∧ t.awake = false then
    match t.kind, env.lease with
    | .tcp, some error => some (t.tcpFail error.text, .quiet)
    | .tcp, none => some ({ t with awake := true }, .quiet)
    | _, some _ => some (t.leave, .quiet)
    | _, none => if t.canceled then some (t.leave, .quiet) else some ({ t with awake := true }, .quiet)
  else none

def suspend (t : Task) : Option (Task × Effect) :=
  match t.phase with
  | .answered _ => none
  | phase => if phase.guarded ∧ t.awake = true then some ({ t with awake := false }, .quiet) else none

/-- A step of the work in a poll. -/
def working (t : Task) (next : Option (Task × Effect)) : Option (Task × Effect) :=
  if t.awake then next else none

def connected (t : Task) : Option (Task × Effect) :=
  match t.phase with
  | .connecting => t.working (some ({ t with phase := .opening }, .insertStream))
  | _ => none

def connectFails (error : String) (t : Task) : Option (Task × Effect) :=
  match t.phase with
  | .connecting => t.working (some (t.tcpFail error, .quiet))
  | _ => none

def sent (env : Surroundings) (t : Task) : Option (Task × Effect) :=
  if env.writer then
    match t.phase with
    | .opening =>
      t.working (some (t.resume false false, .send (.message (.openOk t.id))))
    | .relaying out targetReadClosed accessClosed =>
      t.working (some (t.resume targetReadClosed accessClosed, .send out))
    | .failing message => some (t.tcpLeave, .send (.message message))
    | .responding out => t.working (some ({ t with phase := .requesting }, .send out))
    | .replying message => t.working (some (t.leave, .send (.message message)))
    | .closing =>
      some ({ t with phase := .finished }, .send (.message (.close t.id "target_closed")))
    | _ => none
  else none

def refused (error : String) (env : Surroundings) (t : Task) : Option (Task × Effect) :=
  if env.writer then none
  else
    match t.phase with
    | .opening => t.working (some (t.tcpFail error, .quiet))
    | .relaying (.data _ _) _ _ => t.working (some (t.tcpFail error, .quiet))
    -- A TcpEof that cannot be sent is ignored.
    | .relaying (.message _) targetReadClosed accessClosed =>
      t.working (some (t.resume targetReadClosed accessClosed, .quiet))
    | .failing _ => some (t.tcpLeave, .quiet)
    | .responding _ => t.working (some ({ t with phase := .answered (t.httpError error) }, .quiet))
    | .replying _ => t.working (some (t.leave, .quiet))
    | .closing => some ({ t with phase := .finished }, .quiet)
    | _ => none

def observe (t : Task) : Option (Task × Effect) :=
  match t.phase with
  | .forwarding _ _ => if t.canceled then t.working (some (t.tcpLeave, .quiet)) else none
  | _ => none

def readTarget (payload : Bytes) (t : Task) : Option (Task × Effect) :=
  match t.phase with
  | .forwarding false accessClosed =>
    t.working (some ({ t with phase := .relaying (.data t.id payload) false accessClosed }, .quiet))
  | _ => none

def targetEof (t : Task) : Option (Task × Effect) :=
  match t.phase with
  | .forwarding false accessClosed =>
    t.working (some ({ t with phase := .relaying (.message (.tcpEof t.id)) true accessClosed }, .quiet))
  | _ => none

def targetFails (error : String) (t : Task) : Option (Task × Effect) :=
  match t.phase with
  | .forwarding false _ => t.working (some (t.tcpFail error, .quiet))
  | _ => none

def recv (env : Surroundings) (t : Task) : Option (Task × Effect) :=
  match t.phase with
  | .forwarding targetReadClosed false =>
    match t.channel.recv with
    | some (_, channel) => t.working (some ({ t with channel, phase := .writing targetReadClosed }, .quiet))
    | none =>
      if env.streamSender then none
      else t.working (some ({ t with phase := .shutting targetReadClosed }, .quiet))
  | _ => none

def wrote (t : Task) : Option (Task × Effect) :=
  match t.phase with
  | .writing targetReadClosed => t.working (some (t.resume targetReadClosed false, .quiet))
  | .shutting targetReadClosed => t.working (some (t.resume targetReadClosed true, .quiet))
  | _ => none

def writeFails (error : String) (t : Task) : Option (Task × Effect) :=
  match t.phase with
  | .writing _ | .shutting _ => t.working (some (t.tcpFail error, .quiet))
  | _ => none

/-- The response's head or a part of its body; HttpRequest collects them. -/
def respond (out : Outgoing) (t : Task) : Option (Task × Effect) :=
  match t.phase with
  | .requesting =>
    if t.kind = .upload ∧ out.ofResponse t.id then
      t.working (some ({ t with phase := .responding out }, .quiet))
    else none
  | _ => none

def requestEnds (result : Except String (Option HttpResponsePayload)) (t : Task) :
    Option (Task × Effect) :=
  match t.phase with
  | .requesting =>
    t.working (some ({ t with
      phase := if t.kind = .upload then .answered (t.reply result) else .replying (t.reply result) },
      .quiet))
  | _ => none

def wind (t : Task) : Option (Task × Effect) :=
  match t.phase with
  | .answered message => some ({ t with phase := .replying message }, .removeBody)
  | .removing =>
    some ({ t with phase := .unregistering }, if t.kind = .tcp then .removeStream else .removeBody)
  | .unregistering =>
    some ({ t with phase := if t.kind = .tcp then .closing else .finished }, .unregister)
  | _ => none

/-- The next item of the body, or its end when no sender is left. -/
def readBody (env : Surroundings) (t : Task) : Option (Task × Effect) :=
  if t.phase ≠ .unspawned ∧ t.bodyOpen = true ∧ t.bodyEnd = false then
    match t.body.recv with
    | some (item, body) => some ({ t with body, bodyRead := t.bodyRead ++ [item] }, .quiet)
    | none => if env.bodySender then none else some ({ t with bodyEnd := true }, .quiet)
  else none

def dropBody (t : Task) : Option (Task × Effect) :=
  if t.phase ≠ .unspawned ∧ t.bodyOpen = true then some ({ t with bodyOpen := false }, .quiet)
  else none

def step (env : Surroundings) : TaskOp → Task → Option (Task × Effect)
  | .poll, t => t.poll env
  | .suspend, t => t.suspend
  | .connected, t => t.connected
  | .connectFails error, t => t.connectFails error
  | .sent, t => t.sent env
  | .refused error, t => t.refused error env
  | .observe, t => t.observe
  | .readTarget payload, t => t.readTarget payload
  | .targetEof, t => t.targetEof
  | .targetFails error, t => t.targetFails error
  | .recv, t => t.recv env
  | .wrote, t => t.wrote
  | .writeFails error, t => t.writeFails error
  | .respond out, t => t.respond out
  | .requestEnds result, t => t.requestEnds result
  | .wind, t => t.wind
  | .readBody, t => t.readBody env
  | .dropBody, t => t.dropBody

/-! ### What a step changes -/

/-- What is being sent. -/
def sends (t : Task) : Option Outgoing :=
  match t.phase with
  | .opening => some (.message (.openOk t.id))
  | .relaying out _ _ | .responding out => some out
  | .failing message | .replying message => some (.message message)
  | .closing => some (.message (.close t.id "target_closed"))
  | _ => none

/-- The task takes out a body with its next statement. -/
def removesBody (t : Task) : Bool :=
  match t.phase with
  | .answered _ => true
  | .removing => t.kind ≠ .tcp
  | _ => false

/-- Where a task has an effect outside itself. -/
def Causes (op : TaskOp) (t : Task) : Effect → Prop
  | .quiet => True
  | .send out => op = .sent ∧ t.sends = some out ∧ (t.phase.guarded = true → t.awake = true)
  | .insertStream => t.phase = .connecting
  | .removeStream => t.phase = .removing ∧ t.kind = .tcp
  | .removeBody => op = .wind ∧ t.removesBody = true
  | .unregister => t.phase = .unregistering

/-- What the steps of a task leave alone, and what they need for the rest. -/
structure Advance (env : Surroundings) (op : TaskOp) (t t' : Task) (effect : Effect) : Prop where
  id : t'.id = t.id
  kind : t'.kind = t.kind
  canceled : t'.canceled = t.canceled
  requestEnded : t'.requestEnded = t.requestEnded
  spawned : t.phase ≠ .unspawned
  active : t'.phase.active = true → t.phase.active = true
  causes : t.Causes op effect
  unregister : effect = .unregister → t'.phase.active = false
  http : t.kind ≠ .tcp → t.phase.http = true → t'.phase.http = true
  finished : t.phase = .finished → t'.phase = .finished ∧ effect = .quiet
  awake : t'.awake = true → t.awake = true ∨
    op = .poll ∧ (t.kind ≠ .tcp → t.canceled = false ∧ env.lease = none)
  bodyOpen : t'.bodyOpen = true → t.bodyOpen = true
  bodyEnd : t'.bodyEnd = true → t.bodyEnd = true ∨ (t.bodyOpen = true ∧ env.bodySender = false)

def moved (phase : TaskPhase) (awake : Bool) (channel : TcpChannel) (t : Task) : Task :=
  { t with phase, awake, channel }

theorem advance_moved {env : Surroundings} {op : TaskOp} {t : Task} {phase : TaskPhase} {awake : Bool}
    {channel : TcpChannel} {effect : Effect} (hlive : t.phase ≠ .unspawned ∧ t.phase ≠ .finished)
    (hactive : phase.active = true → t.phase.active = true) (hcauses : t.Causes op effect)
    (heffect : effect ≠ .unregister)
    (hhttp : t.kind ≠ .tcp → t.phase.http = true → phase.http = true)
    (hawake : awake = true → t.awake = true ∨
      op = .poll ∧ (t.kind ≠ .tcp → t.canceled = false ∧ env.lease = none)) :
    Advance env op t (t.moved phase awake channel) effect where
  id := rfl
  kind := rfl
  canceled := rfl
  requestEnded := rfl
  spawned := hlive.1
  active := hactive
  causes := hcauses
  unregister := fun h => absurd h heffect
  http := hhttp
  finished := fun h => absurd h hlive.2
  awake := hawake
  bodyOpen := fun h => h
  bodyEnd := .inl

theorem live_of_active {t : Task} (h : t.phase.active = true) :
    t.phase ≠ .unspawned ∧ t.phase ≠ .finished := by
  constructor <;>
  · intro hphase
    rw [hphase] at h
    cases h

theorem absurd_http {t : Task} {p : Prop} (h : t.phase.http = false) (hhttp : t.phase.http = true) : p := by
  rw [h] at hhttp
  cases hhttp

/-- A step of a TCP task that nothing else sees. -/
theorem advance_tcp {env : Surroundings} {op : TaskOp} {t : Task} {phase : TaskPhase} {awake : Bool}
    {channel : TcpChannel} (hactive : t.phase.active = true) (htcp : t.phase.http = false)
    (hawake : awake = true → t.awake = true := by simp) :
    Advance env op t (t.moved phase awake channel) .quiet :=
  advance_moved (live_of_active hactive) (fun _ => hactive) trivial (fun h => by cases h)
    (fun _ => absurd_http htcp) fun h => .inl (hawake h)

/-- A step of an HTTP task that nothing else sees. -/
theorem advance_http {env : Surroundings} {op : TaskOp} {t : Task} {phase : TaskPhase} {awake : Bool}
    {channel : TcpChannel} (hactive : t.phase.active = true) (hnext : phase.http = true)
    (hawake : awake = true → t.awake = true := by simp) :
    Advance env op t (t.moved phase awake channel) .quiet :=
  advance_moved (live_of_active hactive) (fun _ => hactive) trivial (fun h => by cases h)
    (fun _ _ => hnext) fun h => .inl (hawake h)

/-- A message is sent. -/
theorem advance_send {env : Surroundings} {t : Task} {phase : TaskPhase} {awake : Bool}
    {channel : TcpChannel} {out : Outgoing} (hactive : t.phase.active = true)
    (hsends : t.sends = some out) (hguarded : t.phase.guarded = true → t.awake = true)
    (hhttp : t.phase.http = true → phase.http = true)
    (hawake : awake = true → t.awake = true := by simp) :
    Advance env .sent t (t.moved phase awake channel) (.send out) :=
  advance_moved (live_of_active hactive) (fun _ => hactive) ⟨rfl, hsends, hguarded⟩
    (fun h => by cases h) (fun _ => hhttp) fun h => .inl (hawake h)

theorem resume_eq (targetReadClosed accessClosed : Bool) (t : Task) :
    ∃ phase awake, t.resume targetReadClosed accessClosed = t.moved phase awake t.channel ∧
      (awake = true → t.awake = true) := by
  unfold resume
  split
  · exact ⟨_, _, rfl, fun h => by cases h⟩
  · exact ⟨_, _, rfl, fun h => h⟩

theorem advance_resume {env : Surroundings} {op : TaskOp} {t : Task} (hactive : t.phase.active = true)
    (htcp : t.phase.http = false) (targetReadClosed accessClosed : Bool) :
    Advance env op t (t.resume targetReadClosed accessClosed) .quiet := by
  obtain ⟨_, _, heq, hawake⟩ := resume_eq targetReadClosed accessClosed t
  rw [heq]
  exact advance_tcp hactive htcp hawake

/-- The work of an HTTP task ends. -/
theorem advance_leave {env : Surroundings} {op : TaskOp} {t : Task} (hactive : t.phase.active = true) :
    Advance env op t t.leave .quiet := by
  apply advance_http hactive
  split <;> rfl

theorem working_eq_some {t : Task} {next : Option (Task × Effect)} {r : Task × Effect}
    (h : t.working next = some r) : t.awake = true ∧ next = some r := by
  unfold working at h
  split at h
  · rename_i hawake
    exact ⟨hawake, h⟩
  · cases h

theorem active_of_guarded {phase : TaskPhase} (h : phase.guarded = true) : phase.active = true := by
  cases phase <;> first | rfl | cases h

theorem advance_poll {env : Surroundings} {t t' : Task} {effect : Effect}
    (h : t.poll env = some (t', effect)) : Advance env .poll t t' effect := by
  unfold poll at h
  split at h
  · rename_i hguard
    have hactive := active_of_guarded hguard.1
    -- past the guard, in the same phase
    have hpassed : (t.kind ≠ .tcp → t.canceled = false ∧ env.lease = none) →
        Advance env .poll t { t with awake := true } .quiet := fun h =>
      advance_moved (live_of_active hactive) (fun _ => hactive) trivial (fun h => by cases h)
        (fun _ h => h) fun _ => .inr ⟨rfl, h⟩
    split at h
    · rename_i error hkind _
      cases h
      exact advance_moved (live_of_active hactive) (fun _ => hactive) trivial (fun h => by cases h)
        (fun h => absurd hkind h) fun h => by cases h
    · rename_i hkind _
      cases h
      exact hpassed fun h => absurd hkind h
    · cases h
      exact advance_leave hactive
    · rename_i hlease _
      split at h
      · cases h
        exact advance_leave hactive
      · rename_i hcanceled
        cases h
        exact hpassed fun _ => ⟨by simpa using hcanceled, hlease⟩
  · cases h

theorem advance_sent {env : Surroundings} {t t' : Task} {effect : Effect}
    (h : t.sent env = some (t', effect)) : Advance env .sent t t' effect := by
  unfold sent at h
  split at h
  · split at h <;> rename_i hphase
    · obtain ⟨hawake, hnext⟩ := working_eq_some h
      cases hnext
      obtain ⟨_, _, heq, hstays⟩ := resume_eq false false t
      have hactive : t.phase.active = true := by rw [hphase]; rfl
      rw [heq]
      exact advance_send hactive (by rw [sends, hphase]) (fun _ => hawake)
        (absurd_http (by rw [hphase]; rfl)) hstays
    · obtain ⟨hawake, hnext⟩ := working_eq_some h
      cases hnext
      obtain ⟨_, _, heq, hstays⟩ := resume_eq _ _ t
      have hactive : t.phase.active = true := by rw [hphase]; rfl
      rw [heq]
      exact advance_send hactive (by rw [sends, hphase]) (fun _ => hawake)
        (absurd_http (by rw [hphase]; rfl)) hstays
    · cases h
      exact advance_send (by rw [hphase]; rfl) (by rw [sends, hphase])
        (fun hguarded => by rw [hphase] at hguarded; cases hguarded) fun _ => rfl
    · obtain ⟨hawake, hnext⟩ := working_eq_some h
      cases hnext
      exact advance_send (by rw [hphase]; rfl) (by rw [sends, hphase]) (fun _ => hawake) fun _ => rfl
    · obtain ⟨hawake, hnext⟩ := working_eq_some h
      cases hnext
      refine advance_send (by rw [hphase]; rfl) (by rw [sends, hphase]) (fun _ => hawake) fun _ => ?_
      split <;> rfl
    · cases h
      refine advance_moved ?_ (fun h => by cases h) ⟨rfl, by rw [sends, hphase], fun hguarded => ?_⟩
        (fun h => by cases h) (fun _ _ => rfl) fun h => .inl h
      · rw [hphase]
        exact ⟨fun h => (by cases h), fun h => (by cases h)⟩
      · rw [hphase] at hguarded
        cases hguarded
    · cases h
  · cases h

theorem advance_refused {env : Surroundings} {error : String} {t t' : Task} {effect : Effect}
    (h : t.refused error env = some (t', effect)) : Advance env (.refused error) t t' effect := by
  unfold refused at h
  split at h
  · cases h
  · split at h <;> rename_i hphase
    · cases (working_eq_some h).2
      exact advance_tcp (by rw [hphase]; rfl) (by rw [hphase]; rfl)
    · cases (working_eq_some h).2
      exact advance_tcp (by rw [hphase]; rfl) (by rw [hphase]; rfl)
    · cases (working_eq_some h).2
      exact advance_resume (by rw [hphase]; rfl) (by rw [hphase]; rfl) _ _
    · cases h
      exact advance_tcp (by rw [hphase]; rfl) (by rw [hphase]; rfl)
    · cases (working_eq_some h).2
      exact advance_http (by rw [hphase]; rfl) rfl
    · cases (working_eq_some h).2
      exact advance_leave (by rw [hphase]; rfl)
    · cases h
      refine advance_moved ?_ (fun h => by cases h) trivial (fun h => by cases h) (fun _ _ => rfl)
        fun h => .inl h
      rw [hphase]
      exact ⟨fun h => (by cases h), fun h => (by cases h)⟩
    · cases h

theorem advance_recv {env : Surroundings} {t t' : Task} {effect : Effect}
    (h : t.recv env = some (t', effect)) : Advance env .recv t t' effect := by
  unfold recv at h
  split at h
  · rename_i hphase
    have hactive : t.phase.active = true := by rw [hphase]; rfl
    have htcp : t.phase.http = false := by rw [hphase]; rfl
    split at h
    · cases (working_eq_some h).2
      exact advance_tcp hactive htcp
    · split at h
      · cases h
      · cases (working_eq_some h).2
        exact advance_tcp hactive htcp
  · cases h

theorem advance_wind {env : Surroundings} {t t' : Task} {effect : Effect}
    (h : t.wind = some (t', effect)) : Advance env .wind t t' effect := by
  unfold wind at h
  split at h <;> rename_i hphase
  · cases h
    have hactive : t.phase.active = true := by rw [hphase]; rfl
    exact advance_moved (live_of_active hactive) (fun _ => hactive)
      ⟨rfl, by rw [removesBody, hphase]⟩ (fun h => by cases h) (fun _ _ => rfl) fun h => .inl h
  · cases h
    have hactive : t.phase.active = true := by rw [hphase]; rfl
    by_cases hkind : t.kind = .tcp
    · rw [if_pos hkind]
      exact advance_moved (live_of_active hactive) (fun _ => hactive) ⟨hphase, hkind⟩
        (fun h => by cases h) (fun _ _ => rfl) fun h => .inl h
    · rw [if_neg hkind]
      refine advance_moved (live_of_active hactive) (fun _ => hactive) ⟨rfl, ?_⟩
        (fun h => by cases h) (fun _ _ => rfl) fun h => .inl h
      rw [removesBody, hphase]
      simpa using hkind
  · cases h
    have hactive : t.phase.active = true := by rw [hphase]; rfl
    have hleft : (if t.kind = .tcp then TaskPhase.closing else .finished).active = false := by
      split <;> rfl
    refine ⟨rfl, rfl, rfl, rfl, (live_of_active hactive).1, fun _ => hactive, hphase, fun _ => hleft,
      fun hkind _ => ?_, fun h => absurd h (live_of_active hactive).2, .inl, fun h => h, .inl⟩
    show (if t.kind = .tcp then TaskPhase.closing else .finished).http = true
    rw [if_neg hkind]
    rfl
  · cases h

theorem advance_readBody {env : Surroundings} {t t' : Task} {effect : Effect}
    (h : t.readBody env = some (t', effect)) : Advance env .readBody t t' effect := by
  unfold readBody at h
  split at h
  · rename_i hopen
    obtain ⟨hspawned, hopen, _⟩ := hopen
    split at h
    · cases h
      exact ⟨rfl, rfl, rfl, rfl, hspawned, fun h => h, trivial, fun h => (by cases h), fun _ h => h,
        fun h => ⟨h, rfl⟩, .inl, fun h => h, .inl⟩
    · split at h
      · cases h
      · rename_i hsender
        cases h
        exact ⟨rfl, rfl, rfl, rfl, hspawned, fun h => h, trivial, fun h => (by cases h), fun _ h => h,
          fun h => ⟨h, rfl⟩, .inl, fun h => h, fun _ => .inr ⟨hopen, by simpa using hsender⟩⟩
  · cases h

theorem advance_dropBody {env : Surroundings} {t t' : Task} {effect : Effect}
    (h : t.dropBody = some (t', effect)) : Advance env .dropBody t t' effect := by
  unfold dropBody at h
  split at h
  · rename_i hopen
    cases h
    exact ⟨rfl, rfl, rfl, rfl, hopen.1, fun h => h, trivial, fun h => (by cases h),
      fun _ h => h, fun h => ⟨h, rfl⟩, .inl, fun _ => hopen.2, .inl⟩
  · cases h

/-- Every step of a task advances it. -/
theorem advance_step {env : Surroundings} {op : TaskOp} {t t' : Task} {effect : Effect}
    (h : t.step env op = some (t', effect)) : Advance env op t t' effect := by
  cases op with
  | poll => exact advance_poll h
  | suspend =>
    simp only [step, suspend] at h
    split at h
    · cases h
    · split at h
      · rename_i hguard
        have hactive := active_of_guarded hguard.1
        cases h
        exact advance_moved (live_of_active hactive) (fun _ => hactive) trivial
          (fun h => by cases h) (fun _ h => h) fun h => by cases h
      · cases h
  | connected =>
    simp only [step, connected] at h
    split at h <;> rename_i hphase
    · cases (working_eq_some h).2
      have hactive : t.phase.active = true := by rw [hphase]; rfl
      exact advance_moved (live_of_active hactive) (fun _ => hactive) hphase (fun h => by cases h)
        (fun _ => absurd_http (by rw [hphase]; rfl)) fun h => .inl h
    · cases h
  | connectFails error =>
    simp only [step, connectFails] at h
    split at h <;> rename_i hphase
    · cases (working_eq_some h).2
      exact advance_tcp (by rw [hphase]; rfl) (by rw [hphase]; rfl)
    · cases h
  | sent => exact advance_sent h
  | refused error => exact advance_refused h
  | observe =>
    simp only [step, observe] at h
    split at h <;> rename_i hphase
    · split at h
      · cases (working_eq_some h).2
        exact advance_tcp (by rw [hphase]; rfl) (by rw [hphase]; rfl)
      · cases h
    · cases h
  | readTarget payload =>
    simp only [step, readTarget] at h
    split at h <;> rename_i hphase
    · cases (working_eq_some h).2
      exact advance_tcp (by rw [hphase]; rfl) (by rw [hphase]; rfl)
    · cases h
  | targetEof =>
    simp only [step, targetEof] at h
    split at h <;> rename_i hphase
    · cases (working_eq_some h).2
      exact advance_tcp (by rw [hphase]; rfl) (by rw [hphase]; rfl)
    · cases h
  | targetFails error =>
    simp only [step, targetFails] at h
    split at h <;> rename_i hphase
    · cases (working_eq_some h).2
      exact advance_tcp (by rw [hphase]; rfl) (by rw [hphase]; rfl)
    · cases h
  | recv => exact advance_recv h
  | wrote =>
    simp only [step, wrote] at h
    split at h <;> rename_i hphase
    · cases (working_eq_some h).2
      exact advance_resume (by rw [hphase]; rfl) (by rw [hphase]; rfl) _ _
    · cases (working_eq_some h).2
      exact advance_resume (by rw [hphase]; rfl) (by rw [hphase]; rfl) _ _
    · cases h
  | writeFails error =>
    simp only [step, writeFails] at h
    split at h <;> rename_i hphase
    · cases (working_eq_some h).2
      exact advance_tcp (by rw [hphase]; rfl) (by rw [hphase]; rfl)
    · cases (working_eq_some h).2
      exact advance_tcp (by rw [hphase]; rfl) (by rw [hphase]; rfl)
    · cases h
  | respond out =>
    simp only [step, respond] at h
    split at h <;> rename_i hphase
    · split at h
      · cases (working_eq_some h).2
        exact advance_http (by rw [hphase]; rfl) rfl
      · cases h
    · cases h
  | requestEnds result =>
    simp only [step, requestEnds] at h
    split at h <;> rename_i hphase
    · cases (working_eq_some h).2
      apply advance_http (by rw [hphase]; rfl)
      split <;> rfl
    · cases h
  | wind => exact advance_wind h
  | readBody => exact advance_readBody h
  | dropBody => exact advance_dropBody h

end Task

end WsNet.Gateway
