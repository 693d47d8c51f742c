import WsNet.Access.Connection
import WsNet.Access.Writer
import WsNet.Transition.Machine

/-! The access's session task, its writer and the handlers of its local streams.

The session task is one loop over a `select!`. The writer is a future that only this
loop polls: it takes steps while the loop is at its `select!` and none while the
body of a branch waits. The handlers are tasks of their own. All of them send to one
bounded queue, which the writer alone empties; the session task sends data frames
into a bounded channel of each stream, which the stream's handler alone empties.

The opening check and the request for a permit are one step here: between two
awaits of a handler nothing else of that handler happens. -/
namespace WsNet.Access
open Data Transition

def streamChannelCapacity : Nat := 64

/-- The session task is the only sender of a stream's channel. -/
abbrev StreamChannel := BoundedChannel streamChannelCapacity Bytes Unit

/-! ### The handlers -/

/-- Where a handler awaits. -/
inductive HandlerPhase where
  | idle
  /-- The stream's Open or HttpRequestStart is being sent. -/
  | submitting (message : WsMessage)
  /-- The answer is awaited, and more of an HTTP request's body may come. -/
  | awaiting (upload : Bool)
  /-- A part of the request's body is being sent, and the answer is awaited. -/
  | uploading (message : WsMessage) (last : Bool)
  /-- The upload has failed: its Close is being sent, and the answer is awaited. -/
  | failing (message : WsMessage)
  /-- TCP: at the `select!` between the local socket and the stream's channel. -/
  | forwarding
  /-- TCP: local data or the local end is being sent. -/
  | sending (message : WsMessage)
  /-- TCP: remote data is being written to the local socket. -/
  | writing
  /-- HTTP: the client reads the response's body. -/
  | reading
  /-- TCP: the final Close is being sent. -/
  | closing (message : WsMessage)
  | gone
  deriving DecidableEq

namespace HandlerPhase

/-- What is being sent. -/
def message : HandlerPhase → Option WsMessage
  | submitting m | uploading m _ | failing m | sending m | closing m => some m
  | _ => none

/-- Once it is sent. -/
def next (mode : Mode) : HandlerPhase → HandlerPhase
  | submitting _ => awaiting (mode = .http)
  | uploading _ last => awaiting (!last)
  | failing _ | closing _ => gone
  | sending _ => forwarding
  | phase => phase

/-- Once the answer has come. -/
def opened : Mode → HandlerPhase
  | .tcp => forwarding
  | .http => reading

/-- The stream's channel is not read before the answer has come. -/
def awaitsAnswer : HandlerPhase → Bool
  | idle | submitting _ | awaiting _ | uploading _ _ | failing _ => true
  | _ => false

/-- The answer ends the sending. -/
def cancellable : HandlerPhase → Bool
  | uploading _ _ | failing _ => true
  | _ => false

@[simp] theorem message_next (mode : Mode) (phase : HandlerPhase) : (phase.next mode).message = none := by
  cases phase <;> rfl

/-- An opened stream's handler sends nothing and awaits no answer. -/
theorem opened_cases (mode : Mode) :
    (opened mode).message = none ∧ (opened mode).awaitsAnswer = false ∧ opened mode ≠ idle := by
  cases mode <;> exact ⟨rfl, rfl, nofun⟩

theorem next_ne_idle {mode : Mode} {phase : HandlerPhase} (h : phase ≠ idle) : phase.next mode ≠ idle := by
  cases phase <;> first | exact h | exact nofun

theorem awaitsAnswer_next {mode : Mode} {phase : HandlerPhase}
    (h : (phase.next mode).awaitsAnswer = true) : phase.awaitsAnswer = true := by
  cases phase <;> first | rfl | exact h

end HandlerPhase

structure Stream where
  mode : Mode := .tcp
  phase : HandlerPhase := .idle
  /-- The answer to the stream's Open or request. -/
  answer : Option (Except GatewayError Unit) := none
  channel : StreamChannel := .empty
  /-- TCP: the ends of the two directions. -/
  localReadClosed : Bool := false
  remoteClosed : Bool := false

def Stream.notified (n : Notices) (st : Stream) : Stream :=
  { st with answer := (st.answer.or n.opened).or (n.head.map fun r => r.map fun _ => ()) }

/-! ### The session task -/

inductive SessionPhase where
  /-- At the `select!`. -/
  | select
  /-- In the body of a branch: a message waits for the queue. -/
  | sending (message : WsMessage)
  /-- In the body of a branch: a data frame waits for the stream's channel. -/
  | delivering (id : StreamId) (payload : Bytes)
  /-- The session has ended and the queue is emptied. -/
  | draining
  | offline
  deriving DecidableEq

def SessionPhase.deliversTo (id : StreamId) : SessionPhase → Bool
  | delivering j _ => j = id
  | _ => false

structure SessionState where
  connection : GatewayConnection
  outbound : Outbound
  streams : StreamId → Stream
  phase : SessionPhase
  writer : Writer

inductive SessionOp where
  /-- The writer, polled by the loop. -/
  | writer (op : WriterOp)
  /-- The branches of the loop. -/
  | heartbeat
  | message (message : Message)
  | data (id : StreamId) (payload : Bytes)
  /-- The wait of a branch is over. -/
  | sent
  | delivered
  | undelivered
  /-- The session ends, by an error, a time limit or a request. -/
  | lost (reason : String)
  | drain
  | drained
  | connect
  /-- A local connection or request. -/
  | openTcp (target : String) (config : TargetConfig)
  | startHttp (target : String) (config : TargetConfig) (request : HttpRequestHead)
  /-- A handler's permit has come. -/
  | enqueued (id : StreamId)
  | answered (id : StreamId)
  | openTimeout (id : StreamId)
  | upload (id : StreamId) (chunk : Bytes)
  | uploadEnd (id : StreamId)
  | uploadFails (id : StreamId)
  | readLocal (id : StreamId) (bytes : Bytes)
  | localEof (id : StreamId)
  | recvRemote (id : StreamId)
  | remoteEof (id : StreamId)
  | wrote (id : StreamId)
  /-- Forwarding ends. -/
  | finish (id : StreamId) (failed : Bool)
  | clientReads (id : StreamId)
  /-- The handler sees that the connection was closed. -/
  | closedSeen (id : StreamId)
  /-- The client or the listener drops the handler, or the response's body. -/
  | dropped (id : StreamId)

namespace SessionState

def setStream (id : StreamId) (st : Stream) (s : SessionState) : SessionState :=
  { s with streams := Function.update s.streams id st }

def setPhase (id : StreamId) (phase : HandlerPhase) (s : SessionState) : SessionState :=
  s.setStream id { s.streams id with phase }

def setChannel (id : StreamId) (channel : StreamChannel) (s : SessionState) : SessionState :=
  s.setStream id { s.streams id with channel }

def notify (notices : StreamId → Notices) (s : SessionState) : SessionState :=
  { s with streams := fun id => (s.streams id).notified (notices id) }

@[simp] theorem stream_setStream (id : StreamId) (st : Stream) (s : SessionState) :
    (s.setStream id st).streams id = st := Function.update_self _ _ _

@[simp] theorem phase_setPhase (id : StreamId) (phase : HandlerPhase) (s : SessionState) :
    ((s.setPhase id phase).streams id).phase = phase := by
  rw [setPhase, stream_setStream]

@[simp] theorem answer_setPhase (id : StreamId) (phase : HandlerPhase) (s : SessionState) :
    ((s.setPhase id phase).streams id).answer = (s.streams id).answer := by
  rw [setPhase, stream_setStream]

@[simp] theorem channel_setPhase (id : StreamId) (phase : HandlerPhase) (s : SessionState) :
    ((s.setPhase id phase).streams id).channel = (s.streams id).channel := by
  rw [setPhase, stream_setStream]

/-! ### The writer's steps -/

/-- The loop polls the writer. -/
def polled (f : SessionState → Option SessionState) (s : SessionState) : Option SessionState :=
  if s.phase = .select then f s else none

def writerStep (op : WriterOp) (s : SessionState) : Option SessionState :=
  (s.writer.step op s.outbound).map fun r => { s with writer := r.writer, outbound := r.outbound }

/-! ### The session task's steps -/

section Session
variable [MessageCodec]

/-- `send_text` in the body of a branch. The connection is open while the session runs. -/
def sendText (message : Message) (s : SessionState) : SessionState :=
  match s.outbound.trySend (.text (encodeMessage message)) with
  | some outbound => { s with outbound, phase := .select }
  | none =>
    { s with
      outbound := s.outbound.request .session
      phase := .sending (.text (encodeMessage message)) }

/-- The wait for a stream's channel is dropped. -/
def abandon (s : SessionState) : SessionState :=
  match s.phase with
  | .delivering id _ => s.setChannel id ((s.streams id).channel.withdraw ())
  | _ => s

/-- The session ends: what its task waited for is dropped, and the connection closed. -/
def lost (reason : String) (s : SessionState) : SessionState :=
  let closed := s.connection.closeGatewayConnection reason
  { s.abandon with
    connection := closed.1
    outbound := s.outbound.withdraw .session
    phase := .draining
    writer := {} }.notify closed.2

def message (message : Message) (s : SessionState) : SessionState :=
  match s.connection.handleGatewayMessage message with
  | .done connection notices => { s with connection }.notify notices
  | .reply answer => s.sendText answer
  | .failed error connection notices => ({ s with connection }.notify notices).lost error.text

/-- The stream's handler has gone: its entry goes, and the gateway is told. -/
def backpressure (id : StreamId) (s : SessionState) : SessionState :=
  { s with connection := s.connection.removeChannel id }.sendText (.close id "local_backpressure")

/-- A data frame for a stream with a channel. -/
def deliver (id : StreamId) (payload : Bytes) (s : SessionState) : SessionState :=
  if (s.streams id).phase = .gone then s.backpressure id
  else
    match (s.streams id).channel.trySend payload with
    | some channel => s.setChannel id channel
    | none =>
      { s.setChannel id ((s.streams id).channel.request ()) with phase := .delivering id payload }

def data (id : StreamId) (payload : Bytes) (s : SessionState) : SessionState :=
  match s.connection.target id with
  | .http | .tcp => s.deliver id payload
  | .unknown =>
    if id ∈ s.connection.unknownStreams then s
    else
      { s with
        connection := { s.connection with
          unknownStreams := insert id s.connection.unknownStreams } }.sendText
        (.close id "unknown_stream")

def sent (s : SessionState) : Option SessionState :=
  match s.phase with
  | .sending message =>
    (s.outbound.put .session message).map fun outbound => { s with outbound, phase := .select }
  | _ => none

def delivered (s : SessionState) : Option SessionState :=
  match s.phase with
  | .delivering id payload =>
    ((s.streams id).channel.put () payload).map fun channel =>
      { s.setChannel id channel with phase := .select }
  | _ => none

def undelivered (s : SessionState) : Option SessionState :=
  match s.phase with
  | .delivering id _ =>
    if (s.streams id).phase = .gone then some (s.abandon.backpressure id) else none
  | _ => none

def drain (s : SessionState) : Option SessionState :=
  if s.phase = .draining then s.outbound.recv.map fun r => { s with outbound := r.2 } else none

def drained (s : SessionState) : Option SessionState :=
  if s.phase = .draining ∧ s.outbound.items = [] then some { s with phase := .offline } else none

def connect (s : SessionState) : Option SessionState :=
  if s.phase = .offline ∧ s.connection.identity = none ∧ s.connection.stopped = false then
    some { s with connection := { s.connection with closed := false }, phase := .select }
  else none

end Session

/-! ### The handlers' steps -/

/-- The handler returns: its entries go. -/
def leave (id : StreamId) (s : SessionState) : SessionState :=
  { s with
    connection := s.connection.closeStream id
    outbound := s.outbound.withdraw (.handler id) }.setPhase id .gone

/-- A handler sends: at once if there is a permit, else it waits. -/
def enqueue (id : StreamId) (phase : HandlerPhase) (message : WsMessage) (s : SessionState) :
    SessionState :=
  match s.connection.ensureGatewayOpen with
  | .error _ => s.leave id
  | .ok () =>
    match s.outbound.trySend message with
    | some outbound => { s with outbound }.setPhase id (phase.next (s.streams id).mode)
    | none => { s with outbound := s.outbound.request (.handler id) }.setPhase id phase

def enqueued (id : StreamId) (s : SessionState) : Option SessionState :=
  (s.streams id).phase.message.bind fun message =>
    (s.outbound.put (.handler id) message).map fun outbound =>
      { s with outbound }.setPhase id ((s.streams id).phase.next (s.streams id).mode)

section Handlers
variable [MessageCodec]

/-- A handler that finds the connection ready takes the next identifier and
registers. An identifier is a 64-bit number. -/
def register (mode : Mode) (s : SessionState) : Option SessionState :=
  let id := s.connection.streamIds
  if s.connection.ensureGatewayOpen = .ok () ∧ id + 1 < 2 ^ 64 then
    some ({ s with
      connection := match mode with
        | .tcp => { s.connection with
            streamIds := id + 1
            openWaiters := insert id s.connection.openWaiters
            tcpStreams := insert id s.connection.tcpStreams }
        | .http => { s.connection with
            streamIds := id + 1
            httpHeadWaiters := insert id s.connection.httpHeadWaiters
            httpBodyStreams := insert id s.connection.httpBodyStreams } }.setStream id { mode })
  else none

def submit (id : StreamId) (message : Message) (s : SessionState) : SessionState :=
  s.enqueue id (.submitting (.text (encodeMessage message))) (.text (encodeMessage message))

def openTcp (target : String) (config : TargetConfig) (s : SessionState) : Option SessionState :=
  let id := s.connection.streamIds
  (s.register .tcp).map fun s => s.submit id (.open id target config)

def startHttp (target : String) (config : TargetConfig) (request : HttpRequestHead)
    (s : SessionState) : Option SessionState :=
  let id := s.connection.streamIds
  (s.register .http).map fun s => s.submit id (.httpRequestStart id target config request)

/-- The answer has come. While an upload fails the answer may be given up, which ends
the wait for it. -/
def answered (id : StreamId) (s : SessionState) : Option SessionState :=
  let st := s.streams id
  match st.phase, st.answer with
  | .awaiting _, some (.ok ()) =>
    some (s.setPhase id (.opened st.mode))
  | .uploading _ _, some (.ok ()) | .failing _, some (.ok ()) =>
    some ({ s with outbound := s.outbound.withdraw (.handler id) }.setPhase id .reading)
  | .awaiting _, some (.error _) | .uploading _ _, some (.error _) | .failing _, some (.error _)
  | .failing _, none => some (s.leave id)
  | _, _ => none

/-- TCP: the final Close. -/
def close (id : StreamId) (reason : String) (s : SessionState) : SessionState :=
  { s with connection := s.connection.closeStream id }.enqueue id
    (.closing (.text (encodeMessage (.close id reason)))) (.text (encodeMessage (.close id reason)))

def openTimeout (id : StreamId) (s : SessionState) : Option SessionState :=
  let st := s.streams id
  if st.mode = .tcp ∧ st.phase = .awaiting false ∧ st.answer = none then
    some (s.close id "open_timeout")
  else none

def upload (id : StreamId) (last : Bool) (message : WsMessage) (s : SessionState) : Option SessionState :=
  if (s.streams id).phase = .awaiting true then
    some (s.enqueue id (.uploading message last) message)
  else none

def uploadFails (id : StreamId) (s : SessionState) : Option SessionState :=
  if (s.streams id).phase = .awaiting true then
    let message : WsMessage := .text (encodeMessage (.close id "request_body_read_failed"))
    some ({ s with connection := s.connection.closeRequest id }.enqueue id (.failing message) message)
  else none

def readLocal (id : StreamId) (bytes : Bytes) (s : SessionState) : Option SessionState :=
  let st := s.streams id
  if st.phase = .forwarding ∧ st.localReadClosed = false then
    let message : WsMessage := .binary (encodeDataFrame id bytes)
    some (s.enqueue id (.sending message) message)
  else none

/-- The local end: forwarding goes on if the other direction is open. -/
def localEof (id : StreamId) (s : SessionState) : Option SessionState :=
  let st := s.streams id
  if st.phase = .forwarding ∧ st.localReadClosed = false then
    let message : WsMessage := .text (encodeMessage (.tcpEof id))
    let s := s.setStream id { st with localReadClosed := true }
    -- A refused TcpEof is ignored.
    match s.connection.ensureGatewayOpen with
    | .error _ => some s
    | .ok () => some (s.enqueue id (.sending message) message)
  else none

def recvRemote (id : StreamId) (s : SessionState) : Option SessionState :=
  let st := s.streams id
  if st.phase = .forwarding ∧ st.remoteClosed = false then
    st.channel.recv.map fun r => s.setStream id { st with channel := r.2, phase := .writing }
  else none

/-- The sending sides of the channel are gone, and it is empty. -/
def remoteEof (id : StreamId) (s : SessionState) : Option SessionState :=
  let st := s.streams id
  if st.phase = .forwarding ∧ st.remoteClosed = false ∧ s.connection.target id = .unknown ∧
      s.phase.deliversTo id = false ∧ st.channel.items = [] then
    some (s.setStream id { st with remoteClosed := true })
  else none

def wrote (id : StreamId) (s : SessionState) : Option SessionState :=
  if (s.streams id).phase = .writing then some (s.setPhase id .forwarding) else none

/-- Forwarding ends, when both directions have ended or one has failed. -/
def finish (id : StreamId) (failed : Bool) (s : SessionState) : Option SessionState :=
  let st := s.streams id
  if (st.phase = .forwarding ∨ st.phase = .writing) ∧
      (failed ∨ (st.localReadClosed ∧ st.remoteClosed)) then
    some (s.close id (if failed then "local_error" else "local_closed"))
  else none

def clientReads (id : StreamId) (s : SessionState) : Option SessionState :=
  if (s.streams id).phase = .reading then
    (s.streams id).channel.recv.map fun r => s.setChannel id r.2
  else none

def closedSeen (id : StreamId) (s : SessionState) : Option SessionState :=
  if s.connection.gatewayClosed.isSome then
    match (s.streams id).phase with
    | .forwarding | .sending _ | .writing =>
      some ({ s with outbound := s.outbound.withdraw (.handler id) }.close id "local_error")
    | .reading => some (s.setPhase id .gone)
    | _ => none
  else none

/-- Dropped where it awaits: the entries stay. -/
def dropped (id : StreamId) (s : SessionState) : Option SessionState :=
  if (s.streams id).phase = .idle then none
  else some ({ s with outbound := s.outbound.withdraw (.handler id) }.setPhase id .gone)

end Handlers

end SessionState

section Machine
variable [MessageCodec]

/-- The connection before its first session. -/
def SessionState.start : SessionState where
  connection := {}
  outbound := .empty
  streams := fun _ => {}
  phase := .offline
  writer := {}

def session : Machine SessionState SessionOp where
  Initial := fun s => s = .start
  step
    | .writer op, s => s.polled (·.writerStep op)
    | .heartbeat, s => s.polled fun s => some (s.sendText .ping)
    | .message m, s => s.polled fun s => some (s.message m)
    | .data id payload, s => s.polled fun s => some (s.data id payload)
    | .sent, s => s.sent
    | .delivered, s => s.delivered
    | .undelivered, s => s.undelivered
    | .lost reason, s =>
      if s.phase = .draining ∨ s.phase = .offline then none else some (s.lost reason)
    | .drain, s => s.drain
    | .drained, s => s.drained
    | .connect, s => s.connect
    | .openTcp target config, s => s.openTcp target config
    | .startHttp target config request, s => s.startHttp target config request
    | .enqueued id, s => s.enqueued id
    | .answered id, s => s.answered id
    | .openTimeout id, s => s.openTimeout id
    | .upload id chunk, s => s.upload id false (.binary (encodeDataFrame id chunk))
    | .uploadEnd id, s => s.upload id true (.text (encodeMessage (.httpRequestEnd id)))
    | .uploadFails id, s => s.uploadFails id
    | .readLocal id bytes, s => s.readLocal id bytes
    | .localEof id, s => s.localEof id
    | .recvRemote id, s => s.recvRemote id
    | .remoteEof id, s => s.remoteEof id
    | .wrote id, s => s.wrote id
    | .finish id failed, s => s.finish id failed
    | .clientReads id, s => s.clientReads id
    | .closedSeen id, s => s.closedSeen id
    | .dropped id, s => s.dropped id

end Machine

end WsNet.Access
