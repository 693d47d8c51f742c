import WsNet.Access.Connection
import WsNet.Access.Writer
import WsNet.Transition.Machine

/-! Sessions that follow one another on one connection.

The queue outlives a session. When one ends, the connection is closed, which tells the
waiting callers that it is lost, and the queue is emptied up to the first empty poll;
then the next session may open. A handler tests the closed flag, asks for a permit
and puts its message in separate steps, and other tasks run in between.

A handler's task is polled, and goes on within a poll as long as nothing it awaits is
pending. The steps that stop a connection for good are left out, as no session
follows them, and so are the data frames of the gateway, which nothing here reads. -/
namespace WsNet.Access
open Data Transition

/-! ### The handlers -/

/-- What a handler sends. -/
inductive Sending where
  /-- The stream's Open or HttpRequestStart. -/
  | submit (message : WsMessage)
  /-- Data; as the last part, TcpEof or HttpRequestEnd. -/
  | part (message : WsMessage) (last : Bool)
  | close (message : WsMessage)
  deriving DecidableEq

def Sending.message : Sending → WsMessage
  | submit m | part m _ | close m => m

inductive CallerPhase where
  | idle
  /-- `ensure_gateway_ready` has returned. -/
  | ready
  /-- Before the open check. -/
  | checking (sending : Sending)
  /-- The check has passed; no permit has been asked for. -/
  | requesting (sending : Sending)
  | queued (sending : Sending)
  /-- TCP: OpenOk is awaited. -/
  | awaiting
  /-- TCP forwarding, or an HTTP upload while the answer is awaited. -/
  | running
  | gone
  deriving DecidableEq

structure Caller where
  mode : Mode := .tcp
  phase : CallerPhase := .idle
  answer : Option (Except GatewayError Unit) := none
  /-- The current poll has found the connection open (TCP), or no answer yet (HTTP). -/
  polled : Bool := false
  sentLast : Bool := false
  /-- The session in which the waiter was registered. -/
  registeredIn : Option Nat := none
  /-- The session in which the Open or HttpRequestStart passed the check. -/
  submittedIn : Option Nat := none
  /-- The waiter was told that the connection is lost. -/
  told : Bool := false

/-- The stream was registered and submitted in no session but this. -/
def Caller.ofSession (n : Nat) (c : Caller) : Bool :=
  c.registeredIn.all (· = n) && c.submittedIn.all (· = n)

/-- What is being sent. -/
def CallerPhase.sending : CallerPhase → Option Sending
  | checking x | requesting x | queued x => some x
  | _ => none

/-- The stream has not passed the check of its first message. -/
def CallerPhase.early : CallerPhase → Bool
  | idle | ready | checking (.submit _) => true
  | _ => false

/-! ### The connection's task -/

inductive LinkPhase where
  /-- Between two sessions; the queue was found empty. -/
  | offline
  | open
  /-- In the session, in the body of a branch. -/
  | sending (message : WsMessage)
  /-- The session's future has ended. -/
  | ended
  /-- The connection is closed. -/
  | draining
  deriving DecidableEq

/-- The session runs, and its writer may write. -/
def LinkPhase.isOpen : LinkPhase → Bool
  | .open | .sending _ => true
  | _ => false

/-- A message that the sink took. -/
structure Written where
  session : Nat
  message : WsMessage
  /-- The caller of its stream had been told of a loss. -/
  told : Bool
  deriving DecidableEq

structure LinkState where
  connection : GatewayConnection := {}
  outbound : Outbound := .empty
  callers : StreamId → Caller := fun _ => {}
  phase : LinkPhase := .offline
  /-- How many sessions have been opened. -/
  sessions : Nat := 0
  writer : Writer := {}
  written : List Written := []

inductive LinkOp where
  | connect
  | lose
  | close (reason : String)
  | drain
  | drained
  | message (message : Message)
  /-- Heartbeat, and the Closes of the session task. -/
  | control (message : Message)
  | sent
  | writer (op : WriterOp)
  /-- A handler finds the connection ready. -/
  | start (mode : Mode)
  | register (id : StreamId) (target : String) (config : TargetConfig) (request : HttpRequestHead)
  | check (id : StreamId)
  | request (id : StreamId)
  | put (id : StreamId)
  /-- The handler's task is polled, and the poll ends. -/
  | poll (id : StreamId)
  | pend (id : StreamId)
  | opened (id : StreamId)
  | openTimeout (id : StreamId)
  | part (id : StreamId) (bytes : Bytes)
  | last (id : StreamId)
  | finish (id : StreamId) (reason : String)
  | dropped (id : StreamId)

section Machine
variable [MessageCodec]

/-- The stream whose handler a message starts or feeds. -/
def streamOf : WsMessage → Option StreamId
  | .text text =>
    match decodeMessage text with
    | some (.open id _ _) | some (.httpRequestStart id _ _ _) | some (.tcpEof id)
    | some (.httpRequestEnd id) => some id
    | _ => none
  | .binary frame => (decodeDataFrame frame).map Prod.fst
  | _ => none

/-- What the session task sends by itself. -/
def isControl : Message → Bool
  | .ping | .pong | .close _ _ => true
  | _ => false

namespace LinkState

def setCaller (id : StreamId) (c : Caller) (s : LinkState) : LinkState :=
  { s with callers := Function.update s.callers id c }

def setPhase (id : StreamId) (phase : CallerPhase) (s : LinkState) : LinkState :=
  s.setCaller id { s.callers id with phase }

/-- The answer that a notice brings. -/
def answerOf (n : Notices) : Option (Except GatewayError Unit) :=
  n.opened.or (n.head.map fun r => r.map fun _ => ())

def notify (notices : StreamId → Notices) (s : LinkState) : LinkState :=
  { s with callers := fun id =>
      { s.callers id with answer := (s.callers id).answer.or (answerOf (notices id)) } }

/-- The notices of a connection that is closed. -/
def tell (notices : StreamId → Notices) (s : LinkState) : LinkState :=
  { s.notify notices with callers := fun id =>
      { (s.notify notices).callers id with
        told := (s.callers id).told || (answerOf (notices id)).isSome } }

/-! ### The connection's task -/

def connect (s : LinkState) : Option LinkState :=
  if s.phase = .offline ∧ s.connection.identity = none then
    some { s with
      connection := { s.connection with closed := false }
      phase := .open
      sessions := s.sessions + 1 }
  else none

/-- The session's future ends: what it held is dropped. -/
def endSession (s : LinkState) : LinkState :=
  { s with outbound := s.outbound.withdraw .session, phase := .ended, writer := {} }

def lose (s : LinkState) : Option LinkState :=
  match s.phase with
  | .open | .sending _ => some s.endSession
  | _ => none

def close (reason : String) (s : LinkState) : Option LinkState :=
  if s.phase = .ended then
    let closed := s.connection.closeGatewayConnection reason
    some ({ s with connection := closed.1, phase := .draining }.tell closed.2)
  else none

def drain (s : LinkState) : Option LinkState :=
  if s.phase = .draining then s.outbound.recv.map fun r => { s with outbound := r.2 } else none

def drained (s : LinkState) : Option LinkState :=
  if s.phase = .draining ∧ s.outbound.items = [] then some { s with phase := .offline } else none

def sendControl (message : Message) (s : LinkState) : LinkState :=
  match s.outbound.trySend (.text (encodeMessage message)) with
  | some outbound => { s with outbound }
  | none =>
    { s with
      outbound := s.outbound.request .session
      phase := .sending (.text (encodeMessage message)) }

def message (message : Message) (s : LinkState) : Option LinkState :=
  if s.phase = .open then
    match s.connection.handleGatewayMessage message with
    | .done connection notices => some ({ s with connection }.notify notices)
    | .reply answer => some (s.sendControl answer)
    | .failed _ connection notices => some ({ s with connection }.endSession.tell notices)
  else none

def control (message : Message) (s : LinkState) : Option LinkState :=
  if s.phase = .open ∧ isControl message then some (s.sendControl message) else none

def sent (s : LinkState) : Option LinkState :=
  match s.phase with
  | .sending message => (s.outbound.put .session message).map fun outbound => { s with outbound, phase := .open }
  | _ => none

def writerStep (op : WriterOp) (s : LinkState) : Option LinkState :=
  if s.phase = .open then
    (s.writer.step op s.outbound).map fun r =>
      { s with
        writer := r.writer
        outbound := r.outbound
        written := s.written ++ r.fed.toList.map fun message =>
          ⟨s.sessions, message, (streamOf message).any fun id => (s.callers id).told⟩ }
  else none

/-! ### The handlers -/

def start (mode : Mode) (s : LinkState) : Option LinkState :=
  let id := s.connection.streamIds
  if s.connection.ensureGatewayOpen = .ok () ∧ id + 1 < 2 ^ 64 then
    some ({ s with connection := { s.connection with streamIds := id + 1 } }.setCaller id
      { mode, phase := .ready })
  else none

/-- The waiter and the channel are registered. -/
def register (id : StreamId) (target : String) (config : TargetConfig) (request : HttpRequestHead)
    (s : LinkState) : Option LinkState :=
  let c := s.callers id
  if c.phase = .ready then
    let registeredIn := if s.connection.closed then none else some s.sessions
    match c.mode with
    | .tcp =>
      some ({ s with connection := { s.connection with
          openWaiters := insert id s.connection.openWaiters
          tcpStreams := insert id s.connection.tcpStreams } }.setCaller id
        { c with
          phase := .checking (.submit (.text (encodeMessage (.open id target config))))
          registeredIn })
    | .http =>
      some ({ s with connection := { s.connection with
          httpHeadWaiters := insert id s.connection.httpHeadWaiters
          httpBodyStreams := insert id s.connection.httpBodyStreams } }.setCaller id
        { c with
          phase := .checking (.submit (.text (encodeMessage (.httpRequestStart id target config request))))
          registeredIn })
  else none

/-- The entries go, and a Close is sent. -/
def closing (id : StreamId) (reason : String) (s : LinkState) : LinkState :=
  { s with
    connection := s.connection.closeStream id
    outbound := s.outbound.withdraw (.handler id) }.setPhase id
      (.checking (.close (.text (encodeMessage (.close id reason)))))

/-- The entries go, and the handler returns. -/
def leave (id : StreamId) (s : LinkState) : LinkState :=
  { s with
    connection := s.connection.closeStream id
    outbound := s.outbound.withdraw (.handler id) }.setPhase id .gone

/-- The check has failed. -/
def refused (id : StreamId) (sending : Sending) (s : LinkState) : LinkState :=
  match sending, (s.callers id).mode with
  | .part _ true, .tcp => s.setCaller id { s.callers id with phase := .running, sentLast := true }
  | .part _ false, .tcp => s.closing id "local_error"
  | .part _ false, .http => s.closing id "request_body_send_failed"
  | .submit _, _ | .part _ true, .http | .close _, _ => s.leave id

def check (id : StreamId) (s : LinkState) : Option LinkState :=
  let c := s.callers id
  match c.phase with
  | .checking sending =>
    match s.connection.ensureGatewayOpen, sending with
    | .ok (), .submit message =>
      some (s.setCaller id
        { c with phase := .requesting (.submit message), submittedIn := some s.sessions })
    | .ok (), sending => some (s.setPhase id (.requesting sending))
    | .error _, sending => some (s.refused id sending)
  | _ => none

/-- A handler that must wait gives up its poll. -/
def request (id : StreamId) (s : LinkState) : Option LinkState :=
  let c := s.callers id
  match c.phase with
  | .requesting sending =>
    let outbound := s.outbound.request (.handler id)
    some ({ s with outbound }.setCaller id
      { c with phase := .queued sending, polled := c.polled && (.handler id ∈ outbound.granted) })
  | _ => none

/-- A part is sent within a poll; the first message and a Close are awaited as such. -/
def put (id : StreamId) (s : LinkState) : Option LinkState :=
  let c := s.callers id
  match c.phase with
  | .queued (.submit message) =>
    (s.outbound.put (.handler id) message).map fun outbound =>
      { s with outbound }.setCaller id
        { c with phase := (match c.mode with | .tcp => .awaiting | .http => .running), polled := false }
  | .queued (.part message last) =>
    if c.polled then
      (s.outbound.put (.handler id) message).map fun outbound =>
        { s with outbound }.setCaller id { c with phase := .running, sentLast := last }
    else none
  | .queued (.close message) =>
    (s.outbound.put (.handler id) message).map fun outbound => { s with outbound }.setPhase id .gone
  | _ => none

/-- The start of a poll: `gateway_closed` for TCP, the answer for HTTP. -/
def pollGuard (id : StreamId) (s : LinkState) : LinkState :=
  let c := s.callers id
  match c.mode with
  | .tcp =>
    match s.connection.gatewayClosed with
    | none => s.setCaller id { c with polled := true }
    | some _ => s.closing id "local_error"
  | .http =>
    match c.answer with
    | none => s.setCaller id { c with polled := true }
    | some (.ok ()) => { s with outbound := s.outbound.withdraw (.handler id) }.setPhase id .gone
    | some (.error _) => s.leave id

def poll (id : StreamId) (s : LinkState) : Option LinkState :=
  let c := s.callers id
  match c.phase with
  | .running | .queued (.part _ _) => if c.polled then none else some (s.pollGuard id)
  | _ => none

def pend (id : StreamId) (s : LinkState) : Option LinkState :=
  if (s.callers id).phase = .running then some (s.setCaller id { s.callers id with polled := false })
  else none

def opened (id : StreamId) (s : LinkState) : Option LinkState :=
  match (s.callers id).phase, (s.callers id).answer with
  | .awaiting, some (.ok ()) => some (s.setPhase id .running)
  | .awaiting, some (.error _) => some (s.leave id)
  | _, _ => none

def openTimeout (id : StreamId) (s : LinkState) : Option LinkState :=
  if (s.callers id).phase = .awaiting ∧ (s.callers id).answer = none then
    some (s.closing id "open_timeout")
  else none

/-- More is sent, if there may be more. -/
def sendPart (id : StreamId) (message : WsMessage) (last : Bool) (s : LinkState) : Option LinkState :=
  let c := s.callers id
  if c.phase = .running ∧ c.polled ∧ c.sentLast = false then
    some (s.setPhase id (.checking (.part message last)))
  else none

def part (id : StreamId) (bytes : Bytes) (s : LinkState) : Option LinkState :=
  s.sendPart id (.binary (encodeDataFrame id bytes)) false

def last (id : StreamId) (s : LinkState) : Option LinkState :=
  match (s.callers id).mode with
  | .tcp => s.sendPart id (.text (encodeMessage (.tcpEof id))) true
  | .http => s.sendPart id (.text (encodeMessage (.httpRequestEnd id))) true

/-- TCP forwarding ends, or an upload fails. -/
def finish (id : StreamId) (reason : String) (s : LinkState) : Option LinkState :=
  if (s.callers id).phase = .running ∧ (s.callers id).polled then some (s.closing id reason) else none

def dropped (id : StreamId) (s : LinkState) : Option LinkState :=
  if (s.callers id).phase = .idle then none
  else some ({ s with outbound := s.outbound.withdraw (.handler id) }.setPhase id .gone)

end LinkState

def link : Machine LinkState LinkOp where
  Initial := fun s => s = {}
  step
    | .connect, s => s.connect
    | .lose, s => s.lose
    | .close reason, s => s.close reason
    | .drain, s => s.drain
    | .drained, s => s.drained
    | .message m, s => s.message m
    | .control m, s => s.control m
    | .sent, s => s.sent
    | .writer op, s => s.writerStep op
    | .start mode, s => s.start mode
    | .register id target config request, s => s.register id target config request
    | .check id, s => s.check id
    | .request id, s => s.request id
    | .put id, s => s.put id
    | .poll id, s => s.poll id
    | .pend id, s => s.pend id
    | .opened id, s => s.opened id
    | .openTimeout id, s => s.openTimeout id
    | .part id bytes, s => s.part id bytes
    | .last id, s => s.last id
    | .finish id reason, s => s.finish id reason
    | .dropped id, s => s.dropped id

end Machine
end WsNet.Access
