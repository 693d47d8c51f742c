import WsNet.Access.Reconnect
import WsNet.Relay.Events

/-! The access's end of the pipeline.

Under the local sockets of `handle_tcp_connection` lies the connection with its
sessions, its handlers and its writer (`link`). Added to it are what a handler reads
from its socket and writes to it, what the session task has decrypted, and where it
sends that: to the body of a response, to a stream's channel, or nowhere. A stream's
channel is a list, and the session task may wait for it at any time.

HTTP handlers share the connection. Of a response's body it is only said whether
its receiver is there. -/
namespace WsNet.Relay
open Access Data Transition

def tcpBufferSize : Nat := 64 * 1024

structure LocalSocket where
  read : Bytes := []
  written : Bytes := []
  /-- What `write_all` has still to write. -/
  writing : Option Bytes := none
  channel : List Bytes := []
  remoteClosed : Bool := false
  deriving DecidableEq

/-- What has come for the socket. -/
def LocalSocket.arrived (k : LocalSocket) : Bytes := k.written ++ k.writing.getD [] ++ k.channel.flatten

structure LocalSide where
  link : LinkState := {}
  sockets : StreamId → LocalSocket := fun _ => {}
  /-- A data frame waits for its stream's channel. -/
  delivering : Option (StreamId × Bytes) := none
  /-- What the sessions have decrypted. -/
  received : Nat → List (TunnelFrameKind × Bytes) := fun _ => []
  /-- What each handler has put into the queue, Closes left out. -/
  handed : StreamId → List StreamEvent := fun _ => []

inductive LocalOp where
  | link (op : LinkOp)
  /-- A frame is decrypted and handled; whether the receiver of a response's body is gone. -/
  | receive (m : TunnelFrameKind × Bytes) (bodyGone : Bool)
  | delivered
  | undelivered
  | readLocal (id : StreamId) (bytes : Bytes)
  /-- Reading fails, and what was read before is dropped. -/
  | readFails (id : StreamId) (lost : Bytes)
  | recvRemote (id : StreamId)
  | remoteEof (id : StreamId)
  | writeSome (id : StreamId) (count : Nat)
  | wrote (id : StreamId)
  /-- `stop_identity` or `stop_gateway_connections`. -/
  | stop (error : Option GatewayError) (reason : String)

namespace LocalSide
variable [MessageCodec]

def isOpen (s : LocalSide) : Bool := s.link.connection.ensureGatewayOpen = .ok ()

def setSocket (id : StreamId) (k : LocalSocket) (s : LocalSide) : LocalSide :=
  { s with sockets := Function.update s.sockets id k }

/-! ### The link's steps -/

/-- What the link may do here. The session task is in the body of a branch while a frame
waits for its channel, a handler at its `select!` is not writing, and nothing connects
once it is stopped. -/
def allows (op : LinkOp) (s : LocalSide) : Bool :=
  match op with
  | .message _ => false
  | .control m => m = .ping ∧ s.isOpen ∧ s.delivering = none
  | .sent | .writer _ => s.delivering = none
  | .connect => s.link.connection.stopped = false
  | .part id _ => (s.link.callers id).mode = .http
  | .last id => (s.sockets id).writing = none
  | _ => true

/-- What the handler is about to put. -/
def handing (id : StreamId) (s : LocalSide) : List StreamEvent :=
  (s.link.callers id).phase.sending.elim [] fun x => flow (wsEvents id x.message)

def afterLink (op : LinkOp) (s : LocalSide) (link : LinkState) : LocalSide :=
  match op with
  | .put id => { s with link, handed := Function.update s.handed id (s.handed id ++ s.handing id) }
  | .lose => { s with link, delivering := none }
  | _ => { s with link }

def linkStep (op : LinkOp) (s : LocalSide) : Option LocalSide :=
  if s.allows op then (Access.link.step op s.link).map (s.afterLink op) else none

/-! ### The session task -/

def lose (s : LocalSide) : LocalSide := { s with link := s.link.endSession, delivering := none }

/-- A Close of the session task; that it cannot be sent is ignored. -/
def sendClose (id : StreamId) (reason : String) (s : LocalSide) : LocalSide :=
  if s.isOpen then { s with link := s.link.sendControl (.close id reason) } else s

def text (message : Message) (s : LocalSide) : LocalSide :=
  match s.link.connection.handleGatewayMessage message with
  | .done connection notices => { s with link := { s.link with connection }.notify notices }
  | .reply answer => if s.isOpen then { s with link := s.link.sendControl answer } else s.lose
  | .failed _ connection notices =>
    { s with link := { s.link with connection }.endSession.tell notices }

/-- The receiver has gone: its entry goes, and the gateway is told. -/
def backpressure (id : StreamId) (s : LocalSide) : LocalSide :=
  { s with link := { s.link with connection := s.link.connection.removeChannel id } }.sendClose id
    "local_backpressure"

def data (id : StreamId) (payload : Bytes) (bodyGone : Bool) (s : LocalSide) : LocalSide :=
  match s.link.connection.target id with
  | .http => if bodyGone then s.backpressure id else s
  | .tcp => { s with delivering := some (id, payload) }
  | .unknown =>
    if id ∈ s.link.connection.unknownStreams then s
    else
      { s with link := { s.link with connection := { s.link.connection with
          unknownStreams := insert id s.link.connection.unknownStreams } } }.sendClose id "unknown_stream"

def handle (m : TunnelFrameKind × Bytes) (bodyGone : Bool) (s : LocalSide) : LocalSide :=
  match m with
  | (.text, bytes) => ((textOf bytes).bind decodeMessage).elim s.lose s.text
  | (.binary, frame) => (decodeDataFrame frame).elim s.lose fun r => s.data r.1 r.2 bodyGone

def record (m : TunnelFrameKind × Bytes) (s : LocalSide) : LocalSide :=
  { s with received :=
      Function.update s.received s.link.sessions (s.received s.link.sessions ++ [m]) }

def receive (m : TunnelFrameKind × Bytes) (bodyGone : Bool) (s : LocalSide) : Option LocalSide :=
  if s.link.phase = .open ∧ s.delivering = none then some ((s.record m).handle m bodyGone) else none

def delivered (s : LocalSide) : Option LocalSide :=
  match s.delivering with
  | some (id, payload) =>
    if (s.link.callers id).phase = .gone then none
    else
      let k := s.sockets id
      some { s.setSocket id { k with channel := k.channel ++ [payload] } with delivering := none }
  | none => none

def undelivered (s : LocalSide) : Option LocalSide :=
  match s.delivering with
  | some (id, _) =>
    if (s.link.callers id).phase = .gone then some ({ s with delivering := none }.backpressure id) else none
  | none => none

def stop (error : Option GatewayError) (reason : String) (s : LocalSide) : LocalSide :=
  match error with
  | some error =>
    let closed := s.link.connection.stopIdentity error
    { s with link := { s.link with connection := closed.1 }.tell closed.2 }
  | none =>
    let closed := { s.link.connection with stopped := true }.closeGatewayConnection reason
    let outbound := (s.link.outbound.trySend (.close none)).getD s.link.outbound
    { s with link := { s.link with connection := closed.1, outbound }.tell closed.2 }

/-! ### The forwarding of a TCP handler -/

/-- At the `select!`, or in the body of its branch for the channel. -/
def forwards (id : StreamId) (s : LocalSide) : Bool :=
  let c := s.link.callers id
  c.mode = .tcp ∧ c.phase = .running ∧ c.polled

def readLocal (id : StreamId) (bytes : Bytes) (s : LocalSide) : Option LocalSide :=
  let k := s.sockets id
  if s.forwards id ∧ k.writing = none ∧ bytes ≠ [] ∧ bytes.length ≤ tcpBufferSize then
    (s.link.part id bytes).map fun link =>
      { s with link }.setSocket id { k with read := k.read ++ bytes }
  else none

def readFails (id : StreamId) (lost : Bytes) (s : LocalSide) : Option LocalSide :=
  let k := s.sockets id
  if s.forwards id ∧ (s.link.callers id).sentLast = false ∧ k.writing = none then
    (s.link.finish id "local_error").map fun link =>
      { s with link }.setSocket id { k with read := k.read ++ lost }
  else none

def recvRemote (id : StreamId) (s : LocalSide) : Option LocalSide :=
  let k := s.sockets id
  match k.channel with
  | [] => none
  | payload :: channel =>
    if s.forwards id ∧ k.writing = none ∧ k.remoteClosed = false then
      some (s.setSocket id { k with channel, writing := some payload })
    else none

/-- The sending sides of the channel are gone, and it is empty. -/
def remoteEof (id : StreamId) (s : LocalSide) : Option LocalSide :=
  let k := s.sockets id
  if s.forwards id ∧ k.writing = none ∧ k.channel = [] ∧ id ∉ s.link.connection.tcpStreams ∧
      (∀ d ∈ s.delivering, d.1 ≠ id) then
    some (s.setSocket id { k with remoteClosed := true })
  else none

def writeSome (id : StreamId) (count : Nat) (s : LocalSide) : Option LocalSide :=
  let k := s.sockets id
  match k.writing with
  | none => none
  | some rest =>
    if s.forwards id then
      some (s.setSocket id { k with written := k.written ++ rest.take count, writing := some (rest.drop count) })
    else none

def wrote (id : StreamId) (s : LocalSide) : Option LocalSide :=
  let k := s.sockets id
  if s.forwards id ∧ k.writing = some [] then some (s.setSocket id { k with writing := none }) else none

end LocalSide

section Machine
variable [MessageCodec]

def localSide : Machine LocalSide LocalOp where
  Initial := fun s => s = {}
  step
    | .link op, s => s.linkStep op
    | .receive m bodyGone, s => s.receive m bodyGone
    | .delivered, s => s.delivered
    | .undelivered, s => s.undelivered
    | .readLocal id bytes, s => s.readLocal id bytes
    | .readFails id lost, s => s.readFails id lost
    | .recvRemote id, s => s.recvRemote id
    | .remoteEof id, s => s.remoteEof id
    | .writeSome id count, s => s.writeSome id count
    | .wrote id, s => s.wrote id
    | .stop error reason, s => some (s.stop error reason)

end Machine

end WsNet.Relay
