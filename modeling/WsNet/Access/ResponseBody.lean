import WsNet.Access.Connection
import WsNet.Data.BoundedChannel
import WsNet.Transition.Machine

/-! The body of a response, from the gateway's frames to the local client.

The session task sends the frames of a stream into a bounded channel; the client's
body reads it. The channel ends when its last sending side goes: the stream's entry
in `http_body_streams`, and the copy that a waiting delivery holds. An error is put
into the channel only if it has room.

What a handler sends to the gateway can take any time and can fail. The queue to the
gateway is therefore left out here; so are the TCP streams. -/
namespace WsNet.Access
open Data Transition

def bodyCapacity : Nat := 64

abbrev BodyItem := Except Error Bytes

/-- The session task is the only sender that waits. -/
abbrev BodyChannel := BoundedChannel bodyCapacity BodyItem Unit

/-! ### The handlers -/

inductive RequestPhase where
  | idle
  /-- The stream has its identifier. -/
  | starting
  /-- `ensure_gateway_ready` has returned. -/
  | ready
  /-- The head waiter is registered, the body's channel is not. -/
  | registering
  /-- HttpRequestStart is being sent. -/
  | submitting
  /-- The answer is awaited, and more of the request's body may come. -/
  | awaiting (upload : Bool)
  /-- The upload has failed: its Close is being sent, and the answer is awaited. -/
  | failing
  /-- The client has the body; in this poll `gateway_closed` was found pending. -/
  | reading (polled : Bool)
  /-- The body has ended. -/
  | ended
  | gone
  deriving DecidableEq

namespace RequestPhase

/-- Nothing of the stream is registered. -/
def early : RequestPhase → Bool
  | idle | starting | ready => true
  | _ => false

/-- The channel's receiving side is there. -/
def listening : RequestPhase → Bool
  | registering | submitting | awaiting _ | failing | reading _ => true
  | _ => false

end RequestPhase

structure Request where
  phase : RequestPhase := .idle
  answer : Option (Except GatewayError HttpResponseHead) := none
  channel : BodyChannel := .empty
  /-- The client was given an error. -/
  erred : Bool := false
  /-- The gateway's HttpResponseEnd for the stream was processed. -/
  finished : Bool := false

namespace Request

/-- The body has ended, and the client was given no error. -/
def Complete (r : Request) : Prop := r.phase = .ended ∧ r.erred = false

/-- An error goes into the channel if it has room. -/
def sendError (error : Error) (r : Request) : Request :=
  if r.phase.listening then { r with channel := (r.channel.trySend (.error error)).getD r.channel } else r

def notified (n : Notices) (r : Request) : Request :=
  let r := { r with answer := r.answer.or n.head }
  match n.body with
  | some error => r.sendError error
  | none => r

end Request

/-! ### The session -/

inductive BodyPhase where
  | offline
  | open
  /-- A data frame waits for the stream's channel. -/
  | delivering (id : StreamId) (payload : Bytes)
  /-- The session's future has ended. -/
  | ended
  deriving DecidableEq

def BodyPhase.deliversTo (id : StreamId) : BodyPhase → Bool
  | delivering j _ => j = id
  | _ => false

structure BodyState where
  connection : GatewayConnection := {}
  requests : StreamId → Request := fun _ => {}
  phase : BodyPhase := .offline

inductive BodyOp where
  | connect
  | message (message : Message)
  | data (id : StreamId) (payload : Bytes)
  /-- The wait of a data frame is over. -/
  | delivered
  | undelivered
  | lose
  | close (reason : String)
  /-- A reload stops the connections. -/
  | stop (reason : String)
  /-- The identity's other connection was refused. -/
  | stopIdentity (error : GatewayError)
  | start
  | ready (id : StreamId)
  | register (id : StreamId)
  | registerBody (id : StreamId)
  | submitted (id : StreamId)
  | refused (id : StreamId)
  | uploadEnd (id : StreamId)
  /-- HttpRequestEnd cannot be sent. -/
  | uploadRefused (id : StreamId)
  /-- The request's body cannot be read, or a part of it cannot be sent. -/
  | uploadFails (id : StreamId)
  | closeSent (id : StreamId)
  | respond (id : StreamId)
  /-- The client's body is polled: first `gateway_closed`, then the channel. -/
  | poll (id : StreamId)
  | recv (id : StreamId)
  /-- The client or the listener drops the handler, or the response's body. -/
  | dropped (id : StreamId)

namespace BodyState

def setRequest (id : StreamId) (r : Request) (s : BodyState) : BodyState :=
  { s with requests := Function.update s.requests id r }

def setPhase (id : StreamId) (phase : RequestPhase) (s : BodyState) : BodyState :=
  s.setRequest id { s.requests id with phase }

def setChannel (id : StreamId) (channel : BodyChannel) (s : BodyState) : BodyState :=
  s.setRequest id { s.requests id with channel }

def notify (notices : StreamId → Notices) (s : BodyState) : BodyState :=
  { s with requests := fun id => (s.requests id).notified (notices id) }

/-- A sending side of the stream's channel is left. -/
def hasSender (id : StreamId) (s : BodyState) : Bool :=
  id ∈ s.connection.httpBodyStreams || s.phase.deliversTo id

/-! ### The session task -/

def connect (s : BodyState) : Option BodyState :=
  if s.phase = .offline ∧ s.connection.identity = none ∧ s.connection.stopped = false then
    some { s with connection := { s.connection with closed := false }, phase := .open }
  else none

/-- The end that the gateway gives to a response. -/
def mark (message : Message) (s : BodyState) : BodyState :=
  match message with
  | .httpResponseEnd id => s.setRequest id { s.requests id with finished := true }
  | _ => s

def message (message : Message) (s : BodyState) : Option BodyState :=
  if s.phase = .open then
    match s.connection.handleGatewayMessage message with
    | .done connection notices => some (({ s with connection }.notify notices).mark message)
    | .reply _ => some s
    | .failed _ connection notices => some ({ s with connection, phase := .ended }.notify notices)
  else none

def data (id : StreamId) (payload : Bytes) (s : BodyState) : Option BodyState :=
  if s.phase = .open then
    match s.connection.target id with
    | .http =>
      if (s.requests id).phase.listening then
        match (s.requests id).channel.trySend (.ok payload) with
        | some channel => some (s.setChannel id channel)
        | none =>
          some { s.setChannel id ((s.requests id).channel.request ()) with phase := .delivering id payload }
      else some { s with connection := s.connection.removeChannel id }
    | .tcp => some s
    | .unknown =>
      some { s with connection := { s.connection with
        unknownStreams := insert id s.connection.unknownStreams } }
  else none

def delivered (s : BodyState) : Option BodyState :=
  match s.phase with
  | .delivering id payload =>
    ((s.requests id).channel.put () (.ok payload)).map fun channel =>
      { s.setChannel id channel with phase := .open }
  | _ => none

/-- The delivery's copy of the sending side goes. -/
def withdraw (s : BodyState) : BodyState :=
  match s.phase with
  | .delivering id _ => s.setChannel id ((s.requests id).channel.withdraw ())
  | _ => s

/-- The client has dropped the body. -/
def undelivered (s : BodyState) : Option BodyState :=
  match s.phase with
  | .delivering id _ =>
    if (s.requests id).phase.listening then none
    else
      some { s.withdraw with
        connection := { s.connection with httpBodyStreams := s.connection.httpBodyStreams.erase id }
        phase := .open }
  | _ => none

def lose (s : BodyState) : Option BodyState :=
  match s.phase with
  | .open | .delivering _ _ => some { s.withdraw with phase := .ended }
  | _ => none

def close (reason : String) (s : BodyState) : Option BodyState :=
  if s.phase = .ended then
    let closed := s.connection.closeGatewayConnection reason
    some ({ s with connection := closed.1, phase := .offline }.notify closed.2)
  else none

def stop (reason : String) (s : BodyState) : BodyState :=
  let closed := { s.connection with stopped := true }.closeGatewayConnection reason
  { s with connection := closed.1 }.notify closed.2

def stopIdentity (error : GatewayError) (s : BodyState) : BodyState :=
  let stopped := s.connection.stopIdentity error
  { s with connection := stopped.1 }.notify stopped.2

/-! ### The handlers -/

def start (s : BodyState) : Option BodyState :=
  let id := s.connection.streamIds
  if id + 1 < 2 ^ 64 then
    some ({ s with connection := { s.connection with streamIds := id + 1 } }.setPhase id .starting)
  else none

/-- A step of a handler that is in the phase given. -/
def inPhase (s : BodyState) (id : StreamId) (phase : RequestPhase) (next : BodyState) : Option BodyState :=
  if (s.requests id).phase = phase then some next else none

def ready (id : StreamId) (s : BodyState) : Option BodyState :=
  if s.connection.ensureGatewayOpen = .ok () then s.inPhase id .starting (s.setPhase id .ready) else none

def register (id : StreamId) (s : BodyState) : Option BodyState :=
  s.inPhase id .ready
    ({ s with connection := { s.connection with
        httpHeadWaiters := insert id s.connection.httpHeadWaiters } }.setPhase id .registering)

def registerBody (id : StreamId) (s : BodyState) : Option BodyState :=
  s.inPhase id .registering
    ({ s with connection := { s.connection with
        httpBodyStreams := insert id s.connection.httpBodyStreams } }.setPhase id .submitting)

/-- The handler takes its entries out. -/
def closeRequest (id : StreamId) (next : RequestPhase) (s : BodyState) : BodyState :=
  { s with connection := s.connection.closeRequest id }.setPhase id next

def submitted (id : StreamId) (s : BodyState) : Option BodyState :=
  s.inPhase id .submitting (s.setPhase id (.awaiting true))

def refused (id : StreamId) (s : BodyState) : Option BodyState :=
  s.inPhase id .submitting (s.closeRequest id .gone)

def uploadEnd (id : StreamId) (s : BodyState) : Option BodyState :=
  s.inPhase id (.awaiting true) (s.setPhase id (.awaiting false))

def uploadRefused (id : StreamId) (s : BodyState) : Option BodyState :=
  s.inPhase id (.awaiting true) (s.closeRequest id .gone)

def uploadFails (id : StreamId) (s : BodyState) : Option BodyState :=
  s.inPhase id (.awaiting true) (s.closeRequest id .failing)

def closeSent (id : StreamId) (s : BodyState) : Option BodyState :=
  s.inPhase id .failing (s.setPhase id .gone)

/-- The status codes that `Response::builder` takes. -/
def validStatus (status : UInt16) : Bool := 100 ≤ status.toNat && status.toNat < 1000

def answered (id : StreamId) (s : BodyState) : Option BodyState :=
  match (s.requests id).answer with
  | some (.ok head) => some (s.setPhase id (if validStatus head.status then .reading false else .gone))
  | some (.error _) => some (s.closeRequest id .gone)
  | none =>
    -- The waiter was dropped without an answer.
    if id ∈ s.connection.httpHeadWaiters then none else some (s.setPhase id .gone)

/-- A handler takes the answer also while the Close of its upload is being sent. -/
def respond (id : StreamId) (s : BodyState) : Option BodyState :=
  match (s.requests id).phase with
  | .awaiting _ | .failing => s.answered id
  | _ => none

def poll (id : StreamId) (s : BodyState) : Option BodyState :=
  s.inPhase id (.reading false)
    (match s.connection.gatewayClosed with
      | some _ => s.setRequest id { s.requests id with phase := .ended, erred := true }
      | none => s.setPhase id (.reading true))

def recv (id : StreamId) (s : BodyState) : Option BodyState :=
  s.inPhase id (.reading true)
    (match (s.requests id).channel.recv with
      | some (.ok _, channel) => s.setRequest id { s.requests id with phase := .reading false, channel }
      | some (.error _, channel) =>
        s.setRequest id { s.requests id with phase := .reading false, channel, erred := true }
      | none => s.setPhase id (if s.hasSender id then .reading false else .ended))

def dropped (id : StreamId) (s : BodyState) : Option BodyState :=
  match (s.requests id).phase with
  | .idle | .ended => none
  | _ => some (s.setPhase id .gone)

end BodyState

def responseBodies : Machine BodyState BodyOp where
  Initial := fun s => s = {}
  step
    | .connect, s => s.connect
    | .message m, s => s.message m
    | .data id payload, s => s.data id payload
    | .delivered, s => s.delivered
    | .undelivered, s => s.undelivered
    | .lose, s => s.lose
    | .close reason, s => s.close reason
    | .stop reason, s => some (s.stop reason)
    | .stopIdentity error, s => some (s.stopIdentity error)
    | .start, s => s.start
    | .ready id, s => s.ready id
    | .register id, s => s.register id
    | .registerBody id, s => s.registerBody id
    | .submitted id, s => s.submitted id
    | .refused id, s => s.refused id
    | .uploadEnd id, s => s.uploadEnd id
    | .uploadRefused id, s => s.uploadRefused id
    | .uploadFails id, s => s.uploadFails id
    | .closeSent id, s => s.closeSent id
    | .respond id, s => s.respond id
    | .poll id, s => s.poll id
    | .recv id, s => s.recv id
    | .dropped id, s => s.dropped id

end WsNet.Access
