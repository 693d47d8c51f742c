import WsNet.Common.SecureChannel
import WsNet.Relay.LocalSide
import WsNet.Relay.TargetSide

/-! The pipeline from the local sockets to the targets and back.

All streams share the connection. What their handlers put into the queue, the access's
writer joins and encrypts; the gateway decrypts it, and its session hands it to the
tasks of the streams. What the tasks and the session put into their queue goes back the
same way. Each session of the connection has its own ciphers and its own tasks, and both
ends take their steps in any order, with those of a session that is over among them.

A frame may be any bytes, which includes the ones that a WebSocket delivers in order. -/
namespace WsNet.Relay
open Access Crypto Data Transition

/-- A session: its ciphers, and the gateway's end. -/
structure Session where
  channel : SecureChannel.State
  target : TargetSide := {}
  writer : WriterLoop

/-- What happens at the gateway's end of a session. -/
inductive FarOp where
  /-- A frame comes. -/
  | receive (frame : Bytes)
  | target (op : TargetOp)
  | writer (op : LoopOp)
  /-- A seal under a key that the session does not use. -/
  | foreign (r : Sealed)

structure Pipeline where
  near : LocalSide := {}
  /-- The sessions by their number. -/
  sessions : Nat → Session

inductive PipelineOp where
  | near (op : LocalOp)
  /-- The access's writer encrypts a message, and the sink takes it. -/
  | feed
  /-- A frame comes; whether the receiver of a response's body is gone. -/
  | receive (frame : Bytes) (bodyGone : Bool)
  | far (k : Nat) (op : FarOp)

section Model
variable [Aead] [MessageCodec]

/-! ### The gateway's end -/

namespace Session

/-- What is in the queue. -/
def queue (x : Session) : List WsMessage := x.target.produced.drop x.writer.received.length

/-- With the lease cancelled, an error is left to its branch. -/
def receive (frame : Bytes) (x : Session) : Option Session :=
  match (x.channel.gateway.decryptFromAccess x.channel.log frame).1 with
  | .ok m =>
    (x.target.receive m).map fun target => { x with target, channel := x.channel.decryptFromAccess frame }
  | .error _ =>
    if x.target.tunnel.point = .select then
      if x.target.tunnel.lease = none then
        (x.target.tunnelStep .finish).map fun target => { x with target }
      else some x
    else none

/-- The receiving side of the queue goes with the writer. -/
def targetAllows (op : TargetOp) (x : Session) : Bool :=
  match op with
  | .receive _ => false
  | .tunnel .writerEnds => x.writer.phase = .ended
  | _ => true

/-- The lease is the writer's too. -/
def writerAfter (op : TargetOp) (w : WriterLoop) : WriterLoop :=
  match op with
  | .tunnel (.cancelLease _) => { w with canceled := true }
  | _ => w

def targetStep (op : TargetOp) (x : Session) : Option Session :=
  if x.targetAllows op then
    (targetSide.step op x.target).map fun target => { x with target, writer := writerAfter op x.writer }
  else none

/-- The queue gives what is first in it, and is closed when the session is over. -/
def writerAllows (op : LoopOp) (x : Session) : Bool :=
  match op with
  | .cancel => false
  | .recv answer => answer = x.queue.head? ∧ (answer = none → x.target.tunnel.point = .ended)
  | .tryRecv answer => answer = x.queue.head?
  | .drop => x.target.tunnel.point = .ended
  | _ => true

/-- What the writer encrypts next. -/
def sealing (op : LoopOp) (w : WriterLoop) : Option (TunnelFrameKind × Bytes) :=
  match op, w.phase with
  | .feed, .writing (message :: _) => message.sealedAs
  | _, _ => none

/-- The writer shares its cipher with the session task, which decrypts. -/
def writerStep (op : LoopOp) (x : Session) : Option Session :=
  if x.writerAllows op then
    ((writerLoop .gateway).step op { x.writer with cipher := x.channel.gateway }).map fun writer =>
      { x with
        writer
        channel := (sealing op x.writer).elim x.channel fun r => x.channel.encryptFromGateway r.1 r.2 }
  else none

def foreign (r : Sealed) (x : Session) : Option Session :=
  (SecureChannel.channel.step (.foreign r) x.channel).map fun channel => { x with channel }

def step : FarOp → Session → Option Session
  | .receive frame => receive frame
  | .target op => targetStep op
  | .writer op => writerStep op
  | .foreign r => foreign r

end Session

/-! ### The access's end -/

namespace Pipeline

def setSession (k : Nat) (x : Session) (s : Pipeline) : Pipeline :=
  { s with sessions := Function.update s.sessions k x }

/-- The ciphers of the session that runs. -/
def channel (s : Pipeline) : SecureChannel.State := (s.sessions s.near.link.sessions).channel

def setChannel (channel : SecureChannel.State) (s : Pipeline) : Pipeline :=
  let k := s.near.link.sessions
  s.setSession k { s.sessions k with channel }

/-- What comes with the ciphers is no step of the access alone. -/
def nearAllows : LocalOp → Bool
  | .receive _ _ | .link (.writer .feed) => false
  | _ => true

def nearStep (op : LocalOp) (s : Pipeline) : Option Pipeline :=
  if nearAllows op then (localSide.step op s.near).map fun near => { s with near } else none

/-- A message that cannot be encrypted ends the session. A frame that the sink does not
take goes with the session, and is not sent at all. -/
def feed (s : Pipeline) : Option Pipeline :=
  match s.near.link.writer.phase with
  | .writing (message :: _) =>
    match encryptAccessMessage s.channel.access message with
    | .ok _ =>
      (s.near.linkStep (.writer .feed)).map fun near =>
        { s.setChannel (message.sealedAs.elim s.channel fun r => s.channel.encryptFromAccess r.1 r.2) with near }
    | .error _ => (s.near.linkStep .lose).map fun near => { s with near }
  | _ => none

def receive (frame : Bytes) (bodyGone : Bool) (s : Pipeline) : Option Pipeline :=
  match (s.channel.access.decryptFromGateway s.channel.log frame).1 with
  | .ok m =>
    (s.near.receive m bodyGone).map fun near =>
      { s.setChannel (s.channel.decryptFromGateway frame) with near }
  | .error _ =>
    if s.near.link.phase = .open ∧ s.near.delivering = none then some { s with near := s.near.lose }
    else none

/-- The gateway's end is there once the session is opened. -/
def far (k : Nat) (op : FarOp) (s : Pipeline) : Option Pipeline :=
  if 0 < k ∧ k ≤ s.near.link.sessions then ((s.sessions k).step op).map fun x => s.setSession k x else none

end Pipeline

/-- Each session starts with a pair of ciphers of the same keys. -/
def Session.Fresh (x : Session) : Prop :=
  SecureChannel.channel.Initial x.channel ∧ x.target = {} ∧ ∃ cipher, x.writer = { cipher }

def pipeline : Machine Pipeline PipelineOp where
  Initial := fun s => s.near = {} ∧ ∀ k, (s.sessions k).Fresh
  step
    | .near op, s => s.nearStep op
    | .feed, s => s.feed
    | .receive frame bodyGone, s => s.receive frame bodyGone
    | .far k op, s => s.far k op

end Model

end WsNet.Relay
