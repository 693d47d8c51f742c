import WsNet.Gateway.Tunnel
import WsNet.Relay.Events

/-! The gateway's end of the pipeline, in one session.

Under it lies the session task with the tasks of its streams (`tunnel`). Added to it
are what a TCP task reads from its target and writes to it, what the session has
decrypted, and what it and its tasks have put into the queue of the writer. -/
namespace WsNet.Relay
open Gateway Data Transition

/-- `TCP_BUFFER_SIZE` of the gateway. -/
def targetBufferSize : Nat := 64 * 1024

structure TargetSocket where
  read : Bytes := []
  written : Bytes := []
  /-- What `write_all` has still to write. -/
  writing : Option Bytes := none
  /-- The channel was found empty with no sender left. -/
  drained : Bool := false
  deriving DecidableEq

structure TargetSide where
  tunnel : TunnelState := {}
  /-- The sockets of the tasks. -/
  sockets : Nat → TargetSocket := fun _ => {}
  /-- What the session has decrypted. -/
  consumed : List (TunnelFrameKind × Bytes) := []
  /-- What was put into the queue. -/
  produced : List WsMessage := []

inductive TargetOp where
  /-- A frame is decrypted; its handling begins. -/
  | receive (m : TunnelFrameKind × Bytes)
  | tunnel (op : TunnelOp)
  | task (n : Nat) (op : TaskOp)
  /-- Reading fails, and what was read before is dropped. -/
  | targetFails (n : Nat) (error : String) (lost : Bytes)
  | writeSome (n : Nat) (count : Nat)

namespace TargetSide
variable [MessageCodec]

def setSocket (n : Nat) (k : TargetSocket) (s : TargetSide) : TargetSide :=
  { s with sockets := Function.update s.sockets n k }

/-! ### The session task -/

/-- What cannot be decoded as a message ends the session; as a data frame, it is nothing. -/
def handle (m : TunnelFrameKind × Bytes) (s : TargetSide) : Option TunnelState :=
  match m with
  | (.text, bytes) =>
    match (textOf bytes).bind decodeMessage with
    | some message => s.tunnel.message message
    | none => if s.tunnel.lease = none then s.tunnel.finish else none
  | (.binary, frame) =>
    match decodeDataFrame frame with
    | some r => s.tunnel.data r.1 r.2
    | none => s.tunnel.atSelect s.tunnel

def receive (m : TunnelFrameKind × Bytes) (s : TargetSide) : Option TargetSide :=
  if s.tunnel.point = .select then
    (s.handle m).map fun tunnel => { s with tunnel, consumed := s.consumed ++ [m] }
  else none

/-- What the session task itself sends. -/
def reply (s : TargetSide) : List WsMessage :=
  match s.tunnel.point with
  | .sending m _ => [.text (encodeMessage m)]
  | .pinging => [.text (encodeMessage .ping)]
  | _ => []

/-- What comes with the rest of the pipeline is no step here. -/
def allows : TunnelOp → Bool
  | .message _ | .data _ _ | .task _ _ => false
  | _ => true

def afterTunnel (op : TunnelOp) (s : TargetSide) (tunnel : TunnelState) : TargetSide :=
  match op with
  | .replied => { s with tunnel, produced := s.produced ++ s.reply }
  | _ => { s with tunnel }

def tunnelStep (op : TunnelOp) (s : TargetSide) : Option TargetSide :=
  if allows op then (Gateway.tunnel.step op s.tunnel).map (s.afterTunnel op) else none

/-! ### The tasks and their sockets -/

/-- What the task's socket allows. -/
def ready (n : Nat) (op : TaskOp) (s : TargetSide) : Bool :=
  match op, (s.tunnel.tasks n).phase with
  | .readTarget payload, _ => payload ≠ [] ∧ payload.length ≤ targetBufferSize
  | .targetFails _, _ => false
  | .wrote, .writing _ => (s.sockets n).writing = some []
  | _, _ => true

/-- What a step of its task does to a socket. -/
def socketAfter (n : Nat) (op : TaskOp) (s : TargetSide) : TargetSocket :=
  let k := s.sockets n
  match op with
  | .readTarget payload => { k with read := k.read ++ payload }
  | .recv =>
    match (s.tunnel.tasks n).channel.recv with
    | some (payload, _) => { k with writing := some payload }
    | none => { k with drained := true }
  | .wrote => { k with writing := none }
  | _ => k

def sentBy (n : Nat) (op : TaskOp) (s : TargetSide) : List WsMessage :=
  match op with
  | .sent => (s.tunnel.tasks n).sends.toList.map Outgoing.wsMessage
  | _ => []

def task (n : Nat) (op : TaskOp) (s : TargetSide) : Option TargetSide :=
  if s.ready n op then
    (s.tunnel.task n op).map fun tunnel =>
      { s.setSocket n (s.socketAfter n op) with tunnel, produced := s.produced ++ s.sentBy n op }
  else none

def targetFails (n : Nat) (error : String) (lost : Bytes) (s : TargetSide) : Option TargetSide :=
  (s.tunnel.task n (.targetFails error)).map fun tunnel =>
    { s with tunnel }.setSocket n { s.sockets n with read := (s.sockets n).read ++ lost }

def writeSome (n : Nat) (count : Nat) (s : TargetSide) : Option TargetSide :=
  let k := s.sockets n
  match (s.tunnel.tasks n).phase, k.writing with
  | .writing _, some rest =>
    if (s.tunnel.tasks n).awake then
      some (s.setSocket n
        { k with written := k.written ++ rest.take count, writing := some (rest.drop count) })
    else none
  | _, _ => none

end TargetSide

section Machine
variable [MessageCodec]

def targetSide : Machine TargetSide TargetOp where
  Initial := fun s => s = {}
  step
    | .receive m, s => s.receive m
    | .tunnel op, s => s.tunnelStep op
    | .task n op, s => s.task n op
    | .targetFails n error lost, s => s.targetFails n error lost
    | .writeSome n count, s => s.writeSome n count

end Machine

end WsNet.Relay
