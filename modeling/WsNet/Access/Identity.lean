import Mathlib.Data.List.Basic
import WsNet.Common.TunnelCrypto
import WsNet.Transition.Machine

/-! Connections of one identity.

Connections to one gateway URL with one pair of tokens share an identity, which the
process keeps for good. A terminal error blocks the identity and stops its
connections, while their tasks, a reload and the handlers go on.

Steps are as fine as the shared accesses: a load, a store, or a region under a lock
that no other access to the same data can split. The lock of `blocked` is held over
several steps where a connection opens, since `stopped` is not behind it. What a
connection carries, and the pauses between its retries, are left out. -/
namespace WsNet.Access
open Transition

/-! ### The registry of identities -/

structure Url where
  scheme : String
  host : Option String
  /-- The URL as it is written out. -/
  text : String
  deriving DecidableEq, Repr

/-- `Url::parse`. -/
class UrlParser where
  parse : String → Option Url

/-- A URL that is written as it was read: enough to run a client. -/
@[reducible] def UrlParser.plain : UrlParser where
  parse := fun value => some ⟨String.ofList (value.toList.takeWhile (· ≠ ':')), some value, value⟩

abbrev IdentityKey := String × String

structure AccessIdentity where
  blocked : Option GatewayError := none
  /-- The connection whose task holds the lock of `blocked` between two steps. -/
  holder : Option Nat := none
  connections : List Nat := []

/-- The key under which `AccessRuntime::identity` finds or makes the identity. -/
def identityKey [Ring] [UrlParser] (serverUrl token : String) (userToken : Option String) :
    Except Error IdentityKey := do
  let url ← orError (UrlParser.parse serverUrl) (.other "网关地址格式错误")
  ensure ((url.scheme = "ws" ∨ url.scheme = "wss") ∧ url.host.isSome)
    (.other "网关地址必须使用 ws 或 wss，并包含主机地址")
  return (url.text, accessCredentialId token userToken)

/-! ### The state -/

/-- Where a `stop_identity` that has set the error stands. -/
inductive StopStage where
  | snapshot
  | next (rest : List Nat)
  /-- The connection is marked as stopped. -/
  | marked (connection : Nat) (rest : List Nat)
  deriving DecidableEq

/-- Where the task of a connection stands in `run_gateway_connection`. -/
inductive RunPhase where
  /-- At the head of the loop. -/
  | head
  /-- `stopped` was read unset. -/
  | unstopped
  /-- In the session, which has not opened the connection. -/
  | connecting
  /-- The lock is held: the identity has no error. -/
  | guarded
  /-- The lock is held, and `stopped` was read unset. -/
  | opening
  /-- The lock is held, and the connection is open. -/
  | opened
  | serving
  /-- The session has read a terminal error of the gateway. -/
  | kicked (error : GatewayError)
  /-- The session's result, or that of the branch that ended it. -/
  | ended (result : Except Error Unit)
  | stopping (error : GatewayError) (inSession : Bool) (stage : StopStage)
  | closing
  | closed
  /-- Closed, with `stopped` read unset. -/
  | kept
  | retrying
  | waiting
  /-- Out of the loop. -/
  | leaving
  | gone
  deriving DecidableEq

structure ClientConnection where
  identity : IdentityKey := ("", "")
  closed : Bool := true
  stopped : Bool := false
  reconnectRequested : Bool := false
  phase : RunPhase := .gone
  /-- Nothing refers to the connection any more. -/
  dropped : Bool := true

structure Client where
  identities : IdentityKey → AccessIdentity := fun _ => {}
  connections : Nat → ClientConnection := fun _ => {}
  created : Nat := 0

namespace Client

def phase (c : Nat) (s : Client) : RunPhase := (s.connections c).phase

/-- The identity of a connection. -/
def identityOf (c : Nat) (s : Client) : AccessIdentity := s.identities (s.connections c).identity

def setConnection (c : Nat) (x : ClientConnection) (s : Client) : Client :=
  { s with connections := Function.update s.connections c x }

def setPhase (c : Nat) (p : RunPhase) (s : Client) : Client :=
  s.setConnection c { s.connections c with phase := p }

def setReconnect (c : Nat) (requested : Bool) (s : Client) : Client :=
  s.setConnection c { s.connections c with reconnectRequested := requested }

def setStopped (c : Nat) (s : Client) : Client :=
  s.setConnection c { s.connections c with stopped := true }

def setClosed (c : Nat) (closed : Bool) (s : Client) : Client :=
  s.setConnection c { s.connections c with closed }

def setIdentity (k : IdentityKey) (i : AccessIdentity) (s : Client) : Client :=
  { s with identities := Function.update s.identities k i }

def setHolder (c : Nat) (holder : Option Nat) (s : Client) : Client :=
  s.setIdentity (s.connections c).identity { s.identityOf c with holder }

/-! ### The loop -/

/-- `connection.stopped.load`. -/
def check (c : Nat) (s : Client) : Option Client :=
  match s.phase c with
  | .head => some (s.setPhase c (if (s.connections c).stopped then .leaving else .unstopped))
  | _ => none

/-- `identity.error()`, which waits for the lock. -/
def readError (c : Nat) (s : Client) : Option Client :=
  match s.phase c, (s.identityOf c).holder with
  | .unstopped, none =>
    some (s.setPhase c (if (s.identityOf c).blocked.isSome then .leaving else .connecting))
  | _, _ => none

/-- In a session. -/
def inSession : RunPhase → Bool
  | .connecting | .serving => true
  | _ => false

/-- The branch of `identity.cancelled()`. -/
def cancelled (c : Nat) (s : Client) : Option Client :=
  match inSession (s.phase c), (s.identityOf c).holder, (s.identityOf c).blocked with
  | true, none, some error => some (s.setPhase c (.ended (.error (.gateway error))))
  | _, _, _ => none

/-- The branch of `gateway_stopped`. -/
def observeStopped (c : Nat) (s : Client) : Option Client :=
  if inSession (s.phase c) ∧ (s.connections c).stopped then some (s.setPhase c (.ended (.ok ())))
  else none

/-- The session's own end: a handshake that fails, a lost transport, a requested reconnect. -/
def endSession (c : Nat) (result : Except Error Unit) (s : Client) : Option Client :=
  if inSession (s.phase c) then some (s.setPhase c (.ended result)) else none

/-! ### The open transition -/

/-- The lock of `blocked`, and the error behind it. -/
def enter (c : Nat) (s : Client) : Option Client :=
  match s.phase c, (s.identityOf c).holder with
  | .connecting, none =>
    match (s.identityOf c).blocked with
    | some error => some (s.setPhase c (.ended (.error (.gateway error))))
    | none => some ((s.setHolder c (some c)).setPhase c .guarded)
  | _, _ => none

def loadStopped (c : Nat) (s : Client) : Option Client :=
  match s.phase c with
  | .guarded =>
    if (s.connections c).stopped then
      some ((s.setHolder c none).setPhase c (.ended (.error (.other "网关连接已停止"))))
    else some (s.setPhase c .opening)
  | _ => none

def storeOpen (c : Nat) (s : Client) : Option Client :=
  match s.phase c with
  | .opening => some ((s.setClosed c false).setPhase c .opened)
  | _ => none

/-- The request to reconnect is forgotten and the lock released. -/
def release (c : Nat) (s : Client) : Option Client :=
  match s.phase c with
  | .opened => some (((s.setReconnect c false).setHolder c none).setPhase c .serving)
  | _ => none

/-! ### Terminal errors -/

/-- A terminal error of the gateway for the session as a whole. -/
def kick (c : Nat) (error : GatewayError) (s : Client) : Option Client :=
  if s.phase c = .serving ∧ error.terminal then some (s.setPhase c (.kicked error)) else none

def terminalError : Except Error Unit → Option GatewayError
  | .error e => e.gatewayError.filter (·.terminal)
  | .ok () => none

/-- The `stop_identity` that comes next: its error, and whether the session calls it. -/
def stopCall : RunPhase → Option (GatewayError × Bool)
  | .kicked error => some (error, true)
  | .ended result => (terminalError result).map fun error => (error, false)
  | _ => none

/-- Where the caller goes on. -/
def afterStop (error : GatewayError) (inSession : Bool) : RunPhase :=
  if inSession then .ended (.error (.gateway error)) else .closing

/-- The first region of `stop_identity`: the first error stays. -/
def block (c : Nat) (s : Client) : Option Client :=
  match stopCall (s.phase c), (s.identityOf c).holder with
  | some (error, inSession), none =>
    if (s.identityOf c).blocked.isSome then some (s.setPhase c (afterStop error inSession))
    else
      some ((s.setIdentity (s.connections c).identity
        { s.identityOf c with blocked := some error }).setPhase c (.stopping error inSession .snapshot))
  | _, _ => none

/-- The connections that can be upgraded. -/
def snapshot (c : Nat) (s : Client) : Option Client :=
  match s.phase c with
  | .stopping error inSession .snapshot =>
    some (s.setPhase c (.stopping error inSession
      (.next ((s.identityOf c).connections.filter fun d => !(s.connections d).dropped))))
  | _ => none

def mark (c : Nat) (s : Client) : Option Client :=
  match s.phase c with
  | .stopping error inSession (.next (d :: rest)) =>
    some ((s.setStopped d).setPhase c (.stopping error inSession (.marked d rest)))
  | _ => none

/-- `close_gateway_connection`. -/
def shut (c : Nat) (s : Client) : Option Client :=
  match s.phase c with
  | .stopping error inSession (.marked d rest) =>
    some ((s.setClosed d true).setPhase c (.stopping error inSession (.next rest)))
  | _ => none

/-- `stop_identity` returns, having set the error. -/
def stopReturn (c : Nat) (s : Client) : Option Client :=
  match s.phase c with
  | .stopping error inSession (.next []) => some (s.setPhase c (afterStop error inSession))
  | _ => none

/-- A result that is no terminal error. -/
def settle (c : Nat) (s : Client) : Option Client :=
  match s.phase c with
  | .ended result => if terminalError result = none then some (s.setPhase c .closing) else none
  | _ => none

/-! ### After a session -/

def close (c : Nat) (s : Client) : Option Client :=
  match s.phase c with
  | .closing => some ((s.setClosed c true).setPhase c .closed)
  | _ => none

def recheck (c : Nat) (s : Client) : Option Client :=
  match s.phase c with
  | .closed => some (s.setPhase c (if (s.connections c).stopped then .leaving else .kept))
  | _ => none

def reread (c : Nat) (s : Client) : Option Client :=
  match s.phase c, (s.identityOf c).holder with
  | .kept, none =>
    some (s.setPhase c (if (s.identityOf c).blocked.isSome then .leaving else .retrying))
  | _, _ => none

/-- `reconnect_requested.swap(false)`. -/
def swap (c : Nat) (s : Client) : Option Client :=
  match s.phase c with
  | .retrying =>
    some ((s.setReconnect c false).setPhase c
      (if (s.connections c).reconnectRequested then .head else .waiting))
  | _ => none

/-- The pause is over. -/
def wake (c : Nat) (s : Client) : Option Client :=
  match s.phase c with
  | .waiting => some (s.setPhase c .head)
  | _ => none

/-- The pause is cut short by a request. -/
def notified (c : Nat) (s : Client) : Option Client :=
  match s.phase c with
  | .waiting => some ((s.setReconnect c false).setPhase c .head)
  | _ => none

/-- The pause is cut short by the identity's error. -/
def giveUp (c : Nat) (s : Client) : Option Client :=
  match s.phase c, (s.identityOf c).holder, (s.identityOf c).blocked with
  | .waiting, none, some _ => some (s.setPhase c .leaving)
  | _, _, _ => none

def leave (c : Nat) (s : Client) : Option Client :=
  match s.phase c with
  | .leaving => some ((s.setClosed c true).setPhase c .gone)
  | _ => none

/-- The last reference to a connection whose task has ended. -/
def drop (c : Nat) (s : Client) : Option Client :=
  match s.phase c with
  | .gone => some (s.setConnection c { s.connections c with dropped := true })
  | _ => none

/-! ### The rest of the process -/

section Start
variable [Ring] [UrlParser]

/-- `start_gateway_connection`, which adds the connection to its identity's list before
its task is spawned. -/
def start (serverUrl token : String) (userToken : Option String) (s : Client) : Option Client :=
  match identityKey serverUrl token userToken with
  | .error _ => none
  | .ok key =>
    let i := s.identities key
    let alive := i.connections.filter fun d => !(s.connections d).dropped
    some { s.setConnection s.created { identity := key, phase := .head, dropped := false } with
      identities := Function.update s.identities key { i with connections := alive ++ [s.created] }
      created := s.created + 1 }

end Start

/-- A reload stops a connection: first the flag. -/
def reloadStop (c : Nat) (s : Client) : Option Client :=
  if c < s.created then some (s.setStopped c) else none

def reloadClose (c : Nat) (s : Client) : Option Client :=
  if (s.connections c).stopped then some (s.setClosed c true) else none

/-- A handler's request, which read the flags some time before. -/
def requestReconnect (c : Nat) (s : Client) : Option Client :=
  if c < s.created then some (s.setReconnect c true) else none

end Client

/-! ### The machine -/

/-- A step of a connection's task; the last is of those that refer to the connection. -/
inductive RunOp where
  | check | readError | cancelled | observeStopped
  | endSession (result : Except Error Unit)
  | enter | loadStopped | storeOpen | release
  | kick (error : GatewayError)
  | block | snapshot | mark | shut | stopReturn | settle
  | close | recheck | reread | swap | wake | notified | giveUp | leave | drop

inductive ClientOp where
  | start (serverUrl token : String) (userToken : Option String)
  | run (connection : Nat) (op : RunOp)
  | reloadStop (connection : Nat)
  | reloadClose (connection : Nat)
  | requestReconnect (connection : Nat)

def Client.run (c : Nat) : RunOp → Client → Option Client
  | .check => Client.check c
  | .readError => Client.readError c
  | .cancelled => Client.cancelled c
  | .observeStopped => Client.observeStopped c
  | .endSession result => Client.endSession c result
  | .enter => Client.enter c
  | .loadStopped => Client.loadStopped c
  | .storeOpen => Client.storeOpen c
  | .release => Client.release c
  | .kick error => Client.kick c error
  | .block => Client.block c
  | .snapshot => Client.snapshot c
  | .mark => Client.mark c
  | .shut => Client.shut c
  | .stopReturn => Client.stopReturn c
  | .settle => Client.settle c
  | .close => Client.close c
  | .recheck => Client.recheck c
  | .reread => Client.reread c
  | .swap => Client.swap c
  | .wake => Client.wake c
  | .notified => Client.notified c
  | .giveUp => Client.giveUp c
  | .leave => Client.leave c
  | .drop => Client.drop c

def client [Ring] [UrlParser] : Machine Client ClientOp where
  Initial := fun s => s = {}
  step
    | .start serverUrl token userToken => Client.start serverUrl token userToken
    | .run c op => Client.run c op
    | .reloadStop c => Client.reloadStop c
    | .reloadClose c => Client.reloadClose c
    | .requestReconnect c => Client.requestReconnect c

end WsNet.Access
