import Mathlib.Data.Finset.Card
import WsNet.Common.Error
import WsNet.Common.Message

/-! The access's connection to a gateway: the flags and maps that the session task,
the stream handlers and a reload share.

An entry of a map is the sending side of a stream's channel. The connection holds
the entries only; the receiving sides belong to the streams' handlers, and what an
operation sends into them is its `Notices`. Nothing inserts into the source's
`http_waiters`, which is left out. -/
namespace WsNet.Access

structure GatewayConnection where
  /-- The identity's `blocked` error. -/
  identity : Option GatewayError := none
  closed : Bool := true
  stopped : Bool := false
  streamIds : StreamId := 1
  tcpStreams : Finset StreamId := ∅
  openWaiters : Finset StreamId := ∅
  httpHeadWaiters : Finset StreamId := ∅
  httpBodyStreams : Finset StreamId := ∅
  unknownStreams : Finset StreamId := ∅
  deriving DecidableEq

/-- How much a connection carries, as the choice among connections counts it. -/
def connectionLoad (c : GatewayConnection) : Nat :=
  c.tcpStreams.card + c.openWaiters.card + c.httpHeadWaiters.card + c.httpBodyStreams.card

/-- What a stream's handler is sent: an answer to its Open or to its request, and an
error at the end of the response's body. -/
structure Notices where
  opened : Option (Except GatewayError Unit) := none
  head : Option (Except GatewayError HttpResponseHead) := none
  body : Option Error := none

/-- The notices of one stream. -/
def Notices.only (id : StreamId) (n : Notices) : StreamId → Notices := fun j => if j = id then n else {}

def Notices.nothing : StreamId → Notices := fun _ => {}

@[simp] theorem Notices.only_self (id : StreamId) (n : Notices) : Notices.only id n id = n := if_pos rfl

theorem Notices.only_ne {id j : StreamId} (n : Notices) (h : j ≠ id) : Notices.only id n j = {} :=
  if_neg h

namespace GatewayConnection

/-- The value, if the stream has an entry in the map. -/
def ifIn {α : Type} (map : Finset StreamId) (id : StreamId) (a : α) : Option α :=
  if id ∈ map then some a else none

theorem ifIn_eq_some {α : Type} {map : Finset StreamId} {id : StreamId} {a b : α} :
    ifIn map id a = some b ↔ id ∈ map ∧ a = b := by
  unfold ifIn
  split <;> simp_all

/-! ### The open check -/

def ensureGatewayOpen (c : GatewayConnection) : Except Error Unit :=
  match c.identity with
  | some error => .error (.gateway error)
  | none => if c.closed then .error (.gateway (.network "网关连接已断开")) else .ok ()

theorem ensureGatewayOpen_ok {c : GatewayConnection} :
    c.ensureGatewayOpen = .ok () ↔ c.identity = none ∧ c.closed = false := by
  unfold ensureGatewayOpen
  cases c.identity with
  | some error => simp
  | none => cases c.closed <;> simp

/-- The check of `gateway_closed`: the error with which a waiting handler ends. -/
def gatewayClosed (c : GatewayConnection) : Option GatewayError :=
  match c.identity with
  | some error => some error
  | none =>
    if c.closed || c.stopped then some (.network "网关会话已结束，当前业务连接已关闭") else none

theorem gatewayClosed_none {c : GatewayConnection} :
    c.gatewayClosed = none ↔ c.identity = none ∧ c.closed = false ∧ c.stopped = false := by
  unfold gatewayClosed
  cases c.identity with
  | some error => simp
  | none => cases c.closed <;> cases c.stopped <;> simp

/-! ### Closing -/

/-- The notices of a connection that is closed, for the reason given. -/
def closeNotices (reason : String) (c : GatewayConnection) : StreamId → Notices := fun id =>
  { opened := ifIn c.openWaiters id (.error (c.identity.getD (.network reason)))
    head := ifIn c.httpHeadWaiters id (.error (c.identity.getD (.network reason)))
    body := ifIn c.httpBodyStreams id (.other reason) }

def closeGatewayConnection (reason : String) (c : GatewayConnection) :
    GatewayConnection × (StreamId → Notices) :=
  if c.closed then (c, Notices.nothing)
  else
    ({ c with
        closed := true, tcpStreams := ∅, unknownStreams := ∅, openWaiters := ∅
        httpHeadWaiters := ∅, httpBodyStreams := ∅ },
      c.closeNotices reason)

/-- `stop_identity`, as far as this connection goes: the first error stays. -/
def stopIdentity (error : GatewayError) (c : GatewayConnection) :
    GatewayConnection × (StreamId → Notices) :=
  if c.identity.isSome then (c, Notices.nothing)
  else ({ c with identity := some error, stopped := true } : GatewayConnection).closeGatewayConnection
    error.message

/-! ### The messages of the gateway -/

inductive Handled where
  | done (connection : GatewayConnection) (notices : StreamId → Notices)
  /-- A message to send back. -/
  | reply (message : Message)
  /-- The session ends. -/
  | failed (error : Error) (connection : GatewayConnection) (notices : StreamId → Notices)

/-- The entries of a stream that `Close` takes out. -/
def closeStream (id : StreamId) (c : GatewayConnection) : GatewayConnection :=
  { c with
    tcpStreams := c.tcpStreams.erase id
    openWaiters := c.openWaiters.erase id
    httpHeadWaiters := c.httpHeadWaiters.erase id
    httpBodyStreams := c.httpBodyStreams.erase id }

/-- The entries of a stream that `Error` takes out. -/
def failStream (id : StreamId) (c : GatewayConnection) : GatewayConnection :=
  { c with
    openWaiters := c.openWaiters.erase id
    httpHeadWaiters := c.httpHeadWaiters.erase id
    httpBodyStreams := c.httpBodyStreams.erase id }

/-- The entries of a request that its handler takes out. -/
def closeRequest (id : StreamId) (c : GatewayConnection) : GatewayConnection :=
  { c with
    httpHeadWaiters := c.httpHeadWaiters.erase id
    httpBodyStreams := c.httpBodyStreams.erase id }

/-- An error for each entry of a stream. -/
def errorNotices (id : StreamId) (error : GatewayError) (body : Error) (c : GatewayConnection) : Notices :=
  { opened := ifIn c.openWaiters id (.error error)
    head := ifIn c.httpHeadWaiters id (.error error)
    body := ifIn c.httpBodyStreams id body }

def handleGatewayMessage (message : Message) (c : GatewayConnection) : Handled :=
  match message with
  | .openOk id =>
    .done { c with openWaiters := c.openWaiters.erase id }
      (Notices.only id { opened := ifIn c.openWaiters id (.ok ()) })
  | .httpResponseStart id response =>
    .done { c with httpHeadWaiters := c.httpHeadWaiters.erase id }
      (Notices.only id { head := ifIn c.httpHeadWaiters id (.ok response) })
  | .httpResponseEnd id =>
    .done { c with httpBodyStreams := c.httpBodyStreams.erase id } Notices.nothing
  | .close id _ =>
    .done (c.closeStream id)
      (Notices.only id (c.errorNotices id (.network "连接已关闭") (.other "业务连接已关闭")))
  | .tcpEof id => .done { c with tcpStreams := c.tcpStreams.erase id } Notices.nothing
  | .error none code text =>
    let error : GatewayError := ⟨code, text⟩
    let (c, notices) := if error.terminal then c.stopIdentity error else (c, Notices.nothing)
    .failed (.gateway error) c notices
  | .error (some id) code text =>
    let error : GatewayError := ⟨code, text⟩
    .done (c.failStream id) (Notices.only id (c.errorNotices id error (.gateway error)))
  | .ping => .reply .pong
  | .httpResponse _ _ | .pong => .done c Notices.nothing
  | _ => .failed (.other "网关发送了不合法的消息类型") c Notices.nothing

/-- Where a data frame goes. -/
inductive Target where
  | http
  | tcp
  | unknown
  deriving DecidableEq

def target (id : StreamId) (c : GatewayConnection) : Target :=
  if id ∈ c.httpBodyStreams then .http else if id ∈ c.tcpStreams then .tcp else .unknown

/-- The entry that a data frame went to goes. -/
def removeChannel (id : StreamId) (c : GatewayConnection) : GatewayConnection :=
  match c.target id with
  | .http => { c with httpBodyStreams := c.httpBodyStreams.erase id }
  | _ => { c with tcpStreams := c.tcpStreams.erase id }

theorem target_eq_http {c : GatewayConnection} {id : StreamId} : c.target id = .http ↔ id ∈ c.httpBodyStreams := by
  unfold target
  split
  · simp_all
  · split <;> simp_all

theorem target_eq_tcp {c : GatewayConnection} {id : StreamId} :
    c.target id = .tcp ↔ id ∉ c.httpBodyStreams ∧ id ∈ c.tcpStreams := by
  unfold target
  split
  · simp_all
  · split <;> simp_all

theorem target_ne_unknown {c : GatewayConnection} {id : StreamId} :
    c.target id ≠ .unknown ↔ id ∈ c.httpBodyStreams ∨ id ∈ c.tcpStreams := by
  unfold target
  split
  · simp_all
  · split <;> simp_all

section RemoveChannel
variable (id : StreamId) (c : GatewayConnection)

@[simp] theorem removeChannel_closed : (c.removeChannel id).closed = c.closed := by
  unfold removeChannel
  split <;> rfl

@[simp] theorem removeChannel_ensureGatewayOpen :
    (c.removeChannel id).ensureGatewayOpen = c.ensureGatewayOpen := by
  unfold removeChannel
  split <;> rfl

@[simp] theorem removeChannel_openWaiters : (c.removeChannel id).openWaiters = c.openWaiters := by
  unfold removeChannel
  split <;> rfl

@[simp] theorem removeChannel_httpHeadWaiters : (c.removeChannel id).httpHeadWaiters = c.httpHeadWaiters := by
  unfold removeChannel
  split <;> rfl

variable {id} {j : StreamId}

/-- Another stream keeps its entries. -/
theorem mem_removeChannel_tcpStreams (hj : j ≠ id) :
    j ∈ (c.removeChannel id).tcpStreams ↔ j ∈ c.tcpStreams := by
  unfold removeChannel
  split
  · exact .rfl
  · simp [hj]

theorem mem_removeChannel_httpBodyStreams (hj : j ≠ id) :
    j ∈ (c.removeChannel id).httpBodyStreams ↔ j ∈ c.httpBodyStreams := by
  unfold removeChannel
  split
  · simp [hj]
  · exact .rfl

end RemoveChannel

/-! ### Entries only go -/

/-- The second connection has no entry that the first lacks. -/
structure Fewer (c d : GatewayConnection) : Prop where
  streamIds : d.streamIds = c.streamIds
  tcpStreams : d.tcpStreams ⊆ c.tcpStreams
  openWaiters : d.openWaiters ⊆ c.openWaiters
  httpHeadWaiters : d.httpHeadWaiters ⊆ c.httpHeadWaiters
  httpBodyStreams : d.httpBodyStreams ⊆ c.httpBodyStreams

namespace Fewer
variable {c d e : GatewayConnection} {id : StreamId}

theorem refl (c : GatewayConnection) : Fewer c c :=
  ⟨rfl, Finset.Subset.refl _, Finset.Subset.refl _, Finset.Subset.refl _, Finset.Subset.refl _⟩

theorem trans (h : Fewer c d) (h' : Fewer d e) : Fewer c e where
  streamIds := h'.streamIds.trans h.streamIds
  tcpStreams := h'.tcpStreams.trans h.tcpStreams
  openWaiters := h'.openWaiters.trans h.openWaiters
  httpHeadWaiters := h'.httpHeadWaiters.trans h.httpHeadWaiters
  httpBodyStreams := h'.httpBodyStreams.trans h.httpBodyStreams

theorem target (h : Fewer c d) (hd : d.target id ≠ .unknown) : c.target id ≠ .unknown := by
  rw [target_ne_unknown] at hd ⊢
  exact hd.imp (fun hd => h.httpBodyStreams hd) (fun hd => h.tcpStreams hd)

theorem closeStream (id : StreamId) (c : GatewayConnection) : Fewer c (c.closeStream id) :=
  ⟨rfl, Finset.erase_subset _ _, Finset.erase_subset _ _, Finset.erase_subset _ _,
    Finset.erase_subset _ _⟩

theorem failStream (id : StreamId) (c : GatewayConnection) : Fewer c (c.failStream id) :=
  ⟨rfl, Finset.Subset.refl _, Finset.erase_subset _ _, Finset.erase_subset _ _,
    Finset.erase_subset _ _⟩

theorem closeRequest (id : StreamId) (c : GatewayConnection) : Fewer c (c.closeRequest id) :=
  ⟨rfl, Finset.Subset.refl _, Finset.Subset.refl _, Finset.erase_subset _ _,
    Finset.erase_subset _ _⟩

theorem removeChannel (id : StreamId) (c : GatewayConnection) : Fewer c (c.removeChannel id) := by
  unfold GatewayConnection.removeChannel
  split
  · exact ⟨rfl, Finset.Subset.refl _, Finset.Subset.refl _, Finset.Subset.refl _,
      Finset.erase_subset _ _⟩
  · exact ⟨rfl, Finset.erase_subset _ _, Finset.Subset.refl _, Finset.Subset.refl _,
      Finset.Subset.refl _⟩

theorem closeGatewayConnection (reason : String) (c : GatewayConnection) :
    Fewer c (c.closeGatewayConnection reason).1 := by
  unfold GatewayConnection.closeGatewayConnection
  split
  · exact .refl _
  · exact ⟨rfl, Finset.empty_subset _, Finset.empty_subset _, Finset.empty_subset _,
      Finset.empty_subset _⟩

theorem stopIdentity (error : GatewayError) (c : GatewayConnection) :
    Fewer c (c.stopIdentity error).1 := by
  unfold GatewayConnection.stopIdentity
  split
  · exact .refl _
  · have hflags : Fewer c { c with identity := some error, stopped := true } :=
      ⟨rfl, Finset.Subset.refl _, Finset.Subset.refl _, Finset.Subset.refl _, Finset.Subset.refl _⟩
    exact hflags.trans (closeGatewayConnection _ _)

end Fewer

/-- The connection that a message leaves. -/
def Handled.connection (c : GatewayConnection) : Handled → GatewayConnection
  | .done d _ | .failed _ d _ => d
  | .reply _ => c

/-- **No message adds an entry.** -/
theorem handleGatewayMessage_fewer (message : Message) (c : GatewayConnection) :
    Fewer c ((c.handleGatewayMessage message).connection c) := by
  cases message with
  | openOk id =>
    exact ⟨rfl, Finset.Subset.refl _, Finset.erase_subset _ _, Finset.Subset.refl _,
      Finset.Subset.refl _⟩
  | httpResponseStart id response =>
    exact ⟨rfl, Finset.Subset.refl _, Finset.Subset.refl _, Finset.erase_subset _ _,
      Finset.Subset.refl _⟩
  | httpResponseEnd id =>
    exact ⟨rfl, Finset.Subset.refl _, Finset.Subset.refl _, Finset.Subset.refl _,
      Finset.erase_subset _ _⟩
  | close id reason => exact .closeStream id c
  | tcpEof id =>
    exact ⟨rfl, Finset.erase_subset _ _, Finset.Subset.refl _, Finset.Subset.refl _,
      Finset.Subset.refl _⟩
  | error id code text =>
    cases id with
    | some id => exact .failStream id c
    | none =>
      by_cases ht : (⟨code, text⟩ : GatewayError).terminal = true
      · simp only [handleGatewayMessage, ht, if_true, Handled.connection]
        exact .stopIdentity _ _
      · simp only [handleGatewayMessage, ht, Handled.connection]
        exact .refl _
  | _ => exact .refl _

end GatewayConnection

end WsNet.Access
