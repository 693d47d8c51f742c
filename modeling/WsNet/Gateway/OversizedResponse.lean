import WsNet.Common.Json
import WsNet.Common.WriterLoop
import WsNet.Gateway.Tunnel

/-! A response that does not fit into a frame.

HttpRequest collects the body of its response without a limit, and the message is
first measured in the cipher, when the writer encrypts it. An error there ends the
writer, and with it the session and all its streams (`unfit_ends_writer`). A byte
takes two to four characters of JSON, so that what fits depends on the bytes' values
(`responseSize_bounds`).

Session, tasks and writer are run together here. The bound of the queue between them
only makes a sender wait, and is left out. -/
namespace WsNet.Gateway
open Crypto Data Transition

structure OutboundState where
  tunnel : TunnelState := {}
  queue : List WsMessage := []
  writer : WriterLoop

inductive OutboundOp where
  | session (op : TunnelOp)
  /-- The writer waits for the queue. -/
  | recv
  /-- The writer looks into the queue, for more to write. -/
  | tryRecv
  /-- Another step of the writer. -/
  | writer (op : LoopOp)

section Model
variable [MessageCodec]

/-- What a step of the session or of a task puts into the queue. -/
def TunnelState.puts (op : TunnelOp) (s : TunnelState) : List WsMessage :=
  match op, s.point with
  | .task n .sent, _ => (s.tasks n).sends.toList.map Outgoing.wsMessage
  | .replied, .sending m _ => [.text (encodeMessage m)]
  | .replied, .pinging => [.text (encodeMessage .ping)]
  | _, _ => []

namespace OutboundState

/-- The receiving side of the queue goes with the writer. -/
def allows (op : TunnelOp) (s : OutboundState) : Bool :=
  match op with
  | .writerEnds => s.writer.phase = .ended
  | _ => true

/-- The lease is the writer's too. -/
def writerAfter (op : TunnelOp) (s : OutboundState) : WriterLoop :=
  match op with
  | .cancelLease _ => { s.writer with canceled := true }
  | _ => s.writer

def session (op : TunnelOp) (s : OutboundState) : Option OutboundState :=
  if s.allows op then
    (Gateway.tunnel.step op s.tunnel).map fun tunnel =>
      { tunnel, queue := s.queue ++ s.tunnel.puts op, writer := s.writerAfter op }
  else none

/-- The queue is closed when its senders are gone. -/
def recv (s : OutboundState) : Option OutboundState :=
  match s.queue with
  | m :: queue => (s.writer.recv (some m)).map fun writer => { s with writer, queue }
  | [] => if s.tunnel.point = .ended then (s.writer.recv none).map fun writer => { s with writer } else none

def tryRecv (s : OutboundState) : Option OutboundState :=
  (s.writer.tryRecv s.queue.head?).map fun writer => { s with writer, queue := s.queue.tail }

/-- What comes with the session or the queue is no step of the writer alone. -/
def writerAlone (op : LoopOp) (s : OutboundState) : Bool :=
  match op with
  | .cancel | .recv _ | .tryRecv _ => false
  | .drop => s.tunnel.point = .ended
  | _ => true

end OutboundState

def outbound [Aead] : Machine OutboundState OutboundOp where
  Initial := fun s => ∃ cipher, s = { writer := { cipher } }
  step
    | .session op, s => s.session op
    | .recv, s => s.recv
    | .tryRecv, s => s.tryRecv
    | .writer op, s =>
      if s.writerAlone op then ((writerLoop .gateway).step op s.writer).map fun writer => { s with writer }
      else none

/-! ### The property -/

/-- The size check of `encrypt`. -/
def PassesCheck (m : WsMessage) : Prop :=
  ∀ kind payload, m.sealedAs = some (kind, payload) → payload.length ≤ maxPayloadLen

def response (id : StreamId) (r : HttpResponsePayload) : WsMessage := .text (encodeMessage (.httpResponse id r))

def OutboundOp.puts (op : OutboundOp) (s : OutboundState) : List WsMessage :=
  match op with
  | .session op => s.tunnel.puts op
  | _ => []

/-- No response is queued that cannot be encrypted, and none ends the writer. -/
structure ResponsesPass (op : OutboundOp) (s t : OutboundState) : Prop where
  queued : ∀ id r, response id r ∈ op.puts s → PassesCheck (response id r)
  /-- Sequence numbers may run out, but not for a response's sake. -/
  writer : ∀ id r batch, op = .writer .feed → s.writer.phase = .writing (response id r :: batch) →
    s.writer.cipher.gatewayToAccess.nextSendSequence + 1 < 2 ^ 64 → t.writer.phase ≠ .ended

/-! ### What the session task sends -/

end Model

/-- At a point where a response waits for the queue. -/
def Point.responds : Point → Bool
  | .sending (.httpResponse _ _) _ => true
  | _ => false

section Session
variable {s t : TunnelState}

theorem responds_start (m : Message) : (s.start m).point.responds = false := by
  unfold TunnelState.start
  split
  · split <;> rfl
  · split <;> rfl
  · split <;> rfl
  · rfl
  · rfl
  · rfl
  · rfl
  · rfl
  · rfl

theorem responds_handle (hs : s.handle = some t) : t.point.responds = false := by
  obtain ⟨_, hs⟩ := TunnelState.atPoint_some hs
  split at hs
  · cases hs
    split
    · rfl
    · exact responds_start _
  · cases hs

theorem responds_deliverTo (receiver : Receiver) (id : StreamId) (payload : Bytes) :
    (s.deliverTo receiver id payload).point.responds = false := rfl

theorem responds_dispatch (hs : s.dispatch = some t) : t.point.responds = false := by
  obtain ⟨_, hs⟩ := TunnelState.atPoint_some hs
  split at hs
  · cases hs
    split
    · exact responds_deliverTo _ _ _
    · exact responds_deliverTo _ _ _
    · rfl
  · cases hs

theorem responds_delivered (hs : s.delivered = some t) : t.point.responds = false := by
  obtain ⟨_, _, hs⟩ := TunnelState.inHandling_some hs
  split at hs
  · split at hs
    · obtain ⟨u, _, rfl⟩ := Option.map_eq_some_iff.mp hs
      rfl
    · cases hs
  · cases hs

theorem responds_undelivered (hs : s.undelivered = some t) : t.point.responds = false := by
  obtain ⟨_, _, hs⟩ := TunnelState.inHandling_some hs
  split at hs
  · split at hs
    · cases hs
    · split at hs
      · cases hs
        rfl
      · cases hs
        rfl
  · cases hs

theorem responds_replied (hs : s.replied = some t) : t.point.responds = false := by
  simp only [TunnelState.replied, Option.ite_none_right_eq_some] at hs
  obtain ⟨_, hs⟩ := TunnelState.atPoint_some hs.2
  split at hs
  · obtain ⟨_, hs⟩ := Option.ite_none_right_eq_some.mp hs
    cases hs
    rfl
  · cases hs
    rfl
  · cases hs

theorem responds_notReplied (hs : s.notReplied = some t) : t.point.responds = false := by
  simp only [TunnelState.notReplied, Option.ite_none_left_eq_some] at hs
  obtain ⟨_, hs⟩ := TunnelState.atPoint_some hs.2
  split at hs
  · obtain ⟨_, hs⟩ := Option.ite_none_right_eq_some.mp hs
    cases hs
    split <;> rfl
  · cases hs
    rfl
  · cases hs

theorem responds_finish (hs : s.finish = some t) : t.point.responds = false := by
  obtain ⟨_, hs⟩ := TunnelState.atPoint_some hs
  split at hs
  all_goals cases hs
  rfl

theorem responds_exec (hr : s.point.responds = false) (hs : s.exec = some t) :
    t.point.responds = false := by
  unfold TunnelState.exec at hs
  split at hs
  · cases hs
  · rename_i statement rest _
    cases hs
    unfold TunnelState.run
    split
    all_goals first | exact hr | (split <;> exact hr)

/-- The session task itself sends no response. -/
theorem responds_step {op : TunnelOp} (hr : s.point.responds = false) (hs : tunnel.step op s = some t) :
    t.point.responds = false := by
  cases op with
  | cancelLease error =>
    cases hs
    exact hr
  | writerEnds =>
    cases hs
    exact hr
  | message m =>
    obtain ⟨_, _, _, rfl⟩ := TunnelState.atSelect_some hs
    dsimp only
    split <;> rfl
  | data id payload =>
    obtain ⟨_, _, _, rfl⟩ := TunnelState.atSelect_some hs
    rfl
  | tick =>
    obtain ⟨_, _, _, rfl⟩ := TunnelState.atSelect_some hs
    rfl
  | authorized =>
    change s.authorized = some t at hs
    obtain ⟨_, _, hs⟩ := TunnelState.inHandling_some hs
    split at hs <;> cases hs
    rfl
  | denied error =>
    change s.denied error = some t at hs
    obtain ⟨_, _, hs⟩ := TunnelState.inHandling_some hs
    split at hs <;> cases hs
    rfl
  | exec => exact responds_exec hr hs
  | handle => exact responds_handle hs
  | store =>
    change s.store = some t at hs
    obtain ⟨_, hs⟩ := TunnelState.atPoint_some hs
    split at hs <;> cases hs
    rfl
  | register =>
    change s.register = some t at hs
    obtain ⟨_, hs⟩ := TunnelState.atPoint_some hs
    split at hs <;> cases hs
    rfl
  | spawn =>
    change s.spawn = some t at hs
    obtain ⟨_, hs⟩ := TunnelState.atPoint_some hs
    split at hs <;> cases hs
    rfl
  | dispatch => exact responds_dispatch hs
  | delivered => exact responds_delivered hs
  | undelivered => exact responds_undelivered hs
  | replied => exact responds_replied hs
  | notReplied => exact responds_notReplied hs
  | interrupt =>
    simp only [tunnel, TunnelState.interrupt, Option.ite_none_left_eq_some] at hs
    obtain ⟨_, hs⟩ := TunnelState.atPoint_some hs.2
    split at hs <;> cases hs
    all_goals rfl
  | leaseEnds =>
    simp only [tunnel, TunnelState.leaseEnds, Option.ite_none_left_eq_some] at hs
    obtain ⟨_, hs⟩ := TunnelState.atPoint_some hs.2
    split at hs <;> cases hs
    rfl
  | finish => exact responds_finish hs
  | task n op =>
    obtain ⟨⟨_, effect⟩, _, rfl⟩ := Option.map_eq_some_iff.mp hs
    cases effect with
    | unregister =>
      simp only [TunnelState.apply]
      split <;> exact hr
    | _ => exact hr

end Session

/-! ### What is in the queue -/

section Queue
variable [SerdeJson] {s : OutboundState}

theorem passesCheck_response {id : StreamId} {r : HttpResponsePayload} :
    PassesCheck (response id r) ↔ responseSize id r ≤ maxPayloadLen := by
  rw [← encode_httpResponse_length]
  constructor
  · exact fun h => h .text _ rfl
  · intro h kind payload hs
    cases hs
    exact h

theorem wsMessage_eq_response {out : Outgoing} {id : StreamId} {r : HttpResponsePayload}
    (h : out.wsMessage = response id r) : out = .message (.httpResponse id r) := by
  cases out with
  | message m => exact congrArg Outgoing.message (encodeMessage_inj (WsMessage.text.inj h))
  | data id payload => cases h

/-- A response in the queue is a task's. -/
theorem puts_response {op : TunnelOp} {u : TunnelState} {id : StreamId} {r : HttpResponsePayload}
    (hr : u.point.responds = false) :
    response id r ∈ u.puts op ↔
      ∃ n, op = .task n .sent ∧ (u.tasks n).sends = some (.message (.httpResponse id r)) := by
  constructor
  · intro h
    unfold TunnelState.puts at h
    split at h
    · rename_i n
      obtain ⟨out, hout, heq⟩ := List.mem_map.mp h
      rw [wsMessage_eq_response heq] at hout
      exact ⟨n, rfl, Option.mem_toList.mp hout⟩
    · rename_i m required hpoint
      have heq : m = .httpResponse id r :=
        encodeMessage_inj (WsMessage.text.inj (List.mem_singleton.mp h).symm)
      rw [hpoint, heq] at hr
      cases hr
    · cases encodeMessage_inj (WsMessage.text.inj (List.mem_singleton.mp h))
    · cases h
  · rintro ⟨n, rfl, hsends⟩
    simp [TunnelState.puts, hsends, Outgoing.wsMessage, response]

/-- Between two and four characters a byte. -/
theorem responseSize_bounds (id : StreamId) {r : HttpResponsePayload} (h : r.body ≠ []) :
    2 * r.body.length ≤ responseSize id r ∧ responseSize id r ≤
      (bytesOf (responseHead id r.status (SerdeJson.headersText r.headers))).length +
        4 * r.body.length + 3 := by
  have hbounds := arraySize_bounds h
  unfold responseSize
  omega

structure OutboundInv (s : OutboundState) : Prop where
  session : s.tunnel.point.responds = false
  inOrder : InOrder s.writer
  /-- What was queued since the start can be encrypted. -/
  fits : ∀ id r, response id r ∈ s.writer.received ++ s.queue → responseSize id r ≤ maxPayloadLen

theorem outboundInv_initial (cipher : TunnelCipher) : OutboundInv { writer := { cipher } } where
  session := rfl
  inOrder := ⟨⟨[], fun _ => rfl, .nil⟩, nofun⟩
  fits := nofun

/-- A response that the writer holds was queued. -/
theorem OutboundInv.writing {id : StreamId} {r : HttpResponsePayload} {batch : List WsMessage}
    (h : OutboundInv s) (hphase : s.writer.phase = .writing (response id r :: batch)) :
    responseSize id r ≤ maxPayloadLen := by
  have hm := h.inOrder.running (by rw [hphase]; nofun)
  refine h.fits id r (List.mem_append_left _ (hm.mem_of_mem ?_ (List.mem_append_right _ ?_)))
  · rintro a b ⟨_, _, _, _, _, _, _, _, heq, _⟩
    cases heq
  · rw [WriterLoop.held, hphase]
    exact List.mem_cons_self

end Queue

/-! ### One step -/

section Machine
variable [Aead] [SerdeJson] {s t : OutboundState}

/-- **What a step does**: the session's puts its messages behind the queue, the writer's
takes them from there. -/
inductive OutboundMove (s : OutboundState) : OutboundOp → OutboundState → Prop
  | session (op : TunnelOp) (u : TunnelState) (step : tunnel.step op s.tunnel = some u) :
      OutboundMove s (.session op)
        { tunnel := u, queue := s.queue ++ s.tunnel.puts op, writer := s.writerAfter op }
  | writer {op : OutboundOp} {t : OutboundState} (o : LoopOp)
      (step : (writerLoop .gateway).step o s.writer = some t.writer) (tunnel : t.tunnel = s.tunnel)
      (received : t.writer.received ++ t.queue = s.writer.received ++ s.queue) (puts : op.puts s = []) :
      OutboundMove s op t

theorem outbound_move {op : OutboundOp} (hs : outbound.step op s = some t) : OutboundMove s op t := by
  cases op with
  | session op =>
    obtain ⟨_, hs⟩ := Option.ite_none_right_eq_some.mp hs
    obtain ⟨u, hu, rfl⟩ := Option.map_eq_some_iff.mp hs
    exact .session op u hu
  | recv =>
    simp only [outbound, OutboundState.recv] at hs
    split at hs
    · rename_i m queue hqueue
      obtain ⟨w, hw, rfl⟩ := Option.map_eq_some_iff.mp hs
      have hw : (writerLoop .gateway).step (.recv (some m)) s.writer = some w := hw
      refine .writer (.recv (some m)) hw rfl ?_ rfl
      rw [received_step hw, hqueue, List.append_assoc]
      rfl
    · rename_i hqueue
      obtain ⟨_, hs⟩ := Option.ite_none_right_eq_some.mp hs
      obtain ⟨w, hw, rfl⟩ := Option.map_eq_some_iff.mp hs
      have hw : (writerLoop .gateway).step (.recv none) s.writer = some w := hw
      refine .writer (.recv none) hw rfl ?_ rfl
      rw [received_step hw]
      exact congrArg (· ++ s.queue) (List.append_nil _)
  | tryRecv =>
    obtain ⟨w, hw, rfl⟩ := Option.map_eq_some_iff.mp hs
    have hw : (writerLoop .gateway).step (.tryRecv s.queue.head?) s.writer = some w := hw
    refine .writer (.tryRecv s.queue.head?) hw rfl ?_ rfl
    rw [received_step hw, List.append_assoc]
    cases s.queue <;> rfl
  | writer op =>
    obtain ⟨halone, hs⟩ := Option.ite_none_right_eq_some.mp hs
    obtain ⟨w, hw, rfl⟩ := Option.map_eq_some_iff.mp hs
    have hanswer : op.answer = none := by
      cases op <;> first | rfl | cases halone
    refine .writer op hw rfl ?_ rfl
    rw [received_step hw, hanswer, Option.toList_none, List.append_nil]

theorem outboundInv_step {op : OutboundOp} (h : OutboundInv s) (hs : outbound.step op s = some t)
    (hp : ResponsesPass op s t) : OutboundInv t := by
  cases outbound_move hs with
  | session op u hu =>
    have hreceived : (s.writerAfter op).received = s.writer.received ∧ InOrder (s.writerAfter op) := by
      unfold OutboundState.writerAfter
      split
      · exact ⟨rfl, h.inOrder.merged, h.inOrder.pending⟩
      · exact ⟨rfl, h.inOrder⟩
    refine ⟨responds_step h.session hu, hreceived.2, fun id r hr => ?_⟩
    rw [hreceived.1, ← List.append_assoc] at hr
    rcases List.mem_append.mp hr with hr | hr
    · exact h.fits id r hr
    · exact passesCheck_response.mp (hp.queued id r hr)
  | writer o step tunnel received puts =>
    refine ⟨tunnel ▸ h.session, inOrder_step h.inOrder step, fun id r hr => ?_⟩
    rw [received] at hr
    exact h.fits id r hr

/-! ### The writer at a response -/

/-- A response that fits is encrypted. -/
theorem feed_response {w w' : WriterLoop} {id : StreamId} {r : HttpResponsePayload}
    {batch : List WsMessage} (hphase : w.phase = .writing (response id r :: batch))
    (hs : w.feed .gateway = some w') : w'.phase = .ended ↔
      ¬ (responseSize id r ≤ maxPayloadLen ∧ w.cipher.gatewayToAccess.nextSendSequence + 1 < 2 ^ 64) := by
  have htext := encryptGatewayMessage_text w.cipher (encodeMessage (.httpResponse id r))
  rw [encode_httpResponse_length] at htext
  rw [← htext]
  simp only [WriterLoop.feed, hphase, Side.encrypt] at hs
  split at hs
  · rename_i frame cipher heq
    cases hs
    exact iff_of_false (by simp) fun hnot => hnot ⟨_, heq⟩
  · rename_i e heq
    cases hs
    refine iff_of_true rfl ?_
    rintro ⟨_, hok⟩
    cases heq.symm.trans hok

/-- **A response that does not fit ends the writer** when it is its turn. -/
theorem unfit_ends_writer {id : StreamId} {r : HttpResponsePayload} {batch : List WsMessage}
    (hphase : s.writer.phase = .writing (response id r :: batch))
    (hunfit : maxPayloadLen < responseSize id r) :
    ∃ t, outbound.step (.writer .feed) s = some t ∧ t.writer.phase = .ended ∧ t.tunnel = s.tunnel := by
  obtain ⟨w, hw⟩ : ∃ w, s.writer.feed .gateway = some w := by
    simp only [WriterLoop.feed, hphase]
    split <;> exact ⟨_, rfl⟩
  refine ⟨{ s with writer := w }, ?_, (feed_response hphase hw).mpr fun h => ?_, rfl⟩
  · show Option.map _ (s.writer.feed .gateway) = _
    rw [hw]
    rfl
  · exact Nat.not_le_of_lt hunfit h.1

/-! ### Runs -/

/-- Every response that a task sends is small enough. -/
def ResponsesFit (op : OutboundOp) (s : OutboundState) : Prop :=
  ∀ n id r, op = .session (.task n .sent) →
    (s.tunnel.tasks n).sends = some (.message (.httpResponse id r)) → responseSize id r ≤ maxPayloadLen

theorem responsesPass_iff {op : OutboundOp} (h : OutboundInv s) (hs : outbound.step op s = some t) :
    ResponsesPass op s t ↔ ResponsesFit op s := by
  constructor
  · rintro hp n id r rfl hsends
    exact passesCheck_response.mp (hp.queued id r ((puts_response h.session).mpr ⟨n, rfl, hsends⟩))
  · intro hfit
    constructor
    · intro id r hr
      cases op with
      | session op =>
        obtain ⟨n, rfl, hsends⟩ := (puts_response h.session).mp hr
        exact passesCheck_response.mpr (hfit n id r rfl hsends)
      | _ => cases hr
    · rintro id r batch rfl hphase hsequence
      change (s.writer.feed .gateway).map _ = some t at hs
      obtain ⟨w, hw, rfl⟩ := Option.map_eq_some_iff.mp hs
      exact fun hended => (feed_response hphase hw).mp hended ⟨h.writing hphase, hsequence⟩

/-- **Responses pass** in a run exactly if in it each that a task sends is small enough
for a frame. -/
theorem responses_pass_iff (cipher : TunnelCipher) (labels : List OutboundOp) :
    outbound.Throughout ResponsesPass labels { writer := { cipher } } ↔
      outbound.Throughout (fun op s _ => ResponsesFit op s) labels { writer := { cipher } } :=
  Machine.throughout_congr OutboundInv (fun _ _ _ => responsesPass_iff)
    (fun _ _ _ => outboundInv_step) (outboundInv_initial cipher)

end Machine

section Example

local instance sizeAead : Aead := .transparent
local instance sizeCodec : SerdeJson := .plain

def sizeStart : OutboundState := { writer := { cipher := .ofKeys [1] [2] } }

/-- A TCP stream is open when a request is answered. -/
def answeredOps (r : HttpResponsePayload) : List OutboundOp :=
  [.session (.message (.open 2 "ssh" tcpTarget)), .session .authorized, .session .handle,
    .session .register, .session .spawn, .session (.task 0 .poll), .session (.task 0 .connected),
    .session (.task 0 .sent), .recv, .writer .feed, .writer .accepted, .writer .feed, .writer .flushed,
    .session (.message (.httpRequest 1 "web" httpTarget ⟨"GET", "/", [], []⟩)), .session .authorized,
    .session .handle, .session .register, .session .spawn, .session (.task 1 .poll),
    .session (.task 1 (.requestEnds (.ok (some r)))), .session (.task 1 .sent), .recv]

/-- The writer has ended, and the session ends. -/
def sessionEndOps : List OutboundOp :=
  [.session .writerEnds, .session .finish, .session .exec, .session .exec, .session .exec,
    .session .exec, .session .exec]

def answeredState (r : HttpResponsePayload) : OutboundState :=
  (outbound.run (answeredOps r) sizeStart).getD sizeStart

theorem answeredState_reachable (r : HttpResponsePayload) : outbound.Reachable (answeredState r) :=
  Machine.reachable_getD ⟨_, rfl⟩ rfl

theorem answeredState_writing (r : HttpResponsePayload) :
    (answeredState r).writer.phase = .writing [response 1 r] := rfl

theorem answeredState_sequence (r : HttpResponsePayload) :
    (answeredState r).writer.cipher.gatewayToAccess.nextSendSequence + 1 < 2 ^ 64 :=
  show 1 + 1 < 2 ^ 64 by decide

theorem session_ends (r : HttpResponsePayload) {t : OutboundState}
    (htunnel : t.tunnel = (answeredState r).tunnel) (hended : t.writer.phase = .ended) :
    ∃ u, outbound.run sessionEndOps t = some u ∧ u.tunnel.point = .ended ∧
      (u.tunnel.tasks 0).canceled = true := by
  obtain ⟨tunnel, queue, cipher, canceled, pending, phase, received, encrypted⟩ := t
  cases htunnel
  cases hended
  exact ⟨_, rfl, rfl, rfl⟩

/-- 4 MiB, of the bytes that take the most. -/
def largeResponse : HttpResponsePayload := ⟨200, [], List.replicate (4 * 1024 * 1024) 255⟩

theorem largeResponse_size : maxPayloadLen < responseSize 1 largeResponse := by
  have harray := arraySize_replicate (4 * 1024 * 1024) 255
  have hbyte : byteSize 255 = 3 := by decide
  have hbody : largeResponse.body = List.replicate (4 * 1024 * 1024) 255 := rfl
  have hmax : maxPayloadLen ≤ 16 * 1024 * 1024 := Nat.le_trans (Nat.sub_le _ _)
    (Nat.le_trans (Nat.sub_le _ _) (Nat.sub_le _ _))
  rw [responseSize, hbody, harray, hbyte]
  omega

/-- **One response ends the session**: it is queued, the writer ends at it, and the
session ends with it and cancels the other stream. -/
theorem large_response_ends_session :
    outbound.Reachable (answeredState largeResponse) ∧
      ((answeredState largeResponse).tunnel.tasks 0).phase = .forwarding false false ∧
      ∃ t u, outbound.step (.writer .feed) (answeredState largeResponse) = some t ∧
        t.writer.phase = .ended ∧ ¬ ResponsesPass (.writer .feed) (answeredState largeResponse) t ∧
        outbound.run sessionEndOps t = some u ∧ u.tunnel.point = .ended ∧
        (u.tunnel.tasks 0).canceled = true := by
  have hsize := largeResponse_size
  -- nothing else depends on the body
  generalize largeResponse = r at hsize ⊢
  obtain ⟨t, hstep, hended, htunnel⟩ := unfit_ends_writer (answeredState_writing r) hsize
  obtain ⟨u, hrun, hpoint, hcanceled⟩ := session_ends r htunnel hended
  have hfails : ¬ ResponsesPass (.writer .feed) (answeredState r) t := fun h =>
    h.writer 1 r [] rfl (answeredState_writing r) (answeredState_sequence r) hended
  exact ⟨answeredState_reachable r, rfl, t, u, hstep, hended, hfails, hrun, hpoint, hcanceled⟩

end Example

end WsNet.Gateway
