import WsNet.Relay.PipelineInvariant

/-! The streams of the pipeline.

To its stream the pipeline is a queue from the local socket to the target, and one back:
what comes out is what went in, from the first byte on, whatever the other streams, the
batches, the ciphers and the sessions do (`relayed_in_order`). -/
namespace WsNet.Relay
open Access Crypto Data Transition

section Streams
variable [Aead] [MessageCodec] {s : Pipeline} {k : Nat}

namespace Pipeline

/-- The local socket of a stream. -/
def localSocket (s : Pipeline) (id : StreamId) : LocalSocket := s.near.sockets id

/-- The target's socket of a task in a session. -/
def targetSocket (s : Pipeline) (k n : Nat) : TargetSocket := (s.sessions k).target.sockets n

/-- The task in a session that is the stream's, with a target. -/
structure Serves (s : Pipeline) (k n : Nat) (id : StreamId) : Prop where
  created : n < (s.sessions k).target.tunnel.next
  stream : ((s.sessions k).target.tunnel.tasks n).id = id
  kind : ((s.sessions k).target.tunnel.tasks n).kind = .tcp

/-- The session has processed the stream's TcpEof, and the task has drained the channel
without a write error. -/
def Drained (s : Pipeline) (k n : Nat) (id : StreamId) : Prop :=
  .eof ∈ (s.sessions k).target.consumedBy id ∧ (s.targetSocket k n).drained = true

end Pipeline

namespace PipelineInv
variable {id : StreamId} {n : Nat}

/-- The stream was written in the session. -/
theorem mode_of_serves (h : PipelineInv s) (hserves : s.Serves k n id) :
    .start .tcp ∈ (s.near.view id).written k ∧ (s.near.view id).mode = .tcp := by
  obtain ⟨hn, rfl, hkind⟩ := hserves
  have hstart := (h.sessions k).started hn
  rw [hkind] at hstart
  exact ⟨hstart, ((h.near.stream _).mode_of_written hstart).symm⟩

/-- What is consumed was put, and read before. -/
theorem consumed_of_serves (h : PipelineInv s) (hserves : s.Serves k n id) :
    flow ((s.sessions k).target.consumedBy id) <+: (s.near.view id).handed := by
  have hstart := (h.mode_of_serves hserves).1
  exact (flow_mono ((h.sessions k).consumedBy_pre id)).trans ((h.near.stream id).line.pre k ⟨_, hstart, rfl⟩)

/-- **From the local socket to the target.** -/
theorem written_target (h : PipelineInv s) (hserves : s.Serves k n id) :
    (s.targetSocket k n).written <+: (s.localSocket id).read := by
  have hhanded := payload_mono (h.consumed_of_serves hserves)
  rw [payload_flow] at hhanded
  have hread := (h.near.stream id).handler.pre (h.mode_of_serves hserves).2
  obtain ⟨hn, rfl, hkind⟩ := hserves
  have hpre := ((h.sessions k).target.stream n hn hkind).pre
  unfold TargetView.arrived at hpre
  rw [List.append_assoc] at hpre
  exact ((((List.prefix_append _ _).trans hpre).trans hhanded).trans hread)

/-- With its end processed, everything has arrived. -/
theorem written_all (h : PipelineInv s) (hserves : s.Serves k n id) (hdrained : s.Drained k n id) :
    (s.targetSocket k n).written = (s.localSocket id).read := by
  obtain ⟨heof, hdrained⟩ := hdrained
  obtain ⟨rest, hrest⟩ := h.consumed_of_serves hserves
  have hmode := (h.mode_of_serves hserves).2
  have hv := h.near.stream id
  have hend : HasEnd (flow ((s.sessions k).target.consumedBy id)) := ⟨.eof, mem_flow.mpr ⟨heof, by simp⟩, rfl⟩
  have hordered := hv.handler.ordered hmode
  have hhanded : HasEnd (s.near.view id).handed := by
    rw [← hrest]
    exact hasEnd_append.mpr (.inl hend)
  have hread := hv.handler.complete hmode hhanded
  rw [← hrest] at hordered hread
  rw [payload_append, payload_eq_nil (hordered.no_more hend), List.append_nil, payload_flow] at hread
  obtain ⟨hn, rfl, hkind⟩ := hserves
  exact (((h.sessions k).target.stream n hn hkind).complete hdrained heof).trans hread.symm

/-- **From the target to the local socket.** -/
theorem written_local (h : PipelineInv s) (hmode : (s.near.link.callers id).mode = .tcp)
    (hne : (s.localSocket id).written ≠ []) :
    ∃ k n, s.Serves k n id ∧ (s.localSocket id).written <+: (s.targetSocket k n).read := by
  obtain ⟨k, harrived⟩ := (h.near.stream id).table.arrived
  have hwritten : (s.localSocket id).written <+: payload ((s.near.view id).received k) := by
    unfold LocalSocket.arrived at harrived
    rw [List.append_assoc, List.append_assoc] at harrived
    exact (List.prefix_append _ _).trans harrived
  have hreceived := (h.sessions k).received_pre id
  have hproduced : (s.sessions k).target.producedFor id ≠ [] := by
    intro hnil
    have hnone : (s.near.view id).received k = [] := List.prefix_nil.mp (hnil ▸ hreceived)
    rw [hnone] at hwritten
    exact hne (List.prefix_nil.mp hwritten)
  obtain ⟨n, hn, rfl⟩ := (h.sessions k).target.whole.produced id hproduced
  have hkind := (h.sessions k).kind_eq h.near hn hmode
  have hsent := ((h.sessions k).target.stream n hn hkind).sent
  exact ⟨k, n, ⟨hn, rfl, hkind⟩, (hwritten.trans (payload_mono hreceived)).trans hsent⟩

/-- A stream has one task in one session. -/
theorem serves_unique (h : PipelineInv s) {j m : Nat} (hserves : s.Serves k n id) (hserves' : s.Serves j m id) :
    k = j ∧ n = m := by
  have hstart := (h.mode_of_serves hserves).1
  have hstart' := (h.mode_of_serves hserves').1
  obtain rfl := (h.near.stream id).line.once k j ⟨_, hstart, rfl⟩ ⟨_, hstart', rfl⟩
  obtain ⟨hn, rfl, _⟩ := hserves
  obtain ⟨hm, hid, _⟩ := hserves'
  exact ⟨rfl, ((h.sessions k).target.whole.ids m n hm hn hid).symm⟩

end PipelineInv

/-- **Each stream is a queue of its own.** -/
theorem relayed_in_order (h : pipeline.Reachable s) :
    (∀ k n id, s.Serves k n id →
      (s.targetSocket k n).written <+: (s.localSocket id).read ∧
        (s.Drained k n id → (s.targetSocket k n).written = (s.localSocket id).read)) ∧
    (∀ id, (s.near.link.callers id).mode = .tcp → (s.localSocket id).written ≠ [] →
      ∃ k n, s.Serves k n id ∧ (s.localSocket id).written <+: (s.targetSocket k n).read) ∧
    ∀ k n j m id, s.Serves k n id → s.Serves j m id → k = j ∧ n = m := by
  have hinv := pipelineInv_reachable h
  exact ⟨fun _ _ _ hserves => ⟨hinv.written_target hserves, hinv.written_all hserves⟩,
    fun _ hmode => hinv.written_local hmode, fun _ _ _ _ _ => hinv.serves_unique⟩

end Streams

/-! ### A stream that is relayed -/

section Example

local instance streamsAead : Aead := .transparent
local instance streamsCodec : MessageCodec := .plain

def relayStart : Pipeline where
  sessions := fun _ =>
    ⟨⟨.ofKeys [1] [2], .ofKeys [1] [2], [], .empty, .empty⟩, {}, { cipher := .ofKeys [1] [2] }⟩

def upFrame (i : Nat) (kind : TunnelFrameKind) (payload : Bytes) : Bytes :=
  DirectionCipher.frameOf i
    ((TunnelCipher.ofKeys [1] [2]).accessToGateway.sealedAt i kind payload accessToGateway)

def downFrame (i : Nat) (kind : TunnelFrameKind) (payload : Bytes) : Bytes :=
  DirectionCipher.frameOf i
    ((TunnelCipher.ofKeys [1] [2]).gatewayToAccess.sealedAt i kind payload gatewayToAccess)

def handOps : List PipelineOp :=
  [.near (.link (.check 1)), .near (.link (.request 1)), .near (.link (.put 1))]

/-- A stream is opened. -/
def startOps : List PipelineOp :=
  [.near (.link .connect), .near (.link (.start .tcp)),
    .near (.link (.register 1 "shell" Gateway.tcpTarget ⟨"GET", "/", []⟩))] ++ handOps ++
  [.near (.link (.writer .receive)), .feed, .near (.link (.writer .flushed)),
    .far 1 (.receive (upFrame 0 .text (bytesOf (encodeMessage (.open 1 "shell" Gateway.tcpTarget))))),
    .far 1 (.target (.tunnel .authorized)), .far 1 (.target (.tunnel .handle)),
    .far 1 (.target (.tunnel .register)), .far 1 (.target (.tunnel .spawn)),
    .far 1 (.target (.task 0 .poll)), .far 1 (.target (.task 0 .connected)),
    .far 1 (.target (.task 0 .sent)),
    .far 1 (.writer (.recv (some (.text (encodeMessage (.openOk 1)))))), .far 1 (.writer .feed),
    .far 1 (.writer .accepted), .far 1 (.writer .feed), .far 1 (.writer .flushed),
    .receive (downFrame 0 .text (bytesOf (encodeMessage (.openOk 1)))) false, .near (.link (.opened 1))]

/-- The local client writes two bytes and its end, in one batch. The target takes the
bytes one by one, and the task drains its channel. -/
def upOps : List PipelineOp :=
  [.near (.link (.poll 1)), .near (.readLocal 1 [104, 105])] ++ handOps ++ [.near (.link (.last 1))] ++
  handOps ++
  [.near (.link (.writer .receive)), .near (.link (.writer .yielded)), .near (.link (.writer .gather)),
    .feed, .feed, .near (.link (.writer .flushed)),
    .far 1 (.receive (upFrame 1 .binary (encodeDataFrame 1 [104, 105]))),
    .far 1 (.target (.tunnel .dispatch)), .far 1 (.target (.tunnel .delivered)),
    .far 1 (.target (.task 0 .recv)), .far 1 (.target (.writeSome 0 1)),
    .far 1 (.target (.writeSome 0 1)), .far 1 (.target (.task 0 .wrote)),
    .far 1 (.receive (upFrame 2 .text (bytesOf (encodeMessage (.tcpEof 1))))),
    .far 1 (.target (.tunnel .handle)), .far 1 (.target (.tunnel .exec)),
    .far 1 (.target (.task 0 .recv))]

/-- The target answers, and the local client has the first byte of it. -/
def downOps : List PipelineOp :=
  [.far 1 (.target (.task 0 .wrote)), .far 1 (.target (.task 0 (.readTarget [111, 107]))),
    .far 1 (.target (.task 0 .sent)),
    .far 1 (.writer (.recv (some (.binary (encodeDataFrame 1 [111, 107]))))), .far 1 (.writer .yielded),
    .far 1 (.writer (.tryRecv none)), .far 1 (.writer .feed), .far 1 (.writer .accepted),
    .far 1 (.writer .feed), .receive (downFrame 1 .binary (encodeDataFrame 1 [111, 107])) false,
    .near .delivered, .near (.recvRemote 1), .near (.writeSome 1 1)]

def relayedState : Pipeline := (pipeline.run (startOps ++ upOps ++ downOps) relayStart).getD relayStart

theorem relayStart_initial : pipeline.Initial relayStart :=
  ⟨rfl, fun _ => ⟨⟨⟨[1], [2], rfl, rfl⟩, rfl, rfl, rfl⟩, rfl, _, rfl⟩⟩

theorem relayedState_ends :
    (pipeline.run (startOps ++ upOps ++ downOps) relayStart).isSome = true ∧
      (0 < (relayedState.sessions 1).target.tunnel.next ∧
        ((relayedState.sessions 1).target.tunnel.tasks 0).id = 1 ∧
        ((relayedState.sessions 1).target.tunnel.tasks 0).kind = .tcp) ∧
      (.eof ∈ (relayedState.sessions 1).target.consumedBy 1 ∧ (relayedState.targetSocket 1 0).drained = true) ∧
      (relayedState.localSocket 1).read = [104, 105] ∧ (relayedState.localSocket 1).written = [111] ∧
      (relayedState.near.link.callers 1).mode = .tcp := by
  decide +kernel

theorem relayed_in_order_relayedState :
    (relayedState.targetSocket 1 0).written = [104, 105] ∧ (relayedState.localSocket 1).written = [111] ∧
      ∃ k n, relayedState.Serves k n 1 ∧ [111] <+: (relayedState.targetSocket k n).read := by
  obtain ⟨hrun, ⟨hcreated, hid, hkind⟩, hdrained, hread, hwritten, hmode⟩ := relayedState_ends
  have hreach : pipeline.Reachable relayedState := Machine.reachable_getD relayStart_initial hrun
  obtain ⟨htarget, hlocal, _⟩ := relayed_in_order hreach
  have hback := hlocal 1 hmode (by rw [hwritten]; decide)
  rw [hwritten] at hback
  exact ⟨((htarget 1 0 1 ⟨hcreated, hid, hkind⟩).2 hdrained).trans hread, hwritten, hback⟩

end Example

end WsNet.Relay
