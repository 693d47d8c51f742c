import WsNet.Relay.LocalTrace
import WsNet.Relay.Pipeline
import WsNet.Relay.TargetInvariant

/-! Every run of the pipeline.

What one end of a session has put in and the other has taken out are tied together by
the ciphers and the gateway's writer. So each end may rely on what the other keeps: the
gateway on the order of what the access writes, and the access on the order of what the
gateway's tasks send. The invariants of both ends then hold of every state reached. -/
namespace WsNet.Relay
open Access Crypto Data Transition

/-! ### A session -/

section Pipeline
variable [Aead] [MessageCodec]

/-- What has been put in at one end and taken out at the other. -/
structure SessionInv (near : LocalSide) (k : Nat) (x : Session) : Prop where
  channel : SecureChannel.ChannelInv x.channel
  target : TargetInv x.target
  writer : InOrder x.writer
  sent : x.channel.up.sent = (near.writtenIn k).filterMap WsMessage.sealedAs
  consumed : x.target.consumed = x.channel.up.accepted
  queued : x.writer.received <+: x.target.produced
  passed : x.channel.down.sent <+: x.writer.encrypted.filterMap WsMessage.sealedAs
  running : x.writer.phase ≠ .ended →
    x.channel.down.sent = x.writer.encrypted.filterMap WsMessage.sealedAs
  received : near.received k = x.channel.down.accepted

namespace SessionInv
variable {near : LocalSide} {k : Nat} {x : Session} {m : TunnelFrameKind × Bytes}

/-- **Up**: what the gateway may read is what was written, from its start on. -/
theorem up (h : SessionInv near k x) (id : StreamId) {l : List (TunnelFrameKind × Bytes)}
    (hl : l <+: x.channel.up.sent) : l.flatMap (sealedEvents id) <+: (near.view id).written k := by
  rw [h.sent] at hl
  have hevents := sealed_pre id hl
  rw [← eventsIn_sealed] at hevents
  exact hevents

/-- **Down**: what the access may read was put into the queue. -/
theorem down (h : SessionInv near k x) (id : StreamId) {l : List (TunnelFrameKind × Bytes)}
    (hl : l <+: x.channel.down.sent) : l.flatMap (sealedEvents id) <+: x.target.producedFor id := by
  obtain ⟨rest, _, hmerged⟩ := h.writer.merged
  obtain ⟨queue, hqueue⟩ := h.queued
  have hencrypted : l.flatMap (sealedEvents id) <+: eventsIn id x.writer.encrypted := by
    rw [eventsIn_sealed]
    exact sealed_pre id (hl.trans h.passed)
  have hreceived : eventsIn id x.writer.encrypted <+: eventsIn id x.writer.received := by
    rw [eventsIn_merged id hmerged, eventsIn_append]
    exact List.prefix_append _ _
  refine (hencrypted.trans hreceived).trans ?_
  show eventsIn id x.writer.received <+: eventsIn id x.target.produced
  rw [← hqueue, eventsIn_append]
  exact List.prefix_append _ _

theorem consumedBy_pre (h : SessionInv near k x) (id : StreamId) :
    x.target.consumedBy id <+: (near.view id).written k := by
  unfold TargetSide.consumedBy
  rw [h.consumed]
  exact h.up id h.channel.up.accepted

theorem received_pre (h : SessionInv near k x) (id : StreamId) :
    (near.view id).received k <+: x.target.producedFor id := by
  show (near.received k).flatMap (sealedEvents id) <+: _
  rw [h.received]
  exact h.down id h.channel.down.accepted

/-- **What the access delivers**, it may. -/
theorem delivers (h : SessionInv near k x) (hnear : LocalSideInv near)
    (hm : x.channel.up.accepted ++ [m] <+: x.channel.up.sent) : Delivers m x.target := by
  have hpre : ∀ id, x.target.consumedBy id ++ sealedEvents id m <+: (near.view id).written k := by
    intro id
    have hup := h.up id hm
    rw [← h.consumed, List.flatMap_append, List.flatMap_singleton] at hup
    exact hup
  have hmode : ∀ {id mode}, .start mode ∈ x.target.consumedBy id ++ sealedEvents id m →
      mode = (near.view id).mode :=
    fun {id _} hs => (hnear.stream id).mode_of_written ((hpre id).subset hs)
  refine ⟨fun id hs => ?_, fun id hs => ?_, fun id hs hcarries => ?_, fun id hne => ?_⟩
  · have hstart := hs.of_pre (hpre id)
    have hhanded := (flow_mono (hpre id)).trans ((hnear.stream id).line.pre k hstart)
    exact List.Pairwise.sublist hhanded.sublist (hnear.stream id).handler.startsFirst
  · exact ((hnear.stream id).line.past (hmode hs).symm k).of_pre (hpre id)
  · have hv := hnear.stream id
    have htcp := (hmode hs).symm
    have hstart : HasStart ((near.view id).written k) := ⟨_, (hpre id).subset hs, rfl⟩
    have hhanded : ∃ y ∈ (near.view id).handed, y.carries = true := by
      obtain ⟨y, hy, hc⟩ := hcarries
      refine ⟨y, (hv.line.pre k hstart).subset (mem_flow.mpr ⟨(hpre id).subset hy, ?_⟩), hc⟩
      rintro rfl
      cases hc
    -- the answer came in the session that the stream was written in
    obtain ⟨j, hj⟩ := hv.table.carried htcp hhanded
    have hne : (near.view id).received j ≠ [] := by
      intro hnil
      rw [hnil] at hj
      exact not_hasStart_nil hj
    obtain rfl := hv.line.once j k (hv.table.answered j hne) hstart
    exact hj.of_pre (h.received_pre id)
  · have hv := hnear.stream id
    have hwritten : (near.view id).written k ≠ [] := by
      intro hnil
      have hnone := List.prefix_nil.mp (hnil ▸ hpre id)
      exact hne (List.append_eq_nil_iff.mp hnone).2
    have hfresh : (near.view id).stage ≠ .fresh := fun hf => hwritten ((hv.table.fresh hf).written k)
    have hidle : (near.link.callers id).phase ≠ .idle := by
      intro hidle
      refine hfresh ?_
      simp only [LocalSide.view, stageOf, hidle]
    exact (hnear.whole.begun id hidle).trans hnear.whole.bound

/-- A frame in the queue is of a stream with a task, and a TCP stream's is not empty. -/
def OfTask (t : TargetSide) (m : WsMessage) : Prop :=
  ∀ frame id bytes, m = .binary frame → decodeDataFrame frame = some (id, bytes) →
    ∃ n < t.tunnel.next, (t.tunnel.tasks n).id = id ∧ ((t.tunnel.tasks n).kind = .tcp → bytes ≠ [])

omit [Aead] [MessageCodec] in
theorem ofTask_join {t : TargetSide} (a b c : WsMessage) (h : JoinsFrames a b c) (ha : OfTask t a)
    (_ : OfTask t b) : OfTask t c := by
  obtain ⟨current, next, merged, id, p, q, rfl, rfl, rfl, hx, _, hxy⟩ := h
  intro frame i bytes hframe hdecode
  cases hframe
  rw [hxy] at hdecode
  cases hdecode
  obtain ⟨n, hn, hid, hne⟩ := ha current id p rfl hx
  exact ⟨n, hn, hid, fun htcp hnil => hne htcp (List.append_eq_nil_iff.mp hnil).1⟩

theorem ofTask_sent (h : SessionInv near k x) {frame : Bytes} (hm : (.binary, frame) ∈ x.channel.down.sent) :
    OfTask x.target (.binary frame) := by
  obtain ⟨rest, _, hmerged⟩ := h.writer.merged
  have hreceived : ∀ m ∈ x.writer.received, OfTask x.target m := by
    intro m hm frame id bytes hframe hdecode
    subst hframe
    exact h.target.whole.frames frame id bytes (h.queued.subset hm) hdecode
  have hpassed := hmerged.forall_mem ofTask_join hreceived
  obtain ⟨message, hmessage, hsealed⟩ := List.mem_filterMap.mp (h.passed.subset hm)
  have hbinary : message = .binary frame := by
    cases message <;> cases hsealed
    rfl
  subst hbinary
  exact hpassed _ (List.mem_append_left _ hmessage)

/-- A stream with a task was written with a start of the task's kind. -/
theorem started (h : SessionInv near k x) {n : Nat} (hn : n < x.target.tunnel.next) :
    .start (modeOf (x.target.tunnel.tasks n).kind) ∈ (near.view (x.target.tunnel.tasks n).id).written k :=
  (h.consumedBy_pre _).subset (h.target.whole.started n hn)

/-- The task of a TCP stream is a TCP task. -/
theorem kind_eq (h : SessionInv near k x) (hnear : LocalSideInv near) {n : Nat} (hn : n < x.target.tunnel.next)
    (hmode : (near.view (x.target.tunnel.tasks n).id).mode = .tcp) : (x.target.tunnel.tasks n).kind = .tcp := by
  have hstart := (hnear.stream _).mode_of_written (h.started hn)
  rw [hmode] at hstart
  cases hkind : (x.target.tunnel.tasks n).kind with
  | tcp => rfl
  | http =>
    rw [hkind] at hstart
    cases hstart
  | upload =>
    rw [hkind] at hstart
    cases hstart

/-- **What the gateway answers**, it may. -/
theorem answered (h : SessionInv near near.link.sessions x) (hnear : LocalSideInv near)
    (hm : x.channel.down.accepted ++ [m] <+: x.channel.down.sent) : Answered m near := by
  have hpre : ∀ id, (near.view id).received near.link.sessions ++ sealedEvents id m <+: x.target.producedFor id := by
    intro id
    have hdown := h.down id hm
    rw [← h.received, List.flatMap_append, List.flatMap_singleton] at hdown
    exact hdown
  have hmem : m ∈ x.channel.down.sent := hm.subset (List.mem_append_right _ List.mem_cons_self)
  refine ⟨fun id => ⟨fun hne => ?_, fun hs => ?_⟩, fun frame i bytes hframe hdecode => ?_,
    fun frame i bytes hframe hdecode hs => ?_⟩
  · have hproduced : x.target.producedFor id ≠ [] := by
      intro hnil
      exact hne (List.prefix_nil.mp (hnil ▸ hpre id))
    obtain ⟨n, hn, rfl⟩ := h.target.whole.produced id hproduced
    exact ⟨_, h.started hn, rfl⟩
  · by_cases hproduced : x.target.producedFor id = []
    · have hnil := List.prefix_nil.mp (hproduced ▸ hpre id)
      show Ordered ((near.view id).received near.link.sessions ++ sealedEvents id m)
      rw [hnil]
      exact List.Pairwise.nil
    · obtain ⟨n, hn, rfl⟩ := h.target.whole.produced id hproduced
      have hkind := h.kind_eq hnear hn ((hnear.stream _).mode_of_written hs).symm
      exact (h.target.stream n hn hkind).ordered.of_pre (hpre _)
  · subst hframe
    obtain ⟨n, hn, rfl, _⟩ := h.ofTask_sent hmem frame i bytes rfl hdecode
    exact ⟨_, h.started hn, rfl⟩
  · subst hframe
    obtain ⟨n, hn, rfl, hne⟩ := h.ofTask_sent hmem frame i bytes rfl hdecode
    exact hne (h.kind_eq hnear hn ((hnear.stream _).mode_of_written hs).symm)

end SessionInv

/-! ### The steps of the gateway's end -/

omit [Aead] in
theorem trace_received {s t : TargetSide} {m : TunnelFrameKind × Bytes} (hs : s.receive m = some t) :
    t.consumed = s.consumed ++ [m] ∧ t.produced = s.produced := by
  obtain ⟨_, hs⟩ := Option.ite_none_right_eq_some.mp hs
  obtain ⟨tunnel, _, rfl⟩ := Option.map_eq_some_iff.mp hs
  exact ⟨rfl, rfl⟩

omit [Aead] in
/-- Nothing else is consumed. -/
theorem trace_target {op : TargetOp} {s t : TargetSide} (hop : ∀ m, op ≠ .receive m)
    (hs : targetSide.step op s = some t) : t.consumed = s.consumed ∧ s.produced <+: t.produced := by
  cases op with
  | receive m => exact absurd rfl (hop m)
  | tunnel op =>
    obtain ⟨_, hs⟩ := Option.ite_none_right_eq_some.mp hs
    obtain ⟨tunnel, _, rfl⟩ := Option.map_eq_some_iff.mp hs
    unfold TargetSide.afterTunnel
    split
    · exact ⟨rfl, List.prefix_append _ _⟩
    · exact ⟨rfl, List.prefix_refl _⟩
  | task n op =>
    obtain ⟨_, hs⟩ := Option.ite_none_right_eq_some.mp hs
    obtain ⟨tunnel, _, rfl⟩ := Option.map_eq_some_iff.mp hs
    exact ⟨rfl, List.prefix_append _ _⟩
  | targetFails n error lost =>
    obtain ⟨tunnel, _, rfl⟩ := Option.map_eq_some_iff.mp hs
    exact ⟨rfl, List.prefix_refl _⟩
  | writeSome n count =>
    simp only [targetSide, TargetSide.writeSome] at hs
    split at hs
    · obtain ⟨_, hs⟩ := Option.ite_none_right_eq_some.mp hs
      cases hs
      exact ⟨rfl, List.prefix_refl _⟩
    · cases hs

namespace SessionInv
variable {near : LocalSide} {k : Nat} {x y : Session}

theorem receive {frame : Bytes} (h : SessionInv near k x) (hnear : LocalSideInv near)
    (hs : x.receive frame = some y) : SessionInv near k y := by
  unfold Session.receive at hs
  split at hs
  · rename_i m hm
    obtain ⟨target, htarget, rfl⟩ := Option.map_eq_some_iff.mp hs
    have hchannel : SecureChannel.ChannelInv (x.channel.decryptFromAccess frame) :=
      SecureChannel.channelInv_step h.channel
        (show SecureChannel.channel.step (.decrypt .gateway frame) x.channel = some _ from rfl)
    obtain ⟨haccepted, hsent, hdown⟩ := SecureChannel.State.decryptFromAccess_ok hm
    have hnext := hchannel.up.accepted
    rw [haccepted, hsent] at hnext
    obtain ⟨hconsumed, hproduced⟩ := trace_received htarget
    exact {
      channel := hchannel
      target := targetInv_receive h.target (h.delivers hnear hnext) htarget
      writer := h.writer
      sent := hsent.trans h.sent
      consumed := by rw [haccepted, hconsumed, h.consumed]
      queued := hproduced ▸ h.queued
      passed := by rw [hdown]; exact h.passed
      running := by rw [hdown]; exact h.running
      received := by rw [hdown]; exact h.received }
  · obtain ⟨_, hs⟩ := Option.ite_none_right_eq_some.mp hs
    split at hs
    · obtain ⟨target, htarget, rfl⟩ := Option.map_eq_some_iff.mp hs
      obtain ⟨hconsumed, hproduced⟩ := trace_target (fun _ hop => by cases hop)
        (show targetSide.step (.tunnel .finish) x.target = some target from htarget)
      exact { h with
        target := targetInv_tunnelStep h.target htarget
        consumed := hconsumed.trans h.consumed
        queued := h.queued.trans hproduced }
    · cases hs
      exact h

theorem targetStep {op : TargetOp} (h : SessionInv near k x) (hs : x.targetStep op = some y) :
    SessionInv near k y := by
  obtain ⟨hallows, hs⟩ := Option.ite_none_right_eq_some.mp hs
  obtain ⟨target, htarget, rfl⟩ := Option.map_eq_some_iff.mp hs
  have hop : ∀ m, op ≠ .receive m := by
    rintro m rfl
    cases hallows
  obtain ⟨hconsumed, hproduced⟩ := trace_target hop htarget
  have hstep := targetInv_step h.target (fun m hm => absurd hm (hop m)) htarget
  -- the writer is what it was, or its lease is cancelled
  have hsame : (Session.writerAfter op x.writer).received = x.writer.received ∧
      (Session.writerAfter op x.writer).encrypted = x.writer.encrypted ∧
      (Session.writerAfter op x.writer).phase = x.writer.phase ∧ InOrder (Session.writerAfter op x.writer) := by
    unfold Session.writerAfter
    split
    · exact ⟨rfl, rfl, rfl, h.writer.merged, h.writer.pending⟩
    · exact ⟨rfl, rfl, rfl, h.writer⟩
  obtain ⟨hreceived, hencrypted, hphase, hwriter⟩ := hsame
  exact { h with
    target := hstep
    writer := hwriter
    consumed := hconsumed.trans h.consumed
    queued := by
      show (Session.writerAfter op x.writer).received <+: target.produced
      rw [hreceived]
      exact h.queued.trans hproduced
    passed := by
      show _ <+: (Session.writerAfter op x.writer).encrypted.filterMap _
      rw [hencrypted]
      exact h.passed
    running := by
      show (Session.writerAfter op x.writer).phase ≠ .ended →
        _ = (Session.writerAfter op x.writer).encrypted.filterMap _
      rw [hencrypted, hphase]
      exact h.running }

/-- The queue gives its first message. -/
theorem queued_step {op : LoopOp} (h : SessionInv near k x) (hallows : x.writerAllows op = true) :
    x.writer.received ++ op.answer.toList <+: x.target.produced := by
  have hhead : x.writer.received ++ x.queue.head?.toList <+: x.target.produced := by
    obtain ⟨rest, hrest⟩ := h.queued
    have hqueue : x.queue = rest := by
      unfold Session.queue
      rw [← hrest, List.drop_left]
    rw [hqueue, ← hrest]
    cases rest with
    | nil => simp
    | cons m rest => exact (List.prefix_append_right_inj _).mpr ⟨rest, rfl⟩
  cases op with
  | recv answer =>
    obtain ⟨rfl, _⟩ := of_decide_eq_true hallows
    exact hhead
  | tryRecv answer =>
    obtain rfl := of_decide_eq_true hallows
    exact hhead
  | _ =>
    simp only [LoopOp.answer, Option.toList_none, List.append_nil]
    exact h.queued

/-- The writer and its cipher go on together: what is sealed is what was passed on. -/
theorem sealing {op : LoopOp} {writer : WriterLoop} {channel : SecureChannel.State} (h : SessionInv near k x)
    (hallows : x.writerAllows op = true)
    (hwriter : (writerLoop .gateway).step op { x.writer with cipher := x.channel.gateway } = some writer)
    (hchannel : SecureChannel.ChannelInv channel) (hup : channel.up = x.channel.up)
    (haccepted : channel.down.accepted = x.channel.down.accepted)
    (hpassed : channel.down.sent <+: writer.encrypted.filterMap WsMessage.sealedAs)
    (hrunning : writer.phase ≠ .ended → channel.down.sent = writer.encrypted.filterMap WsMessage.sealedAs) :
    SessionInv near k { x with writer, channel } where
  channel := hchannel
  target := h.target
  writer := inOrder_step (w := { x.writer with cipher := x.channel.gateway }) ⟨h.writer.merged, h.writer.pending⟩
    hwriter
  sent := by rw [hup]; exact h.sent
  consumed := by rw [hup]; exact h.consumed
  queued := by
    rw [received_step hwriter]
    exact h.queued_step hallows
  passed := hpassed
  running := hrunning
  received := h.received.trans haccepted.symm

omit [Aead] [MessageCodec] in
/-- Where the writer feeds nothing it seals nothing. -/
theorem sealing_eq_none {op : LoopOp} {w : WriterLoop}
    (hnot : ∀ message batch, op = .feed → w.phase ≠ .writing (message :: batch)) : Session.sealing op w = none := by
  unfold Session.sealing
  split
  · rename_i message batch hphase
    exact absurd hphase (hnot message batch rfl)
  · rfl

theorem writerStep {op : LoopOp} (h : SessionInv near k x) (hs : x.writerStep op = some y) :
    SessionInv near k y := by
  obtain ⟨hallows, hs⟩ := Option.ite_none_right_eq_some.mp hs
  obtain ⟨writer, hwriter, rfl⟩ := Option.map_eq_some_iff.mp hs
  rcases encrypted_step hwriter with ⟨message, batch, rfl, hphase, hencrypted, hresult⟩ | ⟨hnot, hnone⟩
  · have hphase : x.writer.phase = .writing (message :: batch) := hphase
    have hdown : x.channel.down.sent = x.writer.encrypted.filterMap WsMessage.sealedAs :=
      h.running (by rw [hphase]; simp)
    have hencrypted : writer.encrypted = x.writer.encrypted ++ [message] := hencrypted
    have hsealing : Session.sealing .feed x.writer = message.sealedAs := by simp only [Session.sealing, hphase]
    rw [hsealing]
    cases hsealed : message.sealedAs with
    | none =>
      have hsame : writer.encrypted.filterMap WsMessage.sealedAs = x.channel.down.sent := by
        rw [hencrypted, List.filterMap_append, hdown, List.filterMap_cons, hsealed, List.filterMap_nil,
          List.append_nil]
      exact h.sealing hallows hwriter h.channel rfl rfl (by rw [hsame]; exact List.prefix_refl _)
        fun _ => hsame.symm
    | some r =>
      obtain ⟨kind, payload⟩ := r
      have hlonger : writer.encrypted.filterMap WsMessage.sealedAs = x.channel.down.sent ++ [(kind, payload)] := by
        rw [hencrypted, List.filterMap_append, hdown, List.filterMap_cons, hsealed, List.filterMap_nil]
      have hchannel : SecureChannel.ChannelInv (x.channel.encryptFromGateway kind payload) :=
        SecureChannel.channelInv_encryptFromGateway h.channel
      have hcipher := encryptGatewayMessage_sealed hsealed x.channel.gateway
      cases hr : x.channel.gateway.encryptFromGateway kind payload with
      | ok r =>
        obtain ⟨hsent, haccepted, hup⟩ := SecureChannel.State.encryptFromGateway_ok hr
        exact h.sealing hallows hwriter hchannel hup haccepted (by rw [hlonger, ← hsent]; exact List.prefix_refl _)
          fun _ => hsent.trans hlonger.symm
      | error e =>
        rw [hr] at hcipher
        have hended : writer.phase = .ended := by
          rcases hresult with ⟨r, hok⟩ | ⟨_, hended⟩
          · cases hcipher.symm.trans hok
          · exact hended
        rw [Option.elim_some, SecureChannel.State.encryptFromGateway_error hr]
        refine h.sealing hallows hwriter h.channel rfl rfl ?_ fun hrunning => absurd hended hrunning
        rw [hlonger]
        exact List.prefix_append _ _
  · have hencrypted : writer.encrypted = x.writer.encrypted := hnone.encrypted
    rw [sealing_eq_none (w := x.writer) hnot]
    refine h.sealing hallows hwriter h.channel rfl rfl ?_ fun hrunning => ?_
    · rw [hencrypted]
      exact h.passed
    · rw [hencrypted]
      exact h.running fun hended => hrunning (hnone.ended hended)

theorem foreign {r : Sealed} (h : SessionInv near k x) (hs : x.foreign r = some y) : SessionInv near k y := by
  obtain ⟨channel, hchannel, rfl⟩ := Option.map_eq_some_iff.mp hs
  have hinv := SecureChannel.channelInv_step h.channel hchannel
  simp only [SecureChannel.channel, Option.ite_none_left_eq_some] at hchannel
  obtain ⟨_, hchannel⟩ := hchannel
  cases hchannel
  exact { h with channel := hinv }

/-- **Every step of the gateway's end.** -/
theorem step {op : FarOp} (h : SessionInv near k x) (hnear : LocalSideInv near) (hs : x.step op = some y) :
    SessionInv near k y := by
  cases op with
  | receive frame => exact h.receive hnear hs
  | target op => exact h.targetStep hs
  | writer op => exact h.writerStep hs
  | foreign r => exact h.foreign hs

end SessionInv

/-! ### The steps of the access's end -/

variable {near near' : LocalSide} {k : Nat} {x : Session}

theorem SessionInv.same (h : SessionInv near k x) (hsame : SameTrace near near') : SessionInv near' k x :=
  { h with
    sent := by
      rw [LocalSide.writtenIn, hsame.written]
      exact h.sent
    received := by
      rw [hsame.received]
      exact h.received }

/-- What the pipeline keeps. -/
structure PipelineInv (s : Pipeline) : Prop where
  near : LocalSideInv s.near
  sessions : ∀ k, SessionInv s.near k (s.sessions k)

variable {s t : Pipeline}

theorem pipelineInv_initial (h : pipeline.Initial s) : PipelineInv s := by
  obtain ⟨hnear, hsessions⟩ := h
  refine ⟨hnear ▸ localSideInv_initial, fun k => ?_⟩
  obtain ⟨hchannel, htarget, cipher, hwriter⟩ := hsessions k
  have hinv := SecureChannel.channelInv_initial hchannel
  obtain ⟨_, _, hup, hdown⟩ := hchannel
  have hwritten : s.near.writtenIn k = [] := by rw [hnear]; rfl
  have hreceived : s.near.received k = [] := by rw [hnear]
  exact {
    channel := hinv
    target := htarget ▸ targetInv_initial
    writer := by
      rw [hwriter]
      exact ⟨⟨[], fun _ => rfl, .nil⟩, fun hg => by cases hg⟩
    sent := by rw [hup, hwritten]; rfl
    consumed := by rw [hup, htarget]; rfl
    queued := by rw [hwriter]; exact List.nil_prefix
    passed := by rw [hdown]; exact List.nil_prefix
    running := by rw [hdown, hwriter]; exact fun _ => rfl
    received := by rw [hdown, hreceived]; rfl }

theorem pipelineInv_near {op : LocalOp} (h : PipelineInv s) (hs : s.nearStep op = some t) : PipelineInv t := by
  obtain ⟨hallows, hs⟩ := Option.ite_none_right_eq_some.mp hs
  obtain ⟨near, hnear, rfl⟩ := Option.map_eq_some_iff.mp hs
  have hreceive : ∀ m bodyGone, op ≠ .receive m bodyGone := by
    rintro m bodyGone rfl
    cases hallows
  have hfeed : op ≠ .link (.writer .feed) := by
    rintro rfl
    cases hallows
  have hsame := sameTrace_step hreceive hfeed hnear
  exact ⟨localSideInv_step h.near hnear fun m bodyGone hop => absurd hop (hreceive m bodyGone),
    fun k => (h.sessions k).same hsame⟩

/-- A step of both ends of the session that runs. -/
theorem pipelineInv_setChannel {near : LocalSide} {channel : SecureChannel.State}
    (hnear : LocalSideInv near)
    (hother : ∀ k, k ≠ s.near.link.sessions → SessionInv near k (s.sessions k))
    (hself : SessionInv near s.near.link.sessions { s.sessions s.near.link.sessions with channel }) :
    PipelineInv { s.setChannel channel with near } := by
  refine ⟨hnear, fun k => ?_⟩
  show SessionInv near k (Function.update s.sessions _ _ k)
  by_cases hk : k = s.near.link.sessions
  · rw [hk, Function.update_self]
    exact hself
  · rw [Function.update_of_ne hk]
    exact hother k hk

omit [Aead] [MessageCodec] in
theorem writtenIn_feed {message : WsMessage} {told : Bool}
    (h : near'.link.written = near.link.written ++ [⟨near.link.sessions, message, told⟩]) (k : Nat) :
    near'.writtenIn k = near.writtenIn k ++ if k = near.link.sessions then [message] else [] := by
  unfold LocalSide.writtenIn
  rw [h, List.filter_append, List.map_append]
  congr 1
  by_cases hk : k = near.link.sessions
  · subst hk
    simp
  · rw [if_neg hk]
    simp only [List.filter_cons, List.filter_nil, decide_eq_true_eq]
    rw [if_neg fun h => hk h.symm]
    rfl

theorem pipelineInv_feed (h : PipelineInv s) (hs : s.feed = some t) : PipelineInv t := by
  unfold Pipeline.feed at hs
  split at hs
  · rename_i message batch hphase
    split at hs
    · rename_i r hok
      obtain ⟨near, hnear, rfl⟩ := Option.map_eq_some_iff.mp hs
      obtain ⟨hreceived, _, told, hwritten⟩ := trace_feed hphase hnear
      have hwrittenIn := writtenIn_feed hwritten
      refine pipelineInv_setChannel (localSideInv_link h.near hnear) (fun k hk => ?_) ?_
      · have hold := h.sessions k
        exact { hold with
          sent := by rw [hwrittenIn, if_neg hk, List.append_nil]; exact hold.sent
          received := by rw [hreceived]; exact hold.received }
      · have hold := h.sessions s.near.link.sessions
        have hsent : (near.writtenIn s.near.link.sessions).filterMap WsMessage.sealedAs =
            s.channel.up.sent ++ message.sealedAs.toList := by
          rw [hwrittenIn, if_pos rfl, List.filterMap_append, ← hold.sent, List.filterMap_cons, List.filterMap_nil]
          cases message.sealedAs <;> rfl
        cases hsealed : message.sealedAs with
        | none =>
          rw [hsealed, Option.toList_none, List.append_nil] at hsent
          exact { hold with
            sent := hsent.symm
            received := by rw [hreceived]; exact hold.received }
        | some m =>
          obtain ⟨kind, payload⟩ := m
          rw [hsealed, Option.toList_some] at hsent
          have hencrypt : ∃ r, s.channel.access.encryptFromAccess kind payload = .ok r := by
            have hcipher := encryptAccessMessage_sealed hsealed s.channel.access
            cases hr : s.channel.access.encryptFromAccess kind payload with
            | ok r => exact ⟨r, rfl⟩
            | error e =>
              rw [hr] at hcipher
              cases hcipher.symm.trans hok
          obtain ⟨r, hr⟩ := hencrypt
          obtain ⟨hup, haccepted, hdown⟩ := SecureChannel.State.encryptFromAccess_ok hr
          exact { hold with
            channel := SecureChannel.channelInv_encryptFromAccess hold.channel
            sent := hup.trans hsent.symm
            consumed := hold.consumed.trans haccepted.symm
            passed := by rw [Option.elim_some, hdown]; exact hold.passed
            running := by rw [Option.elim_some, hdown]; exact hold.running
            received := by rw [Option.elim_some, hdown, hreceived]; exact hold.received }
    · obtain ⟨near, hnear, rfl⟩ := Option.map_eq_some_iff.mp hs
      have hsame := sameTrace_step (fun _ _ h => by cases h) (fun h => by cases h)
        (show localSide.step (.link .lose) s.near = some near from hnear)
      exact ⟨localSideInv_link h.near hnear, fun k => (h.sessions k).same hsame⟩
  · cases hs

theorem pipelineInv_receive {frame : Bytes} {bodyGone : Bool} (h : PipelineInv s)
    (hs : s.receive frame bodyGone = some t) : PipelineInv t := by
  unfold Pipeline.receive at hs
  split at hs
  · rename_i m hm
    obtain ⟨near, hnear, rfl⟩ := Option.map_eq_some_iff.mp hs
    have hold := h.sessions s.near.link.sessions
    have hchannel : SecureChannel.ChannelInv (s.channel.decryptFromGateway frame) :=
      SecureChannel.channelInv_step hold.channel
        (show SecureChannel.channel.step (.decrypt .access frame) s.channel = some _ from rfl)
    obtain ⟨haccepted, hsent, hup⟩ := SecureChannel.State.decryptFromGateway_ok hm
    have hnext := hchannel.down.accepted
    rw [haccepted, hsent] at hnext
    obtain ⟨hwritten, hreceived⟩ := trace_receive hnear
    have hsame : ∀ k, near.writtenIn k = s.near.writtenIn k := by
      intro k
      rw [LocalSide.writtenIn, hwritten, LocalSide.writtenIn]
    refine pipelineInv_setChannel (localSideInv_receive h.near (hold.answered h.near hnext) hnear) (fun k hk => ?_) ?_
    · have hold := h.sessions k
      exact { hold with
        sent := by rw [hsame]; exact hold.sent
        received := by rw [hreceived, Function.update_of_ne hk]; exact hold.received }
    · exact { hold with
        channel := hchannel
        sent := by rw [hsame, hup]; exact hold.sent
        consumed := by rw [hup]; exact hold.consumed
        passed := by rw [hsent]; exact hold.passed
        running := by rw [hsent]; exact hold.running
        received := by rw [hreceived, Function.update_self, haccepted, hold.received]; rfl }
  · obtain ⟨_, hs⟩ := Option.ite_none_right_eq_some.mp hs
    cases hs
    exact ⟨h.near.lose, fun k => (h.sessions k).same ⟨rfl, rfl⟩⟩

theorem pipelineInv_far {op : FarOp} (h : PipelineInv s) (hs : s.far k op = some t) : PipelineInv t := by
  obtain ⟨_, hs⟩ := Option.ite_none_right_eq_some.mp hs
  obtain ⟨x, hx, rfl⟩ := Option.map_eq_some_iff.mp hs
  refine ⟨h.near, fun j => ?_⟩
  show SessionInv s.near j (Function.update s.sessions k x j)
  by_cases hj : j = k
  · rw [hj, Function.update_self]
    exact (h.sessions k).step h.near hx
  · rw [Function.update_of_ne hj]
    exact h.sessions j

/-- **Every step of the pipeline keeps the invariant.** -/
theorem pipelineInv_step {op : PipelineOp} (h : PipelineInv s) (hs : pipeline.step op s = some t) :
    PipelineInv t := by
  cases op with
  | near op => exact pipelineInv_near h hs
  | feed => exact pipelineInv_feed h hs
  | receive frame bodyGone => exact pipelineInv_receive h hs
  | far k op => exact pipelineInv_far h hs

theorem pipelineInv_reachable (h : pipeline.Reachable s) : PipelineInv s :=
  h.invariant (fun _ => pipelineInv_initial) fun _ _ _ _ hinv _ hs => pipelineInv_step hinv hs

end Pipeline

end WsNet.Relay
