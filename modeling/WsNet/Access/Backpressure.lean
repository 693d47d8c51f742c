import WsNet.Access.SessionInvariant

/-! Waits of the session task.

In the body of a branch the session task waits for a permit of the queue, which only
its own writer frees, or for room in a stream's channel, which only the stream's
handler makes; and the handler may itself wait for the queue. A wait is the task's
own when nothing that the handlers do can end it. Time limits and interruptions do
not count: they end the session, or drop a handler, without what is waited for.

A wait for the full queue is such a wait, and a heartbeat runs into it
(`heartbeat_blocks`). Under `InTurn` no wait is (`never_self_blocked`). -/
namespace WsNet.Access
open Data Transition

/-! ### The wait -/

/-- What the session task waits for is there. -/
def Ready (s : SessionState) : Prop :=
  match s.phase with
  | .sending _ => .session ∈ s.outbound.granted
  | .delivering id _ => () ∈ (s.streams id).channel.granted ∨ (s.streams id).phase = .gone
  | _ => True

/-- The handlers' own steps: no time limit, and nothing that drops a handler. -/
def SessionOp.ofHandlers : SessionOp → Bool
  | .openTcp _ _ | .startHttp _ _ _ => true
  | .openTimeout _ | .dropped _ => false
  | op => op.handler.isSome

theorem ofSession_of_handlers {op : SessionOp} (h : op.ofHandlers = true) : op.ofSession = false := by
  cases op <;> first | rfl | exact absurd h Bool.false_ne_true

/-! ### The rule -/

/-- The handler will come to read its stream's channel: the answer has come, and it
does not wait for the queue, or the answer ends that wait. -/
def Attends (id : StreamId) (s : SessionState) : Prop :=
  ((s.streams id).phase.awaitsAnswer = true → (s.streams id).answer.isSome = true) ∧
    (.handler id ∈ s.outbound.waiting → (s.streams id).phase.cancellable = true)

instance (id : StreamId) (s : SessionState) : Decidable (Attends id s) :=
  inferInstanceAs (Decidable ((_ → _) ∧ (_ → _)))

/-- The step has the session task send, in the body of a branch. -/
def sessionSends (op : SessionOp) (s : SessionState) : Bool :=
  match op with
  | .heartbeat | .undelivered => true
  | .message m => m = .ping
  | .data id _ =>
    match s.connection.target id with
    | .unknown => id ∉ s.connection.unknownStreams
    | _ => (s.streams id).phase = .gone
  | _ => false

/-- The stream whose full channel the session task starts to wait for. -/
def sessionWaitsFor (op : SessionOp) (s : SessionState) : Option StreamId :=
  match op with
  | .data id _ =>
    if s.connection.target id ≠ .unknown ∧ (s.streams id).channel.Full then some id else none
  | _ => none

/-- The TCP stream whose handler sends. -/
def SessionOp.forwards : SessionOp → Option StreamId
  | .readLocal id _ | .localEof id | .finish id _ | .closedSeen id => some id
  | _ => none

/-- The session task sends only when the queue has room, waits only for a handler
that attends, and while it waits for a TCP handler that one does not send into a full
queue. -/
def InTurn (op : SessionOp) (s : SessionState) : Prop :=
  (sessionSends op s = true → ¬ s.outbound.Full) ∧
    (∀ id ∈ sessionWaitsFor op s, Attends id s) ∧
    (∀ id ∈ op.forwards, s.outbound.Full → s.phase.deliversTo id = false)

instance (op : SessionOp) (s : SessionState) : Decidable (InTurn op s) :=
  inferInstanceAs (Decidable (_ ∧ _ ∧ _))

/-! ### Under the rule -/

/-- The session task does not wait for the queue, and the handler it waits for attends. -/
structure Unblocked (s : SessionState) : Prop where
  sending : ∀ m, s.phase ≠ .sending m
  delivering : ∀ id, s.phase.deliversTo id = true → () ∈ (s.streams id).channel.waiting → Attends id s

theorem Unblocked.of_phase {s : SessionState} (hs : ∀ m, s.phase ≠ .sending m)
    (hd : ∀ id, s.phase.deliversTo id = false) : Unblocked s :=
  ⟨hs, fun id hid => absurd hid (by rw [hd id]; exact Bool.false_ne_true)⟩

theorem Unblocked.of_select {s : SessionState} (h : s.phase = .select) : Unblocked s :=
  .of_phase (fun m hm => by rw [h] at hm; cases hm) (fun id => by rw [h]; rfl)

/-- A handler that does not send attends, if its answer has come. -/
theorem attends_of_sends {id : StreamId} {s : SessionState} (hs : Sends id s)
    (hm : (s.streams id).phase.message = none)
    (ha : (s.streams id).phase.awaitsAnswer = true → (s.streams id).answer.isSome = true) : Attends id s := by
  refine ⟨ha, fun hw => ?_⟩
  have hsome := hs.senders.mp (BoundedChannel.mem_senders.mpr (.inr hw))
  rw [hm] at hsome
  cases hsome

theorem attends_enqueue {id : StreamId} {phase : HandlerPhase} {message : WsMessage} {s : SessionState}
    (hid : .handler id ∉ s.outbound.senders)
    (ha : phase.awaitsAnswer = true → (s.streams id).answer.isSome = true)
    (hc : s.outbound.Full → phase.cancellable = true) : Attends id (s.enqueue id phase message) := by
  unfold SessionState.enqueue
  split
  · refine ⟨fun hgone => ?_, fun hw => ?_⟩
    · rw [SessionState.leave, SessionState.phase_setPhase] at hgone
      cases hgone
    · have hw : .handler id ∈ (s.outbound.withdraw (.handler id)).waiting := hw
      have hmem := BoundedChannel.mem_senders.mpr (.inr hw)
      rw [BoundedChannel.senders_withdraw] at hmem
      exact absurd (List.mem_of_mem_erase hmem) hid
  · split
    · rename_i o ho
      refine ⟨fun hn => ?_, fun hw => ?_⟩
      · rw [SessionState.phase_setPhase] at hn
        rw [SessionState.answer_setPhase]
        exact ha (HandlerPhase.awaitsAnswer_next hn)
      · have hw : .handler id ∈ o.waiting := hw
        rw [(BoundedChannel.trySend_eq_some ho).2.2.2] at hw
        exact absurd (BoundedChannel.mem_senders.mpr (.inr hw)) hid
    · rename_i ho
      refine ⟨fun hn => ?_, fun _ => ?_⟩
      · rw [SessionState.phase_setPhase] at hn
        rw [SessionState.answer_setPhase]
        exact ha hn
      · rw [SessionState.phase_setPhase]
        exact hc (BoundedChannel.trySend_eq_none.mp ho)

/-- A forwarded message finds room. -/
theorem attends_forward {id : StreamId} {phase : HandlerPhase} {message : WsMessage} {s : SessionState}
    (hid : .handler id ∉ s.outbound.senders) (ha : phase.awaitsAnswer = false)
    (hroom : ¬ s.outbound.Full) : Attends id (s.enqueue id phase message) := by
  refine attends_enqueue hid (fun h => ?_) fun hf => absurd hf hroom
  rw [ha] at h
  cases h

theorem unblocked_lost {s : SessionState} {reason : String} : Unblocked (s.lost reason) :=
  .of_phase (fun _ hm => nomatch hm) (fun _ => rfl)

/-- A step that leaves the session task's phase is a handler's, or the start of one. -/
theorem unblocked_touches {id : StreamId} {s t : SessionState} (h : Unblocked s) (ht : Touches id s t)
    (ha : s.phase.deliversTo id = true → Attends id s → Attends id t) : Unblocked t where
  sending m := by
    rw [ht.phase]
    exact h.sending m
  delivering j hj hw := by
    rw [ht.phase] at hj
    by_cases hji : j = id
    · subst hji
      exact ha hj (h.delivering j hj (ht.waiting hw))
    · rw [ht.others j hji] at hw
      have hattends := h.delivering j hj hw
      rw [Attends, ht.others j hji]
      exact ⟨hattends.1, fun hm => hattends.2 (ht.acts.mem_waiting_of_ne (by simp [hji]) hm)⟩

/-! ### Every step -/

section Steps
variable [MessageCodec] {s t : SessionState}

omit [MessageCodec] in
theorem answer_preparing (id : StreamId) (op : SessionOp) (s : SessionState) :
    ((s.preparing id op).streams id).answer = (s.streams id).answer := by
  unfold SessionState.preparing
  split <;> first | rfl | rw [SessionState.stream_setStream]

/-- What a handler that attends sends: a part of an upload, whose wait the answer ends,
or what is forwarded, with room in the queue. -/
theorem attends_submits {id : StreamId} {op : SessionOp} {phase : HandlerPhase} {m : WsMessage}
    (h : Consistent s) (ha : Attends id s) (hsubmits : Submits id (s.streams id) op phase)
    (hroom : op.forwards = some id → ¬ s.outbound.Full) :
    Attends id ((s.preparing id op).enqueue id phase m) := by
  have hn := (h.preparing hsubmits).2
  cases hsubmits with
  | openTimeout _ hp hnone =>
    have hsome := ha.1 (by rw [hp]; rfl)
    rw [hnone] at hsome
    cases hsome
  | upload hp | uploadEnd hp | uploadFails hp =>
    refine attends_enqueue hn (fun _ => ?_) fun _ => rfl
    rw [answer_preparing]
    exact ha.1 (by rw [hp]; rfl)
  | readLocal | localEof | finish => exact attends_forward hn rfl (hroom rfl)
  | closedSeen => exact attends_forward hn rfl (BoundedChannel.not_full_withdraw (hroom rfl))

/-- A handler that attends goes on attending. -/
theorem attends_step {id : StreamId} {op : SessionOp} (h : Consistent s) (ha : Attends id s)
    (hop : op.handler = some id) (hr : InTurn op s)
    (hd : s.phase.deliversTo id = true) (hs : session.step op s = some t) : Attends id t := by
  obtain ⟨_, hsends, _⟩ := touches_step h hop hs
  have room : op.forwards = some id → ¬ s.outbound.Full := by
    intro hf hfull
    have hno := hr.2.2 id hf hfull
    rw [hd] at hno
    cases hno
  cases handlerMove_of_step hop hs with
  | enqueued =>
    refine attends_of_sends hsends (by simp) fun hn => ?_
    rw [SessionState.phase_setPhase] at hn
    rw [SessionState.answer_setPhase]
    exact ha.1 (HandlerPhase.awaitsAnswer_next hn)
  | opened =>
    obtain ⟨hm, hawaits, _⟩ := HandlerPhase.opened_cases (s.streams id).mode
    refine attends_of_sends hsends (by rw [SessionState.phase_setPhase]; exact hm) fun hn => ?_
    rw [SessionState.phase_setPhase, hawaits] at hn
    cases hn
  | submits hsubmits => exact attends_submits h ha hsubmits room
  | failed =>
    exact attends_of_sends hsends (by simp [SessionState.leave, HandlerPhase.message])
      (by simp [SessionState.leave, HandlerPhase.awaitsAnswer])
  | unsent hp | remoteEof hp | clientReads hp =>
    exact attends_of_sends hsends (by simp [SessionState.setChannel, hp, HandlerPhase.message])
      (by simp [SessionState.setChannel, hp, HandlerPhase.awaitsAnswer])
  | early | recvRemote | wrote | bodyClosed | dropped =>
    exact attends_of_sends hsends (by simp [HandlerPhase.message]) (by simp [HandlerPhase.awaitsAnswer])

/-- With room in the queue the session task sends at once. -/
theorem unblocked_sendText {m : Message} (h : ¬ s.outbound.Full) : Unblocked (s.sendText m) := by
  refine Unblocked.of_select ?_
  unfold SessionState.sendText
  split
  · rfl
  · rename_i ho
    exact absurd (BoundedChannel.trySend_eq_none.mp ho) h

theorem unblocked_message {m : Message} (hp : s.phase = .select)
    (hr : m = .ping → ¬ s.outbound.Full) : Unblocked (s.message m) := by
  unfold SessionState.message
  split
  · exact .of_select hp
  · rename_i answer hm
    have hping : m = .ping := by
      cases m with
      | ping => rfl
      | error id code text => cases id <;> cases hm
      | _ => cases hm
    exact unblocked_sendText (hr hping)
  · exact unblocked_lost

theorem unblocked_data {id : StreamId} {payload : Bytes} (hp : s.phase = .select)
    (hr : InTurn (.data id payload) s) : Unblocked (s.data id payload) := by
  have hsends := hr.1
  have hwaits := hr.2.1
  simp only [sessionSends] at hsends
  simp only [sessionWaitsFor] at hwaits
  have hdeliver : s.connection.target id ≠ .unknown → ((s.streams id).phase = .gone → ¬ s.outbound.Full) →
      Unblocked (s.deliver id payload) := by
    intro ht hgone
    unfold SessionState.deliver
    split
    · rename_i hphase
      exact unblocked_sendText (hgone hphase)
    · split
      · exact .of_select hp
      · rename_i hc
        have hattends : Attends id s := hwaits id (by
          rw [if_pos ⟨ht, BoundedChannel.trySend_eq_none.mp hc⟩]
          rfl)
        refine ⟨nofun, fun j hj _ => ?_⟩
        have hid : id = j := of_decide_eq_true hj
        subst hid
        simp only [Attends, SessionState.setChannel, SessionState.stream_setStream]
        exact hattends
  unfold SessionState.data
  split
  · rename_i ht
    exact hdeliver (by simp [ht]) (fun hgone => hsends (by simp [ht, hgone]))
  · rename_i ht
    exact hdeliver (by simp [ht]) (fun hgone => hsends (by simp [ht, hgone]))
  · rename_i ht
    split
    · exact .of_select hp
    · rename_i hunknown
      exact unblocked_sendText (hsends (by simp [ht, hunknown]))

theorem unblocked_session {op : SessionOp} (hc : Consistent s) (h : Unblocked s) (hr : InTurn op s)
    (hop : op.ofSession = true) (hs : session.step op s = some t) : Unblocked t := by
  cases sessionMove_of_step hop hs with
  | writer hp => exact .of_select hp
  | heartbeat => exact unblocked_sendText (hr.1 rfl)
  | message hp => exact unblocked_message hp fun hm => hr.1 (by simp [sessionSends, hm])
  | data hp => exact unblocked_data hp hr
  | @sent m _ hp => exact absurd hp (h.sending m)
  | delivered | connect => exact .of_select rfl
  | undelivered =>
    obtain ⟨_, _, hout, _⟩ := serves_abandon hc.placed
    refine unblocked_sendText ?_
    show ¬ s.abandon.outbound.Full
    rw [hout]
    exact hr.1 rfl
  | lost => exact unblocked_lost
  | drain hp =>
    refine .of_phase (fun m hm => h.sending m hm) fun id => ?_
    show s.phase.deliversTo id = false
    rw [hp]
    rfl
  | drained => exact .of_phase (fun m hm => by cases hm) (fun _ => rfl)

theorem unblocked_step {op : SessionOp} (hc : Consistent s) (h : Unblocked s) (hr : InTurn op s)
    (hs : session.step op s = some t) : Unblocked t := by
  rcases step_cases hc hs with ⟨hsession, _⟩ | ⟨id, hid, htouches, _⟩ | ⟨mode, c, message, hreg, rfl⟩
  · exact unblocked_session hc h hr hsession hs
  · exact unblocked_touches h htouches fun hd ha => attends_step hc ha hid hr hd hs
  · obtain ⟨_, htouches, _⟩ := touches_submit message hc hreg
    have hother : ∀ j, s.phase.deliversTo j = true → j ≠ s.connection.streamIds := fun j hj =>
      Nat.ne_of_lt (hc.delivering j hj)
    have hregistered : Unblocked
        ({ s with connection := c }.setStream s.connection.streamIds { mode }) := by
      refine ⟨h.sending, fun j hj hw => ?_⟩
      simp only [SessionState.setStream, Function.update_of_ne (hother j hj)] at hw
      simp only [Attends, SessionState.setStream, Function.update_of_ne (hother j hj)]
      exact h.delivering j hj hw
    exact unblocked_touches hregistered htouches fun hd => absurd rfl (hother _ hd)

end Steps

section Claims
variable [MessageCodec]

def ByHandlers : SessionOp → SessionState → Prop := fun op _ => op.ofHandlers = true

instance (op : SessionOp) (s : SessionState) : Decidable (ByHandlers op s) :=
  inferInstanceAs (Decidable (_ = _))

/-- Only the session task's own progress can provide what it waits for. -/
def SelfBlocked (s : SessionState) : Prop := ∀ t, session.StepsUnder ByHandlers s t → ¬ Ready t

/-! ### The wait for the full queue -/

/-- The acting handler of a step that is not the session task's. -/
theorem acts_of_handlers {op : SessionOp} {s t : SessionState} (h : Consistent s)
    (hop : op.ofHandlers = true) (hs : session.step op s = some t) :
    t.phase = s.phase ∧ ∃ id, s.outbound.Acts (.handler id) t.outbound := by
  rcases step_cases h hs with ⟨hsession, _⟩ | ⟨id, _, htouches, _⟩ | ⟨mode, c, message, hc, rfl⟩
  · rw [ofSession_of_handlers hop] at hsession
    cases hsession
  · exact ⟨htouches.phase, id, htouches.acts⟩
  · obtain ⟨_, htouches, _⟩ := touches_submit message h hc
    exact ⟨htouches.phase, _, htouches.acts⟩

/-- **The writer is not polled in the body of a branch**: once every permit of the
queue is under a message, a wait of the session task for the queue is its own. -/
theorem selfBlocked_of_full {s : SessionState} {m : WsMessage} (h : Consistent s)
    (hp : s.phase = .sending m) (hf : s.outbound.Full) (hg : s.outbound.granted = []) :
    SelfBlocked s := by
  intro t ht
  have key : Consistent t ∧ t.phase = .sending m ∧ t.outbound.Full ∧ t.outbound.granted = [] := by
    refine ht.preserves (P := fun t => Consistent t ∧ t.phase = .sending m ∧ t.outbound.Full ∧
      t.outbound.granted = []) ?_ ⟨h, hp, hf, hg⟩
    intro op s t hblocked hop hs
    obtain ⟨h, hp, hf, hg⟩ := hblocked
    obtain ⟨hphase, id, hacts⟩ := acts_of_handlers h hop hs
    exact ⟨consistent_step h hs, hphase.trans hp, hacts.stuck hf hg⟩
  obtain ⟨_, hp, _, hg⟩ := key
  simp only [Ready, hp, hg]
  exact List.not_mem_nil

/-! ### The handlers make room -/

/-- Some run of the handlers ends the wait. -/
def Relieved (s : SessionState) : Prop := ∃ t, session.StepsUnder ByHandlers s t ∧ Ready t

theorem Relieved.step {op : SessionOp} {s t : SessionState} (hop : op.ofHandlers = true)
    (hs : session.step op s = some t) (h : Relieved t) : Relieved s := by
  obtain ⟨u, hu, hready⟩ := h
  exact ⟨u, Machine.StepsUnder.trans (.tail (.refl s) hop hs) hu, hready⟩

theorem Relieved.of_ready {s : SessionState} (h : Ready s) : Relieved s := ⟨s, .refl s, h⟩

/-- The session task waits for room in the stream's channel. -/
structure Waits (id : StreamId) (payload : Bytes) (s : SessionState) : Prop where
  consistent : Consistent s
  phase : s.phase = .delivering id payload
  waiting : () ∈ (s.streams id).channel.waiting

variable {id : StreamId} {payload : Bytes} {s t : SessionState}

omit [MessageCodec] in
theorem Waits.deliversTo (h : Waits id payload s) : s.phase.deliversTo id = true := by
  rw [h.phase]
  exact decide_eq_true rfl

/-- It goes on waiting while the handler does not touch the channel. -/
theorem Waits.next {op : SessionOp} (h : Waits id payload s) (hop : op.handler = some id)
    (hs : session.step op s = some t) (hch : (t.streams id).channel = (s.streams id).channel) :
    Waits id payload t := by
  obtain ⟨htouches, _⟩ := touches_step h.consistent hop hs
  exact ⟨consistent_step h.consistent hs, htouches.phase.trans h.phase, hch ▸ h.waiting⟩

omit [MessageCodec] in
/-- The channel is full, so there is something to receive, and the permit goes to the
session task. -/
theorem Waits.recv (h : Waits id payload s) :
    ∃ r, (s.streams id).channel.recv = some r ∧ () ∈ r.2.granted := by
  have hne := List.ne_nil_of_mem h.waiting
  have hsenders := h.consistent.channels id
  rw [if_pos h.deliversTo, BoundedChannel.senders] at hsenders
  have hgranted : (s.streams id).channel.granted = [] := by
    rw [List.append_eq_singleton_iff] at hsenders
    exact (hsenders.resolve_right fun hw => hne hw.2).1
  have hfull := (s.streams id).channel.taken hne
  rw [hgranted, List.length_nil, Nat.add_zero] at hfull
  cases hr : (s.streams id).channel.recv with
  | none =>
    rw [BoundedChannel.recv_eq_none.mp hr] at hfull
    cases hfull
  | some r =>
    obtain ⟨_, hg, _⟩ := BoundedChannel.recv_eq_some hr
    rw [hgranted, List.nil_append] at hsenders
    rw [hgranted, hsenders] at hg
    exact ⟨r, rfl, by rw [hg]; exact List.mem_singleton_self ()⟩

theorem relieved_gone (h : s.phase = .delivering id payload) (hp : (s.streams id).phase = .gone) :
    Relieved s := by
  refine .of_ready ?_
  simp only [Ready, h]
  exact .inr hp

theorem relieved_forwarding (h : Waits id payload s) (hp : (s.streams id).phase = .forwarding) :
    Relieved s := by
  obtain ⟨r, hr, hgranted⟩ := h.recv
  have hremote := h.consistent.remote id (.inr h.deliversTo)
  have hs : session.step (.recvRemote id) s =
      some (s.setStream id { s.streams id with channel := r.2, phase := .writing }) := by
    show SessionState.recvRemote id s = _
    rw [SessionState.recvRemote, if_pos ⟨hp, hremote⟩, hr]
    rfl
  refine .step rfl hs (.of_ready ?_)
  show match s.phase with | .sending _ => _ | .delivering id _ => _ | _ => True
  rw [h.phase]
  exact .inl (by rw [SessionState.stream_setStream]; exact hgranted)

theorem relieved_reading (h : Waits id payload s) (hp : (s.streams id).phase = .reading) :
    Relieved s := by
  obtain ⟨r, hr, hgranted⟩ := h.recv
  have hs : session.step (.clientReads id) s = some (s.setChannel id r.2) := by
    show SessionState.clientReads id s = _
    rw [SessionState.clientReads, if_pos hp, hr]
    rfl
  refine .step rfl hs (.of_ready ?_)
  show match s.phase with | .sending _ => _ | .delivering id _ => _ | _ => True
  rw [h.phase]
  exact .inl (by rw [channel_setChannel]; exact hgranted)

theorem relieved_writing (h : Waits id payload s) (hp : (s.streams id).phase = .writing) :
    Relieved s := by
  have hs : session.step (.wrote id) s = some (s.setPhase id .forwarding) := if_pos hp
  exact .step rfl hs (relieved_forwarding (h.next rfl hs (by simp)) (by simp))

/-- The answer lets the handler go on: to its channel, or away. -/
theorem relieved_answered (h : Waits id payload s) (ha : (s.streams id).answer.isSome = true)
    (hp : (∃ upload, (s.streams id).phase = .awaiting upload) ∨ (s.streams id).phase.cancellable = true) :
    Relieved s := by
  have left : session.step (.answered id) s = some (s.leave id) → Relieved s := by
    intro hs
    refine .step rfl hs (relieved_gone h.phase ?_)
    rw [SessionState.leave, SessionState.phase_setPhase]
  have read : ∀ o, session.step (.answered id) s =
      some ({ s with outbound := o }.setPhase id .reading) → Relieved s := fun o hs =>
    .step rfl hs (relieved_reading (h.next rfl hs (by simp)) (by simp))
  obtain ⟨answer, ha⟩ := Option.isSome_iff_exists.mp ha
  cases answer with
  | error error =>
    refine left ?_
    show SessionState.answered id s = _
    rcases hp with ⟨upload, hp⟩ | hp
    · simp only [SessionState.answered, hp, ha]
    · cases hphase : (s.streams id).phase <;> simp_all [SessionState.answered, HandlerPhase.cancellable]
  | ok u =>
    rcases hp with ⟨upload, hp⟩ | hp
    · have hs : session.step (.answered id) s = some (s.setPhase id (.opened (s.streams id).mode)) := by
        show SessionState.answered id s = _
        simp only [SessionState.answered, hp, ha]
      have hnext := h.next rfl hs (by simp)
      cases hmode : (s.streams id).mode with
      | tcp =>
        rw [hmode] at hs hnext
        exact .step rfl hs (relieved_forwarding hnext (SessionState.phase_setPhase ..))
      | http =>
        rw [hmode] at hs hnext
        exact .step rfl hs (relieved_reading hnext (SessionState.phase_setPhase ..))
    · refine read (s.outbound.withdraw (.handler id)) ?_
      show SessionState.answered id s = _
      cases hphase : (s.streams id).phase <;> simp_all [SessionState.answered, HandlerPhase.cancellable]

/-- A handler that holds a permit puts its message. -/
theorem enqueued_of_granted {m : WsMessage} (hm : (s.streams id).phase.message = some m)
    (hg : .handler id ∈ s.outbound.granted) :
    ∃ o, session.step (.enqueued id) s = some ({ s with outbound := o }.setPhase id
      ((s.streams id).phase.next (s.streams id).mode)) := by
  obtain ⟨o, ho⟩ := BoundedChannel.put_isSome (a := m) hg
  refine ⟨o, ?_⟩
  show SessionState.enqueued id s = _
  rw [SessionState.enqueued, hm, Option.bind_some, ho]
  rfl

/-- **A handler that attends makes room.** -/
theorem relieved_of_attends (h : Waits id payload s) (hb : Begun s) (ha : Attends id s) : Relieved s := by
  have answer : (s.streams id).phase.awaitsAnswer = true → (s.streams id).answer.isSome = true := ha.1
  have granted : ∀ {phase m}, (s.streams id).phase = phase → phase.message = some m →
      phase.cancellable = false → .handler id ∈ s.outbound.granted := by
    intro phase m hp hm hc
    have hsend : .handler id ∈ s.outbound.senders := by
      rw [h.consistent.handlers, hp, hm]
      rfl
    refine (BoundedChannel.mem_senders.mp hsend).resolve_right fun hw => ?_
    have hcancel := ha.2 hw
    rw [hp, hc] at hcancel
    cases hcancel
  cases hp : (s.streams id).phase with
  | idle => exact absurd hp (hb id (.inr h.deliversTo))
  | submitting m =>
    obtain ⟨o, hs⟩ := enqueued_of_granted (by rw [hp]; rfl) (granted hp rfl rfl)
    have hnext := h.next rfl hs (by simp)
    refine .step rfl hs (relieved_answered hnext ?_ (.inl ⟨_, by rw [SessionState.phase_setPhase, hp]; rfl⟩))
    rw [SessionState.answer_setPhase]
    exact answer (by rw [hp]; rfl)
  | awaiting upload => exact relieved_answered h (answer (by rw [hp]; rfl)) (.inl ⟨upload, hp⟩)
  | uploading m last =>
    exact relieved_answered h (answer (by rw [hp]; rfl)) (.inr (by rw [hp]; rfl))
  | failing m => exact relieved_answered h (answer (by rw [hp]; rfl)) (.inr (by rw [hp]; rfl))
  | forwarding => exact relieved_forwarding h hp
  | sending m =>
    obtain ⟨o, hs⟩ := enqueued_of_granted (by rw [hp]; rfl) (granted hp rfl rfl)
    have hnext := h.next rfl hs (by simp)
    exact .step rfl hs (relieved_forwarding hnext (by rw [SessionState.phase_setPhase, hp]; rfl))
  | writing => exact relieved_writing h hp
  | reading => exact relieved_reading h hp
  | closing m =>
    obtain ⟨o, hs⟩ := enqueued_of_granted (by rw [hp]; rfl) (granted hp rfl rfl)
    refine .step rfl hs (relieved_gone h.phase ?_)
    rw [SessionState.phase_setPhase, hp]
    rfl
  | gone => exact relieved_gone h.phase hp

theorem unblocked_reachable (h : session.ReachableUnder InTurn s) : Unblocked s := by
  refine h.invariant ?_ (fun _ _ _ hr hu hrule hs => unblocked_step (reachable_consistent hr) hu hrule hs)
  intro _ heq
  subst heq
  exact .of_phase nofun (fun _ => rfl)

/-- **No wait is the session task's own** in a run whose every step is in turn. -/
theorem never_self_blocked (h : session.ReachableUnder InTurn s) : ¬ SelfBlocked s := by
  have hc := reachable_consistent h
  have hu := unblocked_reachable h
  have relieved : Relieved s := by
    by_cases hready : Ready s
    · exact .of_ready hready
    cases hp : s.phase with
    | delivering id payload =>
      have hd : s.phase.deliversTo id = true := by
        rw [hp]
        exact decide_eq_true rfl
      have hw : () ∈ (s.streams id).channel.waiting := by
        have hmem : () ∈ (s.streams id).channel.senders := by
          rw [hc.channels, if_pos hd]
          exact List.mem_singleton_self ()
        refine (BoundedChannel.mem_senders.mp hmem).resolve_left fun hg => hready ?_
        simp only [Ready, hp]
        exact .inl hg
      exact relieved_of_attends ⟨hc, hp, hw⟩ (reachable_begun h) (hu.delivering id hd hw)
    | sending m => exact absurd hp (hu.sending m)
    | _ =>
      refine absurd ?_ hready
      simp only [Ready, hp]
  intro hblocked
  obtain ⟨t, ht, hready⟩ := relieved
  exact hblocked t ht hready

/-! ### Local connections fill the queue -/

/-- The session is at its `select!`, with this many messages in the queue. -/
structure Filling (k : Nat) (s : SessionState) : Prop where
  isOpen : s.connection.ensureGatewayOpen = .ok ()
  phase : s.phase = .select
  items : s.outbound.items.length = k
  granted : s.outbound.granted = []
  streamIds : s.connection.streamIds = k + 2

/-- One more connection, one more message. -/
theorem Filling.openTcp {k : Nat} {s : SessionState} {target : String} {config : TargetConfig}
    (h : Filling k s) (hk : k < outboundCapacity) :
    ∃ t, session.step (.openTcp target config) s = some t ∧ Filling (k + 1) t := by
  have hid : s.connection.streamIds + 1 < 2 ^ 64 := by
    rw [h.streamIds]
    show k + 2 + 1 < 2 ^ 64
    simp only [outboundCapacity] at hk
    omega
  have hreg : ∃ c u, s.register .tcp = some u ∧ u = { s with connection := c }.setStream
      s.connection.streamIds { mode := .tcp } ∧ c.ensureGatewayOpen = .ok () ∧
      c.streamIds = s.connection.streamIds + 1 :=
    ⟨_, _, if_pos ⟨h.isOpen, hid⟩, rfl, h.isOpen, rfl⟩
  obtain ⟨c, u, hu, rfl, hopen, hids⟩ := hreg
  refine ⟨_, congrArg (Option.map _) hu, ?_⟩
  have hfree : ¬ s.outbound.Full := by
    rw [BoundedChannel.Full, h.items, h.granted, List.length_nil]
    omega
  have hsend : ∃ o, s.outbound.trySend (.text (encodeMessage (.open s.connection.streamIds target config))) =
      some o := by
    refine Option.ne_none_iff_exists'.mp fun hnone => ?_
    exact hfree (BoundedChannel.trySend_eq_none.mp hnone)
  obtain ⟨o, ho⟩ := hsend
  obtain ⟨_, hitems, hgranted, _⟩ := BoundedChannel.trySend_eq_some ho
  simp only [SessionState.submit, SessionState.enqueue, SessionState.setStream, hopen, ho]
  refine ⟨hopen, h.phase, ?_, hgranted.trans h.granted, ?_⟩
  · show o.items.length = k + 1
    rw [hitems, List.length_append, h.items]
    rfl
  · show c.streamIds = k + 1 + 2
    rw [hids, h.streamIds]

theorem Filling.run {k : Nat} {s : SessionState} (target : String) (config : TargetConfig) (n : Nat)
    (h : Filling k s) (hn : k + n ≤ outboundCapacity) :
    ∃ t, session.run (List.replicate n (.openTcp target config)) s = some t ∧ Filling (k + n) t := by
  induction n generalizing k s with
  | zero => exact ⟨s, rfl, h⟩
  | succ n ih =>
    obtain ⟨u, hu, hfill⟩ := h.openTcp (by omega)
    obtain ⟨t, ht, hfill⟩ := ih hfill (by omega)
    refine ⟨t, ?_, ?_⟩
    · rw [List.replicate_succ]
      exact (Machine.runUnder_cons trivial hu).trans ht
    · rw [Nat.add_right_comm] at hfill
      exact hfill

end Claims

section Example

local instance backpressureCodec : MessageCodec := .plain

def databaseTarget : TargetConfig := ⟨.tcp, "10.0.0.5", 5432, none, false, false, false⟩

/-- The first Open waits for the sink, which takes nothing; 1024 more connections
follow, and then a heartbeat is due. -/
def stalledOps : List SessionOp :=
  [.connect, .openTcp "db" databaseTarget, .writer .receive] ++
    List.replicate outboundCapacity (.openTcp "db" databaseTarget) ++ [.heartbeat]

def stalledState : SessionState := (session.run stalledOps .start).getD .start

theorem heartbeat_blocks :
    session.Reachable stalledState ∧ stalledState.outbound.items.length = 1024 ∧
      stalledState.phase = .sending (.text (encodeMessage .ping)) ∧ SelfBlocked stalledState := by
  have hfirst : ∃ s, session.run [.connect, .openTcp "db" databaseTarget, .writer .receive] .start = some s ∧
      Filling 0 s := by
    refine ⟨_, rfl, ?_⟩
    exact ⟨rfl, rfl, rfl, rfl, rfl⟩
  obtain ⟨s, hs, hfill⟩ := hfirst
  obtain ⟨t, ht, hfill⟩ := hfill.run "db" databaseTarget outboundCapacity (by omega)
  have hfull : t.outbound.Full := by
    rw [BoundedChannel.Full, hfill.items, hfill.granted, List.length_nil]
    omega
  have hbeat : session.step .heartbeat t = some (t.sendText .ping) := if_pos hfill.phase
  have hrun : session.run stalledOps .start = some (t.sendText .ping) :=
    Machine.runUnder_then (Machine.runUnder_then hs ht) (Machine.runUnder_cons trivial hbeat)
  have hstate : stalledState = t.sendText .ping := by
    rw [stalledState, hrun]
    rfl
  have hreach : session.Reachable stalledState := by
    rw [hstate]
    exact Machine.reachableUnder_of_run rfl hrun
  have hsend : t.sendText .ping = { t with
      outbound := t.outbound.request .session, phase := .sending (.text (encodeMessage .ping)) } := by
    rw [SessionState.sendText, BoundedChannel.trySend_eq_none.mpr hfull]
  obtain ⟨hitems, hgranted, _⟩ := BoundedChannel.request_of_full (w := Sender.session) hfull
  have hphase : stalledState.phase = .sending (.text (encodeMessage .ping)) := by
    rw [hstate, hsend]
  have hout : stalledState.outbound = t.outbound.request .session := by
    rw [hstate, hsend]
  refine ⟨hreach, ?_, hphase, selfBlocked_of_full (reachable_consistent hreach) hphase ?_ ?_⟩
  · rw [hout, hitems, hfill.items]
    rfl
  · rw [hout, BoundedChannel.Full, hitems, hgranted]
    exact hfull
  · rw [hout, hgranted, hfill.granted]

/-- A stream is opened, and its local client does not read: the frame after the 64 that
its channel holds is waited for. -/
def deliveringOps : List SessionOp :=
  [.connect, .openTcp "db" databaseTarget, .message (.openOk 1), .answered 1] ++
    List.replicate (streamChannelCapacity + 1) (.data 1 [0])

def deliveringState : SessionState := (session.runUnder InTurn deliveringOps .start).getD .start

theorem never_self_blocked_deliveringState :
    deliveringState.phase = .delivering 1 [0] ∧ ¬ Ready deliveringState ∧ ¬ SelfBlocked deliveringState := by
  have hreach : session.ReachableUnder InTurn deliveringState :=
    Machine.reachable_getD rfl (by decide +kernel)
  have hphase : deliveringState.phase = .delivering 1 [0] := by decide +kernel
  refine ⟨hphase, ?_, never_self_blocked hreach⟩
  simp only [Ready, hphase]
  decide +kernel

end Example
end WsNet.Access
