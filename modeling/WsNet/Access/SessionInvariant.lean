import WsNet.Access.Moves

/-! What the steps of a session keep.

`Consistent` ties the parties together: a handler is among the senders of the queue
exactly while its phase is to send, and a stream's channel has the session task as
its sender exactly while the task is delivering there. A step of one handler is
described once (`Touches`), by what it leaves alone. -/
namespace WsNet.Access
open Data Transition

/-- The queue's senders are the parties that are sending. -/
structure Consistent (s : SessionState) : Prop where
  handlers : ∀ j, .handler j ∈ s.outbound.senders ↔ (s.streams j).phase.message.isSome
  session : .session ∈ s.outbound.senders ↔ ∃ m, s.phase = .sending m
  nodup : s.outbound.senders.Nodup
  channels : ∀ j, (s.streams j).channel.senders = if s.phase.deliversTo j then [()] else []
  fresh : ∀ j, s.connection.streamIds ≤ j → (s.streams j).phase = .idle
  delivering : ∀ j, s.phase.deliversTo j = true → j < s.connection.streamIds
  entries : ∀ j, s.connection.target j ≠ .unknown → j < s.connection.streamIds
  remote : ∀ j, s.connection.target j ≠ .unknown ∨ s.phase.deliversTo j = true →
    (s.streams j).remoteClosed = false

/-- A step of one handler, as the other parties see it. -/
structure Touches (id : StreamId) (s t : SessionState) : Prop where
  phase : t.phase = s.phase
  others : ∀ j ≠ id, t.streams j = s.streams j
  acts : s.outbound.Acts (.handler id) t.outbound
  senders : (t.streams id).channel.senders = (s.streams id).channel.senders
  waiting : () ∈ (t.streams id).channel.waiting → () ∈ (s.streams id).channel.waiting
  streamIds : t.connection.streamIds = s.connection.streamIds
  entries : ∀ j, t.connection.target j ≠ .unknown → s.connection.target j ≠ .unknown
  remote : t.connection.target id ≠ .unknown ∨ t.phase.deliversTo id = true →
    (s.streams id).remoteClosed = false → (t.streams id).remoteClosed = false

/-! ### The steps of a handler -/

namespace Touches
variable {id : StreamId} {s t u : SessionState}

theorem refl (id : StreamId) (s : SessionState) : Touches id s s :=
  ⟨rfl, fun _ _ => rfl, .refl _, rfl, fun h => h, rfl, fun _ h => h, fun _ h => h⟩

theorem trans (h : Touches id s t) (h' : Touches id t u) : Touches id s u where
  phase := h'.phase.trans h.phase
  others j hj := (h'.others j hj).trans (h.others j hj)
  acts := h.acts.trans h'.acts
  senders := h'.senders.trans h.senders
  waiting hw := h.waiting (h'.waiting hw)
  streamIds := h'.streamIds.trans h.streamIds
  entries j hj := h.entries j (h'.entries j hj)
  remote hlive hr := by
    have hmid : t.connection.target id ≠ .unknown ∨ t.phase.deliversTo id = true :=
      hlive.imp (h'.entries id) (fun hd => h'.phase ▸ hd)
    exact h'.remote hlive (h.remote hmid hr)

/-- The stream changes, but for the sending side of its channel. -/
theorem setStream {st : Stream} (hs : st.channel.senders = (s.streams id).channel.senders)
    (hw : () ∈ st.channel.waiting → () ∈ (s.streams id).channel.waiting)
    (hr : s.connection.target id ≠ .unknown ∨ s.phase.deliversTo id = true →
      (s.streams id).remoteClosed = false → st.remoteClosed = false) :
    Touches id s (s.setStream id st) where
  phase := rfl
  others j hj := Function.update_of_ne hj _ _
  acts := .refl _
  senders := by simp only [SessionState.setStream, Function.update_self, hs]
  waiting h := hw (by simpa only [SessionState.setStream, Function.update_self] using h)
  streamIds := rfl
  entries _ h := h
  remote hlive h := by
    simp only [SessionState.setStream, Function.update_self]
    exact hr hlive h

theorem setPhase (phase : HandlerPhase) : Touches id s (s.setPhase id phase) :=
  setStream rfl (fun h => h) (fun _ h => h)

theorem outbound {o : Outbound} (h : s.outbound.Acts (.handler id) o) :
    Touches id s { s with outbound := o } :=
  ⟨rfl, fun _ _ => rfl, h, rfl, fun h => h, rfl, fun _ h => h, fun _ h => h⟩

theorem connection {c : GatewayConnection} (h : s.connection.Fewer c) :
    Touches id s { s with connection := c } :=
  ⟨rfl, fun _ _ => rfl, .refl _, rfl, fun h => h, h.streamIds, fun _ => h.target, fun _ h => h⟩

theorem withdraw : Touches id s { s with outbound := s.outbound.withdraw (.handler id) } :=
  outbound (.withdraw (.refl _))

theorem leave : Touches id s (s.leave id) :=
  (connection (.closeStream id _)).trans (withdraw.trans (setPhase _))

theorem enqueue {phase : HandlerPhase} {message : WsMessage}
    (hn : .handler id ∉ s.outbound.senders) : Touches id s (s.enqueue id phase message) := by
  unfold SessionState.enqueue
  split
  · exact leave
  · split
    · rename_i outbound' ho
      exact (outbound (.trySend (.refl _) ho)).trans (setPhase _)
    · exact (outbound (.request (.refl _) hn)).trans (setPhase _)

theorem preparing (op : SessionOp) : Touches id s (s.preparing id op) := by
  unfold SessionState.preparing
  split
  · exact connection (.closeStream id _)
  · exact connection (.closeStream id _)
  · exact connection (.closeRequest id _)
  · exact (connection (.closeStream id _)).trans withdraw
  · exact setStream rfl (fun h => h) (fun _ h => h)
  · exact refl id s

end Touches

/-- A handler that has begun is among the senders exactly while its phase is to send. -/
structure Sends (id : StreamId) (s : SessionState) : Prop where
  senders : .handler id ∈ s.outbound.senders ↔ (s.streams id).phase.message.isSome
  begun : (s.streams id).phase ≠ .idle

namespace Sends
variable {id : StreamId} {s : SessionState}

/-- One that does not send is not among them. -/
theorem setStream {st : Stream} (hn : .handler id ∉ s.outbound.senders)
    (hp : st.phase.message = none) (hb : st.phase ≠ .idle) : Sends id (s.setStream id st) := by
  refine ⟨⟨fun h => absurd h hn, fun h => ?_⟩, ?_⟩
  · rw [SessionState.stream_setStream, hp] at h
    cases h
  · rw [SessionState.stream_setStream]
    exact hb

theorem withdraw {phase : HandlerPhase} (hn : s.outbound.senders.Nodup) (hp : phase.message = none)
    (hb : phase ≠ .idle) :
    Sends id ({ s with outbound := s.outbound.withdraw (.handler id) }.setPhase id phase) := by
  refine setStream ?_ hp hb
  show .handler id ∉ (s.outbound.withdraw (.handler id)).senders
  rw [BoundedChannel.senders_withdraw]
  exact hn.not_mem_erase

theorem leave (hn : s.outbound.senders.Nodup) : Sends id (s.leave id) :=
  withdraw (s := { s with connection := s.connection.closeStream id }) hn rfl nofun

theorem enqueue {phase : HandlerPhase} {message : WsMessage} (hn : s.outbound.senders.Nodup)
    (hid : .handler id ∉ s.outbound.senders) (hp : phase.message.isSome) :
    Sends id (s.enqueue id phase message) := by
  have hidle : phase ≠ .idle := by
    intro heq
    subst heq
    cases hp
  unfold SessionState.enqueue
  split
  · exact leave hn
  · split
    · rename_i outbound' ho
      refine setStream ?_ (HandlerPhase.message_next _ _) (HandlerPhase.next_ne_idle hidle)
      show .handler id ∉ outbound'.senders
      rw [BoundedChannel.senders_trySend ho]
      exact hid
    · refine ⟨⟨fun _ => ?_, fun _ => ?_⟩, ?_⟩
      · rw [SessionState.phase_setPhase]
        exact hp
      · show .handler id ∈ (s.outbound.request (.handler id)).senders
        rw [BoundedChannel.senders_request]
        exact List.mem_append_right _ (List.mem_singleton_self _)
      · rw [SessionState.phase_setPhase]
        exact hidle

end Sends

/-! ### Consistency -/

namespace Consistent
variable {id : StreamId} {s t : SessionState}

theorem not_sending (h : Consistent s) (hp : (s.streams id).phase.message = none) :
    .handler id ∉ s.outbound.senders := by
  rw [h.handlers, hp]
  exact Bool.false_ne_true

/-- A handler that has begun has an identifier that was given out. -/
theorem lt_streamIds (h : Consistent s) (hp : (s.streams id).phase ≠ .idle) :
    id < s.connection.streamIds := by
  by_contra hlt
  exact hp (h.fresh id (Nat.le_of_not_lt hlt))

theorem withdraw (h : Consistent s) :
    (s.outbound.withdraw (.handler id)).senders.Nodup ∧
      .handler id ∉ (s.outbound.withdraw (.handler id)).senders := by
  rw [BoundedChannel.senders_withdraw]
  exact ⟨h.nodup.erase _, h.nodup.not_mem_erase⟩

/-- A handler that is to send does not send yet. -/
theorem preparing [MessageCodec] (h : Consistent s) {op : SessionOp} {phase : HandlerPhase}
    (hsubmits : Submits id (s.streams id) op phase) :
    (s.preparing id op).outbound.senders.Nodup ∧ .handler id ∉ (s.preparing id op).outbound.senders := by
  cases hsubmits with
  | closedSeen => exact h.withdraw
  | finish hp =>
    refine ⟨h.nodup, h.not_sending ?_⟩
    rcases hp with hp | hp <;> rw [hp] <;> rfl
  | openTimeout _ hp | upload hp | uploadEnd hp | uploadFails hp | readLocal hp | localEof hp =>
    exact ⟨h.nodup, h.not_sending (by rw [hp]; rfl)⟩

theorem of_touches (h : Consistent s) (ht : Touches id s t) (hs : Sends id t)
    (hid : id < s.connection.streamIds) : Consistent t where
  handlers j := by
    by_cases hj : j = id
    · subst hj
      exact hs.senders
    · rw [ht.acts.mem_senders_of_ne (by simp [hj]), h.handlers, ht.others j hj]
  session := by
    rw [ht.acts.mem_senders_of_ne (by simp), h.session, ht.phase]
  nodup := ht.acts.nodup h.nodup
  channels j := by
    rw [ht.phase, ← h.channels j]
    by_cases hj : j = id
    · subst hj
      exact ht.senders
    · rw [ht.others j hj]
  fresh j hj := by
    rw [ht.streamIds] at hj
    rw [ht.others j (Nat.ne_of_gt (Nat.lt_of_lt_of_le hid hj))]
    exact h.fresh j hj
  delivering j hj := by
    rw [ht.streamIds]
    exact h.delivering j (ht.phase ▸ hj)
  entries j hj := by
    rw [ht.streamIds]
    exact h.entries j (ht.entries j hj)
  remote j hj := by
    have hlive : s.connection.target j ≠ .unknown ∨ s.phase.deliversTo j = true :=
      hj.imp (ht.entries j) (fun hd => ht.phase ▸ hd)
    by_cases hji : j = id
    · subst hji
      exact ht.remote hj (h.remote j hlive)
    · rw [ht.others j hji]
      exact h.remote j hlive

end Consistent

theorem waiting_of_recv {a : Bytes} {c d : StreamChannel} (h : c.recv = some (a, d))
    (hw : () ∈ d.waiting) : () ∈ c.waiting := by
  rw [(BoundedChannel.recv_eq_some h).2.2] at hw
  exact List.mem_of_mem_drop hw

section Steps
variable [MessageCodec] {id : StreamId} {s t : SessionState}

/-- **A handler's step** touches its own stream and its own place in the queue. -/
theorem touches_step {op : SessionOp} (h : Consistent s) (hop : op.handler = some id)
    (hs : session.step op s = some t) :
    Touches id s t ∧ Sends id t ∧ id < s.connection.streamIds := by
  have hmove := handlerMove_of_step hop hs
  refine ⟨?_, ?_, h.lt_streamIds hmove.begun⟩
  · cases hmove with
    | enqueued _ ho => exact (Touches.outbound (.put (.refl _) ho)).trans (.setPhase _)
    | failed => exact .leave
    | submits hsubmits => exact (Touches.preparing op).trans (.enqueue (h.preparing hsubmits).2)
    | unsent => exact .setStream rfl (fun h => h) (fun _ h => h)
    | recvRemote _ _ hrecv | clientReads _ hrecv =>
      exact .setStream (BoundedChannel.senders_recv hrecv) (waiting_of_recv hrecv) (fun _ h => h)
    | remoteEof _ htarget hdelivers =>
      refine .setStream rfl (fun h => h) fun hlive => ?_
      rcases hlive with hlive | hlive
      · exact absurd htarget hlive
      · rw [hdelivers] at hlive
        cases hlive
    | early | dropped => exact Touches.withdraw.trans (.setPhase _)
    | opened | wrote | bodyClosed => exact .setPhase _
  · have hbegun := hmove.begun
    have quiet : (s.streams id).phase.message = none → .handler id ∉ s.outbound.senders := h.not_sending
    cases hmove with
    | enqueued _ ho =>
      refine Sends.setStream ?_ (HandlerPhase.message_next _ _) (HandlerPhase.next_ne_idle hbegun)
      rw [BoundedChannel.senders_put ho]
      exact h.nodup.not_mem_erase
    | opened hp =>
      obtain ⟨hm, _, hidle⟩ := HandlerPhase.opened_cases (s.streams id).mode
      exact .setStream (quiet (by rw [hp]; rfl)) hm hidle
    | failed => exact .leave h.nodup
    | submits hsubmits hm =>
      obtain ⟨hnodup, hn⟩ := h.preparing hsubmits
      exact .enqueue hnodup hn (by rw [hm]; rfl)
    | early | dropped => exact .withdraw h.nodup rfl (fun hp => by cases hp)
    | wrote hp | bodyClosed hp | recvRemote hp =>
      exact .setStream (quiet (by rw [hp]; rfl)) rfl (fun hp => by cases hp)
    | unsent hp | remoteEof hp | clientReads hp =>
      exact .setStream (quiet (by rw [hp]; rfl)) (by rw [hp]; rfl) (by simp [hp])

end Steps

/-! ### The steps of the session task -/

/-- A step of the session task, as the handlers see it. -/
structure Serves (s t : SessionState) : Prop where
  streams : ∀ j, (t.streams j).phase = (s.streams j).phase ∧
    (t.streams j).remoteClosed = (s.streams j).remoteClosed
  senders : ∀ j, .handler j ∈ t.outbound.senders ↔ .handler j ∈ s.outbound.senders
  nodup : s.outbound.senders.Nodup → t.outbound.senders.Nodup
  connection : s.connection.Fewer t.connection
  delivering : ∀ j, t.phase.deliversTo j = true →
    s.phase.deliversTo j = true ∨ s.connection.target j ≠ .unknown

/-- The session task is a sender of the queue, and of a channel, while its phase says so. -/
structure Placed (s : SessionState) : Prop where
  session : .session ∈ s.outbound.senders ↔ ∃ m, s.phase = .sending m
  channels : ∀ j, (s.streams j).channel.senders = if s.phase.deliversTo j then [()] else []

/-- The session task sends nothing and delivers nothing. -/
structure Unplaced (s : SessionState) : Prop where
  session : .session ∉ s.outbound.senders
  channels : ∀ j, (s.streams j).channel.senders = []

theorem Consistent.placed {s : SessionState} (h : Consistent s) : Placed s := ⟨h.session, h.channels⟩

theorem Consistent.of_serves {s t : SessionState} (h : Consistent s) (hs : Serves s t) (hp : Placed t) :
    Consistent t where
  handlers j := by rw [hs.senders, h.handlers, (hs.streams j).1]
  session := hp.session
  nodup := hs.nodup h.nodup
  channels := hp.channels
  fresh j hj := by
    rw [(hs.streams j).1]
    exact h.fresh j (hs.connection.streamIds ▸ hj)
  delivering j hj := by
    rw [hs.connection.streamIds]
    exact (hs.delivering j hj).elim (h.delivering j) (h.entries j)
  entries j hj := by
    rw [hs.connection.streamIds]
    exact h.entries j (hs.connection.target hj)
  remote j hj := by
    rw [(hs.streams j).2]
    have htarget := hj.imp_left hs.connection.target
    rcases htarget with ht | hd
    · exact h.remote j (.inl ht)
    · exact h.remote j ((hs.delivering j hd).symm)

theorem Unplaced.placed {s : SessionState} (h : Unplaced s) (hp : ∀ m, s.phase ≠ .sending m)
    (hd : ∀ j, s.phase.deliversTo j = false) : Placed s where
  session := ⟨fun hm => absurd hm h.session, fun ⟨m, hm⟩ => absurd hm (hp m)⟩
  channels j := by rw [h.channels, hd]; rfl

theorem Placed.unplaced {s : SessionState} (h : Placed s) (hp : ∀ m, s.phase ≠ .sending m)
    (hd : ∀ j, s.phase.deliversTo j = false) : Unplaced s where
  session hm := by
    obtain ⟨m, hm⟩ := h.session.mp hm
    exact hp m hm
  channels j := by rw [h.channels, hd]; rfl

theorem Consistent.unplaced {s : SessionState} (h : Consistent s) (hp : s.phase = .select) :
    Unplaced s :=
  h.placed.unplaced (fun m hm => by rw [hp] at hm; cases hm) (fun j => by rw [hp]; rfl)

namespace Serves
variable {s t u : SessionState}

theorem refl (s : SessionState) : Serves s s :=
  ⟨fun _ => ⟨rfl, rfl⟩, fun _ => Iff.rfl, id, .refl _, fun _ h => .inl h⟩

theorem trans (h : Serves s t) (h' : Serves t u) : Serves s u where
  streams j := ⟨(h'.streams j).1.trans (h.streams j).1, (h'.streams j).2.trans (h.streams j).2⟩
  senders j := (h'.senders j).trans (h.senders j)
  nodup hn := h'.nodup (h.nodup hn)
  connection := h.connection.trans h'.connection
  delivering j hj := by
    rcases h'.delivering j hj with hd | ht
    · exact h.delivering j hd
    · exact .inr (h.connection.target ht)

theorem notify (notices : StreamId → Notices) : Serves s (s.notify notices) :=
  ⟨fun _ => ⟨rfl, rfl⟩, fun _ => Iff.rfl, id, .refl _, fun _ h => .inl h⟩

theorem connection_le {c : GatewayConnection} (h : s.connection.Fewer c) :
    Serves s { s with connection := c } :=
  ⟨fun _ => ⟨rfl, rfl⟩, fun _ => Iff.rfl, id, h, fun _ h => .inl h⟩

theorem acts {o : Outbound} (h : s.outbound.Acts .session o) : Serves s { s with outbound := o } :=
  ⟨fun _ => ⟨rfl, rfl⟩, fun _ => h.mem_senders_of_ne (by simp), h.nodup, .refl _, fun _ h => .inl h⟩

theorem recv {m : WsMessage} {o : Outbound} (h : s.outbound.recv = some (m, o)) :
    Serves s { s with outbound := o } := by
  have hsenders : o.senders = s.outbound.senders := BoundedChannel.senders_recv h
  refine ⟨fun _ => ⟨rfl, rfl⟩, fun j => ?_, fun hn => ?_, .refl _, fun _ h => .inl h⟩
  · show .handler j ∈ o.senders ↔ _
    rw [hsenders]
  · show o.senders.Nodup
    rw [hsenders]
    exact hn

theorem phase {p : SessionPhase} (h : ∀ j, p.deliversTo j = false) : Serves s { s with phase := p } := by
  refine ⟨fun _ => ⟨rfl, rfl⟩, fun _ => Iff.rfl, id, .refl _, fun j hj => ?_⟩
  rw [show ({ s with phase := p } : SessionState).phase = p from rfl, h j] at hj
  cases hj

theorem setChannel {id : StreamId} {channel : StreamChannel} : Serves s (s.setChannel id channel) := by
  refine ⟨fun j => ?_, fun _ => Iff.rfl, fun h => h, .refl _, fun _ h => .inl h⟩
  by_cases hj : j = id
  · subst hj
    simp only [SessionState.setChannel, SessionState.setStream, Function.update_self, and_self]
  · simp only [SessionState.setChannel, SessionState.setStream, Function.update_of_ne hj, and_self]

end Serves

@[simp] theorem channel_setChannel {id : StreamId} {channel : StreamChannel} {s : SessionState} :
    ((s.setChannel id channel).streams id).channel = channel := by
  simp only [SessionState.setChannel, SessionState.setStream, Function.update_self]

theorem channel_setChannel_of_ne {id j : StreamId} {channel : StreamChannel} {s : SessionState}
    (hj : j ≠ id) : ((s.setChannel id channel).streams j).channel = (s.streams j).channel := by
  simp only [SessionState.setChannel, SessionState.setStream, Function.update_of_ne hj]

/-- Once its wait is dropped the session task is no sender of a channel. -/
theorem serves_abandon {s : SessionState} (h : Placed s) :
    Serves s s.abandon ∧ (∀ j, (s.abandon.streams j).channel.senders = []) ∧
      s.abandon.outbound = s.outbound ∧ s.abandon.connection = s.connection := by
  unfold SessionState.abandon
  split
  · rename_i id payload hp
    refine ⟨.setChannel, fun j => ?_, rfl, rfl⟩
    by_cases hj : j = id
    · subst hj
      simp [h.channels, hp, SessionPhase.deliversTo]
    · have hji : ¬ id = j := fun he => hj he.symm
      simp [channel_setChannel_of_ne hj, h.channels, hp, SessionPhase.deliversTo, hji]
  · rename_i hp
    refine ⟨.refl s, fun j => ?_, rfl, rfl⟩
    have hno : s.phase.deliversTo j = false := by
      cases hphase : s.phase with
      | delivering id payload => exact absurd hphase (hp id payload)
      | _ => rfl
    rw [h.channels, hno]
    rfl

/-- At the end of a session nothing of its task is left among the senders. -/
theorem serves_lost {s : SessionState} (reason : String) (h : Placed s) (hn : s.outbound.senders.Nodup) :
    Serves s (s.lost reason) ∧ Placed (s.lost reason) := by
  obtain ⟨habandon, hchannels, _, _⟩ := serves_abandon h
  have hacts : s.outbound.Acts .session (s.outbound.withdraw .session) := .withdraw (.refl _)
  have hsession : .session ∉ (s.outbound.withdraw .session).senders := by
    rw [BoundedChannel.senders_withdraw]
    exact hn.not_mem_erase
  refine ⟨⟨habandon.streams, fun j => hacts.mem_senders_of_ne (by simp), hacts.nodup,
    .closeGatewayConnection reason _, fun j hj => nomatch hj⟩, ?_⟩
  exact Unplaced.placed ⟨hsession, hchannels⟩ (fun _ hm => nomatch hm) (fun _ => rfl)

section Session
variable [MessageCodec] {s t : SessionState}

theorem serves_sendText {m : Message} (h : Unplaced s) :
    Serves s (s.sendText m) ∧ Placed (s.sendText m) := by
  unfold SessionState.sendText
  split
  · rename_i outbound' ho
    have hserves : Serves s { s with outbound := outbound', phase := .select } :=
      (Serves.acts (.trySend (.refl _) ho)).trans (.phase fun _ => rfl)
    refine ⟨hserves, Unplaced.placed ⟨?_, h.channels⟩ (fun _ hm => by cases hm) (fun _ => rfl)⟩
    show .session ∉ outbound'.senders
    rw [BoundedChannel.senders_trySend ho]
    exact h.session
  · have hserves : Serves s { s with
        outbound := s.outbound.request .session
        phase := .sending (.text (encodeMessage m)) } :=
      (Serves.acts (.request (.refl _) h.session)).trans (.phase fun _ => rfl)
    refine ⟨hserves, ⟨fun _ => ⟨_, rfl⟩, fun _ => ?_⟩, h.channels⟩
    show .session ∈ (s.outbound.request .session).senders
    rw [BoundedChannel.senders_request]
    exact List.mem_append_right _ (List.mem_singleton_self _)

theorem serves_backpressure (id : StreamId) (h : Unplaced s) :
    Serves s (s.backpressure id) ∧ Placed (s.backpressure id) := by
  have hsend := serves_sendText (s := { s with connection := s.connection.removeChannel id })
    (m := .close id "local_backpressure") ⟨h.session, h.channels⟩
  exact ⟨(Serves.connection_le (.removeChannel id _)).trans hsend.1, hsend.2⟩

theorem serves_message {m : Message} (h : Consistent s) (hp : s.phase = .select) :
    Serves s (s.message m) ∧ Placed (s.message m) := by
  have hfewer := s.connection.handleGatewayMessage_fewer m
  unfold SessionState.message
  split
  · rename_i connection notices hm
    rw [hm] at hfewer
    exact ⟨(Serves.connection_le hfewer).trans (.notify _), h.session, h.channels⟩
  · exact serves_sendText (h.unplaced hp)
  · rename_i error connection notices hm
    rw [hm] at hfewer
    have hlost := serves_lost (s := { s with connection }.notify notices) error.text
      ⟨h.session, h.channels⟩ h.nodup
    exact ⟨((Serves.connection_le hfewer).trans (.notify _)).trans hlost.1, hlost.2⟩

theorem serves_deliver {id : StreamId} {payload : Bytes} (h : Consistent s) (hp : s.phase = .select)
    (ht : s.connection.target id ≠ .unknown) :
    Serves s (s.deliver id payload) ∧ Placed (s.deliver id payload) := by
  have hun := h.unplaced hp
  unfold SessionState.deliver
  split
  · exact serves_backpressure _ hun
  · split
    · rename_i channel hc
      refine ⟨.setChannel, h.session, fun j => ?_⟩
      refine Eq.trans ?_ (h.channels j)
      by_cases hj : j = id
      · subst hj
        rw [channel_setChannel, BoundedChannel.senders_trySend hc]
      · rw [channel_setChannel_of_ne hj]
    · refine ⟨⟨Serves.setChannel.streams, fun _ => Iff.rfl, fun h => h, .refl _, fun j hj => ?_⟩,
        ⟨fun hm => absurd hm hun.session, fun ⟨_, hm⟩ => nomatch hm⟩, fun j => ?_⟩
      · have hid : id = j := of_decide_eq_true hj
        exact .inr (hid ▸ ht)
      · by_cases hj : j = id
        · subst hj
          simp [hun.channels, SessionPhase.deliversTo]
        · have hji : ¬ id = j := fun he => hj he.symm
          simp [channel_setChannel_of_ne hj, hun.channels, SessionPhase.deliversTo, hji]

theorem serves_data {id : StreamId} {payload : Bytes} (h : Consistent s) (hp : s.phase = .select) :
    Serves s (s.data id payload) ∧ Placed (s.data id payload) := by
  unfold SessionState.data
  split
  · rename_i ht
    exact serves_deliver h hp (by simp [ht])
  · rename_i ht
    exact serves_deliver h hp (by simp [ht])
  · split
    · exact ⟨.refl s, h.placed⟩
    · have hun := h.unplaced hp
      have hsend := serves_sendText (m := .close id "unknown_stream")
        (s := { s with connection := { s.connection with
          unknownStreams := insert id s.connection.unknownStreams } }) ⟨hun.session, hun.channels⟩
      have hfewer : s.connection.Fewer { s.connection with
          unknownStreams := insert id s.connection.unknownStreams } :=
        ⟨rfl, Finset.Subset.refl _, Finset.Subset.refl _, Finset.Subset.refl _, Finset.Subset.refl _⟩
      exact ⟨(Serves.connection_le hfewer).trans hsend.1, hsend.2⟩

omit [MessageCodec] in
theorem Consistent.not_session (h : Consistent s) (hp : ∀ m, s.phase ≠ .sending m) :
    .session ∉ s.outbound.senders := by
  intro hm
  obtain ⟨m, hm⟩ := h.session.mp hm
  exact hp m hm

omit [MessageCodec] in
/-- The frame is in the channel that the session task waited for. -/
theorem Consistent.undelivering (h : Consistent s) {id : StreamId} {payload : Bytes} {channel : StreamChannel}
    (hp : s.phase = .delivering id payload) (hc : (s.streams id).channel.put () payload = some channel) :
    Unplaced { s.setChannel id channel with phase := .select } := by
  refine ⟨h.not_session (fun m => by rw [hp]; exact fun hm => by cases hm), fun j => ?_⟩
  show ((s.setChannel id channel).streams j).channel.senders = []
  by_cases hj : j = id
  · subst hj
    rw [channel_setChannel, BoundedChannel.senders_put hc, h.channels, hp]
    simp [SessionPhase.deliversTo]
  · have hji : ¬ id = j := fun he => hj he.symm
    rw [channel_setChannel_of_ne hj, h.channels, hp]
    simp [SessionPhase.deliversTo, hji]

/-- **A step of the session task** touches its own place in the queue and the channels. -/
theorem serves_step {op : SessionOp} (h : Consistent s) (hop : op.ofSession)
    (hs : session.step op s = some t) : Serves s t ∧ Placed t := by
  have hwriter : ∀ w, Serves s { s with writer := w } ∧ Placed { s with writer := w } := fun w =>
    ⟨⟨fun _ => ⟨rfl, rfl⟩, fun _ => Iff.rfl, fun h => h, .refl _, fun _ h => .inl h⟩, h.session, h.channels⟩
  have hrecv : ∀ {m o} w, s.outbound.recv = some (m, o) →
      Serves s { s with outbound := o, writer := w } ∧ Placed { s with outbound := o, writer := w } := by
    intro m o w hr
    have hserves := Serves.recv hr
    refine ⟨⟨hserves.streams, hserves.senders, hserves.nodup, hserves.connection, hserves.delivering⟩,
      ?_, h.channels⟩
    show .session ∈ o.senders ↔ _
    rw [BoundedChannel.senders_recv hr]
    exact h.session
  cases sessionMove_of_step hop hs with
  | @writer op r _ hr =>
    rcases Writer.step_outbound hr with ho | ⟨m, ho⟩
    · rw [ho]
      exact hwriter r.writer
    · exact hrecv r.writer ho
  | heartbeat hp => exact serves_sendText (h.unplaced hp)
  | message hp => exact serves_message h hp
  | data hp => exact serves_data h hp
  | @sent m o hp ho =>
    refine ⟨(Serves.acts (.put (.refl _) ho)).trans (.phase fun _ => rfl), ?_⟩
    refine Unplaced.placed ⟨?_, fun j => ?_⟩ (fun _ hm => by cases hm) (fun _ => rfl)
    · show .session ∉ o.senders
      rw [BoundedChannel.senders_put ho]
      exact h.nodup.not_mem_erase
    · exact (h.channels j).trans (by rw [hp]; rfl)
  | delivered hp hc =>
    exact ⟨Serves.setChannel.trans (.phase fun _ => rfl), (h.undelivering hp hc).placed
      (fun _ hm => by cases hm) (fun _ => rfl)⟩
  | @undelivered id payload hp =>
    obtain ⟨habandon, hchannels, hout, _⟩ := serves_abandon h.placed
    have hun : Unplaced s.abandon := by
      refine ⟨fun hm => h.not_session (fun m => by rw [hp]; exact fun hm => by cases hm) ?_, hchannels⟩
      rw [← hout]
      exact hm
    have hback := serves_backpressure id hun
    exact ⟨habandon.trans hback.1, hback.2⟩
  | lost => exact serves_lost _ h.placed h.nodup
  | drain _ hr => exact hrecv s.writer hr
  | drained hp =>
    have hun : Unplaced s := h.placed.unplaced (fun m hm => by rw [hp] at hm; cases hm)
      (fun j => by rw [hp]; rfl)
    exact ⟨.phase fun _ => rfl,
      Unplaced.placed ⟨hun.session, hun.channels⟩ (fun _ hm => by cases hm) (fun _ => rfl)⟩
  | connect hp =>
    have hun : Unplaced s := h.placed.unplaced (fun m hm => by rw [hp] at hm; cases hm)
      (fun j => by rw [hp]; rfl)
    have hfewer : s.connection.Fewer { s.connection with closed := false } :=
      ⟨rfl, Finset.Subset.refl _, Finset.Subset.refl _, Finset.Subset.refl _, Finset.Subset.refl _⟩
    exact ⟨(Serves.connection_le hfewer).trans (.phase fun _ => rfl),
      Unplaced.placed ⟨hun.session, hun.channels⟩ (fun _ hm => by cases hm) (fun _ => rfl)⟩

end Session

/-! ### Every run -/

/-- The connection with the entries of a new stream. -/
structure Registered (mode : Mode) (c d : GatewayConnection) : Prop where
  streamIds : d.streamIds = c.streamIds + 1
  target : ∀ j, d.target j ≠ .unknown → j = c.streamIds ∨ c.target j ≠ .unknown

/-- A new stream starts with nothing sent and nothing read. -/
theorem register_eq_some {mode : Mode} {s t : SessionState} (h : s.register mode = some t) :
    s.connection.ensureGatewayOpen = .ok () ∧ ∃ c, Registered mode s.connection c ∧
      t = { s with connection := c }.setStream s.connection.streamIds { mode } := by
  simp only [SessionState.register, Option.ite_none_right_eq_some] at h
  obtain ⟨⟨hopen, _⟩, h⟩ := h
  cases h
  refine ⟨hopen, _, ⟨?_, fun j hj => ?_⟩, rfl⟩
  · cases mode <;> rfl
  · rw [GatewayConnection.target_ne_unknown] at hj ⊢
    cases mode with
    | tcp =>
      rcases hj with hb | ht
      · exact .inr (.inl hb)
      · exact (Finset.mem_insert.mp ht).imp_right .inr
    | http =>
      rcases hj with hb | ht
      · exact (Finset.mem_insert.mp hb).imp_right .inl
      · exact .inr (.inr ht)

theorem Consistent.register {mode : Mode} {s : SessionState} {c : GatewayConnection} (h : Consistent s)
    (hc : Registered mode s.connection c) :
    Consistent ({ s with connection := c }.setStream s.connection.streamIds { mode }) where
  handlers j := by
    show .handler j ∈ s.outbound.senders ↔ _
    by_cases hj : j = s.connection.streamIds
    · subst hj
      rw [h.handlers, h.fresh _ (Nat.le_refl _)]
      simp [SessionState.setStream, HandlerPhase.message]
    · rw [h.handlers]
      simp only [SessionState.setStream, Function.update_of_ne hj]
  session := h.session
  nodup := h.nodup
  channels j := by
    by_cases hj : j = s.connection.streamIds
    · subst hj
      have hno : ¬ s.phase.deliversTo s.connection.streamIds = true := fun hd =>
        Nat.lt_irrefl _ (h.delivering _ hd)
      simp [SessionState.setStream, hno]
    · simp only [SessionState.setStream, Function.update_of_ne hj]
      exact h.channels j
  fresh j hj := by
    have hlt : s.connection.streamIds < j := by
      have hle : s.connection.streamIds + 1 ≤ j := hc.streamIds ▸ hj
      exact hle
    simp only [SessionState.setStream, Function.update_of_ne (Nat.ne_of_gt hlt)]
    exact h.fresh j (Nat.le_of_lt hlt)
  delivering j hj := by
    show j < c.streamIds
    rw [hc.streamIds]
    exact Nat.lt_succ_of_lt (h.delivering j hj)
  entries j hj := by
    show j < c.streamIds
    rw [hc.streamIds]
    rcases hc.target j hj with rfl | ht
    · exact Nat.lt_succ_self _
    · exact Nat.lt_succ_of_lt (h.entries j ht)
  remote j hj := by
    by_cases hji : j = s.connection.streamIds
    · subst hji
      simp only [SessionState.setStream, Function.update_self]
    · simp only [SessionState.setStream, Function.update_of_ne hji]
      refine h.remote j (hj.imp_left fun ht => ?_)
      exact (hc.target j ht).resolve_left hji

section Runs
variable [MessageCodec] {s t : SessionState}

/-- The first message of a new stream. -/
theorem touches_submit {mode : Mode} {c : GatewayConnection} (message : Message) (h : Consistent s)
    (hc : Registered mode s.connection c) :
    let id := s.connection.streamIds
    let u := { s with connection := c }.setStream id { mode }
    Consistent u ∧ Touches id u (u.submit id message) ∧ Sends id (u.submit id message) ∧
      id < u.connection.streamIds := by
  intro id u
  have hu : Consistent u := h.register hc
  have hphase : (u.streams id).phase = .idle := by
    simp only [u, SessionState.setStream, Function.update_self]
  have hq : .handler id ∉ u.outbound.senders := hu.not_sending (by rw [hphase]; rfl)
  refine ⟨hu, .enqueue hq, .enqueue hu.nodup hq rfl, ?_⟩
  show id < c.streamIds
  rw [hc.streamIds]
  exact Nat.lt_succ_self _

/-- **What a step is**: the session task's, a handler's, or the start of one. -/
theorem step_cases {op : SessionOp} (h : Consistent s) (hs : session.step op s = some t) :
    (op.ofSession = true ∧ Serves s t ∧ Placed t) ∨
    (∃ id, op.handler = some id ∧ Touches id s t ∧ Sends id t ∧ id < s.connection.streamIds) ∨
    (∃ mode c message, Registered mode s.connection c ∧
      t = SessionState.submit s.connection.streamIds message
        ({ s with connection := c }.setStream s.connection.streamIds { mode })) := by
  by_cases hsession : op.ofSession = true
  · exact .inl ⟨hsession, serves_step h hsession hs⟩
  by_cases hhandler : ∃ id, op.handler = some id
  · obtain ⟨id, hid⟩ := hhandler
    exact .inr (.inl ⟨id, hid, touches_step h hid hs⟩)
  refine .inr (.inr ?_)
  have submitted : ∀ {mode message}, (s.register mode).map (·.submit s.connection.streamIds message) =
      some t → ∃ mode c message, Registered mode s.connection c ∧
        t = SessionState.submit s.connection.streamIds message
          ({ s with connection := c }.setStream s.connection.streamIds { mode }) := by
    intro mode message hs
    obtain ⟨u, hu, rfl⟩ := Option.map_eq_some_iff.mp hs
    obtain ⟨_, c, hc, rfl⟩ := register_eq_some hu
    exact ⟨mode, c, message, hc, rfl⟩
  cases op with
  | openTcp target config => exact submitted hs
  | startHttp target config request => exact submitted hs
  | _ => first | exact absurd rfl hsession | exact absurd ⟨_, rfl⟩ hhandler

theorem consistent_step {op : SessionOp} (h : Consistent s) (hs : session.step op s = some t) :
    Consistent t := by
  rcases step_cases h hs with ⟨_, hserves, hplaced⟩ | ⟨id, _, htouches, hsends, hlt⟩ |
    ⟨mode, c, message, hc, rfl⟩
  · exact h.of_serves hserves hplaced
  · exact h.of_touches htouches hsends hlt
  · obtain ⟨hu, htouches, hsends, hlt⟩ := touches_submit message h hc
    exact hu.of_touches htouches hsends hlt

omit [MessageCodec] in
theorem consistent_start : Consistent .start :=
  ⟨fun _ => by simp [SessionState.start, HandlerPhase.message],
    ⟨nofun, fun ⟨_, hm⟩ => nomatch hm⟩, List.nodup_nil, fun _ => rfl, fun _ _ => rfl,
    nofun, fun _ ht => absurd rfl ht, fun _ _ => rfl⟩

/-- **In every run** the parties that are sending are the senders of the queue. -/
theorem reachable_consistent {Rule : SessionOp → SessionState → Prop} (h : session.ReachableUnder Rule s) :
    Consistent s :=
  h.invariant (fun _ heq => heq ▸ consistent_start) (fun _ _ _ _ hc _ hs => consistent_step hc hs)

/-- A stream with an entry is one whose handler has begun. -/
def Begun (s : SessionState) : Prop :=
  ∀ j, s.connection.target j ≠ .unknown ∨ s.phase.deliversTo j = true → (s.streams j).phase ≠ .idle

theorem begun_step {op : SessionOp} (h : Consistent s) (hb : Begun s) (hs : session.step op s = some t) :
    Begun t := by
  have touched : ∀ {id u}, Touches id u t → Sends id t →
      (∀ j, u.connection.target j ≠ .unknown ∨ u.phase.deliversTo j = true → j ≠ id →
        (u.streams j).phase ≠ .idle) → Begun t := by
    intro id u htouches hsends hu j hj
    by_cases hji : j = id
    · subst hji
      exact hsends.begun
    · rw [htouches.others j hji]
      exact hu j (hj.imp (htouches.entries j) fun hd => htouches.phase ▸ hd) hji
  rcases step_cases h hs with ⟨_, hserves, _⟩ | ⟨id, _, htouches, hsends, _⟩ |
    ⟨mode, c, message, hc, rfl⟩
  · intro j hj
    rw [(hserves.streams j).1]
    rcases hj with ht | hd
    · exact hb j (.inl (hserves.connection.target ht))
    · exact hb j (hserves.delivering j hd).symm
  · exact touched htouches hsends fun j hj _ => hb j hj
  · obtain ⟨_, htouches, hsends, _⟩ := touches_submit message h hc
    refine touched htouches hsends fun j hj hji => ?_
    simp only [SessionState.setStream, Function.update_of_ne hji]
    exact hb j (hj.imp_left fun ht => (hc.target j ht).resolve_left hji)

theorem reachable_begun {Rule : SessionOp → SessionState → Prop} (h : session.ReachableUnder Rule s) :
    Begun s := by
  refine h.invariant ?_ (fun _ _ _ hr hb _ hs => begun_step (reachable_consistent hr) hb hs)
  intro _ heq j htarget
  subst heq
  rcases htarget with ht | hd
  · exact absurd rfl ht
  · cases hd

end Runs
end WsNet.Access
