import WsNet.Access.SessionInvariant

/-! What a handler's step makes of its own stream and puts into the queue.

A message goes through `enqueue`, which has three ends: it is in the queue, the handler
waits for a permit, or the connection is closed and the handler returns. `Turn` says
what any step does. -/
namespace WsNet.Access
open Data Transition

section Turns
variable [MessageCodec]

/-- The stream, with the local end that the step has seen. -/
def Stream.ending (op : SessionOp) (st : Stream) : Stream :=
  match op with
  | .localEof _ => { st with localReadClosed := true }
  | _ => st

/-- The stream after a step of its handler, and what the step puts into the queue. -/
inductive Turn (c : GatewayConnection) (id : StreamId) (st : Stream) :
    SessionOp → Stream → List WsMessage → Prop where
  | enqueued {m : WsMessage} (hm : st.phase.message = some m) :
      Turn c id st (.enqueued id) { st with phase := st.phase.next st.mode } [m]
  | opened {upload : Bool} (hp : st.phase = .awaiting upload) (ha : st.answer = some (.ok ())) :
      Turn c id st (.answered id) { st with phase := .opened st.mode } []
  | early (hp : st.phase.cancellable = true) (ha : st.answer = some (.ok ())) :
      Turn c id st (.answered id) { st with phase := .reading } []
  | failed (hp : (∃ upload, st.phase = .awaiting upload) ∨ st.phase.cancellable = true) :
      Turn c id st (.answered id) { st with phase := .gone } []
  | put {op : SessionOp} {phase : HandlerPhase} {m : WsMessage} (h : Submits id st op phase)
      (hm : phase.message = some m) :
      Turn c id st op { st.ending op with phase := phase.next st.mode } [m]
  | wait {op : SessionOp} {phase : HandlerPhase} (h : Submits id st op phase) :
      Turn c id st op { st.ending op with phase } []
  | refused {op : SessionOp} {phase : HandlerPhase} (h : Submits id st op phase)
      (hc : c.ensureGatewayOpen ≠ .ok ()) : Turn c id st op { st.ending op with phase := .gone } []
  /-- A refused TcpEof is ignored. -/
  | unsent (hp : st.phase = .forwarding) (hl : st.localReadClosed = false) :
      Turn c id st (.localEof id) { st with localReadClosed := true } []
  | recvRemote {channel : StreamChannel} (hp : st.phase = .forwarding) (hr : st.remoteClosed = false) :
      Turn c id st (.recvRemote id) { st with channel, phase := .writing } []
  | remoteEof (hp : st.phase = .forwarding) : Turn c id st (.remoteEof id) { st with remoteClosed := true } []
  | wrote (hp : st.phase = .writing) : Turn c id st (.wrote id) { st with phase := .forwarding } []
  | clientReads {channel : StreamChannel} (hp : st.phase = .reading) :
      Turn c id st (.clientReads id) { st with channel } []
  | bodyClosed (hp : st.phase = .reading) : Turn c id st (.closedSeen id) { st with phase := .gone } []
  | dropped (hp : st.phase ≠ .idle) : Turn c id st (.dropped id) { st with phase := .gone } []

end Turns

/-! ### What else a step leaves alone -/

/-- From the one state to the other the stream becomes this, and these messages are put
into the queue. -/
structure Does (id : StreamId) (st : Stream) (put : List WsMessage) (s t : SessionState) : Prop where
  streams : t.streams = Function.update s.streams id st
  items : t.outbound.items = s.outbound.items ++ put
  phase : t.phase = s.phase
  connection : s.connection.Fewer t.connection
  isOpen : t.connection.ensureGatewayOpen = s.connection.ensureGatewayOpen

namespace Does
variable {id : StreamId} {s t u : SessionState} {st st' : Stream} {put : List WsMessage}

theorem self (h : Does id st put s t) : t.streams id = st := by
  rw [h.streams, Function.update_self]

theorem others (h : Does id st put s t) {j : StreamId} (hj : j ≠ id) : t.streams j = s.streams j := by
  rw [h.streams, Function.update_of_ne hj]

theorem trans (h : Does id st [] s u) (h' : Does id st' put u t) : Does id st' put s t where
  streams := by rw [h'.streams, h.streams, Function.update_idem]
  items := by rw [h'.items, h.items, List.append_nil]
  phase := h'.phase.trans h.phase
  connection := h.connection.trans h'.connection
  isOpen := h'.isOpen.trans h.isOpen

/-- The queue and the stream change. -/
theorem outbound {o : Outbound} (ho : o.items = s.outbound.items ++ put) :
    Does id st put s ({ s with outbound := o }.setStream id st) :=
  ⟨rfl, ho, rfl, .refl _, rfl⟩

theorem setStream : Does id st [] s (s.setStream id st) :=
  ⟨rfl, (List.append_nil _).symm, rfl, .refl _, rfl⟩

/-- Entries go. -/
theorem entries {c : GatewayConnection} (hc : s.connection.Fewer c)
    (ho : c.ensureGatewayOpen = s.connection.ensureGatewayOpen) :
    Does id (s.streams id) [] s { s with connection := c } :=
  ⟨(Function.update_eq_self id s.streams).symm, (List.append_nil _).symm, rfl, hc, ho⟩

theorem refl (id : StreamId) (s : SessionState) : Does id (s.streams id) [] s s :=
  entries (.refl _) rfl

theorem withdraw : Does id (s.streams id) [] s { s with outbound := s.outbound.withdraw (.handler id) } :=
  ⟨(Function.update_eq_self id s.streams).symm,
    (BoundedChannel.withdraw_items _ _).trans (List.append_nil _).symm, rfl, .refl _, rfl⟩

theorem leave : Does id { s.streams id with phase := .gone } [] s (s.leave id) :=
  (entries (.closeStream id _) rfl).trans (withdraw.trans setStream)

/-- The three ends of a send. -/
theorem enqueue (id : StreamId) (phase : HandlerPhase) (m : WsMessage) (s : SessionState) :
    s.connection.ensureGatewayOpen ≠ .ok () ∧
        Does id { s.streams id with phase := .gone } [] s (s.enqueue id phase m) ∨
      s.connection.ensureGatewayOpen = .ok () ∧
        (Does id { s.streams id with phase := phase.next (s.streams id).mode } [m] s
            (s.enqueue id phase m) ∨
          Does id { s.streams id with phase } [] s (s.enqueue id phase m)) := by
  unfold SessionState.enqueue
  split
  · rename_i error he
    exact .inl ⟨by rw [he]; nofun, leave⟩
  · rename_i he
    refine .inr ⟨he, ?_⟩
    split
    · rename_i o ho
      exact .inl (outbound (BoundedChannel.trySend_eq_some ho).2.1)
    · exact .inr (outbound ((BoundedChannel.request_items _ _).trans (List.append_nil _).symm))

end Does

/-- The same handler at the same point; its answer and its channel may differ. -/
def Stream.Alike (st st' : Stream) : Prop := ∃ answer channel, st' = { st with answer, channel }

section Alike
variable {id : StreamId} {s : SessionState}

theorem Stream.Alike.refl (st : Stream) : st.Alike st := ⟨st.answer, st.channel, rfl⟩

theorem Stream.Alike.trans {a b c : Stream} (h : a.Alike b) (h' : b.Alike c) : a.Alike c := by
  obtain ⟨_, _, rfl⟩ := h
  obtain ⟨answer, channel, rfl⟩ := h'
  exact ⟨answer, channel, rfl⟩

theorem alike_setChannel (channel : StreamChannel) (j : StreamId) :
    (s.streams j).Alike ((s.setChannel id channel).streams j) := by
  by_cases hj : j = id
  · subst hj
    exact ⟨(s.streams j).answer, channel, SessionState.stream_setStream ..⟩
  · exact ⟨(s.streams j).answer, (s.streams j).channel, Function.update_of_ne hj _ _⟩

theorem alike_abandon (j : StreamId) : (s.streams j).Alike (s.abandon.streams j) := by
  unfold SessionState.abandon
  split
  · exact alike_setChannel _ j
  · exact .refl _

theorem alike_lost (reason : String) (j : StreamId) : (s.streams j).Alike ((s.lost reason).streams j) :=
  (alike_abandon j).trans ⟨_, _, rfl⟩

end Alike

@[simp] theorem ending_mode (op : SessionOp) (st : Stream) : (st.ending op).mode = st.mode := by
  cases op <;> rfl

/-- The first message of a new stream is in the queue, or waits. -/
inductive Begins (mode : Mode) (m : WsMessage) : HandlerPhase → List WsMessage → Prop where
  | put : Begins mode m (.awaiting (mode = .http)) [m]
  | wait : Begins mode m (.submitting m) []

/-- The kind of the stream that a step starts, and the stream's first message. -/
def SessionOp.starts (id : StreamId) : SessionOp → Option (Mode × Message)
  | .openTcp target config => some (.tcp, .open id target config)
  | .startHttp target config request => some (.http, .httpRequestStart id target config request)
  | _ => none

section Steps
variable [MessageCodec] {id : StreamId} {s t : SessionState}

/-! ### Every step of a handler -/

/-- The handler has begun. -/
theorem Turn.begun {c : GatewayConnection} {st st' : Stream} {op : SessionOp} {put : List WsMessage}
    (h : Turn c id st op st' put) : st.phase ≠ .idle := by
  intro hidle
  cases h with
  | put h | wait h | refused h => exact h.begun hidle
  | enqueued hm =>
    rw [hidle] at hm
    cases hm
  | failed hp =>
    rw [hidle] at hp
    rcases hp with ⟨_, hp⟩ | hp <;> cases hp
  | dropped hp => exact hp hidle
  | opened hp | early hp | unsent hp | recvRemote hp | remoteEof hp | wrote hp | clientReads hp
  | bodyClosed hp =>
    rw [hidle] at hp
    cases hp

theorem Turn.mode {c : GatewayConnection} {st st' : Stream} {op : SessionOp} {put : List WsMessage}
    (h : Turn c id st op st' put) : st'.mode = st.mode := by
  cases h with
  | put | wait | refused => exact ending_mode op st
  | _ => rfl

/-- A step that sends. -/
theorem turn_enqueue {op : SessionOp} {phase : HandlerPhase} {m : WsMessage} {u : SessionState}
    (h : Submits id (s.streams id) op phase) (hm : phase.message = some m)
    (hu : Does id ((s.streams id).ending op) [] s u) :
    ∃ st put, Turn s.connection id (s.streams id) op st put ∧ Does id st put s (u.enqueue id phase m) := by
  rcases Does.enqueue id phase m u with ⟨hc, hd⟩ | ⟨_, hd | hd⟩
  · rw [hu.self] at hd
    exact ⟨_, _, .refused h (hu.isOpen ▸ hc), hu.trans hd⟩
  · rw [hu.self, ending_mode] at hd
    exact ⟨_, _, .put h hm, hu.trans hd⟩
  · rw [hu.self] at hd
    exact ⟨_, _, .wait h, hu.trans hd⟩

omit [MessageCodec] in
/-- Before it sends, the step takes out entries or notes the local end. -/
theorem does_preparing (op : SessionOp) : Does id ((s.streams id).ending op) [] s (s.preparing id op) := by
  cases op with
  | openTimeout | finish => exact .entries (.closeStream id _) rfl
  | uploadFails => exact .entries (.closeRequest id _) rfl
  | closedSeen =>
    exact (Does.entries (.closeStream id _) rfl).trans
      (.withdraw (s := { s with connection := s.connection.closeStream id }))
  | localEof => exact .setStream
  | _ => exact .refl id s

/-- **A step of a handler**: what becomes of its stream, and what it sends. -/
theorem turn_step {op : SessionOp} (hop : op.handler = some id) (hs : session.step op s = some t) :
    ∃ st put, Turn s.connection id (s.streams id) op st put ∧ Does id st put s t := by
  cases handlerMove_of_step hop hs with
  | enqueued hm ho => exact ⟨_, _, .enqueued hm, .outbound (BoundedChannel.put_eq_some ho).2.1⟩
  | opened hp ha => exact ⟨_, _, .opened hp ha, .setStream⟩
  | early hp ha => exact ⟨_, _, .early hp ha, Does.withdraw.trans .setStream⟩
  | failed hp => exact ⟨_, _, .failed hp, .leave⟩
  | submits hsubmits hm => exact turn_enqueue hsubmits hm (does_preparing op)
  | unsent hp hl => exact ⟨_, _, .unsent hp hl, .setStream⟩
  | recvRemote hp hr => exact ⟨_, _, .recvRemote hp hr, .setStream⟩
  | remoteEof hp => exact ⟨_, _, .remoteEof hp, .setStream⟩
  | wrote hp => exact ⟨_, _, .wrote hp, .setStream⟩
  | clientReads hp => exact ⟨_, _, .clientReads hp, .setStream⟩
  | bodyClosed hp => exact ⟨_, _, .bodyClosed hp, .setStream⟩
  | dropped hp => exact ⟨_, _, .dropped hp, Does.withdraw.trans .setStream⟩

/-! ### The other steps -/

/-- The session task sends: nothing but the queue and its own phase changes. -/
theorem sendText_sent (message : Message) (s : SessionState) :
    (s.sendText message).connection = s.connection ∧ (s.sendText message).streams = s.streams ∧
      ((s.sendText message).outbound.items = s.outbound.items ++ [.text (encodeMessage message)] ∧
          (s.sendText message).phase = .select ∨
        (s.sendText message).phase = .sending (.text (encodeMessage message))) := by
  unfold SessionState.sendText
  split
  · rename_i outbound ho
    exact ⟨rfl, rfl, .inl ⟨(BoundedChannel.trySend_eq_some ho).2.1, rfl⟩⟩
  · exact ⟨rfl, rfl, .inr rfl⟩

theorem alike_sendText (message : Message) (j : StreamId) :
    (s.streams j).Alike ((s.sendText message).streams j) := by
  rw [(sendText_sent message s).2.1]
  exact .refl _

theorem alike_message (message : Message) (j : StreamId) :
    (s.streams j).Alike ((s.message message).streams j) := by
  unfold SessionState.message
  split
  · exact ⟨_, _, rfl⟩
  · exact alike_sendText _ j
  · rename_i error connection notices _
    have hnotified : (s.streams j).Alike ((({ s with connection } : SessionState).notify notices).streams j) :=
      ⟨_, _, rfl⟩
    exact hnotified.trans (alike_lost _ j)

theorem alike_data (payload : Bytes) (j : StreamId) : (s.streams j).Alike ((s.data id payload).streams j) := by
  have hdeliver : (s.streams j).Alike ((s.deliver id payload).streams j) := by
    unfold SessionState.deliver
    split
    · exact alike_sendText (s := { s with connection := s.connection.removeChannel id }) _ j
    · split
      · exact alike_setChannel _ j
      · exact alike_setChannel _ j
  unfold SessionState.data
  split
  · exact hdeliver
  · exact hdeliver
  · split
    · exact .refl _
    · exact alike_sendText (s := { s with connection := { s.connection with
        unknownStreams := insert id s.connection.unknownStreams } }) _ j

/-- **A step of the session task** leaves every handler where it is. -/
theorem alike_step {op : SessionOp} (hop : op.ofSession = true) (hs : session.step op s = some t)
    (j : StreamId) : (s.streams j).Alike (t.streams j) := by
  cases sessionMove_of_step hop hs with
  | writer | sent | drain | drained | connect => exact .refl _
  | heartbeat => exact alike_sendText .ping j
  | message => exact alike_message _ j
  | data => exact alike_data _ j
  | @delivered _ _ channel => exact alike_setChannel channel j
  | @undelivered id =>
    exact (alike_abandon j).trans (alike_sendText (s := { s.abandon with
      connection := s.abandon.connection.removeChannel id }) _ j)
  | lost => exact alike_lost _ j

/-- **The start of a stream.** -/
theorem start_step {op : SessionOp} {mode : Mode} {m : Message}
    (hop : op.starts s.connection.streamIds = some (mode, m)) (hs : session.step op s = some t) :
    t.connection.ensureGatewayOpen = .ok () ∧ t.phase = s.phase ∧
      ∃ phase put, Begins mode (.text (encodeMessage m)) phase put ∧
        t.streams = Function.update s.streams s.connection.streamIds { mode, phase } ∧
        t.outbound.items = s.outbound.items ++ put := by
  have submitted : ∀ {mode m}, (s.register mode).map (·.submit s.connection.streamIds m) = some t →
      t.connection.ensureGatewayOpen = .ok () ∧ t.phase = s.phase ∧
        ∃ phase put, Begins mode (.text (encodeMessage m)) phase put ∧
          t.streams = Function.update s.streams s.connection.streamIds { mode, phase } ∧
          t.outbound.items = s.outbound.items ++ put := by
    intro mode m hs
    obtain ⟨u, hu, rfl⟩ := Option.map_eq_some_iff.mp hs
    simp only [SessionState.register, Option.ite_none_right_eq_some] at hu
    obtain ⟨⟨hopen, _⟩, hu⟩ := hu
    have hregistered : u.connection.ensureGatewayOpen = .ok () ∧ u.phase = s.phase ∧
        u.outbound = s.outbound ∧
        u.streams = Function.update s.streams s.connection.streamIds { mode } := by
      cases hu
      exact ⟨by cases mode <;> exact hopen, rfl, rfl, rfl⟩
    obtain ⟨hopen', hphase, hout, hstreams⟩ := hregistered
    have done : ∀ {phase put v}, Begins mode (.text (encodeMessage m)) phase put →
        Does s.connection.streamIds { mode, phase } put u v →
        v.connection.ensureGatewayOpen = .ok () ∧ v.phase = s.phase ∧
          ∃ phase put, Begins mode (.text (encodeMessage m)) phase put ∧
            v.streams = Function.update s.streams s.connection.streamIds { mode, phase } ∧
            v.outbound.items = s.outbound.items ++ put := by
      intro phase put v hb hd
      refine ⟨hd.isOpen.trans hopen', hd.phase.trans hphase, phase, put, hb, ?_, hout ▸ hd.items⟩
      rw [hd.streams, hstreams, Function.update_idem]
    have hends := Does.enqueue s.connection.streamIds (.submitting (.text (encodeMessage m)))
      (.text (encodeMessage m)) u
    rw [hstreams, Function.update_self] at hends
    rcases hends with ⟨hclosed, _⟩ | ⟨_, hd | hd⟩
    · exact absurd hopen' hclosed
    · exact done .put hd
    · exact done .wait hd
  cases op with
  | openTcp target config =>
    cases hop
    exact submitted hs
  | startHttp target config request =>
    cases hop
    exact submitted hs
  | _ => cases hop

/-- **A stream after any step**: it is alike, or its handler made the step, or it is new. -/
theorem stream_step {op : SessionOp} (hs : session.step op s = some t) (id : StreamId) :
    (s.streams id).Alike (t.streams id) ∨
      op.handler = some id ∧ (∃ put, Turn s.connection id (s.streams id) op (t.streams id) put) ∨
      ∃ mode phase, t.streams id = { mode, phase } := by
  by_cases hsession : op.ofSession = true
  · exact .inl (alike_step hsession hs id)
  cases hop : op.handler with
  | some j =>
    obtain ⟨st, put, hturn, hdoes⟩ := turn_step hop hs
    by_cases hj : id = j
    · subst hj
      exact .inr (.inl ⟨rfl, put, hdoes.self.symm ▸ hturn⟩)
    · rw [hdoes.others hj]
      exact .inl (.refl _)
  | none =>
    have hstart : ∃ mode m, op.starts s.connection.streamIds = some (mode, m) := by
      cases op <;> first | exact ⟨_, _, rfl⟩ | exact absurd rfl hsession | cases hop
    obtain ⟨mode, m, hstart⟩ := hstart
    obtain ⟨_, _, phase, put, _, hstreams, _⟩ := start_step hstart hs
    by_cases hid : id = s.connection.streamIds
    · subst hid
      exact .inr (.inr ⟨mode, phase, by rw [hstreams, Function.update_self]⟩)
    · rw [hstreams, Function.update_of_ne hid]
      exact .inl (.refl _)

end Steps

end WsNet.Access
