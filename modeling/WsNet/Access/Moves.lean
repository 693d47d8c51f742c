import WsNet.Access.Session

/-! The steps of a session, branch by branch.

`HandlerMove` lists what a step of a handler does, `SessionMove` what one of the session
task or its writer does, each with the guards that the step has passed. A handler's
message goes through `enqueue`; `Submits` says which step sends what. The invariants
are read off these lists (`handlerMove_of_step`, `sessionMove_of_step`). -/
namespace WsNet.Access
open Data Transition

/-! ### Whose step it is -/

/-- The handler whose step it is. -/
def SessionOp.handler : SessionOp → Option StreamId
  | .enqueued id | .answered id | .openTimeout id | .upload id _ | .uploadEnd id | .uploadFails id
  | .readLocal id _ | .localEof id | .recvRemote id | .remoteEof id | .wrote id | .finish id _
  | .clientReads id | .closedSeen id | .dropped id => some id
  | _ => none

/-- The session's and the writer's steps; not a handler's, nor the start of one. -/
def SessionOp.ofSession : SessionOp → Bool
  | .openTcp _ _ | .startHttp _ _ _ => false
  | op => op.handler.isNone

section Moves
variable [MessageCodec]

/-! ### The handlers -/

/-- The step sends the message of the phase, in which the handler waits for a permit. -/
inductive Submits (id : StreamId) (st : Stream) : SessionOp → HandlerPhase → Prop where
  | openTimeout (hm : st.mode = .tcp) (hp : st.phase = .awaiting false) (ha : st.answer = none) :
      Submits id st (.openTimeout id) (.closing (.text (encodeMessage (.close id "open_timeout"))))
  | upload {chunk : Bytes} (hp : st.phase = .awaiting true) :
      Submits id st (.upload id chunk) (.uploading (.binary (encodeDataFrame id chunk)) false)
  | uploadEnd (hp : st.phase = .awaiting true) :
      Submits id st (.uploadEnd id) (.uploading (.text (encodeMessage (.httpRequestEnd id))) true)
  | uploadFails (hp : st.phase = .awaiting true) :
      Submits id st (.uploadFails id)
        (.failing (.text (encodeMessage (.close id "request_body_read_failed"))))
  | readLocal {bytes : Bytes} (hp : st.phase = .forwarding) (hl : st.localReadClosed = false) :
      Submits id st (.readLocal id bytes) (.sending (.binary (encodeDataFrame id bytes)))
  | localEof (hp : st.phase = .forwarding) (hl : st.localReadClosed = false) :
      Submits id st (.localEof id) (.sending (.text (encodeMessage (.tcpEof id))))
  | finish {failed : Bool} (hp : st.phase = .forwarding ∨ st.phase = .writing) :
      Submits id st (.finish id failed)
        (.closing (.text (encodeMessage (.close id (if failed then "local_error" else "local_closed")))))
  | closedSeen (hp : st.phase = .forwarding ∨ (∃ m, st.phase = .sending m) ∨ st.phase = .writing) :
      Submits id st (.closedSeen id) (.closing (.text (encodeMessage (.close id "local_error"))))

/-- The state from which the step sends: entries have gone, the local end is noted. -/
def SessionState.preparing (id : StreamId) (op : SessionOp) (s : SessionState) : SessionState :=
  match op with
  | .openTimeout _ | .finish _ _ => { s with connection := s.connection.closeStream id }
  | .uploadFails _ => { s with connection := s.connection.closeRequest id }
  | .closedSeen _ =>
    { s with
      connection := s.connection.closeStream id
      outbound := s.outbound.withdraw (.handler id) }
  | .localEof _ => s.setStream id { s.streams id with localReadClosed := true }
  | _ => s

/-- What the steps of a handler do. -/
inductive HandlerMove (id : StreamId) (s : SessionState) : SessionOp → SessionState → Prop where
  | enqueued {m : WsMessage} {o : Outbound} (hm : (s.streams id).phase.message = some m)
    (ho : s.outbound.put (.handler id) m = some o) :
    HandlerMove id s (.enqueued id)
      ({ s with outbound := o }.setPhase id ((s.streams id).phase.next (s.streams id).mode))
  | opened {upload : Bool} (hp : (s.streams id).phase = .awaiting upload)
    (ha : (s.streams id).answer = some (.ok ())) :
    HandlerMove id s (.answered id) (s.setPhase id (.opened (s.streams id).mode))
  | early (hp : (s.streams id).phase.cancellable = true) (ha : (s.streams id).answer = some (.ok ())) :
    HandlerMove id s (.answered id)
      ({ s with outbound := s.outbound.withdraw (.handler id) }.setPhase id .reading)
  | failed (hp : (∃ upload, (s.streams id).phase = .awaiting upload) ∨
      (s.streams id).phase.cancellable = true) :
    HandlerMove id s (.answered id) (s.leave id)
  | submits {op : SessionOp} {phase : HandlerPhase} {m : WsMessage}
    (h : Submits id (s.streams id) op phase) (hm : phase.message = some m) :
    HandlerMove id s op ((s.preparing id op).enqueue id phase m)
  /-- A refused TcpEof is ignored. -/
  | unsent (hp : (s.streams id).phase = .forwarding) (hl : (s.streams id).localReadClosed = false) :
    HandlerMove id s (.localEof id) (s.setStream id { s.streams id with localReadClosed := true })
  | recvRemote {bytes : Bytes} {channel : StreamChannel} (hp : (s.streams id).phase = .forwarding)
    (hr : (s.streams id).remoteClosed = false) (hrecv : (s.streams id).channel.recv = some (bytes, channel)) :
    HandlerMove id s (.recvRemote id) (s.setStream id { s.streams id with channel, phase := .writing })
  | remoteEof (hp : (s.streams id).phase = .forwarding) (htarget : s.connection.target id = .unknown)
    (hdelivers : s.phase.deliversTo id = false) :
    HandlerMove id s (.remoteEof id) (s.setStream id { s.streams id with remoteClosed := true })
  | wrote (hp : (s.streams id).phase = .writing) : HandlerMove id s (.wrote id) (s.setPhase id .forwarding)
  | clientReads {bytes : Bytes} {channel : StreamChannel} (hp : (s.streams id).phase = .reading)
    (hrecv : (s.streams id).channel.recv = some (bytes, channel)) :
    HandlerMove id s (.clientReads id) (s.setChannel id channel)
  | bodyClosed (hp : (s.streams id).phase = .reading) :
    HandlerMove id s (.closedSeen id) (s.setPhase id .gone)
  | dropped (hp : (s.streams id).phase ≠ .idle) :
    HandlerMove id s (.dropped id)
      ({ s with outbound := s.outbound.withdraw (.handler id) }.setPhase id .gone)

variable {id : StreamId} {s t : SessionState}

/-- The handler has begun. -/
theorem Submits.begun {st : Stream} {op : SessionOp} {phase : HandlerPhase} (h : Submits id st op phase) :
    st.phase ≠ .idle := by
  intro hidle
  cases h with
  | finish hp =>
    rw [hidle] at hp
    rcases hp with hp | hp <;> cases hp
  | closedSeen hp =>
    rw [hidle] at hp
    rcases hp with hp | ⟨_, hp⟩ | hp <;> cases hp
  | openTimeout _ hp | upload hp | uploadEnd hp | uploadFails hp | readLocal hp | localEof hp =>
    rw [hidle] at hp
    cases hp

theorem HandlerMove.begun {op : SessionOp} (h : HandlerMove id s op t) : (s.streams id).phase ≠ .idle := by
  intro hidle
  cases h with
  | submits h => exact h.begun hidle
  | enqueued hm =>
    rw [hidle] at hm
    cases hm
  | failed hp =>
    rw [hidle] at hp
    rcases hp with ⟨_, hp⟩ | hp <;> cases hp
  | dropped hp => exact hp hidle
  | opened hp | early hp | unsent hp | recvRemote hp | remoteEof hp | wrote hp | clientReads hp
  | bodyClosed hp =>
    rw [hidle] at hp
    cases hp

theorem handlerMove_answered (hs : s.answered id = some t) : HandlerMove id s (.answered id) t := by
  unfold SessionState.answered at hs
  dsimp only at hs
  split at hs
  · rename_i hp ha
    cases hs
    exact .opened hp ha
  · rename_i hp ha
    cases hs
    exact .early (by rw [hp]; rfl) ha
  · rename_i hp ha
    cases hs
    exact .early (by rw [hp]; rfl) ha
  · rename_i hp _
    cases hs
    exact .failed (.inl ⟨_, hp⟩)
  · rename_i hp _
    cases hs
    exact .failed (.inr (by rw [hp]; rfl))
  · rename_i hp _
    cases hs
    exact .failed (.inr (by rw [hp]; rfl))
  · rename_i hp _
    cases hs
    exact .failed (.inr (by rw [hp]; rfl))
  · cases hs

theorem handlerMove_closedSeen (hs : s.closedSeen id = some t) : HandlerMove id s (.closedSeen id) t := by
  simp only [SessionState.closedSeen, Option.ite_none_right_eq_some] at hs
  obtain ⟨_, hs⟩ := hs
  split at hs
  · rename_i hp
    cases hs
    exact .submits (.closedSeen (.inl hp)) rfl
  · rename_i hp
    cases hs
    exact .submits (.closedSeen (.inr (.inl ⟨_, hp⟩))) rfl
  · rename_i hp
    cases hs
    exact .submits (.closedSeen (.inr (.inr hp))) rfl
  · rename_i hp
    cases hs
    exact .bodyClosed hp
  · cases hs

/-- **What a step of a handler does.** -/
theorem handlerMove_of_step {op : SessionOp} (hop : op.handler = some id) (hs : session.step op s = some t) :
    HandlerMove id s op t := by
  cases op with
  | enqueued j =>
    cases hop
    obtain ⟨m, hm, hs⟩ := Option.bind_eq_some_iff.mp hs
    obtain ⟨o, ho, rfl⟩ := Option.map_eq_some_iff.mp hs
    exact .enqueued hm ho
  | answered j =>
    cases hop
    exact handlerMove_answered hs
  | openTimeout j =>
    cases hop
    simp only [session, SessionState.openTimeout, Option.ite_none_right_eq_some] at hs
    obtain ⟨⟨hm, hp, ha⟩, hs⟩ := hs
    cases hs
    exact .submits (.openTimeout hm hp ha) rfl
  | upload j chunk =>
    cases hop
    simp only [session, SessionState.upload, Option.ite_none_right_eq_some] at hs
    obtain ⟨hp, hs⟩ := hs
    cases hs
    exact .submits (.upload hp) rfl
  | uploadEnd j =>
    cases hop
    simp only [session, SessionState.upload, Option.ite_none_right_eq_some] at hs
    obtain ⟨hp, hs⟩ := hs
    cases hs
    exact .submits (.uploadEnd hp) rfl
  | uploadFails j =>
    cases hop
    simp only [session, SessionState.uploadFails, Option.ite_none_right_eq_some] at hs
    obtain ⟨hp, hs⟩ := hs
    cases hs
    exact .submits (.uploadFails hp) rfl
  | readLocal j bytes =>
    cases hop
    simp only [session, SessionState.readLocal, Option.ite_none_right_eq_some] at hs
    obtain ⟨⟨hp, hl⟩, hs⟩ := hs
    cases hs
    exact .submits (.readLocal hp hl) rfl
  | localEof j =>
    cases hop
    simp only [session, SessionState.localEof, Option.ite_none_right_eq_some] at hs
    obtain ⟨⟨hp, hl⟩, hs⟩ := hs
    split at hs
    · cases hs
      exact .unsent hp hl
    · cases hs
      exact .submits (.localEof hp hl) rfl
  | recvRemote j =>
    cases hop
    simp only [session, SessionState.recvRemote, Option.ite_none_right_eq_some] at hs
    obtain ⟨⟨hp, hr⟩, hs⟩ := hs
    obtain ⟨r, hrecv, rfl⟩ := Option.map_eq_some_iff.mp hs
    exact .recvRemote hp hr hrecv
  | remoteEof j =>
    cases hop
    simp only [session, SessionState.remoteEof, Option.ite_none_right_eq_some] at hs
    obtain ⟨⟨hp, _, htarget, hdelivers, _⟩, hs⟩ := hs
    cases hs
    exact .remoteEof hp htarget hdelivers
  | wrote j =>
    cases hop
    simp only [session, SessionState.wrote, Option.ite_none_right_eq_some] at hs
    obtain ⟨hp, hs⟩ := hs
    cases hs
    exact .wrote hp
  | finish j failed =>
    cases hop
    simp only [session, SessionState.finish, Option.ite_none_right_eq_some] at hs
    obtain ⟨⟨hp, _⟩, hs⟩ := hs
    cases hs
    exact .submits (.finish hp) rfl
  | clientReads j =>
    cases hop
    simp only [session, SessionState.clientReads, Option.ite_none_right_eq_some] at hs
    obtain ⟨hp, hs⟩ := hs
    obtain ⟨r, hrecv, rfl⟩ := Option.map_eq_some_iff.mp hs
    exact .clientReads hp hrecv
  | closedSeen j =>
    cases hop
    exact handlerMove_closedSeen hs
  | dropped j =>
    cases hop
    simp only [session, SessionState.dropped, Option.ite_none_left_eq_some] at hs
    obtain ⟨hp, hs⟩ := hs
    cases hs
    exact .dropped hp
  | _ => cases hop

/-! ### The session task -/

/-- What the steps of the session task and its writer do. -/
inductive SessionMove (s : SessionState) : SessionOp → SessionState → Prop where
  | writer {op : WriterOp} {r : WriterStep} (hp : s.phase = .select)
    (hr : s.writer.step op s.outbound = some r) :
    SessionMove s (.writer op) { s with writer := r.writer, outbound := r.outbound }
  | heartbeat (hp : s.phase = .select) : SessionMove s .heartbeat (s.sendText .ping)
  | message {m : Message} (hp : s.phase = .select) : SessionMove s (.message m) (s.message m)
  | data {id : StreamId} {payload : Bytes} (hp : s.phase = .select) :
    SessionMove s (.data id payload) (s.data id payload)
  | sent {m : WsMessage} {o : Outbound} (hp : s.phase = .sending m) (ho : s.outbound.put .session m = some o) :
    SessionMove s .sent { s with outbound := o, phase := .select }
  | delivered {id : StreamId} {payload : Bytes} {channel : StreamChannel} (hp : s.phase = .delivering id payload)
    (hc : (s.streams id).channel.put () payload = some channel) :
    SessionMove s .delivered { s.setChannel id channel with phase := .select }
  | undelivered {id : StreamId} {payload : Bytes} (hp : s.phase = .delivering id payload) :
    SessionMove s .undelivered (s.abandon.backpressure id)
  | lost {reason : String} : SessionMove s (.lost reason) (s.lost reason)
  | drain {m : WsMessage} {o : Outbound} (hp : s.phase = .draining) (hr : s.outbound.recv = some (m, o)) :
    SessionMove s .drain { s with outbound := o }
  | drained (hp : s.phase = .draining) : SessionMove s .drained { s with phase := .offline }
  | connect (hp : s.phase = .offline) (hidentity : s.connection.identity = none) :
    SessionMove s .connect
      { s with connection := { s.connection with closed := false }, phase := .select }

/-- **What a step of the session task does.** -/
theorem sessionMove_of_step {op : SessionOp} (hop : op.ofSession = true) (hs : session.step op s = some t) :
    SessionMove s op t := by
  cases op with
  | writer op =>
    simp only [session, SessionState.polled, Option.ite_none_right_eq_some] at hs
    obtain ⟨hp, hs⟩ := hs
    obtain ⟨r, hr, rfl⟩ := Option.map_eq_some_iff.mp hs
    exact .writer hp hr
  | heartbeat =>
    simp only [session, SessionState.polled, Option.ite_none_right_eq_some] at hs
    obtain ⟨hp, hs⟩ := hs
    cases hs
    exact .heartbeat hp
  | message m =>
    simp only [session, SessionState.polled, Option.ite_none_right_eq_some] at hs
    obtain ⟨hp, hs⟩ := hs
    cases hs
    exact .message hp
  | data id payload =>
    simp only [session, SessionState.polled, Option.ite_none_right_eq_some] at hs
    obtain ⟨hp, hs⟩ := hs
    cases hs
    exact .data hp
  | sent =>
    simp only [session, SessionState.sent] at hs
    split at hs
    · rename_i m hp
      obtain ⟨o, ho, rfl⟩ := Option.map_eq_some_iff.mp hs
      exact .sent hp ho
    · cases hs
  | delivered =>
    simp only [session, SessionState.delivered] at hs
    split at hs
    · rename_i id payload hp
      obtain ⟨channel, hc, rfl⟩ := Option.map_eq_some_iff.mp hs
      exact .delivered hp hc
    · cases hs
  | undelivered =>
    simp only [session, SessionState.undelivered] at hs
    split at hs
    · rename_i id payload hp
      rw [Option.ite_none_right_eq_some] at hs
      obtain ⟨_, hs⟩ := hs
      cases hs
      exact .undelivered hp
    · cases hs
  | lost reason =>
    simp only [session, Option.ite_none_left_eq_some] at hs
    obtain ⟨_, hs⟩ := hs
    cases hs
    exact .lost
  | drain =>
    simp only [session, SessionState.drain, Option.ite_none_right_eq_some] at hs
    obtain ⟨hp, hs⟩ := hs
    obtain ⟨r, hr, rfl⟩ := Option.map_eq_some_iff.mp hs
    exact .drain hp hr
  | drained =>
    simp only [session, SessionState.drained, Option.ite_none_right_eq_some] at hs
    obtain ⟨⟨hp, _⟩, hs⟩ := hs
    cases hs
    exact .drained hp
  | connect =>
    simp only [session, SessionState.connect, Option.ite_none_right_eq_some] at hs
    obtain ⟨⟨hp, hidentity, _⟩, hs⟩ := hs
    cases hs
    exact .connect hp hidentity
  | _ => cases hop

end Moves

end WsNet.Access
