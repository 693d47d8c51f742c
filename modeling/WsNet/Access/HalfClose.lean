import WsNet.Access.Backpressure
import WsNet.Access.Turn
import WsNet.Gateway.Tunnel

/-! The end of one direction, and the end of both.

`TcpEof` says that the gateway sends no more, `Close` that the stream is over. To a TCP
stream's handler both come as the end of its channel, since both only take its entry
out of `tcp_streams`: it goes on reading the local socket until that ends. What it
reads after a `Close` it still sends, and the gateway, which has no such stream, drops
it (`unknown_frame_dropped`). -/
namespace WsNet.Access
open Data Transition

/-- The handler's loop reads on from the local socket. -/
def Stream.reads (st : Stream) : Bool :=
  match st.phase with
  | .forwarding | .sending _ | .writing => !st.localReadClosed
  | _ => false

structure HalfCloseState where
  session : SessionState
  /-- The streams that the gateway has closed. -/
  closed : Finset StreamId

namespace HalfCloseState

/-- A Close of an identifier that was not given out closes no stream. -/
def mark (op : SessionOp) (s : HalfCloseState) : Finset StreamId :=
  match op with
  | .message (.close id _) =>
    if id < s.session.connection.streamIds then insert id s.closed else s.closed
  | _ => s.closed

/-- The gateway has closed the stream, and its handler has seen the channel's end. -/
def Told (id : StreamId) (s : HalfCloseState) : Prop :=
  id ∈ s.closed ∧ (s.session.streams id).remoteClosed = true

/-- A handler that was told reads no more, and so comes to its end. -/
def Released (s : HalfCloseState) : Prop := ∀ id, s.Told id → (s.session.streams id).reads = false

end HalfCloseState

section Machine
variable [MessageCodec]

def halfClose : Machine HalfCloseState SessionOp where
  Initial := fun s => s = ⟨.start, ∅⟩
  step op s := (session.step op s.session).map fun session => ⟨session, s.mark op⟩

/-- The end of both directions is not taken for the end of one. -/
structure ClosesBoth (op : SessionOp) (s t : HalfCloseState) : Prop where
  forwards : ∀ id bytes, op = .readLocal id bytes → ¬ s.Told id
  releases : t.Released

/-- Where a handler comes to be told, its local side has ended. -/
def EndsFirst (op : SessionOp) (s : HalfCloseState) : Prop :=
  match op with
  | .remoteEof id => id ∈ s.closed → (s.session.streams id).reads = false
  | .message (.close id _) =>
    (s.session.streams id).remoteClosed = true → (s.session.streams id).reads = false
  | _ => True

/-! ### What a step can do to a handler's loop -/

/-- The end of the channel is seen only once the stream is open. -/
def Heard (s : SessionState) : Prop :=
  ∀ id, (s.streams id).remoteClosed = true → (s.streams id).phase.awaitsAnswer = false

variable {id : StreamId} {s t : SessionState}

/-- A handler that still reads has read before, and if it was told by this step, then
by the end of its channel. -/
theorem Turn.reads {c : GatewayConnection} {op : SessionOp} {st st' : Stream} {put : List WsMessage}
    (h : Turn c id st op st' put) (hheard : st.remoteClosed = true → st.phase.awaitsAnswer = false)
    (hr : st'.remoteClosed = true) (hreads : st'.reads = true) :
    st.reads = true ∧ (st.remoteClosed = true ∨ op = .remoteEof id) := by
  cases h with
  | enqueued hm =>
    refine ⟨?_, .inl hr⟩
    cases hp : st.phase <;> simp_all [Stream.reads, HandlerPhase.next, HandlerPhase.message]
  | opened hp ha =>
    have hawaits := hheard hr
    rw [hp] at hawaits
    cases hawaits
  | early hp ha => cases hreads
  | failed hp => cases hreads
  | put h hm => cases h <;> simp_all [Stream.reads, Stream.ending, HandlerPhase.next]
  | wait h => cases h <;> simp_all [Stream.reads, Stream.ending]
  | refused h hc => cases hreads
  | unsent hp hl => simp [Stream.reads, hp] at hreads
  | recvRemote hp hr' => exact absurd (hr.symm.trans hr') (by simp)
  | remoteEof hp => exact ⟨hreads, .inr rfl⟩
  | wrote hp => exact ⟨by simpa [Stream.reads, hp] using hreads, .inl hr⟩
  | clientReads hp => simp [Stream.reads, hp] at hreads
  | bodyClosed hp => cases hreads
  | dropped => cases hreads

theorem Turn.heard {c : GatewayConnection} {op : SessionOp} {st st' : Stream} {put : List WsMessage}
    (h : Turn c id st op st' put) (hheard : st.remoteClosed = true → st.phase.awaitsAnswer = false)
    (hr : st'.remoteClosed = true) : st'.phase.awaitsAnswer = false := by
  cases h with
  | enqueued hm =>
    have hawaits := hheard hr
    cases hp : st.phase <;> simp_all [HandlerPhase.next, HandlerPhase.awaitsAnswer]
  | opened hp ha => exact (HandlerPhase.opened_cases st.mode).2.1
  | put h hm => cases h <;> simp_all [Stream.ending, HandlerPhase.next, HandlerPhase.awaitsAnswer]
  | wait h => cases h <;> simp_all [Stream.ending, HandlerPhase.awaitsAnswer]
  | unsent hp hl => exact hheard hr
  | remoteEof hp =>
    show st.phase.awaitsAnswer = false
    rw [hp]
    rfl
  | clientReads hp => exact hheard hr
  | _ => rfl

theorem heard_step {op : SessionOp} (h : Heard s) (hs : session.step op s = some t) : Heard t := by
  intro id hr
  rcases stream_step hs id with ⟨answer, channel, heq⟩ | ⟨_, put, hturn⟩ | ⟨mode, phase, heq⟩
  · rw [heq] at hr ⊢
    exact h id hr
  · exact hturn.heard (h id) hr
  · rw [heq] at hr
    cases hr

theorem reads_step {op : SessionOp} (h : Heard s) (hs : session.step op s = some t)
    (hr : (t.streams id).remoteClosed = true) (hreads : (t.streams id).reads = true) :
    (s.streams id).reads = true ∧ ((s.streams id).remoteClosed = true ∨ op = .remoteEof id) := by
  rcases stream_step hs id with ⟨answer, channel, heq⟩ | ⟨_, put, hturn⟩ | ⟨mode, phase, heq⟩
  · rw [heq] at hr hreads
    exact ⟨hreads, .inl hr⟩
  · exact hturn.reads (h id) hr hreads
  · rw [heq] at hr
    cases hr

/-- The end of the channel is all that its handler sees. -/
theorem stream_remoteEof (hs : session.step (.remoteEof id) s = some t) :
    t.streams id = { s.streams id with remoteClosed := true } := by
  simp only [session, SessionState.remoteEof, Option.ite_none_right_eq_some] at hs
  obtain ⟨_, hs⟩ := hs
  cases hs
  exact SessionState.stream_setStream ..

theorem reads_readLocal {bytes : Bytes} (hs : session.step (.readLocal id bytes) s = some t) :
    (s.streams id).reads = true := by
  simp only [session, SessionState.readLocal, Option.ite_none_right_eq_some] at hs
  obtain ⟨⟨hp, hl⟩, _⟩ := hs
  simp [Stream.reads, hp, hl]

/-! ### Steps and runs -/

omit [MessageCodec] in
theorem HalfCloseState.mem_mark {op : SessionOp} {s : HalfCloseState} (h : id ∈ s.mark op) :
    id ∈ s.closed ∨ ∃ reason, op = .message (.close id reason) := by
  unfold HalfCloseState.mark at h
  split at h
  · split at h
    · rcases Finset.mem_insert.mp h with rfl | h
      · exact .inr ⟨_, rfl⟩
      · exact .inl h
    · exact .inl h
  · exact .inl h

/-- **A step keeps the two ends apart** exactly if whoever it tells has ended. -/
theorem closesBoth_iff {op : SessionOp} {s t : HalfCloseState} (hc : Consistent s.session)
    (hh : Heard s.session) (hrel : s.Released) (hs : halfClose.step op s = some t) :
    ClosesBoth op s t ↔ EndsFirst op s := by
  obtain ⟨u, hu, rfl⟩ := Option.map_eq_some_iff.mp hs
  constructor
  · intro h
    cases op with
    | remoteEof id =>
      intro hclosed
      have hstream := stream_remoteEof hu
      have hreads := h.releases id ⟨hclosed, by rw [hstream]⟩
      rw [hstream] at hreads
      exact hreads
    | message m =>
      cases m with
      | close id reason =>
        intro hr
        obtain ⟨answer, channel, hstream⟩ := alike_step rfl hu id
        have hidle : (s.session.streams id).phase ≠ .idle := by
          intro hidle
          have hawaits := hh id hr
          rw [hidle] at hawaits
          cases hawaits
        have hmark : id ∈ s.mark (.message (.close id reason)) := by
          simp only [HalfCloseState.mark, if_pos (hc.lt_streamIds hidle), Finset.mem_insert_self]
        have hreads := h.releases id ⟨hmark, by rw [hstream]; exact hr⟩
        rw [hstream] at hreads
        exact hreads
      | _ => trivial
    | _ => trivial
  · intro h
    constructor
    · intro id bytes heq htold
      subst heq
      have hreads := hrel id htold
      rw [reads_readLocal hu] at hreads
      cases hreads
    · intro id htold
      by_contra hreads
      obtain ⟨hs', hheard⟩ := reads_step hh hu htold.2 (Bool.not_eq_false _ ▸ hreads)
      have htold' : (s.session.streams id).reads = false := by
        rcases hheard with hr | rfl
        · rcases HalfCloseState.mem_mark htold.1 with hmem | ⟨reason, rfl⟩
          · exact hrel id ⟨hmem, hr⟩
          · exact h hr
        · exact h htold.1
      rw [hs'] at htold'
      cases htold'

/-- **Close is not taken for TcpEof** in a run exactly if in it every handler's local
side has ended when the handler is told. -/
theorem closes_both_iff (labels : List SessionOp) :
    halfClose.Throughout ClosesBoth labels ⟨.start, ∅⟩ ↔
      halfClose.Throughout (fun op s _ => EndsFirst op s) labels ⟨.start, ∅⟩ := by
  refine Machine.throughout_congr (fun s => Consistent s.session ∧ Heard s.session ∧ s.Released)
    (fun _ _ _ ⟨hc, hh, hrel⟩ hs => closesBoth_iff hc hh hrel hs) ?_ ?_
  · intro op s t ⟨hc, hh, _⟩ hs h
    obtain ⟨u, hu, rfl⟩ := Option.map_eq_some_iff.mp hs
    exact ⟨consistent_step hc hu, heard_step hh hu, h.releases⟩
  · exact ⟨consistent_start, nofun,
      fun _ htold => nomatch htold.1⟩

end Machine

/-! ### What becomes of the bytes -/

/-- The gateway drops a data frame of a stream that it no longer has. -/
theorem unknown_frame_dropped {g : Gateway.TunnelState} {id : StreamId} {payload : Bytes}
    (htodo : g.todo = []) (hpoint : g.point = .dispatching id payload)
    (hbody : g.httpBodies.lookup id = none) (hstream : g.streams.lookup id = none) :
    Gateway.tunnel.step .dispatch g = some { g with point := .select } := by
  simp only [Gateway.tunnel, Gateway.TunnelState.dispatch, Gateway.TunnelState.atPoint, htodo, hpoint,
    hbody, hstream, if_true]

section Example

local instance halfCloseCodec : MessageCodec := .plain

/-- The gateway closes an open stream, and the handler sees the end of its channel. -/
def closedStreamOps : List SessionOp :=
  [.connect, .openTcp "db" databaseTarget, .message (.openOk 1), .answered 1,
    .message (.close 1 "target_closed"), .remoteEof 1]

def closedStreamState : HalfCloseState := (halfClose.run closedStreamOps ⟨.start, ∅⟩).getD ⟨.start, ∅⟩

def readOnState : HalfCloseState :=
  (halfClose.step (.readLocal 1 [42]) closedStreamState).getD closedStreamState

/-- The local client writes on: its byte is read and sent, and the gateway drops it. -/
theorem close_taken_for_eof :
    halfClose.Reachable closedStreamState ∧ closedStreamState.Told 1 ∧
      (closedStreamState.session.streams 1).reads = true ∧
      halfClose.step (.readLocal 1 [42]) closedStreamState = some readOnState ∧
      readOnState.session.outbound.items.getLast? = some (.binary (encodeDataFrame 1 [42])) ∧
      ¬ ClosesBoth (.readLocal 1 [42]) closedStreamState readOnState ∧
      ∀ g : Gateway.TunnelState, g.todo = [] → g.point = .dispatching 1 [42] →
        g.httpBodies.lookup 1 = none → g.streams.lookup 1 = none →
        Gateway.tunnel.step .dispatch g = some { g with point := .select } := by
  have htold : closedStreamState.Told 1 := ⟨by decide +kernel, by decide +kernel⟩
  have hsome : (halfClose.step (.readLocal 1 [42]) closedStreamState).isSome = true := rfl
  exact ⟨Machine.reachable_getD rfl (by decide +kernel), htold, by decide +kernel,
    (Option.getD_of_ne_none (Option.isSome_iff_ne_none.mp hsome) _).symm, by decide +kernel,
    fun h => h.forwards 1 [42] rfl htold, fun _ => unknown_frame_dropped⟩

end Example

end WsNet.Access
