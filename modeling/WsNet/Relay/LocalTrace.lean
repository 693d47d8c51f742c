import WsNet.Relay.LocalReceive

/-! What the access's end leaves on record.

Only the writer writes, one message each time it feeds, and only a frame that is
received is noted as such. -/
namespace WsNet.Relay
open Access Data Transition

section Trace
variable [MessageCodec]

/-! ### The link -/

theorem written_sendControl (m : Message) (s : LinkState) : (s.sendControl m).written = s.written := by
  unfold LinkState.sendControl
  split <;> rfl

theorem written_refused (id : StreamId) (x : Sending) (s : LinkState) : (s.refused id x).written = s.written := by
  unfold LinkState.refused
  split <;> rfl

theorem written_pollGuard (id : StreamId) (s : LinkState) : (s.pollGuard id).written = s.written := by
  unfold LinkState.pollGuard
  dsimp only
  split
  · split <;> rfl
  · split <;> rfl

omit [MessageCodec] in
theorem written_sendPart {id : StreamId} {m : WsMessage} {last : Bool} {s t : LinkState}
    (hs : s.sendPart id m last = some t) : t.written = s.written := by
  obtain ⟨_, hs⟩ := Option.ite_none_right_eq_some.mp hs
  cases hs
  rfl

/-- Only the writer writes. -/
theorem written_link {op : LinkOp} {s t : LinkState} (hop : ∀ w, op ≠ .writer w)
    (hs : Access.link.step op s = some t) : t.written = s.written := by
  cases op with
  | writer w => exact absurd rfl (hop w)
  | connect =>
    obtain ⟨_, hs⟩ := Option.ite_none_right_eq_some.mp hs
    cases hs
    rfl
  | lose =>
    simp only [Access.link, LinkState.lose] at hs
    split at hs <;> cases hs <;> rfl
  | close reason =>
    obtain ⟨_, hs⟩ := Option.ite_none_right_eq_some.mp hs
    cases hs
    rfl
  | drain =>
    obtain ⟨_, hs⟩ := Option.ite_none_right_eq_some.mp hs
    obtain ⟨r, _, rfl⟩ := Option.map_eq_some_iff.mp hs
    rfl
  | drained =>
    obtain ⟨_, hs⟩ := Option.ite_none_right_eq_some.mp hs
    cases hs
    rfl
  | message m =>
    obtain ⟨_, hs⟩ := Option.ite_none_right_eq_some.mp hs
    split at hs <;> cases hs
    · rfl
    · exact written_sendControl _ _
    · rfl
  | control m =>
    obtain ⟨_, hs⟩ := Option.ite_none_right_eq_some.mp hs
    cases hs
    exact written_sendControl _ _
  | sent =>
    simp only [Access.link, LinkState.sent] at hs
    split at hs
    · obtain ⟨r, _, rfl⟩ := Option.map_eq_some_iff.mp hs
      rfl
    · cases hs
  | start mode =>
    obtain ⟨_, hs⟩ := Option.ite_none_right_eq_some.mp hs
    cases hs
    rfl
  | register id target config request =>
    obtain ⟨_, hs⟩ := Option.ite_none_right_eq_some.mp hs
    split at hs <;> cases hs <;> rfl
  | check id =>
    simp only [Access.link, LinkState.check] at hs
    split at hs
    · split at hs <;> cases hs
      · rfl
      · rfl
      · exact written_refused _ _ _
    · cases hs
  | request id =>
    simp only [Access.link, LinkState.request] at hs
    split at hs <;> cases hs
    rfl
  | put id =>
    simp only [Access.link, LinkState.put] at hs
    split at hs
    · obtain ⟨r, _, rfl⟩ := Option.map_eq_some_iff.mp hs
      rfl
    · obtain ⟨_, hs⟩ := Option.ite_none_right_eq_some.mp hs
      obtain ⟨r, _, rfl⟩ := Option.map_eq_some_iff.mp hs
      rfl
    · obtain ⟨r, _, rfl⟩ := Option.map_eq_some_iff.mp hs
      rfl
    · cases hs
  | poll id =>
    simp only [Access.link, LinkState.poll] at hs
    split at hs
    · obtain ⟨_, hs⟩ := Option.ite_none_left_eq_some.mp hs
      cases hs
      exact written_pollGuard _ _
    · obtain ⟨_, hs⟩ := Option.ite_none_left_eq_some.mp hs
      cases hs
      exact written_pollGuard _ _
    · cases hs
  | pend id =>
    obtain ⟨_, hs⟩ := Option.ite_none_right_eq_some.mp hs
    cases hs
    rfl
  | opened id =>
    simp only [Access.link, LinkState.opened] at hs
    split at hs <;> cases hs <;> rfl
  | openTimeout id =>
    obtain ⟨_, hs⟩ := Option.ite_none_right_eq_some.mp hs
    cases hs
    rfl
  | part id bytes => exact written_sendPart hs
  | last id =>
    simp only [Access.link, LinkState.last] at hs
    split at hs <;> exact written_sendPart hs
  | finish id reason =>
    obtain ⟨_, hs⟩ := Option.ite_none_right_eq_some.mp hs
    cases hs
    rfl
  | dropped id =>
    obtain ⟨_, hs⟩ := Option.ite_none_left_eq_some.mp hs
    cases hs
    rfl

omit [MessageCodec] in
/-- A writer that feeds nothing writes nothing. -/
theorem fed_none {op : WriterOp} {w : Writer} {o : Outbound} {r : WriterStep} (hop : op ≠ .feed)
    (hs : w.step op o = some r) : r.fed = none := by
  cases op with
  | feed => exact absurd rfl hop
  | receive =>
    obtain ⟨_, hs⟩ := Option.ite_none_right_eq_some.mp hs
    split at hs
    · cases hs
      rfl
    · obtain ⟨x, _, rfl⟩ := Option.map_eq_some_iff.mp hs
      rfl
  | yielded =>
    simp only [Writer.step, Writer.yielded] at hs
    split at hs <;> cases hs
    rfl
  | gather =>
    simp only [Writer.step, Writer.gather] at hs
    split at hs
    · split at hs
      · split at hs
        · cases hs
          rfl
        · split at hs <;> cases hs <;> rfl
      · cases hs
        rfl
    · cases hs
  | flushed =>
    obtain ⟨_, hs⟩ := Option.ite_none_right_eq_some.mp hs
    cases hs
    rfl


/-! ### The access's end -/

/-- The step leaves the record as it is. -/
structure SameTrace (s t : LocalSide) : Prop where
  written : t.link.written = s.link.written
  received : t.received = s.received

variable {s t : LocalSide} {id : StreamId}

omit [MessageCodec] in
theorem SameTrace.trans {u : LocalSide} (h : SameTrace s t) (h' : SameTrace t u) : SameTrace s u :=
  ⟨h'.written.trans h.written, h'.received.trans h.received⟩

omit [MessageCodec] in
/-- A step of the session that shows in the link only. -/
theorem sameTrace_link {link : LinkState} (h : link.written = s.link.written) : SameTrace s { s with link } :=
  ⟨h, rfl⟩

theorem SameTrace.sendClose (h : SameTrace s t) (reason : String) : SameTrace s (t.sendClose id reason) := by
  unfold LocalSide.sendClose
  split
  · exact ⟨(written_sendControl _ _).trans h.written, h.received⟩
  · exact h

theorem sameTrace_backpressure : SameTrace s (s.backpressure id) := by
  unfold LocalSide.backpressure
  apply SameTrace.sendClose
  exact ⟨rfl, rfl⟩

theorem sameTrace_text (message : Message) : SameTrace s (s.text message) := by
  unfold LocalSide.text
  split
  · exact ⟨rfl, rfl⟩
  · split
    · exact sameTrace_link (written_sendControl _ _)
    · exact ⟨rfl, rfl⟩
  · exact ⟨rfl, rfl⟩

theorem sameTrace_data (payload : Bytes) (bodyGone : Bool) : SameTrace s (s.data id payload bodyGone) := by
  unfold LocalSide.data
  split
  · split
    · exact sameTrace_backpressure
    · exact ⟨rfl, rfl⟩
  · exact ⟨rfl, rfl⟩
  · split
    · exact ⟨rfl, rfl⟩
    · apply SameTrace.sendClose
      exact ⟨rfl, rfl⟩

theorem sameTrace_handle (m : TunnelFrameKind × Bytes) (bodyGone : Bool) : SameTrace s (s.handle m bodyGone) := by
  unfold LocalSide.handle
  split
  · cases (textOf _).bind decodeMessage with
    | none => exact ⟨rfl, rfl⟩
    | some message => exact sameTrace_text message
  · cases decodeDataFrame _ with
    | none => exact ⟨rfl, rfl⟩
    | some r => exact sameTrace_data r.2 bodyGone

/-- **What is received is noted** in the session that runs. -/
theorem trace_receive {m : TunnelFrameKind × Bytes} {bodyGone : Bool} (hs : s.receive m bodyGone = some t) :
    t.link.written = s.link.written ∧
      t.received = Function.update s.received s.link.sessions (s.received s.link.sessions ++ [m]) := by
  obtain ⟨_, hs⟩ := Option.ite_none_right_eq_some.mp hs
  cases hs
  have hsame := sameTrace_handle (s := s.record m) m bodyGone
  exact ⟨hsame.written, hsame.received⟩

theorem sameTrace_afterLink (op : LinkOp) {link : LinkState} (h : link.written = s.link.written) :
    SameTrace s (s.afterLink op link) := by
  unfold LocalSide.afterLink
  split <;> exact ⟨h, rfl⟩

/-- **What is fed is written** in the session that runs. -/
theorem trace_feed {message : WsMessage} {batch : List WsMessage} (hphase : s.link.writer.phase = .writing (message :: batch))
    (hs : s.linkStep (.writer .feed) = some t) :
    t.received = s.received ∧ t.link.sessions = s.link.sessions ∧
      ∃ told, t.link.written = s.link.written ++ [⟨s.link.sessions, message, told⟩] := by
  obtain ⟨_, hs⟩ := Option.ite_none_right_eq_some.mp hs
  obtain ⟨link, hlink, rfl⟩ := Option.map_eq_some_iff.mp hs
  obtain ⟨_, hlink⟩ := Option.ite_none_right_eq_some.mp hlink
  obtain ⟨r, hr, rfl⟩ := Option.map_eq_some_iff.mp hlink
  simp only [Writer.step, Writer.feed, hphase] at hr
  cases hr
  exact ⟨rfl, rfl, _, rfl⟩

/-- Nothing else is written or received. -/
theorem sameTrace_step {op : LocalOp} (hreceive : ∀ m bodyGone, op ≠ .receive m bodyGone)
    (hfeed : op ≠ .link (.writer .feed)) (hs : localSide.step op s = some t) : SameTrace s t := by
  cases op with
  | receive m bodyGone => exact absurd rfl (hreceive m bodyGone)
  | link op =>
    obtain ⟨_, hs⟩ := Option.ite_none_right_eq_some.mp hs
    obtain ⟨link, hlink, rfl⟩ := Option.map_eq_some_iff.mp hs
    refine sameTrace_afterLink op ?_
    cases op with
    | writer op =>
      obtain ⟨_, hlink⟩ := Option.ite_none_right_eq_some.mp hlink
      obtain ⟨r, hr, rfl⟩ := Option.map_eq_some_iff.mp hlink
      have hnone := fed_none (fun h => hfeed (by rw [h])) hr
      simp only [hnone, Option.toList_none, List.map_nil, List.append_nil]
    | _ => exact written_link (fun w h => by cases h) hlink
  | delivered =>
    simp only [localSide, LocalSide.delivered] at hs
    split at hs
    · obtain ⟨_, hs⟩ := Option.ite_none_left_eq_some.mp hs
      cases hs
      exact ⟨rfl, rfl⟩
    · cases hs
  | undelivered =>
    simp only [localSide, LocalSide.undelivered] at hs
    split at hs
    · obtain ⟨_, hs⟩ := Option.ite_none_right_eq_some.mp hs
      cases hs
      exact (show SameTrace s { s with delivering := none } from ⟨rfl, rfl⟩).trans sameTrace_backpressure
    · cases hs
  | readLocal id bytes =>
    obtain ⟨_, hs⟩ := Option.ite_none_right_eq_some.mp hs
    obtain ⟨link, hlink, rfl⟩ := Option.map_eq_some_iff.mp hs
    exact ⟨written_sendPart hlink, rfl⟩
  | readFails id lost =>
    obtain ⟨_, hs⟩ := Option.ite_none_right_eq_some.mp hs
    obtain ⟨link, hlink, rfl⟩ := Option.map_eq_some_iff.mp hs
    obtain ⟨_, hlink⟩ := Option.ite_none_right_eq_some.mp hlink
    cases hlink
    exact ⟨rfl, rfl⟩
  | recvRemote id =>
    simp only [localSide, LocalSide.recvRemote] at hs
    split at hs
    · cases hs
    · obtain ⟨_, hs⟩ := Option.ite_none_right_eq_some.mp hs
      cases hs
      exact ⟨rfl, rfl⟩
  | remoteEof id =>
    obtain ⟨_, hs⟩ := Option.ite_none_right_eq_some.mp hs
    cases hs
    exact ⟨rfl, rfl⟩
  | writeSome id count =>
    simp only [localSide, LocalSide.writeSome] at hs
    split at hs
    · cases hs
    · obtain ⟨_, hs⟩ := Option.ite_none_right_eq_some.mp hs
      cases hs
      exact ⟨rfl, rfl⟩
  | wrote id =>
    obtain ⟨_, hs⟩ := Option.ite_none_right_eq_some.mp hs
    cases hs
    exact ⟨rfl, rfl⟩
  | stop error reason =>
    cases hs
    unfold LocalSide.stop
    split <;> exact ⟨rfl, rfl⟩

end Trace

end WsNet.Relay
