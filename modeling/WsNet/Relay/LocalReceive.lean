import WsNet.Relay.LocalRun

/-! What the access's end receives, and its runs.

A frame that is decrypted is handled in three moves: its events are recorded, the
entries of its stream may go, and the session task may answer. That the events come
only for streams that were started, and in order, is a rule of the other end. -/
namespace WsNet.Relay
open Access Data Transition

section Local
variable [MessageCodec]

/-! ### A message of the gateway -/

/-- What a message that is handled does to the entries and to who waits. -/
structure Handles (e : StreamId → List StreamEvent) (c d : GatewayConnection)
    (notices : StreamId → Notices) : Prop where
  fewer : c.Fewer d
  closed : d.closed = c.closed
  gone : ∀ id, id ∈ c.tcpStreams → id ∉ d.tcpStreams → HasEnd (e id)
  waited : ∀ id r, LinkState.answerOf (notices id) = some r → id ∈ c.openWaiters ∨ id ∈ c.httpHeadWaiters
  opened : ∀ id, LinkState.answerOf (notices id) = some (.ok ()) →
    id ∈ c.openWaiters ∧ HasStart (e id) ∨ id ∈ c.httpHeadWaiters

omit [MessageCodec] in
theorem handles_nothing {e : StreamId → List StreamEvent} {c d : GatewayConnection} (hfewer : c.Fewer d)
    (hclosed : d.closed = c.closed) (hgone : ∀ id, id ∈ c.tcpStreams → id ∉ d.tcpStreams → HasEnd (e id)) :
    Handles e c d Notices.nothing :=
  ⟨hfewer, hclosed, hgone, fun _ _ hr => (by cases hr), fun _ hr => (by cases hr)⟩

omit [MessageCodec] in
/-- The notices of one stream, for its entries. -/
theorem handles_only {e : StreamId → List StreamEvent} {c d : GatewayConnection} {i : StreamId} {n : Notices}
    (hfewer : c.Fewer d) (hclosed : d.closed = c.closed)
    (hgone : ∀ id, id ∈ c.tcpStreams → id ∉ d.tcpStreams → HasEnd (e id))
    (hopened : ∀ r, n.opened = some r → i ∈ c.openWaiters ∧ (r = .ok () → HasStart (e i)))
    (hhead : ∀ r, n.head = some r → i ∈ c.httpHeadWaiters) : Handles e c d (Notices.only i n) := by
  have key : ∀ id r, LinkState.answerOf (Notices.only i n id) = some r →
      id ∈ c.openWaiters ∧ (r = .ok () → HasStart (e id)) ∨ id ∈ c.httpHeadWaiters := by
    intro id r hr
    by_cases hi : id = i
    · subst hi
      rw [Notices.only_self, LinkState.answerOf] at hr
      rcases Option.or_eq_some_iff.mp hr with ho | ⟨_, hh⟩
      · exact .inl (hopened r ho)
      · obtain ⟨r', hr', _⟩ := Option.map_eq_some_iff.mp hh
        exact .inr (hhead r' hr')
    · rw [Notices.only_ne n hi] at hr
      cases hr
  exact ⟨hfewer, hclosed, hgone, fun id r hr => (key id r hr).imp_left And.left,
    fun id hr => (key id _ hr).imp_left fun h => ⟨h.1, h.2 rfl⟩⟩

omit [MessageCodec] in
/-- Who is told of an error. -/
theorem handles_error {e : StreamId → List StreamEvent} {c d : GatewayConnection} {i : StreamId}
    {error : GatewayError} {body : Error} (hfewer : c.Fewer d) (hclosed : d.closed = c.closed)
    (hgone : ∀ id, id ∈ c.tcpStreams → id ∉ d.tcpStreams → HasEnd (e id)) :
    Handles e c d (Notices.only i (c.errorNotices i error body)) := by
  refine handles_only hfewer hclosed hgone (fun r hr => ?_) fun r hr => ?_
  · obtain ⟨hi, rfl⟩ := GatewayConnection.ifIn_eq_some.mp hr
    exact ⟨hi, fun h => by cases h⟩
  · exact (GatewayConnection.ifIn_eq_some.mp hr).1

omit [MessageCodec] in
/-- **What `handle_gateway_message` does**, when the session goes on. -/
theorem handles_of_done {m : Message} {c d : GatewayConnection} {notices : StreamId → Notices}
    (h : c.handleGatewayMessage m = .done d notices) : Handles (messageEvents · m) c d notices := by
  have hfewer : c.Fewer d := by
    have hconn := GatewayConnection.handleGatewayMessage_fewer m c
    rw [h] at hconn
    exact hconn
  have hkeeps : d.tcpStreams = c.tcpStreams →
      ∀ id, id ∈ c.tcpStreams → id ∉ d.tcpStreams → HasEnd (messageEvents id m) := by
    intro heq id hin hout
    rw [heq] at hout
    exact absurd hin hout
  have herased : ∀ {i : StreamId}, d.tcpStreams = c.tcpStreams.erase i →
      (∃ x, messageEvents i m = [x] ∧ x.ends = true) →
      ∀ id, id ∈ c.tcpStreams → id ∉ d.tcpStreams → HasEnd (messageEvents id m) := by
    intro i heq hend id hin hout
    rw [heq, Finset.mem_erase, not_and_or, not_not] at hout
    obtain rfl := hout.resolve_right fun hno => hno hin
    obtain ⟨x, hx, hends⟩ := hend
    rw [hx]
    exact ⟨x, List.mem_singleton_self x, hends⟩
  cases m with
  | openOk i =>
    cases h
    refine handles_only hfewer rfl (hkeeps rfl) (fun r hr => ?_) fun r hr => by cases hr
    obtain ⟨hi, rfl⟩ := GatewayConnection.ifIn_eq_some.mp hr
    refine ⟨hi, fun _ => ?_⟩
    simp only [messageEvents, if_true]
    exact ⟨_, List.mem_cons_self, rfl⟩
  | httpResponseStart i response =>
    cases h
    refine handles_only hfewer rfl (hkeeps rfl) (fun r hr => by cases hr) fun r hr => ?_
    exact (GatewayConnection.ifIn_eq_some.mp hr).1
  | httpResponseEnd i =>
    cases h
    exact handles_nothing hfewer rfl (hkeeps rfl)
  | close i reason =>
    cases h
    exact handles_error hfewer rfl (herased (i := i) rfl ⟨.close, if_pos rfl, rfl⟩)
  | tcpEof i =>
    cases h
    exact handles_nothing hfewer rfl (herased (i := i) rfl ⟨.eof, if_pos rfl, rfl⟩)
  | error i code text =>
    cases i with
    | some i =>
      cases h
      exact handles_error hfewer rfl (hkeeps rfl)
    | none => cases h
  | httpResponse i response =>
    cases h
    exact handles_nothing hfewer rfl (hkeeps rfl)
  | pong =>
    cases h
    exact handles_nothing hfewer rfl (hkeeps rfl)
  | _ => cases h

/-! ### What is received is recorded -/

variable {s : LocalSide} {id : StreamId} {m : TunnelFrameKind × Bytes}

/-- What waits for a stream's channel. -/
def waitingFor (id : StreamId) (delivering : Option (StreamId × Bytes)) : Bytes :=
  delivering.elim [] fun d => if d.1 = id then d.2 else []

omit [MessageCodec] in
theorem LocalSide.with_link (hidle : s.delivering = none) (link : LinkState) :
    { s with link } = { s with link, delivering := none } := by
  rw [← hidle]

omit [MessageCodec] in
theorem LocalSide.idle (hidle : s.delivering = none) : { s with delivering := none } = s := by
  rw [← hidle]

omit [MessageCodec] in
theorem LinkState.notify_nothing (link : LinkState) : link.notify Notices.nothing = link := by
  have hanswer : ∀ id, (link.callers id).answer.or (LinkState.answerOf (Notices.nothing id)) =
      (link.callers id).answer := fun id => Option.or_none
  simp only [LinkState.notify, hanswer]

/-- The answer stays, or there was none and the one who waits for it has it now. -/
theorem LocalSideInv.answer_of_handles (h : LocalSideInv s) {cn : GatewayConnection} {notices : StreamId → Notices}
    (hhandles : Handles (sealedEvents · m) s.link.connection cn notices) (id : StreamId) :
    ((s.link.callers id).answer.or (LinkState.answerOf (notices id))).map LocalSide.isGood = (s.view id).answer ∨
      (s.view id).answer = none ∧ ((s.view id).waiter = true ∨ (s.view id).http = true) ∧
        ((s.view id).mode = .tcp →
          ((s.link.callers id).answer.or (LinkState.answerOf (notices id))).map LocalSide.isGood = some true →
          (s.view id).waiter = true ∧ HasStart (sealedEvents id m)) := by
  cases hold : (s.link.callers id).answer with
  | some r => exact .inl (by simp only [LocalSide.view, hold, Option.some_or])
  | none =>
    rw [Option.none_or]
    cases hnew : LinkState.answerOf (notices id) with
    | none => exact .inl (by simp only [LocalSide.view, hold])
    | some r =>
      refine .inr ⟨by simp only [LocalSide.view, hold, Option.map_none], ?_, fun ht hr => ?_⟩
      · exact (hhandles.waited id r hnew).imp decide_eq_true fun hw => decide_eq_true (.inl hw)
      · obtain rfl : r = .ok () := by
          cases r with
          | ok u => rfl
          | error e => cases hr
        rcases hhandles.opened id hnew with ⟨hw, hs⟩ | hw
        · exact ⟨decide_eq_true hw, hs⟩
        · have hhttp := (h.stream id).table.http (decide_eq_true (.inl hw))
          rw [ht] at hhttp
          cases hhttp

/-- **What is received is recorded**, the entries that it ends go, and the answer that it
brings comes. -/
theorem LocalSideInv.recorded (h : LocalSideInv s) (hp : s.link.phase = .open) (hidle : s.delivering = none)
    (hanswers : ∀ id, (s.view id).Answers (sealedEvents id m)) {cn : GatewayConnection}
    {notices : StreamId → Notices} (delivering : Option (StreamId × Bytes))
    (hhandles : Handles (sealedEvents · m) s.link.connection cn notices)
    (hknown : ∀ d ∈ delivering, d.1 ∈ cn.tcpStreams)
    (hdata : ∀ id, id ∈ cn.tcpStreams → waitingFor id delivering = payload (sealedEvents id m)) :
    LocalSideInv { s.record m with
      link := { s.link with connection := cn }.notify notices, delivering } := by
  have hbusy : ∀ id, id ∈ cn.tcpStreams → (s.link.callers id).phase ≠ .idle := by
    intro id hin hphase
    have hfresh : (s.view id).stage = .fresh := by simp only [LocalSide.view, stageOf, hphase]
    have hentry := ((h.stream id).table.fresh hfresh).entry
    exact of_decide_eq_false hentry (hhandles.fewer.tcpStreams hin)
  refine ⟨h.whole.session hhandles.fewer.streamIds (fun _ => rfl) (fun _ => rfl) h.whole.tidy h.whole.unopened
    (fun hp => hhandles.closed.trans (h.whole.shut hp)) fun d hd => ⟨hp, hbusy _ (hknown d hd)⟩, fun id => ?_⟩
  have hview : LocalSide.view id { s.record m with
      link := { s.link with connection := cn }.notify notices, delivering } =
      { s.view id with
        entry := id ∈ cn.tcpStreams, waiter := id ∈ cn.openWaiters
        http := id ∈ cn.httpHeadWaiters ∨ id ∈ cn.httpBodyStreams
        answer := ((s.link.callers id).answer.or (LinkState.answerOf (notices id))).map LocalSide.isGood
        delivering := waitingFor id delivering
        received := Function.update (s.view id).received (s.view id).session
          ((s.view id).received (s.view id).session ++ sealedEvents id m) } := by
    have hreceived : (fun k => ((s.record m).received k).flatMap (sealedEvents id)) =
        Function.update (s.view id).received (s.view id).session
          ((s.view id).received (s.view id).session ++ sealedEvents id m) := by
      funext k
      by_cases hk : k = s.link.sessions
      · subst hk
        simp [LocalSide.record, LocalSide.view, List.flatMap_append]
      · simp [LocalSide.record, LocalSide.view, Function.update_of_ne hk]
    rw [← hreceived]
    simp only [LocalSide.view, LocalSide.control]
    rw [← hhandles.closed]
    rfl
  rw [hview]
  have hopen : (s.view id).isOpen = true := by
    simp only [LocalSide.view, hp]
    rfl
  have hnothing : (s.view id).delivering = [] := by
    simp only [LocalSide.view, hidle, Option.elim_none]
  refine (h.stream id).receive hopen hnothing (hanswers id) (fun he => ?_) (fun he => ?_) (fun hw => ?_)
    (fun hw => ?_) (h.answer_of_handles hhandles id)
  · have hin : id ∈ cn.tcpStreams := of_decide_eq_true he
    exact ⟨decide_eq_true (hhandles.fewer.tcpStreams hin), hdata id hin⟩
  · have hout : id ∉ cn.tcpStreams := of_decide_eq_false he
    refine ⟨?_, fun hin => hhandles.gone id (of_decide_eq_true hin) hout⟩
    cases delivering with
    | none => rfl
    | some d =>
      refine if_neg fun hd => hout ?_
      rw [← hd]
      exact hknown d rfl
  · exact decide_eq_true (hhandles.fewer.openWaiters (of_decide_eq_true hw))
  · refine decide_eq_true ((of_decide_eq_true hw).imp ?_ ?_)
    · exact fun hw => hhandles.fewer.httpHeadWaiters hw
    · exact fun hw => hhandles.fewer.httpBodyStreams hw

/-- What the gateway may send: events of streams that it was sent the start of, in order,
and no frame without data to a TCP stream. -/
structure Answered (m : TunnelFrameKind × Bytes) (s : LocalSide) : Prop where
  events : ∀ id, (s.view id).Answers (sealedEvents id m)
  started : ∀ frame i bytes, m = (.binary, frame) → decodeDataFrame frame = some (i, bytes) →
    HasStart ((s.view i).written s.link.sessions)
  data : ∀ frame i bytes, m = (.binary, frame) → decodeDataFrame frame = some (i, bytes) →
    .start .tcp ∈ (s.view i).written s.link.sessions → bytes ≠ []

/-- Recorded and no more. -/
theorem LocalSideInv.noted (h : LocalSideInv s) (hp : s.link.phase = .open) (hidle : s.delivering = none)
    (hanswers : ∀ id, (s.view id).Answers (sealedEvents id m))
    (hdata : ∀ id, id ∈ s.link.connection.tcpStreams → payload (sealedEvents id m) = []) :
    LocalSideInv (s.record m) := by
  have hrecorded := h.recorded hp hidle hanswers none
    (handles_nothing (.refl _) rfl fun id hin hout => absurd hin hout)
    (fun d hd => by cases hd) fun id hin => (hdata id hin).symm
  rw [LinkState.notify_nothing] at hrecorded
  have hrecord : (s.record m).delivering = none := hidle
  rw [← LocalSide.idle hrecord]
  exact hrecorded

/-! ### The session task answers -/

theorem LocalSideInv.pong (h : LocalSideInv s) (hp : s.link.phase = .open) (hidle : s.delivering = none)
    {answer : Message} (hm : ∀ id, messageEvents id answer = []) :
    LocalSideInv { s with link := s.link.sendControl answer } :=
  h.sendControl hp hidle fun id => .inl (hm id)

theorem LocalSideInv.sendClose (h : LocalSideInv s) (hp : s.link.phase = .open) (hidle : s.delivering = none)
    (reason : String) (hfresh : (s.view id).stage ≠ .fresh)
    (hlive : s.link.connection.closed = false → (s.view id).mode = .tcp → (s.view id).live = false) :
    LocalSideInv (s.sendClose id reason) := by
  unfold LocalSide.sendClose
  split
  · rename_i hopen
    have hclosed := (GatewayConnection.ensureGatewayOpen_ok.mp (of_decide_eq_true hopen)).2
    refine h.sendControl hp hidle fun j => ?_
    by_cases hj : id = j
    · subst hj
      exact .inr ⟨if_pos rfl, hfresh, hlive hclosed⟩
    · exact .inl (if_neg hj)
  · exact h

/-- The entry that a data frame went to goes. -/
theorem LocalSideInv.unlisted (h : LocalSideInv s) (hdelivering : ∀ d ∈ s.delivering, d.1 = id)
    (hgone : (s.view id).mode = .tcp → (s.view id).stage = .gone) (hfresh : (s.view id).stage ≠ .fresh) :
    LocalSideInv { s with
      link := { s.link with connection := s.link.connection.removeChannel id }, delivering := none } := by
  have hfewer := GatewayConnection.Fewer.removeChannel id s.link.connection
  have hclosed := s.link.connection.removeChannel_closed id
  refine ⟨h.whole.session hfewer.streamIds (fun _ => rfl) (fun _ => rfl) h.whole.tidy h.whole.unopened
    (fun hp => hclosed.trans (h.whole.shut hp)) (fun d hd => by cases hd), fun j => ?_⟩
  have hview : LocalSide.view j { s with
      link := { s.link with connection := s.link.connection.removeChannel id }, delivering := none } =
      { s.view j with
        entry := j ∈ (s.link.connection.removeChannel id).tcpStreams
        http := j ∈ s.link.connection.httpHeadWaiters ∨
          j ∈ (s.link.connection.removeChannel id).httpBodyStreams
        delivering := [] } := by
    simp only [LocalSide.view]
    rw [GatewayConnection.removeChannel_openWaiters, GatewayConnection.removeChannel_httpHeadWaiters, hclosed]
    rfl
  rw [hview]
  by_cases hj : j = id
  · subst hj
    -- An HTTP stream has no entry among the TCP streams.
    have hentry : decide (j ∈ (s.link.connection.removeChannel j).tcpStreams) = false := by
      refine decide_eq_false ?_
      unfold GatewayConnection.removeChannel
      split
      · rename_i ht
        have hhttp : (s.view j).http = true := decide_eq_true (.inr (GatewayConnection.target_eq_http.mp ht))
        exact of_decide_eq_false ((h.stream j).entry_of_http hhttp)
      · exact Finset.notMem_erase _ _
    rw [hentry]
    refine (h.stream j).unlist hgone hfresh fun hw => ?_
    exact decide_eq_true ((of_decide_eq_true hw).imp_right fun hw => hfewer.httpBodyStreams hw)
  · have hnothing : (s.view j).delivering = [] := by
      simp only [LocalSide.view]
      cases hd : s.delivering with
      | none => rfl
      | some d => exact if_neg fun heq => hj (heq.symm.trans (hdelivering d hd))
    simp only [GatewayConnection.mem_removeChannel_tcpStreams _ hj,
      GatewayConnection.mem_removeChannel_httpBodyStreams _ hj]
    rw [← hnothing]
    exact h.stream j

theorem LocalSideInv.backpressure (h : LocalSideInv s) (hp : s.link.phase = .open)
    (hdelivering : ∀ d ∈ s.delivering, d.1 = id)
    (hgone : (s.view id).mode = .tcp → (s.view id).stage = .gone) (hfresh : (s.view id).stage ≠ .fresh) :
    LocalSideInv ({ s with delivering := none }.backpressure id) := by
  refine (h.unlisted hdelivering hgone hfresh).sendClose hp rfl _ hfresh fun _ hm => ?_
  have hstage := hgone hm
  unfold LocalView.live
  show Stage.live _ _ (s.view id).stage = false
  rw [hstage]
  rfl

/-! ### A frame -/

theorem localSideInv_text {bytes : Bytes} {message : Message} (h : LocalSideInv s)
    (hp : s.link.phase = .open) (hidle : s.delivering = none)
    (hm : (textOf bytes).bind decodeMessage = some message)
    (hanswers : ∀ id, (s.view id).Answers (sealedEvents id (.text, bytes))) :
    LocalSideInv ((s.record (.text, bytes)).text message) := by
  have hevents : ∀ id, sealedEvents id (.text, bytes) = messageEvents id message := by
    intro id
    simp only [sealedEvents, hm, Option.elim_some]
  have hnoted : LocalSideInv (s.record (.text, bytes)) := by
    refine h.noted hp hidle hanswers fun id _ => ?_
    rw [hevents]
    exact payload_messageEvents id message
  have hrecord : (s.record (.text, bytes)).delivering = none := hidle
  unfold LocalSide.text
  split
  · rename_i cn notices hdone
    have hhandles := handles_of_done hdone
    simp only [← hevents] at hhandles
    have hrecorded := h.recorded hp hidle hanswers none hhandles
      (fun d hd => by cases hd) fun id _ => by rw [hevents, payload_messageEvents]; rfl
    rw [LocalSide.with_link hrecord]
    exact hrecorded
  · rename_i answer hreply
    split
    · refine hnoted.pong hp hidle fun id => ?_
      have hpong : answer = .pong := by
        cases message with
        | ping =>
          cases hreply
          rfl
        | error i code text => cases i <;> cases hreply
        | _ => cases hreply
      rw [hpong]
      rfl
    · exact hnoted.lose
  · rename_i error cn notices hfailed
    have hlost := hnoted.lose
    have hsame : cn = s.link.connection ∧ notices = Notices.nothing ∨
        ∃ e, s.link.connection.stopIdentity e = (cn, notices) := by
      have hfailed : s.link.connection.handleGatewayMessage message = .failed error cn notices := hfailed
      cases message with
      | error i code text =>
        cases i with
        | some i => cases hfailed
        | none =>
          simp only [GatewayConnection.handleGatewayMessage] at hfailed
          split at hfailed
          · cases hfailed
            exact .inr ⟨_, rfl⟩
          · cases hfailed
            exact .inl ⟨rfl, rfl⟩
      | _ => first | (cases hfailed; exact .inl ⟨rfl, rfl⟩) | cases hfailed
    rw [LocalSide.with_link hrecord]
    rcases hsame with ⟨rfl, rfl⟩ | ⟨e, he⟩
    · exact hlost.closed rfl (fun _ => rfl) (.inl rfl) (told_nothing _) hlost.whole.shut
        (.inr ⟨rfl, rfl, rfl, rfl, rfl, rfl⟩)
    · have hstopped := hlost.stopIdentity e
      have hconn : (s.record (.text, bytes)).lose.link.connection = s.link.connection := rfl
      rw [hconn, he] at hstopped
      exact hstopped

/-- The events of a data frame are those of its own stream. -/
theorem sealedEvents_data {frame bytes : Bytes} (hframe : decodeDataFrame frame = some (id, bytes)) (j : StreamId) :
    sealedEvents j (.binary, frame) = if id = j then dataEvents bytes else [] := by
  simp only [sealedEvents, frameEvents, hframe]

section Frame
variable {frame bytes : Bytes} (h : LocalSideInv s) (hp : s.link.phase = .open) (hidle : s.delivering = none)
  (hframe : decodeDataFrame frame = some (id, bytes)) (hanswered : Answered (.binary, frame) s)
include h hp hidle hframe hanswered

omit hp hidle in
/-- The stream of a data frame has been started in the session. -/
theorem begun_of_data : (s.view id).stage ≠ .fresh := by
  intro hf
  have hstart := hanswered.started frame id bytes rfl hframe
  rw [((h.stream id).table.fresh hf).written s.link.sessions] at hstart
  exact not_hasStart_nil hstart

/-- A frame for no TCP stream is noted, and there is no more to it. -/
theorem noted_data (ht : s.link.connection.target id ≠ .tcp) : LocalSideInv (s.record (.binary, frame)) := by
  refine h.noted hp hidle hanswered.events fun j hj => ?_
  rw [sealedEvents_data hframe]
  by_cases hi : id = j
  · subst hi
    have hbody : id ∈ s.link.connection.httpBodyStreams := by
      by_contra hbody
      exact ht (GatewayConnection.target_eq_tcp.mpr ⟨hbody, hj⟩)
    have hentry := (h.stream id).entry_of_http (decide_eq_true (.inr hbody))
    exact absurd hj (of_decide_eq_false hentry)
  · rw [if_neg hi]
    rfl

/-- A frame of a response body. -/
theorem localSideInv_bodyData (ht : s.link.connection.target id = .http) :
    LocalSideInv (({ s.record (.binary, frame) with delivering := none } : LocalSide).backpressure id) := by
  have hbody := GatewayConnection.target_eq_http.mp ht
  have hmode : (s.view id).mode = .http := (h.stream id).table.http (decide_eq_true (.inr hbody))
  have hfresh := begun_of_data h hframe hanswered
  have hnoted := noted_data h hp hidle hframe hanswered fun hc => by cases ht.symm.trans hc
  refine hnoted.backpressure hp (fun d hd => ?_) (fun hm => ?_) hfresh
  · have hd : d ∈ s.delivering := hd
    rw [hidle] at hd
    cases hd
  · have hm : (s.view id).mode = .tcp := hm
    rw [hmode] at hm
    cases hm

/-- A frame of a TCP stream waits for its channel. -/
theorem localSideInv_streamData (ht : s.link.connection.target id = .tcp) :
    LocalSideInv { s.record (.binary, frame) with delivering := some (id, bytes) } := by
  have hrecorded := h.recorded hp hidle hanswered.events (some (id, bytes))
    (handles_nothing (.refl _) rfl fun j hj hout => absurd hj hout)
    (fun d hd => by cases hd; exact (GatewayConnection.target_eq_tcp.mp ht).2) fun j _ => by
      rw [sealedEvents_data hframe]
      by_cases hi : id = j
      · simp [waitingFor, hi]
      · simp [waitingFor, hi]
  rw [LinkState.notify_nothing] at hrecorded
  exact hrecorded

/-- A frame of a stream that has no entry is answered with a Close. -/
theorem localSideInv_strayData (ht : s.link.connection.target id = .unknown) :
    LocalSideInv ({ s.record (.binary, frame) with
      link := { s.link with connection := { s.link.connection with
        unknownStreams := insert id s.link.connection.unknownStreams } } }.sendClose id "unknown_stream") := by
  have hfresh := begun_of_data h hframe hanswered
  have hnoted := noted_data h hp hidle hframe hanswered fun hc => by cases ht.symm.trans hc
  have hmarked : LocalSideInv { s.record (.binary, frame) with
      link := { s.link with connection := { s.link.connection with
        unknownStreams := insert id s.link.connection.unknownStreams } } } :=
    ⟨hnoted.whole.session rfl (fun _ => rfl) (fun _ => rfl) hnoted.whole.tidy hnoted.whole.unopened
      hnoted.whole.shut hnoted.whole.delivering, fun j => hnoted.stream j⟩
  refine hmarked.sendClose hp hidle _ hfresh fun hclosed hm => ?_
  have hout : id ∉ s.link.connection.tcpStreams := by
    intro hin
    exact GatewayConnection.target_ne_unknown.mpr (.inr hin) ht
  have hm : (s.view id).mode = .tcp := hm
  have hwritten := (h.stream id).started_of_written (hanswered.started frame id bytes rfl hframe)
  rw [hm] at hwritten
  have hevents := hanswered.events id
  rw [sealedEvents_data hframe, if_pos rfl] at hevents
  exact (h.stream id).not_live_of_data hm (hanswered.data frame id bytes rfl hframe hwritten) hclosed
    (decide_eq_false hout) hevents

theorem localSideInv_data {bodyGone : Bool} : LocalSideInv ((s.record (.binary, frame)).data id bytes bodyGone) := by
  unfold LocalSide.data
  split
  · rename_i ht
    split
    · rw [← LocalSide.idle (s := s.record (.binary, frame)) hidle]
      exact localSideInv_bodyData h hp hidle hframe hanswered ht
    · exact noted_data h hp hidle hframe hanswered fun hc => by cases ht.symm.trans hc
  · rename_i ht
    exact localSideInv_streamData h hp hidle hframe hanswered ht
  · rename_i ht
    split
    · exact noted_data h hp hidle hframe hanswered fun hc => by cases ht.symm.trans hc
    · exact localSideInv_strayData h hp hidle hframe hanswered ht

end Frame

/-- **A frame is handled.** -/
theorem localSideInv_receive {t : LocalSide} {bodyGone : Bool} (h : LocalSideInv s) (hanswered : Answered m s)
    (hs : s.receive m bodyGone = some t) : LocalSideInv t := by
  unfold LocalSide.receive at hs
  split at hs <;> cases hs
  rename_i hc
  obtain ⟨hp, hidle⟩ := hc
  have hlost : (∀ id, sealedEvents id m = []) → LocalSideInv (s.record m).lose := by
    intro hnone
    refine LocalSideInv.lose (h.noted hp hidle hanswered.events fun id _ => ?_)
    rw [hnone]
    rfl
  unfold LocalSide.handle
  split
  · rename_i bytes
    cases hm : (textOf bytes).bind decodeMessage with
    | none =>
      refine hlost fun id => ?_
      simp only [sealedEvents, hm, Option.elim_none]
    | some message => exact localSideInv_text h hp hidle hm hanswered.events
  · rename_i frame
    cases hframe : decodeDataFrame frame with
    | none =>
      refine hlost fun id => ?_
      simp only [sealedEvents, frameEvents, hframe]
    | some r => exact localSideInv_data h hp hidle hframe hanswered

/-! ### A stream's channel and its socket -/

theorem localSideInv_delivered {t : LocalSide} (h : LocalSideInv s) (hs : s.delivered = some t) :
    LocalSideInv t := by
  unfold LocalSide.delivered at hs
  split at hs
  · rename_i id bytes hd
    split at hs <;> cases hs
    refine ⟨h.whole.session rfl (fun _ => rfl) (fun _ => rfl) h.whole.tidy h.whole.unopened h.whole.shut
      (fun d hd => by cases hd), fun j => ?_⟩
    by_cases hj : j = id
    · subst hj
      have hdelivering : (s.view j).delivering = bytes := by
        simp only [LocalSide.view, hd, Option.elim_some, if_true]
      have hnext := (h.stream j).delivered
      rw [hdelivering] at hnext
      have hview : LocalSide.view j { s.setSocket j { s.sockets j with
          channel := (s.sockets j).channel ++ [bytes] } with delivering := none } =
          { s.view j with
            socket := { s.sockets j with channel := (s.sockets j).channel ++ [bytes] }
            delivering := [] } := by
        simp only [LocalSide.view, LocalSide.setSocket, Function.update_self]
        rfl
      rw [hview]
      exact hnext
    · have hview : LocalSide.view j { s.setSocket id { s.sockets id with
          channel := (s.sockets id).channel ++ [bytes] } with delivering := none } = s.view j := by
        simp only [LocalSide.view, LocalSide.setSocket, Function.update_of_ne hj, hd, Option.elim_some,
          if_neg (Ne.symm hj), Option.elim_none]
        rfl
      rw [hview]
      exact h.stream j
  · cases hs

theorem localSideInv_undelivered {t : LocalSide} (h : LocalSideInv s) (hs : s.undelivered = some t) :
    LocalSideInv t := by
  unfold LocalSide.undelivered at hs
  split at hs
  · rename_i id bytes hd
    split at hs <;> cases hs
    rename_i hgone
    have hstage : (s.view id).stage = .gone := by simp only [LocalSide.view, stageOf, hgone]
    refine h.backpressure (h.whole.delivering _ hd).1 (fun d hd' => ?_) (fun _ => hstage) ?_
    · rw [hd] at hd'
      cases hd'
      rfl
    · rw [hstage]
      exact fun hf => by cases hf
  · cases hs

/-- The local socket is written to, or the end is noted. -/
theorem LocalSideInv.moved (h : LocalSideInv s) {k : LocalSocket} (hread : k.read = (s.sockets id).read)
    (harrived : k.arrived = (s.sockets id).arrived) : LocalSideInv (s.setSocket id k) := by
  refine ⟨h.whole.session rfl (fun _ => rfl) (fun _ => rfl) h.whole.tidy h.whole.unopened h.whole.shut
    h.whole.delivering, fun j => ?_⟩
  by_cases hj : j = id
  · subst hj
    have hview : LocalSide.view j (s.setSocket j k) = { s.view j with socket := k } := by
      simp only [LocalSide.view, LocalSide.setSocket, Function.update_self]
      rfl
    rw [hview]
    exact (h.stream j).socketMoved hread harrived
  · have hview : LocalSide.view j (s.setSocket id k) = s.view j := by
      simp only [LocalSide.view, LocalSide.setSocket, Function.update_of_ne hj]
      rfl
    rw [hview]
    exact h.stream j

theorem localSideInv_recvRemote {t : LocalSide} (h : LocalSideInv s) (hs : s.recvRemote id = some t) :
    LocalSideInv t := by
  simp only [LocalSide.recvRemote] at hs
  split at hs
  · cases hs
  · rename_i bytes channel hchannel
    split at hs <;> cases hs
    rename_i hc
    refine h.moved rfl ?_
    simp only [LocalSocket.arrived, hchannel, hc.2.1, Option.getD_some, Option.getD_none, List.flatten_cons,
      List.append_assoc, List.nil_append]

theorem localSideInv_remoteEof {t : LocalSide} (h : LocalSideInv s) (hs : s.remoteEof id = some t) :
    LocalSideInv t := by
  simp only [LocalSide.remoteEof] at hs
  split at hs <;> cases hs
  exact h.moved rfl rfl

theorem localSideInv_writeSome {t : LocalSide} {count : Nat} (h : LocalSideInv s)
    (hs : s.writeSome id count = some t) : LocalSideInv t := by
  simp only [LocalSide.writeSome] at hs
  split at hs
  · cases hs
  · rename_i rest hwriting
    split at hs <;> cases hs
    refine h.moved rfl ?_
    have htake : rest.take count ++ (rest.drop count ++ (s.sockets id).channel.flatten) =
        rest ++ (s.sockets id).channel.flatten := by
      rw [← List.append_assoc, List.take_append_drop]
    simp only [LocalSocket.arrived, hwriting, Option.getD_some, List.append_assoc, htake]

theorem localSideInv_wrote {t : LocalSide} (h : LocalSideInv s) (hs : s.wrote id = some t) :
    LocalSideInv t := by
  simp only [LocalSide.wrote] at hs
  split at hs <;> cases hs
  rename_i hc
  refine h.moved rfl ?_
  simp only [LocalSocket.arrived, hc.2, Option.getD_some, Option.getD_none]

theorem localSideInv_readLocal {t : LocalSide} {bytes : Bytes} (h : LocalSideInv s)
    (hs : s.readLocal id bytes = some t) : LocalSideInv t := by
  simp only [LocalSide.readLocal] at hs
  split at hs
  · obtain ⟨link, hlink, rfl⟩ := Option.map_eq_some_iff.mp hs
    exact h.part bytes hlink (fun _ => rfl) rfl
  · cases hs

theorem localSideInv_readFails {t : LocalSide} {lost : Bytes} (h : LocalSideInv s)
    (hs : s.readFails id lost = some t) : LocalSideInv t := by
  simp only [LocalSide.readFails] at hs
  split at hs
  · rename_i hc
    obtain ⟨link, hlink, rfl⟩ := Option.map_eq_some_iff.mp hs
    unfold LinkState.finish at hlink
    split at hlink <;> cases hlink
    rename_i hrunning
    refine h.retire lost (.inr ⟨rfl, .inr ⟨_, rfl⟩⟩) (BoundedChannel.withdraw_items ..)
      (by rw [hrunning.1]; exact fun hp => by cases hp) rfl fun _ => ?_
    simp only [stageOf, hrunning.1, hc.2.1, Bool.false_eq_true, if_false]
  · cases hs

/-! ### Every run -/

theorem localSideInv_link {op : LinkOp} {t : LocalSide} (h : LocalSideInv s) (hs : s.linkStep op = some t) :
    LocalSideInv t := by
  simp only [LocalSide.linkStep, Option.ite_none_right_eq_some] at hs
  obtain ⟨hallows, hs⟩ := hs
  obtain ⟨link, hlink, rfl⟩ := Option.map_eq_some_iff.mp hs
  cases op with
  | connect => exact localSideInv_connect h hlink
  | lose =>
    have hlink : s.link.lose = some link := hlink
    unfold LinkState.lose at hlink
    split at hlink <;> cases hlink <;> exact h.lose
  | close reason => exact localSideInv_close h hlink
  | drain => exact localSideInv_drain h hlink
  | drained => exact localSideInv_drained h hlink
  | message m => cases hallows
  | control m =>
    simp only [LocalSide.allows, decide_eq_true_eq] at hallows
    obtain ⟨rfl, _, hidle⟩ := hallows
    have hlink : s.link.control .ping = some link := hlink
    unfold LinkState.control at hlink
    split at hlink <;> cases hlink
    rename_i hc
    exact h.pong hc.1 hidle fun _ => rfl
  | sent => exact localSideInv_sent h hlink
  | writer op => exact localSideInv_writer h hlink
  | start mode => exact localSideInv_start h hlink
  | register id target config request => exact localSideInv_register h hlink
  | check id => exact localSideInv_check h hlink
  | request id => exact localSideInv_request h hlink
  | put id => exact localSideInv_put h hlink
  | poll id => exact localSideInv_poll h hlink
  | pend id => exact localSideInv_pend h hlink
  | opened id => exact localSideInv_opened h hlink
  | openTimeout id => exact localSideInv_openTimeout h hlink
  | part id bytes =>
    simp only [LocalSide.allows, decide_eq_true_eq] at hallows
    exact localSideInv_part h hallows hlink
  | last id => exact localSideInv_last h hlink
  | finish id reason => exact localSideInv_finish h hlink
  | dropped id => exact localSideInv_dropped h hlink

/-- **Every step keeps the invariant**, when what is received was answered. -/
theorem localSideInv_step {op : LocalOp} {t : LocalSide} (h : LocalSideInv s)
    (hs : localSide.step op s = some t) (hrule : ∀ m bodyGone, op = .receive m bodyGone → Answered m s) :
    LocalSideInv t := by
  cases op with
  | link op => exact localSideInv_link h hs
  | receive m bodyGone => exact localSideInv_receive h (hrule m bodyGone rfl) hs
  | delivered => exact localSideInv_delivered h hs
  | undelivered => exact localSideInv_undelivered h hs
  | readLocal id bytes => exact localSideInv_readLocal h hs
  | readFails id lost => exact localSideInv_readFails h hs
  | recvRemote id => exact localSideInv_recvRemote h hs
  | remoteEof id => exact localSideInv_remoteEof h hs
  | writeSome id count => exact localSideInv_writeSome h hs
  | wrote id => exact localSideInv_wrote h hs
  | stop error reason =>
    cases hs
    exact localSideInv_stop h

theorem localSideInv_initial : LocalSideInv {} := by
  refine ⟨⟨by decide, fun id hne => absurd rfl hne, fun id x hx => (by cases hx), fun id hl => (by cases hl),
    trivial, fun _ => rfl, fun _ => rfl, fun d hd => (by cases hd)⟩, fun id => ⟨?_, ?_, ?_⟩⟩
  · exact ⟨⟨rfl, rfl⟩, .inl rfl, fun hc => (by cases hc), fun _ => List.nil_prefix, fun _ _ => rfl,
      fun _ => List.Pairwise.nil⟩
  · have hline : LocalView.line (LocalSide.view id {}) = [] := rfl
    refine ⟨fun _ _ => rfl, fun _ hs => absurd hs not_hasStart_nil, fun _ _ hs => absurd hs not_hasStart_nil,
      fun hs => absurd hs not_hasStart_nil, ?_, fun _ hs => absurd hs not_hasStart_nil, fun _ => ?_,
      fun _ _ => List.Pairwise.nil, fun _ hx => (by cases hx), fun _ hc => (by cases hc)⟩
    · rw [hline]
      exact List.nil_suffix
    · rw [hline]
      exact List.Pairwise.nil
  · constructor
    · exact fun _ hne => absurd rfl hne
    · exact fun _ ho => by rcases ho with ho | ho <;> cases ho
    · exact fun _ ⟨x, hx, _⟩ => by cases hx
    · exact fun _ => rfl
    · exact fun hh => by cases hh
    · exact fun _ => ⟨rfl, rfl, rfl, rfl, rfl, rfl, fun _ => rfl⟩
    · exact fun _ hw => by cases hw
    · exact fun _ hc => by cases hc
    · exact fun he => by cases he
    · exact ⟨0, List.prefix_refl _⟩
    · exact fun he => by cases he
    · exact fun _ => ⟨rfl, rfl⟩

end Local

end WsNet.Relay
