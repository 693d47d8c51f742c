import WsNet.Relay.LocalStream

/-! The runs of the access's end.

Each step is, to one stream, one of the steps of its view: a handler's step is
nothing to the other streams, and a step of a session is the same to all. So the
invariant of the view holds of every stream in every run in which the gateway
answers only what it was sent. -/
namespace WsNet.Relay
open Access Data Transition

section Local
variable [MessageCodec]

/-! ### The writer -/

/-- What the writer holds, in the order in which it will write it. -/
def heldBy (w : Writer) : List WsMessage := w.phase.batch ++ w.pending.toList

/-- Nothing is put off while a batch is gathered. -/
def Tidy (w : Writer) : Prop :=
  match w.phase with
  | .yielding _ | .gathering _ _ => w.pending = none
  | _ => True

omit [MessageCodec] in
theorem heldBy_begin (first : WsMessage) (o : Outbound) : heldBy (Writer.begin first o).writer = [first] := by
  unfold Writer.begin
  split <;> rfl

omit [MessageCodec] in
theorem tidy_begin (first : WsMessage) (o : Outbound) : Tidy (Writer.begin first o).writer := by
  unfold Writer.begin
  split
  · exact rfl
  · trivial

/-- The messages of a batch that is gathered, with what the queue gives next. -/
theorem gathering_events (id : StreamId) {w : Writer} {o o' : Outbound} {batch : List WsMessage} {batchBytes : Nat}
    {next : WsMessage} (hp : w.phase = .gathering batch batchBytes) (ht : Tidy w)
    (hr : o.recv = some (next, o')) :
    eventsIn id (heldBy w ++ o.items) = eventsIn id (batch ++ [next]) ++ eventsIn id o'.items := by
  simp only [Tidy, hp] at ht
  rw [(BoundedChannel.recv_eq_some hr).1, ← eventsIn_append, List.append_assoc]
  simp only [heldBy, hp, ht, WriterPhase.batch, Option.toList_none, List.append_nil]
  rfl

/-- **The writer changes no events**: what it takes in it holds or writes. -/
theorem writer_events (id : StreamId) {op : WriterOp} {w : Writer} {o : Outbound} {r : WriterStep}
    (h : w.step op o = some r) (ht : Tidy w) :
    Tidy r.writer ∧ eventsIn id (heldBy w ++ o.items) =
      eventsIn id r.fed.toList ++ eventsIn id (heldBy r.writer ++ r.outbound.items) := by
  cases Writer.move_of_step h with
  | resumed hp hpending =>
    refine ⟨tidy_begin _ _, ?_⟩
    rw [heldBy_begin]
    simp only [heldBy, hp, hpending, WriterPhase.batch, Writer.begin, Option.toList_some, Option.toList_none,
      List.nil_append, eventsIn_nil]
  | received hp hpending hr =>
    refine ⟨tidy_begin _ _, ?_⟩
    rw [heldBy_begin, (BoundedChannel.recv_eq_some hr).1]
    simp only [heldBy, hp, hpending, WriterPhase.batch, Writer.begin, Option.toList_none, List.nil_append,
      eventsIn_nil, List.cons_append]
  | yielded hp =>
    simp only [Tidy, hp] at ht
    refine ⟨ht, ?_⟩
    simp only [heldBy, hp, WriterPhase.batch, Option.toList_none, eventsIn_nil, List.nil_append]
  | gathered hp =>
    simp only [Tidy, hp] at ht
    refine ⟨trivial, ?_⟩
    simp only [heldBy, hp, ht, WriterPhase.batch, Option.toList_none, List.append_nil, eventsIn_nil,
      List.nil_append]
  | @pushed batch _ batchBytes _ next _ stop hp hr hpush =>
    have hmerged := merged_push batchBytes next (show Merged ([] ++ batch) ([] ++ batch) from .refl _)
    rw [hpush] at hmerged
    have hevents := eventsIn_merged id hmerged
    simp only [List.nil_append] at hevents
    rw [gathering_events id hp ht hr, hevents]
    simp only [Tidy, hp] at ht
    cases stop with
    | true =>
      refine ⟨trivial, ?_⟩
      simp only [heldBy, ht, WriterPhase.batch, Option.toList_none, List.append_nil, eventsIn_nil,
        List.nil_append, eventsIn_append, if_true]
    | false =>
      refine ⟨ht, ?_⟩
      simp only [heldBy, ht, WriterPhase.batch, Option.toList_none, List.append_nil, eventsIn_nil,
        List.nil_append, eventsIn_append, Bool.false_eq_true, if_false]
  | @deferred batch batchBytes next _ _ hp hr hpush =>
    have hmerged := merged_push batchBytes next (show Merged ([] ++ batch) ([] ++ batch) from .refl _)
    rw [hpush] at hmerged
    have hevents := eventsIn_merged id hmerged
    simp only [List.nil_append] at hevents
    rw [gathering_events id hp ht hr, hevents]
    refine ⟨trivial, ?_⟩
    simp only [heldBy, WriterPhase.batch, Option.toList_some, Option.toList_none, eventsIn_nil,
      List.nil_append, eventsIn_append]
  | fed hp =>
    refine ⟨trivial, ?_⟩
    simp only [heldBy, hp, WriterPhase.batch, Option.toList_some, List.cons_append, eventsIn_cons,
      eventsIn_append, eventsIn_nil, List.append_nil, List.append_assoc]
  | flushed hp =>
    refine ⟨trivial, ?_⟩
    simp only [heldBy, hp, WriterPhase.batch, Option.toList_none, eventsIn_nil, List.nil_append]

/-! ### The view of a state -/

namespace LocalSide

def writtenIn (k : Nat) (s : LocalSide) : List WsMessage :=
  (s.link.written.filter (·.session = k)).map Written.message

def ahead (s : LocalSide) : List WsMessage := heldBy s.link.writer ++ s.link.outbound.items

def control (s : LocalSide) : List WsMessage :=
  match s.link.phase with
  | .sending m => [m]
  | _ => []

def isGood : Except GatewayError Unit → Bool
  | .ok () => true
  | .error _ => false

def view (id : StreamId) (s : LocalSide) : LocalView where
  mode := (s.link.callers id).mode
  stage := stageOf id (s.link.callers id)
  answer := (s.link.callers id).answer.map isGood
  entry := id ∈ s.link.connection.tcpStreams
  waiter := id ∈ s.link.connection.openWaiters
  http := id ∈ s.link.connection.httpHeadWaiters ∨ id ∈ s.link.connection.httpBodyStreams
  closed := s.link.connection.closed
  isOpen := s.link.phase.isOpen
  session := s.link.sessions
  handed := s.handed id
  written k := eventsIn id (s.writtenIn k)
  ahead := eventsIn id s.ahead
  control := eventsIn id s.control
  received k := (s.received k).flatMap (sealedEvents id)
  socket := s.sockets id
  delivering := s.delivering.elim [] fun d => if d.1 = id then d.2 else []

end LocalSide

/-- What is no matter of one stream. -/
structure LocalGlobal (s : LocalSide) : Prop where
  bound : s.link.connection.streamIds < 2 ^ 64
  begun : ∀ id, (s.link.callers id).phase ≠ .idle → id < s.link.connection.streamIds
  own : ∀ id, ∀ x ∈ (s.link.callers id).phase.sending, ∀ j, j ≠ id → wsEvents j x.message = []
  sentLast : ∀ id, (s.link.callers id).sentLast = true → (stageOf id (s.link.callers id)).more = false
  tidy : Tidy s.link.writer
  unopened : s.link.phase.isOpen = false → s.link.writer = {}
  shut : s.link.phase = .draining ∨ s.link.phase = .offline → s.link.connection.closed = true
  delivering : ∀ d ∈ s.delivering, s.link.phase = .open ∧ (s.link.callers d.1).phase ≠ .idle

structure LocalSideInv (s : LocalSide) : Prop where
  whole : LocalGlobal s
  stream : ∀ id, LocalInv (s.view id)

/-! ### The steps of a handler -/

/-- The connections differ in what belongs to one stream. -/
structure Apart (id : StreamId) (c d : GatewayConnection) : Prop where
  closed : d.closed = c.closed
  tcpStreams : ∀ j, j ≠ id → (j ∈ d.tcpStreams ↔ j ∈ c.tcpStreams)
  openWaiters : ∀ j, j ≠ id → (j ∈ d.openWaiters ↔ j ∈ c.openWaiters)
  httpHeadWaiters : ∀ j, j ≠ id → (j ∈ d.httpHeadWaiters ↔ j ∈ c.httpHeadWaiters)
  httpBodyStreams : ∀ j, j ≠ id → (j ∈ d.httpBodyStreams ↔ j ∈ c.httpBodyStreams)

omit [MessageCodec] in
theorem Apart.refl (id : StreamId) (c : GatewayConnection) : Apart id c c :=
  ⟨rfl, fun _ _ => .rfl, fun _ _ => .rfl, fun _ _ => .rfl, fun _ _ => .rfl⟩

omit [MessageCodec] in
theorem Apart.closeStream (id : StreamId) (c : GatewayConnection) : Apart id c (c.closeStream id) := by
  constructor
  · rfl
  all_goals
    intro j hj
    simp only [GatewayConnection.closeStream, Finset.mem_erase, ne_eq, hj, not_false_eq_true, true_and]

variable {s : LocalSide} {id : StreamId}

/-- **A handler's step** is a step of its stream and nothing to the others. -/
theorem LocalSideInv.handler (h : LocalSideInv s) {cn : GatewayConnection} {o : Outbound} {c : Caller}
    {sockets : StreamId → LocalSocket} {handed : StreamId → List StreamEvent} (l : List WsMessage)
    (hcn : Apart id s.link.connection cn) (hids : s.link.connection.streamIds ≤ cn.streamIds)
    (hbound : cn.streamIds < 2 ^ 64) (hid : id < cn.streamIds)
    (ho : o.items = s.link.outbound.items ++ l) (hl : ∀ j, j ≠ id → eventsIn j l = [])
    (hsockets : ∀ j, j ≠ id → sockets j = s.sockets j) (hhanded : ∀ j, j ≠ id → handed j = s.handed j)
    (hidle : (s.link.callers id).phase ≠ .idle → c.phase ≠ .idle)
    (hown : ∀ x ∈ c.phase.sending, ∀ j, j ≠ id → wsEvents j x.message = [])
    (hlast : c.sentLast = true → (stageOf id c).more = false)
    (hself : LocalInv { s.view id with
      mode := c.mode, stage := stageOf id c, answer := c.answer.map LocalSide.isGood
      entry := id ∈ cn.tcpStreams, waiter := id ∈ cn.openWaiters
      http := id ∈ cn.httpHeadWaiters ∨ id ∈ cn.httpBodyStreams
      closed := cn.closed, ahead := (s.view id).ahead ++ eventsIn id l
      socket := sockets id, handed := handed id }) :
    LocalSideInv { s with
      link := ({ s.link with connection := cn, outbound := o }).setCaller id c, sockets, handed } := by
  have hahead : ∀ j, eventsIn j (heldBy s.link.writer ++ o.items) =
      eventsIn j s.ahead ++ eventsIn j l := by
    intro j
    rw [ho, ← List.append_assoc, eventsIn_append]
    rfl
  refine ⟨⟨hbound, fun j hj => ?_, fun j x hx => ?_, fun j hj => ?_, h.whole.tidy, h.whole.unopened,
    fun hp => hcn.closed.trans (h.whole.shut hp), fun d hd => ?_⟩, fun j => ?_⟩
  · by_cases hji : j = id
    · exact hji ▸ hid
    · have hj : (Function.update s.link.callers id c j).phase ≠ .idle := hj
      rw [Function.update_of_ne hji] at hj
      exact Nat.lt_of_lt_of_le (h.whole.begun j hj) hids
  · have hx : x ∈ (Function.update s.link.callers id c j).phase.sending := hx
    by_cases hji : j = id
    · subst hji
      rw [Function.update_self] at hx
      exact hown x hx
    · rw [Function.update_of_ne hji] at hx
      exact h.whole.own j x hx
  · have hj : (Function.update s.link.callers id c j).sentLast = true := hj
    show (stageOf j (Function.update s.link.callers id c j)).more = false
    by_cases hji : j = id
    · subst hji
      rw [Function.update_self] at hj ⊢
      exact hlast hj
    · rw [Function.update_of_ne hji] at hj ⊢
      exact h.whole.sentLast j hj
  · obtain ⟨hopen, hne⟩ := h.whole.delivering d hd
    refine ⟨hopen, ?_⟩
    show (Function.update s.link.callers id c d.1).phase ≠ .idle
    by_cases hji : d.1 = id
    · rw [hji, Function.update_self]
      exact hidle (hji ▸ hne)
    · rw [Function.update_of_ne hji]
      exact hne
  · by_cases hji : j = id
    · subst hji
      have hview : LocalSide.view j { s with
          link := ({ s.link with connection := cn, outbound := o }).setCaller j c, sockets, handed } =
          { s.view j with
            mode := c.mode, stage := stageOf j c, answer := c.answer.map LocalSide.isGood
            entry := j ∈ cn.tcpStreams, waiter := j ∈ cn.openWaiters
            http := j ∈ cn.httpHeadWaiters ∨ j ∈ cn.httpBodyStreams
            closed := cn.closed, ahead := (s.view j).ahead ++ eventsIn j l
            socket := sockets j, handed := handed j } := by
        simp only [LocalSide.view, LinkState.setCaller, Function.update_self, LocalSide.ahead, hahead]
        rfl
      rw [hview]
      exact hself
    · have hview : LocalSide.view j { s with
          link := ({ s.link with connection := cn, outbound := o }).setCaller id c, sockets, handed } =
          s.view j := by
        simp only [LocalSide.view, LinkState.setCaller, Function.update_of_ne hji, LocalSide.ahead, hahead,
          hl j hji, List.append_nil, hcn.closed, hcn.tcpStreams j hji, hcn.openWaiters j hji,
          hcn.httpHeadWaiters j hji, hcn.httpBodyStreams j hji, hsockets j hji, hhanded j hji]
        rfl
      rw [hview]
      exact h.stream j

/-- A step of a handler that has begun, with nothing put. -/
theorem LocalSideInv.quiet (h : LocalSideInv s) {cn : GatewayConnection} {o : Outbound} {c : Caller}
    {sockets : StreamId → LocalSocket} (hcn : Apart id s.link.connection cn)
    (hids : cn.streamIds = s.link.connection.streamIds) (ho : o.items = s.link.outbound.items)
    (hsockets : ∀ j, j ≠ id → sockets j = s.sockets j)
    (hne : (s.link.callers id).phase ≠ .idle) (hphase : c.phase ≠ .idle)
    (hown : ∀ x ∈ c.phase.sending, ∀ j, j ≠ id → wsEvents j x.message = [])
    (hlast : c.sentLast = true → (stageOf id c).more = false)
    (hself : LocalInv { s.view id with
      mode := c.mode, stage := stageOf id c, answer := c.answer.map LocalSide.isGood
      entry := id ∈ cn.tcpStreams, waiter := id ∈ cn.openWaiters
      http := id ∈ cn.httpHeadWaiters ∨ id ∈ cn.httpBodyStreams, socket := sockets id }) :
    LocalSideInv { s with
      link := ({ s.link with connection := cn, outbound := o }).setCaller id c, sockets } := by
  refine h.handler [] hcn (Nat.le_of_eq hids.symm) (hids ▸ h.whole.bound) (hids ▸ h.whole.begun id hne)
    (by rw [ho, List.append_nil]) (fun _ _ => rfl) hsockets (fun _ _ => rfl) (fun _ => hphase) hown hlast ?_
  rw [hcn.closed, eventsIn_nil, List.append_nil]
  exact hself

/-- The same stage, under another name. -/
theorem LocalSideInv.rename (h : LocalSideInv s) {o : Outbound} {c : Caller}
    (ho : o.items = s.link.outbound.items) (hne : (s.link.callers id).phase ≠ .idle)
    (hphase : c.phase ≠ .idle) (hsending : ∀ x ∈ c.phase.sending, x ∈ (s.link.callers id).phase.sending)
    (hlast : c.sentLast = (s.link.callers id).sentLast) (hmode : c.mode = (s.link.callers id).mode)
    (hstage : stageOf id c = stageOf id (s.link.callers id))
    (hanswer : c.answer = (s.link.callers id).answer) :
    LocalSideInv { s with link := ({ s.link with outbound := o }).setCaller id c } := by
  refine h.quiet (.refl _ _) rfl ho (fun _ _ => rfl) hne hphase
    (fun x hx => h.whole.own id x (hsending x hx)) ?_ ?_
  · rw [hlast, hstage]
    exact h.whole.sentLast id
  · rw [hmode, hstage, hanswer]
    exact h.stream id

/-- The entries of a handler that is done are taken out, or stay. -/
theorem LocalSideInv.retire (h : LocalSideInv s) {cn : GatewayConnection} {o : Outbound}
    {phase : CallerPhase} {sockets : StreamId → LocalSocket} (lost : Bytes)
    (hcn : cn = s.link.connection ∧ phase = .gone ∨ cn = s.link.connection.closeStream id ∧
      (phase = .gone ∨ ∃ reason, phase = .checking (.close (.text (encodeMessage (.close id reason))))))
    (ho : o.items = s.link.outbound.items) (hne : (s.link.callers id).phase ≠ .idle)
    (hsockets : sockets = Function.update s.sockets id
      { s.sockets id with read := (s.sockets id).read ++ lost })
    (hlost : lost ≠ [] → stageOf id (s.link.callers id) = .running) :
    LocalSideInv { s with
      link := ({ s.link with connection := cn, outbound := o }).setCaller id
        { s.link.callers id with phase }, sockets } := by
  have hstage : stageOf id { s.link.callers id with phase } = .gone ∨
      stageOf id { s.link.callers id with phase } = .closing [.close] ∧
        cn = s.link.connection.closeStream id := by
    rcases hcn with ⟨_, rfl⟩ | ⟨hcn, rfl | ⟨reason, rfl⟩⟩
    · exact .inl rfl
    · exact .inl rfl
    · refine .inr ⟨?_, hcn⟩
      simp only [stageOf, Stage.ofSending, wsEvents_text, messageEvents, if_true]
  have hsub : Apart id s.link.connection cn ∧ cn.streamIds = s.link.connection.streamIds ∧
      cn.tcpStreams ⊆ s.link.connection.tcpStreams ∧ cn.openWaiters ⊆ s.link.connection.openWaiters ∧
      cn.httpHeadWaiters ⊆ s.link.connection.httpHeadWaiters ∧
      cn.httpBodyStreams ⊆ s.link.connection.httpBodyStreams := by
    rcases hcn with ⟨rfl, _⟩ | ⟨rfl, _⟩
    · exact ⟨.refl _ _, rfl, Finset.Subset.refl _, Finset.Subset.refl _, Finset.Subset.refl _,
        Finset.Subset.refl _⟩
    · have hfewer := GatewayConnection.Fewer.closeStream id s.link.connection
      exact ⟨.closeStream _ _, hfewer.streamIds, hfewer.tcpStreams, hfewer.openWaiters,
        hfewer.httpHeadWaiters, hfewer.httpBodyStreams⟩
  obtain ⟨hapart, hids, htcp, hopen, hhead, hbody⟩ := hsub
  subst hsockets
  refine h.quiet hapart hids ho (fun j hj => Function.update_of_ne hj _ _) hne ?_ ?_ (fun _ => ?_) ?_
  · rcases hcn with ⟨_, rfl⟩ | ⟨_, rfl | ⟨reason, rfl⟩⟩ <;> exact fun hp => by cases hp
  · intro x hx j hj
    rcases hcn with ⟨_, rfl⟩ | ⟨_, rfl | ⟨reason, rfl⟩⟩
    · cases hx
    · cases hx
    · cases hx
      simp only [Sending.message, wsEvents_text, messageEvents, if_neg hj.symm]
  · rcases hstage with hs | ⟨hs, _⟩ <;> rw [hs] <;> rfl
  · rw [Function.update_self]
    have hgone : ∀ map : Finset StreamId, decide (id ∈ map.erase id) = false := fun map => by simp
    have hplace : stageOf id { s.link.callers id with phase } = .gone ∨
        stageOf id { s.link.callers id with phase } = .closing [.close] ∧
          decide (id ∈ cn.tcpStreams) = false ∧ decide (id ∈ cn.openWaiters) = false := by
      refine hstage.imp_right fun h => ⟨h.1, ?_⟩
      rw [h.2]
      exact ⟨hgone _, hgone _⟩
    refine (h.stream id).retire hplace (fun he => ?_) (fun he => ?_) (fun he => ?_) hlost
    · exact decide_eq_true (htcp (of_decide_eq_true he))
    · exact decide_eq_true (hopen (of_decide_eq_true he))
    · exact decide_eq_true ((of_decide_eq_true he).imp (fun he => hhead he) (fun he => hbody he))

/-! ### The handlers of the link -/

section Handlers
variable {link : LinkState}

theorem LocalSideInv.sentLast_eq (h : LocalSideInv s)
    (hmore : (stageOf id (s.link.callers id)).more = true) : (s.link.callers id).sentLast = false := by
  by_contra hlast
  have hno := h.whole.sentLast id (by simpa using hlast)
  rw [hmore] at hno
  cases hno

theorem LocalSideInv.leave (h : LocalSideInv s) (hne : (s.link.callers id).phase ≠ .idle) :
    LocalSideInv { s with link := s.link.leave id } :=
  h.retire [] (.inr ⟨rfl, .inl rfl⟩) (BoundedChannel.withdraw_items ..) hne
    (by rw [List.append_nil, Function.update_eq_self]) fun hl => absurd rfl hl

theorem LocalSideInv.gone (h : LocalSideInv s) (hne : (s.link.callers id).phase ≠ .idle) :
    LocalSideInv { s with
      link := { s.link with outbound := s.link.outbound.withdraw (.handler id) }.setPhase id .gone } :=
  h.retire [] (.inl ⟨rfl, rfl⟩) (BoundedChannel.withdraw_items ..) hne
    (by rw [List.append_nil, Function.update_eq_self]) fun hl => absurd rfl hl

theorem LocalSideInv.closing (h : LocalSideInv s) (reason : String)
    (hne : (s.link.callers id).phase ≠ .idle) : LocalSideInv { s with link := s.link.closing id reason } :=
  h.retire [] (.inr ⟨rfl, .inr ⟨reason, rfl⟩⟩) (BoundedChannel.withdraw_items ..) hne
    (by rw [List.append_nil, Function.update_eq_self]) fun hl => absurd rfl hl

theorem localSideInv_start {mode : Mode} (h : LocalSideInv s) (hs : s.link.start mode = some link) :
    LocalSideInv { s with link } := by
  simp only [LinkState.start] at hs
  split at hs <;> cases hs
  rename_i hc
  have hidle : (s.link.callers s.link.connection.streamIds).phase = .idle := by
    by_contra hne
    exact Nat.lt_irrefl _ (h.whole.begun _ hne)
  have hfresh : (s.view s.link.connection.streamIds).stage = .fresh := by
    simp only [LocalSide.view, stageOf, hidle]
  have hentries := (h.stream s.link.connection.streamIds).table.fresh hfresh
  refine h.handler [] ⟨rfl, fun _ _ => .rfl, fun _ _ => .rfl, fun _ _ => .rfl, fun _ _ => .rfl⟩ (Nat.le_succ _) hc.2 (Nat.lt_succ_self _) (List.append_nil _).symm
    (fun _ _ => rfl) (fun _ _ => rfl) (fun _ _ => rfl) (fun hne => absurd hidle hne)
    (fun x hx => by cases hx) (fun hl => by cases hl) ?_
  rw [eventsIn_nil, List.append_nil]
  exact ((h.stream s.link.connection.streamIds).start hfresh mode).same hfresh.symm hentries.answer.symm

theorem localSideInv_refused {x : Sending} (h : LocalSideInv s)
    (hc : (s.link.callers id).phase = .checking x) : LocalSideInv { s with link := s.link.refused id x } := by
  have hne : (s.link.callers id).phase ≠ .idle := by rw [hc]; exact fun hp => by cases hp
  cases x with
  | submit m => exact h.leave hne
  | close m => exact h.leave hne
  | part m last =>
    have hstage : (s.view id).stage = .sending (wsEvents id m) last := by
      simp only [LocalSide.view, stageOf, hc, Stage.ofSending]
    cases last with
    | false =>
      unfold LinkState.refused
      cases (s.link.callers id).mode with
      | tcp => exact h.closing _ hne
      | http => exact h.closing _ hne
    | true =>
      unfold LinkState.refused
      cases (s.link.callers id).mode with
      | tcp =>
        exact h.quiet (.refl _ _) rfl rfl (fun _ _ => rfl) hne (fun hp => by cases hp)
          (fun _ hx => by cases hx) (fun _ => rfl) ((h.stream id).refusedEnd hstage)
      | http => exact h.leave hne

theorem localSideInv_check (h : LocalSideInv s) (hs : s.link.check id = some link) :
    LocalSideInv { s with link } := by
  simp only [LinkState.check] at hs
  split at hs
  · rename_i x hc
    have hne : (s.link.callers id).phase ≠ .idle := by rw [hc]; exact fun hp => by cases hp
    have hsending : ∀ y ∈ (some x : Option Sending), y ∈ (s.link.callers id).phase.sending := by
      rw [hc]
      exact fun _ hy => hy
    split at hs <;> cases hs
    · -- The check of the first message.
      rename_i m hopen
      obtain ⟨_, hclosed⟩ := GatewayConnection.ensureGatewayOpen_ok.mp hopen
      have hstage : (s.view id).stage = .submitting (wsEvents id m) false := by
        simp only [LocalSide.view, stageOf, hc, Stage.ofSending]
      have hmore : (stageOf id (s.link.callers id)).more = true := by
        simp only [stageOf, hc, Stage.ofSending, Stage.more]
      exact h.quiet (.refl _ _) rfl rfl (fun _ _ => rfl) hne (fun hp => by cases hp)
        (fun y hy => h.whole.own id y (hsending y hy))
        (fun hl => by rw [h.sentLast_eq hmore] at hl; cases hl)
        ((h.stream id).checked hstage hclosed)
    · rename_i x _ _ _ hnot
      refine h.rename rfl hne (fun hp => by cases hp) hsending rfl rfl ?_ rfl
      cases x with
      | submit m => exact absurd rfl (hnot m)
      | part m last => simp only [stageOf, hc, Stage.ofSending]
      | close m => simp only [stageOf, hc, Stage.ofSending]
    · exact localSideInv_refused h hc
  · cases hs

theorem localSideInv_request (h : LocalSideInv s) (hs : s.link.request id = some link) :
    LocalSideInv { s with link } := by
  simp only [LinkState.request] at hs
  split at hs <;> cases hs
  rename_i x hc
  refine h.rename (BoundedChannel.request_items ..) (by rw [hc]; exact fun hp => by cases hp)
    (fun hp => by cases hp) ?_ rfl rfl ?_ rfl
  · rw [hc]
    exact fun _ hy => hy
  · simp only [stageOf, hc]

/-- What a handler puts is handed over. -/
theorem LocalSideInv.put (h : LocalSideInv s) {x : Sending} {o : Outbound} {c : Caller}
    (hq : (s.link.callers id).phase = .queued x)
    (ho : s.link.outbound.put (.handler id) x.message = some o) (hmode : c.mode = (s.link.callers id).mode)
    (hanswer : c.answer = (s.link.callers id).answer) (hphase : c.phase ≠ .idle)
    (hsending : c.phase.sending = none) (hlast : c.sentLast = true → (stageOf id c).more = false)
    (hself : LocalInv { s.view id with
      stage := stageOf id c, handed := (s.view id).handed ++ flow (wsEvents id x.message)
      ahead := (s.view id).ahead ++ wsEvents id x.message }) :
    LocalSideInv { s with
      link := { s.link with outbound := o }.setCaller id c
      handed := Function.update s.handed id (s.handed id ++ s.handing id) } := by
  have hne : (s.link.callers id).phase ≠ .idle := by rw [hq]; exact fun hp => by cases hp
  have hx : x ∈ (s.link.callers id).phase.sending := by rw [hq]; rfl
  have hhanding : s.handing id = flow (wsEvents id x.message) := by
    simp only [LocalSide.handing, hq, CallerPhase.sending, Option.elim_some]
  refine h.handler [x.message] (.refl _ _) (Nat.le_refl _) h.whole.bound (h.whole.begun id hne)
    (BoundedChannel.put_eq_some ho).2.1 (fun j hj => ?_) (fun _ _ => rfl)
    (fun j hj => Function.update_of_ne hj _ _) (fun _ => hphase) (fun y hy => ?_) hlast ?_
  · rw [eventsIn_cons, h.whole.own id x hx j hj, eventsIn_nil, List.append_nil]
  · rw [hsending] at hy
    cases hy
  · rw [hmode, hanswer, eventsIn_cons, eventsIn_nil, List.append_nil, Function.update_self, hhanding]
    exact hself

theorem localSideInv_put (h : LocalSideInv s) (hs : s.link.put id = some link) :
    LocalSideInv (s.afterLink (.put id) link) := by
  simp only [LinkState.put] at hs
  split at hs
  · rename_i m hq
    obtain ⟨o, ho, rfl⟩ := Option.map_eq_some_iff.mp hs
    have hstage : stageOf id (s.link.callers id) = .submitting (wsEvents id m) true := by
      simp only [stageOf, hq, Stage.ofSending]
    have hlast : (s.link.callers id).sentLast = false := h.sentLast_eq (by rw [hstage]; rfl)
    refine h.put hq ho rfl rfl ?_ ?_ (fun hl => by rw [hlast] at hl; cases hl) ?_
    · cases (s.link.callers id).mode <;> exact fun hp => by cases hp
    · cases (s.link.callers id).mode <;> rfl
    · refine ((h.stream id).submitPut hstage).same ?_ rfl
      show stageOf id _ = if (s.link.callers id).mode = .tcp then .awaiting else .running
      unfold stageOf
      cases (s.link.callers id).mode with
      | tcp => rfl
      | http => simp only [hlast, Bool.false_eq_true, if_false, reduceCtorEq]
  · rename_i m last hq
    obtain ⟨_, hs⟩ := Option.ite_none_right_eq_some.mp hs
    obtain ⟨o, ho, rfl⟩ := Option.map_eq_some_iff.mp hs
    have hstage : stageOf id (s.link.callers id) = .sending (wsEvents id m) last := by
      simp only [stageOf, hq, Stage.ofSending]
    refine h.put hq ho rfl rfl (fun hp => by cases hp) rfl (fun hl => ?_) ((h.stream id).partPut hstage)
    have hl : last = true := hl
    simp only [stageOf, hl, if_true, Stage.more]
  · rename_i m hq
    obtain ⟨o, ho, rfl⟩ := Option.map_eq_some_iff.mp hs
    have hstage : stageOf id (s.link.callers id) = .closing (wsEvents id m) := by
      simp only [stageOf, hq, Stage.ofSending]
    exact h.put hq ho rfl rfl (fun hp => by cases hp) rfl (fun _ => rfl) ((h.stream id).closePut hstage)
  · cases hs

theorem localSideInv_poll (h : LocalSideInv s) (hs : s.link.poll id = some link) :
    LocalSideInv { s with link } := by
  have key : (s.link.callers id).phase ≠ .idle → LocalSideInv { s with link := s.link.pollGuard id } := by
    intro hne
    have hpolled : LocalSideInv { s with
        link := s.link.setCaller id { s.link.callers id with polled := true } } :=
      h.rename rfl hne hne (fun _ hx => hx) rfl rfl rfl rfl
    simp only [LinkState.pollGuard]
    split
    · split
      · exact hpolled
      · exact h.closing _ hne
    · split
      · exact hpolled
      · exact h.gone hne
      · exact h.leave hne
  simp only [LinkState.poll] at hs
  split at hs
  · rename_i hc
    split at hs <;> cases hs
    exact key (by rw [hc]; exact fun hp => by cases hp)
  · rename_i hc
    split at hs <;> cases hs
    exact key (by rw [hc]; exact fun hp => by cases hp)
  · cases hs

theorem localSideInv_pend (h : LocalSideInv s) (hs : s.link.pend id = some link) :
    LocalSideInv { s with link } := by
  unfold LinkState.pend at hs
  split at hs <;> cases hs
  rename_i hc
  have hne : (s.link.callers id).phase ≠ .idle := by rw [hc]; exact fun hp => by cases hp
  exact h.rename rfl hne hne (fun _ hx => hx) rfl rfl rfl rfl

theorem localSideInv_opened (h : LocalSideInv s) (hs : s.link.opened id = some link) :
    LocalSideInv { s with link } := by
  unfold LinkState.opened at hs
  split at hs <;> cases hs
  · rename_i hc ha
    have hne : (s.link.callers id).phase ≠ .idle := by rw [hc]; exact fun hp => by cases hp
    have hstage : stageOf id (s.link.callers id) = .awaiting := by simp only [stageOf, hc]
    have hlast : (s.link.callers id).sentLast = false := h.sentLast_eq (by rw [hstage]; rfl)
    have hgood : (s.view id).answer = some true := by
      simp only [LocalSide.view, ha, Option.map_some]
      rfl
    refine h.quiet (.refl _ _) rfl rfl (fun _ _ => rfl) hne (fun hp => by cases hp)
      (fun _ hx => by cases hx) (fun hl => by rw [hlast] at hl; cases hl) ?_
    refine ((h.stream id).opened hstage hgood).same ?_ rfl
    simp only [stageOf, hlast, Bool.false_eq_true, if_false]
  · rename_i hc _
    exact h.leave (by rw [hc]; exact fun hp => by cases hp)

theorem localSideInv_openTimeout (h : LocalSideInv s) (hs : s.link.openTimeout id = some link) :
    LocalSideInv { s with link } := by
  unfold LinkState.openTimeout at hs
  split at hs <;> cases hs
  rename_i hc
  exact h.closing _ (by rw [hc.1]; exact fun hp => by cases hp)

theorem localSideInv_finish {reason : String} (h : LocalSideInv s)
    (hs : s.link.finish id reason = some link) : LocalSideInv { s with link } := by
  unfold LinkState.finish at hs
  split at hs <;> cases hs
  rename_i hc
  exact h.closing _ (by rw [hc.1]; exact fun hp => by cases hp)

theorem LocalSideInv.sendPart (h : LocalSideInv s) {m : WsMessage} {last : Bool} (bytes : Bytes)
    {sockets : StreamId → LocalSocket} (hs : s.link.sendPart id m last = some link)
    (hown : ∀ j, j ≠ id → wsEvents j m = []) (hcarries : ∀ x ∈ wsEvents id m, x.carries = true)
    (hm : (s.link.callers id).mode = .tcp → payload (wsEvents id m) = bytes ∧
      (.eof ∈ wsEvents id m → last = true) ∧ Ordered (wsEvents id m))
    (hsockets : sockets = Function.update s.sockets id
      { s.sockets id with read := (s.sockets id).read ++ bytes }) : LocalSideInv { s with link, sockets } := by
  simp only [LinkState.sendPart] at hs
  split at hs <;> cases hs
  rename_i hc
  obtain ⟨hrunning, _, hlast⟩ := hc
  have hstage : (s.view id).stage = .running := by
    simp only [LocalSide.view, stageOf, hrunning, hlast, Bool.false_eq_true, if_false]
  subst hsockets
  refine h.quiet (.refl _ _) rfl rfl (fun j hj => Function.update_of_ne hj _ _)
    (by rw [hrunning]; exact fun hp => by cases hp) (fun hp => by cases hp) (fun x hx => ?_)
    (fun hl => by rw [hlast] at hl; cases hl) ?_
  · cases hx
    exact hown
  · rw [Function.update_self]
    exact (h.stream id).partMade hstage hcarries hm

theorem LocalSideInv.lt (h : LocalSideInv s) (hne : (s.link.callers id).phase ≠ .idle) : id < 2 ^ 64 :=
  Nat.lt_trans (h.whole.begun id hne) h.whole.bound

omit [MessageCodec] in
theorem running_of_sendPart {m : WsMessage} {last : Bool} (hs : s.link.sendPart id m last = some link) :
    (s.link.callers id).phase ≠ .idle := by
  simp only [LinkState.sendPart] at hs
  split at hs
  · rename_i hc
    rw [hc.1]
    exact fun hp => by cases hp
  · cases hs

omit [MessageCodec] in
theorem carries_dataEvents {bytes : Bytes} : ∀ x ∈ dataEvents bytes, x.carries = true := by
  intro x hx
  obtain ⟨b, rfl⟩ := mem_dataEvents hx
  rfl

/-- Data: of a local socket, or of a request's body. -/
theorem LocalSideInv.part (h : LocalSideInv s) {bytes : Bytes} (read : Bytes)
    {sockets : StreamId → LocalSocket} (hs : s.link.part id bytes = some link)
    (hm : (s.link.callers id).mode = .tcp → read = bytes)
    (hsockets : sockets = Function.update s.sockets id
      { s.sockets id with read := (s.sockets id).read ++ read }) : LocalSideInv { s with link, sockets } := by
  have hframe : ∀ j, wsEvents j (.binary (encodeDataFrame id bytes)) =
      if id = j then dataEvents bytes else [] := fun j =>
    frameEvents_encode j bytes (h.lt (running_of_sendPart hs))
  refine h.sendPart read hs (fun j hj => ?_) ?_ (fun ht => ⟨?_, fun he => ?_, ?_⟩) hsockets
  · rw [hframe, if_neg hj.symm]
  · rw [hframe, if_pos rfl]
    exact carries_dataEvents
  · rw [hframe, if_pos rfl, payload_dataEvents, hm ht]
  · rw [hframe, if_pos rfl] at he
    obtain ⟨b, hb⟩ := mem_dataEvents he
    cases hb
  · rw [hframe, if_pos rfl]
    exact ordered_dataEvents bytes

theorem localSideInv_part {bytes : Bytes} (h : LocalSideInv s) (hmode : (s.link.callers id).mode = .http)
    (hs : s.link.part id bytes = some link) : LocalSideInv { s with link } :=
  h.part [] hs (fun hm => by rw [hmode] at hm; cases hm)
    (by rw [List.append_nil, Function.update_eq_self])

/-- The local end. -/
theorem localSideInv_last (h : LocalSideInv s) (hs : s.link.last id = some link) :
    LocalSideInv { s with link } := by
  have key : ∀ m : Message, s.link.sendPart id (.text (encodeMessage m)) true = some link →
      (∀ j, messageEvents j m = if id = j then [.eof] else []) ∨
        (s.link.callers id).mode = .http ∧ (∀ j, messageEvents j m = []) →
      LocalSideInv { s with link } := by
    intro m hs hm
    have hplain : s.sockets = Function.update s.sockets id
        { s.sockets id with read := (s.sockets id).read ++ [] } := by
      rw [List.append_nil, Function.update_eq_self]
    refine h.sendPart [] hs (fun j hj => ?_) (fun x hx => ?_) (fun ht => ?_) hplain
    · rw [wsEvents_text]
      rcases hm with hm | ⟨_, hm⟩
      · rw [hm, if_neg hj.symm]
      · exact hm j
    · rw [wsEvents_text] at hx
      rcases hm with hm | ⟨_, hm⟩
      · rw [hm, if_pos rfl, List.mem_singleton] at hx
        rw [hx]
        rfl
      · rw [hm] at hx
        cases hx
    · rcases hm with hm | ⟨hmode, _⟩
      · rw [wsEvents_text, hm, if_pos rfl]
        exact ⟨rfl, fun _ => rfl, List.pairwise_singleton _ _⟩
      · rw [hmode] at ht
        cases ht
  unfold LinkState.last at hs
  split at hs
  · exact key _ hs (.inl fun j => rfl)
  · rename_i hmode
    exact key _ hs (.inr ⟨hmode, fun j => rfl⟩)

theorem localSideInv_register {target : String} {config : TargetConfig} {request : HttpRequestHead}
    (h : LocalSideInv s) (hs : s.link.register id target config request = some link) :
    LocalSideInv { s with link } := by
  simp only [LinkState.register] at hs
  split at hs
  · rename_i hc
    have hne : (s.link.callers id).phase ≠ .idle := by rw [hc]; exact fun hp => by cases hp
    have hfresh : (s.view id).stage = .fresh := by simp only [LocalSide.view, stageOf, hc]
    have hentries := (h.stream id).table.fresh hfresh
    have hlast : (s.link.callers id).sentLast = false := h.sentLast_eq (by
      show (s.view id).stage.more = true
      rw [hfresh]
      rfl)
    have hown : ∀ (m : Message) (start : List StreamEvent),
        (∀ j, messageEvents j m = if id = j then start else []) →
        ∀ x ∈ (some (.submit (.text (encodeMessage m))) : Option Sending), ∀ j, j ≠ id →
          wsEvents j x.message = [] := by
      intro m start hm x hx j hj
      cases hx
      show wsEvents j (.text (encodeMessage m)) = []
      rw [wsEvents_text, hm, if_neg hj.symm]
    split at hs <;> rename_i hmode <;> cases hs
    · refine h.quiet ⟨rfl, ?_, ?_, fun _ _ => .rfl, fun _ _ => .rfl⟩ rfl rfl (fun _ _ => rfl) hne
        (fun hp => by cases hp) (hown _ [.start .tcp] fun j => rfl)
        (fun hl => by rw [hlast] at hl; cases hl) ?_
      · exact fun j hj => by simp only [Finset.mem_insert, hj, false_or]
      · exact fun j hj => by simp only [Finset.mem_insert, hj, false_or]
      · have hviewMode : (s.view id).mode = .tcp := hmode
        have hhttp : (s.view id).http = decide ((s.view id).mode = .http) := by
          rw [hentries.http, hviewMode]
          rfl
        have hinsert : ∀ map : Finset StreamId, decide (id ∈ insert id map) =
            decide ((s.view id).mode = .tcp) := fun map => by simp [hviewMode]
        refine ((h.stream id).register hfresh (hinsert _) (hinsert _) hhttp).same ?_ rfl
        simp only [stageOf, Stage.ofSending, wsEvents_text, messageEvents, if_true, hviewMode]
    · refine h.quiet ⟨rfl, fun _ _ => .rfl, fun _ _ => .rfl, ?_, ?_⟩ rfl rfl (fun _ _ => rfl) hne
        (fun hp => by cases hp) (hown _ [.start .http] fun j => rfl)
        (fun hl => by rw [hlast] at hl; cases hl) ?_
      · exact fun j hj => by simp only [Finset.mem_insert, hj, false_or]
      · exact fun j hj => by simp only [Finset.mem_insert, hj, false_or]
      · have hviewMode : (s.view id).mode = .http := hmode
        have hentry : (s.view id).entry = decide ((s.view id).mode = .tcp) := by
          rw [hentries.entry, hviewMode]
          rfl
        have hwaiter : (s.view id).waiter = decide ((s.view id).mode = .tcp) := by
          rw [hentries.waiter, hviewMode]
          rfl
        have hhttp : decide (id ∈ insert id s.link.connection.httpHeadWaiters ∨
            id ∈ insert id s.link.connection.httpBodyStreams) = decide ((s.view id).mode = .http) := by
          simp [hviewMode]
        refine ((h.stream id).register hfresh hentry hwaiter hhttp).same ?_ rfl
        simp only [stageOf, Stage.ofSending, wsEvents_text, messageEvents, if_true, hviewMode]
  · cases hs

theorem localSideInv_dropped (h : LocalSideInv s) (hs : s.link.dropped id = some link) :
    LocalSideInv { s with link } := by
  unfold LinkState.dropped at hs
  split at hs <;> cases hs
  rename_i hne
  exact h.gone hne

end Handlers

/-! ### The session's task -/

section Session
variable {link : LinkState}

/-- A step that changes no handler's place. -/
theorem LocalGlobal.session (h : LocalGlobal s) {t : LocalSide}
    (hids : t.link.connection.streamIds = s.link.connection.streamIds)
    (hphase : ∀ id, (t.link.callers id).phase = (s.link.callers id).phase)
    (hlast : ∀ id, (t.link.callers id).sentLast = (s.link.callers id).sentLast)
    (htidy : Tidy t.link.writer) (hunopened : t.link.phase.isOpen = false → t.link.writer = {})
    (hshut : t.link.phase = .draining ∨ t.link.phase = .offline → t.link.connection.closed = true)
    (hdelivering : ∀ d ∈ t.delivering, t.link.phase = .open ∧ (s.link.callers d.1).phase ≠ .idle) :
    LocalGlobal t where
  bound := hids ▸ h.bound
  begun id hne := by
    rw [hids]
    exact h.begun id (hphase id ▸ hne)
  own id x hx := h.own id x (hphase id ▸ hx)
  sentLast id hl := by
    have hstage : stageOf id (t.link.callers id) = stageOf id (s.link.callers id) := by
      simp only [stageOf, hphase, hlast]
    rw [hstage]
    exact h.sentLast id (hlast id ▸ hl)
  tidy := htidy
  unopened := hunopened
  shut := hshut
  delivering d hd := by
    rw [hphase]
    exact hdelivering d hd

theorem LocalGlobal.not_delivering (h : LocalGlobal s) (hp : s.link.phase ≠ .open) : s.delivering = none := by
  cases hd : s.delivering with
  | none => rfl
  | some d => exact absurd (h.delivering d hd).1 hp

/-- The session's future ends. -/
theorem LocalSideInv.lose (h : LocalSideInv s) : LocalSideInv s.lose := by
  refine ⟨h.whole.session rfl (fun _ => rfl) (fun _ => rfl) trivial (fun _ => rfl)
    (fun hp => by rcases hp with hp | hp <;> cases hp) (fun d hd => by cases hd), fun id => ?_⟩
  have hsuffix : eventsIn id s.link.outbound.items <:+ (s.view id).ahead := by
    show _ <:+ eventsIn id (heldBy s.link.writer ++ s.link.outbound.items)
    rw [eventsIn_append]
    exact List.suffix_append _ _
  have hview : s.lose.view id = { s.view id with
      isOpen := false, ahead := eventsIn id s.link.outbound.items, control := [], delivering := [] } := by
    simp only [LocalSide.view, LocalSide.lose, LinkState.endSession, LocalSide.ahead, heldBy, WriterPhase.batch,
      Option.toList_none, List.append_nil, List.nil_append, BoundedChannel.withdraw_items]
    rfl
  rw [hview]
  exact (h.stream id).lose hsuffix

theorem localSideInv_connect (h : LocalSideInv s) (hs : s.link.connect = some link) :
    LocalSideInv { s with link } := by
  unfold LinkState.connect at hs
  split at hs <;> cases hs
  rename_i hc
  have hclosed := h.whole.shut (.inr hc.1)
  have hnone := h.whole.not_delivering (by rw [hc.1]; exact fun hp => by cases hp)
  refine ⟨h.whole.session rfl (fun _ => rfl) (fun _ => rfl) h.whole.tidy (fun hp => by cases hp)
    (fun hp => by rcases hp with hp | hp <;> cases hp) (fun d hd => ?_), fun id => ?_⟩
  · have hd : d ∈ s.delivering := hd
    rw [hnone] at hd
    cases hd
  · have hopen : (s.view id).isOpen = false := by
      simp only [LocalSide.view, hc.1]
      rfl
    have hview : LocalSide.view id { s with link := { s.link with
        connection := { s.link.connection with closed := false }, phase := .open
        sessions := s.link.sessions + 1 } } =
        { s.view id with closed := false, isOpen := true, session := (s.view id).session + 1 } := by
      simp only [LocalSide.view, LocalSide.control, hc.1]
      rfl
    rw [hview]
    exact (h.stream id).connect hopen hclosed

theorem localSideInv_drain (h : LocalSideInv s) (hs : s.link.drain = some link) :
    LocalSideInv { s with link } := by
  unfold LinkState.drain at hs
  split at hs
  · rename_i hp
    obtain ⟨⟨m, o⟩, hr, rfl⟩ := Option.map_eq_some_iff.mp hs
    have hnone := h.whole.not_delivering (by rw [hp]; exact fun hp => by cases hp)
    refine ⟨h.whole.session rfl (fun _ => rfl) (fun _ => rfl) h.whole.tidy h.whole.unopened h.whole.shut
      h.whole.delivering, fun id => ?_⟩
    have hwriter : s.link.writer = {} := h.whole.unopened (by rw [hp]; rfl)
    have hsuffix : eventsIn id o.items <:+ (s.view id).ahead := by
      show _ <:+ eventsIn id (heldBy s.link.writer ++ s.link.outbound.items)
      rw [hwriter, (BoundedChannel.recv_eq_some hr).1, List.append_cons, eventsIn_append]
      exact List.suffix_append _ _
    have hview : LocalSide.view id { s with link := { s.link with outbound := o } } =
        { s.view id with isOpen := false, ahead := eventsIn id o.items, control := [], delivering := [] } := by
      simp only [LocalSide.view, LocalSide.control, LocalSide.ahead, hp, hnone, hwriter]
      rfl
    rw [hview]
    exact (h.stream id).lose hsuffix
  · cases hs

theorem localSideInv_drained (h : LocalSideInv s) (hs : s.link.drained = some link) :
    LocalSideInv { s with link } := by
  unfold LinkState.drained at hs
  split at hs <;> cases hs
  rename_i hp
  have hclosed := h.whole.shut (.inl hp.1)
  have hnone := h.whole.not_delivering (by rw [hp.1]; exact fun hp => by cases hp)
  refine ⟨h.whole.session rfl (fun _ => rfl) (fun _ => rfl) h.whole.tidy
    (fun _ => h.whole.unopened (by rw [hp.1]; rfl)) (fun _ => hclosed) (fun d hd => ?_), fun id => ?_⟩
  · have hd : d ∈ s.delivering := hd
    rw [hnone] at hd
    cases hd
  · have hview : LocalSide.view id { s with link := { s.link with phase := .offline } } = s.view id := by
      simp only [LocalSide.view, LocalSide.control, hp.1]
      rfl
    rw [hview]
    exact h.stream id

/-- Notices of failure to who waits. -/
structure Told (c : GatewayConnection) (notices : StreamId → Notices) : Prop where
  opened : ∀ id r, (notices id).opened = some r → id ∈ c.openWaiters ∧ LocalSide.isGood r = false
  head : ∀ id r, (notices id).head = some r → id ∈ c.httpHeadWaiters ∧ ∃ e, r = .error e

omit [MessageCodec] in
theorem told_nothing (c : GatewayConnection) : Told c Notices.nothing :=
  ⟨fun _ _ hr => (by cases hr), fun _ _ hr => (by cases hr)⟩

omit [MessageCodec] in
theorem told_closeNotices (reason : String) (c : GatewayConnection) : Told c (c.closeNotices reason) := by
  constructor
  · intro id r hr
    obtain ⟨hid, rfl⟩ := GatewayConnection.ifIn_eq_some.mp hr
    exact ⟨hid, rfl⟩
  · intro id r hr
    obtain ⟨hid, rfl⟩ := GatewayConnection.ifIn_eq_some.mp hr
    exact ⟨hid, _, rfl⟩

omit [MessageCodec] in
/-- The answer after a notice of failure. -/
theorem Told.answer {c : GatewayConnection} {notices : StreamId → Notices} (h : Told c notices)
    (id : StreamId) (answer : Option (Except GatewayError Unit)) :
    (answer.or (LinkState.answerOf (notices id))).map LocalSide.isGood = answer.map LocalSide.isGood ∨
      answer.map LocalSide.isGood = none ∧
        (answer.or (LinkState.answerOf (notices id))).map LocalSide.isGood = some false ∧
        (id ∈ c.openWaiters ∨ id ∈ c.httpHeadWaiters) := by
  cases answer with
  | some r => exact .inl rfl
  | none =>
    rw [Option.none_or, LinkState.answerOf]
    cases ho : (notices id).opened with
    | some r =>
      obtain ⟨hid, hbad⟩ := h.opened id r ho
      exact .inr ⟨rfl, by rw [Option.some_or, Option.map_some, hbad], .inl hid⟩
    | none =>
      cases hh : (notices id).head with
      | some r =>
        obtain ⟨hid, e, rfl⟩ := h.head id r hh
        exact .inr ⟨rfl, rfl, .inr hid⟩
      | none => exact .inl rfl

/-- The connection is closed by whoever; a closed one stays as it is. -/
theorem LocalSideInv.closed (h : LocalSideInv s) {cn : GatewayConnection} {o : Outbound}
    {notices : StreamId → Notices} {phase : LinkPhase} (hids : cn.streamIds = s.link.connection.streamIds)
    (ho : ∀ id, eventsIn id o.items = eventsIn id s.link.outbound.items)
    (hphase : phase = s.link.phase ∨ s.link.phase = .ended ∧ phase = .draining)
    (htold : Told s.link.connection notices)
    (hshut : phase = .draining ∨ phase = .offline → cn.closed = true)
    (hcn : (cn.closed = true ∧ cn.tcpStreams = ∅ ∧ cn.openWaiters = ∅ ∧ cn.httpHeadWaiters = ∅ ∧
        cn.httpBodyStreams = ∅) ∨
      cn.closed = s.link.connection.closed ∧ cn.tcpStreams = s.link.connection.tcpStreams ∧
        cn.openWaiters = s.link.connection.openWaiters ∧
        cn.httpHeadWaiters = s.link.connection.httpHeadWaiters ∧
        cn.httpBodyStreams = s.link.connection.httpBodyStreams ∧ notices = Notices.nothing) :
    LocalSideInv { s with
      link := { s.link with connection := cn, outbound := o, phase }.tell notices } := by
  have hisOpen : phase.isOpen = s.link.phase.isOpen := by
    rcases hphase with rfl | ⟨hold, rfl⟩
    · rfl
    · rw [hold]
      rfl
  refine ⟨h.whole.session hids (fun _ => rfl) (fun _ => rfl) h.whole.tidy
    (fun hp => h.whole.unopened (hisOpen ▸ hp)) hshut (fun d hd => ?_), fun id => ?_⟩
  · obtain ⟨hopen, hne⟩ := h.whole.delivering d hd
    rcases hphase with rfl | ⟨hold, rfl⟩
    · exact ⟨hopen, hne⟩
    · rw [hold] at hopen
      cases hopen
  · have hcontrol : ∀ link : LinkState, link.phase = phase →
        LocalSide.control { s with link } = s.control := by
      intro link hlink
      rcases hphase with rfl | ⟨hold, rfl⟩
      · simp only [LocalSide.control, hlink]
      · simp only [LocalSide.control, hlink, hold]
    have hview : LocalSide.view id { s with
        link := { s.link with connection := cn, outbound := o, phase }.tell notices } =
        { s.view id with
          closed := cn.closed, entry := id ∈ cn.tcpStreams, waiter := id ∈ cn.openWaiters
          http := id ∈ cn.httpHeadWaiters ∨ id ∈ cn.httpBodyStreams
          answer := ((s.link.callers id).answer.or (LinkState.answerOf (notices id))).map
            LocalSide.isGood } := by
      have hahead : eventsIn id (heldBy s.link.writer ++ o.items) = eventsIn id s.ahead := by
        rw [LocalSide.ahead, eventsIn_append, eventsIn_append, ho]
      simp only [LocalSide.view]
      rw [hcontrol _ rfl, ← hahead, ← hisOpen]
      rfl
    rw [hview]
    rcases hcn with ⟨hclosed, htcp, hopen, hhead, hbody⟩ | ⟨hold, htcp, hopen, hhead, hbody, rfl⟩
    · rw [hclosed, htcp, hopen, hhead, hbody]
      have hanswer := htold.answer id (s.link.callers id).answer
      refine (h.stream id).close (hanswer.imp_right fun ⟨hnone, hbad, hw⟩ => ⟨hnone, hbad, ?_⟩)
      exact hw.imp decide_eq_true fun hw => decide_eq_true (.inl hw)
    · rw [htcp, hopen, hhead, hbody, hold]
      have hsame : (s.link.callers id).answer.or (LinkState.answerOf (Notices.nothing id)) =
          (s.link.callers id).answer := Option.or_none
      rw [hsame]
      exact h.stream id

theorem localSideInv_close {reason : String} (h : LocalSideInv s) (hs : s.link.close reason = some link) :
    LocalSideInv { s with link } := by
  simp only [LinkState.close] at hs
  split at hs <;> cases hs
  rename_i hp
  unfold GatewayConnection.closeGatewayConnection
  split
  · rename_i hclosed
    exact h.closed rfl (fun _ => rfl) (.inr ⟨hp, rfl⟩) (told_nothing _) (fun _ => hclosed)
      (.inr ⟨rfl, rfl, rfl, rfl, rfl, rfl⟩)
  · exact h.closed rfl (fun _ => rfl) (.inr ⟨hp, rfl⟩) (told_closeNotices _ _) (fun _ => rfl)
      (.inl ⟨rfl, rfl, rfl, rfl, rfl⟩)

/-- The identity is blocked: the connection is stopped for good. -/
theorem LocalSideInv.stopIdentity (h : LocalSideInv s) (error : GatewayError) :
    LocalSideInv { s with
      link := { s.link with connection := (s.link.connection.stopIdentity error).1 }.tell
        (s.link.connection.stopIdentity error).2 } := by
  unfold GatewayConnection.stopIdentity
  split
  · exact h.closed rfl (fun _ => rfl) (.inl rfl) (told_nothing _) h.whole.shut
      (.inr ⟨rfl, rfl, rfl, rfl, rfl, rfl⟩)
  · unfold GatewayConnection.closeGatewayConnection
    split
    · exact h.closed rfl (fun _ => rfl) (.inl rfl) (told_nothing _) h.whole.shut
        (.inr ⟨rfl, rfl, rfl, rfl, rfl, rfl⟩)
    · have htold := told_closeNotices error.message
        { s.link.connection with identity := some error, stopped := true }
      exact h.closed rfl (fun _ => rfl) (.inl rfl) ⟨htold.opened, htold.head⟩ (fun _ => rfl)
        (.inl ⟨rfl, rfl, rfl, rfl, rfl⟩)

theorem localSideInv_stop {error : Option GatewayError} {reason : String} (h : LocalSideInv s) :
    LocalSideInv (s.stop error reason) := by
  cases error with
  | some error => exact h.stopIdentity error
  | none =>
    have hqueue : ∀ id, eventsIn id ((s.link.outbound.trySend (.close none)).getD s.link.outbound).items =
        eventsIn id s.link.outbound.items := by
      intro id
      cases ho : s.link.outbound.trySend (.close none) with
      | none => rfl
      | some o =>
        rw [Option.getD_some, (BoundedChannel.trySend_eq_some ho).2.1, eventsIn_append]
        exact List.append_nil _
    unfold LocalSide.stop
    dsimp only
    unfold GatewayConnection.closeGatewayConnection
    split
    · exact h.closed rfl hqueue (.inl rfl) (told_nothing _) h.whole.shut
        (.inr ⟨rfl, rfl, rfl, rfl, rfl, rfl⟩)
    · exact h.closed rfl hqueue (.inl rfl) (told_closeNotices _ _) (fun _ => rfl)
        (.inl ⟨rfl, rfl, rfl, rfl, rfl⟩)

/-- The session task sends a message of its own. -/
theorem LocalSideInv.sendControl (h : LocalSideInv s) (hp : s.link.phase = .open)
    (hidle : s.delivering = none) {m : Message}
    (hm : ∀ id, messageEvents id m = [] ∨ messageEvents id m = [.close] ∧ (s.view id).stage ≠ .fresh ∧
      ((s.view id).mode = .tcp → (s.view id).live = false)) :
    LocalSideInv { s with link := s.link.sendControl m } := by
  have hopen : ∀ id, (s.view id).isOpen = true := fun id => by
    simp only [LocalSide.view, hp]
    rfl
  have hcontrol : s.control = [] := by simp only [LocalSide.control, hp]
  have hdelivering : ∀ d ∈ s.delivering, False := fun d hd => by
    rw [hidle] at hd
    cases hd
  unfold LinkState.sendControl
  split
  · rename_i o ho
    refine ⟨h.whole.session rfl (fun _ => rfl) (fun _ => rfl) h.whole.tidy h.whole.unopened h.whole.shut
      h.whole.delivering, fun id => ?_⟩
    have hview : LocalSide.view id { s with link := { s.link with outbound := o } } =
        { s.view id with ahead := (s.view id).ahead ++ messageEvents id m, control := [] } := by
      simp only [LocalSide.view, LocalSide.ahead, LocalSide.control, hp,
        (BoundedChannel.trySend_eq_some ho).2.1, ← wsEvents_text, eventsIn_append, eventsIn_cons, eventsIn_nil,
        List.append_nil, List.append_assoc]
      rfl
    rw [hview]
    refine (h.stream id).controlPut (hopen id) (fun x hx => ?_) (fun x hx => by cases hx) (fun hf => ?_)
      fun ht hne => ?_
    · rcases hm id with hm | ⟨hm, _⟩
      · rw [hm] at hx
        cases hx
      · rw [hm] at hx
        exact List.mem_singleton.mp hx
    · exact (hm id).resolve_right fun hm => hm.2.1 hf
    · exact ((hm id).resolve_left hne).2.2 ht
  · refine ⟨h.whole.session rfl (fun _ => rfl) (fun _ => rfl) h.whole.tidy (fun ho => by cases ho)
      (fun hp => by rcases hp with hp | hp <;> cases hp) (fun d hd => (hdelivering d hd).elim), fun id => ?_⟩
    have hview : LocalSide.view id { s with link := { s.link with
          outbound := s.link.outbound.request .session
          phase := .sending (.text (encodeMessage m)) } } =
        { s.view id with control := messageEvents id m } := by
      simp only [LocalSide.view, LocalSide.ahead, LocalSide.control, hp, BoundedChannel.request_items,
        eventsIn_cons, eventsIn_nil, List.append_nil, wsEvents_text]
      rfl
    rw [hview]
    rcases hm id with hm | ⟨hm, hfresh, hlive⟩
    · have hnone : (s.view id).control = [] := by
        simp only [LocalSide.view, hcontrol, eventsIn_nil]
      rw [hm, ← hnone]
      exact h.stream id
    · rw [hm]
      exact (h.stream id).waitClose (hopen id) hfresh hlive

theorem localSideInv_sent (h : LocalSideInv s) (hs : s.link.sent = some link) :
    LocalSideInv { s with link } := by
  unfold LinkState.sent at hs
  split at hs
  · rename_i m hp
    obtain ⟨o, ho, rfl⟩ := Option.map_eq_some_iff.mp hs
    have hnone := h.whole.not_delivering (by rw [hp]; exact fun hp => by cases hp)
    refine ⟨h.whole.session rfl (fun _ => rfl) (fun _ => rfl) h.whole.tidy (fun ho => by cases ho)
      (fun hp => by rcases hp with hp | hp <;> cases hp) (fun d hd => ?_), fun id => ?_⟩
    · have hd : d ∈ s.delivering := hd
      rw [hnone] at hd
      cases hd
    · have hcontrol : (s.view id).control = wsEvents id m := by
        simp only [LocalSide.view, LocalSide.control, hp, eventsIn_cons, eventsIn_nil, List.append_nil]
      have hview : LocalSide.view id { s with link := { s.link with outbound := o, phase := .open } } =
          { s.view id with ahead := (s.view id).ahead ++ (s.view id).control, control := [] } := by
        rw [hcontrol]
        simp only [LocalSide.view, LocalSide.ahead, LocalSide.control, hp, (BoundedChannel.put_eq_some ho).2.1,
          eventsIn_append, eventsIn_cons, eventsIn_nil, List.append_nil, List.append_assoc]
        rfl
      rw [hview]
      have hv := h.stream id
      have hopen : (s.view id).isOpen = true := by
        simp only [LocalSide.view, hp]
        rfl
      refine hv.controlPut hopen hv.line.control (fun x hx => by cases hx)
        (fun hf => (hv.table.fresh hf).control) fun ht hne => ?_
      obtain ⟨x, hx⟩ := List.exists_mem_of_ne_nil _ hne
      exact hv.line.closes ht (List.mem_append_right _ (hv.line.control x hx ▸ hx))
  · cases hs

theorem written_feed (id : StreamId) (l : List WsMessage) (told : WsMessage → Bool) :
    (fun k => eventsIn id (((s.link.written ++
      l.map fun m => (⟨s.link.sessions, m, told m⟩ : Written)).filter (·.session = k)).map Written.message)) =
    Function.update (s.view id).written (s.view id).session
      ((s.view id).written (s.view id).session ++ eventsIn id l) := by
  funext k
  rw [List.filter_append, List.map_append, eventsIn_append]
  by_cases hk : k = s.link.sessions
  · subst hk
    have hall : ((l.map fun m => (⟨s.link.sessions, m, told m⟩ : Written)).filter
        (·.session = s.link.sessions)).map Written.message = l := by
      rw [List.filter_eq_self.mpr]
      · rw [List.map_map]
        exact List.map_id _
      · intro e he
        obtain ⟨m, _, rfl⟩ := List.mem_map.mp he
        simp
    rw [hall]
    exact (Function.update_self (β := fun _ => List StreamEvent) _ _ _).symm
  · have hnone : (l.map fun m => (⟨s.link.sessions, m, told m⟩ : Written)).filter (·.session = k) = [] := by
      rw [List.filter_eq_nil_iff]
      intro e he
      obtain ⟨m, _, rfl⟩ := List.mem_map.mp he
      simpa using fun h => hk h.symm
    rw [hnone, List.map_nil, eventsIn_nil, List.append_nil]
    have hold : (s.view id).written k = Function.update (s.view id).written (s.view id).session
        ((s.view id).written (s.view id).session ++ eventsIn id l) k := (Function.update_of_ne hk _ _).symm
    exact hold

theorem localSideInv_writer {op : WriterOp} (h : LocalSideInv s) (hs : s.link.writerStep op = some link) :
    LocalSideInv { s with link } := by
  unfold LinkState.writerStep at hs
  split at hs
  · rename_i hp
    obtain ⟨r, hr, rfl⟩ := Option.map_eq_some_iff.mp hs
    have htidy : Tidy r.writer := (writer_events 0 hr h.whole.tidy).1
    refine ⟨h.whole.session rfl (fun _ => rfl) (fun _ => rfl) htidy ?_ ?_ h.whole.delivering, fun id => ?_⟩
    · show s.link.phase.isOpen = false → _
      rw [hp]
      exact fun ho => by cases ho
    · show s.link.phase = .draining ∨ s.link.phase = .offline → _
      rw [hp]
      exact fun ho => by rcases ho with ho | ho <;> cases ho
    · have hevents := (writer_events id hr h.whole.tidy).2
      have hopen : (s.view id).isOpen = true := by
        simp only [LocalSide.view, hp]
        rfl
      have hfed := (h.stream id).feed hopen hevents
      have hview : LocalSide.view id { s with link := { s.link with
            writer := r.writer, outbound := r.outbound
            written := s.link.written ++ r.fed.toList.map fun message =>
              ⟨s.link.sessions, message, (streamOf message).any fun id => (s.link.callers id).told⟩ } } =
          { s.view id with
            written := Function.update (s.view id).written (s.view id).session
              ((s.view id).written (s.view id).session ++ eventsIn id r.fed.toList)
            ahead := eventsIn id (heldBy r.writer ++ r.outbound.items) } := by
        rw [← written_feed]
        rfl
      rw [hview]
      exact hfed
  · cases hs

end Session

end Local

end WsNet.Relay
