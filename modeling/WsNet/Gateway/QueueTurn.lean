import WsNet.Gateway.Backlog

/-! Who waits for the queue comes to its turn.

The writer gets back to the queue wherever it is (`drains`), and a task that holds a
permit uses it, or gives it up when its poll drops the work. So the line moves on, and
by induction on the line each of it gets a permit (`turn`), unless the writer ends and
closes the queue. -/
namespace WsNet.Gateway
open Crypto Data Transition

/-! ### The others -/

/-- A task works on; its target and the HTTP client take what they are given. -/
def TaskOp.worksOn : TaskOp → Bool
  | .poll | .sent | .refused _ | .recv | .wrote | .readBody => true
  | _ => false

/-- The writer and the stream tasks work on, and nobody else moves; the WebSocket takes
what it is given. -/
def BacklogOp.ofOthers : BacklogOp → Bool
  | .request (.task _) | .recv | .tryRecv | .session .writerEnds => true
  | .session (.task _ op) => op.worksOn
  | .writer .resume | .writer .yielded | .writer .full | .writer .feed | .writer .accepted
  | .writer .flushed | .writer .interrupt => true
  | _ => false

def ByOthers : BacklogOp → BacklogState → Prop := fun op _ => op.ofOthers = true

instance (op : BacklogOp) (s : BacklogState) : Decidable (ByOthers op s) :=
  inferInstanceAs (Decidable (_ = _))

/-- The others work on, and come from the one state to the other. -/
abbrev Helps [Aead] [MessageCodec] : BacklogState → BacklogState → Prop := backlog.StepsUnder ByOthers

/-! ### The writer -/

section Writer
variable [Aead] [MessageCodec] {s t : BacklogState}

theorem helps_writer (op : LoopOp) {w : WriterLoop} (hop : (BacklogOp.writer op).ofOthers = true)
    (hs : (writerLoop .gateway).step op s.writer = some w) : Helps s { s with writer := w } := by
  have halone : s.outbound.writerAlone op = true := by
    cases op <;> first | rfl | cases hop
  refine .single (i := .writer op) hop ?_
  show (if _ then _ else _) = _
  rw [if_pos halone, hs]
  rfl

/-- A batch is written, or the writer ends at it. -/
theorem written (batch : List WsMessage) (hphase : s.writer.phase = .writing batch) :
    ∃ w, Helps s { s with writer := w } ∧ w.pending = s.writer.pending ∧
      (w.phase = .idle ∨ w.phase = .ended) := by
  induction batch generalizing s with
  | nil =>
    have hfeed : s.writer.feed .gateway = some { s.writer with phase := .flushing } := by
      simp only [WriterLoop.feed, hphase]
    exact ⟨_, (helps_writer .feed rfl hfeed).trans (helps_writer .flushed rfl rfl), rfl, .inl rfl⟩
  | cons message batch ih =>
    cases hencrypt : Side.gateway.encrypt s.writer.cipher message with
    | error e =>
      have hfeed : s.writer.feed .gateway =
          some { s.writer with encrypted := s.writer.encrypted ++ [message], phase := .ended } := by
        simp only [WriterLoop.feed, hphase, hencrypt]
      exact ⟨_, helps_writer .feed rfl hfeed, rfl, .inr rfl⟩
    | ok sealed =>
      have hfeed : s.writer.feed .gateway = some { s.writer with
          encrypted := s.writer.encrypted ++ [message]
          cipher := sealed.2, phase := .feeding sealed.1 batch } := by
        simp only [WriterLoop.feed, hphase, hencrypt]
      have haccepted := (helps_writer .feed rfl hfeed).trans (helps_writer .accepted rfl rfl)
      obtain ⟨w, hw, hpending, hend⟩ := ih (s := { s with writer := { s.writer with
          encrypted := s.writer.encrypted ++ [message], cipher := sealed.2, phase := .writing batch } }) rfl
      exact ⟨w, haccepted.trans hw, hpending, hend⟩

/-- The writer takes the next message out of the queue, or ends. -/
def Drains (s : BacklogState) : Prop :=
  (∃ w, Helps s { s with writer := w } ∧ w.phase = .ended) ∨
    ∃ w m queue, s.queue.recv = some (m, queue) ∧ Helps s { s with queue, writer := w }

theorem Drains.after {w : WriterLoop} (hw : Helps s { s with writer := w })
    (h : Drains { s with writer := w }) : Drains s := by
  rcases h with ⟨v, hv, hended⟩ | ⟨v, m, queue, hrecv, hv⟩
  · exact .inl ⟨v, hw.trans hv, hended⟩
  · exact .inr ⟨v, m, queue, hrecv, hw.trans hv⟩

omit [Aead] [MessageCodec] in
theorem recv_of_items (hitems : s.queue.items ≠ []) : ∃ m queue, s.queue.recv = some (m, queue) := by
  obtain ⟨⟨m, queue⟩, hrecv⟩ := Option.ne_none_iff_exists'.mp
    (fun hnone => hitems (BoundedChannel.recv_eq_none.mp hnone))
  exact ⟨m, queue, hrecv⟩

/-- At the queue, with nothing put off. -/
theorem drains_waiting (hitems : s.queue.items ≠ []) (hphase : s.writer.phase = .idle)
    (hpending : s.writer.pending = none) : Drains s := by
  cases hcanceled : s.writer.canceled with
  | true =>
    have hinterrupt : s.writer.interrupt = some { s.writer with phase := .ended } := by
      simp only [WriterLoop.interrupt, hcanceled, hphase, hpending, if_true]
    exact .inl ⟨_, helps_writer .interrupt rfl hinterrupt, rfl⟩
  | false =>
    obtain ⟨m, queue, hrecv⟩ := recv_of_items hitems
    obtain ⟨w, hw⟩ : ∃ w, s.writer.recv (some m) = some w := by
      rw [WriterLoop.recv, if_pos ⟨hphase, hpending, hcanceled⟩]
      exact ⟨_, rfl⟩
    refine .inr ⟨w, m, queue, hrecv, .single (i := .recv) rfl ?_⟩
    show s.recv = _
    simp only [BacklogState.recv, hrecv, hw, Option.map_some]

/-- In the `try_recv` loop, with room in the batch. -/
theorem drains_gathering (hitems : s.queue.items ≠ []) {batch : List WsMessage} {batchBytes : Nat}
    (hphase : s.writer.phase = .gathering batch batchBytes)
    (hroom : batch.length < wsWriteBatchMaxMessages) : Drains s := by
  obtain ⟨m, queue, hrecv⟩ := recv_of_items hitems
  obtain ⟨w, hw⟩ : ∃ w, s.writer.tryRecv (some m) = some w := by
    simp only [WriterLoop.tryRecv, hphase, if_pos hroom]
    split <;> exact ⟨_, rfl⟩
  refine .inr ⟨w, m, queue, hrecv, .single (i := .tryRecv) rfl ?_⟩
  show s.tryRecv = _
  simp only [BacklogState.tryRecv, hrecv, hw, Option.map_some]

omit [Aead] [MessageCodec] in
/-- A batch is started, unless the lease is cancelled. -/
theorem start_phase (batch : List WsMessage) (w : WriterLoop) :
    (w.start batch).phase = .ended ∨ (w.start batch).phase = .writing batch := by
  unfold WriterLoop.start
  dsimp only
  split
  · exact .inl rfl
  · exact .inr rfl

/-- A message that was put off is the first of the next batch. -/
theorem drains_idle (hitems : s.queue.items ≠ []) (hphase : s.writer.phase = .idle) : Drains s := by
  have short : ∀ first : WsMessage, [first].length < wsWriteBatchMaxMessages := fun _ => by
    rw [List.length_singleton]
    decide
  cases hpending : s.writer.pending with
  | none => exact drains_waiting hitems hphase hpending
  | some first =>
    have hresume : s.writer.resume = some (WriterLoop.begin first { s.writer with pending := none }) := by
      rw [WriterLoop.resume, if_pos hphase, hpending]
      rfl
    refine .after (helps_writer .resume rfl hresume) ?_
    unfold WriterLoop.begin
    split
    · exact .after (helps_writer .yielded rfl rfl) (drains_gathering hitems rfl (short first))
    · rcases start_phase [first] { s.writer with pending := none } with hended | hwriting
      · exact .inl ⟨_, .refl _, hended⟩
      · obtain ⟨w, hw, hnone, hidle | hended⟩ := written (s := { s with
            writer := WriterLoop.start [first] { s.writer with pending := none } }) [first] hwriting
        · exact .after hw (drains_waiting hitems hidle hnone)
        · exact .inl ⟨w, hw, hended⟩

theorem drains_writing (hitems : s.queue.items ≠ []) {batch : List WsMessage}
    (hphase : s.writer.phase = .writing batch) : Drains s := by
  obtain ⟨w, hw, _, hidle | hended⟩ := written batch hphase
  · exact .after hw (drains_idle hitems hidle)
  · exact .inl ⟨w, hw, hended⟩

/-- **The writer gets to the queue**, wherever it is, or ends. -/
theorem drains (hitems : s.queue.items ≠ []) : Drains s := by
  cases hphase : s.writer.phase with
  | idle => exact drains_idle hitems hphase
  | ended => exact .inl ⟨s.writer, .refl _, hphase⟩
  | writing batch => exact drains_writing hitems hphase
  | yielding first =>
    have hyielded : s.writer.yielded =
        some { s.writer with phase := .gathering [first] (wsMessageSize first) } := by
      simp only [WriterLoop.yielded, hphase]
    refine .after (helps_writer .yielded rfl hyielded) (drains_gathering hitems rfl ?_)
    rw [List.length_singleton]
    decide
  | gathering batch batchBytes =>
    by_cases hroom : batch.length < wsWriteBatchMaxMessages
    · exact drains_gathering hitems hphase hroom
    · have hfull : s.writer.full = some (s.writer.start batch) := by
        simp only [WriterLoop.full, hphase, if_neg hroom]
      have hhelps := helps_writer .full rfl hfull
      rcases start_phase batch s.writer with hended | hwriting
      · exact .inl ⟨_, hhelps, hended⟩
      · exact .after hhelps (drains_writing hitems hwriting)
  | feeding frame batch =>
    have haccepted : s.writer.accepted = some { s.writer with phase := .writing batch } := by
      simp only [WriterLoop.accepted, hphase]
    exact .after (helps_writer .accepted rfl haccepted) (drains_writing hitems rfl)
  | flushing =>
    have hflushed : s.writer.flushed = some { s.writer with phase := .idle } := by
      rw [WriterLoop.flushed, if_pos hphase]
    exact .after (helps_writer .flushed rfl hflushed) (drains_idle hitems rfl)

end Writer

/-! ### A permit that is granted -/

/-- A phase of a TCP task that sends, with the access's direction open. -/
def TaskPhase.relays (phase : TaskPhase) : Prop :=
  phase = .opening ∨ ∃ out targetReadClosed, phase = .relaying out targetReadClosed false

namespace Task
variable (env : Surroundings) {t : Task}

/-- A poll gets past the guard, or the work is dropped. -/
theorem poll_eq (hguarded : t.phase.guarded = true) (hawake : t.awake = false) :
    ∃ t', t.poll env = some (t', .quiet) ∧ (t' = { t with awake := true } ∨ t'.phase.guarded = false) := by
  have left : t.leave.phase.guarded = false := by
    unfold leave
    dsimp only
    split <;> rfl
  unfold poll
  rw [if_pos ⟨hguarded, hawake⟩]
  split
  · exact ⟨_, rfl, .inr rfl⟩
  · exact ⟨_, rfl, .inl rfl⟩
  · exact ⟨_, rfl, .inr left⟩
  · split
    · exact ⟨_, rfl, .inr left⟩
    · exact ⟨_, rfl, .inl rfl⟩

/-- With the permit the message is sent. -/
theorem sent_eq {out : Outgoing} (hsends : t.sends = some out) (hwriter : env.writer = true)
    (hawake : t.phase.guarded = true → t.awake = true) : ∃ t', t.sent env = some (t', .send out) := by
  unfold sent working
  rw [if_pos hwriter]
  unfold sends at hsends
  split at hsends <;> rename_i hphase <;> cases hsends
  · simp only [hphase, hawake (by rw [hphase]; rfl), if_true]
    exact ⟨_, rfl⟩
  · simp only [hphase, hawake (by rw [hphase]; rfl), if_true]
    exact ⟨_, rfl⟩
  · simp only [hphase, hawake (by rw [hphase]; rfl), if_true]
    exact ⟨_, rfl⟩
  · simp only [hphase]
    exact ⟨_, rfl⟩
  · simp only [hphase, hawake (by rw [hphase]; rfl), if_true]
    exact ⟨_, rfl⟩
  · simp only [hphase]
    exact ⟨_, rfl⟩

/-- Then the task is at its `select!` again. -/
theorem relays_sent (hp : t.phase.relays) (hawake : t.awake = true)
    (hopen : env.writer = true) : ∃ out t', t.sends = some out ∧ t.sent env = some (t', .send out) ∧
      ∃ targetReadClosed, t'.phase = .forwarding targetReadClosed false := by
  have back : ∀ targetReadClosed, (t.resume targetReadClosed false).phase =
      .forwarding targetReadClosed false := fun targetReadClosed => by
    rw [resume, if_neg (fun hboth => Bool.false_ne_true hboth.2)]
  rcases hp with hp | ⟨out, targetReadClosed, hp⟩
  · refine ⟨.message (.openOk t.id), _, ?_, ?_, false, back false⟩
    · simp only [sends, hp]
    · simp only [sent, hopen, hp, working, hawake, if_true]
  · refine ⟨out, _, ?_, ?_, targetReadClosed, back targetReadClosed⟩
    · simp only [sends, hp]
    · simp only [sent, hopen, hp, working, hawake, if_true]

/-- With the queue closed the task fails, or goes on without the end of the target. -/
theorem relays_refused (error : String) (hp : t.phase.relays)
    (hawake : t.awake = true) (hclosed : env.writer = false) :
    ∃ t', t.refused error env = some (t', .quiet) ∧ (t'.phase.listening = false ∨
      ∃ targetReadClosed, t'.phase = .forwarding targetReadClosed false) := by
  rcases hp with hp | ⟨out, targetReadClosed, hp⟩
  · refine ⟨t.tcpFail error, ?_, .inl rfl⟩
    simp only [refused, hclosed, hp, working, hawake, if_true, Bool.false_eq_true, if_false]
  · cases out with
    | data id payload =>
      refine ⟨t.tcpFail error, ?_, .inl rfl⟩
      simp only [refused, hclosed, hp, working, hawake, if_true, Bool.false_eq_true, if_false]
    | message m =>
      refine ⟨t.resume targetReadClosed false, ?_, .inr ⟨targetReadClosed, ?_⟩⟩
      · simp only [refused, hclosed, hp, working, hawake, if_true, Bool.false_eq_true, if_false]
      · rw [resume, if_neg (fun hboth => Bool.false_ne_true hboth.2)]

end Task

/-- The session task is where it was, and so is who waits. -/
structure Aside (w : Sender) (s t : BacklogState) : Prop where
  todo : t.tunnel.todo = s.tunnel.todo
  point : t.tunnel.point = s.tunnel.point
  lease : t.tunnel.lease = s.tunnel.lease
  task : ∀ n, w = .task n → t.tunnel.tasks n = s.tunnel.tasks n

theorem Aside.refl (w : Sender) (s : BacklogState) : Aside w s s :=
  ⟨rfl, rfl, rfl, fun _ _ => rfl⟩

theorem Aside.trans {w : Sender} {s t u : BacklogState} (h : Aside w s t) (h' : Aside w t u) : Aside w s u :=
  ⟨h'.todo.trans h.todo, h'.point.trans h.point, h'.lease.trans h.lease,
    fun n hn => (h'.task n hn).trans (h.task n hn)⟩

section Turn
variable [Aead] [MessageCodec] {s : BacklogState} {w : Sender}

theorem helps_task (n : Nat) (op : TaskOp) {t' : Task} {effect : Effect} {queue : OutboundQueue}
    (hop : op.worksOn = true)
    (hs : (s.tunnel.tasks n).step (s.tunnel.surroundings n) op = some (t', effect))
    (hq : s.enqueue (.task n op) ((s.tunnel.setTask n t').apply n effect) = some queue) :
    Helps s { s with tunnel := (s.tunnel.setTask n t').apply n effect, queue } := by
  refine .single (i := .session (.task n op)) hop ?_
  have hstep : tunnel.step (.task n op) s.tunnel = some ((s.tunnel.setTask n t').apply n effect) := by
    show Option.map _ _ = _
    rw [hs]
    rfl
  have hallowed : s.outbound.allows (.task n op) = true := rfl
  show s.session (.task n op) = _
  rw [BacklogState.session, if_pos hallowed, hstep, Option.bind_some, hq]
  rfl

omit [Aead] [MessageCodec] in
/-- A task's step is none of the session's, nor of another task's. -/
theorem aside_task {n : Nat} {t' : Task} {effect : Effect} {queue : OutboundQueue} (hw : w ≠ .task n) :
    Aside w s { s with tunnel := (s.tunnel.setTask n t').apply n effect, queue } := by
  have hframe := TunnelState.apply_frame n effect (s.tunnel.setTask n t')
  refine ⟨hframe.todo, hframe.point, hframe.lease, fun m hm => ?_⟩
  show ((s.tunnel.setTask n t').apply n effect).tasks m = _
  rw [hframe.tasks, TunnelState.setTask_ne]
  rintro rfl
  exact hw hm

/-- The writer has ended, and the session gets to know it. -/
theorem helps_writerEnds (h : s.writer.phase = .ended) :
    Helps s { s with tunnel := { s.tunnel with writer := false } } := by
  refine .single (i := .session .writerEnds) rfl ?_
  have hallowed : s.outbound.allows .writerEnds = true := decide_eq_true h
  show s.session .writerEnds = _
  rw [BacklogState.session, if_pos hallowed]
  rfl

/-- The first in line has a permit, or the queue is closed. -/
def FirstServed (w v : Sender) (rest : List Sender) (s : BacklogState) : Prop :=
  ∃ t, Helps s t ∧ Aside w s t ∧ (t.tunnel.writer = false ∨
    t.tunnel.writer = true ∧ v ∈ t.queue.granted ∧ t.queue.waiting = rest)

theorem FirstServed.after {v : Sender} {rest : List Sender} {t : BacklogState} (hs : Helps s t)
    (ha : Aside w s t) (h : FirstServed w v rest t) : FirstServed w v rest s := by
  obtain ⟨u, hu, hau, hend⟩ := h
  exact ⟨u, hs.trans hu, ha.trans hau, hend⟩

/-- A message is there to be received. -/
theorem firstServed_of_items (hopen : s.tunnel.writer = true) {v : Sender} {rest : List Sender}
    (hwaiting : s.queue.waiting = v :: rest) (hitems : s.queue.items ≠ []) : FirstServed w v rest s := by
  rcases drains hitems with ⟨writer, hw, hended⟩ | ⟨writer, m, queue, hrecv, hw⟩
  · refine ⟨_, hw.trans (helps_writerEnds hended), ?_, .inl rfl⟩
    exact ⟨rfl, rfl, rfl, fun _ _ => rfl⟩
  · obtain ⟨_, hgranted, hrest⟩ := BoundedChannel.recv_eq_some hrecv
    rw [hwaiting] at hgranted hrest
    refine ⟨_, hw, ⟨rfl, rfl, rfl, fun _ _ => rfl⟩, .inr ⟨hopen, ?_, hrest⟩⟩
    show v ∈ queue.granted
    rw [hgranted]
    exact List.mem_append_right _ (List.mem_singleton_self v)

/-- A task in its poll puts its message. -/
theorem firstServed_of_awake (hopen : s.tunnel.writer = true) {v : Sender} {rest : List Sender}
    (hwaiting : s.queue.waiting = v :: rest) {n : Nat} (hw : w ≠ .task n)
    (hgranted : .task n ∈ s.queue.granted) (hsends : (s.tunnel.tasks n).sends.isSome = true)
    (hawake : (s.tunnel.tasks n).phase.guarded = true → (s.tunnel.tasks n).awake = true) :
    FirstServed w v rest s := by
  obtain ⟨out, hout⟩ := Option.isSome_iff_exists.mp hsends
  obtain ⟨t', hsent⟩ := Task.sent_eq (s.tunnel.surroundings n) hout hopen hawake
  obtain ⟨queue, hput⟩ := BoundedChannel.put_isSome (a := out.wsMessage) hgranted
  have hq : s.enqueue (.task n .sent) ((s.tunnel.setTask n t').apply n (.send out)) = some queue := by
    simp only [BacklogState.enqueue, TunnelOp.putter, TunnelState.puts, hout]
    exact hput
  obtain ⟨_, hitems, _, hwait⟩ := BoundedChannel.put_eq_some hput
  refine .after (helps_task n .sent rfl hsent hq) (aside_task hw) ?_
  refine firstServed_of_items (s := { s with
    tunnel := (s.tunnel.setTask n t').apply n (.send out), queue }) hopen (hwait.trans hwaiting) ?_
  show queue.items ≠ []
  rw [hitems]
  exact List.append_ne_nil_of_right_ne_nil _ (List.cons_ne_nil _ _)

/-- A permit that is granted is used, or given up. -/
theorem firstServed_of_granted (hopen : s.tunnel.writer = true) {v : Sender} {rest : List Sender}
    (hwaiting : s.queue.waiting = v :: rest) {n : Nat} (hw : w ≠ .task n)
    (hgranted : .task n ∈ s.queue.granted) (hsends : (s.tunnel.tasks n).sends.isSome = true) :
    FirstServed w v rest s := by
  by_cases hpoll : (s.tunnel.tasks n).phase.guarded = true ∧ (s.tunnel.tasks n).awake = false
  · obtain ⟨t', ht, hcase⟩ := Task.poll_eq (s.tunnel.surroundings n) hpoll.1 hpoll.2
    rcases hcase with rfl | hdropped
    · have hq : s.enqueue (.task n .poll)
          ((s.tunnel.setTask n { s.tunnel.tasks n with awake := true }).apply n .quiet) = some s.queue := by
        simp only [BacklogState.enqueue, TunnelOp.putter, TunnelOp.dropper, TunnelState.apply,
          TunnelState.setTask_self, if_true]
      refine .after (helps_task n .poll rfl ht hq) (aside_task hw) ?_
      refine firstServed_of_awake (s := { s with
        tunnel := s.tunnel.setTask n { s.tunnel.tasks n with awake := true } }) hopen hwaiting hw hgranted
        ?_ fun _ => ?_
      · show ((s.tunnel.setTask n _).tasks n).sends.isSome = true
        rw [TunnelState.setTask_self]
        exact hsends
      · show ((s.tunnel.setTask n _).tasks n).awake = true
        rw [TunnelState.setTask_self]
    · have hphase : t'.phase ≠ (s.tunnel.tasks n).phase := by
        intro heq
        rw [heq, hpoll.1] at hdropped
        cases hdropped
      have hq : s.enqueue (.task n .poll) ((s.tunnel.setTask n t').apply n .quiet) =
          some (s.queue.withdraw (.task n)) := by
        simp only [BacklogState.enqueue, TunnelOp.putter, TunnelOp.dropper, TunnelState.apply,
          TunnelState.setTask_self, if_neg hphase]
      obtain ⟨hgr, hwait⟩ := BoundedChannel.withdraw_of_granted hgranted
      rw [hwaiting] at hgr hwait
      refine ⟨_, helps_task n .poll rfl ht hq, aside_task hw, .inr ⟨hopen, ?_, hwait⟩⟩
      show v ∈ (s.queue.withdraw (.task n)).granted
      rw [hgr]
      exact List.mem_append_right _ (List.mem_singleton_self v)
  · refine firstServed_of_awake hopen hwaiting hw hgranted hsends fun hguarded => ?_
    by_contra hawake
    exact hpoll ⟨hguarded, by simpa using hawake⟩

omit [Aead] [MessageCodec] in
/-- Where all permits are granted, most of them are the tasks'. -/
theorem granted_task (hi : QueueInv s) (hfull : s.queue.granted.length = outboundCapacity) :
    ∃ n, .task n ∈ s.queue.granted := by
  by_contra hnone
  have hsession : ∀ g ∈ s.queue.granted, g ∈ [Sender.session] := by
    intro g hg
    cases g with
    | session => exact List.mem_singleton_self _
    | task n => exact absurd ⟨n, hg⟩ hnone
  have hnodup := (List.nodup_append.mp hi.nodup).1
  have hlength := (List.subperm_of_subset hnodup hsession).length_le
  rw [hfull] at hlength
  exact absurd hlength (by decide)

/-- **The line moves on**: the first in line gets a permit. -/
theorem firstServed (hr : backlog.Reachable s) (hopen : s.tunnel.writer = true) {v : Sender}
    {rest : List Sender} (hwaiting : s.queue.waiting = v :: rest) (hw : w ∈ s.queue.waiting) :
    FirstServed w v rest s := by
  have hi := queueInv_reachable hr
  by_cases hitems : s.queue.items = []
  · have hfull := s.queue.taken (by rw [hwaiting]; nofun)
    rw [hitems, List.length_nil, Nat.zero_add] at hfull
    obtain ⟨n, hg⟩ := granted_task hi hfull
    have hne : w ≠ .task n := by
      rintro rfl
      exact (List.nodup_append.mp hi.nodup).2.2 _ hg _ hw rfl
    exact firstServed_of_granted hopen hwaiting hne hg (hi.task n (BoundedChannel.mem_senders.mpr (.inl hg)))
  · exact firstServed_of_items hopen hwaiting hitems

/-- **Who waits for the queue comes to its turn**, or the queue is closed: the writer
and the stream tasks bring it there, and neither the session task nor who waits moves. -/
theorem turn (hr : backlog.Reachable s) (hopen : s.tunnel.writer = true) (hw : w ∈ s.queue.waiting) :
    ∃ t, Helps s t ∧ Aside w s t ∧
      (t.tunnel.writer = false ∨ t.tunnel.writer = true ∧ w ∈ t.queue.granted) := by
  -- by induction on the line, of which the first leaves
  obtain ⟨line, hline⟩ : ∃ line, s.queue.waiting = line := ⟨_, rfl⟩
  induction line generalizing s with
  | nil =>
    rw [hline] at hw
    cases hw
  | cons v rest ih =>
    obtain ⟨t, ht, ha, hend⟩ := firstServed hr hopen hline hw
    rcases hend with hclosed | ⟨hopen', hv, hrest⟩
    · exact ⟨t, ht, ha, .inl hclosed⟩
    · rw [hline] at hw
      rcases List.mem_cons.mp hw with rfl | hw
      · exact ⟨t, ht, ha, .inr ⟨hopen', hv⟩⟩
      · obtain ⟨u, hu, hau, hend⟩ := ih (hr.steps (ht.mono fun _ _ _ => trivial)) hopen' (hrest ▸ hw) hrest
        exact ⟨u, ht.trans hu, ha.trans hau, hend⟩

end Turn

end WsNet.Gateway
