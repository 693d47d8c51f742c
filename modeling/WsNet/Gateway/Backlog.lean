import WsNet.Gateway.DeliveryInvariant
import WsNet.Gateway.OversizedResponse

/-! The queue between the session's tasks and the writer.

The session task and the stream tasks send into one bounded queue, which the writer
empties. A `send` asks for a permit at its first poll and waits in line for it; a
`send` that is dropped, with a poll's guard or an interrupted handling, leaves the line.

This puts the queue's bound and its waits between the parties of `outbound`, which has
the same runs without them (`outbound_of_backlog`). Who is in line is at a `send`
(`queueInv_reachable`). -/
namespace WsNet.Gateway
open Crypto Data Transition

def outboundCapacity : Nat := 1024

/-- Who sends into the queue. -/
inductive Sender where
  | session
  | task (n : Nat)
  deriving DecidableEq

abbrev OutboundQueue := BoundedChannel outboundCapacity WsMessage Sender

structure BacklogState where
  tunnel : TunnelState := {}
  queue : OutboundQueue := .empty
  writer : WriterLoop

inductive BacklogOp where
  /-- The first poll of a `send`. -/
  | request (w : Sender)
  | session (op : TunnelOp)
  /-- The writer waits for the queue. -/
  | recv
  /-- The writer looks into the queue, for more to write. -/
  | tryRecv
  /-- Another step of the writer. -/
  | writer (op : LoopOp)

/-- The session task sends. -/
def Point.sends : Point → Bool
  | .sending _ _ | .pinging => true
  | _ => false

/-- The session task is in `lease.run`. -/
def Point.leased : Point → Bool
  | .authorizing _ | .sending _ _ | .delivering _ _ _ => true
  | _ => false

section Model
variable [MessageCodec]

/-- Whose message goes into the queue. -/
def TunnelOp.putter : TunnelOp → Option Sender
  | .replied => some .session
  | .task n .sent => some (.task n)
  | _ => none

/-- Whose `send` fails or is dropped. -/
def TunnelOp.dropper (op : TunnelOp) (s t : TunnelState) : Option Sender :=
  match op with
  | .notReplied | .interrupt | .finish => some .session
  | .task n (.refused _) => some (.task n)
  | .task n .poll => if (t.tasks n).phase = (s.tasks n).phase then none else some (.task n)
  | _ => none

/-- Who is not at its `send` any more. -/
def TunnelOp.leaver (op : TunnelOp) (s t : TunnelState) : Option Sender := op.putter <|> op.dropper s t

namespace BacklogState

/-- Without the waits. -/
def outbound (s : BacklogState) : OutboundState := ⟨s.tunnel, s.queue.items, s.writer⟩

/-- The sender polls its `send`. -/
def asks (w : Sender) (s : BacklogState) : Bool :=
  match w with
  | .session =>
    s.tunnel.todo = [] ∧ s.tunnel.point.sends = true ∧
      (s.tunnel.point.leased = true → s.tunnel.lease = none)
  | .task n =>
    (s.tunnel.tasks n).sends.isSome = true ∧
      ((s.tunnel.tasks n).phase.guarded = true → (s.tunnel.tasks n).awake = true)

def request (w : Sender) (s : BacklogState) : Option BacklogState :=
  if s.tunnel.writer = true ∧ s.asks w = true ∧ w ∉ s.queue.senders then
    some { s with queue := s.queue.request w }
  else none

/-- The queue after a step of the session or of a task. -/
def enqueue (op : TunnelOp) (t : TunnelState) (s : BacklogState) : Option OutboundQueue :=
  match op.putter, s.tunnel.puts op with
  | some w, m :: _ => s.queue.put w m
  | _, _ =>
    some (match op.dropper s.tunnel t with
      | some w => s.queue.withdraw w
      | none => s.queue)

def session (op : TunnelOp) (s : BacklogState) : Option BacklogState :=
  if s.outbound.allows op then
    (Gateway.tunnel.step op s.tunnel).bind fun tunnel =>
      (s.enqueue op tunnel).map fun queue => { tunnel, queue, writer := s.outbound.writerAfter op }
  else none

def recv (s : BacklogState) : Option BacklogState :=
  match s.queue.recv with
  | some (m, queue) => (s.writer.recv (some m)).map fun writer => { s with queue, writer }
  | none => if s.tunnel.point = .ended then (s.writer.recv none).map fun writer => { s with writer } else none

def tryRecv (s : BacklogState) : Option BacklogState :=
  match s.queue.recv with
  | some (m, queue) => (s.writer.tryRecv (some m)).map fun writer => { s with queue, writer }
  | none => (s.writer.tryRecv none).map fun writer => { s with writer }

end BacklogState

def backlog [Aead] : Machine BacklogState BacklogOp where
  Initial := fun s => ∃ cipher, s = { writer := { cipher } }
  step
    | .request w, s => s.request w
    | .session op, s => s.session op
    | .recv, s => s.recv
    | .tryRecv, s => s.tryRecv
    | .writer op, s =>
      if s.outbound.writerAlone op then
        ((writerLoop .gateway).step op s.writer).map fun writer => { s with writer }
      else none

end Model

/-! ### What a step does -/

section Moves
variable [Aead] [MessageCodec] {s t : BacklogState}

inductive BacklogMove (s : BacklogState) : BacklogOp → BacklogState → Prop
  | request (w : Sender) (isOpen : s.tunnel.writer = true) (asks : s.asks w = true)
      (fresh : w ∉ s.queue.senders) : BacklogMove s (.request w) { s with queue := s.queue.request w }
  | session (op : TunnelOp) (u : TunnelState) (queue : OutboundQueue)
      (allowed : s.outbound.allows op = true) (step : tunnel.step op s.tunnel = some u)
      (enqueued : s.enqueue op u = some queue) :
      BacklogMove s (.session op) { tunnel := u, queue, writer := s.outbound.writerAfter op }
  | received {op : BacklogOp} (m : WsMessage) (queue : OutboundQueue) (writer : WriterLoop)
      (recv : s.queue.recv = some (m, queue)) : BacklogMove s op { s with queue, writer }
  | writer {op : BacklogOp} (writer : WriterLoop) : BacklogMove s op { s with writer }

theorem backlog_move {op : BacklogOp} (hs : backlog.step op s = some t) : BacklogMove s op t := by
  cases op with
  | request w =>
    obtain ⟨⟨hopen, hasks, hfresh⟩, hs⟩ := Option.ite_none_right_eq_some.mp hs
    cases hs
    exact .request w hopen hasks hfresh
  | session op =>
    obtain ⟨hallowed, hs⟩ := Option.ite_none_right_eq_some.mp hs
    obtain ⟨u, hstep, hs⟩ := Option.bind_eq_some_iff.mp hs
    obtain ⟨queue, henqueued, rfl⟩ := Option.map_eq_some_iff.mp hs
    exact .session op u queue hallowed hstep henqueued
  | recv =>
    change s.recv = some t at hs
    unfold BacklogState.recv at hs
    split at hs
    · rename_i m queue hrecv
      obtain ⟨writer, _, rfl⟩ := Option.map_eq_some_iff.mp hs
      exact .received m queue writer hrecv
    · obtain ⟨_, hs⟩ := Option.ite_none_right_eq_some.mp hs
      obtain ⟨writer, _, rfl⟩ := Option.map_eq_some_iff.mp hs
      exact .writer writer
  | tryRecv =>
    change s.tryRecv = some t at hs
    unfold BacklogState.tryRecv at hs
    split at hs
    · rename_i m queue hrecv
      obtain ⟨writer, _, rfl⟩ := Option.map_eq_some_iff.mp hs
      exact .received m queue writer hrecv
    · obtain ⟨writer, _, rfl⟩ := Option.map_eq_some_iff.mp hs
      exact .writer writer
  | writer op =>
    obtain ⟨_, hs⟩ := Option.ite_none_right_eq_some.mp hs
    obtain ⟨writer, _, rfl⟩ := Option.map_eq_some_iff.mp hs
    exact .writer writer

omit [Aead] in
/-- A step puts a message only under its sender's permit. -/
theorem puts_of_putter {op : TunnelOp} (u : TunnelState) (h : op.putter = none) : u.puts op = [] := by
  unfold TunnelState.puts
  split
  · cases h
  · cases h
  · cases h
  · rfl

omit [Aead] in
theorem puts_length (op : TunnelOp) (u : TunnelState) : (u.puts op).length ≤ 1 := by
  unfold TunnelState.puts
  split
  · rename_i n
    rw [List.length_map]
    cases (u.tasks n).sends <;> simp
  · exact Nat.le_refl _
  · exact Nat.le_refl _
  · exact Nat.zero_le _

omit [Aead] in
/-- What the queue gets. -/
theorem items_enqueue {op : TunnelOp} {u : TunnelState} {queue : OutboundQueue}
    (h : s.enqueue op u = some queue) : queue.items = s.queue.items ++ s.tunnel.puts op := by
  have hlength := puts_length op s.tunnel
  unfold BacklogState.enqueue at h
  split at h
  · rename_i w m rest _ hputs
    rw [hputs, List.length_cons] at hlength
    rw [(BoundedChannel.put_eq_some h).2.1, hputs, List.length_eq_zero_iff.mp (by omega : rest.length = 0)]
  · rename_i hnone
    have hputs : s.tunnel.puts op = [] := by
      cases hputter : op.putter with
      | none => exact puts_of_putter _ hputter
      | some w =>
        cases hputs : s.tunnel.puts op with
        | nil => rfl
        | cons m rest => exact absurd hputs (hnone w m rest hputter)
    rw [hputs, List.append_nil, ← Option.some.inj h]
    split
    · exact BoundedChannel.withdraw_items _ _
    · rfl

/-- A step is one of the parties without the waits, or only a wait. -/
theorem outbound_step {op : BacklogOp} (hs : backlog.step op s = some t) :
    outbound.Steps s.outbound t.outbound := by
  have head : ∀ {m queue}, s.queue.recv = some (m, queue) → s.outbound.queue = m :: queue.items := fun h =>
    (BoundedChannel.recv_eq_some h).1
  have empty : s.queue.recv = none → s.outbound.queue = [] := BoundedChannel.recv_eq_none.mp
  cases op with
  | request w =>
    obtain ⟨_, hs⟩ := Option.ite_none_right_eq_some.mp hs
    cases hs
    have hsame : BacklogState.outbound { s with queue := s.queue.request w } = s.outbound := by
      simp only [BacklogState.outbound, BoundedChannel.request_items]
    rw [hsame]
    exact .refl _
  | session op =>
    obtain ⟨hallowed, hs⟩ := Option.ite_none_right_eq_some.mp hs
    obtain ⟨u, hstep, hs⟩ := Option.bind_eq_some_iff.mp hs
    obtain ⟨queue, henqueued, rfl⟩ := Option.map_eq_some_iff.mp hs
    have hstep : outbound.step (.session op) s.outbound =
        some ⟨u, s.queue.items ++ s.tunnel.puts op, s.outbound.writerAfter op⟩ := by
      show s.outbound.session op = _
      rw [OutboundState.session, if_pos hallowed]
      exact congrArg (Option.map _) hstep
    rw [← items_enqueue henqueued] at hstep
    exact .single trivial hstep
  | recv =>
    change s.recv = some t at hs
    unfold BacklogState.recv at hs
    have hstep : outbound.step .recv s.outbound = some t.outbound := by
      show s.outbound.recv = _
      unfold OutboundState.recv
      split at hs
      · rename_i m queue hrecv
        obtain ⟨writer, hw, rfl⟩ := Option.map_eq_some_iff.mp hs
        simp only [head hrecv]
        exact Option.map_eq_some_iff.mpr ⟨writer, hw, rfl⟩
      · rename_i hrecv
        obtain ⟨hended, hs⟩ := Option.ite_none_right_eq_some.mp hs
        obtain ⟨writer, hw, rfl⟩ := Option.map_eq_some_iff.mp hs
        simp only [empty hrecv]
        refine (if_pos hended).trans (Option.map_eq_some_iff.mpr ⟨writer, hw, ?_⟩)
        simp only [BacklogState.outbound, BoundedChannel.recv_eq_none.mp hrecv]
    exact .single trivial hstep
  | tryRecv =>
    change s.tryRecv = some t at hs
    unfold BacklogState.tryRecv at hs
    have hstep : outbound.step .tryRecv s.outbound = some t.outbound := by
      show s.outbound.tryRecv = _
      unfold OutboundState.tryRecv
      split at hs
      · rename_i m queue hrecv
        obtain ⟨writer, hw, rfl⟩ := Option.map_eq_some_iff.mp hs
        rw [head hrecv]
        exact Option.map_eq_some_iff.mpr ⟨writer, hw, rfl⟩
      · rename_i hrecv
        obtain ⟨writer, hw, rfl⟩ := Option.map_eq_some_iff.mp hs
        rw [empty hrecv]
        refine Option.map_eq_some_iff.mpr ⟨writer, hw, ?_⟩
        simp only [BacklogState.outbound, BoundedChannel.recv_eq_none.mp hrecv, List.tail_nil]
    exact .single trivial hstep
  | writer op =>
    obtain ⟨halone, hs⟩ := Option.ite_none_right_eq_some.mp hs
    obtain ⟨writer, hw, rfl⟩ := Option.map_eq_some_iff.mp hs
    have hstep : outbound.step (.writer op) s.outbound = some { s.outbound with writer } := by
      show (if _ then _ else _) = _
      rw [if_pos halone]
      exact congrArg (Option.map _) hw
    exact .single trivial hstep

/-- **The waits add nothing**: what is reached with them is reached without. -/
theorem outbound_of_backlog (h : backlog.Reachable s) : outbound.Reachable s.outbound := by
  refine h.simulation BacklogState.outbound ?_ fun _ _ _ _ _ hs => outbound_step hs
  rintro _ ⟨cipher, rfl⟩
  exact ⟨cipher, rfl⟩

theorem tunnel_of_backlog (h : backlog.Reachable s) : tunnel.Reachable s.tunnel := by
  refine h.simulation BacklogState.tunnel ?_ fun op s t _ _ hs => ?_
  · rintro _ ⟨cipher, rfl⟩
    rfl
  · cases backlog_move hs with
    | session op u queue _ hstep => exact .single trivial hstep
    | request | received | writer => exact .refl _

end Moves

/-! ### Who sends -/

/-- A step that sends nothing leaves the task at its `send`, or a poll drops the work. -/
theorem Task.sends_step {env : Surroundings} {op : TaskOp} {t t' : Task} {effect : Effect}
    (h : t.step env op = some (t', effect)) (hsends : t.sends.isSome = true) (hsent : op ≠ .sent)
    (hrefused : ∀ e, op ≠ .refused e) : t'.phase = t.phase ∨ op = .poll := by
  have absurd : ∀ {phase : TaskPhase} {p : Prop}, t.phase = phase →
      ({ t with phase } : Task).sends.isSome = false → p := by
    intro phase p hphase hno
    rw [← hphase] at hno
    rw [hno] at hsends
    cases hsends
  cases op with
  | poll => exact .inr rfl
  | sent => exact (hsent rfl).elim
  | refused e => exact (hrefused e rfl).elim
  | suspend =>
    simp only [step, suspend] at h
    split at h
    · cases h
    · split at h <;> cases h
      exact .inl rfl
  | connected | connectFails e =>
    simp only [step, connected, connectFails] at h
    split at h <;> rename_i hphase
    · exact absurd hphase rfl
    · cases h
  | observe | readTarget payload | targetEof | targetFails e | recv =>
    simp only [step, observe, readTarget, targetEof, targetFails, recv] at h
    split at h <;> rename_i hphase
    · exact absurd hphase rfl
    · cases h
  | wrote | writeFails e =>
    simp only [step, wrote, writeFails] at h
    split at h <;> rename_i hphase
    · exact absurd hphase rfl
    · exact absurd hphase rfl
    · cases h
  | respond out | requestEnds result =>
    simp only [step, respond, requestEnds] at h
    split at h <;> rename_i hphase
    · exact absurd hphase rfl
    · cases h
  | wind =>
    simp only [step, wind] at h
    split at h <;> rename_i hphase
    · exact absurd hphase rfl
    · exact absurd hphase rfl
    · exact absurd hphase rfl
    · cases h
  | readBody =>
    simp only [step, readBody] at h
    split at h
    · split at h
      · cases h
        exact .inl rfl
      · split at h <;> cases h
        exact .inl rfl
    · cases h
  | dropBody =>
    simp only [step, dropBody] at h
    split at h <;> cases h
    exact .inl rfl

theorem Task.sends_of_phase {t t' : Task} (hid : t'.id = t.id) (hphase : t'.phase = t.phase) :
    t'.sends = t.sends := by
  simp only [Task.sends, hphase, hid]

theorem SameWaits.sends {t t' : Task} (h : SameWaits t t') : t'.sends = t.sends :=
  Task.sends_of_phase h.id h.phase

theorem Task.Alike.sends {t t' : Task} (h : t.Alike t') : t'.sends = t.sends := by
  obtain ⟨channel, body, rfl⟩ := h
  rfl

section Session
variable {s t : TunnelState}

theorem unspawned_sends {t : Task} (h : t.phase = .unspawned) : t.sends = none := by
  rw [Task.sends, h]

/-- A step of the session leaves the tasks at their `send`s. -/
theorem sends_session {op : TunnelOp} (hc : CancelInv s) (hi : DeliveryInv s)
    (hs : tunnel.step op s = some t) (hop : ∀ n o, op ≠ .task n o) {n : Nat}
    (hsends : (s.tasks n).sends.isSome = true) : (t.tasks n).sends.isSome = true := by
  have spawned : (s.tasks n).phase ≠ .unspawned := fun h => by
    rw [unspawned_sends h] at hsends
    cases hsends
  cases TunnelState.move_step hs with
  | calm hq | sweep hq =>
    rw [(hq.task n).sends]
    exact hsends
  | create _ _ _ id _ kind =>
    have hne : n ≠ s.next := by
      rintro rfl
      exact spawned (hi.fresh _ (Nat.le_refl _))
    show ((s.setTask s.next _).tasks n).sends.isSome = true
    rw [TunnelState.setTask_ne hne]
    exact hsends
  | store | register => exact hsends
  | spawn _ m hpoint =>
    have hne : n ≠ m := by
      rintro rfl
      exact spawned (hc.pending n (by rw [hpoint]; rfl)).2
    show ((s.setTask m _).tasks n).sends.isSome = true
    rw [TunnelState.setTask_ne hne]
    exact hsends
  | exec x rest =>
    rw [((keepsWaits_run x { s with todo := rest }).task n).sends]
    exact hsends
  | task m o => exact absurd rfl (hop m o)

/-- Where the session task sends, it goes on with its own steps only. -/
theorem point_of_sends {op : TunnelOp} (hs : tunnel.step op s = some t) (hsends : s.point.sends = true)
    (hop : op ≠ .replied ∧ op ≠ .notReplied ∧ op ≠ .interrupt ∧ op ≠ .finish) : t.point = s.point := by
  have absurd : ∀ {point : Point} {p : Prop}, s.point = point → point.sends = false → p := by
    intro point p hpoint hno
    rw [← hpoint, hsends] at hno
    cases hno
  have select : ∀ {next : TunnelState} {p : Prop}, s.atSelect next = some t → p := fun h =>
    absurd (TunnelState.atSelect_some h).2.1 rfl
  cases op with
  | cancelLease error | writerEnds =>
    cases hs
    rfl
  | message m => exact select hs
  | data id payload => exact select hs
  | tick => exact select hs
  | authorized | denied error | delivered | undelivered =>
    simp only [tunnel, TunnelState.authorized, TunnelState.denied, TunnelState.delivered,
      TunnelState.undelivered] at hs
    obtain ⟨_, _, hs⟩ := TunnelState.inHandling_some hs
    split at hs <;> rename_i hpoint
    · exact absurd hpoint rfl
    · cases hs
  | exec =>
    change s.exec = some t at hs
    unfold TunnelState.exec at hs
    split at hs <;> cases hs
    rename_i x rest _
    cases x <;> simp only [TunnelState.run] <;> first | rfl | (split <;> rfl)
  | handle | store | register | spawn | dispatch =>
    simp only [tunnel, TunnelState.handle, TunnelState.store, TunnelState.register, TunnelState.spawn,
      TunnelState.dispatch] at hs
    obtain ⟨_, hs⟩ := TunnelState.atPoint_some hs
    split at hs <;> rename_i hpoint
    · exact absurd hpoint rfl
    · cases hs
  | leaseEnds =>
    obtain ⟨_, hs⟩ := Option.ite_none_left_eq_some.mp hs
    obtain ⟨_, hs⟩ := TunnelState.atPoint_some hs
    split at hs <;> rename_i hpoint
    · exact absurd hpoint rfl
    · cases hs
  | task n o =>
    obtain ⟨⟨t', effect⟩, _, rfl⟩ := Option.map_eq_some_iff.mp hs
    exact (TunnelState.apply_frame n effect _).point
  | replied => exact (hop.1 rfl).elim
  | notReplied => exact (hop.2.1 rfl).elim
  | interrupt => exact (hop.2.2.1 rfl).elim
  | finish => exact (hop.2.2.2 rfl).elim

end Session

structure QueueInv (s : BacklogState) : Prop where
  nodup : s.queue.senders.Nodup
  session : .session ∈ s.queue.senders → s.tunnel.point.sends = true
  task : ∀ n, .task n ∈ s.queue.senders → (s.tunnel.tasks n).sends.isSome = true

theorem Task.sent_sends {env : Surroundings} {t t' : Task} {effect : Effect}
    (h : t.sent env = some (t', effect)) : t.sends.isSome = true := by
  unfold sent at h
  split at h
  · split at h <;> rename_i hphase
    all_goals first | (rw [sends, hphase]; rfl) | cases h
  · cases h

section Queue
variable [Aead] [MessageCodec] {s t : BacklogState}

omit [Aead] in
theorem puts_of_step {op : TunnelOp} {w : Sender} {s u : TunnelState} (hs : tunnel.step op s = some u)
    (h : op.putter = some w) : ∃ m, s.puts op = [m] := by
  unfold TunnelOp.putter at h
  split at h
  · obtain ⟨_, hs⟩ := Option.ite_none_right_eq_some.mp hs
    obtain ⟨_, hs⟩ := TunnelState.atPoint_some hs
    split at hs <;> rename_i hpoint
    · simp only [TunnelState.puts, hpoint]
      exact ⟨_, rfl⟩
    · simp only [TunnelState.puts, hpoint]
      exact ⟨_, rfl⟩
    · cases hs
  · rename_i n
    obtain ⟨⟨t', effect⟩, hstep, _⟩ := Option.map_eq_some_iff.mp hs
    obtain ⟨out, hout⟩ := Option.isSome_iff_exists.mp (Task.sent_sends hstep)
    simp only [TunnelState.puts, hout]
    exact ⟨_, rfl⟩
  · cases h

omit [Aead] in
theorem senders_enqueue {op : TunnelOp} {u : TunnelState} {queue : OutboundQueue}
    (hs : tunnel.step op s.tunnel = some u) (h : s.enqueue op u = some queue) :
    queue.senders = match op.leaver s.tunnel u with
      | some w => s.queue.senders.erase w
      | none => s.queue.senders := by
  unfold BacklogState.enqueue at h
  cases hputter : op.putter with
  | some w =>
    obtain ⟨m, hputs⟩ := puts_of_step hs hputter
    rw [hputter, hputs] at h
    simp only [TunnelOp.leaver, hputter]
    exact BoundedChannel.senders_put h
  | none =>
    rw [hputter] at h
    simp only [TunnelOp.leaver, hputter]
    cases h
    cases hdropper : op.dropper s.tunnel u with
    | some w => exact BoundedChannel.senders_withdraw _ _
    | none => rfl

omit [Aead] in
/-- Who is still in the queue was there before, and is still at its `send`. -/
theorem mem_enqueue {op : TunnelOp} {u : TunnelState} {queue : OutboundQueue} {w : Sender}
    (hi : QueueInv s) (hs : tunnel.step op s.tunnel = some u) (h : s.enqueue op u = some queue)
    (hw : w ∈ queue.senders) : w ∈ s.queue.senders ∧ op.leaver s.tunnel u ≠ some w := by
  rw [senders_enqueue hs h] at hw
  split at hw
  · rename_i v hleaver
    rw [hi.nodup.mem_erase_iff] at hw
    exact ⟨hw.2, fun heq => hw.1 (Option.some.inj (heq.symm.trans hleaver))⟩
  · rename_i hleaver
    exact ⟨hw, fun heq => nomatch heq.symm.trans hleaver⟩

omit [Aead] in
theorem queueInv_session {op : TunnelOp} {u : TunnelState} {queue : OutboundQueue} {writer : WriterLoop}
    (hc : CancelInv s.tunnel) (hd : DeliveryInv s.tunnel) (hi : QueueInv s)
    (hs : tunnel.step op s.tunnel = some u) (h : s.enqueue op u = some queue) :
    QueueInv { tunnel := u, queue, writer } := by
  refine ⟨?_, fun hw => ?_, fun n hw => ?_⟩
  · show queue.senders.Nodup
    rw [senders_enqueue hs h]
    split
    · exact hi.nodup.erase _
    · exact hi.nodup
  · obtain ⟨hold, hstays⟩ := mem_enqueue hi hs h hw
    have hsends := hi.session hold
    have hpoint : u.point = s.tunnel.point := by
      refine point_of_sends hs hsends ⟨?_, ?_, ?_, ?_⟩ <;>
      · rintro rfl
        exact hstays rfl
    rw [hpoint]
    exact hsends
  · obtain ⟨hold, hstays⟩ := mem_enqueue hi hs h hw
    have hsends := hi.task n hold
    by_cases htask : ∃ m o, op = .task m o
    · obtain ⟨m, o, rfl⟩ := htask
      obtain ⟨⟨t', effect⟩, hstep, rfl⟩ := Option.map_eq_some_iff.mp hs
      rw [(TunnelState.apply_frame m effect _).tasks]
      by_cases hne : n = m
      · subst hne
        rw [TunnelState.setTask_self]
        have hphase : t'.phase = (s.tunnel.tasks n).phase := by
          have hsent : o ≠ .sent := by
            rintro rfl
            exact hstays rfl
          have hrefused : ∀ e, o ≠ .refused e := by
            rintro e rfl
            exact hstays rfl
          rcases Task.sends_step hstep hsends hsent hrefused with hphase | rfl
          · exact hphase
          · by_contra hphase
            refine hstays ?_
            simp only [TunnelOp.leaver, TunnelOp.putter, TunnelOp.dropper,
              (TunnelState.apply_frame n effect _).tasks, TunnelState.setTask_self, if_neg hphase]
            rfl
        rw [Task.sends_of_phase (Task.advance_step hstep).id hphase]
        exact hsends
      · rw [TunnelState.setTask_ne hne]
        exact hsends
    · exact sends_session hc hd hs (fun m o heq => htask ⟨m, o, heq⟩) hsends

theorem queueInv_step {op : BacklogOp} (hr : backlog.Reachable s) (hi : QueueInv s)
    (hs : backlog.step op s = some t) : QueueInv t := by
  have htunnel := tunnel_of_backlog hr
  cases backlog_move hs with
  | request w _ hasks hfresh =>
    have mem : ∀ {v}, v ∈ (s.queue.request w).senders → v ∈ s.queue.senders ∨ v = w := fun hv => by
      rw [BoundedChannel.senders_request, List.mem_append, List.mem_singleton] at hv
      exact hv
    refine ⟨?_, fun hv => ?_, fun n hv => ?_⟩
    · show (s.queue.request w).senders.Nodup
      rw [BoundedChannel.senders_request, List.nodup_append]
      refine ⟨hi.nodup, List.nodup_singleton _, fun a ha b hb hab => hfresh ?_⟩
      rw [List.mem_singleton] at hb
      exact hb ▸ hab ▸ ha
    · rcases mem hv with hold | rfl
      · exact hi.session hold
      · exact (of_decide_eq_true hasks).2.1
    · rcases mem hv with hold | rfl
      · exact hi.task n hold
      · exact (of_decide_eq_true hasks).1
  | session op u queue _ hstep henqueued =>
    exact queueInv_session (cancelInv_reachable htunnel) (deliveryInv_reachable htunnel) hi hstep henqueued
  | received m queue writer hrecv =>
    have hsenders := BoundedChannel.senders_recv hrecv
    exact ⟨hsenders ▸ hi.nodup, fun hw => hi.session (hsenders ▸ hw), fun n hw => hi.task n (hsenders ▸ hw)⟩
  | writer => exact ⟨hi.nodup, hi.session, hi.task⟩

/-- Who is in the queue is at a `send`, and is there once. -/
theorem queueInv_reachable (h : backlog.Reachable s) : QueueInv s := by
  refine h.invariant ?_ fun _ _ _ hr hi _ hs => queueInv_step hr hi hs
  rintro _ ⟨cipher, rfl⟩
  exact ⟨List.nodup_nil, fun h => (by cases h), fun _ h => (by cases h)⟩

end Queue

end WsNet.Gateway
