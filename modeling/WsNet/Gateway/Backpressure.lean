import WsNet.Gateway.QueueTurn

/-! Waits of the gateway's session task.

The session task waits for the queue with its replies and its Ping, and at a stream's
channel with the access's data, where the stream's task may itself wait for the queue.
Here the writer is a task of its own: so whoever waits for the queue comes to its turn,
a stream's task comes back to its channel, and no wait is the session task's own
(`every_wait_ends`). In the access, which writes what it sends in the session task
itself, that holds only under a rule. -/
namespace WsNet.Gateway
open Crypto Data Transition

/-! ### The wait -/

section Model
variable [MessageCodec]

/-- The session task waits, for the queue or at a stream's channel. -/
def Awaits (s : BacklogState) : Prop :=
  s.tunnel.todo = [] ∧ (s.tunnel.point.sends = true ∨ ∃ r, s.tunnel.delivers r = true)

/-- The session task's own steps from a wait. -/
def BacklogOp.resumes : BacklogOp → Bool
  | .request .session | .session .replied | .session .notReplied | .session .delivered
  | .session .undelivered | .session .interrupt => true
  | _ => false

/-- The wait has an end that the session task can take. -/
def GoesOn [Aead] (s : BacklogState) : Prop :=
  ∃ op, BacklogOp.resumes op = true ∧ (backlog.step op s).isSome = true

end Model

/-! ### The session task goes on -/

section Resumed
variable [Aead] [MessageCodec] {s t : BacklogState}

/-- The others bring the session task's wait to its end. -/
def Relieved (s : BacklogState) : Prop := ∃ t, Helps s t ∧ t.tunnel.point = s.tunnel.point ∧ GoesOn t

theorem Relieved.of_goesOn (h : GoesOn s) : Relieved s := ⟨s, .refl _, rfl, h⟩

theorem Relieved.after (hs : Helps s t) (hp : t.tunnel.point = s.tunnel.point) (h : Relieved t) :
    Relieved s := by
  obtain ⟨u, hu, hpu, hgoes⟩ := h
  exact ⟨u, hs.trans hu, hpu.trans hp, hgoes⟩

/-- A step of the session task that puts nothing. -/
theorem goesOn_of_step (op : TunnelOp) {u : TunnelState} (hop : (BacklogOp.session op).resumes = true)
    (hputter : op.putter = none) (hs : tunnel.step op s.tunnel = some u) : GoesOn s := by
  refine ⟨.session op, hop, ?_⟩
  have hallowed : s.outbound.allows op = true := by
    cases op <;> first | rfl | cases hop
  show (s.session op).isSome = true
  rw [BacklogState.session, if_pos hallowed, hs]
  simp only [Option.bind_some, BacklogState.enqueue, hputter]
  rfl

theorem goesOn_of_lease (htodo : s.tunnel.todo = []) (hleased : s.tunnel.point.leased = true)
    (hlease : s.tunnel.lease ≠ none) : GoesOn s := by
  have hstep : ∃ u, s.tunnel.interrupt = some u := by
    unfold TunnelState.interrupt TunnelState.atPoint
    rw [if_neg hlease, if_pos htodo]
    cases hpoint : s.tunnel.point with
    | authorizing m | sending m required | delivering r id payload => exact ⟨_, rfl⟩
    | _ =>
      rw [hpoint] at hleased
      cases hleased
  obtain ⟨u, hu⟩ := hstep
  exact goesOn_of_step .interrupt rfl rfl hu

/-- A `send` of the session task comes to its end with the permit, or with the queue. -/
theorem goesOn_of_sends (htodo : s.tunnel.todo = []) (hsends : s.tunnel.point.sends = true)
    (h : s.tunnel.writer = false ∨ s.tunnel.writer = true ∧ .session ∈ s.queue.granted) : GoesOn s := by
  by_cases hlease : s.tunnel.point.leased = true ∧ s.tunnel.lease ≠ none
  · exact goesOn_of_lease htodo hlease.1 hlease.2
  have hfree : ∀ {m required}, s.tunnel.point = .sending m required → s.tunnel.lease = none := by
    intro m required hpoint
    by_contra hsome
    exact hlease ⟨by rw [hpoint]; rfl, hsome⟩
  rcases h with hclosed | ⟨hopen, hgranted⟩
  · have hstep : ∃ u, s.tunnel.notReplied = some u := by
      unfold TunnelState.notReplied TunnelState.atPoint
      rw [hclosed, if_neg Bool.false_ne_true, if_pos htodo]
      cases hpoint : s.tunnel.point with
      | sending m required =>
        simp only [hfree hpoint, if_true]
        exact ⟨_, rfl⟩
      | pinging => exact ⟨_, rfl⟩
      | _ =>
        rw [hpoint] at hsends
        cases hsends
    obtain ⟨u, hu⟩ := hstep
    exact goesOn_of_step .notReplied rfl rfl hu
  · have hstep : ∃ u m, tunnel.step .replied s.tunnel = some u ∧ s.tunnel.puts .replied = [m] := by
      simp only [tunnel, TunnelState.replied, TunnelState.atPoint]
      rw [if_pos hopen, if_pos htodo]
      cases hpoint : s.tunnel.point with
      | sending m required =>
        simp only [hfree hpoint, if_true, TunnelState.puts, hpoint]
        exact ⟨_, _, rfl, rfl⟩
      | pinging =>
        simp only [TunnelState.puts, hpoint]
        exact ⟨_, _, rfl, rfl⟩
      | _ =>
        rw [hpoint] at hsends
        cases hsends
    obtain ⟨u, m, hu, hputs⟩ := hstep
    obtain ⟨queue, hput⟩ := BoundedChannel.put_isSome (a := m) hgranted
    refine ⟨.session .replied, rfl, ?_⟩
    have hallowed : s.outbound.allows .replied = true := rfl
    show (s.session .replied).isSome = true
    rw [BacklogState.session, if_pos hallowed, hu]
    simp only [Option.bind_some, BacklogState.enqueue, TunnelOp.putter, hputs, hput]
    rfl

/-- **At the queue** the session task comes to its turn. -/
theorem relieved_sending (hr : backlog.Reachable s) (htodo : s.tunnel.todo = [])
    (hsends : s.tunnel.point.sends = true) : Relieved s := by
  by_cases hlease : s.tunnel.point.leased = true ∧ s.tunnel.lease ≠ none
  · exact .of_goesOn (goesOn_of_lease htodo hlease.1 hlease.2)
  cases hopen : s.tunnel.writer with
  | false => exact .of_goesOn (goesOn_of_sends htodo hsends (.inl hopen))
  | true =>
    by_cases hsender : .session ∈ s.queue.senders
    · rcases BoundedChannel.mem_senders.mp hsender with hgranted | hwaiting
      · exact .of_goesOn (goesOn_of_sends htodo hsends (.inr ⟨hopen, hgranted⟩))
      · obtain ⟨t, ht, ha, hend⟩ := turn hr hopen hwaiting
        exact ⟨t, ht, ha.point, goesOn_of_sends (ha.todo.trans htodo) (ha.point ▸ hsends) hend⟩
    · -- it has not asked yet
      refine .of_goesOn ⟨.request .session, rfl, ?_⟩
      have hasks : s.asks .session = true := by
        refine decide_eq_true ⟨htodo, hsends, fun hleased => ?_⟩
        by_contra hsome
        exact hlease ⟨hleased, hsome⟩
      show (s.request .session).isSome = true
      rw [BacklogState.request, if_pos ⟨hopen, hasks, hsender⟩]
      rfl

/-! ### At a channel -/

/-- The session task delivers, and its handling goes on. -/
structure AtReceiver (r : Receiver) (s : BacklogState) : Prop where
  reachable : backlog.Reachable s
  todo : s.tunnel.todo = []
  lease : s.tunnel.lease = none
  delivers : s.tunnel.delivers r = true

theorem AtReceiver.goesOn_of_gone {r : Receiver} (h : AtReceiver r s) (hgone : s.tunnel.receives r = false) :
    GoesOn s := by
  obtain ⟨id, payload, hpoint⟩ := TunnelState.delivers_eq_true.mp h.delivers
  have hstep : ∃ u, s.tunnel.undelivered = some u := by
    unfold TunnelState.undelivered TunnelState.inHandling
    rw [if_pos ⟨h.todo, h.lease⟩, hpoint]
    simp only [hgone, Bool.false_eq_true, if_false]
    cases r <;> exact ⟨_, rfl⟩
  obtain ⟨u, hu⟩ := hstep
  exact goesOn_of_step .undelivered rfl rfl hu

/-- There is room for what is delivered. -/
def RoomFor (r : Receiver) (s : TunnelState) : Prop :=
  match r with
  | .stream n => () ∈ (s.tasks n).channel.granted
  | .body n => () ∈ (s.tasks n).body.granted

theorem AtReceiver.goesOn_of_room {r : Receiver} (h : AtReceiver r s) (hroom : RoomFor r s.tunnel) :
    GoesOn s := by
  obtain ⟨id, payload, hpoint⟩ := TunnelState.delivers_eq_true.mp h.delivers
  by_cases hreceives : s.tunnel.receives r = true
  · have hput : ∃ u, s.tunnel.put payload r = some u := by
      cases r with
      | stream n =>
        obtain ⟨channel, hchannel⟩ := BoundedChannel.put_isSome (a := payload) hroom
        exact ⟨_, Option.map_eq_some_iff.mpr ⟨channel, hchannel, rfl⟩⟩
      | body n =>
        obtain ⟨body, hbody⟩ := BoundedChannel.put_isSome (a := Except.ok payload) hroom
        exact ⟨_, Option.map_eq_some_iff.mpr ⟨body, hbody, rfl⟩⟩
    obtain ⟨u, hu⟩ := hput
    have hstep : ∃ v, s.tunnel.delivered = some v := by
      unfold TunnelState.delivered TunnelState.inHandling
      rw [if_pos ⟨h.todo, h.lease⟩, hpoint]
      simp only [hreceives, if_true, hu]
      exact ⟨_, rfl⟩
    obtain ⟨v, hv⟩ := hstep
    exact goesOn_of_step .delivered rfl rfl hv
  · exact h.goesOn_of_gone (by simpa using hreceives)

theorem AtReceiver.stays {r : Receiver} (h : AtReceiver r s) {w : Sender} (ht : Helps s t)
    (ha : Aside w s t) : AtReceiver r t where
  reachable := h.reachable.steps (ht.mono fun _ _ _ => trivial)
  todo := ha.todo.trans h.todo
  lease := ha.lease.trans h.lease
  delivers := by
    have hdelivers := h.delivers
    rw [TunnelState.delivers] at hdelivers ⊢
    rw [ha.point]
    exact hdelivers

/-- A task's step, with the session task where it was. -/
theorem AtReceiver.relieved_step {r : Receiver} (h : AtReceiver r s) (n : Nat) (op : TaskOp) {t' : Task}
    {effect : Effect} {queue : OutboundQueue} (hop : op.worksOn = true)
    (hs : (s.tunnel.tasks n).step (s.tunnel.surroundings n) op = some (t', effect))
    (hq : s.enqueue (.task n op) ((s.tunnel.setTask n t').apply n effect) = some queue)
    (next : ∀ t, AtReceiver r t → t.tunnel.tasks n = t' → Relieved t) : Relieved s := by
  have hhelps := helps_task n op hop hs hq
  have haside : Aside .session s { s with tunnel := (s.tunnel.setTask n t').apply n effect, queue } :=
    aside_task nofun
  refine .after hhelps haside.point (next _ (h.stays hhelps haside) ?_)
  show ((s.tunnel.setTask n t').apply n effect).tasks n = t'
  rw [(TunnelState.apply_frame n effect _).tasks, TunnelState.setTask_self]

/-- A step that leaves the queue alone. -/
theorem AtReceiver.relieved_aside {r : Receiver} (h : AtReceiver r s) (n : Nat) (op : TaskOp) (t' : Task)
    (hop : op = .recv ∨ op = .wrote ∨ op = .readBody)
    (hs : (s.tunnel.tasks n).step (s.tunnel.surroundings n) op = some (t', .quiet))
    (next : ∀ t, AtReceiver r t → t.tunnel.tasks n = t' → Relieved t) : Relieved s := by
  have hq : s.enqueue (.task n op) ((s.tunnel.setTask n t').apply n .quiet) = some s.queue := by
    rcases hop with rfl | rfl | rfl <;> rfl
  refine h.relieved_step n op ?_ hs hq next
  rcases hop with rfl | rfl | rfl <;> rfl

variable {n : Nat}

/-- The task is polled; where its guard drops the work, the receiver is gone. -/
theorem AtReceiver.relieved_awake (h : AtReceiver (.stream n) s)
    (hl : (s.tunnel.tasks n).phase.listening = true)
    (next : ∀ t, AtReceiver (.stream n) t → (t.tunnel.tasks n).phase = (s.tunnel.tasks n).phase →
      (t.tunnel.tasks n).awake = true → Relieved t) : Relieved s := by
  have guarded : ∀ {phase : TaskPhase}, phase.listening = true → phase.guarded = true := fun hphase => by
    cases ‹TaskPhase› <;> first | rfl | cases hphase
  cases hawake : (s.tunnel.tasks n).awake with
  | true => exact next s h rfl hawake
  | false =>
    obtain ⟨t', ht, hcase⟩ := Task.poll_eq (s.tunnel.surroundings n) (guarded hl) hawake
    have hsame : (((s.tunnel.setTask n t').apply n .quiet).tasks n).phase = t'.phase := by
      rw [(TunnelState.apply_frame n .quiet _).tasks, TunnelState.setTask_self]
    rcases hcase with rfl | hdropped
    · have hq : s.enqueue (.task n .poll)
          ((s.tunnel.setTask n { s.tunnel.tasks n with awake := true }).apply n .quiet) = some s.queue := by
        simp only [BacklogState.enqueue, TunnelOp.putter, TunnelOp.dropper, hsame, if_true]
      refine h.relieved_step n .poll rfl ht hq fun t hat htask => ?_
      exact next t hat (by rw [htask]) (by rw [htask])
    · have hphase : t'.phase ≠ (s.tunnel.tasks n).phase := by
        intro heq
        rw [heq, guarded hl] at hdropped
        cases hdropped
      have hq : s.enqueue (.task n .poll) ((s.tunnel.setTask n t').apply n .quiet) =
          some (s.queue.withdraw (.task n)) := by
        simp only [BacklogState.enqueue, TunnelOp.putter, TunnelOp.dropper, hsame, if_neg hphase]
      refine h.relieved_step n .poll rfl ht hq fun t hat htask => .of_goesOn (hat.goesOn_of_gone ?_)
      show (t.tunnel.tasks n).phase.listening = false
      rw [htask, Bool.eq_false_iff]
      intro hlistening
      rw [guarded hlistening] at hdropped
      cases hdropped

/-- At its `select!` the task receives, and makes room. -/
theorem AtReceiver.relieved_forwarding (h : AtReceiver (.stream n) s) {targetReadClosed : Bool}
    (hp : (s.tunnel.tasks n).phase = .forwarding targetReadClosed false) : Relieved s := by
  refine h.relieved_awake (by rw [hp]; rfl) fun t ht hphase hawake => ?_
  rw [hp] at hphase
  have hinv := deliveryInv_reachable (tunnel_of_backlog ht.reachable)
  have hattended : t.tunnel.attended (.stream n) = true := by
    simp only [TunnelState.attended, hphase]
    rfl
  have hsenders : (t.tunnel.tasks n).channel.senders = waitersOf _ := hinv.waiters (.stream n) hattended
  rw [ht.delivers] at hsenders
  have hmem : () ∈ (t.tunnel.tasks n).channel.senders := by
    rw [hsenders]
    exact List.mem_singleton_self ()
  rcases BoundedChannel.mem_senders.mp hmem with hgranted | hwaiting
  · exact .of_goesOn (ht.goesOn_of_room hgranted)
  · obtain ⟨item, channel, hrecv, hgranted⟩ := BoundedChannel.recv_of_alone (by decide) hsenders hwaiting
    refine ht.relieved_aside n .recv
      { t.tunnel.tasks n with channel, phase := .writing targetReadClosed } (.inl rfl) ?_ fun u hu htask => ?_
    · simp only [Task.step, Task.recv, hphase, hrecv, Task.working, hawake, if_true]
    · refine .of_goesOn (hu.goesOn_of_room ?_)
      show () ∈ (u.tunnel.tasks n).channel.granted
      rw [htask]
      exact hgranted

/-- It comes back to its `select!`, or its receiver is gone. -/
theorem AtReceiver.relieved_back (h : AtReceiver (.stream n) s)
    (hp : (s.tunnel.tasks n).phase.listening = false ∨
      ∃ targetReadClosed, (s.tunnel.tasks n).phase = .forwarding targetReadClosed false) : Relieved s := by
  rcases hp with hgone | ⟨targetReadClosed, hp⟩
  · exact .of_goesOn (h.goesOn_of_gone hgone)
  · exact h.relieved_forwarding hp

theorem AtReceiver.relieved_writing (h : AtReceiver (.stream n) s) {targetReadClosed : Bool}
    (hp : (s.tunnel.tasks n).phase = .writing targetReadClosed) : Relieved s := by
  refine h.relieved_awake (by rw [hp]; rfl) fun t ht hphase hawake => ?_
  rw [hp] at hphase
  refine ht.relieved_aside n .wrote ((t.tunnel.tasks n).resume targetReadClosed false) (.inr (.inl rfl))
    ?_ fun u hu htask => ?_
  · simp only [Task.step, Task.wrote, hphase, Task.working, hawake, if_true]
  · refine hu.relieved_back (.inr ⟨targetReadClosed, ?_⟩)
    rw [htask, Task.resume, if_neg (fun hboth => Bool.false_ne_true hboth.2)]

/-! ### A task that sends -/

section Relays
variable (h : AtReceiver (.stream n) s) (hp : (s.tunnel.tasks n).phase.relays)
  (hawake : (s.tunnel.tasks n).awake = true)
include h hp hawake

/-- With its permit, or with the queue closed, the task comes back. -/
theorem relieved_served (hserved : s.tunnel.writer = false ∨
    s.tunnel.writer = true ∧ .task n ∈ s.queue.granted) : Relieved s := by
  rcases hserved with hclosed | ⟨hopen, hgranted⟩
  · obtain ⟨t', ht, hback⟩ := Task.relays_refused (s.tunnel.surroundings n) "" hp hawake hclosed
    exact h.relieved_step n (.refused "") rfl ht rfl fun u hu htask => hu.relieved_back (htask ▸ hback)
  · obtain ⟨out, t', hout, ht, hback⟩ :=
      Task.relays_sent (s.tunnel.surroundings n) hp hawake hopen
    obtain ⟨queue, hput⟩ := BoundedChannel.put_isSome (a := out.wsMessage) hgranted
    have hq : s.enqueue (.task n .sent) ((s.tunnel.setTask n t').apply n (.send out)) = some queue := by
      simp only [BacklogState.enqueue, TunnelOp.putter, TunnelState.puts, hout]
      exact hput
    exact h.relieved_step n .sent rfl ht hq fun u hu htask => hu.relieved_back (.inr (htask ▸ hback))

/-- In line, the task comes to its turn. -/
theorem relieved_inLine (hopen : s.tunnel.writer = true) (hsender : .task n ∈ s.queue.senders) :
    Relieved s := by
  rcases BoundedChannel.mem_senders.mp hsender with hgranted | hwaiting
  · exact relieved_served h hp hawake (.inr ⟨hopen, hgranted⟩)
  · obtain ⟨t, ht, ha, hend⟩ := turn h.reachable hopen hwaiting
    have htask := ha.task n rfl
    exact .after ht ha.point
      (relieved_served (h.stays ht ha) (by rw [htask]; exact hp) (by rw [htask]; exact hawake) hend)

theorem relieved_relays : Relieved s := by
  cases hopen : s.tunnel.writer with
  | false => exact relieved_served h hp hawake (.inl hopen)
  | true =>
    by_cases hsender : .task n ∈ s.queue.senders
    · exact relieved_inLine h hp hawake hopen hsender
    · have hasks : s.asks (.task n) = true := by
        obtain ⟨out, _, hout, _⟩ := Task.relays_sent (s.tunnel.surroundings n) hp hawake hopen
        exact decide_eq_true ⟨by rw [hout]; rfl, fun _ => hawake⟩
      have hstep : s.request (.task n) = some { s with queue := s.queue.request (.task n) } := by
        rw [BacklogState.request, if_pos ⟨hopen, hasks, hsender⟩]
      have hhelps : Helps s { s with queue := s.queue.request (.task n) } :=
        .single (i := .request (.task n)) rfl hstep
      have hmem : .task n ∈ (s.queue.request (.task n)).senders := by
        rw [BoundedChannel.senders_request]
        exact List.mem_append_right _ (List.mem_singleton_self _)
      have haside : Aside (.task n) s { s with queue := s.queue.request (.task n) } :=
        ⟨rfl, rfl, rfl, fun _ _ => rfl⟩
      exact .after hhelps rfl (relieved_inLine (h.stays hhelps haside) hp hawake hopen hmem)

end Relays

/-- **At a channel** the receiver makes room, or goes. -/
theorem AtReceiver.relieved {r : Receiver} (h : AtReceiver r s) : Relieved s := by
  have hinv := deliveryInv_reachable (tunnel_of_backlog h.reachable)
  cases r with
  | stream n =>
    have hsender : s.tunnel.streamSender n = true := TunnelState.streamSender_eq_true.mpr (.inr h.delivers)
    have isOpen : (s.tunnel.tasks n).phase.accessClosed = true → False := fun hclosed => by
      rw [hinv.closed n hclosed] at hsender
      cases hsender
    have gone : (s.tunnel.tasks n).phase.listening = false → Relieved s := fun hgone =>
      .of_goesOn (h.goesOn_of_gone hgone)
    cases hp : (s.tunnel.tasks n).phase with
    | opening =>
      refine h.relieved_awake (by rw [hp]; rfl) fun t ht hphase hawake => ?_
      exact relieved_relays ht (.inl (hphase.trans hp)) hawake
    | relaying out targetReadClosed accessClosed =>
      cases accessClosed with
      | true => exact (isOpen (by rw [hp]; rfl)).elim
      | false =>
        refine h.relieved_awake (by rw [hp]; rfl) fun t ht hphase hawake => ?_
        exact relieved_relays ht (.inr ⟨out, targetReadClosed, hphase.trans hp⟩) hawake
    | forwarding targetReadClosed accessClosed =>
      cases accessClosed with
      | true => exact (isOpen (by rw [hp]; rfl)).elim
      | false => exact h.relieved_forwarding hp
    | writing targetReadClosed => exact h.relieved_writing hp
    | shutting targetReadClosed => exact (isOpen (by rw [hp]; rfl)).elim
    | _ => exact gone (by rw [hp]; rfl)
  | body n =>
    cases hopen : (s.tunnel.tasks n).bodyOpen with
    | false => exact .of_goesOn (h.goesOn_of_gone hopen)
    | true =>
      have hsenders : (s.tunnel.tasks n).body.senders = waitersOf _ := hinv.waiters (.body n) hopen
      rw [h.delivers] at hsenders
      have hmem : () ∈ (s.tunnel.tasks n).body.senders := by
        rw [hsenders]
        exact List.mem_singleton_self ()
      rcases BoundedChannel.mem_senders.mp hmem with hgranted | hwaiting
      · exact .of_goesOn (h.goesOn_of_room hgranted)
      · have hsender : s.tunnel.bodySender n = true :=
          TunnelState.bodySender_eq_true.mpr (.inr (.inr h.delivers))
        have hend : (s.tunnel.tasks n).bodyEnd = false := by
          rw [Bool.eq_false_iff]
          intro hended
          rw [hinv.ended n hended] at hsender
          cases hsender
        obtain ⟨item, body, hrecv, hgranted⟩ := BoundedChannel.recv_of_alone (by decide) hsenders hwaiting
        refine h.relieved_aside n .readBody { s.tunnel.tasks n with
          body, bodyRead := (s.tunnel.tasks n).bodyRead ++ [item] } (.inr (.inr rfl)) ?_ fun u hu htask => ?_
        · simp only [Task.step, Task.readBody]
          rw [if_pos ⟨hinv.toBody n h.delivers, hopen, hend⟩, hrecv]
        · refine .of_goesOn (hu.goesOn_of_room ?_)
          show () ∈ (u.tunnel.tasks n).body.granted
          rw [htask]
          exact hgranted

theorem relieved_of_awaits (h : backlog.Reachable s) (hw : Awaits s) : Relieved s := by
  obtain ⟨htodo, hsends | ⟨r, hdelivers⟩⟩ := hw
  · exact relieved_sending h htodo hsends
  · by_cases hlease : s.tunnel.lease = none
    · exact AtReceiver.relieved ⟨h, htodo, hlease, hdelivers⟩
    · obtain ⟨id, payload, hpoint⟩ := TunnelState.delivers_eq_true.mp hdelivers
      exact .of_goesOn (goesOn_of_lease htodo (by rw [hpoint]; rfl) hlease)

/-- **No wait is the session task's own.** Wherever the session task of a gateway waits
for the queue or at a stream's channel, steps of the writer and of the stream tasks
alone bring the wait to its end; and whoever waits for the queue comes to its turn, or
the queue is closed, while neither the session task nor who waits moves. -/
theorem every_wait_ends (h : backlog.Reachable s) :
    (Awaits s → ∃ t, backlog.StepsUnder ByOthers s t ∧ t.tunnel.point = s.tunnel.point ∧ GoesOn t) ∧
      ∀ w ∈ s.queue.waiting, s.tunnel.writer = true → ∃ t, backlog.StepsUnder ByOthers s t ∧ Aside w s t ∧
        (t.tunnel.writer = false ∨ w ∈ t.queue.granted) := by
  refine ⟨relieved_of_awaits h, fun w hw hopen => ?_⟩
  obtain ⟨t, ht, ha, hend⟩ := turn h hopen hw
  exact ⟨t, ht, ha, hend.imp_right And.right⟩

end Resumed

/-! ### The access fills the queue -/

section Filling
variable [Aead] [MessageCodec] {s : BacklogState}

/-- The session task is at its `select!`, with this many messages in the queue. -/
structure Filling (k : Nat) (s : BacklogState) : Prop where
  writer : s.tunnel.writer = true
  lease : s.tunnel.lease = none
  todo : s.tunnel.todo = []
  point : s.tunnel.point = .select
  items : s.queue.items.length = k
  senders : s.queue.senders = []

/-- A step of the session task that puts nothing and drops nothing. -/
theorem session_step (op : TunnelOp) {u : TunnelState} (hallowed : s.outbound.allows op = true)
    (hputter : op.putter = none) (hdropper : op.dropper s.tunnel u = none)
    (hs : tunnel.step op s.tunnel = some u) :
    backlog.step (.session op) s = some { s with tunnel := u, writer := s.outbound.writerAfter op } := by
  show s.session op = _
  rw [BacklogState.session, if_pos hallowed, hs]
  simp only [Option.bind_some, BacklogState.enqueue, hputter, hdropper]
  rfl

/-- A Ping of the access, and its Pong waits for the queue. -/
def pingOps : List BacklogOp := [.session (.message .ping), .session .handle, .request .session]

theorem Filling.ping {k : Nat} (h : Filling k s) : backlog.run pingOps s = some
    { s with tunnel := { s.tunnel with point := .sending .pong true }, queue := s.queue.request .session } := by
  have hmessage : backlog.step (.session (.message .ping)) s =
      some { s with tunnel := { s.tunnel with point := .handling .ping } } :=
    session_step _ rfl rfl rfl (if_pos ⟨h.todo, h.point, h.lease⟩)
  refine (Machine.runUnder_cons trivial hmessage).trans ?_
  have hhandle : TunnelState.handle { s.tunnel with point := .handling .ping } =
      some { s.tunnel with point := .sending .pong true } := by
    simp only [TunnelState.handle, TunnelState.atPoint, h.todo, h.lease, TunnelState.start]
    rfl
  have hstart : backlog.step (.session .handle) { s with tunnel := { s.tunnel with point := .handling .ping } } =
      some { s with tunnel := { s.tunnel with point := .sending .pong true } } :=
    session_step .handle rfl rfl rfl hhandle
  refine (Machine.runUnder_cons trivial hstart).trans ?_
  refine (Machine.runUnder_cons trivial (if_pos ⟨h.writer, ?_, ?_⟩)).trans rfl
  · exact decide_eq_true ⟨h.todo, rfl, fun _ => h.lease⟩
  · show .session ∉ s.queue.senders
    rw [h.senders]
    exact List.not_mem_nil

/-- With room, the Pong is queued. -/
theorem Filling.pong {k : Nat} (h : Filling k s) (hk : k < outboundCapacity) :
    ∃ t, backlog.run (pingOps ++ [.session .replied]) s = some t ∧ Filling (k + 1) t := by
  have hgranted : s.queue.granted = [] := (List.append_eq_nil_iff.mp h.senders).1
  have hfree : ¬ s.queue.Full := by
    rw [BoundedChannel.Full, h.items, hgranted, List.length_nil]
    omega
  have hmem : .session ∈ (s.queue.request .session).granted := by
    rw [(BoundedChannel.request_of_not_full hfree).2.1]
    exact List.mem_append_right _ (List.mem_singleton_self _)
  obtain ⟨queue, hput⟩ := BoundedChannel.put_isSome (a := WsMessage.text (encodeMessage .pong)) hmem
  have hreplied : backlog.step (.session .replied) { s with
      tunnel := { s.tunnel with point := .sending .pong true }, queue := s.queue.request .session } =
      some { s with tunnel := { s.tunnel with point := .select }, queue } := by
    have hstep : TunnelState.replied { s.tunnel with point := .sending .pong true } =
        some { s.tunnel with point := .select } := by
      simp only [TunnelState.replied, TunnelState.atPoint, h.writer, h.todo, h.lease, if_true]
    show BacklogState.session .replied _ = _
    rw [BacklogState.session]
    simp only [tunnel, hstep, Option.bind_some, BacklogState.enqueue, TunnelOp.putter, TunnelState.puts, hput]
    rfl
  refine ⟨_, Machine.runUnder_then h.ping (Machine.runUnder_cons trivial hreplied), ?_⟩
  obtain ⟨_, hitems, _, _⟩ := BoundedChannel.put_eq_some hput
  refine ⟨h.writer, h.lease, h.todo, rfl, ?_, ?_⟩
  · show queue.items.length = k + 1
    rw [hitems, BoundedChannel.request_items, List.length_append, h.items]
    rfl
  · show queue.senders = []
    rw [BoundedChannel.senders_put hput, BoundedChannel.senders_request, h.senders]
    rfl

theorem Filling.run {k : Nat} (n : Nat) (h : Filling k s) (hn : k + n ≤ outboundCapacity) :
    ∃ t, backlog.run (List.replicate n (pingOps ++ [.session .replied])).flatten s = some t ∧
      Filling (k + n) t := by
  induction n generalizing k s with
  | zero => exact ⟨s, rfl, h⟩
  | succ n ih =>
    obtain ⟨u, hu, hfill⟩ := h.pong (by omega)
    obtain ⟨t, ht, hfill⟩ := ih hfill (by omega)
    refine ⟨t, ?_, ?_⟩
    · rw [List.replicate_succ, List.flatten_cons]
      exact Machine.runUnder_then hu ht
    · rw [Nat.add_right_comm] at hfill
      exact hfill

end Filling

section Example

local instance backlogAead : Aead := .transparent
local instance backlogCodec : MessageCodec := .plain

/-- The writer takes nothing, and 1025 Pings come. -/
def pingedOps : List BacklogOp :=
  (List.replicate outboundCapacity (pingOps ++ [.session .replied])).flatten ++ pingOps

def pingedStart : BacklogState := { writer := { cipher := .ofKeys [1] [2] } }

def pingedState : BacklogState := (backlog.run pingedOps pingedStart).getD pingedStart

theorem every_wait_ends_pingedState :
    pingedState.queue.items.length = 1024 ∧ pingedState.queue.waiting = [.session] ∧
      pingedState.tunnel.point = .sending .pong true ∧
      (∃ t, backlog.StepsUnder ByOthers pingedState t ∧ t.tunnel.point = pingedState.tunnel.point ∧ GoesOn t) ∧
      ∃ t, backlog.StepsUnder ByOthers pingedState t ∧ Aside .session pingedState t ∧
        (t.tunnel.writer = false ∨ .session ∈ t.queue.granted) := by
  obtain ⟨u, hu, hfill⟩ := Filling.run (s := pingedStart) (k := 0) outboundCapacity
    ⟨rfl, rfl, rfl, rfl, rfl, rfl⟩ (by omega)
  rw [Nat.zero_add] at hfill
  have hrun := Machine.runUnder_then hu hfill.ping
  have hstate : pingedState = { u with
      tunnel := { u.tunnel with point := .sending .pong true }, queue := u.queue.request .session } := by
    exact congrArg (Option.getD · pingedStart) hrun
  have hreach : backlog.Reachable pingedState := by
    rw [hstate]
    exact Machine.reachableUnder_of_run ⟨_, rfl⟩ hrun
  obtain ⟨hgranted, hwaiting⟩ := List.append_eq_nil_iff.mp hfill.senders
  have hfull : u.queue.Full := by
    rw [BoundedChannel.Full, hfill.items, hgranted, List.length_nil, Nat.add_zero]
  have hline : pingedState.queue.waiting = [.session] := by
    rw [hstate]
    show (u.queue.request .session).waiting = [.session]
    rw [(BoundedChannel.request_of_full hfull).2.2, hwaiting]
    rfl
  have hpoint : pingedState.tunnel.point = .sending .pong true := by rw [hstate]
  obtain ⟨hends, hturn⟩ := every_wait_ends hreach
  refine ⟨?_, hline, hpoint, hends ⟨?_, .inl (by rw [hpoint]; rfl)⟩, hturn .session ?_ ?_⟩
  · rw [hstate]
    show (u.queue.request .session).items.length = 1024
    rw [BoundedChannel.request_items, hfill.items]
    rfl
  · rw [hstate]
    exact hfill.todo
  · rw [hline]
    exact List.mem_singleton_self _
  · rw [hstate]
    exact hfill.writer

end Example

end WsNet.Gateway
