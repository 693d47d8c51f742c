import WsNet.Gateway.Delivery

/-! Every step of the session keeps `DeliveryInv`.

The steps that deliver nothing insert no sender either, but for three: a task that is
set up, and a stream that is connected, which no data frame has gone to yet. The others
go to a channel that they have found a sender of, or leave one. -/
namespace WsNet.Gateway
open Data Transition

/-! ### One step -/

section Steps
variable {s t : TunnelState}

theorem DeliveryInv.early_of_sender (hi : DeliveryInv s) {n : Nat} (h : s.streamSender n = true) :
    (s.tasks n).phase.early = false := by
  rcases TunnelState.streamSender_eq_true.mp h with hl | hd
  · exact (hi.streams _ n hl).2
  · exact hi.toStream n hd

theorem DeliveryInv.spawned_of_sender (hi : DeliveryInv s) (hpending : s.point.pending = none) {n : Nat}
    (h : s.bodySender n = true) : (s.tasks n).phase ≠ .unspawned := by
  rcases TunnelState.bodySender_eq_true.mp h with hl | hstoring | hd
  · refine (hi.bodies _ n hl).2.2.resolve_right fun hsome => ?_
    rw [hpending] at hsome
    cases hsome
  · rw [hstoring] at hpending
    cases hpending
  · exact hi.toBody n hd

/-- The session task goes to a channel that it has a sender of, or leaves one. -/
theorem deliveryInv_quiet (hi : DeliveryInv s) (hq : Quiet s t) (hs : s.point.pending = none)
    (ht : t.point.pending = none) (hto : ∀ r, t.delivers r = true → s.hasSender r = true)
    (hwaiters : ∀ r, s.attended r = true → t.sendersAt r = waitersOf (t.delivers r)) : DeliveryInv t := by
  have same : ∀ n, (t.tasks n).id = (s.tasks n).id ∧ (t.tasks n).phase = (s.tasks n).phase ∧
      (t.tasks n).bodyOpen = (s.tasks n).bodyOpen ∧ (t.tasks n).bodyEnd = (s.tasks n).bodyEnd := by
    intro n
    obtain ⟨channel, body, heq⟩ := hq.task n
    rw [heq]
    exact ⟨rfl, rfl, rfl, rfl⟩
  refine ⟨?_, ?_, ?_, ?_, ?_, ?_, ?_, ?_⟩
  · intro n hn
    rw [(same n).2.1]
    exact hi.fresh n (hq.next ▸ hn)
  · intro id n hl
    rw [hq.streams] at hl
    rw [(same n).1, (same n).2.1]
    exact hi.streams id n hl
  · intro id n hl
    rw [hq.httpBodies] at hl
    obtain ⟨hlt, hid, hp⟩ := hi.bodies id n hl
    rw [hs] at hp
    rw [hq.next, (same n).1, (same n).2.1]
    exact ⟨hlt, hid, .inl (hp.resolve_right nofun)⟩
  · intro n hd
    rw [(same n).2.1]
    exact hi.early_of_sender (hto (.stream n) hd)
  · intro n hd
    rw [(same n).2.1]
    exact hi.spawned_of_sender hs (hto (.body n) hd)
  · intro r hr
    refine hwaiters r ?_
    cases r with
    | stream n =>
      simp only [TunnelState.attended, (same n).2.1] at hr
      exact hr
    | body n =>
      simp only [TunnelState.attended, (same n).2.2.1] at hr
      exact hr
  · intro n hc
    rw [(same n).2.1] at hc
    rw [Bool.eq_false_iff]
    intro hsender
    refine Bool.eq_false_iff.mp (hi.closed n hc) ?_
    rcases TunnelState.streamSender_eq_true.mp hsender with hl | hd
    · rw [hq.streams, (same n).1] at hl
      exact TunnelState.streamSender_eq_true.mpr (.inl hl)
    · exact hto (.stream n) hd
  · intro n he
    rw [(same n).2.2.2] at he
    rw [Bool.eq_false_iff]
    intro hsender
    refine Bool.eq_false_iff.mp (hi.ended n he) ?_
    rcases TunnelState.bodySender_eq_true.mp hsender with hl | hstoring | hd
    · rw [hq.httpBodies, (same n).1] at hl
      exact TunnelState.bodySender_eq_true.mpr (.inl hl)
    · rw [hstoring] at ht
      cases ht
    · exact hto (.body n) hd

theorem deliveryInv_create (hi : DeliveryInv s) {m : Message} (hpoint : s.point = .handling m)
    (id : StreamId) (kind : TaskKind) : DeliveryInv (s.create id kind) := by
  have hother : ∀ n, n ≠ s.next → (s.create id kind).tasks n = s.tasks n := fun n hne =>
    Function.update_of_ne hne _ _
  have hnew : (s.create id kind).tasks s.next = { id, kind, bodyOpen := kind = .upload } :=
    Function.update_self _ _ _
  have hstill : ∀ r, s.delivers r = false := delivers_of_still (by rw [hpoint]; rfl)
  have hdelivers : ∀ r, (s.create id kind).delivers r = false := by
    intro r
    simp only [TunnelState.delivers, TunnelState.create]
    split
    · rename_i hp
      split at hp <;> cases hp
    · rfl
  have hspawned : ∀ n, (s.tasks n).phase ≠ .unspawned → n ≠ s.next := by
    rintro n hn rfl
    exact hn (hi.fresh _ (Nat.le_refl _))
  refine ⟨?_, ?_, ?_, ?_, ?_, ?_, ?_, ?_⟩
  · intro n hn
    have hn : s.next + 1 ≤ n := hn
    rw [hother n (by omega)]
    exact hi.fresh n (by omega)
  · intro id' n hl
    obtain ⟨hid, hearly⟩ := hi.streams id' n hl
    rw [hother n (hspawned n (by rintro hp; rw [hp] at hearly; cases hearly))]
    exact ⟨hid, hearly⟩
  · intro id' n hl
    obtain ⟨hlt, hid, hp⟩ := hi.bodies id' n hl
    rw [hpoint] at hp
    rw [hother n (by omega)]
    exact ⟨Nat.lt_succ_of_lt hlt, hid, .inl (hp.resolve_right (by rintro ⟨⟩))⟩
  · intro n hd
    rw [hdelivers] at hd
    cases hd
  · intro n hd
    rw [hdelivers] at hd
    cases hd
  · intro r hr
    rw [hdelivers]
    cases r with
    | stream n =>
      by_cases hne : n = s.next
      · subst hne
        simp only [TunnelState.sendersAt, hnew]
        rfl
      · simp only [TunnelState.attended, TunnelState.sendersAt, hother n hne] at hr ⊢
        exact (hi.waiters (.stream n) hr).trans (by rw [hstill])
    | body n =>
      by_cases hne : n = s.next
      · subst hne
        simp only [TunnelState.sendersAt, hnew]
        rfl
      · simp only [TunnelState.attended, TunnelState.sendersAt, hother n hne] at hr ⊢
        exact (hi.waiters (.body n) hr).trans (by rw [hstill])
  · intro n hc
    have hne : n ≠ s.next := by
      rintro rfl
      rw [hnew] at hc
      cases hc
    rw [hother n hne] at hc
    have hno := hi.closed n hc
    rw [Bool.eq_false_iff, ne_eq, TunnelState.streamSender_eq_true] at hno ⊢
    rw [hother n hne, hdelivers]
    exact fun hs => hno (.inl (hs.resolve_right Bool.false_ne_true))
  · intro n he
    have hne : n ≠ s.next := by
      rintro rfl
      rw [hnew] at he
      cases he
    rw [hother n hne] at he
    have hno := hi.ended n he
    rw [Bool.eq_false_iff, ne_eq, TunnelState.bodySender_eq_true] at hno ⊢
    rw [hother n hne, hdelivers]
    rintro (hl | hstoring | hd)
    · exact hno (.inl hl)
    · simp only [TunnelState.create] at hstoring
      split at hstoring <;> cases hstoring
      exact hne rfl
    · cases hd

/-- The task that is being set up has a body that has not ended. -/
theorem deliveryInv_store (hc : CancelInv s) (hi : DeliveryInv s) {n : Nat} (hpoint : s.point = .storing n) :
    DeliveryInv { s with
      httpBodies := s.httpBodies.insert (s.tasks n).id n, point := .registering n } := by
  have hstill : ∀ r, s.delivers r = false := by
    intro r
    simp only [TunnelState.delivers, hpoint]
  refine ⟨hi.fresh, hi.streams, ?_, fun m hd => (by cases hd), fun m hd => (by cases hd), ?_, ?_, ?_⟩
  · intro id m hl
    rcases HashMap.lookup_insert_some hl with ⟨rfl, rfl⟩ | ⟨_, hold⟩
    · exact ⟨(hc.pending m (by rw [hpoint]; rfl)).1, rfl, .inr rfl⟩
    · obtain ⟨hlt, hid, hp⟩ := hi.bodies id m hold
      rw [hpoint] at hp
      exact ⟨hlt, hid, hp⟩
  · intro r hr
    refine (hi.waiters r hr).trans ?_
    rw [hstill]
    rfl
  · intro m hm
    have hno := hi.closed m hm
    rw [Bool.eq_false_iff, ne_eq, TunnelState.streamSender_eq_true] at hno ⊢
    exact fun hs => hno (.inl (hs.resolve_right Bool.false_ne_true))
  · intro m he
    have hno := hi.ended m he
    rw [Bool.eq_false_iff, ne_eq, TunnelState.bodySender_eq_true] at hno ⊢
    rintro (hl | hstoring | hd)
    · rcases HashMap.lookup_insert_some hl with ⟨_, rfl⟩ | ⟨_, hold⟩
      · exact hno (.inr (.inl hpoint))
      · exact hno (.inl hold)
    · cases hstoring
    · cases hd

theorem keepsWaits_register {n : Nat} (hpoint : s.point = .registering n) :
    KeepsWaits s { s with
      streamCancels := s.streamCancels.insert (s.tasks n).id n
      todo := (s.streamCancels.lookup (s.tasks n).id).toList.map .cancel
      point := .spawning n } where
  next := rfl
  task _ := SameWaits.refl _
  streams _ _ h := h
  bodies _ _ h := h
  delivers r := by simp only [TunnelState.delivers, hpoint]
  pending m hm := by
    rw [hpoint] at hm
    exact hm
  storing m hm := by cases hm

/-- A step of one task, past its being set up. -/
theorem deliveryInv_setTask (hi : DeliveryInv s) {n : Nat} {t' : Task} {effect : Effect} (hlt : n < s.next)
    (hreceives : Task.Receives (s.surroundings n) (s.tasks n) t' effect) (hid : t'.id = (s.tasks n).id)
    (hopen : t'.bodyOpen = true → (s.tasks n).bodyOpen = true)
    (hend : t'.bodyEnd = true → (s.tasks n).bodyEnd = true ∨ s.bodySender n = false) :
    DeliveryInv (s.setTask n t') := by
  -- the task that moves, and the others
  have task : ∀ m {P : Task → Prop}, P t' → P (s.tasks m) → P ((s.setTask n t').tasks m) := by
    intro m P hnew hother
    by_cases hm : m = n
    · subst hm
      rw [TunnelState.setTask_self]
      exact hnew
    · rw [TunnelState.setTask_ne hm]
      exact hother
  have same : ∀ m, ((s.setTask n t').tasks m).id = (s.tasks m).id := by
    intro m
    by_cases hm : m = n
    · subst hm
      rw [TunnelState.setTask_self, hid]
    · rw [TunnelState.setTask_ne hm]
  have early : ∀ m, (s.tasks m).phase.early = false → ((s.setTask n t').tasks m).phase.early = false := by
    intro m hm
    by_cases hne : m = n
    · subst hne
      rw [TunnelState.setTask_self, Bool.eq_false_iff]
      exact fun h => Bool.eq_false_iff.mp hm (hreceives.early h)
    · rw [TunnelState.setTask_ne hne]
      exact hm
  refine ⟨?_, ?_, ?_, fun m hd => early m (hi.toStream m hd), fun m hd => ?_, fun r hr => ?_, ?_, ?_⟩
  · intro m hm
    have hm : s.next ≤ m := hm
    rw [TunnelState.setTask_ne (by omega)]
    exact hi.fresh m hm
  · intro id m hl
    obtain ⟨hid', hearly⟩ := hi.streams id m hl
    exact ⟨(same m).trans hid', early m hearly⟩
  · intro id m hl
    obtain ⟨hlt', hid', hp⟩ := hi.bodies id m hl
    refine ⟨hlt', (same m).trans hid', ?_⟩
    exact task m (P := fun t => t.phase ≠ .unspawned ∨ s.point.pending = some m) (.inl hreceives.spawned) hp
  · exact task m (P := fun t => t.phase ≠ .unspawned) hreceives.spawned (hi.toBody m hd)
  · cases r with
    | stream m =>
      by_cases hne : m = n
      · subst hne
        simp only [TunnelState.attended, TunnelState.sendersAt, TunnelState.setTask_self] at hr ⊢
        obtain ⟨hcurrent, hsenders⟩ := hreceives.current hr
        exact hsenders.trans (hi.waiters (.stream m) hcurrent)
      · simp only [TunnelState.attended, TunnelState.sendersAt, TunnelState.setTask_ne hne] at hr ⊢
        exact hi.waiters (.stream m) hr
    | body m =>
      by_cases hne : m = n
      · subst hne
        simp only [TunnelState.attended, TunnelState.sendersAt, TunnelState.setTask_self] at hr ⊢
        exact hreceives.body.trans (hi.waiters (.body m) (hopen hr))
      · simp only [TunnelState.attended, TunnelState.sendersAt, TunnelState.setTask_ne hne] at hr ⊢
        exact hi.waiters (.body m) hr
  · intro m hm
    have hno : s.streamSender m = false := by
      by_cases hne : m = n
      · subst hne
        rw [TunnelState.setTask_self] at hm
        exact (hreceives.closed hm).elim (hi.closed m) id
      · rw [TunnelState.setTask_ne hne] at hm
        exact hi.closed m hm
    rw [Bool.eq_false_iff, ne_eq, TunnelState.streamSender_eq_true] at hno ⊢
    rw [same]
    exact hno
  · intro m hm
    have hno : s.bodySender m = false := by
      by_cases hne : m = n
      · subst hne
        rw [TunnelState.setTask_self] at hm
        exact (hend hm).elim (hi.ended m) id
      · rw [TunnelState.setTask_ne hne] at hm
        exact hi.ended m hm
    rw [Bool.eq_false_iff, ne_eq, TunnelState.bodySender_eq_true] at hno ⊢
    rw [same]
    exact hno

theorem deliveryInv_spawn (hc : CancelInv s) (hi : DeliveryInv s) {n : Nat} (hpoint : s.point = .spawning n) :
    DeliveryInv { s.setTask n { s.tasks n with phase := TunnelState.firstPhase (s.tasks n).kind } with
      point := .select } := by
  obtain ⟨hlt, hphase⟩ := hc.pending n (by rw [hpoint]; rfl)
  have hreceives : Task.Receives (s.surroundings n) (s.tasks n)
      { s.tasks n with phase := TunnelState.firstPhase (s.tasks n).kind } .quiet := by
    refine Task.receives_onward ?_ rfl rfl nofun
    rw [hphase]
    cases (s.tasks n).kind <;> exact ⟨nofun, fun _ => rfl, fun _ => rfl, fun h => (by cases h)⟩
  have hset := deliveryInv_setTask hi hlt hreceives rfl (fun h => h) .inl
  have hstill : ∀ r, s.delivers r = false := by
    intro r
    simp only [TunnelState.delivers, hpoint]
  refine ⟨hset.fresh, hset.streams, ?_, fun m hd => (by cases hd), fun m hd => (by cases hd), ?_, ?_, ?_⟩
  · intro id m hl
    obtain ⟨hlt', hid, hp⟩ := hset.bodies id m hl
    refine ⟨hlt', hid, .inl (hp.elim (fun h => h) fun hsome => ?_)⟩
    have hsome : s.point.pending = some m := hsome
    rw [hpoint] at hsome
    cases hsome
    show ((s.setTask n _).tasks n).phase ≠ _
    rw [TunnelState.setTask_self]
    exact hreceives.spawned
  · exact fun r hr => (hset.waiters r hr).trans (congrArg waitersOf (hstill _))
  · intro m hm
    have hno := hset.closed m hm
    rw [Bool.eq_false_iff, ne_eq, TunnelState.streamSender_eq_true] at hno ⊢
    exact fun h => hno (.inl (h.resolve_right Bool.false_ne_true))
  · intro m hm
    have hno := hset.ended m hm
    rw [Bool.eq_false_iff, ne_eq, TunnelState.bodySender_eq_true] at hno ⊢
    exact fun h => hno (.inl (h.resolve_right (by rintro (h | h) <;> cases h)))

theorem keepsWaits_apply (n : Nat) {effect : Effect} (h : effect ≠ .insertStream) :
    KeepsWaits s (s.apply n effect) := by
  have erased : ∀ {m : HashMap StreamId Nat} {id id' : StreamId} {n : Nat},
      (m.erase id).lookup id' = some n → m.lookup id' = some n := fun h => (HashMap.lookup_erase_some h).2
  cases effect with
  | insertStream => exact absurd rfl h
  | quiet | send out =>
    exact ⟨rfl, fun _ => SameWaits.refl _, fun _ _ h => h, fun _ _ h => h, fun _ => rfl, fun _ h => h,
      fun _ h => h⟩
  | removeStream =>
    exact ⟨rfl, fun _ => SameWaits.refl _, fun _ _ => erased, fun _ _ h => h, fun _ => rfl, fun _ h => h,
      fun _ h => h⟩
  | removeBody =>
    exact ⟨rfl, fun _ => SameWaits.refl _, fun _ _ h => h, fun _ _ => erased, fun _ => rfl, fun _ h => h,
      fun _ h => h⟩
  | unregister =>
    simp only [TunnelState.apply]
    split <;> exact ⟨rfl, fun _ => SameWaits.refl _, fun _ _ h => h, fun _ _ h => h, fun _ => rfl,
      fun _ h => h, fun _ h => h⟩

/-- The stream's sender is inserted once the task listens. -/
theorem deliveryInv_insertStream (hi : DeliveryInv s) {n : Nat} (hearly : (s.tasks n).phase.early = false)
    (hclosed : (s.tasks n).phase.accessClosed = false) : DeliveryInv (s.apply n .insertStream) := by
  refine ⟨hi.fresh, ?_, hi.bodies, hi.toStream, hi.toBody, hi.waiters, ?_, hi.ended⟩
  · intro id m hl
    rcases HashMap.lookup_insert_some hl with ⟨rfl, rfl⟩ | ⟨_, hold⟩
    · exact ⟨rfl, hearly⟩
    · exact hi.streams id m hold
  · intro m hm
    change (s.tasks m).phase.accessClosed = true at hm
    have hno := hi.closed m hm
    rw [Bool.eq_false_iff, ne_eq, TunnelState.streamSender_eq_true] at hno ⊢
    rintro (hl | hd)
    · rcases HashMap.lookup_insert_some hl with ⟨_, rfl⟩ | ⟨_, hold⟩
      · rw [hclosed] at hm
        cases hm
      · exact hno (.inl hold)
    · exact hno (.inr hd)

theorem deliveryInv_task (hi : DeliveryInv s) {n : Nat} {op : TaskOp} {t' : Task} {effect : Effect}
    (hstep : (s.tasks n).step (s.surroundings n) op = some (t', effect)) :
    DeliveryInv ((s.setTask n t').apply n effect) := by
  have ha := Task.advance_step hstep
  have hr := Task.receives_step hstep
  have hlt : n < s.next := by
    by_contra hge
    exact ha.spawned (hi.fresh n (by omega))
  have hset := deliveryInv_setTask hi hlt hr ha.id ha.bodyOpen fun h => (ha.bodyEnd h).imp_right And.right
  by_cases heffect : effect = .insertStream
  · subst heffect
    obtain ⟨hearly, hclosed⟩ := hr.inserts rfl
    refine deliveryInv_insertStream hset ?_ ?_
    · rw [TunnelState.setTask_self]
      exact hearly
    · rw [TunnelState.setTask_self]
      exact hclosed
  · exact (keepsWaits_apply n heffect).inv hset

/-! ### Going to a channel, and leaving it -/

theorem sendersAt_setChannel (n : Nat) (channel : TcpChannel) (s : TunnelState) (r : Receiver) :
    (s.setTask n { s.tasks n with channel }).sendersAt r =
      if r = .stream n then channel.senders else s.sendersAt r := by
  cases r with
  | stream m =>
    by_cases hm : m = n
    · subst hm
      simp only [TunnelState.sendersAt, TunnelState.setTask_self, if_true]
    · simp only [TunnelState.sendersAt, TunnelState.setTask_ne hm, Receiver.stream.injEq, hm, if_false]
  | body m =>
    by_cases hm : m = n
    · subst hm
      simp only [TunnelState.sendersAt, TunnelState.setTask_self, reduceCtorEq, if_false]
    · simp only [TunnelState.sendersAt, TunnelState.setTask_ne hm, reduceCtorEq, if_false]

theorem sendersAt_setBody (n : Nat) (body : HttpBody) (s : TunnelState) (r : Receiver) :
    (s.setTask n { s.tasks n with body }).sendersAt r =
      if r = .body n then body.senders else s.sendersAt r := by
  cases r with
  | stream m =>
    by_cases hm : m = n
    · subst hm
      simp only [TunnelState.sendersAt, TunnelState.setTask_self, reduceCtorEq, if_false]
    · simp only [TunnelState.sendersAt, TunnelState.setTask_ne hm, reduceCtorEq, if_false]
  | body m =>
    by_cases hm : m = n
    · subst hm
      simp only [TunnelState.sendersAt, TunnelState.setTask_self, if_true]
    · simp only [TunnelState.sendersAt, TunnelState.setTask_ne hm, Receiver.body.injEq, hm, if_false]

theorem sendersAt_deliverTo (r r' : Receiver) (id : StreamId) (payload : Bytes) (s : TunnelState) :
    (s.deliverTo r id payload).sendersAt r' =
      if r' = r then s.sendersAt r ++ [()] else s.sendersAt r' := by
  cases r with
  | stream n => exact (sendersAt_setChannel ..).trans (by rw [BoundedChannel.senders_request]; rfl)
  | body n => exact (sendersAt_setBody ..).trans (by rw [BoundedChannel.senders_request]; rfl)

theorem sendersAt_put {r : Receiver} {payload : Bytes} {u : TunnelState} (h : s.put payload r = some u)
    (r' : Receiver) :
    u.sendersAt r' = if r' = r then (s.sendersAt r).erase () else s.sendersAt r' := by
  cases r with
  | stream n =>
    obtain ⟨channel, hput, rfl⟩ := Option.map_eq_some_iff.mp h
    rw [sendersAt_setChannel, BoundedChannel.senders_put hput]
    rfl
  | body n =>
    obtain ⟨body, hput, rfl⟩ := Option.map_eq_some_iff.mp h
    rw [sendersAt_setBody, BoundedChannel.senders_put hput]
    rfl

theorem quiet_put {r : Receiver} {payload : Bytes} {u : TunnelState} (h : s.put payload r = some u) :
    Quiet s u := by
  cases r with
  | stream n =>
    obtain ⟨channel, _, rfl⟩ := Option.map_eq_some_iff.mp h
    exact TunnelState.quiet_setTask ⟨_, _, rfl⟩
  | body n =>
    obtain ⟨body, _, rfl⟩ := Option.map_eq_some_iff.mp h
    exact TunnelState.quiet_setTask ⟨_, _, rfl⟩

theorem sendersAt_withdraw {r : Receiver} {id : StreamId} {payload : Bytes}
    (hpoint : s.point = .delivering r id payload) (r' : Receiver) :
    s.withdraw.sendersAt r' = if r' = r then (s.sendersAt r).erase () else s.sendersAt r' := by
  cases r with
  | stream n =>
    rw [TunnelState.withdraw, hpoint]
    exact (sendersAt_setChannel ..).trans (by rw [BoundedChannel.senders_withdraw]; rfl)
  | body n =>
    rw [TunnelState.withdraw, hpoint]
    exact (sendersAt_setBody ..).trans (by rw [BoundedChannel.senders_withdraw]; rfl)

theorem deliveryInv_deliverTo (hi : DeliveryInv s) (hpoint : s.point.still = true) {r : Receiver}
    {id : StreamId} {payload : Bytes} (hr : s.hasSender r = true) :
    DeliveryInv (s.deliverTo r id payload) := by
  have hdelivers : ∀ r', (s.deliverTo r id payload).delivers r' = decide (r = r') := fun _ => rfl
  refine deliveryInv_quiet hi (TunnelState.quiet_deliverTo r id payload s) (pending_of_still hpoint) rfl
    (fun r' hd => ?_) (fun r' hr' => ?_)
  · rw [hdelivers, decide_eq_true_eq] at hd
    exact hd ▸ hr
  · have hnone : s.sendersAt r' = [] := by
      rw [hi.waiters r' hr', delivers_of_still hpoint]
      rfl
    rw [sendersAt_deliverTo, hdelivers]
    by_cases heq : r' = r
    · subst heq
      rw [if_pos rfl, hnone, decide_eq_true rfl]
      rfl
    · rw [if_neg heq, hnone, decide_eq_false (Ne.symm heq)]
      rfl

/-- The wait is over, or its receiver has gone. -/
theorem deliveryInv_left (hi : DeliveryInv s) {r : Receiver} {id : StreamId} {payload : Bytes}
    (hpoint : s.point = .delivering r id payload) (hq : Quiet s t) (ht : t.point.still = true)
    (hothers : ∀ r', r' ≠ r → t.sendersAt r' = s.sendersAt r')
    (hleft : s.receives r = true → t.sendersAt r = []) : DeliveryInv t := by
  have hdelivers : ∀ r', s.delivers r' = decide (r = r') := fun r' => by
    rw [TunnelState.delivers, hpoint]
  have hstill := delivers_of_still ht
  refine deliveryInv_quiet hi hq (by rw [hpoint]; rfl) (pending_of_still ht) (fun r' hd => ?_)
    (fun r' hr' => ?_)
  · rw [hstill] at hd
    cases hd
  · rw [hstill]
    by_cases heq : r' = r
    · subst heq
      refine hleft ?_
      cases r' with
      | body n => exact hr'
      | stream n =>
        refine (Bool.or_eq_true_iff.mp hr').resolve_left fun hearly => ?_
        rw [hi.toStream n (by rw [hdelivers, decide_eq_true rfl])] at hearly
        cases hearly
    · rw [hothers r' heq, hi.waiters r' hr', hdelivers, decide_eq_false (Ne.symm heq)]

/-- Where the session task delivers there is one wait: what takes it out leaves none. -/
theorem DeliveryInv.erased (hi : DeliveryInv s) {r : Receiver} {id : StreamId} {payload : Bytes}
    (hpoint : s.point = .delivering r id payload) (hr : s.receives r = true) :
    (s.sendersAt r).erase () = [] := by
  have hdelivers : s.delivers r = true := TunnelState.delivers_eq_true.mpr ⟨id, payload, hpoint⟩
  have hattended : s.attended r = true := by
    cases r with
    | body n => exact hr
    | stream n => exact Bool.or_eq_true_iff.mpr (.inr hr)
  rw [hi.waiters r hattended, hdelivers]
  rfl

/-- What takes the session task out of its wait. -/
theorem deliveryInv_erased (hi : DeliveryInv s) {r : Receiver} {id : StreamId} {payload : Bytes}
    (hpoint : s.point = .delivering r id payload) (hq : Quiet s t) (ht : t.point.still = true)
    (hsenders : ∀ r', t.sendersAt r' = if r' = r then (s.sendersAt r).erase () else s.sendersAt r') :
    DeliveryInv t := by
  refine deliveryInv_left hi hpoint hq ht (fun r' hne => ?_) fun hr => ?_
  · rw [hsenders, if_neg hne]
  · rw [hsenders, if_pos rfl]
    exact hi.erased hpoint hr

theorem deliveryInv_withdraw (hi : DeliveryInv s) (hs : s.point.pending = none) (todo : List Statement)
    {point : Point} (hp : point.still = true) : DeliveryInv { s.withdraw with todo, point } := by
  by_cases hdelivering : ∃ r id payload, s.point = .delivering r id payload
  · obtain ⟨r, id, payload, hpoint⟩ := hdelivering
    have hq := TunnelState.quiet_withdraw s
    exact deliveryInv_erased hi hpoint
      ⟨hq.streams, hq.streamCancels, hq.httpBodies, hq.next, hq.sent, hq.task⟩ hp
      (sendersAt_withdraw hpoint)
  · have hstill : s.point.still = true := by
      cases hpoint : s.point with
      | delivering r id payload => exact absurd ⟨r, id, payload, hpoint⟩ hdelivering
      | storing n | registering n | spawning n =>
        rw [hpoint] at hs
        cases hs
      | _ => rfl
    have hw : s.withdraw = s := by
      unfold TunnelState.withdraw
      split <;> rename_i hpoint
      · exact absurd ⟨_, _, _, hpoint⟩ hdelivering
      · exact absurd ⟨_, _, _, hpoint⟩ hdelivering
      · rfl
    rw [hw]
    exact (keepsWaits_still todo hstill hp).inv hi

/-! ### Every step -/

theorem deliveryInv_start (hi : DeliveryInv s) {m : Message} (hpoint : s.point = .handling m) :
    DeliveryInv (s.start m) := by
  have hstill : s.point.still = true := by rw [hpoint]; rfl
  have moves : ∀ (todo : List Statement) {point : Point}, point.still = true →
      DeliveryInv { s with todo, point } := fun todo _ hp => (keepsWaits_still todo hstill hp).inv hi
  unfold TunnelState.start
  split
  · split
    · exact deliveryInv_create hi hpoint _ _
    · exact moves s.todo rfl
  · split
    · exact deliveryInv_create hi hpoint _ _
    · exact moves s.todo rfl
  · split
    · exact deliveryInv_create hi hpoint _ _
    · exact moves s.todo rfl
  · exact moves _ rfl
  · exact moves _ rfl
  · exact moves _ rfl
  · exact moves s.todo rfl
  · exact moves s.todo rfl
  · exact moves _ rfl

theorem deliveryInv_dispatch (hi : DeliveryInv s) (hs : s.dispatch = some t) : DeliveryInv t := by
  obtain ⟨_, hs⟩ := TunnelState.atPoint_some hs
  split at hs <;> rename_i hpoint
  · have hstill : s.point.still = true := by rw [hpoint]; rfl
    cases hs
    split
    · rename_i hl
      refine deliveryInv_deliverTo hi hstill (r := .body _) (TunnelState.bodySender_eq_true.mpr (.inl ?_))
      rw [(hi.bodies _ _ hl).2.1]
      exact hl
    · rename_i hl
      refine deliveryInv_deliverTo hi hstill (r := .stream _) (TunnelState.streamSender_eq_true.mpr (.inl ?_))
      rw [(hi.streams _ _ hl).1]
      exact hl
    · exact (keepsWaits_still s.todo hstill rfl).inv hi
  · cases hs

theorem deliveryInv_delivered (hi : DeliveryInv s) (hs : s.delivered = some t) : DeliveryInv t := by
  obtain ⟨_, _, hs⟩ := TunnelState.inHandling_some hs
  split at hs
  · rename_i r id payload hpoint
    split at hs
    · obtain ⟨u, hput, rfl⟩ := Option.map_eq_some_iff.mp hs
      have hq := quiet_put hput
      have hsenders := sendersAt_put hput
      exact deliveryInv_erased hi hpoint
        ⟨hq.streams, hq.streamCancels, hq.httpBodies, hq.next, hq.sent, hq.task⟩ rfl hsenders
    · cases hs
  · cases hs

theorem deliveryInv_undelivered (hi : DeliveryInv s) (hs : s.undelivered = some t) : DeliveryInv t := by
  obtain ⟨_, _, hs⟩ := TunnelState.inHandling_some hs
  split at hs <;> rename_i hpoint
  · split at hs
    · cases hs
    · rename_i hgone
      have gone : ∀ (todo : List Statement) {point : Point}, point.still = true →
          DeliveryInv { s with todo, point } := fun todo point hp =>
        deliveryInv_left hi hpoint ⟨rfl, rfl, rfl, rfl, rfl, fun _ => Task.Alike.refl _⟩ hp
          (fun _ _ => rfl) fun hr => absurd hr hgone
      split at hs <;> cases hs
      · exact gone _ rfl
      · exact gone _ rfl
  · cases hs

theorem deliveryInv_step {op : TunnelOp} (hc : CancelInv s) (hi : DeliveryInv s)
    (hs : tunnel.step op s = some t) : DeliveryInv t := by
  have moves : s.point.still = true → ∀ (todo : List Statement) {point : Point}, point.still = true →
      DeliveryInv { s with todo, point } := fun h todo _ hp => (keepsWaits_still todo h hp).inv hi
  have selects : ∀ {point : Point}, point.still = true →
      s.atSelect { s with point } = some t → DeliveryInv t := by
    intro point hp hs
    obtain ⟨_, hpoint, _, rfl⟩ := TunnelState.atSelect_some hs
    exact moves (by rw [hpoint]; rfl) s.todo hp
  have frame : KeepsWaits s t → DeliveryInv t := fun h => h.inv hi
  cases op with
  | cancelLease error | writerEnds =>
    cases hs
    exact frame ⟨rfl, fun _ => SameWaits.refl _, fun _ _ h => h, fun _ _ h => h, fun _ => rfl,
      fun _ h => h, fun _ h => h⟩
  | message m =>
    refine selects ?_ hs
    split <;> rfl
  | data id payload => exact selects rfl hs
  | tick => exact selects rfl hs
  | authorized =>
    change s.authorized = some t at hs
    obtain ⟨_, _, hs⟩ := TunnelState.inHandling_some hs
    split at hs <;> rename_i hpoint <;> cases hs
    exact moves (by rw [hpoint]; rfl) s.todo rfl
  | denied error =>
    change s.denied error = some t at hs
    obtain ⟨_, _, hs⟩ := TunnelState.inHandling_some hs
    split at hs <;> rename_i hpoint <;> cases hs
    exact moves (by rw [hpoint]; rfl) s.todo rfl
  | exec =>
    change s.exec = some t at hs
    unfold TunnelState.exec at hs
    split at hs <;> cases hs
    rename_i x rest _
    have hrest : DeliveryInv { s with todo := rest } :=
      ⟨hi.fresh, hi.streams, hi.bodies, hi.toStream, hi.toBody, hi.waiters, hi.closed, hi.ended⟩
    exact (keepsWaits_run x _).inv hrest
  | handle =>
    change s.handle = some t at hs
    obtain ⟨_, hs⟩ := TunnelState.atPoint_some hs
    split at hs <;> rename_i hpoint <;> cases hs
    split
    · exact moves (by rw [hpoint]; rfl) s.todo rfl
    · exact deliveryInv_start hi hpoint
  | store =>
    change s.store = some t at hs
    obtain ⟨_, hs⟩ := TunnelState.atPoint_some hs
    split at hs <;> rename_i hpoint <;> cases hs
    exact deliveryInv_store hc hi hpoint
  | register =>
    change s.register = some t at hs
    obtain ⟨_, hs⟩ := TunnelState.atPoint_some hs
    split at hs <;> rename_i hpoint <;> cases hs
    exact frame (keepsWaits_register hpoint)
  | spawn =>
    change s.spawn = some t at hs
    obtain ⟨_, hs⟩ := TunnelState.atPoint_some hs
    split at hs <;> rename_i hpoint <;> cases hs
    exact deliveryInv_spawn hc hi hpoint
  | dispatch => exact deliveryInv_dispatch hi hs
  | delivered => exact deliveryInv_delivered hi hs
  | undelivered => exact deliveryInv_undelivered hi hs
  | replied =>
    obtain ⟨_, hs⟩ := Option.ite_none_right_eq_some.mp hs
    obtain ⟨_, hs⟩ := TunnelState.atPoint_some hs
    split at hs <;> rename_i hpoint
    · obtain ⟨_, hs⟩ := Option.ite_none_right_eq_some.mp hs
      cases hs
      exact moves (by rw [hpoint]; rfl) s.todo rfl
    · cases hs
      exact moves (by rw [hpoint]; rfl) s.todo rfl
    · cases hs
  | notReplied =>
    obtain ⟨_, hs⟩ := Option.ite_none_left_eq_some.mp hs
    obtain ⟨_, hs⟩ := TunnelState.atPoint_some hs
    split at hs <;> rename_i hpoint
    · obtain ⟨_, hs⟩ := Option.ite_none_right_eq_some.mp hs
      cases hs
      split
      · exact moves (by rw [hpoint]; rfl) _ rfl
      · exact moves (by rw [hpoint]; rfl) s.todo rfl
    · cases hs
      exact moves (by rw [hpoint]; rfl) _ rfl
    · cases hs
  | interrupt =>
    obtain ⟨_, hs⟩ := Option.ite_none_left_eq_some.mp hs
    obtain ⟨_, hs⟩ := TunnelState.atPoint_some hs
    split at hs <;> rename_i hpoint <;> cases hs
    all_goals exact deliveryInv_withdraw hi (by rw [hpoint]; rfl) _ rfl
  | leaseEnds =>
    obtain ⟨_, hs⟩ := Option.ite_none_left_eq_some.mp hs
    obtain ⟨_, hs⟩ := TunnelState.atPoint_some hs
    split at hs <;> rename_i hpoint <;> cases hs
    exact moves (by rw [hpoint]; rfl) _ rfl
  | finish =>
    change s.finish = some t at hs
    obtain ⟨_, hs⟩ := TunnelState.atPoint_some hs
    have hend : s.point.pending = none → DeliveryInv s.withdraw.endSession := fun h =>
      deliveryInv_withdraw hi h _ rfl
    cases hpoint : s.point with
    | handling m | storing n | registering n | spawning n | dispatching id payload | ended =>
      rw [hpoint] at hs
      cases hs
    | _ =>
      rw [hpoint] at hs
      cases hs
      exact hend (by rw [hpoint]; rfl)
  | task n op =>
    obtain ⟨⟨t', effect⟩, hstep, rfl⟩ := Option.map_eq_some_iff.mp hs
    exact deliveryInv_task hi hstep

end Steps

/-- **The session task is the one that waits at a channel**, where it is delivering,
and it delivers to no stream that has received the end of its channel. -/
theorem deliveryInv_reachable {s : TunnelState} (h : tunnel.Reachable s) : DeliveryInv s := by
  refine h.invariant ?_ fun _ _ _ hr hi _ hs => deliveryInv_step (cancelInv_reachable hr) hi hs
  intro s hs
  cases hs
  refine ⟨fun _ _ => rfl, fun _ _ h => (by cases h), fun _ _ h => (by cases h), fun _ h => (by cases h),
    fun _ h => (by cases h), fun r hr => ?_, fun _ h => (by cases h), fun _ h => (by cases h)⟩
  cases r <;> rfl

end WsNet.Gateway
