import WsNet.Relay.TargetTask

/-! Every run of the gateway's end.

A step of a task, put into its session; a frame that is decrypted; and then all steps:
while the access delivers what it may, the invariant holds of every state reached. -/
namespace WsNet.Relay
open Gateway Data Transition

section Target
variable [MessageCodec] {s : TargetSide} {t : TunnelState} {n : Nat}

/-! ### A step of a task -/

namespace TargetSide

/-- The state after a step of a task. -/
def afterTask (n : Nat) (t' : Task) (effect : Effect) (k : TargetSocket) (l : List WsMessage) (s : TargetSide) :
    TargetSide :=
  { s.setSocket n k with tunnel := (s.tunnel.setTask n t').apply n effect, produced := s.produced ++ l }

variable {t' : Task} {effect : Effect} {k : TargetSocket} {l : List WsMessage}

omit [MessageCodec] in
variable (s n t' effect k l) in
theorem afterTask_self : (s.afterTask n t' effect k l).tunnel.tasks n = t' := by
  have hframe := TunnelState.apply_frame n effect (s.tunnel.setTask n t')
  show ((s.tunnel.setTask n t').apply n effect).tasks n = t'
  rw [hframe.tasks, TunnelState.setTask_self]

omit [MessageCodec] in
variable (s t' effect k l) in
theorem afterTask_ne {m : Nat} (hm : m ≠ n) :
    (s.afterTask n t' effect k l).tunnel.tasks m = s.tunnel.tasks m ∧
      (s.afterTask n t' effect k l).sockets m = s.sockets m := by
  have hframe := TunnelState.apply_frame n effect (s.tunnel.setTask n t')
  refine ⟨?_, Function.update_of_ne hm _ _⟩
  show ((s.tunnel.setTask n t').apply n effect).tasks m = s.tunnel.tasks m
  rw [hframe.tasks, TunnelState.setTask_ne hm]

omit [MessageCodec] in
/-- The entries of other streams stay, and that of its own is the task's or gone. -/
theorem lookup_afterTask (hid : t'.id = (s.tunnel.tasks n).id) {id : StreamId} (hne : id ≠ (s.tunnel.tasks n).id) :
    (s.afterTask n t' effect k l).tunnel.streams.lookup id = s.tunnel.streams.lookup id := by
  have hne' : id ≠ ((s.tunnel.setTask n t').tasks n).id := by
    rw [TunnelState.setTask_self, hid]
    exact hne
  show ((s.tunnel.setTask n t').apply n effect).streams.lookup id = _
  cases effect with
  | insertStream => exact AList.lookup_insert_ne hne'
  | removeStream => exact AList.lookup_erase_ne hne'
  | unregister =>
    simp only [TunnelState.apply]
    split <;> rfl
  | _ => rfl

omit [MessageCodec] in
theorem lookup_own (hid : t'.id = (s.tunnel.tasks n).id) :
    (s.afterTask n t' effect k l).tunnel.streams.lookup (s.tunnel.tasks n).id =
      match effect with
      | .insertStream => some n
      | .removeStream => none
      | _ => s.tunnel.streams.lookup (s.tunnel.tasks n).id := by
  have hself : ((s.tunnel.setTask n t').tasks n).id = (s.tunnel.tasks n).id := by
    rw [TunnelState.setTask_self, hid]
  show ((s.tunnel.setTask n t').apply n effect).streams.lookup _ = _
  cases effect with
  | insertStream =>
    simp only [TunnelState.apply, hself]
    exact AList.lookup_insert _
  | removeStream =>
    simp only [TunnelState.apply, hself]
    exact AList.lookup_erase _ _
  | unregister =>
    simp only [TunnelState.apply]
    split <;> rfl
  | _ => rfl

omit [MessageCodec] in
theorem bodies_afterTask {id : StreamId} {m : Nat}
    (hl : (s.afterTask n t' effect k l).tunnel.httpBodies.lookup id = some m) :
    s.tunnel.httpBodies.lookup id = some m := by
  have hl : ((s.tunnel.setTask n t').apply n effect).httpBodies.lookup id = some m := hl
  cases effect with
  | removeBody => exact (HashMap.lookup_erase_some hl).2
  | unregister =>
    simp only [TunnelState.apply] at hl
    split at hl
    · exact hl
    · exact hl
  | _ => exact hl

variable (s n t' effect k l) in
theorem producedFor_afterTask (id : StreamId) :
    (s.afterTask n t' effect k l).producedFor id = s.producedFor id ++ eventsIn id l := eventsIn_append ..

/-- The view of the task after its step. -/
theorem view_afterTask (hid : t'.id = (s.tunnel.tasks n).id) :
    (s.afterTask n t' effect k l).view n = (s.view n).after t' effect k l := by
  have hframe := TunnelState.apply_frame n effect (s.tunnel.setTask n t')
  have hlease : (s.afterTask n t' effect k l).tunnel.lease = s.tunnel.lease := hframe.lease
  have hpoint : (s.afterTask n t' effect k l).tunnel.point = s.tunnel.point := hframe.point
  have hdelivers : (s.afterTask n t' effect k l).tunnel.delivers (.stream n) = s.tunnel.delivers (.stream n) := by
    rw [TunnelState.delivers, hpoint, TunnelState.delivers]
  have hentry : decide ((s.afterTask n t' effect k l).tunnel.streams.lookup
        ((s.afterTask n t' effect k l).tunnel.tasks n).id = some n) =
      entryAfter effect (decide (s.tunnel.streams.lookup (s.tunnel.tasks n).id = some n)) := by
    rw [afterTask_self, hid, lookup_own hid]
    cases effect with
    | insertStream => exact decide_eq_true rfl
    | removeStream => exact decide_eq_false fun h => by cases h
    | _ => rfl
  have hsocket : (s.afterTask n t' effect k l).sockets n = k := Function.update_self ..
  simp only [view, TargetView.after, afterTask_self, hid, hlease, hpoint, hdelivers, hentry, hsocket,
    producedFor_afterTask]
  rfl

/-- The view of another task. -/
theorem view_afterTask_ne {m : Nat} (hm : m ≠ n) (hid : t'.id = (s.tunnel.tasks n).id)
    (hne : (s.tunnel.tasks m).id ≠ (s.tunnel.tasks n).id) (hl : eventsIn (s.tunnel.tasks m).id l = []) :
    (s.afterTask n t' effect k l).view m = s.view m := by
  have hframe := TunnelState.apply_frame n effect (s.tunnel.setTask n t')
  have hlease : (s.afterTask n t' effect k l).tunnel.lease = s.tunnel.lease := hframe.lease
  have hpoint : (s.afterTask n t' effect k l).tunnel.point = s.tunnel.point := hframe.point
  have hdelivers : (s.afterTask n t' effect k l).tunnel.delivers (.stream m) = s.tunnel.delivers (.stream m) := by
    rw [TunnelState.delivers, hpoint, TunnelState.delivers]
  obtain ⟨htask, hsocket⟩ := afterTask_ne s t' effect k l hm
  have hentry : decide ((s.afterTask n t' effect k l).tunnel.streams.lookup
        ((s.afterTask n t' effect k l).tunnel.tasks m).id = some m) =
      decide (s.tunnel.streams.lookup (s.tunnel.tasks m).id = some m) := by
    rw [htask, lookup_afterTask hid hne]
  simp only [view, htask, hsocket, hlease, hpoint, hdelivers, hentry, producedFor_afterTask, hl, List.append_nil]
  rfl

end TargetSide

open TargetSide

/-- A task that keeps what it has to goes on, and the others stay. -/
theorem Keeps.grows {t' : Task} {effect : Effect} {k : TargetSocket} {l : List WsMessage}
    (hk : Keeps (s.view n) (s.tunnel.tasks n) t' effect k l) : Grows s (s.afterTask n t' effect k l) := by
  have hself := afterTask_self s n t' effect k l
  have hother := fun {m : Nat} (hm : m ≠ n) => (afterTask_ne s t' effect k l hm).1
  refine ⟨(TunnelState.apply_frame n effect (s.tunnel.setTask n t')).next.ge, fun m _ => ?_, fun m _ => ?_,
    fun m _ hstage => ?_, fun m _ hstage => ?_⟩
  · by_cases hm : m = n
    · rw [hm, hself, hk.id]
    · rw [hother hm]
  · by_cases hm : m = n
    · rw [hm, hself, hk.kind]
    · rw [hother hm]
  · by_cases hm : m = n
    · rw [hm, hself]
      exact fun hb => hstage (hm ▸ hk.spawned hb)
    · rw [hother hm]
      exact hstage
  · by_cases hm : m = n
    · rw [hm, hself]
      exact hk.gone (hm ▸ hstage)
    · rw [hother hm, hstage]

omit [MessageCodec] in
/-- An entry after the step of a task is one from before, or it is its own, just made. -/
theorem streams_afterTask {t' : Task} {effect : Effect} {k : TargetSocket} {l : List WsMessage} {id : StreamId}
    {m : Nat} (hid : t'.id = (s.tunnel.tasks n).id)
    (hl : (s.afterTask n t' effect k l).tunnel.streams.lookup id = some m) :
    s.tunnel.streams.lookup id = some m ∨ effect = .insertStream ∧ m = n ∧ (s.tunnel.tasks n).id = id := by
  by_cases hown : id = (s.tunnel.tasks n).id
  · rw [hown, lookup_own hid] at hl
    cases effect with
    | insertStream =>
      cases hl
      exact .inr ⟨rfl, rfl, hown.symm⟩
    | removeStream => cases hl
    | _ =>
      rw [hown]
      exact .inl hl
  · rw [lookup_afterTask hid hown] at hl
    exact .inl hl

/-- **A step of a task**, when it keeps what it has to. -/
theorem TargetInv.ofTask (h : TargetInv s) {t' : Task} {effect : Effect} {k : TargetSocket} {l : List WsMessage}
    (hn : n < s.tunnel.next) (hset : s.tunnel.point.pending ≠ some n)
    (hk : Keeps (s.view n) (s.tunnel.tasks n) t' effect k l) : TargetInv (s.afterTask n t' effect k l) := by
  have hg := h.whole
  have hgrows := hk.grows
  have hframe := TunnelState.apply_frame n effect (s.tunnel.setTask n t')
  have hnext : (s.afterTask n t' effect k l).tunnel.next = s.tunnel.next := hframe.next
  have hpoint : (s.afterTask n t' effect k l).tunnel.point = s.tunnel.point := hframe.point
  have htodo : (s.afterTask n t' effect k l).tunnel.todo = s.tunnel.todo := hframe.todo
  have hproduced := producedFor_afterTask s n t' effect k l
  have hevents : ∀ {id}, id ≠ (s.tunnel.tasks n).id → eventsIn id l = [] := fun hne => hk.events _ hne
  refine ⟨⟨fun m hm => ?_, fun i j hi hj hij => ?_, fun m hm => ?_, fun m hm => ?_, fun m hm => ?_,
    fun id m hl => ?_, fun id m hl => ?_, ?_, fun x hx => ?_, fun hne receiver => ?_, hg.behaved,
    fun id hstart hc => ?_, fun id hne => ?_, fun frame id bytes hmem hdecode => ?_⟩, fun m hm htcp => ?_⟩
  · have hm : s.tunnel.next ≤ m := hnext ▸ hm
    obtain ⟨htask, hsocket⟩ := afterTask_ne s t' effect k l (show m ≠ n by omega)
    rw [htask, hsocket]
    exact hg.late m hm
  · rw [hnext] at hi hj
    rw [hgrows.id i hi, hgrows.id j hj] at hij
    exact hg.ids i j hi hj hij
  · rw [hnext] at hm
    rw [hgrows.id m hm]
    exact hg.small m hm
  · rw [hnext] at hm
    rw [hgrows.id m hm, hgrows.kind m hm]
    exact hg.started m hm
  · rw [hnext] at hm
    by_cases hmn : m = n
    · rw [hmn, afterTask_self]
      exact hk.shaped
    · rw [(afterTask_ne s t' effect k l hmn).1]
      exact hg.shaped m hm
  · apply hgrows.task (P := fun kind => kind = .tcp)
    rcases streams_afterTask hk.id hl with hold | ⟨hinserts, rfl, hid⟩
    · exact hg.streams id m hold
    · exact ⟨hn, hid, hk.inserts hinserts⟩
  · exact hgrows.task (P := fun kind => kind ≠ .tcp) (hg.bodies id m (bodies_afterTask hl))
  · rw [hpoint]
    -- the task that is being set up does not run yet
    refine hgrows.pointInv hnext rfl (fun m hm hphase => ?_) hg.point
    have hmn : m ≠ n := by
      rintro rfl
      exact hset hm
    rw [(afterTask_ne s t' effect k l hmn).1]
    exact hphase
  · rw [htodo] at hx
    refine hgrows.todoInv rfl (fun hends => ?_) (hg.todo x hx)
    rw [hpoint]
    exact hends
  · rw [htodo] at hne
    rw [TunnelState.delivers, hpoint]
    exact hg.resting hne receiver
  · rw [hproduced]
    exact hasStart_append.mpr (.inl (hg.opened id hstart hc))
  · apply hgrows.of_id
    rw [hproduced] at hne
    by_cases hown : id = (s.tunnel.tasks n).id
    · exact ⟨n, hn, hown.symm⟩
    · rw [hevents hown, List.append_nil] at hne
      exact hg.produced id hne
  · rcases List.mem_append.mp hmem with hmem | hmem
    · exact hgrows.frames hg hmem hdecode
    · obtain ⟨hown, hne⟩ := hk.frames frame id bytes hmem hdecode
      exact ⟨n, hgrows.task (P := fun kind => kind = .tcp → bytes ≠ []) ⟨hn, hown.symm, hne⟩⟩
  · rw [hnext] at hm
    rw [hgrows.kind m hm] at htcp
    by_cases hmn : m = n
    · subst hmn
      rw [view_afterTask hk.id]
      exact hk.view htcp
    · have hne : (s.tunnel.tasks m).id ≠ (s.tunnel.tasks n).id := fun heq => hmn (hg.ids m n hm hn heq)
      rw [view_afterTask_ne hmn hk.id hne (hevents hne)]
      exact h.stream m hm htcp

theorem view_of (n : Nat) (s : TargetSide) : (s.view n).Of (s.tunnel.tasks n) := ⟨rfl, rfl, rfl, rfl⟩

/-- A task that runs is not one that is being set up. -/
theorem TargetGlobal.running (h : TargetGlobal s) (hphase : (s.tunnel.tasks n).phase ≠ .unspawned) :
    n < s.tunnel.next ∧ s.tunnel.point.pending ≠ some n := by
  refine ⟨h.spawned hphase, fun hpending => hphase ?_⟩
  have hp := h.point
  cases hpoint : s.tunnel.point with
  | storing m =>
    rw [hpoint] at hp hpending
    cases hpending
    exact hp.2.1
  | registering m | spawning m =>
    rw [hpoint] at hp hpending
    cases hpending
    exact hp.2
  | _ =>
    rw [hpoint] at hpending
    cases hpending

theorem targetInv_task {op : TaskOp} {u : TargetSide} (h : TargetInv s) (hs : s.task n op = some u) :
    TargetInv u := by
  have hg := h.whole
  unfold TargetSide.task at hs
  split at hs
  · rename_i hready
    obtain ⟨tunnel, htask, rfl⟩ := Option.map_eq_some_iff.mp hs
    obtain ⟨⟨t', effect⟩, hstep, rfl⟩ := Option.map_eq_some_iff.mp htask
    obtain ⟨hn, hset⟩ := hg.running (Task.advance_step hstep).spawned
    have hof := view_of n s
    have hv := h.stream n hn
    have hshaped := hg.shaped n hn
    have hsmall := hg.small n hn
    refine h.ofTask hn hset (k := s.socketAfter n op) (l := s.sentBy n op) ?_
    cases op with
    | poll => exact keeps_poll hof hv hshaped hstep
    | suspend => exact keeps_suspend hof hv hshaped hstep
    | connected => exact keeps_connected hof hv hshaped hstep
    | connectFails error => exact keeps_connectFails hof hv hshaped hstep
    | sent => exact keeps_sent hof hv hshaped hsmall hstep
    | refused error => exact keeps_refused hof hv hshaped hstep
    | observe => exact keeps_observe hof hv hstep
    | readTarget bytes =>
      have hready : bytes ≠ [] ∧ bytes.length ≤ targetBufferSize := by
        simpa [TargetSide.ready] using hready
      exact keeps_readTarget hof hv hshaped hsmall hready.1 hstep
    | targetEof => exact keeps_targetEof hof hv hshaped hstep
    | targetFails error =>
      simp only [TargetSide.ready] at hready
      cases hready
    | recv =>
      refine keeps_recv hof hv hshaped (fun hsender => ?_) hstep
      simp only [TunnelState.surroundings, TunnelState.streamSender, decide_eq_false_iff_not, not_or] at hsender
      exact decide_eq_false hsender.1
    | wrote =>
      refine keeps_wrote hof hv hshaped (fun hwriting => ?_) hstep
      obtain ⟨r, hphase⟩ := hwriting
      simp only [TargetSide.ready, hphase] at hready
      exact of_decide_eq_true hready
    | writeFails error => exact keeps_writeFails hof hv hshaped hstep
    | respond out => exact keeps_respond hof hv hshaped hstep
    | requestEnds result => exact keeps_requestEnds hof hv hshaped hstep
    | wind => exact keeps_wind hof hv hshaped hstep
    | readBody => exact keeps_readBody hof hv hshaped hstep
    | dropBody => exact keeps_dropBody hof hv hshaped hstep
  · cases hs

theorem targetInv_targetFails {error : String} {lost : Bytes} {u : TargetSide} (h : TargetInv s)
    (hs : s.targetFails n error lost = some u) : TargetInv u := by
  have hg := h.whole
  obtain ⟨tunnel, htask, rfl⟩ := Option.map_eq_some_iff.mp hs
  obtain ⟨⟨t', effect⟩, hstep, rfl⟩ := Option.map_eq_some_iff.mp htask
  obtain ⟨hn, hset⟩ := hg.running (Task.advance_step hstep).spawned
  have hkept := h.ofTask hn hset
    (keeps_targetFails lost (view_of n s) (h.stream n hn) (hg.shaped n hn) hstep)
  unfold TargetSide.afterTask at hkept
  rw [List.append_nil] at hkept
  exact hkept

theorem targetInv_spawn (h : TargetInv s) (hs : s.tunnel.spawn = some t) : TargetInv { s with tunnel := t } := by
  have hg := h.whole
  obtain ⟨htodo, hs⟩ := TunnelState.atPoint_some hs
  split at hs <;> rename_i hpoint
  · rename_i m
    cases hs
    have hp := hg.point
    rw [hpoint] at hp
    obtain ⟨hm, hphase⟩ := hp
    -- the session goes on, and then the task begins
    have hselect := h.moveTo .select (by rw [hpoint]; rfl) (fun he => by rw [hpoint] at he; cases he) rfl
      trivial htodo
    have hbefore : targetStage (s.tunnel.tasks m) = .before := by rw [targetStage, hphase]
    have hkeeps : Keeps (TargetSide.view m { s with tunnel := { s.tunnel with point := .select } }) (s.tunnel.tasks m)
        { s.tunnel.tasks m with phase := TunnelState.firstPhase (s.tunnel.tasks m).kind } .quiet (s.sockets m) [] := by
      by_cases hkind : (s.tunnel.tasks m).kind = .tcp
      · rw [hkind]
        refine .moved (view_of m _) (hselect.stream m hm) rfl rfl hkind rfl rfl (fun h => by cases h)
          (.inr ⟨hbefore.symm, ?_, ?_⟩) fun ha => by cases ha
        · rw [hphase]
          rfl
        · rw [hphase]
          rfl
      · have hphase' : TunnelState.firstPhase (s.tunnel.tasks m).kind = .requesting := by
          cases hk : (s.tunnel.tasks m).kind with
          | tcp => exact absurd hk hkind
          | http => rfl
          | upload => rfl
        rw [hphase']
        exact .http (view_of m _) (hselect.stream m hm) hkind rfl rfl hkind rfl rfl rfl fun h => by cases h
    have hkept := hselect.ofTask hm (fun hpending => by cases hpending) hkeeps
    unfold TargetSide.afterTask at hkept
    rw [List.append_nil] at hkept
    have hsocket : TargetSide.setSocket m (s.sockets m) { s with tunnel := { s.tunnel with point := .select } } =
        { s with tunnel := { s.tunnel with point := .select } } := by
      simp only [TargetSide.setSocket, Function.update_eq_self]
    rw [hsocket] at hkept
    exact hkept
  · cases hs

theorem targetInv_writeSome {count : Nat} {u : TargetSide} (h : TargetInv s) (hs : s.writeSome n count = some u) :
    TargetInv u := by
  have hg := h.whole
  unfold TargetSide.writeSome at hs
  dsimp only at hs
  split at hs
  · rename_i hphase hwriting
    rename_i targetReadClosed rest
    split at hs
    · cases hs
      have hspawned : (s.tunnel.tasks n).phase ≠ .unspawned := by
        rw [hphase]
        exact fun h => by cases h
      obtain ⟨hn, hset⟩ := hg.running hspawned
      have hshaped := hg.shaped n hn
      have hkind : (s.tunnel.tasks n).kind = .tcp := by
        unfold Shaped at hshaped
        rw [hphase] at hshaped
        exact hshaped
      have hkeeps := Keeps.same (view_of n s) (h.stream n hn) hshaped rfl rfl rfl rfl
      have hkept := h.ofTask hn hset (k := { s.sockets n with
          written := (s.sockets n).written ++ rest.take count, writing := some (rest.drop count) })
        { hkeeps with view := fun _ => ?_ }
      · unfold TargetSide.afterTask at hkept
        rw [List.append_nil] at hkept
        have htask : (s.tunnel.setTask n (s.tunnel.tasks n)).apply n .quiet = s.tunnel := by
          simp only [TunnelState.apply, TunnelState.setTask, Function.update_eq_self]
        rw [htask] at hkept
        exact hkept
      · have hview := (h.stream n hn hkind).writeSome ?_ hwriting ?_ count
        · simp only [TargetView.after, eventsIn_nil, List.append_nil, entryAfter]
          exact hview
        · show accepts (s.tunnel.tasks n).phase = true
          rw [hphase]
          rfl
        · show busy (s.tunnel.tasks n).phase = true
          rw [hphase]
          rfl
    · cases hs
  · cases hs

/-! ### What is decrypted -/

/-- A frame is decrypted, and the session task has its data at hand. -/
theorem TargetInv.recorded (h : TargetInv s) {m : TunnelFrameKind × Bytes} (point : Point)
    (hselect : s.tunnel.point = .select) (hlease : s.tunnel.lease = none) (htodo : s.tunnel.todo = [])
    (hdelivers : Delivers m s)
    (hpoint : PointInv { s with tunnel := { s.tunnel with point }, consumed := s.consumed ++ [m] } point)
    (hhand : ∀ id, atHand id point = payload (sealedEvents id m))
    (hstill : ∀ receiver, TunnelState.delivers receiver { s.tunnel with point } = false)
    (hgoes : pointEnds point = false) (hquiet : ∀ id, pointCloses id point = false) :
    TargetInv { s with tunnel := { s.tunnel with point }, consumed := s.consumed ++ [m] } := by
  have hg := h.whole
  have hconsumed : ∀ id, TargetSide.consumedBy id
      { s with tunnel := { s.tunnel with point }, consumed := s.consumed ++ [m] } =
        s.consumedBy id ++ sealedEvents id m := by
    intro id
    simp only [TargetSide.consumedBy, List.flatMap_append, List.flatMap_cons, List.flatMap_nil, List.append_nil]
  refine ⟨⟨hg.late, hg.ids, hg.small, fun n hn => ?_, hg.shaped, hg.streams, hg.bodies, hpoint, fun x hx => ?_,
    fun hne => absurd htodo hne, fun id hstart => ?_, fun id hstart hc => ?_, hg.produced, hg.frames⟩,
    fun n hn hkind => ?_⟩
  · rw [hconsumed]
    exact List.mem_append_left _ (hg.started n hn)
  · have hx : x ∈ s.tunnel.todo := hx
    rw [htodo] at hx
    cases hx
  · rw [hconsumed] at hstart ⊢
    exact hdelivers.ordered id hstart
  · rw [hconsumed] at hstart hc
    exact hdelivers.opened id hstart hc
  · have hview := h.stream n hn hkind
    have hstart := List.mem_append_left (sealedEvents (s.tunnel.tasks n).id m) hview.started
    have hfree : (s.view n).free = true := decide_eq_true ⟨hlease, by rw [hselect]; rfl⟩
    have hending : (s.view n).ending = false := by
      show pointEnds s.tunnel.point = false
      rw [hselect]
      rfl
    have hidle : (s.view n).inPoint = [] := by
      show atHand (s.tunnel.tasks n).id s.tunnel.point = []
      rw [hselect]
      rfl
    have hreceived := hview.receive hfree hidle hending (hdelivers.ordered _ hstart) (hdelivers.opened _ hstart)
      payload_of_eof
    have hgone := hreceived.goOn true false false false
      (payload (sealedEvents (s.tunnel.tasks n).id m)) (fun _ => hfree) (fun he => by
        have he : (s.view n).ending = true := he
        rw [hending] at he
        cases he) (fun hw => by cases hw) (fun hc => by cases hc) (.inl rfl)
    have heq : TargetSide.view n { s with tunnel := { s.tunnel with point }, consumed := s.consumed ++ [m] } =
        { s.view n with
          free := true, ending := false, waiting := false, closing := false
          consumed := s.consumedBy (s.tunnel.tasks n).id ++ sealedEvents (s.tunnel.tasks n).id m
          inPoint := payload (sealedEvents (s.tunnel.tasks n).id m) } := by
      simp only [TargetSide.view, TargetView.mk.injEq, true_and]
      exact ⟨decide_eq_true ⟨hlease, hgoes⟩, hgoes, hstill _, hquiet _, hconsumed _, rfl, hhand _⟩
    rw [heq]
    exact hgone

/-- A message is given to the handling. -/
theorem pointInv_message (hg : TargetGlobal s) {bytes : Bytes} {message : Message}
    (hdecode : (textOf bytes).bind decodeMessage = some message) (hdelivers : Delivers (.text, bytes) s)
    {point : Point} (hp : point = .authorizing message ∨ point = .handling message) :
    PointInv { s with
      tunnel := { s.tunnel with point }, consumed := s.consumed ++ [(.text, bytes)] } point := by
  have hevents : ∀ id, sealedEvents id (.text, bytes) = messageEvents id message := by
    intro id
    simp only [sealedEvents, hdecode, Option.elim_some]
  have hkey : (∀ id, ∀ x ∈ messageEvents id message, x ∈ TargetSide.consumedBy id { s with
        tunnel := { s.tunnel with point }, consumed := s.consumed ++ [(.text, bytes)] }) ∧
      ∀ id, TunnelState.authorizedStream message = some id →
        id < 2 ^ 64 ∧ ∀ n < s.tunnel.next, (s.tunnel.tasks n).id ≠ id := by
    refine ⟨fun id x hx => ?_, fun id hid => ?_⟩
    · simp only [TargetSide.consumedBy, List.flatMap_append, List.flatMap_cons, List.flatMap_nil, List.append_nil,
        hevents]
      exact List.mem_append_right _ hx
    · have hstart : ∃ mode, messageEvents id message = [.start mode] := by
        unfold TunnelState.authorizedStream at hid
        split at hid
        · cases hid
          exact ⟨_, if_pos rfl⟩
        · cases hid
          exact ⟨_, if_pos rfl⟩
        · cases hid
          exact ⟨_, if_pos rfl⟩
        · cases hid
      obtain ⟨mode, hmode⟩ := hstart
      have hstarts : HasStart [StreamEvent.start mode] := ⟨_, List.mem_singleton_self _, rfl⟩
      refine ⟨hdelivers.small id ?_, fun n hn htask => ?_⟩
      · rw [hevents, hmode]
        exact List.cons_ne_nil _ _
      · have hfirst := hdelivers.once id
        rw [hevents, hmode] at hfirst
        have hfirst := hfirst (hasStart_append.mpr (.inr hstarts))
        rw [flow_append] at hfirst
        have hnil := hfirst.eq_nil (hasStart_flow.mpr hstarts)
        have hold := hg.started n hn
        rw [htask] at hold
        have hflow : StreamEvent.start (modeOf (s.tunnel.tasks n).kind) ∈ flow (s.consumedBy id) :=
          mem_flow.mpr ⟨hold, fun h => by cases h⟩
        rw [hnil] at hflow
        cases hflow
  rcases hp with rfl | rfl
  · exact hkey
  · exact hkey

theorem targetInv_receive {m : TunnelFrameKind × Bytes} {u : TargetSide} (h : TargetInv s) (hdelivers : Delivers m s)
    (hs : s.receive m = some u) : TargetInv u := by
  have hg := h.whole
  unfold TargetSide.receive at hs
  split at hs
  · rename_i hselect
    obtain ⟨tunnel, hhandle, rfl⟩ := Option.map_eq_some_iff.mp hs
    unfold TargetSide.handle at hhandle
    split at hhandle
    · rename_i bytes
      split at hhandle
      · rename_i message hdecode
        obtain ⟨htodo, _, hlease, rfl⟩ := TunnelState.atSelect_some hhandle
        have hevents : ∀ id, payload (sealedEvents id (.text, bytes)) = [] := by
          intro id
          simp only [sealedEvents, hdecode, Option.elim_some]
          exact payload_messageEvents id message
        split
        · exact h.recorded _ hselect hlease htodo hdelivers (pointInv_message hg hdecode hdelivers (.inl rfl))
            (fun id => (hevents id).symm) (fun _ => rfl) rfl fun _ => rfl
        · exact h.recorded _ hselect hlease htodo hdelivers (pointInv_message hg hdecode hdelivers (.inr rfl))
            (fun id => (hevents id).symm) (fun _ => rfl) rfl fun _ => rfl
      · rename_i hdecode
        split at hhandle
        · rename_i hlease
          obtain ⟨htodo, _⟩ := TunnelState.atPoint_some hhandle
          have hevents : ∀ id, payload (sealedEvents id (.text, bytes)) = [] := by
            intro id
            simp only [sealedEvents, hdecode, Option.elim_none, payload_nil]
          have hrecorded := h.recorded .select hselect hlease htodo hdelivers trivial
            (fun id => (hevents id).symm) (fun _ => rfl) rfl fun _ => rfl
          have hstays : { s.tunnel with point := .select } = s.tunnel := by rw [← hselect]
          rw [hstays] at hrecorded
          exact targetInv_finish hrecorded hhandle
        · cases hhandle
    · rename_i frame
      split at hhandle
      · rename_i r hdecode
        obtain ⟨htodo, _, hlease, rfl⟩ := TunnelState.atSelect_some hhandle
        refine h.recorded _ hselect hlease htodo hdelivers trivial (fun id => ?_) (fun _ => rfl) rfl fun _ => rfl
        simp only [sealedEvents, frameEvents, hdecode, atHand]
        split
        · exact (payload_dataEvents _).symm
        · rfl
      · rename_i hdecode
        obtain ⟨htodo, _, hlease, rfl⟩ := TunnelState.atSelect_some hhandle
        have hrecorded := h.recorded .select hselect hlease htodo hdelivers trivial (fun id => ?_)
          (fun _ => rfl) rfl fun _ => rfl
        · have hstays : { s.tunnel with point := .select } = s.tunnel := by rw [← hselect]
          rw [hstays] at hrecorded
          exact hrecorded
        · simp only [sealedEvents, frameEvents, hdecode]
          rfl
  · cases hs

/-! ### Every step -/

theorem targetInv_tunnelStep {op : TunnelOp} {u : TargetSide} (h : TargetInv s) (hs : s.tunnelStep op = some u) :
    TargetInv u := by
  unfold TargetSide.tunnelStep at hs
  split at hs
  · rename_i hallows
    obtain ⟨tunnel, hstep, rfl⟩ := Option.map_eq_some_iff.mp hs
    cases op with
    | cancelLease error =>
      cases hstep
      exact targetInv_cancelLease error h
    | writerEnds =>
      cases hstep
      exact targetInv_writerEnds h
    | message m => cases hallows
    | data id payload => cases hallows
    | task n op => cases hallows
    | authorized => exact targetInv_authorized h hstep
    | denied error => exact targetInv_denied h hstep
    | exec => exact targetInv_exec h hstep
    | handle => exact targetInv_handle h hstep
    | store => exact targetInv_store h hstep
    | register => exact targetInv_register h hstep
    | spawn => exact targetInv_spawn h hstep
    | dispatch => exact targetInv_dispatch h hstep
    | delivered => exact targetInv_delivered h hstep
    | undelivered => exact targetInv_undelivered h hstep
    | tick => exact targetInv_tick h hstep
    | replied => exact targetInv_replied h hstep
    | notReplied => exact targetInv_notReplied h hstep
    | interrupt => exact targetInv_interrupt h hstep
    | leaseEnds => exact targetInv_leaseEnds h hstep
    | finish => exact targetInv_finish h hstep
  · cases hs

/-- **Every step of the gateway's end keeps the invariant.** -/
theorem targetInv_step {op : TargetOp} {u : TargetSide} (h : TargetInv s)
    (hr : ∀ m, op = .receive m → Delivers m s) (hs : targetSide.step op s = some u) : TargetInv u := by
  cases op with
  | receive m => exact targetInv_receive h (hr m rfl) hs
  | tunnel op => exact targetInv_tunnelStep h hs
  | task n op => exact targetInv_task h hs
  | targetFails n error lost => exact targetInv_targetFails h hs
  | writeSome n count => exact targetInv_writeSome h hs

theorem targetInv_initial : TargetInv {} := by
  have hnone : ∀ {n : Nat}, ¬ n < TunnelState.next {} := fun h => Nat.not_lt_zero _ h
  refine ⟨⟨fun _ _ => ⟨rfl, rfl⟩, fun _ _ hm => absurd hm hnone, fun _ hn => absurd hn hnone,
    fun _ hn => absurd hn hnone, fun _ hn => absurd hn hnone, fun id n hl => ?_, fun id n hl => ?_, trivial,
    fun x hx => (by cases hx), fun hne => absurd rfl hne, fun id hs => (by cases hs), fun id hs => (by cases hs),
    fun id hne => absurd rfl hne, fun _ _ _ hmem => (by cases hmem)⟩, fun _ hn => absurd hn hnone⟩
  · have hl : (∅ : HashMap StreamId Nat).lookup id = some n := hl
    rw [AList.lookup_empty] at hl
    cases hl
  · have hl : (∅ : HashMap StreamId Nat).lookup id = some n := hl
    rw [AList.lookup_empty] at hl
    cases hl

end Target

end WsNet.Relay
