import WsNet.Gateway.Cancels

/-! The session task at a stream's channel.

A data frame waits for room with a copy of the channel's sender, and the session task
is the only one that sends. So while the receiver is there, the one that waits at a
channel is the session task, and it waits where it is delivering; a stream whose
receiver has seen the end of the channel has no sender left, so that the session task
is not delivering to it. -/
namespace WsNet.Gateway
open Data Transition

namespace TaskPhase

/-- TCP: before the stream's sender is inserted. -/
def early : TaskPhase → Bool
  | unspawned | connecting => true
  | _ => false

/-- TCP: the end of the channel has been received. -/
def accessClosed : TaskPhase → Bool
  | forwarding _ closed | relaying _ _ closed => closed
  | shutting _ => true
  | _ => false

/-- TCP: the receiving side is there, or will be. -/
def current (phase : TaskPhase) : Bool := phase.early || phase.listening

end TaskPhase

namespace TunnelState

/-- The channel may still be received from. -/
def attended (r : Receiver) (s : TunnelState) : Bool :=
  match r with
  | .stream n => (s.tasks n).phase.current
  | .body n => (s.tasks n).bodyOpen

/-- Who waits at the channel, or has its permit. -/
def sendersAt (r : Receiver) (s : TunnelState) : List Unit :=
  match r with
  | .stream n => (s.tasks n).channel.senders
  | .body n => (s.tasks n).body.senders

/-- A sending side of the channel is left. -/
def hasSender (r : Receiver) (s : TunnelState) : Bool :=
  match r with
  | .stream n => s.streamSender n
  | .body n => s.bodySender n

end TunnelState

/-- The senders at a channel that the session task alone sends to. -/
def waitersOf (delivers : Bool) : List Unit := if delivers then [()] else []

structure DeliveryInv (s : TunnelState) : Prop where
  fresh : ∀ n, s.next ≤ n → (s.tasks n).phase = .unspawned
  streams : ∀ id n, s.streams.lookup id = some n →
    (s.tasks n).id = id ∧ (s.tasks n).phase.early = false
  bodies : ∀ id n, s.httpBodies.lookup id = some n → n < s.next ∧ (s.tasks n).id = id ∧
    ((s.tasks n).phase ≠ .unspawned ∨ s.point.pending = some n)
  toStream : ∀ n, s.delivers (.stream n) = true → (s.tasks n).phase.early = false
  toBody : ∀ n, s.delivers (.body n) = true → (s.tasks n).phase ≠ .unspawned
  waiters : ∀ r, s.attended r = true → s.sendersAt r = waitersOf (s.delivers r)
  closed : ∀ n, (s.tasks n).phase.accessClosed = true → s.streamSender n = false
  ended : ∀ n, (s.tasks n).bodyEnd = true → s.bodySender n = false

namespace TunnelState

theorem streamSender_eq_true {n : Nat} {s : TunnelState} : s.streamSender n = true ↔
    s.streams.lookup (s.tasks n).id = some n ∨ s.delivers (.stream n) = true := by
  simp only [streamSender, decide_eq_true_eq]

theorem bodySender_eq_true {n : Nat} {s : TunnelState} : s.bodySender n = true ↔
    s.httpBodies.lookup (s.tasks n).id = some n ∨ s.point = .storing n ∨
      s.delivers (.body n) = true := by
  simp only [bodySender, decide_eq_true_eq]

theorem delivers_eq_true {r : Receiver} {s : TunnelState} :
    s.delivers r = true ↔ ∃ id payload, s.point = .delivering r id payload := by
  unfold delivers
  constructor
  · intro h
    split at h
    · rename_i r' id payload hpoint
      exact ⟨id, payload, of_decide_eq_true h ▸ hpoint⟩
    · cases h
  · rintro ⟨id, payload, hpoint⟩
    simp only [hpoint, decide_true]

end TunnelState

/-! ### Steps that nothing is delivered with -/

/-- No task is being set up, and nothing is being delivered. -/
def Point.still : Point → Bool
  | .storing _ | .registering _ | .spawning _ | .delivering _ _ _ => false
  | _ => true

theorem delivers_of_still {s : TunnelState} (h : s.point.still = true) (r : Receiver) :
    s.delivers r = false := by
  unfold TunnelState.delivers
  split
  · rename_i hpoint
    rw [hpoint] at h
    cases h
  · rfl

theorem pending_of_still {point : Point} (h : point.still = true) : point.pending = none := by
  cases point <;> first | rfl | cases h

/-- A task, as far as what is delivered to it goes. -/
structure SameWaits (t t' : Task) : Prop where
  id : t'.id = t.id
  phase : t'.phase = t.phase
  channel : t'.channel = t.channel
  body : t'.body = t.body
  bodyOpen : t'.bodyOpen = t.bodyOpen
  bodyEnd : t'.bodyEnd = t.bodyEnd

theorem SameWaits.refl (t : Task) : SameWaits t t := ⟨rfl, rfl, rfl, rfl, rfl, rfl⟩

/-- A step that inserts no sender, and leaves alone where the session task delivers. -/
structure KeepsWaits (s t : TunnelState) : Prop where
  next : t.next = s.next
  task : ∀ n, SameWaits (s.tasks n) (t.tasks n)
  streams : ∀ id n, t.streams.lookup id = some n → s.streams.lookup id = some n
  bodies : ∀ id n, t.httpBodies.lookup id = some n → s.httpBodies.lookup id = some n
  delivers : ∀ r, t.delivers r = s.delivers r
  pending : ∀ n, s.point.pending = some n → t.point.pending = some n
  storing : ∀ n, t.point = .storing n → s.point = .storing n

theorem KeepsWaits.inv {s t : TunnelState} (h : KeepsWaits s t) (hi : DeliveryInv s) : DeliveryInv t where
  fresh n hn := by
    rw [h.next] at hn
    rw [(h.task n).phase]
    exact hi.fresh n hn
  streams id n hl := by
    rw [(h.task n).id, (h.task n).phase]
    exact hi.streams id n (h.streams id n hl)
  bodies id n hl := by
    obtain ⟨hlt, hid, hp⟩ := hi.bodies id n (h.bodies id n hl)
    rw [h.next, (h.task n).id, (h.task n).phase]
    exact ⟨hlt, hid, hp.imp_right (h.pending n)⟩
  toStream n hd := by
    rw [h.delivers] at hd
    rw [(h.task n).phase]
    exact hi.toStream n hd
  toBody n hd := by
    rw [h.delivers] at hd
    rw [(h.task n).phase]
    exact hi.toBody n hd
  waiters r hr := by
    rw [h.delivers]
    cases r with
    | stream n =>
      simp only [TunnelState.attended, TunnelState.sendersAt, (h.task n).phase, (h.task n).channel] at hr ⊢
      exact hi.waiters (.stream n) hr
    | body n =>
      simp only [TunnelState.attended, TunnelState.sendersAt, (h.task n).bodyOpen, (h.task n).body] at hr ⊢
      exact hi.waiters (.body n) hr
  closed n hc := by
    rw [(h.task n).phase] at hc
    have hno := hi.closed n hc
    rw [Bool.eq_false_iff, ne_eq, TunnelState.streamSender_eq_true] at hno ⊢
    rw [(h.task n).id, h.delivers]
    exact fun hs => hno (hs.imp_left (h.streams _ n))
  ended n he := by
    rw [(h.task n).bodyEnd] at he
    have hno := hi.ended n he
    rw [Bool.eq_false_iff, ne_eq, TunnelState.bodySender_eq_true] at hno ⊢
    rw [(h.task n).id, h.delivers]
    exact fun hs => hno (hs.imp (h.bodies _ n) (Or.imp_left (h.storing n)))

/-- From one point of the loop to another. -/
theorem keepsWaits_still {s : TunnelState} (todo : List Statement) {point : Point}
    (hs : s.point.still = true) (hp : point.still = true) : KeepsWaits s { s with todo, point } where
  next := rfl
  task _ := SameWaits.refl _
  streams _ _ hl := hl
  bodies _ _ hl := hl
  delivers r := by rw [delivers_of_still hs, delivers_of_still hp]
  pending n hn := by
    rw [pending_of_still hs] at hn
    cases hn
  storing n hn := by
    have hn : point = .storing n := hn
    rw [hn] at hp
    cases hp

/-- A statement takes senders out, or sets a flag. -/
theorem keepsWaits_run (x : Statement) (s : TunnelState) : KeepsWaits s (TunnelState.run x s) := by
  have setTask : ∀ n t, SameWaits (s.tasks n) t → ∀ m, SameWaits (s.tasks m) ((s.setTask n t).tasks m) := by
    intro n t h m
    by_cases hm : m = n
    · subst hm
      rw [TunnelState.setTask_self]
      exact h
    · rw [TunnelState.setTask_ne hm]
      exact SameWaits.refl _
  have erased : ∀ {m : HashMap StreamId Nat} {id id' : StreamId} {n : Nat},
      (m.erase id).lookup id' = some n → m.lookup id' = some n := fun h => (HashMap.lookup_erase_some h).2
  cases x with
  | cancel n =>
    exact ⟨rfl, setTask n _ ⟨rfl, rfl, rfl, rfl, rfl, rfl⟩, fun _ _ h => h, fun _ _ h => h, fun _ => rfl,
      fun _ h => h, fun _ h => h⟩
  | removeStream id =>
    exact ⟨rfl, fun _ => SameWaits.refl _, fun _ _ => erased, fun _ _ h => h, fun _ => rfl, fun _ h => h,
      fun _ h => h⟩
  | removeBody id =>
    exact ⟨rfl, fun _ => SameWaits.refl _, fun _ _ h => h, fun _ _ => erased, fun _ => rfl, fun _ h => h,
      fun _ h => h⟩
  | endBody id =>
    simp only [TunnelState.run]
    split
    · rename_i n _
      exact ⟨rfl, setTask n _ ⟨rfl, rfl, rfl, rfl, rfl, rfl⟩, fun _ _ h => h, fun _ _ => erased, fun _ => rfl,
        fun _ h => h, fun _ h => h⟩
    · exact ⟨rfl, fun _ => SameWaits.refl _, fun _ _ h => h, fun _ _ h => h, fun _ => rfl, fun _ h => h,
        fun _ h => h⟩
  | clearStreams =>
    exact ⟨rfl, fun _ => SameWaits.refl _, fun _ _ h => (by cases h), fun _ _ h => h, fun _ => rfl,
      fun _ h => h, fun _ h => h⟩
  | clearBodies =>
    exact ⟨rfl, fun _ => SameWaits.refl _, fun _ _ h => h, fun _ _ h => (by cases h), fun _ => rfl,
      fun _ h => h, fun _ h => h⟩
  | removeCancel id | clearCancels =>
    exact ⟨rfl, fun _ => SameWaits.refl _, fun _ _ h => h, fun _ _ h => h, fun _ => rfl, fun _ h => h,
      fun _ h => h⟩

/-! ### What a task receives -/

/-- What a step of a task leaves of the waits at its channels. -/
structure Task.Receives (env : Surroundings) (t t' : Task) (effect : Effect) : Prop where
  spawned : t'.phase ≠ .unspawned
  early : t'.phase.early = true → t.phase.early = true
  current : t'.phase.current = true →
    t.phase.current = true ∧ t'.channel.senders = t.channel.senders
  closed : t'.phase.accessClosed = true → t.phase.accessClosed = true ∨ env.streamSender = false
  body : t'.body.senders = t.body.senders
  inserts : effect = .insertStream → t'.phase.early = false ∧ t'.phase.accessClosed = false

namespace Task
variable {env : Surroundings} {t t' : Task} {effect : Effect}

/-- The phase does not go back. -/
structure Onward (phase phase' : TaskPhase) : Prop where
  spawned : phase' ≠ .unspawned
  early : phase'.early = true → phase.early = true
  current : phase'.current = true → phase.current = true
  closed : phase'.accessClosed = true → phase.accessClosed = true

theorem receives_onward (hphase : Onward t.phase t'.phase)
    (hchannel : t'.channel.senders = t.channel.senders) (hbody : t'.body = t.body)
    (heffect : effect ≠ .insertStream) : Receives env t t' effect where
  spawned := hphase.spawned
  early := hphase.early
  current h := ⟨hphase.current h, hchannel⟩
  closed h := .inl (hphase.closed h)
  body := by rw [hbody]
  inserts h := absurd h heffect

/-- The receiver is dropped. -/
theorem onward_past {phase phase' : TaskPhase} (hspawned : phase' ≠ .unspawned)
    (hcurrent : phase'.current = false) (hclosed : phase'.accessClosed = false) : Onward phase phase' := by
  have hearly : phase'.early = false := (Bool.or_eq_false_iff.mp hcurrent).1
  refine ⟨hspawned, fun h => ?_, fun h => ?_, fun h => ?_⟩
  · rw [hearly] at h
    cases h
  · rw [hcurrent] at h
    cases h
  · rw [hclosed] at h
    cases h

theorem onward_refl {phase : TaskPhase} (h : phase ≠ .unspawned) : Onward phase phase :=
  ⟨h, fun h => h, fun h => h, fun h => h⟩

theorem onward_leave (t : Task) : Onward t.phase t.leave.phase := by
  unfold leave
  dsimp only
  split <;> exact onward_past nofun rfl rfl

/-- A direction of a TCP stream goes on. -/
theorem receives_resume {targetReadClosed accessClosed : Bool} (hl : t.phase.listening = true)
    (hclosed : accessClosed = true → t.phase.accessClosed = true ∨ env.streamSender = false)
    (heffect : effect ≠ .insertStream) :
    Receives env t (t.resume targetReadClosed accessClosed) effect := by
  unfold resume
  split
  · exact receives_onward (onward_past nofun rfl rfl) rfl rfl heffect
  · exact ⟨nofun, fun h => (by cases h), fun _ => ⟨by rw [TaskPhase.current, hl, Bool.or_true], rfl⟩,
      hclosed, rfl, fun h => absurd h heffect⟩

theorem receives_poll (h : t.poll env = some (t', effect)) : Receives env t t' effect := by
  unfold poll at h
  split at h
  · rename_i hguard
    have hspawned : t.phase ≠ .unspawned := by
      intro hp
      rw [hp] at hguard
      cases hguard.1
    split at h
    · cases h
      exact receives_onward (onward_past nofun rfl rfl) rfl rfl nofun
    · cases h
      exact receives_onward (onward_refl hspawned) rfl rfl nofun
    · cases h
      exact receives_onward (onward_leave t) rfl rfl nofun
    · split at h
      · cases h
        exact receives_onward (onward_leave t) rfl rfl nofun
      · cases h
        exact receives_onward (onward_refl hspawned) rfl rfl nofun
  · cases h

theorem receives_sent (h : t.sent env = some (t', effect)) : Receives env t t' effect := by
  unfold sent at h
  split at h
  · split at h <;> rename_i hphase
    · cases (working_eq_some h).2
      exact receives_resume (by rw [hphase]; rfl) nofun nofun
    · cases (working_eq_some h).2
      refine receives_resume (by rw [hphase]; rfl) (fun hclosed => ?_) nofun
      rw [hphase]
      exact .inl hclosed
    · cases h
      exact receives_onward (onward_past nofun rfl rfl) rfl rfl nofun
    · cases (working_eq_some h).2
      exact receives_onward (onward_past nofun rfl rfl) rfl rfl nofun
    · cases (working_eq_some h).2
      exact receives_onward (onward_leave t) rfl rfl nofun
    · cases h
      exact receives_onward (onward_past nofun rfl rfl) rfl rfl nofun
    · cases h
  · cases h

theorem receives_refused {error : String} (h : t.refused error env = some (t', effect)) :
    Receives env t t' effect := by
  unfold refused at h
  split at h
  · cases h
  · split at h <;> rename_i hphase
    · cases (working_eq_some h).2
      exact receives_onward (onward_past nofun rfl rfl) rfl rfl nofun
    · cases (working_eq_some h).2
      exact receives_onward (onward_past nofun rfl rfl) rfl rfl nofun
    · cases (working_eq_some h).2
      refine receives_resume (by rw [hphase]; rfl) (fun hclosed => ?_) nofun
      rw [hphase]
      exact .inl hclosed
    · cases h
      exact receives_onward (onward_past nofun rfl rfl) rfl rfl nofun
    · cases (working_eq_some h).2
      exact receives_onward (onward_past nofun rfl rfl) rfl rfl nofun
    · cases (working_eq_some h).2
      exact receives_onward (onward_leave t) rfl rfl nofun
    · cases h
      exact receives_onward (onward_past nofun rfl rfl) rfl rfl nofun
    · cases h

/-- With no sender left, the end of the channel is received. -/
theorem receives_recv (h : t.recv env = some (t', effect)) : Receives env t t' effect := by
  unfold recv at h
  split at h
  · rename_i hphase
    have hcurrent : t.phase.current = true := by rw [hphase]; rfl
    split at h
    · rename_i channel hrecv
      cases (working_eq_some h).2
      exact ⟨nofun, fun h => (by cases h), fun _ => ⟨hcurrent, BoundedChannel.senders_recv hrecv⟩,
        fun h => (by cases h), rfl, nofun⟩
    · split at h
      · cases h
      · rename_i hsender
        cases (working_eq_some h).2
        exact ⟨nofun, fun h => (by cases h), fun _ => ⟨hcurrent, rfl⟩,
          fun _ => .inr (by simpa using hsender), rfl, nofun⟩
  · cases h

theorem receives_wrote (h : t.wrote = some (t', effect)) : Receives env t t' effect := by
  unfold wrote at h
  split at h <;> rename_i hphase
  · cases (working_eq_some h).2
    exact receives_resume (by rw [hphase]; rfl) nofun nofun
  · cases (working_eq_some h).2
    exact receives_resume (by rw [hphase]; rfl) (fun _ => .inl (by rw [hphase]; rfl)) nofun
  · cases h

theorem receives_readBody (h : t.readBody env = some (t', effect)) : Receives env t t' effect := by
  unfold readBody at h
  split at h
  · rename_i hopen
    split at h
    · rename_i item body hrecv
      cases h
      exact ⟨hopen.1, fun h => h, fun h => ⟨h, rfl⟩, .inl, BoundedChannel.senders_recv hrecv, nofun⟩
    · split at h
      · cases h
      · cases h
        exact ⟨hopen.1, fun h => h, fun h => ⟨h, rfl⟩, .inl, rfl, nofun⟩
  · cases h

theorem receives_wind (h : t.wind = some (t', effect)) : Receives env t t' effect := by
  unfold wind at h
  split at h
  · cases h
    exact receives_onward (onward_past nofun rfl rfl) rfl rfl nofun
  · cases h
    refine receives_onward (onward_past nofun rfl rfl) rfl rfl ?_
    split <;> nofun
  · cases h
    refine receives_onward ?_ rfl rfl nofun
    dsimp only
    split <;> exact onward_past nofun rfl rfl
  · cases h

theorem receives_step {op : TaskOp} (h : t.step env op = some (t', effect)) : Receives env t t' effect := by
  have hspawned := (advance_step h).spawned
  have past : ∀ {phase : TaskPhase} {awake : Bool}, phase ≠ .unspawned → phase.current = false →
      phase.accessClosed = false → Receives env t { t with phase, awake } .quiet := fun hp hc ha =>
    receives_onward (onward_past hp hc ha) rfl rfl (by rintro ⟨⟩)
  -- from the `select!` on to a message, with what was closed still closed
  have relays : ∀ {out : Outgoing} {targetReadClosed accessClosed : Bool},
      t.phase = .forwarding false accessClosed →
      Receives env t { t with phase := .relaying out targetReadClosed accessClosed } .quiet := by
    intro out targetReadClosed accessClosed hphase
    refine ⟨fun h => (by cases h), fun h => (by cases h), fun _ => ⟨by rw [hphase]; rfl, rfl⟩,
      fun h => ?_, rfl, fun h => (by cases h)⟩
    rw [hphase]
    exact .inl h
  cases op with
  | poll => exact receives_poll h
  | suspend =>
    simp only [step, suspend] at h
    split at h
    · cases h
    · split at h <;> cases h
      exact receives_onward (onward_refl hspawned) rfl rfl (by rintro ⟨⟩)
  | connected =>
    simp only [step, connected] at h
    split at h <;> rename_i hphase
    · cases (working_eq_some h).2
      have hearly : t.phase.early = true := by rw [hphase]; rfl
      exact ⟨fun h => (by cases h), fun h => (by cases h),
        fun _ => ⟨by rw [TaskPhase.current, hearly]; rfl, rfl⟩, fun h => (by cases h), rfl, fun _ => ⟨rfl, rfl⟩⟩
    · cases h
  | connectFails error =>
    simp only [step, connectFails] at h
    split at h
    · cases (working_eq_some h).2
      exact past (by rintro ⟨⟩) rfl rfl
    · cases h
  | sent => exact receives_sent h
  | refused error => exact receives_refused h
  | observe =>
    simp only [step, observe] at h
    split at h
    · split at h
      · cases (working_eq_some h).2
        exact past (by rintro ⟨⟩) rfl rfl
      · cases h
    · cases h
  | readTarget payload =>
    simp only [step, readTarget] at h
    split at h <;> rename_i hphase
    · cases (working_eq_some h).2
      exact relays hphase
    · cases h
  | targetEof =>
    simp only [step, targetEof] at h
    split at h <;> rename_i hphase
    · cases (working_eq_some h).2
      exact relays hphase
    · cases h
  | targetFails error =>
    simp only [step, targetFails] at h
    split at h
    · cases (working_eq_some h).2
      exact past (by rintro ⟨⟩) rfl rfl
    · cases h
  | recv => exact receives_recv h
  | wrote => exact receives_wrote h
  | writeFails error =>
    simp only [step, writeFails] at h
    split at h
    · cases (working_eq_some h).2
      exact past (by rintro ⟨⟩) rfl rfl
    · cases (working_eq_some h).2
      exact past (by rintro ⟨⟩) rfl rfl
    · cases h
  | respond out =>
    simp only [step, respond] at h
    split at h
    · split at h
      · cases (working_eq_some h).2
        exact receives_onward (onward_past (by rintro ⟨⟩) rfl rfl) rfl rfl (by rintro ⟨⟩)
      · cases h
    · cases h
  | requestEnds result =>
    simp only [step, requestEnds] at h
    split at h
    · cases (working_eq_some h).2
      refine receives_onward ?_ rfl rfl (by rintro ⟨⟩)
      dsimp only
      split <;> exact onward_past (by rintro ⟨⟩) rfl rfl
    · cases h
  | wind => exact receives_wind h
  | readBody => exact receives_readBody h
  | dropBody =>
    simp only [step, dropBody] at h
    split at h <;> cases h
    exact receives_onward (onward_refl hspawned) rfl rfl (by rintro ⟨⟩)

end Task

end WsNet.Gateway
