import WsNet.Relay.TargetStream

/-! The runs of the gateway's end, in one session.

Each task of a TCP stream keeps the invariant of its view, when the access delivers
what it may: one start of a stream, no data behind an end, and data only once the
stream is open. Then no two tasks are for one stream, so a frame that finds the entry
of a stream finds its task. -/
namespace WsNet.Relay
open Gateway Data Transition

section Target
variable [MessageCodec]

/-! ### The view of a task -/

/-- The session ends. -/
def pointEnds : Point → Bool
  | .draining | .ended => true
  | _ => false

/-- The stream's data that the session has at hand. -/
def atHand (id : StreamId) : Point → Bytes
  | .dispatching i bytes | .delivering _ i bytes => if i = id then bytes else []
  | _ => []

/-- The session sends the stream's Close. -/
def pointCloses (id : StreamId) : Point → Bool
  | .sending m _ => messageEvents id m ≠ []
  | _ => false

def modeOf : TaskKind → Mode
  | .tcp => .tcp
  | .http | .upload => .http

namespace TargetSide

def consumedBy (id : StreamId) (s : TargetSide) : List StreamEvent := s.consumed.flatMap (sealedEvents id)

def producedFor (id : StreamId) (s : TargetSide) : List StreamEvent := eventsIn id s.produced

def view (n : Nat) (s : TargetSide) : TargetView where
  stage := targetStage (s.tunnel.tasks n)
  accepts := accepts (s.tunnel.tasks n).phase
  busy := busy (s.tunnel.tasks n).phase
  entry := s.tunnel.streams.lookup (s.tunnel.tasks n).id = some n
  free := s.tunnel.lease = none ∧ pointEnds s.tunnel.point = false
  ending := pointEnds s.tunnel.point
  waiting := s.tunnel.delivers (.stream n)
  closing := pointCloses (s.tunnel.tasks n).id s.tunnel.point
  consumed := s.consumedBy (s.tunnel.tasks n).id
  produced := s.producedFor (s.tunnel.tasks n).id
  socket := s.sockets n
  channel := (s.tunnel.tasks n).channel.items
  inPoint := atHand (s.tunnel.tasks n).id s.tunnel.point

end TargetSide

/-! ### The invariant -/

/-- What a task has at hand is of its own stream and its own kind. -/
def Shaped (t : Task) : Prop :=
  match t.phase with
  | .unspawned | .removing | .unregistering | .finished => True
  | .connecting | .opening | .forwarding _ _ | .writing _ | .shutting _ | .closing => t.kind = .tcp
  | .relaying out targetReadClosed _ => t.kind = .tcp ∧
      (targetReadClosed = false ∧ (∃ bytes, out = .data t.id bytes ∧ bytes ≠ []) ∨
        targetReadClosed = true ∧ out = .message (.tcpEof t.id))
  | .failing m => t.kind = .tcp ∧ ∀ id, messageEvents id m = []
  | .requesting => t.kind ≠ .tcp
  | .responding out => t.kind ≠ .tcp ∧ out.ofResponse t.id = true
  | .answered m | .replying m => t.kind ≠ .tcp ∧ ∀ id, messageEvents id m = []

/-- What the session task has at hand. -/
def PointInv (s : TargetSide) : Point → Prop
  | .authorizing m | .handling m => (∀ id, ∀ x ∈ messageEvents id m, x ∈ s.consumedBy id) ∧
      ∀ id, TunnelState.authorizedStream m = some id → id < 2 ^ 64 ∧ ∀ n < s.tunnel.next, (s.tunnel.tasks n).id ≠ id
  | .storing n => n < s.tunnel.next ∧ (s.tunnel.tasks n).phase = .unspawned ∧ (s.tunnel.tasks n).kind ≠ .tcp
  | .registering n | .spawning n => n < s.tunnel.next ∧ (s.tunnel.tasks n).phase = .unspawned
  | .sending m _ => ∀ id, messageEvents id m = [] ∨ messageEvents id m = [.close] ∧
      ∃ n < s.tunnel.next, (s.tunnel.tasks n).id = id ∧ (s.tunnel.tasks n).kind = .tcp ∧
        targetStage (s.tunnel.tasks n) = .gone
  | .delivering (.stream n) id _ => n < s.tunnel.next ∧ (s.tunnel.tasks n).id = id ∧
      (s.tunnel.tasks n).kind = .tcp ∧ targetStage (s.tunnel.tasks n) ≠ .before
  | .delivering (.body n) id _ => n < s.tunnel.next ∧ (s.tunnel.tasks n).id = id ∧
      (s.tunnel.tasks n).kind ≠ .tcp
  | _ => True

/-- What is still to be run. -/
def TodoInv (s : TargetSide) : Statement → Prop
  | .removeStream id => HasEnd (s.consumedBy id) ∨ pointEnds s.tunnel.point = true ∨
      ∃ n < s.tunnel.next, (s.tunnel.tasks n).id = id ∧ targetStage (s.tunnel.tasks n) = .gone
  | .clearStreams => pointEnds s.tunnel.point = true
  | _ => True

/-- What is no matter of one stream. -/
structure TargetGlobal (s : TargetSide) : Prop where
  late : ∀ n, s.tunnel.next ≤ n → (s.tunnel.tasks n).phase = .unspawned ∧ s.sockets n = {}
  ids : ∀ m n, m < s.tunnel.next → n < s.tunnel.next → (s.tunnel.tasks m).id = (s.tunnel.tasks n).id → m = n
  small : ∀ n < s.tunnel.next, (s.tunnel.tasks n).id < 2 ^ 64
  started : ∀ n < s.tunnel.next,
    .start (modeOf (s.tunnel.tasks n).kind) ∈ s.consumedBy (s.tunnel.tasks n).id
  shaped : ∀ n < s.tunnel.next, Shaped (s.tunnel.tasks n)
  streams : ∀ id n, s.tunnel.streams.lookup id = some n →
    n < s.tunnel.next ∧ (s.tunnel.tasks n).id = id ∧ (s.tunnel.tasks n).kind = .tcp
  bodies : ∀ id n, s.tunnel.httpBodies.lookup id = some n →
    n < s.tunnel.next ∧ (s.tunnel.tasks n).id = id ∧ (s.tunnel.tasks n).kind ≠ .tcp
  point : PointInv s s.tunnel.point
  todo : ∀ x ∈ s.tunnel.todo, TodoInv s x
  /-- The statements are run before anything is delivered. -/
  resting : s.tunnel.todo ≠ [] → ∀ receiver, s.tunnel.delivers receiver = false
  behaved : ∀ id, .start .tcp ∈ s.consumedBy id → Ordered (s.consumedBy id)
  opened : ∀ id, .start .tcp ∈ s.consumedBy id → (∃ x ∈ s.consumedBy id, x.carries = true) →
    HasStart (s.producedFor id)
  produced : ∀ id, s.producedFor id ≠ [] → ∃ n < s.tunnel.next, (s.tunnel.tasks n).id = id
  frames : ∀ frame id bytes, .binary frame ∈ s.produced → decodeDataFrame frame = some (id, bytes) →
    ∃ n < s.tunnel.next, (s.tunnel.tasks n).id = id ∧ ((s.tunnel.tasks n).kind = .tcp → bytes ≠ [])

structure TargetInv (s : TargetSide) : Prop where
  whole : TargetGlobal s
  stream : ∀ n < s.tunnel.next, (s.tunnel.tasks n).kind = .tcp → StreamInv (s.view n)

/-- What the access may send: one start of a stream, in order, and data once it is open. -/
structure Delivers (m : TunnelFrameKind × Bytes) (s : TargetSide) : Prop where
  once : ∀ id, HasStart (s.consumedBy id ++ sealedEvents id m) →
    StartsFirst (flow (s.consumedBy id ++ sealedEvents id m))
  ordered : ∀ id, .start .tcp ∈ s.consumedBy id ++ sealedEvents id m →
    Ordered (s.consumedBy id ++ sealedEvents id m)
  opened : ∀ id, .start .tcp ∈ s.consumedBy id ++ sealedEvents id m →
    (∃ x ∈ s.consumedBy id ++ sealedEvents id m, x.carries = true) → HasStart (s.producedFor id)
  small : ∀ id, sealedEvents id m ≠ [] → id < 2 ^ 64

variable {s : TargetSide} {n : Nat} {id : StreamId}

/-! ### What the invariant says of a task -/

namespace TargetGlobal

/-- No two tasks are for one stream. -/
theorem eq_of_id (h : TargetGlobal s) {m : Nat} (hm : m < s.tunnel.next) (hn : n < s.tunnel.next)
    (hid : (s.tunnel.tasks m).id = (s.tunnel.tasks n).id) : m = n := h.ids m n hm hn hid

/-- A Close of the session's own comes when its task has gone. -/
theorem closes (h : TargetGlobal s) {point : Point} (hp : PointInv s point) (hn : n < s.tunnel.next)
    (hc : pointCloses (s.tunnel.tasks n).id point = true) : targetStage (s.tunnel.tasks n) = .gone := by
  cases point with
  | sending m required =>
    have hne : messageEvents (s.tunnel.tasks n).id m ≠ [] := of_decide_eq_true hc
    obtain ⟨_, k, hk, hid, _, hgone⟩ := (hp _).resolve_left hne
    obtain rfl := h.eq_of_id hk hn hid
    exact hgone
  | _ => cases hc

theorem spawned (h : TargetGlobal s) (hp : (s.tunnel.tasks n).phase ≠ .unspawned) : n < s.tunnel.next := by
  by_contra hn
  exact hp (h.late n (by omega)).1

end TargetGlobal

/-! ### What stays of the tasks -/

/-- The tasks are those of the first state, and maybe more; none of them goes back. -/
structure Grows (s u : TargetSide) : Prop where
  next : s.tunnel.next ≤ u.tunnel.next
  id : ∀ n < s.tunnel.next, (u.tunnel.tasks n).id = (s.tunnel.tasks n).id
  kind : ∀ n < s.tunnel.next, (u.tunnel.tasks n).kind = (s.tunnel.tasks n).kind
  begun : ∀ n < s.tunnel.next, targetStage (s.tunnel.tasks n) ≠ .before → targetStage (u.tunnel.tasks n) ≠ .before
  gone : ∀ n < s.tunnel.next, targetStage (s.tunnel.tasks n) = .gone → targetStage (u.tunnel.tasks n) = .gone

namespace Grows
variable {u : TargetSide}

/-- A task for a stream, of some kind, is still there. -/
theorem task (h : Grows s u) {P : TaskKind → Prop}
    (ht : n < s.tunnel.next ∧ (s.tunnel.tasks n).id = id ∧ P (s.tunnel.tasks n).kind) :
    n < u.tunnel.next ∧ (u.tunnel.tasks n).id = id ∧ P (u.tunnel.tasks n).kind := by
  obtain ⟨hn, hid, hkind⟩ := ht
  refine ⟨hn.trans_le h.next, (h.id n hn).trans hid, ?_⟩
  rw [h.kind n hn]
  exact hkind

theorem of_id (h : Grows s u) (ht : ∃ n < s.tunnel.next, (s.tunnel.tasks n).id = id) :
    ∃ n < u.tunnel.next, (u.tunnel.tasks n).id = id := by
  obtain ⟨n, hn, hid⟩ := ht
  exact ⟨n, hn.trans_le h.next, (h.id n hn).trans hid⟩

/-- The data frames are of streams that have a task. -/
theorem frames (h : Grows s u) (hg : TargetGlobal s) {frame bytes : Bytes} (hmem : .binary frame ∈ s.produced)
    (hdecode : decodeDataFrame frame = some (id, bytes)) :
    ∃ n < u.tunnel.next, (u.tunnel.tasks n).id = id ∧ ((u.tunnel.tasks n).kind = .tcp → bytes ≠ []) := by
  obtain ⟨n, ht⟩ := hg.frames frame id bytes hmem hdecode
  exact ⟨n, h.task (P := fun kind => kind = .tcp → bytes ≠ []) ht⟩

theorem todoInv (h : Grows s u) (hconsumed : u.consumed = s.consumed)
    (hends : pointEnds s.tunnel.point = true → pointEnds u.tunnel.point = true) {x : Statement}
    (hx : TodoInv s x) : TodoInv u x := by
  cases x with
  | removeStream id =>
    rcases hx with hend | hpoint | ⟨n, hn, hid, hgone⟩
    · refine .inl ?_
      rw [TargetSide.consumedBy, hconsumed]
      exact hend
    · exact .inr (.inl (hends hpoint))
    · exact .inr (.inr ⟨n, hn.trans_le h.next, (h.id n hn).trans hid, h.gone n hn hgone⟩)
  | clearStreams => exact hends hx
  | _ => trivial

/-- What the session task has at hand stays so, while no task is added. -/
theorem pointInv (h : Grows s u) (hnext : u.tunnel.next = s.tunnel.next) (hconsumed : u.consumed = s.consumed)
    {point : Point} (hstill : ∀ n, point.pending = some n → (s.tunnel.tasks n).phase = .unspawned →
      (u.tunnel.tasks n).phase = .unspawned) (hp : PointInv s point) : PointInv u point := by
  cases point with
  | authorizing m | handling m =>
    refine ⟨fun i x hx => ?_, fun i hi => ?_⟩
    · rw [TargetSide.consumedBy, hconsumed]
      exact hp.1 i x hx
    · refine ⟨(hp.2 i hi).1, fun n hn => ?_⟩
      rw [hnext] at hn
      rw [h.id n hn]
      exact (hp.2 i hi).2 n hn
  | storing n =>
    obtain ⟨hn, hphase, hkind⟩ := hp
    refine ⟨hn.trans_le h.next, hstill n rfl hphase, ?_⟩
    rw [h.kind n hn]
    exact hkind
  | registering n | spawning n => exact ⟨hp.1.trans_le h.next, hstill n rfl hp.2⟩
  | sending m required =>
    intro i
    refine (hp i).imp_right fun hclose => ⟨hclose.1, ?_⟩
    obtain ⟨n, hn, hid, hkind, hgone⟩ := hclose.2
    exact ⟨n, hn.trans_le h.next, (h.id n hn).trans hid, (h.kind n hn).trans hkind, h.gone n hn hgone⟩
  | delivering receiver i bytes =>
    cases receiver with
    | body n => exact h.task (P := fun kind => kind ≠ .tcp) hp
    | stream n =>
      obtain ⟨hn, hid, hkind, hbegun⟩ := hp
      exact ⟨hn.trans_le h.next, (h.id n hn).trans hid, (h.kind n hn).trans hkind, h.begun n hn hbegun⟩
  | _ => trivial

end Grows

/-! ### Steps of the session task -/

/-- The tasks are at the same place. -/
structure SameTasks (s t : TunnelState) : Prop where
  next : t.next = s.next
  id : ∀ n, (t.tasks n).id = (s.tasks n).id
  kind : ∀ n, (t.tasks n).kind = (s.tasks n).kind
  phase : ∀ n, (t.tasks n).phase = (s.tasks n).phase

omit [MessageCodec] in
theorem sameTasks_of_eq {s t : TunnelState} (hnext : t.next = s.next) (htasks : t.tasks = s.tasks) :
    SameTasks s t := by
  refine ⟨hnext, fun _ => ?_, fun _ => ?_, fun _ => ?_⟩
  · rw [htasks]
  · rw [htasks]
  · rw [htasks]

omit [MessageCodec] in
theorem SameTasks.refl (s : TunnelState) : SameTasks s s := sameTasks_of_eq rfl rfl

omit [MessageCodec] in
theorem same_setTask {α : Type} (f : Task → α) {s : TunnelState} {t : Task} (h : f t = f (s.tasks n)) (m : Nat) :
    f ((s.setTask n t).tasks m) = f (s.tasks m) := by
  by_cases hm : m = n
  · rw [hm, TunnelState.setTask_self]
    exact h
  · rw [TunnelState.setTask_ne hm]

omit [MessageCodec] in
theorem sameTasks_setTask {s : TunnelState} {t : Task} (hid : t.id = (s.tasks n).id)
    (hkind : t.kind = (s.tasks n).kind) (hphase : t.phase = (s.tasks n).phase) :
    SameTasks s (s.setTask n t) :=
  ⟨rfl, same_setTask Task.id hid, same_setTask Task.kind hkind, same_setTask Task.phase hphase⟩

namespace SameTasks
variable {t : TunnelState}

theorem stage (h : SameTasks s.tunnel t) (n : Nat) :
    targetStage (t.tasks n) = targetStage (s.tunnel.tasks n) := by
  simp only [targetStage, h.phase, h.id]

omit [MessageCodec] in
theorem shaped (h : SameTasks s.tunnel t) (hs : Shaped (s.tunnel.tasks n)) : Shaped (t.tasks n) := by
  unfold Shaped at hs ⊢
  rw [h.phase, h.kind, h.id]
  exact hs

/-- The view after a step of the session task. -/
theorem view (h : SameTasks s.tunnel t) (n : Nat) :
    TargetSide.view n { s with tunnel := t } = { s.view n with
      entry := t.streams.lookup (s.tunnel.tasks n).id = some n
      free := t.lease = none ∧ pointEnds t.point = false
      ending := pointEnds t.point
      waiting := t.delivers (.stream n)
      closing := pointCloses (s.tunnel.tasks n).id t.point
      channel := (t.tasks n).channel.items
      inPoint := atHand (s.tunnel.tasks n).id t.point } := by
  simp only [TargetSide.view]
  rw [h.stage, h.phase, h.id]
  rfl

theorem grows (h : SameTasks s.tunnel t) : Grows s { s with tunnel := t } where
  next := h.next.ge
  id := fun n _ => h.id n
  kind := fun n _ => h.kind n
  begun := fun n _ hstage => by rwa [h.stage]
  gone := fun n _ hstage => (h.stage n).trans hstage

/-- What the session task has at hand is the same to the tasks. -/
theorem pointInv (h : SameTasks s.tunnel t) {point : Point} (hp : PointInv s point) :
    PointInv { s with tunnel := t } point :=
  h.grows.pointInv h.next rfl (fun n _ hphase => (h.phase n).trans hphase) hp

theorem todoInv (h : SameTasks s.tunnel t) (hends : pointEnds s.tunnel.point = true → pointEnds t.point = true)
    {x : Statement} (hx : TodoInv s x) : TodoInv { s with tunnel := t } x := h.grows.todoInv rfl hends hx

end SameTasks

/-- A step of the session task. -/
theorem TargetInv.session (h : TargetInv s) {t : TunnelState} (hsame : SameTasks s.tunnel t)
    (hstreams : ∀ id n, t.streams.lookup id = some n → s.tunnel.streams.lookup id = some n)
    (hbodies : ∀ id n, t.httpBodies.lookup id = some n →
      n < s.tunnel.next ∧ (s.tunnel.tasks n).id = id ∧ (s.tunnel.tasks n).kind ≠ .tcp)
    (hpoint : PointInv s t.point) (htodo : ∀ x ∈ t.todo, TodoInv { s with tunnel := t } x)
    (hresting : t.todo ≠ [] → ∀ receiver, t.delivers receiver = false)
    (hviews : ∀ n < s.tunnel.next, (s.tunnel.tasks n).kind = .tcp → StreamInv { s.view n with
      entry := t.streams.lookup (s.tunnel.tasks n).id = some n
      free := t.lease = none ∧ pointEnds t.point = false
      ending := pointEnds t.point
      waiting := t.delivers (.stream n)
      closing := pointCloses (s.tunnel.tasks n).id t.point
      channel := (t.tasks n).channel.items
      inPoint := atHand (s.tunnel.tasks n).id t.point }) :
    TargetInv { s with tunnel := t } := by
  have hg := h.whole
  refine ⟨⟨fun n hn => ?_, fun m n hm hn hid => ?_, fun n hn => ?_, fun n hn => ?_, fun n hn => ?_,
    fun id n hl => ?_, fun id n hl => ?_, hsame.pointInv hpoint, htodo, hresting, hg.behaved, hg.opened,
    fun id hne => ?_, fun frame id bytes hmem hdecode => ?_⟩, fun n hn hkind => ?_⟩
  · have hn : t.next ≤ n := hn
    rw [hsame.next] at hn
    exact ⟨(hsame.phase n).trans (hg.late n hn).1, (hg.late n hn).2⟩
  · have hm : m < t.next := hm
    have hn : n < t.next := hn
    have hid : (t.tasks m).id = (t.tasks n).id := hid
    rw [hsame.next] at hm hn
    rw [hsame.id, hsame.id] at hid
    exact hg.ids m n hm hn hid
  · have hn : n < t.next := hn
    rw [hsame.next] at hn
    exact hsame.id n ▸ hg.small n hn
  · have hn : n < t.next := hn
    rw [hsame.next] at hn
    show .start (modeOf (t.tasks n).kind) ∈ s.consumedBy (t.tasks n).id
    rw [hsame.kind, hsame.id]
    exact hg.started n hn
  · have hn : n < t.next := hn
    rw [hsame.next] at hn
    exact hsame.shaped (hg.shaped n hn)
  · exact hsame.grows.task (P := fun kind => kind = .tcp) (hg.streams id n (hstreams id n hl))
  · exact hsame.grows.task (P := fun kind => kind ≠ .tcp) (hbodies id n hl)
  · exact hsame.grows.of_id (hg.produced id hne)
  · exact hsame.grows.frames hg hmem hdecode
  · have hn : n < t.next := hn
    have hkind : (t.tasks n).kind = .tcp := hkind
    rw [hsame.next] at hn
    rw [hsame.kind] at hkind
    rw [hsame.view]
    exact hviews n hn hkind

/-- The session task goes on to another point, or stays at its own. -/
theorem TargetInv.goOn (h : TargetInv s) {t : TunnelState} (hsame : SameTasks s.tunnel t)
    (hchannel : ∀ n, (t.tasks n).channel.items = (s.tunnel.tasks n).channel.items)
    (hstreams : t.streams = s.tunnel.streams)
    (hbodies : ∀ id n, t.httpBodies.lookup id = some n →
      n < s.tunnel.next ∧ (s.tunnel.tasks n).id = id ∧ (s.tunnel.tasks n).kind ≠ .tcp)
    (hlease : t.lease = none → s.tunnel.lease = none)
    (hends : pointEnds s.tunnel.point = true → pointEnds t.point = true)
    (hpoint : PointInv s t.point) (htodo : ∀ x ∈ t.todo, TodoInv { s with tunnel := t } x)
    (hresting : t.todo ≠ [] → ∀ receiver, t.delivers receiver = false)
    (hwaits : ∀ n < s.tunnel.next, (s.tunnel.tasks n).kind = .tcp → t.delivers (.stream n) = true →
      (targetStage (s.tunnel.tasks n)).listening = true →
      s.tunnel.streams.lookup (s.tunnel.tasks n).id = some n)
    (hhand : ∀ n < s.tunnel.next, (s.tunnel.tasks n).kind = .tcp →
      atHand (s.tunnel.tasks n).id t.point = atHand (s.tunnel.tasks n).id s.tunnel.point ∨
      atHand (s.tunnel.tasks n).id t.point = [] ∧ (t.lease = none → pointEnds t.point = false →
        (targetStage (s.tunnel.tasks n)).listening = true →
        s.tunnel.streams.lookup (s.tunnel.tasks n).id = some n →
        atHand (s.tunnel.tasks n).id s.tunnel.point = [])) :
    TargetInv { s with tunnel := t } := by
  refine h.session hsame (fun id n hl => hstreams ▸ hl) hbodies hpoint htodo hresting fun n hn hkind => ?_
  have hview := (h.stream n hn hkind).goOn (t.lease = none ∧ pointEnds t.point = false)
    (pointEnds t.point) (t.delivers (.stream n)) (pointCloses (s.tunnel.tasks n).id t.point)
    (atHand (s.tunnel.tasks n).id t.point) ?_ hends ?_ ?_ ?_
  · rw [hstreams, hchannel]
    exact hview
  · intro hfree
    obtain ⟨hl, he⟩ := of_decide_eq_true hfree
    refine decide_eq_true ⟨hlease hl, ?_⟩
    by_contra hne
    rw [hends (by simpa using hne)] at he
    cases he
  · intro hwaiting hlistening
    exact decide_eq_true (hwaits n hn hkind hwaiting hlistening)
  · exact h.whole.closes hpoint hn
  · refine (hhand n hn hkind).imp_right fun hnil => ⟨hnil.1, fun hlistening hentry hfree => ?_⟩
    obtain ⟨hl, he⟩ := of_decide_eq_true hfree
    exact hnil.2 hl he hlistening (of_decide_eq_true hentry)

end Target

end WsNet.Relay
