import WsNet.Gateway.Tunnel

/-! The end of a request's body.

The body that `handle_http_request` reads ends when its sender is dropped, and the
sender is the stream's entry in `http_bodies`. HttpRequestEnd drops it, but so do
Close, a second HttpRequestStart, the end of the task, the cancelled lease and the
end of the session, none of which puts an error in first. Where the body is still
read then, the target sees a request cut short as a complete one (`cut_request_ends`).
Where nothing reads it any more, no harm is done (`body_ends_complete`). -/
namespace WsNet.Gateway
open Data Transition

/-! ### The rule -/

/-- The tasks whose body loses its sender in this step, other than by HttpRequestEnd. -/
def taken (op : TunnelOp) (s : TunnelState) : List Nat :=
  match op with
  | .store =>
    match s.point with
    | .storing n => (s.httpBodies.lookup (s.tasks n).id).toList
    | _ => []
  | .exec =>
    match s.todo with
    | .removeBody id :: _ => (s.httpBodies.lookup id).toList
    | .clearBodies :: _ => HashMap.values s.httpBodies
    | _ => []
  | .task n .wind =>
    if (s.tasks n).removesBody then (s.httpBodies.lookup (s.tasks n).id).toList else []
  | _ => []

/-- What takes out the sender of a body finds its receiver gone. -/
def TakenUnread (op : TunnelOp) (s : TunnelState) : Prop :=
  ∀ n ∈ taken op s, (s.tasks n).bodyOpen = false

instance (op : TunnelOp) (s : TunnelState) : Decidable (TakenUnread op s) :=
  inferInstanceAs (Decidable (∀ n ∈ taken op s, (s.tasks n).bodyOpen = false))

/-! ### The invariant -/

structure BodyInv (s : TunnelState) : Prop where
  stored : ∀ id n, s.httpBodies.lookup id = some n → n < s.next ∧ (s.tasks n).id = id
  storing : ∀ n, s.point = .storing n → n < s.next
  sender : ∀ n, (s.tasks n).bodyOpen = true → s.httpBodies.lookup (s.tasks n).id = some n ∨
    s.point = .storing n ∨ (s.tasks n).requestEnded = true
  ended : ∀ n, (s.tasks n).bodyEnd = true → (s.tasks n).requestEnded = true

/-- A task, as far as its body goes. -/
structure SameBody (t t' : Task) : Prop where
  id : t'.id = t.id
  bodyOpen : t'.bodyOpen = true → t.bodyOpen = true
  bodyEnd : t'.bodyEnd = true → t.bodyEnd = true ∨ t'.requestEnded = true
  requestEnded : t.requestEnded = true → t'.requestEnded = true

theorem SameBody.refl (t : Task) : SameBody t t := ⟨rfl, fun h => h, .inl, fun h => h⟩

theorem Task.Alike.sameBody {t t' : Task} (h : t.Alike t') : SameBody t t' := by
  obtain ⟨channel, body, rfl⟩ := h
  exact ⟨rfl, fun h => h, .inl, fun h => h⟩

theorem sameBody_setTask {s : TunnelState} {n : Nat} {t : Task} (h : SameBody (s.tasks n) t) (m : Nat) :
    SameBody (s.tasks m) ((s.setTask n t).tasks m) := by
  by_cases hm : m = n
  · subst hm
    rw [TunnelState.setTask_self]
    exact h
  · rw [TunnelState.setTask_ne hm]
    exact SameBody.refl _

/-- A step that leaves the stored senders, except those of bodies that nothing reads. -/
structure KeepsBodies (s t : TunnelState) : Prop where
  next : t.next = s.next
  task : ∀ n, SameBody (s.tasks n) (t.tasks n)
  stored : ∀ id n, t.httpBodies.lookup id = some n → s.httpBodies.lookup id = some n
  kept : ∀ n, (t.tasks n).bodyOpen = true → s.httpBodies.lookup (s.tasks n).id = some n →
    t.httpBodies.lookup (s.tasks n).id = some n ∨ (t.tasks n).requestEnded = true
  point : ∀ n, s.point = .storing n ↔ t.point = .storing n

theorem KeepsBodies.inv {s t : TunnelState} (h : KeepsBodies s t) (hi : BodyInv s) : BodyInv t where
  stored id n hl := by
    rw [h.next, (h.task n).id]
    exact hi.stored id n (h.stored id n hl)
  storing n hn := by
    rw [h.next]
    exact hi.storing n ((h.point n).mpr hn)
  sender n hn := by
    rcases hi.sender n ((h.task n).bodyOpen hn) with hl | hp | he
    · rcases h.kept n hn hl with hl | he
      · left
        rw [(h.task n).id]
        exact hl
      · exact .inr (.inr he)
    · exact .inr (.inl ((h.point n).mp hp))
    · exact .inr (.inr ((h.task n).requestEnded he))
  ended n hn := by
    rcases (h.task n).bodyEnd hn with hold | he
    · exact (h.task n).requestEnded (hi.ended n hold)
    · exact he

/-! ### One step -/

theorem storing_pending {s t : TunnelState} (hs : s.point.pending = none) (ht : t.point.pending = none)
    (n : Nat) : s.point = .storing n ↔ t.point = .storing n := by
  constructor
  · intro h
    rw [h] at hs
    cases hs
  · intro h
    rw [h] at ht
    cases ht

theorem keepsBodies_quiet {s t : TunnelState} (hq : Quiet s t)
    (hpoint : t.point = s.point ∨ s.point.pending = none ∧ t.point.pending = none) : KeepsBodies s t where
  next := hq.next
  task n := (hq.task n).sameBody
  stored id n hl := by
    rw [hq.httpBodies] at hl
    exact hl
  kept n _ hl := by
    rw [hq.httpBodies]
    exact .inl hl
  point n := by
    rcases hpoint with heq | ⟨hs, ht⟩
    · rw [heq]
    · exact storing_pending hs ht n

theorem bodyInv_create {s : TunnelState} (hi : BodyInv s) {m : Message} (hpoint : s.point = .handling m)
    (id : StreamId) (kind : TaskKind) : BodyInv (s.create id kind) := by
  have hother : ∀ n, n ≠ s.next → (s.create id kind).tasks n = s.tasks n := fun n hne =>
    Function.update_of_ne hne _ _
  have hnew : (s.create id kind).tasks s.next = { id, kind, bodyOpen := kind = .upload } :=
    Function.update_self _ _ _
  refine ⟨?_, ?_, ?_, ?_⟩
  · intro id' n hl
    obtain ⟨hlt, hid⟩ := hi.stored id' n hl
    rw [hother n (by omega)]
    exact ⟨Nat.lt_succ_of_lt hlt, hid⟩
  · intro n hn
    simp only [TunnelState.create] at hn
    split at hn
    · cases hn
      exact Nat.lt_succ_self _
    · cases hn
  · intro n hn
    by_cases hne : n = s.next
    · subst hne
      rw [hnew] at hn
      have hkind : kind = .upload := by simpa using hn
      right
      left
      simp only [TunnelState.create, hkind, if_true]
    · rw [hother n hne] at hn ⊢
      rcases hi.sender n hn with hl | hp | he
      · exact .inl hl
      · rw [hpoint] at hp
        cases hp
      · exact .inr (.inr he)
  · intro n hn
    by_cases hne : n = s.next
    · subst hne
      rw [hnew] at hn
      cases hn
    · rw [hother n hne] at hn ⊢
      exact hi.ended n hn

/-- The stored sender takes the place of one whose receiver has gone. -/
theorem bodyInv_store {s : TunnelState} (hi : BodyInv s) {n : Nat} (hpoint : s.point = .storing n)
    (hr : TakenUnread .store s) :
    BodyInv { s with
      httpBodies := s.httpBodies.insert (s.tasks n).id n, point := .registering n } := by
  refine ⟨?_, fun m hm => (by cases hm), ?_, hi.ended⟩
  · intro id m hl
    rcases HashMap.lookup_insert_some hl with ⟨hid, rfl⟩ | ⟨_, hold⟩
    · exact ⟨hi.storing m hpoint, hid.symm⟩
    · exact hi.stored id m hold
  · intro m hm
    rcases hi.sender m hm with hl | hp | he
    · by_cases hid : (s.tasks m).id = (s.tasks n).id
      · have hgone := hr m (by
          simp only [taken, hpoint, Option.mem_toList]
          rw [← hid]
          exact hl)
        have hm : (s.tasks m).bodyOpen = true := hm
        rw [hgone] at hm
        cases hm
      · left
        rw [AList.lookup_insert_ne hid]
        exact hl
    · rw [hpoint] at hp
      cases hp
      exact .inl (AList.lookup_insert _)
    · exact .inr (.inr he)

theorem keepsBodies_setTask {s : TunnelState} {n : Nat} {t : Task} (h : SameBody (s.tasks n) t) :
    KeepsBodies s (s.setTask n t) :=
  ⟨rfl, sameBody_setTask h, fun _ _ hl => hl, fun _ _ hl => .inl hl, fun _ => Iff.rfl⟩

/-- An entry that is taken out belongs to a body that nothing reads. -/
theorem keepsBodies_erase {s : TunnelState} {id : StreamId}
    (hr : ∀ n, s.httpBodies.lookup id = some n → (s.tasks n).bodyOpen = false) :
    KeepsBodies s { s with httpBodies := s.httpBodies.erase id } := by
  refine ⟨rfl, fun _ => SameBody.refl _, fun _ _ hl => (HashMap.lookup_erase_some hl).2, ?_,
    fun _ => Iff.rfl⟩
  intro n hn hl
  by_cases hid : (s.tasks n).id = id
  · rw [hid] at hl
    have hn : (s.tasks n).bodyOpen = true := hn
    rw [hr n hl] at hn
    cases hn
  · left
    rw [AList.lookup_erase_ne hid]
    exact hl

theorem keepsBodies_endBody {s : TunnelState} {id : StreamId} {n : Nat}
    (hl : s.httpBodies.lookup id = some n) :
    KeepsBodies s
      { s.setTask n { s.tasks n with requestEnded := true } with httpBodies := s.httpBodies.erase id } := by
  refine ⟨rfl, ?_, fun _ _ hl => (HashMap.lookup_erase_some hl).2, ?_, fun _ => Iff.rfl⟩
  · exact sameBody_setTask ⟨rfl, fun h => h, .inl, fun _ => rfl⟩
  · intro m _ hm
    by_cases hid : (s.tasks m).id = id
    · -- its body is the one that ends
      rw [hid, hl] at hm
      cases hm
      right
      show ((s.setTask n _).tasks n).requestEnded = true
      rw [TunnelState.setTask_self]
    · left
      rw [AList.lookup_erase_ne hid]
      exact hm

theorem bodyInv_exec {s : TunnelState} {x : Statement} {rest : List Statement} (hi : BodyInv s)
    (htodo : s.todo = x :: rest) (hr : TakenUnread .exec s) :
    BodyInv (TunnelState.run x { s with todo := rest }) := by
  have hrest : BodyInv { s with todo := rest } := ⟨hi.stored, hi.storing, hi.sender, hi.ended⟩
  cases x with
  | cancel n =>
    have hkeeps : KeepsBodies { s with todo := rest }
        (TunnelState.run (.cancel n) { s with todo := rest }) :=
      keepsBodies_setTask ⟨rfl, fun h => h, .inl, fun h => h⟩
    exact hkeeps.inv hrest
  | removeCancel id => exact ⟨hi.stored, hi.storing, hi.sender, hi.ended⟩
  | removeStream id => exact ⟨hi.stored, hi.storing, hi.sender, hi.ended⟩
  | removeBody id =>
    have hkeeps : KeepsBodies { s with todo := rest }
        (TunnelState.run (.removeBody id) { s with todo := rest }) := by
      apply keepsBodies_erase
      intro n hl
      apply hr n
      simp only [taken, htodo, Option.mem_toList]
      exact hl
    exact hkeeps.inv hrest
  | endBody id =>
    simp only [TunnelState.run]
    split
    · rename_i n hl
      have hkeeps : KeepsBodies { s with todo := rest }
          { ({ s with todo := rest } : TunnelState).setTask n { s.tasks n with requestEnded := true } with
            httpBodies := s.httpBodies.erase id } := keepsBodies_endBody hl
      exact hkeeps.inv hrest
    · exact hrest
  | clearCancels => exact ⟨hi.stored, hi.storing, hi.sender, hi.ended⟩
  | clearStreams => exact ⟨hi.stored, hi.storing, hi.sender, hi.ended⟩
  | clearBodies =>
    refine ⟨fun id n hl => (by cases hl), hi.storing, ?_, hi.ended⟩
    intro n hn
    rcases hi.sender n hn with hl | hp | he
    · have hgone := hr n (by
        simp only [taken, htodo]
        exact (HashMap.mem_values _ _).mpr ⟨_, hl⟩)
      have hn : (s.tasks n).bodyOpen = true := hn
      rw [hgone] at hn
      cases hn
    · exact .inr (.inl hp)
    · exact .inr (.inr he)

/-- A task is told the end of its body only when no sender is left. -/
theorem sameBody_step {env : Surroundings} {op : TaskOp} {t t' : Task} {effect : Effect}
    (h : t.step env op = some (t', effect))
    (hend : t.bodyOpen = true → env.bodySender = false → t.requestEnded = true) : SameBody t t' := by
  have ha := Task.advance_step h
  refine ⟨ha.id, ha.bodyOpen, fun he => ?_, fun he => ha.requestEnded.trans he⟩
  rcases ha.bodyEnd he with hold | ⟨hopen, hnone⟩
  · exact .inl hold
  · exact .inr (ha.requestEnded.trans (hend hopen hnone))

theorem bodyInv_task {s : TunnelState} (hi : BodyInv s) {n : Nat} {op : TaskOp} {t' : Task}
    {effect : Effect} (hstep : (s.tasks n).step (s.surroundings n) op = some (t', effect))
    (hr : TakenUnread (.task n op) s) : BodyInv ((s.setTask n t').apply n effect) := by
  have hsame : SameBody (s.tasks n) t' := by
    apply sameBody_step hstep
    intro hopen hnone
    have hnone : s.bodySender n = false := hnone
    simp only [TunnelState.bodySender, decide_eq_false_iff_not, not_or] at hnone
    rcases hi.sender n hopen with hl | hp | he
    · exact absurd hl hnone.1
    · exact absurd hp hnone.2.1
    · exact he
  have hset : BodyInv (s.setTask n t') := (keepsBodies_setTask hsame).inv hi
  cases effect with
  | quiet => exact hset
  | send out => exact ⟨hset.stored, hset.storing, hset.sender, hset.ended⟩
  | insertStream => exact ⟨hset.stored, hset.storing, hset.sender, hset.ended⟩
  | removeStream => exact ⟨hset.stored, hset.storing, hset.sender, hset.ended⟩
  | unregister =>
    simp only [TunnelState.apply]
    split
    · exact ⟨hset.stored, hset.storing, hset.sender, hset.ended⟩
    · exact hset
  | removeBody =>
    obtain ⟨rfl, hremoves⟩ := (Task.advance_step hstep).causes
    have hid : ((s.setTask n t').tasks n).id = (s.tasks n).id := by
      rw [TunnelState.setTask_self]
      exact hsame.id
    have hkeeps : KeepsBodies (s.setTask n t') ((s.setTask n t').apply n .removeBody) := by
      apply keepsBodies_erase
      intro m hl
      rw [hid] at hl
      have hgone := hr m (by
        simp only [taken, hremoves, if_true, Option.mem_toList]
        exact hl)
      have hm := sameBody_setTask hsame m
      by_contra hopen
      rw [Bool.not_eq_false] at hopen
      rw [hm.bodyOpen hopen] at hgone
      cases hgone
    exact hkeeps.inv hset

theorem bodyInv_move {op : TunnelOp} {s t : TunnelState} (hi : BodyInv s) (hr : TakenUnread op s)
    (h : s.Move op t) : BodyInv t := by
  cases h with
  | calm quiet _ point =>
    apply (keepsBodies_quiet quiet _).inv hi
    rcases point with heq | ⟨hs, ht⟩
    · exact .inl heq
    · exact .inr ⟨hs, TunnelState.goesOn_pending ht⟩
  | create _ point _ id _ kind => exact bodyInv_create hi point id kind
  | store _ n point => exact bodyInv_store hi point hr
  | register _ n point =>
    refine ⟨hi.stored, fun m hm => (by cases hm), fun m hm => ?_, hi.ended⟩
    rcases hi.sender m hm with hl | hp | he
    · exact .inl hl
    · rw [point] at hp
      cases hp
    · exact .inr (.inr he)
  | spawn _ n point =>
    have hkeeps : KeepsBodies s
        (s.setTask n { s.tasks n with phase := TunnelState.firstPhase (s.tasks n).kind }) :=
      keepsBodies_setTask ⟨rfl, fun h => h, .inl, fun h => h⟩
    have hset := hkeeps.inv hi
    refine ⟨hset.stored, fun m hm => (by cases hm), fun m hm => ?_, hset.ended⟩
    rcases hset.sender m hm with hl | hp | he
    · exact .inl hl
    · have hp : s.point = .storing m := hp
      rw [point] at hp
      cases hp
    · exact .inr (.inr he)
  | exec x rest todo => exact bodyInv_exec hi todo hr
  | sweep quiet _ _ _ _ point point' _ => exact (keepsBodies_quiet quiet (.inr ⟨point, point'⟩)).inv hi
  | task n op t' effect step => exact bodyInv_task hi step hr

theorem bodyInv_reachable {s : TunnelState} (h : tunnel.ReachableUnder TakenUnread s) : BodyInv s := by
  apply h.invariant
  · intro s hs
    have hs : s = {} := hs
    subst hs
    exact ⟨fun _ _ hl => (by cases hl), fun _ hn => (by cases hn), fun _ hn => (by cases hn),
      fun _ hn => (by cases hn)⟩
  · exact fun _ _ _ _ hi hr hs => bodyInv_move hi hr (TunnelState.move_step hs)

/-- **An ended body is a complete one**, in every run in which no step but
HttpRequestEnd takes out the sender of a body that is still read: the end of the
body is reported only after HttpRequestEnd took its sender. -/
theorem body_ends_complete {s : TunnelState} (h : tunnel.ReachableUnder TakenUnread s) (n : Nat)
    (hend : (s.tasks n).bodyEnd = true) : (s.tasks n).requestEnded = true :=
  (bodyInv_reachable h).ended n hend

/-! ### A request, whole and cut short -/

/-- A request is started, and a part of its body is delivered. -/
def uploadOps : List TunnelOp :=
  [.message (.httpRequestStart 7 "web" httpTarget ⟨"POST", "/", []⟩), .authorized, .handle, .store,
    .register, .spawn, .task 0 .poll, .data 7 [1, 2], .dispatch, .delivered]

def wholeOps : List TunnelOp :=
  uploadOps ++ [.message (.httpRequestEnd 7), .handle, .exec, .task 0 .readBody, .task 0 .readBody]

def wholeState : TunnelState := (tunnel.runUnder TakenUnread wholeOps {}).getD {}

theorem body_ends_complete_wholeState : (wholeState.tasks 0).requestEnded = true := by
  have hreach : tunnel.ReachableUnder TakenUnread wholeState :=
    Machine.reachable_getD rfl (by decide +kernel)
  exact body_ends_complete hreach 0 (by decide +kernel)

/-- The access closes the stream; the HTTP client reads before the task is polled. -/
def cutOps : List TunnelOp :=
  uploadOps ++ [.message (.close 7 "local_closed"), .handle, .exec, .exec, .exec, .exec,
    .task 0 .readBody, .task 0 .readBody]

def cutState : TunnelState := (tunnel.run cutOps {}).getD {}

theorem cut_request_ends :
    tunnel.Reachable cutState ∧ (cutState.tasks 0).kind = .upload ∧
      (cutState.tasks 0).bodyRead = [.ok [1, 2]] ∧ (cutState.tasks 0).bodyEnd = true ∧
      (cutState.tasks 0).requestEnded = false :=
  ⟨Machine.reachable_getD rfl (by decide +kernel), by decide +kernel, by decide +kernel,
    by decide +kernel, by decide +kernel⟩

end WsNet.Gateway
