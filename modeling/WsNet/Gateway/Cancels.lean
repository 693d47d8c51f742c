import WsNet.Gateway.Tunnel

/-! No stream task escapes its cancellation.

A task is registered under its stream until it takes itself out, and whoever takes
it out before, or puts another in its place, cancels it. So a task that has not taken
itself out is cancelled, or registered, or about to be cancelled by the session task
(`covered`). When the session task waits, there is nothing left that it is about to
do. -/
namespace WsNet.Gateway
open Data Transition

namespace TunnelState

/-- Cancelled, registered, or about to be cancelled. -/
def Covered (n : Nat) (s : TunnelState) : Prop :=
  (s.tasks n).canceled = true ∨ s.streamCancels.lookup (s.tasks n).id = some n ∨ .cancel n ∈ s.todo

end TunnelState

structure CancelInv (s : TunnelState) : Prop where
  registered : ∀ id n, s.streamCancels.lookup id = some n → n < s.next ∧ (s.tasks n).id = id
  pending : ∀ n, s.point.pending = some n → n < s.next ∧ (s.tasks n).phase = .unspawned
  spawning : ∀ n, s.point = .spawning n → s.Covered n
  covered : ∀ n, (s.tasks n).phase.active = true → s.Covered n
  clear : .clearCancels ∈ s.todo → ∀ id n, s.streamCancels.lookup id = some n →
    (s.tasks n).canceled = true ∨ .cancel n ∈ s.todo

/-- A task, as far as its cancellation goes. -/
structure SameTask (t t' : Task) : Prop where
  id : t'.id = t.id
  phase : t'.phase = t.phase
  canceled : t'.canceled = t.canceled

theorem SameTask.refl (t : Task) : SameTask t t := ⟨rfl, rfl, rfl⟩

theorem Task.Alike.same {t t' : Task} (h : t.Alike t') : SameTask t t' := by
  obtain ⟨channel, body, rfl⟩ := h
  exact ⟨rfl, rfl, rfl⟩

/-- A step that leaves the registrations alone. -/
structure KeepsCancels (s t : TunnelState) : Prop where
  streamCancels : t.streamCancels = s.streamCancels
  next : t.next = s.next
  task : ∀ n, SameTask (s.tasks n) (t.tasks n)
  cancel : ∀ n, .cancel n ∈ s.todo → .cancel n ∈ t.todo
  clear : .clearCancels ∈ t.todo →
    .clearCancels ∈ s.todo ∨ ∀ id n, s.streamCancels.lookup id = some n → .cancel n ∈ t.todo
  pending : ∀ n, t.point.pending = some n → s.point.pending = some n
  spawning : ∀ n, t.point = .spawning n → s.point = .spawning n

theorem KeepsCancels.covered {s t : TunnelState} (h : KeepsCancels s t) {n : Nat}
    (hc : s.Covered n) : t.Covered n := by
  have hsame := h.task n
  rcases hc with hcanceled | hregistered | hcancel
  · exact .inl (hsame.canceled.trans hcanceled)
  · right
    left
    rw [h.streamCancels, hsame.id]
    exact hregistered
  · exact .inr (.inr (h.cancel n hcancel))

theorem KeepsCancels.inv {s t : TunnelState} (h : KeepsCancels s t) (hi : CancelInv s) :
    CancelInv t where
  registered id n hl := by
    rw [h.streamCancels] at hl
    rw [h.next, (h.task n).id]
    exact hi.registered id n hl
  pending n hn := by
    rw [h.next, (h.task n).phase]
    exact hi.pending n (h.pending n hn)
  spawning n hn := h.covered (hi.spawning n (h.spawning n hn))
  covered n hn := by
    rw [(h.task n).phase] at hn
    exact h.covered (hi.covered n hn)
  clear hclear id n hl := by
    rw [h.streamCancels] at hl
    rcases h.clear hclear with hold | hall
    · rcases hi.clear hold id n hl with hcanceled | hcancel
      · exact .inl ((h.task n).canceled.trans hcanceled)
      · exact .inr (h.cancel n hcancel)
    · exact .inr (hall id n hl)

/-! ### One step -/

theorem cancelInv_calm {s t : TunnelState} (hi : CancelInv s) (hq : Quiet s t)
    (htodo : t.todo = s.todo ∨ s.todo = [] ∧ ∀ x ∈ t.todo, x.removal = true)
    (hpoint : t.point = s.point ∨ s.point.pending = none ∧ t.point.goesOn = true) : CancelInv t := by
  apply KeepsCancels.inv _ hi
  refine ⟨hq.streamCancels, hq.next, fun n => (hq.task n).same, ?_, ?_, ?_, ?_⟩
  · intro n hn
    rcases htodo with heq | ⟨hnil, _⟩
    · rw [heq]
      exact hn
    · rw [hnil] at hn
      cases hn
  · intro hclear
    rcases htodo with heq | ⟨_, hall⟩
    · rw [heq] at hclear
      exact .inl hclear
    · cases hall _ hclear
  · intro n hn
    rcases hpoint with heq | ⟨_, hgoes⟩
    · rw [heq] at hn
      exact hn
    · rw [TunnelState.goesOn_pending hgoes] at hn
      cases hn
  · intro n hn
    rcases hpoint with heq | ⟨_, hgoes⟩
    · rw [heq] at hn
      exact hn
    · rw [hn] at hgoes
      cases hgoes

theorem cancelInv_create {s : TunnelState} (hi : CancelInv s) (htodo : s.todo = []) (id : StreamId)
    (kind : TaskKind) : CancelInv (s.create id kind) := by
  have hother : ∀ n, n ≠ s.next → (s.create id kind).tasks n = s.tasks n := fun n hne =>
    Function.update_of_ne hne _ _
  have hnew : ((s.create id kind).tasks s.next).phase = .unspawned := by
    show (Function.update s.tasks s.next _ s.next).phase = _
    rw [Function.update_self]
  have hcovered : ∀ n, n ≠ s.next → s.Covered n → (s.create id kind).Covered n := by
    intro n hne hc
    unfold TunnelState.Covered
    rw [hother n hne]
    exact hc
  refine ⟨?_, ?_, ?_, ?_, ?_⟩
  · intro id' n hl
    obtain ⟨hlt, hid⟩ := hi.registered id' n hl
    rw [hother n (by omega)]
    exact ⟨Nat.lt_succ_of_lt hlt, hid⟩
  · intro n hn
    have hn : n = s.next := by
      simp only [TunnelState.create] at hn
      split at hn <;> exact (Option.some.inj hn).symm
    subst hn
    exact ⟨Nat.lt_succ_self _, hnew⟩
  · intro n hn
    simp only [TunnelState.create] at hn
    split at hn <;> cases hn
  · intro n hn
    by_cases hne : n = s.next
    · subst hne
      rw [hnew] at hn
      cases hn
    · rw [hother n hne] at hn
      exact hcovered n hne (hi.covered n hn)
  · intro hclear
    have hclear : Statement.clearCancels ∈ s.todo := hclear
    rw [htodo] at hclear
    cases hclear

theorem cancelInv_store {s : TunnelState} (hi : CancelInv s) {n : Nat} (hpoint : s.point = .storing n) :
    CancelInv { s with
      httpBodies := s.httpBodies.insert (s.tasks n).id n, point := .registering n } := by
  apply KeepsCancels.inv _ hi
  refine ⟨rfl, rfl, fun _ => SameTask.refl _, fun _ h => h, .inl, fun m hm => ?_, fun _ h => by cases h⟩
  rw [hpoint]
  exact hm

/-- The previous registration of the stream is to be cancelled, if there is one. -/
theorem cancelInv_register {s : TunnelState} (hi : CancelInv s) (htodo : s.todo = []) {n : Nat}
    (hpoint : s.point = .registering n) :
    CancelInv { s with
      streamCancels := s.streamCancels.insert (s.tasks n).id n
      todo := (s.streamCancels.lookup (s.tasks n).id).toList.map .cancel
      point := .spawning n } := by
  have hpending := hi.pending n (by rw [hpoint]; rfl)
  refine ⟨?_, ?_, ?_, ?_, ?_⟩
  · intro id m hl
    rcases HashMap.lookup_insert_some hl with ⟨hid, rfl⟩ | ⟨_, hold⟩
    · exact ⟨hpending.1, hid.symm⟩
    · exact hi.registered id m hold
  · intro m hm
    cases Option.some.inj hm
    exact hpending
  · intro m hm
    cases hm
    exact .inr (.inl (AList.lookup_insert _))
  · intro m hm
    rcases hi.covered m hm with hcanceled | hregistered | hcancel
    · exact .inl hcanceled
    · by_cases hid : (s.tasks m).id = (s.tasks n).id
      · -- replaced
        right
        right
        rw [← hid, hregistered]
        exact List.mem_cons_self
      · right
        left
        rw [AList.lookup_insert_ne hid]
        exact hregistered
    · rw [htodo] at hcancel
      cases hcancel
  · intro hclear
    obtain ⟨m, _, hm⟩ := List.mem_map.mp hclear
    cases hm

/-- A step of one task, past its being set up, that does not come back to life. -/
theorem cancelInv_setTask {s : TunnelState} (hi : CancelInv s) {n : Nat} {t : Task}
    (hid : t.id = (s.tasks n).id) (hcanceled : t.canceled = (s.tasks n).canceled)
    (hpending : s.point.pending ≠ some n)
    (hactive : t.phase.active = true → s.Covered n) : CancelInv (s.setTask n t) := by
  have htask : ∀ m, ((s.setTask n t).tasks m).id = (s.tasks m).id ∧
      ((s.setTask n t).tasks m).canceled = (s.tasks m).canceled := by
    intro m
    by_cases hm : m = n
    · subst hm
      rw [TunnelState.setTask_self]
      exact ⟨hid, hcanceled⟩
    · rw [TunnelState.setTask_ne hm]
      exact ⟨rfl, rfl⟩
  have hcovered : ∀ m, s.Covered m → (s.setTask n t).Covered m := by
    intro m hc
    unfold TunnelState.Covered
    rw [(htask m).1, (htask m).2]
    exact hc
  refine ⟨?_, ?_, fun m hm => hcovered m (hi.spawning m hm), ?_, ?_⟩
  · intro id m hl
    rw [(htask m).1]
    exact hi.registered id m hl
  · intro m hm
    have hne : m ≠ n := by
      intro heq
      subst heq
      exact hpending hm
    rw [TunnelState.setTask_ne hne]
    exact hi.pending m hm
  · intro m hm
    by_cases heq : m = n
    · subst heq
      rw [TunnelState.setTask_self] at hm
      exact hcovered m (hactive hm)
    · rw [TunnelState.setTask_ne heq] at hm
      exact hcovered m (hi.covered m hm)
  · intro hclear id m hl
    rw [(htask m).2]
    exact hi.clear hclear id m hl

theorem cancelInv_spawn {s : TunnelState} (hi : CancelInv s) {n : Nat} (hpoint : s.point = .spawning n) :
    CancelInv
      { s.setTask n { s.tasks n with phase := TunnelState.firstPhase (s.tasks n).kind } with
        point := .select } := by
  have hselect : CancelInv { s with point := .select } :=
    ⟨hi.registered, fun m hm => (by cases hm), fun m hm => (by cases hm), hi.covered, hi.clear⟩
  exact cancelInv_setTask hselect rfl rfl (fun h => by cases h) fun _ => hi.spawning n hpoint

/-- A statement on another table. -/
theorem cancelInv_other {s t : TunnelState} {x : Statement} {rest : List Statement} (hi : CancelInv s)
    (htodo : s.todo = x :: rest) (hx : ∀ n, x ≠ .cancel n) (hcancels : t.streamCancels = s.streamCancels)
    (hnext : t.next = s.next) (htask : ∀ n, SameTask (s.tasks n) (t.tasks n)) (hrest : t.todo = rest)
    (hpoint : t.point = s.point) : CancelInv t := by
  apply KeepsCancels.inv _ hi
  refine ⟨hcancels, hnext, htask, ?_, ?_, fun n hn => hpoint ▸ hn, fun n hn => hpoint ▸ hn⟩
  · intro n hn
    rw [htodo] at hn
    rw [hrest]
    exact (List.mem_cons.mp hn).resolve_left fun heq => hx n heq.symm
  · intro hclear
    rw [hrest] at hclear
    left
    rw [htodo]
    exact List.mem_cons_of_mem _ hclear

theorem cancelInv_cancel {s : TunnelState} {n : Nat} {rest : List Statement} (hi : CancelInv s)
    (htodo : s.todo = .cancel n :: rest) :
    CancelInv (TunnelState.run (.cancel n) { s with todo := rest }) := by
  -- the task that was to be cancelled is cancelled
  have htask : ∀ m, (TunnelState.run (.cancel n) { s with todo := rest }).tasks m =
      { s.tasks m with canceled := (s.tasks m).canceled || m == n } := by
    intro m
    show (s.setTask n { s.tasks n with canceled := true }).tasks m = _
    by_cases hm : m = n
    · subst hm
      rw [TunnelState.setTask_self, beq_self_eq_true, Bool.or_true]
    · rw [TunnelState.setTask_ne hm, beq_eq_false_iff_ne.mpr hm, Bool.or_false]
  have hcancel : ∀ m, (s.tasks m).canceled = true ∨ .cancel m ∈ s.todo →
      ((s.tasks m).canceled || m == n) = true ∨ .cancel m ∈ rest := by
    intro m hm
    rw [htodo] at hm
    rcases hm with hcanceled | hmem
    · exact .inl (by rw [hcanceled]; rfl)
    · rcases List.mem_cons.mp hmem with heq | hmem
      · cases heq
        exact .inl (by simp)
      · exact .inr hmem
  have hcovered : ∀ m, s.Covered m →
      (TunnelState.run (.cancel n) { s with todo := rest }).Covered m := by
    intro m hc
    unfold TunnelState.Covered
    rw [htask m]
    rcases hc with hcanceled | hregistered | hmem
    · exact .inl (by rw [hcanceled]; rfl)
    · exact .inr (.inl hregistered)
    · rcases hcancel m (.inr hmem) with hcanceled | hmem
      · exact .inl hcanceled
      · exact .inr (.inr hmem)
  refine ⟨?_, ?_, fun m hm => hcovered m (hi.spawning m hm), ?_, ?_⟩
  · intro id m hl
    rw [htask m]
    exact hi.registered id m hl
  · intro m hm
    rw [htask m]
    exact hi.pending m hm
  · intro m hm
    rw [htask m] at hm
    exact hcovered m (hi.covered m hm)
  · intro hclear id m hl
    rw [htask m]
    exact hcancel m (hi.clear (by rw [htodo]; exact List.mem_cons_of_mem _ hclear) id m hl)

theorem cancelInv_removeCancel {s : TunnelState} {id : StreamId} {rest : List Statement}
    (hi : CancelInv s) (htodo : s.todo = .removeCancel id :: rest) :
    CancelInv (TunnelState.run (.removeCancel id) { s with todo := rest }) := by
  have hcancel : ∀ n, .cancel n ∈ s.todo →
      .cancel n ∈ (s.streamCancels.lookup id).toList.map Statement.cancel ++ rest := by
    intro n hn
    rw [htodo] at hn
    rcases List.mem_cons.mp hn with heq | hn
    · cases heq
    · exact List.mem_append_right _ hn
  have hcovered : ∀ n, s.Covered n →
      (TunnelState.run (.removeCancel id) { s with todo := rest }).Covered n := by
    intro n hc
    rcases hc with hcanceled | hregistered | hmem
    · exact .inl hcanceled
    · by_cases hid : (s.tasks n).id = id
      · right
        right
        show Statement.cancel n ∈ (s.streamCancels.lookup id).toList.map Statement.cancel ++ rest
        rw [← hid, hregistered]
        exact List.mem_cons_self
      · right
        left
        show (s.streamCancels.erase id).lookup (s.tasks n).id = some n
        rw [AList.lookup_erase_ne hid]
        exact hregistered
    · exact .inr (.inr (hcancel n hmem))
  refine ⟨?_, hi.pending, fun n hn => hcovered n (hi.spawning n hn),
    fun n hn => hcovered n (hi.covered n hn), ?_⟩
  · intro id' n hl
    exact hi.registered id' n (HashMap.lookup_erase_some hl).2
  · intro hclear id' n hl
    have hold : Statement.clearCancels ∈ s.todo := by
      rcases List.mem_append.mp hclear with hmem | hmem
      · obtain ⟨m, _, hm⟩ := List.mem_map.mp hmem
        cases hm
      · rw [htodo]
        exact List.mem_cons_of_mem _ hmem
    rcases hi.clear hold id' n (HashMap.lookup_erase_some hl).2 with hcanceled | hmem
    · exact .inl hcanceled
    · exact .inr (hcancel n hmem)

/-- When the registrations are cleared, what was registered is cancelled. -/
theorem cancelInv_clearCancels {s : TunnelState} {rest : List Statement} (hi : CancelInv s)
    (htodo : s.todo = .clearCancels :: rest) :
    CancelInv (TunnelState.run .clearCancels { s with todo := rest }) := by
  have hcancel : ∀ n, .cancel n ∈ s.todo → .cancel n ∈ rest := by
    intro n hn
    rw [htodo] at hn
    exact (List.mem_cons.mp hn).resolve_left fun heq => by cases heq
  have hcovered : ∀ n, s.Covered n →
      (TunnelState.run .clearCancels { s with todo := rest }).Covered n := by
    intro n hc
    rcases hc with hcanceled | hregistered | hmem
    · exact .inl hcanceled
    · rcases hi.clear (by rw [htodo]; exact List.mem_cons_self) _ n hregistered with hcanceled | hmem
      · exact .inl hcanceled
      · exact .inr (.inr (hcancel n hmem))
    · exact .inr (.inr (hcancel n hmem))
  refine ⟨fun id n hl => ?_, hi.pending, fun n hn => hcovered n (hi.spawning n hn),
    fun n hn => hcovered n (hi.covered n hn), fun _ id n hl => ?_⟩
  · cases hl
  · cases hl

theorem cancelInv_exec {s : TunnelState} {x : Statement} {rest : List Statement} (hi : CancelInv s)
    (htodo : s.todo = x :: rest) : CancelInv (TunnelState.run x { s with todo := rest }) := by
  cases x with
  | cancel n => exact cancelInv_cancel hi htodo
  | removeCancel id => exact cancelInv_removeCancel hi htodo
  | clearCancels => exact cancelInv_clearCancels hi htodo
  | endBody id =>
    simp only [TunnelState.run]
    split
    · rename_i n _
      refine cancelInv_other hi htodo (fun n h => by cases h) rfl rfl (fun m => ?_) rfl rfl
      show SameTask (s.tasks m) ((s.setTask n _).tasks m)
      by_cases hm : m = n
      · subst hm
        rw [TunnelState.setTask_self]
        exact ⟨rfl, rfl, rfl⟩
      · rw [TunnelState.setTask_ne hm]
        exact SameTask.refl _
    · exact cancelInv_other hi htodo (fun n h => by cases h) rfl rfl (fun _ => SameTask.refl _) rfl rfl
  | removeStream id =>
    exact cancelInv_other hi htodo (fun n h => by cases h) rfl rfl (fun _ => SameTask.refl _) rfl rfl
  | removeBody id =>
    exact cancelInv_other hi htodo (fun n h => by cases h) rfl rfl (fun _ => SameTask.refl _) rfl rfl
  | clearStreams =>
    exact cancelInv_other hi htodo (fun n h => by cases h) rfl rfl (fun _ => SameTask.refl _) rfl rfl
  | clearBodies =>
    exact cancelInv_other hi htodo (fun n h => by cases h) rfl rfl (fun _ => SameTask.refl _) rfl rfl

theorem cancelInv_sweep {s t : TunnelState} (hi : CancelInv s) (hq : Quiet s t) (htodo : s.todo = [])
    {clearing : List Statement} (htodo' : t.todo = s.cancelAll ++ clearing)
    (hpoint' : t.point.pending = none) : CancelInv t := by
  apply KeepsCancels.inv _ hi
  refine ⟨hq.streamCancels, hq.next, fun n => (hq.task n).same, ?_, ?_, ?_, ?_⟩
  · intro n hn
    rw [htodo] at hn
    cases hn
  · refine fun _ => .inr fun id n hl => ?_
    rw [htodo']
    apply List.mem_append_left
    exact List.mem_map.mpr ⟨n, (HashMap.mem_values _ _).mpr ⟨id, hl⟩, rfl⟩
  · intro n hn
    rw [hpoint'] at hn
    cases hn
  · intro n hn
    rw [hn] at hpoint'
    cases hpoint'

theorem cancelInv_unregister {s : TunnelState} (hi : CancelInv s) {n : Nat}
    (hpending : s.point.pending ≠ some n) (hactive : (s.tasks n).phase.active = false) :
    CancelInv (s.apply n .unregister) := by
  simp only [TunnelState.apply]
  split
  · rename_i hown
    have hcovered : ∀ m, m ≠ n → s.Covered m → TunnelState.Covered m
        { s with streamCancels := s.streamCancels.erase (s.tasks n).id } := by
      intro m hne hc
      rcases hc with hcanceled | hregistered | hcancel
      · exact .inl hcanceled
      · have hid : (s.tasks m).id ≠ (s.tasks n).id := by
          intro heq
          rw [heq, hown] at hregistered
          exact hne (Option.some.inj hregistered).symm
        right
        left
        rw [AList.lookup_erase_ne hid]
        exact hregistered
      · exact .inr (.inr hcancel)
    refine ⟨?_, hi.pending, ?_, ?_, ?_⟩
    · exact fun id m hl => hi.registered id m (HashMap.lookup_erase_some hl).2
    · intro m hm
      apply hcovered m _ (hi.spawning m hm)
      intro heq
      subst heq
      have hm : s.point = .spawning m := hm
      exact hpending (by rw [hm]; rfl)
    · intro m hm
      apply hcovered m _ (hi.covered m hm)
      intro heq
      subst heq
      have hm : (s.tasks m).phase.active = true := hm
      rw [hactive] at hm
      cases hm
    · exact fun hclear id m hl => hi.clear hclear id m (HashMap.lookup_erase_some hl).2
  · exact hi

/-- A task takes out its own registration and no other, and then it is not active. -/
theorem cancelInv_task {s : TunnelState} (hi : CancelInv s) {n : Nat} {op : TaskOp} {t' : Task}
    {effect : Effect} (hstep : (s.tasks n).step (s.surroundings n) op = some (t', effect)) :
    CancelInv ((s.setTask n t').apply n effect) := by
  have ha := Task.advance_step hstep
  have hpending : s.point.pending ≠ some n := fun h => ha.spawned (hi.pending n h).2
  have hset : CancelInv (s.setTask n t') :=
    cancelInv_setTask hi ha.id ha.canceled hpending fun h => hi.covered n (ha.active h)
  cases effect with
  | quiet => exact hset
  | send out => exact ⟨hset.registered, hset.pending, hset.spawning, hset.covered, hset.clear⟩
  | insertStream => exact ⟨hset.registered, hset.pending, hset.spawning, hset.covered, hset.clear⟩
  | removeStream => exact ⟨hset.registered, hset.pending, hset.spawning, hset.covered, hset.clear⟩
  | removeBody => exact ⟨hset.registered, hset.pending, hset.spawning, hset.covered, hset.clear⟩
  | unregister =>
    apply cancelInv_unregister hset hpending
    rw [TunnelState.setTask_self]
    exact ha.unregister rfl

theorem cancelInv_move {op : TunnelOp} {s t : TunnelState} (hi : CancelInv s) (h : s.Move op t) :
    CancelInv t := by
  cases h with
  | calm quiet todo point => exact cancelInv_calm hi quiet todo point
  | create todo _ _ id _ kind => exact cancelInv_create hi todo id kind
  | store _ n point => exact cancelInv_store hi point
  | register todo n point => exact cancelInv_register hi todo point
  | spawn _ n point => exact cancelInv_spawn hi point
  | exec x rest todo => exact cancelInv_exec hi todo
  | sweep quiet todo clearing _ todo' _ point' _ => exact cancelInv_sweep hi quiet todo todo' point'
  | task n op t' effect step => exact cancelInv_task hi step

theorem cancelInv_initial {s : TunnelState} (h : tunnel.Initial s) : CancelInv s := by
  have hs : s = {} := h
  subst hs
  exact ⟨fun _ _ hl => (by cases hl), fun _ hn => (by cases hn), fun _ hn => (by cases hn),
    fun _ hn => (by cases hn), fun hclear => (by cases hclear)⟩

theorem cancelInv_reachable {s : TunnelState} (h : tunnel.Reachable s) : CancelInv s :=
  h.invariant (fun _ => cancelInv_initial) fun _ _ _ _ hi _ hs => cancelInv_move hi (TunnelState.move_step hs)

/-! ### Close -/

/-- The registration of the stream is gone, or is the next to go. -/
def Closing (id : StreamId) (s : TunnelState) : Prop :=
  .removeCancel id ∈ s.todo ∨ s.streamCancels.lookup id = none

theorem lookup_erase_none {m : HashMap StreamId Nat} {id : StreamId} (h : m.lookup id = none)
    (id' : StreamId) : (m.erase id').lookup id = none := by
  by_cases hid : id = id'
  · rw [hid]
    exact AList.lookup_erase _ _
  · rw [AList.lookup_erase_ne hid]
    exact h

theorem closing_run {id : StreamId} {s : TunnelState} {x : Statement} {rest : List Statement}
    (h : Closing id s) (htodo : s.todo = x :: rest) :
    Closing id (TunnelState.run x { s with todo := rest }) := by
  have hrest : x ≠ .removeCancel id → .removeCancel id ∈ rest ∨ s.streamCancels.lookup id = none := by
    intro hne
    rcases h with hmem | hnone
    · rw [htodo] at hmem
      exact .inl ((List.mem_cons.mp hmem).resolve_left fun heq => hne heq.symm)
    · exact .inr hnone
  cases x with
  | removeCancel id' =>
    by_cases hid : id' = id
    · subst hid
      exact .inr (AList.lookup_erase _ _)
    · rcases hrest (fun heq => hid (Statement.removeCancel.inj heq)) with hmem | hnone
      · exact .inl (List.mem_append_right _ hmem)
      · exact .inr (lookup_erase_none hnone id')
  | clearCancels => exact .inr rfl
  | endBody id' =>
    simp only [TunnelState.run]
    split
    · exact hrest fun heq => by cases heq
    · exact hrest fun heq => by cases heq
  | cancel n => exact hrest fun heq => by cases heq
  | removeStream id' => exact hrest fun heq => by cases heq
  | removeBody id' => exact hrest fun heq => by cases heq
  | clearStreams => exact hrest fun heq => by cases heq
  | clearBodies => exact hrest fun heq => by cases heq

theorem apply_streamCancels (n : Nat) (effect : Effect) (s : TunnelState) :
    (s.apply n effect).streamCancels = s.streamCancels ∨
      (s.apply n effect).streamCancels = s.streamCancels.erase (s.tasks n).id := by
  cases effect with
  | unregister =>
    simp only [TunnelState.apply]
    split
    · exact .inr rfl
    · exact .inl rfl
  | _ => exact .inl rfl

/-- While the session task runs its statements, nothing is registered. -/
theorem closing_step {id : StreamId} {op : TunnelOp} {s t : TunnelState} (h : Closing id s)
    (hbusy : s.todo ≠ []) (hs : s.Move op t) : Closing id t := by
  cases hs with
  | calm quiet todo point =>
    rcases todo with htodo | ⟨htodo, _⟩
    · unfold Closing
      rw [htodo, quiet.streamCancels]
      exact h
    · exact absurd htodo hbusy
  | create todo => exact absurd todo hbusy
  | store todo => exact absurd todo hbusy
  | register todo => exact absurd todo hbusy
  | spawn todo => exact absurd todo hbusy
  | exec x rest todo => exact closing_run h todo
  | sweep quiet todo => exact absurd todo hbusy
  | task n op t' effect =>
    unfold Closing
    rw [(TunnelState.apply_frame n effect _).todo]
    rcases h with hmem | hnone
    · exact .inl hmem
    · rcases apply_streamCancels n effect (s.setTask n t') with heq | heq
      · rw [heq]
        exact .inr hnone
      · rw [heq]
        exact .inr (lookup_erase_none hnone _)

/-! ### The end of the session -/

/-- Once the session's future has ended, the registrations go. -/
def Swept (s : TunnelState) : Prop :=
  s.point = .ended → .clearCancels ∈ s.todo ∨ s.streamCancels = ∅

theorem swept_run {s : TunnelState} {x : Statement} {rest : List Statement} (h : Swept s)
    (htodo : s.todo = x :: rest) : Swept (TunnelState.run x { s with todo := rest }) := by
  have hrest : x ≠ .clearCancels → s.point = .ended → .clearCancels ∈ rest ∨ s.streamCancels = ∅ := by
    intro hne hpoint
    rcases h hpoint with hmem | hempty
    · rw [htodo] at hmem
      exact .inl ((List.mem_cons.mp hmem).resolve_left fun heq => hne heq.symm)
    · exact .inr hempty
  cases x with
  | clearCancels => exact fun _ => .inr rfl
  | removeCancel id =>
    intro hpoint
    rcases hrest (fun heq => by cases heq) hpoint with hmem | hempty
    · exact .inl (List.mem_append_right _ hmem)
    · right
      show s.streamCancels.erase id = ∅
      rw [hempty]
      rfl
  | endBody id =>
    simp only [TunnelState.run]
    split
    · exact hrest fun heq => by cases heq
    · exact hrest fun heq => by cases heq
  | cancel n => exact hrest fun heq => by cases heq
  | removeStream id => exact hrest fun heq => by cases heq
  | removeBody id => exact hrest fun heq => by cases heq
  | clearStreams => exact hrest fun heq => by cases heq
  | clearBodies => exact hrest fun heq => by cases heq

theorem swept_step {op : TunnelOp} {s t : TunnelState} (h : Swept s) (hs : s.Move op t) : Swept t := by
  cases hs with
  | calm quiet todo point =>
    rcases point with hpoint | ⟨_, hgoes⟩
    · intro hended
      rw [hpoint] at hended
      rw [quiet.streamCancels]
      rcases h hended with hmem | hempty
      · rcases todo with htodo | ⟨htodo, _⟩
        · rw [htodo]
          exact .inl hmem
        · rw [htodo] at hmem
          cases hmem
      · exact .inr hempty
    · intro hended
      rw [hended] at hgoes
      cases hgoes
  | create =>
    intro hended
    simp only [TunnelState.create] at hended
    split at hended <;> cases hended
  | store => exact fun hended => by cases hended
  | register => exact fun hended => by cases hended
  | spawn => exact fun hended => by cases hended
  | exec x rest todo => exact swept_run h todo
  | sweep quiet todo clearing _ todo' _ _ ended =>
    intro hended
    rw [todo']
    exact .inl (List.mem_append_right _ (ended hended))
  | task n op t' effect =>
    obtain ⟨_, _, _, htodo, hpoint⟩ := TunnelState.apply_frame n effect (s.setTask n t')
    intro hended
    rw [hpoint] at hended
    rw [htodo]
    rcases h hended with hmem | hempty
    · exact .inl hmem
    · have hempty : (s.setTask n t').streamCancels = ∅ := hempty
      rcases apply_streamCancels n effect (s.setTask n t') with heq | heq
      · rw [heq]
        exact .inr hempty
      · rw [heq, hempty]
        exact .inr rfl

theorem swept_reachable {s : TunnelState} (h : tunnel.Reachable s) : Swept s := by
  apply h.invariant
  · intro s hs
    have hs : s = {} := hs
    subst hs
    exact fun hended => by cases hended
  · exact fun _ _ _ _ hi _ hs => swept_step hi (TunnelState.move_step hs)

/-! ### The property -/

/-- **No stream task is orphaned.** A task that has been spawned and has not taken
itself out is cancelled or registered, whenever the session task has run its
statements. So once a Close is handled the tasks of its stream are cancelled, and
once the session's future is dropped all of them are. -/
theorem no_orphan {s : TunnelState} (h : tunnel.Reachable s) :
    (s.todo = [] → ∀ n, (s.tasks n).phase.active = true →
      (s.tasks n).canceled = true ∨ s.streamCancels.lookup (s.tasks n).id = some n) ∧
    (∀ id reason t u, s.todo = [] → s.point = .handling (.close id reason) → s.lease = none →
      tunnel.step .handle s = some t → tunnel.StepsUnder (fun _ r => r.todo ≠ []) t u → u.todo = [] →
      ∀ n, (u.tasks n).id = id → (u.tasks n).phase.active = true → (u.tasks n).canceled = true) ∧
    (s.point = .ended → s.todo = [] → ∀ n, (s.tasks n).phase.active = true →
      (s.tasks n).canceled = true) := by
  have hquiet : ∀ {r}, tunnel.Reachable r → r.todo = [] → ∀ n, (r.tasks n).phase.active = true →
      (r.tasks n).canceled = true ∨ r.streamCancels.lookup (r.tasks n).id = some n := by
    intro r hr htodo n hn
    rcases (cancelInv_reachable hr).covered n hn with hcanceled | hregistered | hmem
    · exact .inl hcanceled
    · exact .inr hregistered
    · rw [htodo] at hmem
      cases hmem
  refine ⟨hquiet h, ?_, ?_⟩
  · intro id reason t u htodo hpoint hlease hhandle hrun hdone n hid hn
    have hclosing : Closing id t := by
      have hhandle : s.handle = some t := hhandle
      obtain ⟨_, hhandle⟩ := TunnelState.atPoint_some hhandle
      simp only [hpoint, hlease] at hhandle
      cases hhandle
      exact .inl List.mem_cons_self
    have hlater : Closing id u :=
      hrun.preserves (fun _ _ _ hc hbusy hs => closing_step hc hbusy (TunnelState.move_step hs)) hclosing
    have hu : tunnel.Reachable u := (h.next trivial hhandle).steps (hrun.mono fun _ _ _ => trivial)
    rcases hquiet hu hdone n hn with hcanceled | hregistered
    · exact hcanceled
    · rcases hlater with hmem | hnone
      · rw [hdone] at hmem
        cases hmem
      · rw [hid, hnone] at hregistered
        cases hregistered
  · intro hended htodo n hn
    rcases hquiet h htodo n hn with hcanceled | hregistered
    · exact hcanceled
    · rcases swept_reachable h hended with hmem | hempty
      · rw [htodo] at hmem
        cases hmem
      · rw [hempty] at hregistered
        cases hregistered

/-! ### The last Close of a TCP task -/

/-- A stream is opened; its target refuses the connection. -/
def refusedOps : List TunnelOp :=
  [.message (.open 7 "ssh" tcpTarget), .authorized, .handle, .register, .spawn, .task 0 .poll,
    .task 0 (.connectFails "连接授权目标失败"), .task 0 .sent]

def refusedState : TunnelState := (tunnel.run refusedOps {}).getD {}

theorem refusedState_reachable : tunnel.Reachable refusedState :=
  Machine.reachable_getD rfl (by decide +kernel)

theorem no_orphan_refusedState :
    (refusedState.tasks 0).canceled = true ∨ refusedState.streamCancels.lookup 7 = some 0 := by
  obtain ⟨hquiet, _⟩ := no_orphan refusedState_reachable
  have hid : (refusedState.tasks 0).id = 7 := by decide +kernel
  rw [← hid]
  exact hquiet (by decide +kernel) 0 (by decide +kernel)

/-- The task has taken itself out and has its Close still to send. -/
def closingState : TunnelState :=
  (tunnel.run (refusedOps ++ [.task 0 .wind, .task 0 .wind]) {}).getD {}

theorem unregistered_while_closing :
    tunnel.Reachable closingState ∧ closingState.todo = [] ∧
      (closingState.tasks 0).phase = .closing ∧ (closingState.tasks 0).canceled = false ∧
      closingState.streamCancels.lookup (closingState.tasks 0).id = none :=
  ⟨Machine.reachable_getD rfl (by decide +kernel), by decide +kernel, by decide +kernel,
    by decide +kernel, by decide +kernel⟩

end WsNet.Gateway
