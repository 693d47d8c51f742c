import WsNet.Gateway.Tunnel

/-! Streams that reuse the identifier of a running one.

A new task under an identifier replaces the registration of the old one and cancels
it, and the old one takes out its own registration only. The other two tables have no
such guard: a TCP task takes out the stream's sender whoever's it is, a streaming
HTTP task the body's, and a TCP task always sends a Close (`replacement_cut_off`).
What is left are the replacements that the old task has nothing more to do to
(`replacement_untouched`). -/
namespace WsNet.Gateway
open Data Transition

/-- A later task has the task's stream. -/
def Superseded (n : Nat) (s : TunnelState) : Prop :=
  ∃ m < s.next, n < m ∧ (s.tasks m).id = (s.tasks n).id

instance (n : Nat) (s : TunnelState) : Decidable (Superseded n s) :=
  inferInstanceAs (Decidable (∃ m < s.next, n < m ∧ (s.tasks m).id = (s.tasks n).id))

/-! ### The rule -/

/-- Nothing that is still to come of the task can touch a replacement: a TCP task has
sent its Close, an HTTP task is not in a poll of its work. -/
def Task.Quits (t : Task) : Prop :=
  if t.kind = .tcp then t.phase = .finished else t.awake = false

instance (t : Task) : Decidable t.Quits := inferInstanceAs (Decidable (ite _ _ _))

/-- An identifier is reused only when the tasks that have it quit; the work of one that
is replaced is not polled any more, and it takes out no body but its own. -/
def Unshared (op : TunnelOp) (s : TunnelState) : Prop :=
  match op with
  | .handle =>
    match s.point with
    | .handling m =>
      s.lease = none → ∀ n < s.next, startedStream m = some (s.tasks n).id → (s.tasks n).Quits
    | _ => True
  | .task n .poll => Superseded n s → (s.tasks n).canceled = true ∨ s.lease.isSome = true
  | .task n .wind =>
    Superseded n s → (s.tasks n).removesBody = true →
      s.httpBodies.lookup (s.tasks n).id = none ∨ s.httpBodies.lookup (s.tasks n).id = some n
  | _ => True

instance (op : TunnelOp) (s : TunnelState) : Decidable (Unshared op s) :=
  match op with
  | .handle =>
    match h : s.point with
    | .handling m =>
      decidable_of_iff
        (s.lease = none → ∀ n < s.next, startedStream m = some (s.tasks n).id → (s.tasks n).Quits)
        (by simp only [Unshared, h])
    | .select | .authorizing _ | .storing _ | .registering _ | .spawning _ | .sending .. | .pinging
    | .dispatching .. | .delivering .. | .draining | .ended => .isTrue (by simp only [Unshared, h])
  | .task n .poll =>
    inferInstanceAs
      (Decidable (Superseded n s → (s.tasks n).canceled = true ∨ s.lease.isSome = true))
  | .task n .wind =>
    inferInstanceAs (Decidable (Superseded n s → (s.tasks n).removesBody = true →
      s.httpBodies.lookup (s.tasks n).id = none ∨ s.httpBodies.lookup (s.tasks n).id = some n))
  | .task _ .suspend | .task _ .connected | .task _ (.connectFails _) | .task _ .sent
  | .task _ (.refused _) | .task _ .observe | .task _ (.readTarget _) | .task _ .targetEof
  | .task _ (.targetFails _) | .task _ .recv | .task _ .wrote | .task _ (.writeFails _)
  | .task _ (.respond _) | .task _ (.requestEnds _) | .task _ .readBody | .task _ .dropBody
  | .cancelLease _ | .writerEnds | .message _ | .data .. | .authorized | .denied _ | .exec | .store
  | .register | .spawn | .dispatch | .delivered | .undelivered | .tick | .replied | .notReplied
  | .interrupt | .leaseEnds | .finish => .isTrue trivial

/-! ### The invariant -/

structure ReplacedInv (s : TunnelState) : Prop where
  http : ∀ n, (s.tasks n).kind ≠ .tcp → (s.tasks n).phase.http = true
  pending : ∀ n, s.point.pending = some n → n + 1 = s.next
  quits : ∀ n, Superseded n s → (s.tasks n).Quits

/-- A task, as far as its being replaced goes. -/
structure SameQuit (t t' : Task) : Prop where
  id : t'.id = t.id
  http : (t.kind ≠ .tcp → t.phase.http = true) → t'.kind ≠ .tcp → t'.phase.http = true
  quits : t.Quits → t'.Quits

theorem SameQuit.refl (t : Task) : SameQuit t t := ⟨rfl, fun h => h, fun h => h⟩

theorem Task.Alike.sameQuit {t t' : Task} (h : t.Alike t') : SameQuit t t' := by
  obtain ⟨channel, body, rfl⟩ := h
  exact ⟨rfl, fun h => h, fun h => h⟩

/-- No new task, and every task quits that did. -/
structure KeepsQuits (s t : TunnelState) : Prop where
  next : t.next = s.next
  task : ∀ n, SameQuit (s.tasks n) (t.tasks n)
  pending : ∀ n, t.point.pending = some n → s.point.pending = some n

theorem KeepsQuits.superseded {s t : TunnelState} (h : KeepsQuits s t) {n : Nat}
    (hn : Superseded n t) : Superseded n s := by
  obtain ⟨m, hm, hlt, hid⟩ := hn
  rw [h.next] at hm
  rw [(h.task m).id, (h.task n).id] at hid
  exact ⟨m, hm, hlt, hid⟩

theorem KeepsQuits.inv {s t : TunnelState} (h : KeepsQuits s t) (hi : ReplacedInv s) : ReplacedInv t where
  http n := (h.task n).http (hi.http n)
  pending n hn := by
    rw [h.next]
    exact hi.pending n (h.pending n hn)
  quits n hn := (h.task n).quits (hi.quits n (h.superseded hn))

theorem keepsQuits_setTask {s : TunnelState} {n : Nat} {t : Task} (h : SameQuit (s.tasks n) t) :
    KeepsQuits s (s.setTask n t) := by
  refine ⟨rfl, fun m => ?_, fun _ hm => hm⟩
  by_cases hm : m = n
  · subst hm
    rw [TunnelState.setTask_self]
    exact h
  · rw [TunnelState.setTask_ne hm]
    exact SameQuit.refl _

/-! ### A replaced task -/

/-- An HTTP task that is in no poll of its work has nothing to send. -/
theorem sends_none {t : Task} (hhttp : t.phase.http = true) (hawake : t.awake = false) {out : Outgoing}
    (hsends : t.sends = some out) (hguarded : t.phase.guarded = true → t.awake = true) : False := by
  have hidle : t.phase.guarded = false := by
    by_contra h
    rw [Bool.not_eq_false] at h
    rw [hguarded h] at hawake
    cases hawake
  unfold Task.sends at hsends
  cases hphase : t.phase <;> simp [hphase, TaskPhase.guarded, TaskPhase.http] at hsends hidle hhttp

/-- A replaced task that quits sends nothing, and takes out nothing but what is its own
and, by the rule, no body of another. -/
theorem quits_step {s : TunnelState} (hi : ReplacedInv s) {n : Nat} {op : TaskOp} {t' : Task}
    {effect : Effect} (hn : Superseded n s) (hr : Unshared (.task n op) s)
    (hstep : (s.tasks n).step (s.surroundings n) op = some (t', effect)) :
    t'.Quits ∧ (effect = .quiet ∨ effect = .unregister ∨
      effect = .removeBody ∧ (s.httpBodies.lookup (s.tasks n).id = none ∨
        s.httpBodies.lookup (s.tasks n).id = some n)) := by
  have ha := Task.advance_step hstep
  have hq := hi.quits n hn
  unfold Task.Quits at hq ⊢
  rw [ha.kind]
  split at hq
  · rename_i hkind
    rw [if_pos hkind]
    obtain ⟨hphase, heffect⟩ := ha.finished hq
    exact ⟨hphase, .inl heffect⟩
  · rename_i hkind
    rw [if_neg hkind]
    have hhttp := hi.http n hkind
    have hcauses := ha.causes
    refine ⟨?_, ?_⟩
    · by_contra hawake
      rw [Bool.not_eq_false] at hawake
      rcases ha.awake hawake with hold | ⟨rfl, hpassed⟩
      · rw [hq] at hold
        cases hold
      · obtain ⟨hcanceled, hlease⟩ := hpassed hkind
        have hlease : s.lease = none := hlease
        rcases hr hn with hstop | hstop
        · rw [hcanceled] at hstop
          cases hstop
        · rw [hlease] at hstop
          cases hstop
    · cases effect with
      | quiet => exact .inl rfl
      | unregister => exact .inr (.inl rfl)
      | send out => exact (sends_none hhttp hq hcauses.2.1 hcauses.2.2).elim
      | insertStream =>
        have hphase : (s.tasks n).phase = .connecting := hcauses
        rw [hphase] at hhttp
        cases hhttp
      | removeStream => exact absurd hcauses.2 hkind
      | removeBody =>
        obtain ⟨rfl, hremoves⟩ := hcauses
        exact .inr (.inr ⟨rfl, hr hn hremoves⟩)

/-! ### One step -/

theorem replacedInv_task {s : TunnelState} (hi : ReplacedInv s) {n : Nat} {op : TaskOp} {t' : Task}
    {effect : Effect} (hr : Unshared (.task n op) s)
    (hstep : (s.tasks n).step (s.surroundings n) op = some (t', effect)) :
    ReplacedInv ((s.setTask n t').apply n effect) := by
  have ha := Task.advance_step hstep
  obtain ⟨htasks, hnext, _, _, hpoint⟩ := TunnelState.apply_frame n effect (s.setTask n t')
  have hid : ∀ m, ((s.setTask n t').tasks m).id = (s.tasks m).id := by
    intro m
    by_cases hm : m = n
    · subst hm
      rw [TunnelState.setTask_self]
      exact ha.id
    · rw [TunnelState.setTask_ne hm]
  refine ⟨fun m hm => ?_, fun m hm => ?_, fun m hm => ?_⟩
  · rw [htasks] at hm ⊢
    by_cases heq : m = n
    · subst heq
      rw [TunnelState.setTask_self] at hm ⊢
      rw [ha.kind] at hm
      exact ha.http hm (hi.http m hm)
    · rw [TunnelState.setTask_ne heq] at hm ⊢
      exact hi.http m hm
  · rw [hpoint] at hm
    rw [hnext]
    exact hi.pending m hm
  · have hold : Superseded m s := by
      obtain ⟨k, hk, hlt, hsame⟩ := hm
      rw [hnext] at hk
      rw [htasks, hid, hid] at hsame
      exact ⟨k, hk, hlt, hsame⟩
    rw [htasks]
    by_cases heq : m = n
    · subst heq
      rw [TunnelState.setTask_self]
      exact (quits_step hi hold hr hstep).1
    · rw [TunnelState.setTask_ne heq]
      exact hi.quits m hold

/-- A message starts a task for the stream that is authorized. -/
theorem replacedInv_create {s : TunnelState} (hi : ReplacedInv s) {id : StreamId} {kind : TaskKind}
    (hquits : ∀ n < s.next, (s.tasks n).id = id → (s.tasks n).Quits) : ReplacedInv (s.create id kind) := by
  have hother : ∀ n, n ≠ s.next → (s.create id kind).tasks n = s.tasks n := fun n hne =>
    Function.update_of_ne hne _ _
  have hnew : (s.create id kind).tasks s.next = { id, kind, bodyOpen := kind = .upload } :=
    Function.update_self _ _ _
  refine ⟨fun n hn => ?_, fun n hn => ?_, fun n hn => ?_⟩
  · by_cases hne : n = s.next
    · rw [hne, hnew]
      rfl
    · rw [hother n hne] at hn ⊢
      exact hi.http n hn
  · have hn : n = s.next := by
      simp only [TunnelState.create] at hn
      split at hn <;> exact (Option.some.inj hn).symm
    rw [hn]
    rfl
  · obtain ⟨m, hm, hlt, hsame⟩ := hn
    have hm : m < s.next + 1 := hm
    rw [hother n (by omega)] at hsame ⊢
    by_cases hlast : m = s.next
    · rw [hlast, hnew] at hsame
      exact hquits n (by omega) hsame.symm
    · rw [hother m hlast] at hsame
      exact hi.quits n ⟨m, by omega, hlt, hsame⟩

/-- The task that is being set up is the latest. -/
theorem replacedInv_spawn {s : TunnelState} (hi : ReplacedInv s) {n : Nat}
    (hpoint : s.point = .spawning n) :
    ReplacedInv
      { s.setTask n { s.tasks n with phase := TunnelState.firstPhase (s.tasks n).kind } with
        point := .select } := by
  have hlast := hi.pending n (by rw [hpoint]; rfl)
  have hid : ∀ m, ((s.setTask n { s.tasks n with
      phase := TunnelState.firstPhase (s.tasks n).kind }).tasks m).id = (s.tasks m).id := by
    intro m
    by_cases hm : m = n
    · subst hm
      rw [TunnelState.setTask_self]
    · rw [TunnelState.setTask_ne hm]
  refine ⟨fun m hm => ?_, fun m hm => (by cases hm), fun m hm => ?_⟩
  · change ((s.setTask n _).tasks m).kind ≠ .tcp at hm
    show ((s.setTask n _).tasks m).phase.http = true
    by_cases heq : m = n
    · subst heq
      rw [TunnelState.setTask_self] at hm ⊢
      show (TunnelState.firstPhase (s.tasks m).kind).http = true
      cases hkind : (s.tasks m).kind with
      | tcp => exact absurd hkind hm
      | http => rfl
      | upload => rfl
    · rw [TunnelState.setTask_ne heq] at hm ⊢
      exact hi.http m hm
  · obtain ⟨k, hk, hlt, hsame⟩ := hm
    have hk : k < s.next := hk
    have hsame : ((s.setTask n _).tasks k).id = ((s.setTask n _).tasks m).id := hsame
    rw [hid, hid] at hsame
    show ((s.setTask n _).tasks m).Quits
    rw [TunnelState.setTask_ne (by omega)]
    exact hi.quits m ⟨k, hk, hlt, hsame⟩

theorem replacedInv_exec {s : TunnelState} (hi : ReplacedInv s) (x : Statement) (rest : List Statement) :
    ReplacedInv (TunnelState.run x { s with todo := rest }) := by
  have hrest : ReplacedInv { s with todo := rest } := ⟨hi.http, hi.pending, hi.quits⟩
  cases x with
  | cancel n =>
    have hkeeps : KeepsQuits { s with todo := rest }
        (TunnelState.run (.cancel n) { s with todo := rest }) :=
      keepsQuits_setTask ⟨rfl, fun h => h, fun h => h⟩
    exact hkeeps.inv hrest
  | endBody id =>
    simp only [TunnelState.run]
    split
    · rename_i n _
      have hkeeps : KeepsQuits { s with todo := rest }
          (({ s with todo := rest } : TunnelState).setTask n { s.tasks n with requestEnded := true }) :=
        keepsQuits_setTask ⟨rfl, fun h => h, fun h => h⟩
      have hset := hkeeps.inv hrest
      exact ⟨hset.http, hset.pending, hset.quits⟩
    · exact hrest
  | removeCancel id => exact ⟨hi.http, hi.pending, hi.quits⟩
  | removeStream id => exact ⟨hi.http, hi.pending, hi.quits⟩
  | removeBody id => exact ⟨hi.http, hi.pending, hi.quits⟩
  | clearCancels => exact ⟨hi.http, hi.pending, hi.quits⟩
  | clearStreams => exact ⟨hi.http, hi.pending, hi.quits⟩
  | clearBodies => exact ⟨hi.http, hi.pending, hi.quits⟩

theorem keepsQuits_quiet {s t : TunnelState} (hq : Quiet s t)
    (hpoint : t.point = s.point ∨ t.point.pending = none) : KeepsQuits s t := by
  refine ⟨hq.next, fun n => (hq.task n).sameQuit, fun n hn => ?_⟩
  rcases hpoint with heq | hnone
  · rw [heq] at hn
    exact hn
  · rw [hnone] at hn
    cases hn

theorem replacedInv_move {op : TunnelOp} {s t : TunnelState} (hi : ReplacedInv s) (hr : Unshared op s)
    (h : s.Move op t) : ReplacedInv t := by
  cases h with
  | calm quiet _ point =>
    apply (keepsQuits_quiet quiet _).inv hi
    rcases point with heq | ⟨_, hgoes⟩
    · exact .inl heq
    · exact .inr (TunnelState.goesOn_pending hgoes)
  | create _ point lease id stream kind =>
    apply replacedInv_create hi
    intro n hn hid
    simp only [Unshared, point] at hr
    exact hr lease n hn (by rw [stream, hid])
  | store _ n point =>
    exact ⟨hi.http, fun m hm => hi.pending m (by rw [point]; exact hm), hi.quits⟩
  | register _ n point =>
    exact ⟨hi.http, fun m hm => hi.pending m (by rw [point]; exact hm), hi.quits⟩
  | spawn _ n point => exact replacedInv_spawn hi point
  | exec x rest => exact replacedInv_exec hi x rest
  | sweep quiet _ _ _ _ _ point' _ => exact (keepsQuits_quiet quiet (.inr point')).inv hi
  | task n op t' effect step => exact replacedInv_task hi hr step

theorem replacedInv_reachable {s : TunnelState} (h : tunnel.ReachableUnder Unshared s) :
    ReplacedInv s := by
  apply h.invariant
  · intro s hs
    have hs : s = {} := hs
    subst hs
    refine ⟨fun _ _ => rfl, fun _ hn => (by cases hn), fun n hn => ?_⟩
    obtain ⟨m, hm, _⟩ := hn
    cases hm
  · exact fun _ _ _ _ hi hr hs => replacedInv_move hi hr (TunnelState.move_step hs)

/-- The entries of other tasks in the table are as they were. -/
def LeavesOthers (n : Nat) (before after : HashMap StreamId Nat) : Prop :=
  ∀ id m, m ≠ n → before.lookup id = some m → after.lookup id = some m

theorem leavesOthers_refl (n : Nat) (m : HashMap StreamId Nat) : LeavesOthers n m m := fun _ _ _ hl => hl

theorem leavesOthers_erase {n : Nat} {table : HashMap StreamId Nat} {id : StreamId}
    (h : table.lookup id = none ∨ table.lookup id = some n) : LeavesOthers n table (table.erase id) := by
  intro id' m hne hl
  have hid : id' ≠ id := by
    intro heq
    rw [heq] at hl
    rcases h with hnone | hown
    · rw [hl] at hnone
      cases hnone
    · rw [hl] at hown
      exact hne (Option.some.inj hown)
  rw [AList.lookup_erase_ne hid]
  exact hl

/-- **A replacement is left alone**, in every run in which an identifier is reused only
once the tasks that had it quit, and a replaced streaming task takes out no newer body:
no step of a replaced task touches an entry of another task, in any of the three
tables, and it sends nothing. -/
theorem replacement_untouched {s t : TunnelState} (h : tunnel.ReachableUnder Unshared s) {n : Nat}
    {op : TaskOp} (hn : Superseded n s) (hr : Unshared (.task n op) s)
    (hs : tunnel.step (.task n op) s = some t) :
    LeavesOthers n s.streams t.streams ∧ LeavesOthers n s.streamCancels t.streamCancels ∧
      LeavesOthers n s.httpBodies t.httpBodies ∧ t.sent = s.sent := by
  obtain ⟨⟨t', effect⟩, hstep, rfl⟩ := Option.map_eq_some_iff.mp hs
  have hid : ((s.setTask n t').tasks n).id = (s.tasks n).id := by
    rw [TunnelState.setTask_self]
    exact (Task.advance_step hstep).id
  obtain ⟨_, rfl | rfl | ⟨rfl, hown⟩⟩ := quits_step (replacedInv_reachable h) hn hr hstep
  · exact ⟨leavesOthers_refl _ _, leavesOthers_refl _ _, leavesOthers_refl _ _, rfl⟩
  · simp only [TunnelState.apply]
    split
    · rename_i hown
      rw [hid] at hown ⊢
      exact ⟨leavesOthers_refl _ _, leavesOthers_erase (.inr hown), leavesOthers_refl _ _, rfl⟩
    · exact ⟨leavesOthers_refl _ _, leavesOthers_refl _ _, leavesOthers_refl _ _, rfl⟩
  · refine ⟨leavesOthers_refl _ _, leavesOthers_refl _ _, ?_, rfl⟩
    simp only [TunnelState.apply, hid]
    exact leavesOthers_erase hown

/-- A request under an identifier, and another under the same: the first waits for
its target, and ends at its next poll. -/
def requestOps (n : Nat) : List TunnelOp :=
  [.message (.httpRequest 7 "web" httpTarget ⟨"GET", "/", [], []⟩), .authorized, .handle, .register]
    ++ if n = 0 then [.spawn, .task n .poll, .task n .suspend] else [.exec, .spawn, .task n .poll]

def requestedAgain : TunnelState :=
  (tunnel.runUnder Unshared (requestOps 0 ++ requestOps 1 ++ [.task 0 .poll]) {}).getD {}

/-- The first one takes itself out. -/
def requestLeft : TunnelState := (tunnel.step (.task 0 .wind) requestedAgain).getD {}

theorem replacement_untouched_requestLeft : requestLeft.streamCancels.lookup 7 = some 1 := by
  have hreach : tunnel.ReachableUnder Unshared requestedAgain :=
    Machine.reachable_getD rfl (by decide +kernel)
  have hstep : tunnel.step (.task 0 .wind) requestedAgain = some requestLeft :=
    (Option.getD_of_ne_none (Option.isSome_iff_ne_none.mp (by decide +kernel)) _).symm
  obtain ⟨_, hcancels, _⟩ := replacement_untouched hreach (by decide +kernel) (by decide +kernel) hstep
  exact hcancels 7 1 (by decide) (by decide +kernel)

/-! ### A stream opened again -/

/-- Open, handled, and the task at its `select!`. -/
def openOps : List TunnelOp :=
  [.message (.open 7 "ssh" tcpTarget), .authorized, .handle, .register]

def connectOps (n : Nat) : List TunnelOp :=
  [.spawn, .task n .poll, .task n .connected, .task n .sent]

/-- The stream is opened again while its task runs; both tasks have connected. -/
def reopenedOps : List TunnelOp :=
  openOps ++ connectOps 0 ++ openOps ++ [.exec] ++ connectOps 1 ++ [.task 0 .observe]

def reopenedTunnel : TunnelState := (tunnel.run reopenedOps {}).getD {}

/-- The first task takes out the sender of the second. -/
def cutOffTunnel : TunnelState := (tunnel.step (.task 0 .wind) reopenedTunnel).getD {}

/-- It ends with a Close for the stream of both. -/
def closedTunnel : TunnelState :=
  (tunnel.run [.task 0 .wind, .task 0 .wind, .task 0 .sent] reopenedTunnel).getD {}

theorem replacement_cut_off :
    tunnel.Reachable reopenedTunnel ∧ Superseded 0 reopenedTunnel ∧
      (tunnel.step (.task 0 .wind) reopenedTunnel).isSome = true ∧
      reopenedTunnel.streams.lookup 7 = some 1 ∧ cutOffTunnel.streams.lookup 7 = none ∧
      closedTunnel.sent.head? = some (0, .message (.close 7 "target_closed")) :=
  ⟨Machine.reachable_getD rfl (by decide +kernel), by decide +kernel, by decide +kernel,
    by decide +kernel, by decide +kernel, by decide +kernel⟩

end WsNet.Gateway
