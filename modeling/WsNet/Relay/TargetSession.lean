import WsNet.Relay.TargetRun

/-! The session task of the gateway's end.

Each of its steps keeps the invariant: it goes from one await to another with nothing
at hand, runs a statement, delivers what it has at hand, or sets up a task. -/
namespace WsNet.Relay
open Gateway Data Transition

/-! ### With nothing at hand -/

/-- A data frame is on its way to its receiver. -/
def moves : Point → Bool
  | .dispatching _ _ | .delivering _ _ _ => true
  | _ => false

theorem atHand_of_not_moves {point : Point} (h : moves point = false) (id : StreamId) : atHand id point = [] := by
  cases point with
  | dispatching i bytes => cases h
  | delivering receiver i bytes => cases h
  | _ => rfl

theorem delivers_of_not_moves {s : TunnelState} (h : moves s.point = false) (receiver : Receiver) :
    s.delivers receiver = false := by
  unfold TunnelState.delivers
  split
  · rename_i hpoint
    rw [hpoint] at h
    cases h
  · rfl

/-- At the `select!`, in a session that goes on. -/
theorem StreamInv.atSelect {v : TargetView} (h : StreamInv v) (hfree : v.free = true) (hending : v.ending = false)
    (hhand : v.inPoint = []) :
    StreamInv { v with free := true, ending := false, waiting := false, closing := false, inPoint := [] } := by
  refine h.goOn _ _ _ _ _ (fun _ => hfree) (fun he => ?_) (fun hw => by cases hw) (fun hc => by cases hc) (.inl hhand.symm)
  rw [hending] at he
  cases he

section Target
variable [MessageCodec] {s : TargetSide} {t : TunnelState} {n : Nat} {id : StreamId}

/-- The session task stays where it is. -/
theorem TargetInv.stays (h : TargetInv s) (hsame : SameTasks s.tunnel t)
    (hchannel : ∀ n, (t.tasks n).channel.items = (s.tunnel.tasks n).channel.items)
    (hstreams : t.streams = s.tunnel.streams)
    (hbodies : ∀ id n, t.httpBodies.lookup id = some n → s.tunnel.httpBodies.lookup id = some n)
    (hlease : t.lease = none → s.tunnel.lease = none) (hpoint : t.point = s.tunnel.point)
    (htodo : ∀ x ∈ t.todo, TodoInv s x) (hresting : t.todo ≠ [] → s.tunnel.todo ≠ []) :
    TargetInv { s with tunnel := t } := by
  have hg := h.whole
  have hdelivers : ∀ receiver, t.delivers receiver = s.tunnel.delivers receiver := by
    intro receiver
    rw [TunnelState.delivers, hpoint, TunnelState.delivers]
  refine h.goOn hsame hchannel hstreams (fun id n hl => hg.bodies id n (hbodies id n hl)) hlease ?_ ?_ ?_ ?_ ?_ ?_
  · rw [hpoint]
    exact fun he => he
  · rw [hpoint]
    exact hg.point
  · intro x hx
    refine hsame.todoInv ?_ (htodo x hx)
    rw [hpoint]
    exact fun he => he
  · intro hne receiver
    rw [hdelivers]
    exact hg.resting (hresting hne) receiver
  · intro n hn hkind hwaiting hlistening
    rw [hdelivers] at hwaiting
    exact of_decide_eq_true ((h.stream n hn hkind).waits hwaiting hlistening)
  · intro n _ _
    rw [hpoint]
    exact .inl rfl

/-- From a point to one with nothing at hand. -/
theorem TargetInv.rest (h : TargetInv s) (hsame : SameTasks s.tunnel t)
    (hchannel : ∀ n, (t.tasks n).channel.items = (s.tunnel.tasks n).channel.items)
    (hstreams : t.streams = s.tunnel.streams)
    (hbodies : ∀ id n, t.httpBodies.lookup id = some n →
      n < s.tunnel.next ∧ (s.tunnel.tasks n).id = id ∧ (s.tunnel.tasks n).kind ≠ .tcp)
    (hlease : t.lease = none → s.tunnel.lease = none)
    (hends : pointEnds s.tunnel.point = true → pointEnds t.point = true) (hmoves : moves t.point = false)
    (hpoint : PointInv s t.point) (htodo : ∀ x ∈ t.todo, TodoInv { s with tunnel := t } x)
    (hdropped : t.lease = none → pointEnds t.point = false → ∀ n < s.tunnel.next,
      (s.tunnel.tasks n).kind = .tcp → (targetStage (s.tunnel.tasks n)).listening = true →
      s.tunnel.streams.lookup (s.tunnel.tasks n).id = some n →
      atHand (s.tunnel.tasks n).id s.tunnel.point = []) :
    TargetInv { s with tunnel := t } := by
  refine h.goOn hsame hchannel hstreams hbodies hlease hends hpoint htodo
    (fun _ => delivers_of_not_moves hmoves) (fun n _ _ hwaiting _ => ?_) fun n hn hkind => ?_
  · rw [delivers_of_not_moves hmoves] at hwaiting
    cases hwaiting
  · exact .inr ⟨atHand_of_not_moves hmoves _, fun hl he => hdropped hl he n hn hkind⟩

/-- From one await to another. -/
theorem TargetInv.moveTo (h : TargetInv s) (point : Point) (hold : moves s.tunnel.point = false)
    (hends : pointEnds s.tunnel.point = true → pointEnds point = true) (hmoves : moves point = false)
    (hpoint : PointInv s point) (htodo : s.tunnel.todo = []) :
    TargetInv { s with tunnel := { s.tunnel with point } } := by
  refine h.rest (sameTasks_of_eq rfl rfl) (fun _ => rfl) rfl h.whole.bodies (fun hl => hl)
    hends hmoves hpoint (fun x hx => ?_) fun _ _ n _ _ _ _ => atHand_of_not_moves hold _
  have hx : x ∈ s.tunnel.todo := hx
  rw [htodo] at hx
  cases hx

/-! ### The end of the session -/

theorem todoInv_cancels {m : HashMap StreamId Nat} {x : Statement}
    (hx : x ∈ (HashMap.values m).map Statement.cancel) : TodoInv s x := by
  obtain ⟨k, _, rfl⟩ := List.mem_map.mp hx
  trivial

omit [MessageCodec] in
theorem sameTasks_withdraw (s : TunnelState) : SameTasks s s.withdraw ∧
    ∀ n, (s.withdraw.tasks n).channel.items = (s.tasks n).channel.items := by
  unfold TunnelState.withdraw
  split
  · exact ⟨sameTasks_setTask rfl rfl rfl, same_setTask (·.channel.items) rfl⟩
  · exact ⟨sameTasks_setTask rfl rfl rfl, same_setTask (·.channel.items) (BoundedChannel.withdraw_items ..)⟩
  · exact ⟨.refl s, fun _ => rfl⟩

/-- The session's future ends. -/
theorem TargetInv.endSession (h : TargetInv s) (hsame : SameTasks s.tunnel t)
    (hchannel : ∀ n, (t.tasks n).channel.items = (s.tunnel.tasks n).channel.items)
    (hstreams : t.streams = s.tunnel.streams) (hbodies : t.httpBodies = s.tunnel.httpBodies)
    (hlease : t.lease = s.tunnel.lease) : TargetInv { s with tunnel := t.endSession } := by
  refine h.rest ⟨hsame.next, hsame.id, hsame.kind, hsame.phase⟩ hchannel hstreams ?_ ?_ (fun _ => rfl) rfl trivial
    (fun x hx => ?_) fun _ he => by cases he
  · intro id n hl
    have hl : t.httpBodies.lookup id = some n := hl
    rw [hbodies] at hl
    exact h.whole.bodies id n hl
  · intro hl
    exact hlease.symm.trans hl
  · rcases List.mem_append.mp hx with hx | hx
    · exact todoInv_cancels hx
    · simp only [List.mem_cons, List.not_mem_nil, or_false] at hx
      rcases hx with rfl | rfl | rfl
      · trivial
      · exact rfl
      · trivial

theorem targetInv_finish (h : TargetInv s) (hs : s.tunnel.finish = some t) : TargetInv { s with tunnel := t } := by
  obtain ⟨_, hs⟩ := TunnelState.atPoint_some hs
  obtain ⟨hsame, hchannel⟩ := sameTasks_withdraw s.tunnel
  have hq := TunnelState.quiet_withdraw s.tunnel
  have hlease : s.tunnel.withdraw.lease = s.tunnel.lease := by
    unfold TunnelState.withdraw
    split <;> rfl
  split at hs
  · cases hs
  · cases hs
  · cases hs
  · cases hs
  · cases hs
  · cases hs
  · cases hs
    exact h.endSession hsame hchannel hq.streams hq.httpBodies hlease

theorem targetInv_leaseEnds (h : TargetInv s) (hs : s.tunnel.leaseEnds = some t) :
    TargetInv { s with tunnel := t } := by
  unfold TunnelState.leaseEnds at hs
  split at hs
  · cases hs
  · rename_i hlease
    obtain ⟨_, hs⟩ := TunnelState.atPoint_some hs
    split at hs <;> rename_i hpoint
    · cases hs
      refine h.rest (sameTasks_of_eq rfl rfl) (fun _ => rfl) rfl h.whole.bodies (fun hl => hl)
        (fun _ => rfl) rfl trivial (fun x hx => ?_) fun _ he => by cases he
      rcases List.mem_append.mp hx with hx | hx
      · exact todoInv_cancels hx
      · simp only [List.mem_cons, List.not_mem_nil, or_false] at hx
        rcases hx with rfl | rfl
        · exact rfl
        · trivial
    · cases hs

theorem targetInv_interrupt (h : TargetInv s) (hs : s.tunnel.interrupt = some t) :
    TargetInv { s with tunnel := t } := by
  have hq := TunnelState.quiet_withdraw s.tunnel
  obtain ⟨hsame, hchannel⟩ := sameTasks_withdraw s.tunnel
  unfold TunnelState.interrupt at hs
  split at hs
  · cases hs
  · rename_i hlease
    obtain ⟨htodo, hs⟩ := TunnelState.atPoint_some hs
    have hkeep : s.tunnel.withdraw.lease = s.tunnel.lease := by
      unfold TunnelState.withdraw
      split <;> rfl
    have hdone : pointEnds s.tunnel.point = false → TargetInv { s with
        tunnel := { s.tunnel.withdraw with point := .select } } := by
      intro hgoes
      refine h.rest ⟨hsame.next, hsame.id, hsame.kind, hsame.phase⟩ hchannel hq.streams ?_ ?_ ?_ rfl trivial ?_ ?_
      · intro id n hl
        have hl : s.tunnel.withdraw.httpBodies.lookup id = some n := hl
        rw [hq.httpBodies] at hl
        exact h.whole.bodies id n hl
      · exact fun hl => hkeep.symm.trans hl
      · intro he
        rw [hgoes] at he
        cases he
      · intro x hx
        have hx : x ∈ s.tunnel.withdraw.todo := hx
        rw [TunnelState.withdraw_todo, htodo] at hx
        cases hx
      · intro hl
        exact absurd (hkeep.symm.trans hl) hlease
    split at hs <;> rename_i hpoint
    · cases hs
      exact hdone (by rw [hpoint]; rfl)
    · cases hs
      exact hdone (by rw [hpoint]; rfl)
    · cases hs
      exact hdone (by rw [hpoint]; rfl)
    · cases hs

theorem TargetInv.ends (h : TargetInv s) : TargetInv { s with tunnel := s.tunnel.endSession } :=
  h.endSession (.refl _) (fun _ => rfl) rfl rfl rfl

/-! ### Statements -/

/-- Entries of streams go. -/
theorem TargetInv.unlist (h : TargetInv s) (htodo : s.tunnel.todo ≠ []) {streams : HashMap StreamId Nat}
    {rest : List Statement} (hrest : ∀ x ∈ rest, x ∈ s.tunnel.todo)
    (hfewer : ∀ id n, streams.lookup id = some n → s.tunnel.streams.lookup id = some n)
    (hwhy : ∀ n < s.tunnel.next, streams.lookup (s.tunnel.tasks n).id ≠ some n →
      s.tunnel.streams.lookup (s.tunnel.tasks n).id = some n →
      (targetStage (s.tunnel.tasks n)).listening = true →
      HasEnd (s.consumedBy (s.tunnel.tasks n).id) ∨ pointEnds s.tunnel.point = true) :
    TargetInv { s with tunnel := { s.tunnel with streams, todo := rest } } := by
  have hg := h.whole
  have hsame : SameTasks s.tunnel { s.tunnel with streams, todo := rest } :=
    sameTasks_of_eq rfl rfl
  have hidle := hg.resting htodo
  refine h.session hsame hfewer hg.bodies hg.point (fun x hx => hsame.todoInv (fun he => he) (hg.todo x (hrest x hx)))
    (fun _ => hidle) fun n hn hkind => ?_
  have hview := h.stream n hn hkind
  by_cases hl : streams.lookup (s.tunnel.tasks n).id = some n
  · have heq : decide (streams.lookup (s.tunnel.tasks n).id = some n) = (s.view n).entry := by
      rw [decide_eq_true hl]
      exact (decide_eq_true (hfewer _ _ hl)).symm
    have hsameView : StreamInv { s.view n with entry := decide (streams.lookup (s.tunnel.tasks n).id = some n) } := by
      rw [heq]
      exact hview
    exact hsameView
  · have hview' := hview.unlist (fun hlistening => ?_) fun hwaiting => ?_
    · have hno : decide (streams.lookup (s.tunnel.tasks n).id = some n) = false := decide_eq_false hl
      have hunlisted : StreamInv { s.view n with entry := decide (streams.lookup (s.tunnel.tasks n).id = some n) } := by
        rw [hno]
        exact hview'
      exact hunlisted
    · by_cases hold : s.tunnel.streams.lookup (s.tunnel.tasks n).id = some n
      · exact hwhy n hn hl hold hlistening
      · exact hview.unlisted hlistening (decide_eq_false hold)
    · have hwaiting : s.tunnel.delivers (.stream n) = true := hwaiting
      rw [hidle] at hwaiting
      cases hwaiting

/-- A statement that leaves the entries of the streams alone. -/
theorem TargetInv.statement (h : TargetInv s) (htodo : s.tunnel.todo ≠ []) (hsame : SameTasks s.tunnel t)
    (hchannel : ∀ n, (t.tasks n).channel.items = (s.tunnel.tasks n).channel.items)
    (hstreams : t.streams = s.tunnel.streams)
    (hbodies : ∀ id n, t.httpBodies.lookup id = some n → s.tunnel.httpBodies.lookup id = some n)
    (hlease : t.lease = s.tunnel.lease) (hpoint : t.point = s.tunnel.point)
    (hrest : ∀ x ∈ t.todo, x ∈ s.tunnel.todo ∨ ∃ n, x = .cancel n) : TargetInv { s with tunnel := t } := by
  refine h.stays hsame hchannel hstreams hbodies (fun hl => hlease.symm.trans hl) hpoint (fun x hx => ?_)
    fun _ => htodo
  rcases hrest x hx with hx | ⟨n, rfl⟩
  · exact h.whole.todo x hx
  · trivial

theorem targetInv_exec (h : TargetInv s) (hs : s.tunnel.exec = some t) : TargetInv { s with tunnel := t } := by
  have hg := h.whole
  unfold TunnelState.exec at hs
  split at hs
  · cases hs
  · rename_i x rest heq
    cases hs
    have htodo : s.tunnel.todo ≠ [] := by
      rw [heq]
      exact List.cons_ne_nil x rest
    have hrest : ∀ y ∈ rest, y ∈ s.tunnel.todo := by
      intro y hy
      rw [heq]
      exact List.mem_cons_of_mem x hy
    have hx : TodoInv s x := hg.todo x (heq ▸ List.mem_cons_self)
    cases x with
    | cancel n =>
      have hsame : SameTasks s.tunnel (s.tunnel.setTask n { s.tunnel.tasks n with canceled := true }) :=
        sameTasks_setTask rfl rfl rfl
      exact h.statement htodo ⟨rfl, hsame.id, hsame.kind, hsame.phase⟩
        (same_setTask (·.channel.items) (s := s.tunnel) rfl) rfl (fun _ _ hl => hl) rfl rfl
        fun y hy => .inl (hrest y hy)
    | removeCancel id =>
      refine h.statement htodo (sameTasks_of_eq rfl rfl) (fun _ => rfl) rfl
        (fun _ _ hl => hl) rfl rfl fun y hy => ?_
      rcases List.mem_append.mp hy with hy | hy
      · obtain ⟨n, _, rfl⟩ := List.mem_map.mp hy
        exact .inr ⟨n, rfl⟩
      · exact .inl (hrest y hy)
    | removeStream id =>
      refine h.unlist htodo hrest (fun _ _ hl => (HashMap.lookup_erase_some hl).2) fun n hn hout hin hl => ?_
      have hid : (s.tunnel.tasks n).id = id := by
        by_contra hne
        rw [AList.lookup_erase_ne hne] at hout
        exact hout hin
      rcases hx with hend | hends | ⟨m, hm, hmid, hgone⟩
      · exact .inl (hid ▸ hend)
      · exact .inr hends
      · obtain rfl := hg.eq_of_id hm hn (hmid.trans hid.symm)
        rw [hgone] at hl
        cases hl
    | removeBody id =>
      exact h.statement htodo (sameTasks_of_eq rfl rfl) (fun _ => rfl) rfl
        (fun _ _ hl => (HashMap.lookup_erase_some hl).2) rfl rfl fun y hy => .inl (hrest y hy)
    | endBody id =>
      simp only [TunnelState.run]
      split
      · rename_i n _
        have hsame : SameTasks s.tunnel (s.tunnel.setTask n { s.tunnel.tasks n with requestEnded := true }) :=
          sameTasks_setTask rfl rfl rfl
        exact h.statement htodo ⟨rfl, hsame.id, hsame.kind, hsame.phase⟩
          (same_setTask (·.channel.items) (s := s.tunnel) rfl) rfl
          (fun _ _ hl => (HashMap.lookup_erase_some hl).2) rfl rfl fun y hy => .inl (hrest y hy)
      · exact h.statement htodo (sameTasks_of_eq rfl rfl) (fun _ => rfl) rfl (fun _ _ hl => hl) rfl rfl
          fun y hy => .inl (hrest y hy)
    | clearCancels =>
      exact h.statement htodo (sameTasks_of_eq rfl rfl) (fun _ => rfl) rfl
        (fun _ _ hl => hl) rfl rfl fun y hy => .inl (hrest y hy)
    | clearStreams =>
      refine h.unlist htodo hrest (fun id n hl => ?_) fun _ _ _ _ _ => .inr hx
      rw [AList.lookup_empty] at hl
      cases hl
    | clearBodies =>
      refine h.statement htodo (sameTasks_of_eq rfl rfl) (fun _ => rfl) rfl
        (fun id n hl => ?_) rfl rfl fun y hy => .inl (hrest y hy)
      have hl : (∅ : HashMap StreamId Nat).lookup id = some n := hl
      rw [AList.lookup_empty] at hl
      cases hl

/-! ### Messages -/

theorem targetInv_cancelLease (error : GatewayError) (h : TargetInv s) :
    TargetInv { s with tunnel := { s.tunnel with lease := some error } } :=
  h.stays (sameTasks_of_eq rfl rfl) (fun _ => rfl) rfl (fun _ _ hl => hl) (fun hl => by cases hl) rfl
    h.whole.todo fun hne => hne

theorem targetInv_writerEnds (h : TargetInv s) :
    TargetInv { s with tunnel := { s.tunnel with writer := false } } :=
  h.stays (sameTasks_of_eq rfl rfl) (fun _ => rfl) rfl (fun _ _ hl => hl) (fun hl => hl) rfl
    h.whole.todo fun hne => hne

/-- A message of no stream's. -/
theorem pointInv_sending {m : Message} {required : Bool} (hm : ∀ id, messageEvents id m = []) :
    PointInv s (.sending m required) := fun id => .inl (hm id)

theorem targetInv_authorized (h : TargetInv s) (hs : s.tunnel.authorized = some t) :
    TargetInv { s with tunnel := t } := by
  have hg := h.whole
  obtain ⟨htodo, _, hs⟩ := TunnelState.inHandling_some hs
  split at hs <;> rename_i hpoint
  · cases hs
    have hp := hg.point
    rw [hpoint] at hp
    exact h.moveTo _ (by rw [hpoint]; rfl) (fun he => by rw [hpoint] at he; cases he) rfl hp htodo
  · cases hs

theorem targetInv_denied {error : Error} (h : TargetInv s) (hs : s.tunnel.denied error = some t) :
    TargetInv { s with tunnel := t } := by
  obtain ⟨htodo, _, hs⟩ := TunnelState.inHandling_some hs
  split at hs <;> rename_i hpoint
  · cases hs
    exact h.moveTo _ (by rw [hpoint]; rfl) (fun he => by rw [hpoint] at he; cases he) rfl
      (pointInv_sending fun _ => rfl) htodo
  · cases hs

/-- The removals of a message. -/
theorem TargetInv.removals (h : TargetInv s) {m : Message} (hpoint : s.tunnel.point = .handling m)
    {todo : List Statement} (hmem : ∀ id, .removeStream id ∈ todo → ∃ x ∈ messageEvents id m, x.ends = true)
    (hno : .clearStreams ∉ todo) : TargetInv { s with tunnel := { s.tunnel with todo, point := .select } } := by
  have hp := h.whole.point
  rw [hpoint] at hp
  refine h.rest (sameTasks_of_eq rfl rfl) (fun _ => rfl) rfl h.whole.bodies (fun hl => hl)
    (fun he => by rw [hpoint] at he; cases he) rfl trivial (fun x hx => ?_) fun _ _ n _ _ _ _ => ?_
  · cases x with
    | removeStream id =>
      obtain ⟨x, hxm, hends⟩ := hmem id hx
      exact .inl ⟨x, hp.1 id x hxm, hends⟩
    | clearStreams => exact absurd hx hno
    | _ => trivial
  · rw [hpoint]
    rfl

/-! ### A new task -/

omit [MessageCodec] in
theorem create_tasks (id : StreamId) (kind : TaskKind) (s : TunnelState) {m : Nat} (hm : m ≠ s.next) :
    (s.create id kind).tasks m = s.tasks m := TunnelState.setTask_ne hm _ s

omit [MessageCodec] in
theorem create_new (id : StreamId) (kind : TaskKind) (s : TunnelState) :
    (s.create id kind).tasks s.next = { id, kind, bodyOpen := kind = .upload } := TunnelState.setTask_self _ _ s

variable (s) in
/-- A new task is added to those there are. -/
theorem grows_create (id : StreamId) (kind : TaskKind) : Grows s { s with tunnel := s.tunnel.create id kind } := by
  have hold : ∀ n < s.tunnel.next, (s.tunnel.create id kind).tasks n = s.tunnel.tasks n :=
    fun n hn => create_tasks id kind s.tunnel (Nat.ne_of_lt hn)
  exact {
    next := Nat.le_succ _
    id := fun n hn => congrArg Task.id (hold n hn)
    kind := fun n hn => congrArg Task.kind (hold n hn)
    begun := fun n hn hstage => by
      show targetStage ((s.tunnel.create id kind).tasks n) ≠ .before
      rw [hold n hn]
      exact hstage
    gone := fun n hn hstage => by
      show targetStage ((s.tunnel.create id kind).tasks n) = .gone
      rw [hold n hn]
      exact hstage }

/-- The view of a task that was there before. -/
theorem view_create (h : TargetInv s) {kind : TaskKind} (hpoint : moves s.tunnel.point = false)
    (hlease : s.tunnel.lease = none) (hn : n < s.tunnel.next) (hkind : (s.tunnel.tasks n).kind = .tcp)
    (hends : pointEnds s.tunnel.point = false) :
    StreamInv (TargetSide.view n { s with tunnel := s.tunnel.create id kind }) := by
  have htask := create_tasks id kind s.tunnel (Nat.ne_of_lt hn)
  have hnew : moves (s.tunnel.create id kind).point = false ∧ pointEnds (s.tunnel.create id kind).point = false ∧
      pointCloses (s.tunnel.tasks n).id (s.tunnel.create id kind).point = false := by
    unfold TunnelState.create
    dsimp only
    split
    · exact ⟨rfl, rfl, rfl⟩
    · exact ⟨rfl, rfl, rfl⟩
  obtain ⟨hmoves, hgoes, hcloses⟩ := hnew
  have hview := (h.stream n hn hkind).atSelect (decide_eq_true ⟨hlease, hends⟩) hends
    (atHand_of_not_moves hpoint _)
  have heq : TargetSide.view n { s with tunnel := s.tunnel.create id kind } = { s.view n with
      free := true, ending := false, waiting := false, closing := false, inPoint := [] } := by
    simp only [TargetSide.view]
    rw [htask, atHand_of_not_moves hmoves, delivers_of_not_moves hmoves, hgoes, hcloses]
    simp only [TargetView.mk.injEq, true_and, and_true]
    exact ⟨rfl, decide_eq_true hlease, rfl, rfl⟩
  rw [heq]
  exact hview

/-- The view of the new task. -/
theorem view_created (h : TargetInv s) (hfresh : ∀ n < s.tunnel.next, (s.tunnel.tasks n).id ≠ id)
    (hstart : .start .tcp ∈ s.consumedBy id) :
    StreamInv (TargetSide.view s.tunnel.next { s with tunnel := s.tunnel.create id .tcp }) := by
  have hg := h.whole
  have hquiet : s.producedFor id = [] := by
    by_contra hne
    obtain ⟨n, hn, hid⟩ := hg.produced id hne
    exact hfresh n hn hid
  have hentry : s.tunnel.streams.lookup id ≠ some s.tunnel.next := by
    intro hl
    exact Nat.lt_irrefl _ (hg.streams _ _ hl).1
  have heq : TargetSide.view s.tunnel.next { s with tunnel := s.tunnel.create id .tcp } =
      { stage := .before, accepts := false, busy := false, entry := false
        free := s.tunnel.lease = none, ending := false, waiting := false, closing := false
        consumed := s.consumedBy id, produced := s.producedFor id, socket := {}, channel := [], inPoint := [] } := by
    simp only [TargetSide.view]
    rw [create_new]
    simp only [TargetView.mk.injEq]
    refine ⟨rfl, rfl, rfl, decide_eq_false hentry, ?_, rfl, rfl, rfl, rfl, rfl, (hg.late _ (Nat.le_refl _)).2, rfl, rfl⟩
    simp only [TunnelState.create, TunnelState.setTask, reduceCtorEq, if_false, pointEnds, and_true]
  rw [heq, hquiet]
  have hcarried : ¬ ∃ x ∈ s.consumedBy id, x.carries = true := by
    intro hc
    have hs := hg.opened id hstart hc
    rw [hquiet] at hs
    exact not_hasStart_nil hs
  have hpayload : payload (s.consumedBy id) = [] := by
    apply payload_eq_nil
    intro x hx
    by_contra hc
    exact hcarried ⟨x, hx, by simpa using hc⟩
  exact {
    place := ⟨rfl, rfl⟩
    sent := List.nil_prefix
    ordered := List.Pairwise.nil
    started := hstart
    behaved := hg.behaved id hstart
    opened := fun hc => absurd hc hcarried
    untouched := fun _ => ⟨rfl, rfl, rfl⟩
    pend := List.nil_suffix
    pre := List.nil_prefix
    whole := fun hl => by cases hl
    unlisted := fun hl => by cases hl
    exact' := fun hl => by cases hl
    waits := fun hw => by cases hw
    closing := fun hc => by cases hc
    idle := fun hl => by cases hl
    cut := fun hd => by cases hd
    complete := fun hd => by cases hd }

theorem TargetInv.create (h : TargetInv s) {kind : TaskKind} (hsmall : id < 2 ^ 64)
    (hfresh : ∀ n < s.tunnel.next, (s.tunnel.tasks n).id ≠ id) (hstart : .start (modeOf kind) ∈ s.consumedBy id)
    (hpoint : moves s.tunnel.point = false) (hends : pointEnds s.tunnel.point = false)
    (hlease : s.tunnel.lease = none) (htodo : s.tunnel.todo = []) :
    TargetInv { s with tunnel := s.tunnel.create id kind } := by
  have hg := h.whole
  have hnext : (s.tunnel.create id kind).next = s.tunnel.next + 1 := rfl
  have hold : ∀ {n}, n < s.tunnel.next → (s.tunnel.create id kind).tasks n = s.tunnel.tasks n :=
    fun hn => create_tasks id kind s.tunnel (Nat.ne_of_lt hn)
  have hgrows := grows_create s id kind
  have hnew := create_new id kind s.tunnel
  -- a fact about the tasks that were there, and the new one
  have hboth : ∀ {P : Nat → Prop}, (∀ n < s.tunnel.next, P n) → P s.tunnel.next →
      ∀ n < (s.tunnel.create id kind).next, P n := by
    intro P hbefore hlast n hn
    rw [hnext] at hn
    rcases Nat.lt_or_eq_of_le (Nat.le_of_lt_succ hn) with hn | rfl
    · exact hbefore n hn
    · exact hlast
  have hpoint' : moves (s.tunnel.create id kind).point = false := by
    unfold TunnelState.create
    dsimp only
    split <;> rfl
  refine ⟨⟨fun n hn => ?_, fun m n hm hn hid => ?_, hboth (fun n hn => ?_) ?_, hboth (fun n hn => ?_) ?_,
    hboth (fun n hn => ?_) ?_, fun i n hl => ?_, fun i n hl => ?_, ?_, fun x hx => ?_, fun hne => ?_, hg.behaved,
    hg.opened, fun i hne => ?_, fun frame i bytes hmem hdecode => ?_⟩, hboth (fun n hn hkind => ?_) fun hkind => ?_⟩
  · have hn : s.tunnel.next + 1 ≤ n := hn
    have htask : (s.tunnel.create id kind).tasks n = s.tunnel.tasks n :=
      create_tasks id kind s.tunnel (by omega)
    show ((s.tunnel.create id kind).tasks n).phase = _ ∧ _
    rw [htask]
    exact hg.late n (by omega)
  · have hm : m < s.tunnel.next + 1 := hm
    have hn : n < s.tunnel.next + 1 := hn
    have hid : ((s.tunnel.create id kind).tasks m).id = ((s.tunnel.create id kind).tasks n).id := hid
    by_cases hm' : m = s.tunnel.next <;> by_cases hn' : n = s.tunnel.next
    · rw [hm', hn']
    · rw [hm', hnew, hold (by omega)] at hid
      exact absurd hid.symm (hfresh n (by omega))
    · rw [hn', hnew, hold (by omega)] at hid
      exact absurd hid (hfresh m (by omega))
    · rw [hold (by omega), hold (by omega)] at hid
      exact hg.ids m n (by omega) (by omega) hid
  · rw [hold hn]
    exact hg.small n hn
  · rw [hnew]
    exact hsmall
  · rw [hold hn]
    exact hg.started n hn
  · rw [hnew]
    exact hstart
  · rw [hold hn]
    exact hg.shaped n hn
  · rw [hnew]
    trivial
  · exact hgrows.task (P := fun kind => kind = .tcp) (hg.streams i n hl)
  · exact hgrows.task (P := fun kind => kind ≠ .tcp) (hg.bodies i n hl)
  · have htask : s.tunnel.next < (s.tunnel.create id kind).next ∧
        ((s.tunnel.create id kind).tasks s.tunnel.next).phase = .unspawned := by
      rw [hnew]
      exact ⟨Nat.lt_succ_self _, rfl⟩
    by_cases hkind : kind = .upload
    · have hp : (s.tunnel.create id kind).point = .storing s.tunnel.next := if_pos hkind
      show PointInv _ (s.tunnel.create id kind).point
      rw [hp]
      refine ⟨htask.1, htask.2, ?_⟩
      rw [hnew, hkind]
      exact fun hne => by cases hne
    · have hp : (s.tunnel.create id kind).point = .registering s.tunnel.next := if_neg hkind
      show PointInv _ (s.tunnel.create id kind).point
      rw [hp]
      exact htask
  · have hx : x ∈ s.tunnel.todo := hx
    rw [htodo] at hx
    cases hx
  · exact absurd htodo hne
  · exact hgrows.of_id (hg.produced i hne)
  · exact hgrows.frames hg hmem hdecode
  · have hkind : ((s.tunnel.create id kind).tasks n).kind = .tcp := hkind
    rw [hold hn] at hkind
    exact view_create h hpoint hlease hn hkind hends
  · have hkind : ((s.tunnel.create id kind).tasks s.tunnel.next).kind = .tcp := hkind
    rw [hnew] at hkind
    have hkind : kind = .tcp := hkind
    subst hkind
    exact view_created h hfresh hstart

theorem targetInv_start (h : TargetInv s) {m : Message} (hpoint : s.tunnel.point = .handling m)
    (hlease : s.tunnel.lease = none) (htodo : s.tunnel.todo = []) :
    TargetInv { s with tunnel := s.tunnel.start m } := by
  have hp := h.whole.point
  rw [hpoint] at hp
  obtain ⟨hmem, hfresh⟩ := hp
  have hgoes : pointEnds s.tunnel.point = false := by rw [hpoint]; rfl
  have hstill : moves s.tunnel.point = false := by rw [hpoint]; rfl
  have hsend : ∀ {m : Message}, (∀ id, messageEvents id m = []) →
      TargetInv { s with tunnel := { s.tunnel with point := .sending m true } } := by
    intro m hm
    exact h.moveTo _ hstill (fun he => by rw [hgoes] at he; cases he) rfl (pointInv_sending hm) htodo
  have hcreate : ∀ {id : StreamId} (kind : TaskKind), TunnelState.authorizedStream m = some id →
      .start (modeOf kind) ∈ messageEvents id m → TargetInv { s with tunnel := s.tunnel.create id kind } := by
    intro id kind hid hstart
    obtain ⟨hsmall, hno⟩ := hfresh id hid
    exact h.create hsmall hno (hmem id _ hstart) hstill hgoes hlease htodo
  cases m with
  | «open» id target config =>
    simp only [TunnelState.start]
    split
    · exact hcreate .tcp rfl (by simp [messageEvents, modeOf])
    · exact hsend fun _ => rfl
  | httpRequest id target config request =>
    simp only [TunnelState.start]
    split
    · exact hcreate .http rfl (by simp [messageEvents, modeOf])
    · exact hsend fun _ => rfl
  | httpRequestStart id target config request =>
    simp only [TunnelState.start]
    split
    · exact hcreate .upload rfl (by simp [messageEvents, modeOf])
    · exact hsend fun _ => rfl
  | httpRequestEnd id =>
    refine h.removals hpoint (fun i hi => ?_) ?_
    · rw [List.mem_singleton] at hi
      cases hi
    · simp
  | close id reason =>
    refine h.removals hpoint (fun i hi => ?_) ?_
    · simp only [List.mem_cons, reduceCtorEq, Statement.removeStream.injEq, List.not_mem_nil, or_false,
        false_or] at hi
      subst hi
      exact ⟨.close, by simp [messageEvents], rfl⟩
    · simp
  | tcpEof id =>
    refine h.removals hpoint (fun i hi => ?_) ?_
    · simp only [List.mem_singleton, Statement.removeStream.injEq] at hi
      subst hi
      exact ⟨.eof, by simp [messageEvents], rfl⟩
    · simp
  | ping => exact hsend fun _ => rfl
  | pong => exact h.moveTo _ hstill (fun he => by rw [hgoes] at he; cases he) rfl trivial htodo
  | _ => exact h.ends

theorem targetInv_handle (h : TargetInv s) (hs : s.tunnel.handle = some t) : TargetInv { s with tunnel := t } := by
  obtain ⟨htodo, hs⟩ := TunnelState.atPoint_some hs
  split at hs <;> rename_i hpoint
  · cases hs
    split
    · exact h.moveTo _ (by rw [hpoint]; rfl) (fun he => by rw [hpoint] at he; cases he) rfl trivial htodo
    · rename_i hlease
      exact targetInv_start h hpoint (by simpa using hlease) htodo
  · cases hs

theorem targetInv_store (h : TargetInv s) (hs : s.tunnel.store = some t) : TargetInv { s with tunnel := t } := by
  have hg := h.whole
  obtain ⟨htodo, hs⟩ := TunnelState.atPoint_some hs
  split at hs <;> rename_i hpoint
  · cases hs
    have hp := hg.point
    rw [hpoint] at hp
    obtain ⟨hn, hphase, hkind⟩ := hp
    refine h.rest (sameTasks_of_eq rfl rfl) (fun _ => rfl) rfl (fun i m hl => ?_) (fun hl => hl)
      (fun he => by rw [hpoint] at he; cases he) rfl ⟨hn, hphase⟩ (fun x hx => ?_) fun _ _ m _ _ _ _ => ?_
    · rcases HashMap.lookup_insert_some hl with ⟨rfl, rfl⟩ | ⟨_, hl⟩
      · exact ⟨hn, rfl, hkind⟩
      · exact hg.bodies i m hl
    · have hx : x ∈ s.tunnel.todo := hx
      rw [htodo] at hx
      cases hx
    · rw [hpoint]
      rfl
  · cases hs

theorem targetInv_register (h : TargetInv s) (hs : s.tunnel.register = some t) :
    TargetInv { s with tunnel := t } := by
  have hg := h.whole
  obtain ⟨_, hs⟩ := TunnelState.atPoint_some hs
  split at hs <;> rename_i hpoint
  · cases hs
    have hp := hg.point
    rw [hpoint] at hp
    refine h.rest (sameTasks_of_eq rfl rfl) (fun _ => rfl) rfl hg.bodies (fun hl => hl)
      (fun he => by rw [hpoint] at he; cases he) rfl hp (fun x hx => ?_) fun _ _ m _ _ _ _ => ?_
    · obtain ⟨k, _, rfl⟩ := List.mem_map.mp hx
      trivial
    · rw [hpoint]
      rfl
  · cases hs

/-! ### Data frames -/

omit [MessageCodec] in
theorem sameTasks_deliverTo (receiver : Receiver) (id : StreamId) (bytes : Bytes) (s : TunnelState) :
    SameTasks s (s.deliverTo receiver id bytes) ∧
      ∀ n, ((s.deliverTo receiver id bytes).tasks n).channel.items = (s.tasks n).channel.items := by
  cases receiver with
  | body n =>
    have hsame : SameTasks s (s.setTask n { s.tasks n with body := (s.tasks n).body.request () }) :=
      sameTasks_setTask rfl rfl rfl
    exact ⟨⟨hsame.next, hsame.id, hsame.kind, hsame.phase⟩, same_setTask (·.channel.items) (s := s) rfl⟩
  | stream n =>
    have hsame : SameTasks s (s.setTask n { s.tasks n with channel := (s.tasks n).channel.request () }) :=
      sameTasks_setTask rfl rfl rfl
    exact ⟨⟨hsame.next, hsame.id, hsame.kind, hsame.phase⟩,
      same_setTask (·.channel.items) (s := s) (BoundedChannel.request_items ..)⟩

/-- The receiver is found, and its channel is asked for room. -/
theorem TargetInv.deliverTo (h : TargetInv s) {receiver : Receiver} {bytes : Bytes}
    (hpoint : s.tunnel.point = .dispatching id bytes) (htodo : s.tunnel.todo = [])
    (hreceiver : PointInv s (.delivering receiver id bytes))
    (hentry : ∀ n, receiver = .stream n → s.tunnel.streams.lookup (s.tunnel.tasks n).id = some n) :
    TargetInv { s with tunnel := s.tunnel.deliverTo receiver id bytes } := by
  obtain ⟨hsame, hchannel⟩ := sameTasks_deliverTo receiver id bytes s.tunnel
  have hpoint' : (s.tunnel.deliverTo receiver id bytes).point = .delivering receiver id bytes := rfl
  have htodo' : (s.tunnel.deliverTo receiver id bytes).todo = [] := by
    rw [TunnelState.deliverTo_todo, htodo]
  have hstreams : (s.tunnel.deliverTo receiver id bytes).streams = s.tunnel.streams := by
    cases receiver <;> rfl
  have hbodies : (s.tunnel.deliverTo receiver id bytes).httpBodies = s.tunnel.httpBodies := by
    cases receiver <;> rfl
  have hlease : (s.tunnel.deliverTo receiver id bytes).lease = s.tunnel.lease := by
    cases receiver <;> rfl
  refine h.goOn hsame hchannel hstreams ?_ (fun hl => hlease ▸ hl) ?_ ?_ ?_ ?_ ?_ ?_
  · rw [hbodies]
    exact h.whole.bodies
  · intro he
    rw [hpoint] at he
    cases he
  · rw [hpoint']
    exact hreceiver
  · intro x hx
    rw [htodo'] at hx
    cases hx
  · intro hne
    exact absurd htodo' hne
  · intro n _ _ hwaiting _
    rw [TunnelState.delivers, hpoint'] at hwaiting
    exact hentry n (of_decide_eq_true hwaiting)
  · intro n _ _
    rw [hpoint', hpoint]
    exact .inl rfl

theorem targetInv_dispatch (h : TargetInv s) (hs : s.tunnel.dispatch = some t) :
    TargetInv { s with tunnel := t } := by
  have hg := h.whole
  obtain ⟨htodo, hs⟩ := TunnelState.atPoint_some hs
  split at hs <;> rename_i hpoint
  · rename_i id bytes
    cases hs
    split
    · rename_i n hl
      obtain ⟨hn, hid, hkind⟩ := hg.bodies _ _ hl
      exact h.deliverTo hpoint htodo ⟨hn, hid, hkind⟩ fun n hr => by cases hr
    · rename_i n _ hl
      obtain ⟨hn, hid, hkind⟩ := hg.streams _ _ hl
      have hentry : s.tunnel.streams.lookup (s.tunnel.tasks n).id = some n := by rw [hid, hl]
      refine h.deliverTo hpoint htodo ⟨hn, hid, hkind, fun hbefore => ?_⟩ fun m hr => ?_
      · have hno := ((h.stream n hn hkind).untouched hbefore).1
        exact of_decide_eq_false hno hentry
      · cases hr
        exact hentry
    · rename_i hl
      refine h.rest (sameTasks_of_eq rfl rfl) (fun _ => rfl) rfl hg.bodies (fun hl => hl)
        (fun he => by rw [hpoint] at he; cases he) rfl trivial (fun x hx => ?_) fun _ _ n _ _ _ hentry => ?_
      · have hx : x ∈ s.tunnel.todo := hx
        rw [htodo] at hx
        cases hx
      · rw [hpoint]
        refine if_neg fun hid => ?_
        rw [← hid, hl] at hentry
        cases hentry
  · cases hs

omit [MessageCodec] in
/-- The data that is at hand is not of another stream. -/
theorem atHand_delivering {receiver : Receiver} {bytes : Bytes} (hne : id ≠ (s.tunnel.tasks n).id) :
    atHand (s.tunnel.tasks n).id (.delivering receiver id bytes) = [] := if_neg hne

theorem listening_targetStage (t : Task) : (targetStage t).listening = t.phase.listening := by
  unfold targetStage
  cases t.phase with
  | forwarding targetReadClosed _ => cases targetReadClosed <;> rfl
  | writing targetReadClosed => cases targetReadClosed <;> rfl
  | shutting targetReadClosed => cases targetReadClosed <;> rfl
  | _ => rfl

/-- The body of a request is given the data. -/
theorem TargetInv.bodyDelivered (h : TargetInv s) {m : Nat} {bytes : Bytes} {body : HttpBody}
    (hpoint : s.tunnel.point = .delivering (.body m) id bytes) (htodo : s.tunnel.todo = []) :
    TargetInv { s with tunnel := { s.tunnel.setTask m { s.tunnel.tasks m with body } with point := .select } } := by
  have hg := h.whole
  have hp := hg.point
  rw [hpoint] at hp
  obtain ⟨hm, hid, hkind⟩ := hp
  have hsame : SameTasks s.tunnel (s.tunnel.setTask m { s.tunnel.tasks m with body }) :=
    sameTasks_setTask rfl rfl rfl
  refine h.rest ⟨hsame.next, hsame.id, hsame.kind, hsame.phase⟩
    (same_setTask (·.channel.items) (s := s.tunnel) rfl) rfl hg.bodies (fun hl => hl)
    (fun he => by rw [hpoint] at he; cases he) rfl trivial (fun x hx => ?_) fun _ _ n hn htcp _ _ => ?_
  · have hx : x ∈ s.tunnel.todo := hx
    rw [htodo] at hx
    cases hx
  · rw [hpoint]
    refine atHand_delivering fun hne => hkind ?_
    obtain rfl := hg.eq_of_id hm hn (hid.trans hne)
    exact htcp

/-- The stream's channel is given the data. -/
theorem TargetInv.streamDelivered (h : TargetInv s) {m : Nat} {bytes : Bytes} {channel : TcpChannel}
    (hpoint : s.tunnel.point = .delivering (.stream m) id bytes) (htodo : s.tunnel.todo = [])
    (hlease : s.tunnel.lease = none) (hreceives : (s.tunnel.tasks m).phase.listening = true)
    (hitems : channel.items = (s.tunnel.tasks m).channel.items ++ [bytes]) :
    TargetInv { s with
      tunnel := { s.tunnel.setTask m { s.tunnel.tasks m with channel } with point := .select } } := by
  have hg := h.whole
  have hp := hg.point
  rw [hpoint] at hp
  obtain ⟨hm, hid, _, _⟩ := hp
  have hsame : SameTasks s.tunnel (s.tunnel.setTask m { s.tunnel.tasks m with channel }) :=
    sameTasks_setTask rfl rfl rfl
  refine h.session ⟨hsame.next, hsame.id, hsame.kind, hsame.phase⟩ (fun _ _ hl => hl) hg.bodies trivial
    (fun x hx => ?_) (fun hne => absurd htodo hne) fun n hn htcp => ?_
  · have hx : x ∈ s.tunnel.todo := hx
    rw [htodo] at hx
    cases hx
  · have hview := h.stream n hn htcp
    have hfree : (s.view n).free = true := decide_eq_true ⟨hlease, by rw [hpoint]; rfl⟩
    have hending : (s.view n).ending = false := by
      show pointEnds s.tunnel.point = false
      rw [hpoint]
      rfl
    have hgoes : decide (s.tunnel.lease = none ∧ pointEnds Point.select = false) = true :=
      decide_eq_true ⟨hlease, rfl⟩
    show StreamInv { s.view n with
      entry := _, free := _, ending := _, waiting := _, closing := _, inPoint := _
      channel := ((s.tunnel.setTask m { s.tunnel.tasks m with channel }).tasks n).channel.items }
    by_cases hnm : n = m
    · subst hnm
      have hlistening : (s.view n).stage.listening = true := (listening_targetStage _).trans hreceives
      have hwaiting : (s.view n).waiting = true := by
        show s.tunnel.delivers (.stream n) = true
        rw [TunnelState.delivers, hpoint]
        exact decide_eq_true rfl
      have hhand : (s.view n).inPoint = bytes := by
        show atHand (s.tunnel.tasks n).id s.tunnel.point = bytes
        rw [hpoint]
        exact if_pos hid.symm
      have hput := (hview.put hlistening hwaiting hfree).atSelect hfree hending rfl
      rw [hhand] at hput
      rw [TunnelState.setTask_self, hitems]
      exact hgoes ▸ hput
    · have hhand : (s.view n).inPoint = [] := by
        show atHand (s.tunnel.tasks n).id s.tunnel.point = []
        rw [hpoint]
        exact atHand_delivering fun hne => hnm (hg.eq_of_id hn hm (hne.symm.trans hid.symm))
      rw [TunnelState.setTask_ne hnm]
      exact hgoes ▸ hview.atSelect hfree hending hhand

theorem targetInv_delivered (h : TargetInv s) (hs : s.tunnel.delivered = some t) :
    TargetInv { s with tunnel := t } := by
  obtain ⟨htodo, hlease, hs⟩ := TunnelState.inHandling_some hs
  split at hs <;> rename_i hpoint
  · rename_i receiver id bytes
    split at hs
    · rename_i hreceives
      obtain ⟨u, hput, rfl⟩ := Option.map_eq_some_iff.mp hs
      cases receiver with
      | body m =>
        obtain ⟨body, _, rfl⟩ := Option.map_eq_some_iff.mp hput
        exact h.bodyDelivered hpoint htodo
      | stream m =>
        obtain ⟨channel, hchannel, rfl⟩ := Option.map_eq_some_iff.mp hput
        exact h.streamDelivered hpoint htodo hlease hreceives (BoundedChannel.put_eq_some hchannel).2.1
    · cases hs
  · cases hs

/-- A task whose receiver has gone. -/
theorem targetStage_gone {t : Task} (hbefore : targetStage t ≠ .before) (hl : t.phase.listening = false) :
    targetStage t = .gone := by
  rw [← listening_targetStage] at hl
  cases hstage : targetStage t with
  | before => exact absurd hstage hbefore
  | gone => rfl
  | _ =>
    rw [hstage] at hl
    cases hl

theorem targetInv_undelivered (h : TargetInv s) (hs : s.tunnel.undelivered = some t) :
    TargetInv { s with tunnel := t } := by
  have hg := h.whole
  obtain ⟨htodo, hlease, hs⟩ := TunnelState.inHandling_some hs
  split at hs <;> rename_i hpoint
  · rename_i receiver id bytes
    have hp := hg.point
    rw [hpoint] at hp
    split at hs
    · cases hs
    · rename_i hreceives
      split at hs
      · rename_i m
        cases hs
        obtain ⟨hm, hid, hkind⟩ := hp
        refine h.rest (sameTasks_of_eq rfl rfl) (fun _ => rfl) rfl hg.bodies (fun hl => hl)
          (fun he => by rw [hpoint] at he; cases he) rfl (pointInv_sending fun _ => rfl) (fun x hx => ?_)
          fun _ _ n hn htcp _ _ => ?_
        · rw [List.mem_singleton.mp hx]
          trivial
        · rw [hpoint]
          refine atHand_delivering fun hne => hkind ?_
          obtain rfl := hg.eq_of_id hm hn (hid.trans hne)
          exact htcp
      · rename_i m
        cases hs
        obtain ⟨hm, hid, hkind, hbefore⟩ := hp
        have hgone := targetStage_gone hbefore (by simpa [TunnelState.receives] using hreceives)
        refine h.rest (sameTasks_of_eq rfl rfl) (fun _ => rfl) rfl hg.bodies (fun hl => hl)
          (fun he => by rw [hpoint] at he; cases he) rfl (fun i => ?_) (fun x hx => ?_)
          fun _ _ n hn htcp hlistening _ => ?_
        · by_cases hi : id = i
          · exact .inr ⟨if_pos hi, m, hm, hid.trans hi, hkind, hgone⟩
          · exact .inl (if_neg hi)
        · rw [List.mem_singleton.mp hx]
          exact .inr (.inr ⟨m, hm, hid, hgone⟩)
        · rw [hpoint]
          refine atHand_delivering fun hne => ?_
          obtain rfl := hg.eq_of_id hm hn (hid.trans hne)
          rw [hgone] at hlistening
          cases hlistening
  · cases hs

/-! ### Replies -/

theorem targetInv_tick (h : TargetInv s) (hs : s.tunnel.tick = some t) : TargetInv { s with tunnel := t } := by
  obtain ⟨htodo, hpoint, _, rfl⟩ := TunnelState.atSelect_some hs
  exact h.moveTo _ (by rw [hpoint]; rfl) (fun he => by rw [hpoint] at he; cases he) rfl trivial htodo

theorem targetInv_notReplied (h : TargetInv s) (hs : s.tunnel.notReplied = some t) :
    TargetInv { s with tunnel := t } := by
  unfold TunnelState.notReplied at hs
  split at hs
  · cases hs
  · obtain ⟨htodo, hs⟩ := TunnelState.atPoint_some hs
    split at hs <;> rename_i hpoint
    · split at hs
      · cases hs
        split
        · exact h.ends
        · exact h.moveTo _ (by rw [hpoint]; rfl) (fun he => by rw [hpoint] at he; cases he) rfl trivial htodo
      · cases hs
    · cases hs
      exact h.ends
    · cases hs

/-- The session task sends a message: nothing of a stream but the Close of one that has gone. -/
theorem TargetInv.answered (h : TargetInv s) {m : Message} {required : Bool}
    (hm : PointInv s (.sending m required)) :
    TargetInv { s with produced := s.produced ++ [.text (encodeMessage m)] } := by
  have hg := h.whole
  have hproduced : ∀ id, TargetSide.producedFor id { s with produced := s.produced ++ [.text (encodeMessage m)] } =
      s.producedFor id ++ messageEvents id m := by
    intro id
    simp only [TargetSide.producedFor, eventsIn_append, eventsIn_cons, eventsIn_nil, wsEvents_text, List.append_nil]
  refine ⟨{ hg with
    point := ?_, todo := fun x hx => ?_, opened := fun i hstart hc => ?_, produced := fun i hne => ?_,
    frames := fun frame i bytes hmem => ?_ }, fun n hn hkind => ?_⟩
  · have hp := hg.point
    unfold PointInv at hp ⊢
    exact hp
  · have hx := hg.todo x hx
    cases x <;> exact hx
  · rw [hproduced]
    exact hasStart_append.mpr (.inl (hg.opened i hstart hc))
  · rw [hproduced] at hne
    by_cases hold : s.producedFor i = []
    · rw [hold, List.nil_append] at hne
      obtain ⟨_, n, hn, hid, _⟩ := (hm i).resolve_left hne
      exact ⟨n, hn, hid⟩
    · exact hg.produced i hold
  · rcases List.mem_append.mp hmem with hmem | hmem
    · exact hg.frames frame i bytes hmem
    · cases List.mem_singleton.mp hmem
  · show StreamInv { s.view n with
      produced := TargetSide.producedFor (s.tunnel.tasks n).id
        { s with produced := s.produced ++ [.text (encodeMessage m)] } }
    rw [hproduced]
    rcases hm (s.tunnel.tasks n).id with hnil | ⟨hclose, k, hk, hid, _, hgone⟩
    · rw [hnil, List.append_nil]
      exact h.stream n hn hkind
    · obtain rfl := hg.eq_of_id hk hn hid
      refine (h.stream k hn hkind).closed (fun x hx => ?_) hgone
      rw [hclose] at hx
      exact List.mem_singleton.mp hx

theorem targetInv_replied (h : TargetInv s) (hs : s.tunnel.replied = some t) :
    TargetInv { s with tunnel := t, produced := s.produced ++ s.reply } := by
  have hp := h.whole.point
  have hreply : ∀ {m required}, s.tunnel.point = .sending m required → s.reply = [.text (encodeMessage m)] := by
    intro m required hpoint
    rw [TargetSide.reply, hpoint]
  unfold TunnelState.replied at hs
  split at hs
  · obtain ⟨htodo, hs⟩ := TunnelState.atPoint_some hs
    split at hs <;> rename_i hpoint
    · split at hs
      · cases hs
        rw [hpoint] at hp
        have hsent := h.answered hp
        rw [hreply hpoint]
        exact hsent.moveTo _ (by rw [hpoint]; rfl) (fun he => by rw [hpoint] at he; cases he) rfl trivial htodo
      · cases hs
    · cases hs
      have hsent := h.answered (m := .ping) (pointInv_sending fun _ => rfl : PointInv s (.sending .ping true))
      have hping : s.reply = [.text (encodeMessage .ping)] := by
        rw [TargetSide.reply, hpoint]
      rw [hping]
      exact hsent.moveTo _ (by rw [hpoint]; rfl) (fun he => by rw [hpoint] at he; cases he) rfl trivial htodo
    · cases hs
  · cases hs

end Target

end WsNet.Relay
