import WsNet.Access.Reconnect

/-! Messages and the session that writes them.

A message put late is written to the gateway by a later session, for a stream that the
later session does not know and whose caller was told that the connection is lost
(`written_after_loss`). Under `InSession` every message is written by the session in
which its stream was registered and submitted (`written_in_own_session`). -/
namespace WsNet.Access
open Data Transition

section Claims
variable [MessageCodec]

/-! ### The rule -/

/-- A session opens on a queue without messages of streams, Closes excepted; and while
it is open a handler puts such a message only for a stream that is this session's
alone, and whose caller was not told of a loss. -/
def InSession (op : LinkOp) (s : LinkState) : Prop :=
  match op with
  | .connect => ∀ m ∈ s.outbound.items, streamOf m = none
  | .put id =>
    s.phase.isOpen = true → ∀ x ∈ (s.callers id).phase.sending, (streamOf x.message).isSome = true →
      (s.callers id).ofSession s.sessions = true ∧ (s.callers id).told = false
  | _ => True

instance (op : LinkOp) (s : LinkState) : Decidable (InSession op s) :=
  match op with
  | .connect => inferInstanceAs (Decidable (∀ _ ∈ _, _))
  | .put _ => inferInstanceAs (Decidable (_ → _))
  | .lose | .close _ | .drain | .drained | .message _ | .control _ | .sent | .writer _ | .start _
  | .register .. | .check _ | .request _ | .poll _ | .pend _ | .opened _ | .openTimeout _ | .part ..
  | .last _ | .finish .. | .dropped _ => .isTrue trivial

/-! ### What the handlers send -/

/-- A handler sends messages of its own stream; a Close is of none. -/
structure Own (id : StreamId) (x : Sending) : Prop where
  stream : ∀ j, streamOf x.message = some j → j = id
  close : ∀ m, x = .close m → streamOf m = none

/-- A handler has submitted its stream once it is past the check of the first message. -/
structure CallerOk (id : StreamId) (c : Caller) : Prop where
  early : c.phase.early = true → c.submittedIn = none
  late : c.phase.early = false → c.phase ≠ .gone → c.submittedIn.isSome = true
  own : ∀ x ∈ c.phase.sending, Own id x
  bound : c.phase ≠ .idle → id < 2 ^ 64

/-- From one phase past the check to another. -/
theorem CallerOk.move {id : StreamId} {c c' : Caller} (h : CallerOk id c) (hearly : c.phase.early = false)
    (hgone : c.phase ≠ .gone) (hsub : c'.submittedIn = c.submittedIn) (hearly' : c'.phase.early = false)
    (hown : ∀ x ∈ c'.phase.sending, Own id x) : CallerOk id c' where
  early he := by
    rw [hearly'] at he
    cases he
  late _ _ := hsub ▸ h.late hearly hgone
  own := hown
  bound _ := h.bound (by
    intro hidle
    rw [hidle] at hearly
    cases hearly)

theorem CallerOk.gone {id : StreamId} {c : Caller} (h : CallerOk id c) (hne : c.phase ≠ .idle) :
    CallerOk id { c with phase := .gone } where
  early := nofun
  late _ hg := absurd rfl hg
  own := nofun
  bound _ := h.bound hne

theorem own_close (id j : StreamId) (reason : String) :
    Own id (.close (.text (encodeMessage (.close j reason)))) := by
  have hnone : streamOf (.text (encodeMessage (.close j reason))) = none := by
    simp only [streamOf, MessageCodec.decode_encode]
  refine ⟨fun i hi => ?_, fun m hm => ?_⟩
  · have hi : streamOf (.text (encodeMessage (.close j reason))) = some i := hi
    rw [hnone] at hi
    cases hi
  · cases hm
    exact hnone

theorem own_data {id : StreamId} {bytes : Bytes} {last : Bool} (h : id < 2 ^ 64) :
    Own id (.part (.binary (encodeDataFrame id bytes)) last) := by
  refine ⟨fun j hj => ?_, nofun⟩
  simp only [Sending.message, streamOf, decodeDataFrame_encode id bytes h, Option.map_some,
    Option.some.injEq] at hj
  exact hj.symm

/-- A merge keeps the stream. -/
theorem streamOf_merge {a b c : WsMessage} (h : tryMergeWsBinary a b = some c) :
    streamOf c = streamOf a := by
  cases a <;> cases b <;> first | cases h | skip
  rename_i current next
  obtain ⟨merged, hm, rfl⟩ := Option.map_eq_some_iff.mp h
  obtain ⟨id, p, q, hc, _, hmerged⟩ := decodeDataFrame_merge hm
  simp only [streamOf, hc, hmerged, Option.map_some]

/-! ### The invariant -/

/-- The message's stream, if it has one, is of the current session alone. -/
def Current (s : LinkState) (m : WsMessage) : Prop :=
  ∀ id, streamOf m = some id → (s.callers id).submittedIn.isSome = true ∧
    (s.callers id).ofSession s.sessions = true ∧ (s.callers id).told = false

structure OwnSession (s : LinkState) : Prop where
  callers : ∀ id, CallerOk id (s.callers id)
  fresh : ∀ id, s.connection.streamIds ≤ id → (s.callers id).phase = .idle
  control : ∀ m, s.phase = .sending m → streamOf m = none
  queue : s.phase.isOpen = true → ∀ m ∈ s.outbound.items, Current s m
  writer : s.phase.isOpen = true → Writer.Holds (Current s) s.writer
  idle : s.phase.isOpen = false → s.writer = {}
  written : ∀ e ∈ s.written, ∀ id, streamOf e.message = some id →
    (s.callers id).submittedIn.isSome = true ∧ (s.callers id).ofSession e.session = true ∧ e.told = false

/-- A step that neither opens a session nor writes. -/
structure Keeps (s t : LinkState) : Prop where
  sessions : t.sessions = s.sessions
  written : t.written = s.written
  callers : ∀ id, CallerOk id (t.callers id)
  fresh : ∀ id, t.connection.streamIds ≤ id → (t.callers id).phase = .idle
  control : ∀ m, t.phase = .sending m → streamOf m = none
  ghosts : ∀ id, (s.callers id).submittedIn.isSome = true →
    (t.callers id).registeredIn = (s.callers id).registeredIn ∧
      (t.callers id).submittedIn = (s.callers id).submittedIn
  isOpen : t.phase.isOpen = true → s.phase.isOpen = true
  told : t.phase.isOpen = true → ∀ id, (s.callers id).submittedIn.isSome = true →
    (t.callers id).told = (s.callers id).told
  items : t.phase.isOpen = true → ∀ m ∈ t.outbound.items, m ∈ s.outbound.items ∨ Current s m
  writer : t.writer = if t.phase.isOpen then s.writer else {}

theorem Keeps.current {s t : LinkState} (h : Keeps s t) (ho : t.phase.isOpen = true) {m : WsMessage}
    (hm : Current s m) : Current t m := by
  intro id hid
  obtain ⟨hsub, hof, htold⟩ := hm id hid
  obtain ⟨hr, hs⟩ := h.ghosts id hsub
  refine ⟨hs ▸ hsub, ?_, (h.told ho id hsub).trans htold⟩
  rw [Caller.ofSession, hr, hs, h.sessions]
  exact hof

theorem OwnSession.of_keeps {s t : LinkState} (h : OwnSession s) (hk : Keeps s t) : OwnSession t where
  callers := hk.callers
  fresh := hk.fresh
  control := hk.control
  queue ho m hm := by
    rcases hk.items ho m hm with hm | hm
    · exact hk.current ho (h.queue (hk.isOpen ho) m hm)
    · exact hk.current ho hm
  writer ho := by
    have hw := h.writer (hk.isOpen ho)
    rw [hk.writer, if_pos ho]
    exact ⟨fun m hm => hk.current ho (hw.pending m hm), fun m hm => hk.current ho (hw.batch m hm)⟩
  idle hc := by
    rw [hk.writer, hc]
    rfl
  written e he id hid := by
    rw [hk.written] at he
    obtain ⟨hsub, hof, htold⟩ := h.written e he id hid
    obtain ⟨hr, hs⟩ := hk.ghosts id hsub
    refine ⟨hs ▸ hsub, ?_, htold⟩
    rw [Caller.ofSession, hr, hs]
    exact hof

/-! ### The steps of a handler -/

section Steps
variable {s t : LinkState} {id : StreamId}

theorem OwnSession.lt_streamIds (h : OwnSession s) (hp : (s.callers id).phase ≠ .idle) :
    id < s.connection.streamIds := by
  by_contra hlt
  exact hp (h.fresh id (Nat.le_of_not_lt hlt))

/-- A handler's step on its own record. -/
theorem Keeps.caller {c : Caller} {cn : GatewayConnection} {o : Outbound} (h : OwnSession s)
    (hid : id < cn.streamIds) (hcn : s.connection.streamIds ≤ cn.streamIds) (hok : CallerOk id c)
    (hghost : (s.callers id).submittedIn.isSome = true →
      c.registeredIn = (s.callers id).registeredIn ∧ c.submittedIn = (s.callers id).submittedIn ∧
        c.told = (s.callers id).told)
    (ho : s.phase.isOpen = true → ∀ m ∈ o.items, m ∈ s.outbound.items ∨ Current s m) :
    Keeps s ({ s with connection := cn, outbound := o }.setCaller id c) where
  sessions := rfl
  written := rfl
  callers j := by
    by_cases hj : j = id
    · subst hj
      simp only [LinkState.setCaller, Function.update_self]
      exact hok
    · simp only [LinkState.setCaller, Function.update_of_ne hj]
      exact h.callers j
  fresh j hj := by
    have hle : cn.streamIds ≤ j := hj
    simp only [LinkState.setCaller, Function.update_of_ne (Nat.ne_of_gt (Nat.lt_of_lt_of_le hid hle))]
    exact h.fresh j (Nat.le_trans hcn hle)
  control := h.control
  ghosts j hj := by
    by_cases hji : j = id
    · subst hji
      simp only [LinkState.setCaller, Function.update_self]
      exact ⟨(hghost hj).1, (hghost hj).2.1⟩
    · simp only [LinkState.setCaller, Function.update_of_ne hji, and_self]
  isOpen ho := ho
  told _ j hj := by
    by_cases hji : j = id
    · subst hji
      simp only [LinkState.setCaller, Function.update_self]
      exact (hghost hj).2.2
    · simp only [LinkState.setCaller, Function.update_of_ne hji]
  items := ho
  writer := by
    show s.writer = if s.phase.isOpen then s.writer else {}
    cases hopen : s.phase.isOpen with
    | true => rfl
    | false => exact h.idle hopen

/-- A handler that has begun, with the queue as it is or with its own request withdrawn. -/
theorem Keeps.step {c : Caller} {cn : GatewayConnection} {o : Outbound} (h : OwnSession s)
    (hp : (s.callers id).phase ≠ .idle) (hcn : cn.streamIds = s.connection.streamIds)
    (hok : CallerOk id c) (hreg : c.registeredIn = (s.callers id).registeredIn)
    (hsub : c.submittedIn = (s.callers id).submittedIn) (htold : c.told = (s.callers id).told)
    (ho : o.items = s.outbound.items) :
    Keeps s ({ s with connection := cn, outbound := o }.setCaller id c) :=
  .caller h (hcn ▸ h.lt_streamIds hp) (Nat.le_of_eq hcn.symm) hok
    (fun _ => ⟨hreg, hsub, htold⟩) (fun _ _ hm => .inl (ho ▸ hm))

theorem keeps_leave (h : OwnSession s) (hp : (s.callers id).phase ≠ .idle) : Keeps s (s.leave id) :=
  .step h hp rfl ((h.callers id).gone hp) rfl rfl rfl (BoundedChannel.withdraw_items ..)

theorem keeps_gone (h : OwnSession s) (hp : (s.callers id).phase ≠ .idle) :
    Keeps s ({ s with outbound := s.outbound.withdraw (.handler id) }.setPhase id .gone) :=
  .step h hp rfl ((h.callers id).gone hp) rfl rfl rfl (BoundedChannel.withdraw_items ..)

theorem keeps_closing {reason : String} (h : OwnSession s) (hearly : (s.callers id).phase.early = false)
    (hgone : (s.callers id).phase ≠ .gone) : Keeps s (s.closing id reason) := by
  have hp : (s.callers id).phase ≠ .idle := by
    intro hidle
    rw [hidle] at hearly
    cases hearly
  refine .step h hp rfl ((h.callers id).move hearly hgone rfl rfl ?_) rfl rfl rfl
    (BoundedChannel.withdraw_items ..)
  intro x hx
  cases hx
  exact own_close id id reason

/-- To another phase past the check. -/
theorem keeps_move {c : Caller} (h : OwnSession s) (hearly : (s.callers id).phase.early = false)
    (hgone : (s.callers id).phase ≠ .gone) (hearly' : c.phase.early = false)
    (hown : ∀ x ∈ c.phase.sending, Own id x) (hreg : c.registeredIn = (s.callers id).registeredIn)
    (hsub : c.submittedIn = (s.callers id).submittedIn) (htold : c.told = (s.callers id).told) :
    Keeps s (s.setCaller id c) := by
  have hp : (s.callers id).phase ≠ .idle := by
    intro hidle
    rw [hidle] at hearly
    cases hearly
  exact .step h hp rfl ((h.callers id).move hearly hgone hsub hearly' hown) hreg hsub htold rfl

theorem keeps_refused {x : Sending} (h : OwnSession s) (hc : (s.callers id).phase = .checking x) :
    Keeps s (s.refused id x) := by
  have hne : (s.callers id).phase ≠ .gone := by
    rw [hc]
    nofun
  have hidle : (s.callers id).phase ≠ .idle := by
    rw [hc]
    nofun
  cases x with
  | submit m => exact keeps_leave h hidle
  | close m => exact keeps_leave h hidle
  | part m last =>
    have hearly : (s.callers id).phase.early = false := by
      rw [hc]
      rfl
    unfold LinkState.refused
    cases last <;> cases (s.callers id).mode
    · exact keeps_closing h hearly hne
    · exact keeps_closing h hearly hne
    · exact keeps_move h hearly hne rfl nofun rfl rfl rfl
    · exact keeps_leave h hidle

theorem keeps_check (h : OwnSession s) (hs : s.check id = some t) : Keeps s t := by
  simp only [LinkState.check] at hs
  split at hs
  · rename_i x hc
    have hidle : (s.callers id).phase ≠ .idle := by
      rw [hc]
      nofun
    have hown : Own id x := (h.callers id).own x (by rw [hc]; rfl)
    split at hs <;> cases hs
    · -- The stream is submitted here, and was not before.
      rename_i m _
      have hnone : (s.callers id).submittedIn = none := (h.callers id).early (by rw [hc]; rfl)
      refine .caller h (h.lt_streamIds hidle) (Nat.le_refl _) ⟨nofun, fun _ _ => rfl, ?_, ?_⟩ ?_
        (fun _ _ hm => .inl hm)
      · intro y hx
        cases hx
        exact hown
      · exact fun _ => (h.callers id).bound hidle
      · intro hsome
        rw [hnone] at hsome
        cases hsome
    · rename_i x _ _ _ hnot
      have hearly : (s.callers id).phase.early = false := by
        rw [hc]
        cases x with
        | submit m => exact absurd rfl (hnot m)
        | part m last => rfl
        | close m => rfl
      refine keeps_move h hearly (by rw [hc]; nofun) rfl ?_ rfl rfl rfl
      intro y hx
      cases hx
      exact hown
    · exact keeps_refused h hc
  · cases hs

theorem keeps_request (h : OwnSession s) (hs : s.request id = some t) : Keeps s t := by
  simp only [LinkState.request] at hs
  split at hs
  · rename_i x hc
    cases hs
    have hearly : (s.callers id).phase.early = false := by rw [hc]; rfl
    refine .step h (by rw [hc]; nofun) rfl
      ((h.callers id).move hearly (by rw [hc]; nofun) rfl rfl ?_) rfl rfl rfl
      (BoundedChannel.request_items ..)
    intro y hx
    cases hx
    exact (h.callers id).own x (by rw [hc]; rfl)
  · cases hs

/-- Under the rule, what a handler puts while a session is open is the session's own. -/
theorem put_items {x : Sending} {o : Outbound} (h : OwnSession s) (hr : InSession (.put id) s)
    (hq : (s.callers id).phase = .queued x)
    (hp : s.outbound.put (.handler id) x.message = some o) (hopen : s.phase.isOpen = true) :
    ∀ m ∈ o.items, m ∈ s.outbound.items ∨ Current s m := by
  intro m hm
  rw [(BoundedChannel.put_eq_some hp).2.1, List.mem_append, List.mem_singleton] at hm
  refine hm.imp_right ?_
  intro heq j hj
  subst heq
  have hx : x ∈ (s.callers id).phase.sending := by
    rw [hq]
    rfl
  obtain rfl : j = id := ((h.callers id).own x hx).stream j hj
  have hsub : (s.callers j).submittedIn.isSome = true :=
    (h.callers j).late (by rw [hq]; rfl) (by rw [hq]; nofun)
  exact ⟨hsub, hr hopen x hx (Option.isSome_iff_exists.mpr ⟨j, hj⟩)⟩

theorem keeps_put (h : OwnSession s) (hr : InSession (.put id) s) (hs : s.put id = some t) :
    Keeps s t := by
  simp only [LinkState.put] at hs
  have key : ∀ {x : Sending} {o : Outbound} {c : Caller}, (s.callers id).phase = .queued x →
      s.outbound.put (.handler id) x.message = some o → CallerOk id c →
      c.registeredIn = (s.callers id).registeredIn → c.submittedIn = (s.callers id).submittedIn →
      c.told = (s.callers id).told → Keeps s ({ s with outbound := o }.setCaller id c) := by
    intro x o c hq hp hok hreg hsub htold
    have hidle : (s.callers id).phase ≠ .idle := by
      rw [hq]
      nofun
    exact .caller h (h.lt_streamIds hidle) (Nat.le_refl _) hok (fun _ => ⟨hreg, hsub, htold⟩)
      (put_items h hr hq hp)
  split at hs
  · rename_i m hq
    obtain ⟨o, hp, rfl⟩ := Option.map_eq_some_iff.mp hs
    refine key hq hp ((h.callers id).move (by rw [hq]; rfl) (by rw [hq]; nofun) rfl ?_ ?_) rfl rfl rfl
    · cases (s.callers id).mode <;> rfl
    · cases (s.callers id).mode <;> nofun
  · rename_i m last hq
    obtain ⟨_, hs⟩ := Option.ite_none_right_eq_some.mp hs
    obtain ⟨o, hp, rfl⟩ := Option.map_eq_some_iff.mp hs
    exact key hq hp ((h.callers id).move (by rw [hq]; rfl) (by rw [hq]; nofun) rfl rfl nofun) rfl rfl rfl
  · rename_i m hq
    obtain ⟨o, hp, rfl⟩ := Option.map_eq_some_iff.mp hs
    exact key hq hp ((h.callers id).gone (by rw [hq]; nofun)) rfl rfl rfl
  · cases hs

theorem keeps_poll (h : OwnSession s) (hs : s.poll id = some t) : Keeps s t := by
  have key : (s.callers id).phase.early = false → (s.callers id).phase ≠ .gone →
      Keeps s (s.pollGuard id) := by
    intro hearly hgone
    have hidle : (s.callers id).phase ≠ .idle := by
      intro hidle
      rw [hidle] at hearly
      cases hearly
    have hpolled : Keeps s (s.setCaller id { s.callers id with polled := true }) :=
      keeps_move h hearly hgone hearly (h.callers id).own rfl rfl rfl
    simp only [LinkState.pollGuard]
    split
    · split
      · exact hpolled
      · exact keeps_closing h hearly hgone
    · split
      · exact hpolled
      · exact keeps_gone h hidle
      · exact keeps_leave h hidle
  simp only [LinkState.poll] at hs
  split at hs
  · rename_i hc
    split at hs <;> cases hs
    exact key (by rw [hc]; rfl) (by rw [hc]; nofun)
  · rename_i hc
    split at hs <;> cases hs
    exact key (by rw [hc]; rfl) (by rw [hc]; nofun)
  · cases hs

theorem keeps_pend (h : OwnSession s) (hs : s.pend id = some t) : Keeps s t := by
  unfold LinkState.pend at hs
  split at hs <;> cases hs
  rename_i hc
  exact keeps_move h (by rw [hc]; rfl) (by rw [hc]; nofun) (by rw [hc]; rfl) (h.callers id).own rfl rfl rfl

theorem keeps_opened (h : OwnSession s) (hs : s.opened id = some t) : Keeps s t := by
  unfold LinkState.opened at hs
  split at hs <;> cases hs
  · rename_i hc _
    exact keeps_move h (by rw [hc]; rfl) (by rw [hc]; nofun) rfl nofun rfl rfl rfl
  · rename_i hc _
    exact keeps_leave h (by rw [hc]; nofun)

theorem keeps_openTimeout (h : OwnSession s) (hs : s.openTimeout id = some t) : Keeps s t := by
  unfold LinkState.openTimeout at hs
  split at hs <;> cases hs
  rename_i hc
  exact keeps_closing h (by rw [hc.1]; rfl) (by rw [hc.1]; nofun)

theorem keeps_sendPart {m : WsMessage} {last : Bool} (h : OwnSession s)
    (hown : id < 2 ^ 64 → Own id (.part m last)) (hs : s.sendPart id m last = some t) : Keeps s t := by
  simp only [LinkState.sendPart] at hs
  split at hs <;> cases hs
  rename_i hc
  refine keeps_move h (by rw [hc.1]; rfl) (by rw [hc.1]; nofun) rfl ?_ rfl rfl rfl
  intro x hx
  cases hx
  exact hown ((h.callers id).bound (by rw [hc.1]; nofun))

theorem own_text {m : Message} {last : Bool}
    (hm : streamOf (.text (encodeMessage m)) = some id) : Own id (.part (.text (encodeMessage m)) last) :=
  ⟨fun _ hj => (Option.some.inj (hm.symm.trans hj)).symm, nofun⟩

theorem keeps_last (h : OwnSession s) (hs : s.last id = some t) : Keeps s t := by
  unfold LinkState.last at hs
  split at hs
  · exact keeps_sendPart h (fun _ => own_text (by simp only [streamOf, MessageCodec.decode_encode])) hs
  · exact keeps_sendPart h (fun _ => own_text (by simp only [streamOf, MessageCodec.decode_encode])) hs

theorem keeps_finish {reason : String} (h : OwnSession s) (hs : s.finish id reason = some t) :
    Keeps s t := by
  unfold LinkState.finish at hs
  split at hs <;> cases hs
  rename_i hc
  exact keeps_closing h (by rw [hc.1]; rfl) (by rw [hc.1]; nofun)

theorem keeps_dropped (h : OwnSession s) (hs : s.dropped id = some t) : Keeps s t := by
  unfold LinkState.dropped at hs
  split at hs <;> cases hs
  rename_i hc
  exact keeps_gone h hc

/-- A stream id is given out once. -/
theorem keeps_start {mode : Mode} (h : OwnSession s) (hs : s.start mode = some t) : Keeps s t := by
  simp only [LinkState.start] at hs
  split at hs <;> cases hs
  rename_i hc
  have hidle := h.fresh s.connection.streamIds (Nat.le_refl _)
  have hnone : (s.callers s.connection.streamIds).submittedIn = none :=
    (h.callers s.connection.streamIds).early (by rw [hidle]; rfl)
  refine .caller h (Nat.lt_succ_self _) (Nat.le_succ _) ⟨fun _ => rfl, nofun, nofun, fun _ => ?_⟩ ?_
    (fun _ _ hm => .inl hm)
  · exact Nat.lt_of_succ_lt hc.2
  · intro hsome
    rw [hnone] at hsome
    cases hsome

theorem keeps_register {target : String} {config : TargetConfig} {request : HttpRequestHead}
    (h : OwnSession s) (hs : s.register id target config request = some t) : Keeps s t := by
  simp only [LinkState.register] at hs
  split at hs
  · rename_i hc
    have hidle : (s.callers id).phase ≠ .idle := by
      rw [hc]
      nofun
    have hnone : (s.callers id).submittedIn = none := (h.callers id).early (by rw [hc]; rfl)
    have key : ∀ {m : Message} {cn : GatewayConnection} (registeredIn : Option Nat),
        streamOf (.text (encodeMessage m)) = some id → cn.streamIds = s.connection.streamIds →
        Keeps s ({ s with connection := cn }.setCaller id
          { s.callers id with phase := .checking (.submit (.text (encodeMessage m))), registeredIn }) := by
      intro m cn registeredIn hm hcn
      refine .caller h (hcn ▸ h.lt_streamIds hidle) (Nat.le_of_eq hcn.symm)
        ⟨fun _ => hnone, nofun, ?_, fun _ => (h.callers id).bound hidle⟩ ?_ (fun _ _ hm => .inl hm)
      · intro x hx
        cases hx
        exact ⟨fun _ hj => (Option.some.inj (hm.symm.trans hj)).symm, nofun⟩
      · intro hsome
        rw [hnone] at hsome
        cases hsome
    split at hs <;> cases hs
    · exact key _ (by simp only [streamOf, MessageCodec.decode_encode]) rfl
    · exact key _ (by simp only [streamOf, MessageCodec.decode_encode]) rfl
  · cases hs

/-! ### The steps of the connection's task -/

/-- A step of the connection's task, which leaves the handlers where they are. -/
theorem Keeps.task (h : OwnSession s) (hsessions : t.sessions = s.sessions) (hwritten : t.written = s.written)
    (hstream : t.connection.streamIds = s.connection.streamIds)
    (hphase : ∀ id, (t.callers id).phase = (s.callers id).phase)
    (hreg : ∀ id, (t.callers id).registeredIn = (s.callers id).registeredIn)
    (hsub : ∀ id, (t.callers id).submittedIn = (s.callers id).submittedIn)
    (hcontrol : ∀ m, t.phase = .sending m → streamOf m = none)
    (hopen : t.phase.isOpen = true → s.phase.isOpen = true ∧ (∀ id, (t.callers id).told = (s.callers id).told) ∧
      ∀ m ∈ t.outbound.items, m ∈ s.outbound.items ∨ streamOf m = none)
    (hwriter : t.writer = if t.phase.isOpen then s.writer else {}) : Keeps s t where
  sessions := hsessions
  written := hwritten
  callers id := by
    obtain ⟨hearly, hlate, hown, hbound⟩ := h.callers id
    constructor
    · rwa [hphase, hsub]
    · rwa [hphase, hsub]
    · rwa [hphase]
    · rwa [hphase]
  fresh id hid := by
    rw [hphase]
    exact h.fresh id (hstream ▸ hid)
  control := hcontrol
  ghosts id _ := ⟨hreg id, hsub id⟩
  isOpen ho := (hopen ho).1
  told ho id _ := (hopen ho).2.1 id
  items ho m hm := by
    refine ((hopen ho).2.2 m hm).imp_right fun hnone id hid => ?_
    rw [hnone] at hid
    cases hid
  writer := hwriter

theorem keeps_lose (h : OwnSession s) (hs : s.lose = some t) : Keeps s t := by
  unfold LinkState.lose at hs
  split at hs <;> cases hs
  all_goals exact .task h rfl rfl rfl (fun _ => rfl) (fun _ => rfl) (fun _ => rfl) nofun nofun rfl

theorem keeps_close {reason : String} (h : OwnSession s) (hs : s.close reason = some t) : Keeps s t := by
  simp only [LinkState.close] at hs
  split at hs <;> cases hs
  rename_i hp
  have hwriter : s.writer = {} := h.idle (by rw [hp]; rfl)
  exact .task h rfl rfl (GatewayConnection.Fewer.closeGatewayConnection _ _).streamIds (fun _ => rfl)
    (fun _ => rfl) (fun _ => rfl) nofun nofun hwriter

theorem keeps_drain (h : OwnSession s) (hs : s.drain = some t) : Keeps s t := by
  unfold LinkState.drain at hs
  split at hs
  · rename_i hp
    obtain ⟨r, _, rfl⟩ := Option.map_eq_some_iff.mp hs
    have hclosed : s.phase.isOpen = false := by rw [hp]; rfl
    refine .task h rfl rfl rfl (fun _ => rfl) (fun _ => rfl) (fun _ => rfl) h.control ?_ ?_
    · intro ho
      have ho : s.phase.isOpen = true := ho
      rw [hclosed] at ho
      cases ho
    · show s.writer = if s.phase.isOpen then s.writer else {}
      rw [hclosed]
      exact h.idle hclosed
  · cases hs

theorem keeps_drained (h : OwnSession s) (hs : s.drained = some t) : Keeps s t := by
  unfold LinkState.drained at hs
  split at hs <;> cases hs
  rename_i hp
  have hwriter : s.writer = {} := h.idle (by rw [hp.1]; rfl)
  exact .task h rfl rfl rfl (fun _ => rfl) (fun _ => rfl) (fun _ => rfl) nofun nofun hwriter

theorem streamOf_control {m : Message} (hm : isControl m = true) :
    streamOf (.text (encodeMessage m)) = none := by
  unfold isControl at hm
  split at hm
  · simp only [streamOf, MessageCodec.decode_encode]
  · simp only [streamOf, MessageCodec.decode_encode]
  · simp only [streamOf, MessageCodec.decode_encode]
  · cases hm

theorem keeps_sendControl {m : Message} (h : OwnSession s) (hp : s.phase = .open)
    (hm : isControl m = true) : Keeps s (s.sendControl m) := by
  have hnone := streamOf_control hm
  have hopen : s.phase.isOpen = true := by rw [hp]; rfl
  unfold LinkState.sendControl
  split
  · rename_i o ho
    refine .task h rfl rfl rfl (fun _ => rfl) (fun _ => rfl) (fun _ => rfl) h.control ?_ ?_
    · refine fun _ => ⟨hopen, fun _ => rfl, fun m hm => ?_⟩
      have hm : m ∈ o.items := hm
      rw [(BoundedChannel.trySend_eq_some ho).2.1, List.mem_append, List.mem_singleton] at hm
      refine hm.imp_right ?_
      intro heq
      subst heq
      exact hnone
    · exact (if_pos hopen).symm
  · refine .task h rfl rfl rfl (fun _ => rfl) (fun _ => rfl) (fun _ => rfl) ?_ ?_ rfl
    · intro m hx
      cases hx
      exact hnone
    · refine fun _ => ⟨hopen, fun _ => rfl, fun m hm => .inl ?_⟩
      have hm : m ∈ (s.outbound.request Sender.session).items := hm
      rwa [BoundedChannel.request_items] at hm

omit [MessageCodec] in
/-- The gateway is answered with Pong. -/
theorem reply_isControl {m answer : Message} {c : GatewayConnection}
    (hm : c.handleGatewayMessage m = .reply answer) : isControl answer = true := by
  cases m with
  | ping =>
    cases hm
    rfl
  | error id code text => cases id <;> cases hm
  | _ => cases hm

theorem keeps_message {m : Message} (h : OwnSession s) (hs : s.message m = some t) : Keeps s t := by
  unfold LinkState.message at hs
  split at hs
  · rename_i hp
    have hopen : s.phase.isOpen = true := by rw [hp]; rfl
    have hfewer := (s.connection.handleGatewayMessage_fewer m).streamIds
    split at hs <;> cases hs <;> rename_i hm <;> rw [hm] at hfewer
    · exact .task h rfl rfl hfewer (fun _ => rfl) (fun _ => rfl) (fun _ => rfl) h.control
        (fun _ => ⟨hopen, fun _ => rfl, fun _ hm => .inl hm⟩) (if_pos hopen).symm
    · exact keeps_sendControl h hp (reply_isControl hm)
    · exact .task h rfl rfl hfewer (fun _ => rfl) (fun _ => rfl) (fun _ => rfl) nofun nofun rfl
  · cases hs

theorem keeps_sent (h : OwnSession s) (hs : s.sent = some t) : Keeps s t := by
  unfold LinkState.sent at hs
  split at hs
  · rename_i m hp
    obtain ⟨o, ho, rfl⟩ := Option.map_eq_some_iff.mp hs
    refine .task h rfl rfl rfl (fun _ => rfl) (fun _ => rfl) (fun _ => rfl) nofun ?_ rfl
    refine fun _ => ⟨by rw [hp]; rfl, fun _ => rfl, fun x hx => ?_⟩
    have hx : x ∈ o.items := hx
    rw [(BoundedChannel.put_eq_some ho).2.1, List.mem_append, List.mem_singleton] at hx
    refine hx.imp_right ?_
    intro heq
    subst heq
    exact h.control x hp
  · cases hs

end Steps

/-! ### The runs -/

/-- A session opens with nothing of an earlier one. -/
theorem OwnSession.connect {s t : LinkState} (h : OwnSession s) (hr : InSession .connect s)
    (hs : s.connect = some t) : OwnSession t := by
  unfold LinkState.connect at hs
  split at hs <;> cases hs
  rename_i hp
  have hwriter : s.writer = {} := h.idle (by rw [hp.1]; rfl)
  refine ⟨h.callers, h.fresh, nofun, ?_, ?_, nofun, h.written⟩
  · intro _ m hm id hid
    rw [hr m hm] at hid
    cases hid
  · intro _
    show Writer.Holds _ s.writer
    rw [hwriter]
    exact ⟨nofun, nofun⟩

/-- The sink takes what the session's own streams have sent. -/
theorem OwnSession.writerStep {s t : LinkState} {op : WriterOp} (h : OwnSession s)
    (hs : s.writerStep op = some t) : OwnSession t := by
  unfold LinkState.writerStep at hs
  split at hs
  · rename_i hp
    obtain ⟨r, hr, rfl⟩ := Option.map_eq_some_iff.mp hs
    have hopen : s.phase.isOpen = true := by rw [hp]; rfl
    have hmerge : ∀ a b c, tryMergeWsBinary a b = some c → Current s a → Current s b → Current s c := by
      intro a b c hm ha _ id hid
      exact ha id (streamOf_merge hm ▸ hid)
    obtain ⟨hw, ho, hfed⟩ := Writer.step_forall hmerge hr (h.writer hopen) (h.queue hopen)
    refine ⟨h.callers, h.fresh, h.control, fun _ => ho, fun _ => hw, fun hc => ?_, ?_⟩
    · have hc : s.phase.isOpen = false := hc
      rw [hopen] at hc
      cases hc
    · intro e he id hid
      have he : e ∈ s.written ++ _ := he
      rw [List.mem_append, List.mem_map] at he
      rcases he with he | ⟨m, hm, rfl⟩
      · exact h.written e he id hid
      · have hid : streamOf m = some id := hid
        obtain ⟨hsub, hof, htold⟩ := hfed m (Option.mem_toList.mp hm) id hid
        refine ⟨hsub, hof, ?_⟩
        show (streamOf m).any _ = false
        rw [hid]
        exact htold
  · cases hs

theorem ownSession_step {op : LinkOp} {s t : LinkState} (h : OwnSession s) (hr : InSession op s)
    (hs : link.step op s = some t) : OwnSession t := by
  cases op with
  | connect => exact h.connect hr hs
  | writer op => exact h.writerStep hs
  | lose => exact h.of_keeps (keeps_lose h hs)
  | close reason => exact h.of_keeps (keeps_close h hs)
  | drain => exact h.of_keeps (keeps_drain h hs)
  | drained => exact h.of_keeps (keeps_drained h hs)
  | message m => exact h.of_keeps (keeps_message h hs)
  | control m =>
    have hs : s.control m = some t := hs
    unfold LinkState.control at hs
    split at hs <;> cases hs
    rename_i hc
    exact h.of_keeps (keeps_sendControl h hc.1 hc.2)
  | sent => exact h.of_keeps (keeps_sent h hs)
  | start mode => exact h.of_keeps (keeps_start h hs)
  | register id target config request => exact h.of_keeps (keeps_register h hs)
  | check id => exact h.of_keeps (keeps_check h hs)
  | request id => exact h.of_keeps (keeps_request h hs)
  | put id => exact h.of_keeps (keeps_put h hr hs)
  | poll id => exact h.of_keeps (keeps_poll h hs)
  | pend id => exact h.of_keeps (keeps_pend h hs)
  | opened id => exact h.of_keeps (keeps_opened h hs)
  | openTimeout id => exact h.of_keeps (keeps_openTimeout h hs)
  | part id bytes => exact h.of_keeps (keeps_sendPart h (fun hid => own_data hid) hs)
  | last id => exact h.of_keeps (keeps_last h hs)
  | finish id reason => exact h.of_keeps (keeps_finish h hs)
  | dropped id => exact h.of_keeps (keeps_dropped h hs)

theorem ownSession_initial : OwnSession {} where
  callers _ := ⟨fun _ => rfl, nofun, nofun, fun h => absurd rfl h⟩
  fresh _ _ := rfl
  control := nofun
  queue := nofun
  writer := nofun
  idle _ := rfl
  written := nofun

theorem reachable_ownSession {s : LinkState} (h : link.ReachableUnder InSession s) : OwnSession s :=
  h.invariant (fun _ hi => hi ▸ ownSession_initial) (fun _ _ _ _ hp hr hs => ownSession_step hp hr hs)

/-- **The main result.** Under the rule, what a session writes for a stream is the
session's own: the stream was registered and submitted in no earlier session, and its
caller had not been told that the connection is lost. -/
theorem written_in_own_session {s : LinkState} (h : link.ReachableUnder InSession s) {e : Written}
    (he : e ∈ s.written) {id : StreamId} (hid : streamOf e.message = some id) :
    (∀ k, (s.callers id).registeredIn = some k ∨ (s.callers id).submittedIn = some k →
      ¬ k < e.session) ∧ e.told = false := by
  obtain ⟨_, hof, htold⟩ := (reachable_ownSession h).written e he id hid
  refine ⟨fun k hk hlt => ?_, htold⟩
  simp only [Caller.ofSession, Bool.and_eq_true, Option.all_eq_true, decide_eq_true_eq] at hof
  have hk : k = e.session := hk.elim (hof.1 k) (hof.2 k)
  omega

end Claims

section Example

local instance ownSessionCodec : MessageCodec := .plain

def shellTarget : TargetConfig := ⟨.tcp, "10.0.0.7", 22, none, false, false, false⟩

/-- A stream is opened in the first session, which is lost. -/
def reopenedOps : List LinkOp :=
  [.connect, .start .tcp, .register 1 "shell" shellTarget ⟨"GET", "/", []⟩, .check 1, .request 1,
   .put 1, .writer .receive, .writer .feed, .lose, .close "closed", .drained, .connect]

def reopenedState : LinkState := (link.runUnder InSession reopenedOps {}).getD {}

theorem written_in_own_session_reopenedState :
    reopenedState.written = [⟨1, .text (encodeMessage (.open 1 "shell" shellTarget)), false⟩] ∧
      ∀ k, (reopenedState.callers 1).registeredIn = some k ∨
        (reopenedState.callers 1).submittedIn = some k → ¬ k < 1 := by
  have hreach : link.ReachableUnder InSession reopenedState :=
    Machine.reachable_getD rfl (by decide +kernel)
  have hwritten : reopenedState.written =
      [⟨1, .text (encodeMessage (.open 1 "shell" shellTarget)), false⟩] := by decide +kernel
  have he : ⟨1, .text (encodeMessage (.open 1 "shell" shellTarget)), false⟩ ∈ reopenedState.written := by
    rw [hwritten]
    exact List.mem_singleton_self _
  refine ⟨hwritten, (written_in_own_session hreach he ?_).1⟩
  simp only [streamOf, MessageCodec.decode_encode]

/-- The handler passes the check, and the session is lost before it asks for a permit;
it puts its Open once the queue has been emptied. -/
def lateOps : List LinkOp :=
  [.connect, .start .tcp, .register 1 "shell" shellTarget ⟨"GET", "/", []⟩, .check 1, .lose,
   .close "closed", .drained, .request 1, .put 1, .connect, .writer .receive, .writer .feed]

def lateState : LinkState := (link.run lateOps {}).getD {}

theorem written_after_loss :
    link.Reachable lateState ∧
      lateState.written = [⟨2, .text (encodeMessage (.open 1 "shell" shellTarget)), true⟩] ∧
      (lateState.callers 1).registeredIn = some 1 ∧ (lateState.callers 1).submittedIn = some 1 :=
  ⟨Machine.reachable_getD rfl (by decide +kernel), by decide +kernel, by decide +kernel, by decide +kernel⟩

end Example
end WsNet.Access
