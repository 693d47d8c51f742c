import WsNet.Relay.LocalSide

/-! One stream of the access's end.

To one stream the access is a handler, a stretch of the queue and of the writer that
holds its events only, and the entries of its identifier. What every step keeps is
said of this view: the invariant has a part for the handler, one for the line from
the queue to the sessions, and one for the tables and what comes back. -/
namespace WsNet.Relay
open Access Data Transition

/-! ### The view -/

/-- Where a handler is, as far as its stream's events go. -/
inductive Stage where
  /-- Not registered. -/
  | fresh
  | submitting (events : List StreamEvent) (checked : Bool)
  | awaiting
  | running
  | sending (events : List StreamEvent) (last : Bool)
  /-- The local end is sent, or could not be. -/
  | sent
  | closing (events : List StreamEvent)
  | gone
  deriving DecidableEq

namespace Stage

/-- Nothing is put yet. -/
def unsent : Stage → Bool
  | fresh | submitting _ _ => true
  | _ => false

/-- Past the answer. -/
def past : Stage → Bool
  | running | sending _ _ | sent => true
  | _ => false

/-- Data may follow. -/
def more : Stage → Bool
  | sent | closing _ | gone => false
  | _ => true

/-- Data may come: a handler that waits was told nothing yet, or that it may go on. -/
def live (answer : Option Bool) (waiter : Bool) : Stage → Bool
  | fresh | running | sending _ _ => true
  | submitting _ _ | awaiting => answer = some true ∨ answer = none ∧ waiter = true
  | sent | closing _ | gone => false

end Stage

section View
variable [MessageCodec]

def Stage.ofSending (id : StreamId) (checked : Bool) : Sending → Stage
  | .submit m => .submitting (wsEvents id m) checked
  | .part m last => .sending (wsEvents id m) last
  | .close m => .closing (wsEvents id m)

def stageOf (id : StreamId) (c : Caller) : Stage :=
  match c.phase with
  | .idle | .ready => .fresh
  | .checking x => .ofSending id false x
  | .requesting x | .queued x => .ofSending id true x
  | .awaiting => .awaiting
  | .running => if c.sentLast then .sent else .running
  | .gone => .gone

end View

structure LocalView where
  mode : Mode
  stage : Stage
  /-- Whether the answer was a good one. -/
  answer : Option Bool
  entry : Bool
  waiter : Bool
  http : Bool
  closed : Bool
  isOpen : Bool
  session : Nat
  handed : List StreamEvent
  /-- What each session has written. -/
  written : Nat → List StreamEvent
  /-- What the writer holds and the queue. -/
  ahead : List StreamEvent
  /-- What the session task waits to put. -/
  control : List StreamEvent
  received : Nat → List StreamEvent
  socket : LocalSocket
  delivering : Bytes

namespace LocalView

def live (v : LocalView) : Bool := v.stage.live v.answer v.waiter

/-- What the session has written and what it will, if it goes on. -/
def line (v : LocalView) : List StreamEvent :=
  (if v.isOpen then v.written v.session else []) ++ v.ahead

end LocalView

/-! ### The handler -/

/-- What a handler has put and read when it is at a stage. -/
def AtStage (mode : Mode) (handed : List StreamEvent) (read : Bytes) : Stage → Prop
  | .fresh => handed = [] ∧ read = []
  | .submitting e _ => handed = [] ∧ read = [] ∧ e = [.start mode]
  | .awaiting => mode = .tcp ∧ handed = [.start mode] ∧ read = []
  | .running => HasStart handed ∧ (mode = .tcp → read = payload handed ∧ ¬ HasEnd handed)
  | .sending e last => HasStart handed ∧ (∀ x ∈ e, x.carries = true) ∧
      (mode = .tcp → read = payload handed ++ payload e ∧ (.eof ∈ e → last = true) ∧ Ordered e ∧
        ¬ HasEnd handed)
  | .sent => HasStart handed
  | .closing e => e = [.close]
  | .gone => True

structure HandlerInv (mode : Mode) (stage : Stage) (handed : List StreamEvent) (read : Bytes) : Prop where
  place : AtStage mode handed read stage
  shape : handed = [] ∨ ∃ rest, handed = .start mode :: rest ∧ ∀ x ∈ rest, x.isStart = false
  noClose : .close ∉ handed
  pre : mode = .tcp → payload handed <+: read
  complete : mode = .tcp → HasEnd handed → read = payload handed
  ordered : mode = .tcp → Ordered handed

namespace HandlerInv
variable {mode : Mode} {stage : Stage} {handed e : List StreamEvent} {read : Bytes} {b last : Bool}

theorem startsFirst (h : HandlerInv mode stage handed read) : StartsFirst handed := by
  rcases h.shape with rfl | ⟨rest, rfl, hrest⟩
  · exact List.Pairwise.nil
  · exact List.pairwise_cons.mpr ⟨hrest, List.pairwise_of_forall_mem_list fun _ _ y hy => hrest y hy⟩

/-- The start that was put is of the handler's mode. -/
theorem mode_eq (h : HandlerInv mode stage handed read) {m : Mode} (hm : .start m ∈ handed) : m = mode := by
  rcases h.shape with rfl | ⟨rest, rfl, hrest⟩
  · cases hm
  · rcases List.mem_cons.mp hm with heq | hm
    · cases heq
      rfl
    · cases hrest _ hm

theorem handed_nil (h : HandlerInv mode stage handed read) (hs : stage.unsent = true) : handed = [] := by
  have hplace := h.place
  cases stage <;> first | exact hplace.1 | cases hs

/-- Nothing has ended while more may follow. -/
theorem noEnd (h : HandlerInv mode stage handed read) (hm : mode = .tcp) (hmore : stage.more = true) :
    ¬ HasEnd handed := by
  have hplace := h.place
  cases stage with
  | fresh =>
    rw [hplace.1]
    exact not_hasEnd_nil
  | submitting e checked =>
    rw [hplace.1]
    exact not_hasEnd_nil
  | awaiting =>
    rw [hplace.2.1]
    rintro ⟨x, hx, hends⟩
    rw [List.mem_singleton.mp hx] at hends
    cases hends
  | running => exact (hplace.2 hm).2
  | sending e last => exact (hplace.2.2 hm).2.2.2
  | _ => cases hmore

/-- Before anything is put. -/
theorem unsent {stage' : Stage} (mode' : Mode) (h : HandlerInv mode stage handed read)
    (hs : stage.unsent = true) (hplace : AtStage mode' [] [] stage') :
    HandlerInv mode' stage' handed read := by
  obtain rfl := h.handed_nil hs
  have hread : read = [] := by
    have hold := h.place
    cases stage <;> first | exact hold.2 | exact hold.2.1 | cases hs
  subst hread
  exact ⟨hplace, .inl rfl, h.noClose, fun _ => List.nil_prefix, fun _ _ => rfl, fun _ => List.Pairwise.nil⟩

/-- A handler that sends no more. What it had begun to read may be lost. -/
theorem retire {stage' : Stage} {lost : Bytes} (h : HandlerInv mode stage handed read)
    (hplace : AtStage mode handed (read ++ lost) stage') (hlost : lost ≠ [] → stage = .running) :
    HandlerInv mode stage' handed (read ++ lost) := by
  refine ⟨hplace, h.shape, h.noClose, fun hm => (h.pre hm).trans (List.prefix_append _ _),
    fun hm he => ?_, h.ordered⟩
  have hnil : lost = [] := by
    by_contra hne
    obtain rfl := hlost hne
    exact h.noEnd hm rfl he
  rw [hnil, List.append_nil]
  exact h.complete hm he

/-- To another stage, with the same put and read. -/
theorem move {stage' : Stage} (h : HandlerInv mode stage handed read)
    (hplace : AtStage mode handed read stage') : HandlerInv mode stage' handed read :=
  ⟨hplace, h.shape, h.noClose, h.pre, h.complete, h.ordered⟩

/-- The Open or HttpRequestStart is put. -/
theorem submitted (h : HandlerInv mode (.submitting e b) handed read) :
    HandlerInv mode (if mode = .tcp then .awaiting else .running) (handed ++ e) read := by
  obtain ⟨rfl, rfl, rfl⟩ := h.place
  refine ⟨?_, .inr ⟨[], rfl, fun _ hx => by cases hx⟩, ?_, fun _ => List.nil_prefix, fun _ _ => rfl,
    fun _ => List.pairwise_singleton _ _⟩
  · split
    · rename_i hm
      exact ⟨hm, rfl, rfl⟩
    · rename_i hm
      exact ⟨⟨_, List.mem_cons_self, rfl⟩, fun ht => absurd ht hm⟩
  · intro hc
    rcases List.mem_cons.mp hc with hc | hc <;> cases hc

/-- A part is put. -/
theorem partPut (h : HandlerInv mode (.sending e last) handed read) :
    HandlerInv mode (if last then .sent else .running) (handed ++ e) read := by
  obtain ⟨hstart, hcarries, htcp⟩ := h.place
  have hstart' : HasStart (handed ++ e) := hasStart_append.mpr (.inl hstart)
  have hwhole : mode = .tcp → read = payload (handed ++ e) := fun hm => by
    rw [payload_append]
    exact (htcp hm).1
  refine ⟨?_, .inr ?_, ?_, fun hm => ?_, fun hm _ => hwhole hm, fun hm => ?_⟩
  · split
    · exact hstart'
    · rename_i hlast
      refine ⟨hstart', fun hm => ⟨hwhole hm, fun hend => ?_⟩⟩
      obtain ⟨_, heof, _, hnoEnd⟩ := htcp hm
      obtain ⟨x, hx, hends⟩ := (hasEnd_append.mp hend).resolve_left hnoEnd
      have hc := hcarries x hx
      cases x with
      | eof => exact hlast (heof hx)
      | close => cases hc
      | _ => cases hends
  · rcases h.shape with rfl | ⟨rest, rfl, hrest⟩
    · exact absurd hstart not_hasStart_nil
    · refine ⟨rest ++ e, rfl, fun x hx => ?_⟩
      rcases List.mem_append.mp hx with hx | hx
      · exact hrest x hx
      · have hc := hcarries x hx
        cases x <;> first | rfl | cases hc
  · intro hc
    rcases List.mem_append.mp hc with hc | hc
    · exact h.noClose hc
    · cases hcarries _ hc
  · rw [hwhole hm]
  · obtain ⟨_, _, hordered, hnoEnd⟩ := htcp hm
    exact (h.ordered hm).append hordered fun hend => absurd hend hnoEnd

/-- A part is made: of what was just read, or the end. -/
theorem partMade {bytes : Bytes} (h : HandlerInv mode .running handed read)
    (hcarries : ∀ x ∈ e, x.carries = true)
    (hm : mode = .tcp → payload e = bytes ∧ (.eof ∈ e → last = true) ∧ Ordered e) :
    HandlerInv mode (.sending e last) handed (read ++ bytes) := by
  obtain ⟨hstart, htcp⟩ := h.place
  refine ⟨⟨hstart, hcarries, fun ht => ?_⟩, h.shape, h.noClose,
    fun ht => (h.pre ht).trans (List.prefix_append _ _), fun ht he => absurd he (htcp ht).2, h.ordered⟩
  obtain ⟨hp, heof, hordered⟩ := hm ht
  exact ⟨by rw [(htcp ht).1, hp], heof, hordered, (htcp ht).2⟩

/-- The answer is a good one. -/
theorem opened (h : HandlerInv mode .awaiting handed read) : HandlerInv mode .running handed read := by
  obtain ⟨_, rfl, rfl⟩ := h.place
  refine h.move ⟨⟨_, List.mem_cons_self, rfl⟩, fun hm => ⟨rfl, h.noEnd hm rfl⟩⟩

end HandlerInv

/-! ### The records of the sessions -/

section Record
variable {f : Nat → List StreamEvent} {e : List StreamEvent} {i k : Nat}

/-- What a longer record keeps holds of a session's record when one has grown. -/
theorem record_kept {P : List StreamEvent → Prop} (hP : ∀ l, P l → P (l ++ e)) (hk : P (f k)) :
    P (Function.update f i (f i ++ e) k) := by
  by_cases hki : k = i
  · subst hki
    rw [Function.update_self]
    exact hP _ hk
  · rw [Function.update_of_ne hki]
    exact hk

theorem hasStart_record_mono (hk : HasStart (f k)) : HasStart (Function.update f i (f i ++ e) k) :=
  record_kept (fun _ hl => hasStart_append.mpr (.inl hl)) hk

theorem hasEnd_record_mono (hk : HasEnd (f k)) : HasEnd (Function.update f i (f i ++ e) k) :=
  record_kept (fun _ hl => hasEnd_append.mpr (.inl hl)) hk

/-- A start was recorded before, or it is in what is recorded now. -/
theorem hasStart_record (hk : HasStart (Function.update f i (f i ++ e) k)) : HasStart (f k) ∨ k = i ∧ HasStart e := by
  by_cases hki : k = i
  · subst hki
    rw [Function.update_self] at hk
    exact (hasStart_append.mp hk).imp_right fun he => ⟨rfl, he⟩
  · rw [Function.update_of_ne hki] at hk
    exact .inl hk

end Record

/-! ### The line -/

structure LineInv (v : LocalView) : Prop where
  future : ∀ k, v.session < k → v.written k = []
  begun : ∀ k, HasStart (v.written k) → HasStart v.handed
  once : ∀ j k, HasStart (v.written j) → HasStart (v.written k) → j = k
  fresh : HasStart v.ahead → ∀ k, ¬ HasStart (v.written k)
  /-- What is lost of what was put is lost at the front. -/
  suffix : flow v.line <:+ v.handed
  pre : ∀ k, HasStart (v.written k) → flow (v.written k) <+: v.handed
  ordered : v.mode = .tcp → Ordered v.line
  past : v.mode = .tcp → ∀ k, Ordered (v.written k)
  control : ∀ x ∈ v.control, x = .close
  closes : v.mode = .tcp → .close ∈ v.line ++ v.control → v.live = false

namespace LineInv
variable {v : LocalView}

/-- What does not touch the line. -/
theorem aside (h : LineInv v) {stage : Stage} {answer : Option Bool} {entry waiter http closed : Bool}
    {received : Nat → List StreamEvent} {socket : LocalSocket} {delivering : Bytes}
    (hlive : v.mode = .tcp → stage.live answer waiter = true → v.live = true) :
    LineInv { v with stage, answer, entry, waiter, http, closed, received, socket, delivering } where
  future := h.future
  begun := h.begun
  once := h.once
  fresh := h.fresh
  suffix := h.suffix
  pre := h.pre
  ordered := h.ordered
  past := h.past
  control := h.control
  closes hm hc := by
    cases hl : stage.live answer waiter with
    | false => exact hl
    | true =>
      have hdead := h.closes hm hc
      rw [hlive hm hl] at hdead
      cases hdead

/-- An end in the line was put by the handler, or the handler goes on no more. -/
theorem no_end (h : LineInv v) (hm : v.mode = .tcp) (hlive : v.live = true) (hend : ¬ HasEnd v.handed) :
    ¬ HasEnd v.line := by
  rintro ⟨x, hx, hends⟩
  by_cases hc : x = .close
  · subst hc
    have hdead := h.closes hm (List.mem_append_left _ hx)
    rw [hlive] at hdead
    cases hdead
  · exact hend ⟨x, h.suffix.subset (mem_flow.mpr ⟨hx, hc⟩), hends⟩

/-- Something is put into the queue. -/
theorem put (h : LineInv v) {stage : Stage} {e : List StreamEvent} (control : List StreamEvent)
    (hstart : HasStart e → ¬ HasStart v.handed)
    (hcarries : v.mode = .tcp → (∃ x ∈ e, x.carries = true) → v.live = true ∧ ¬ HasEnd v.handed)
    (hordered : v.mode = .tcp → Ordered e) (hcontrol : ∀ x ∈ control, x ∈ v.control)
    (hlive : v.mode = .tcp → stage.live v.answer v.waiter = true → v.live = true ∧ .close ∉ e) :
    LineInv { v with stage, handed := v.handed ++ flow e, ahead := v.ahead ++ e, control } := by
  have hline : LocalView.line { v with stage, handed := v.handed ++ flow e, ahead := v.ahead ++ e, control } =
      v.line ++ e := (List.append_assoc _ _ _).symm
  refine ⟨h.future, fun k hk => (h.begun k hk).mono fun x hx => List.mem_append_left _ hx, h.once,
    fun hs k hk => ?_, ?_, fun k hk => (h.pre k hk).trans (List.prefix_append _ _), fun hm => ?_, h.past,
    fun x hx => h.control x (hcontrol x hx), fun hm hc => ?_⟩
  · rcases hasStart_append.mp hs with hs | hs
    · exact h.fresh hs k hk
    · exact hstart hs (h.begun k hk)
  · rw [hline, flow_append]
    obtain ⟨before, hb⟩ := h.suffix
    exact ⟨before, by rw [← List.append_assoc, hb]⟩
  · rw [hline]
    refine (h.ordered hm).append (hordered hm) fun hend y hy => ?_
    by_contra hc
    obtain ⟨hl, hne⟩ := hcarries hm ⟨y, hy, by simpa using hc⟩
    exact h.no_end hm hl hne hend
  · rw [hline, List.append_assoc] at hc
    cases hl : stage.live v.answer v.waiter with
    | false => exact hl
    | true =>
      obtain ⟨hlive, hnot⟩ := hlive hm hl
      have hold : .close ∈ v.line ++ v.control := by
        rcases List.mem_append.mp hc with hc | hc
        · exact List.mem_append_left _ hc
        · rcases List.mem_append.mp hc with hc | hc
          · exact absurd hc hnot
          · exact List.mem_append_right _ (hcontrol _ hc)
      have hdead := h.closes hm hold
      rw [hlive] at hdead
      cases hdead

/-- The session writes. -/
theorem feed (h : LineInv v) {e rest : List StreamEvent} (hopen : v.isOpen = true)
    (hahead : v.ahead = e ++ rest) (hstarts : StartsFirst v.handed) :
    LineInv { v with
      written := Function.update v.written v.session (v.written v.session ++ e), ahead := rest } := by
  have hline : LocalView.line { v with
      written := Function.update v.written v.session (v.written v.session ++ e), ahead := rest } = v.line := by
    simp only [LocalView.line, hopen, if_true, Function.update_self, hahead, List.append_assoc]
  -- A session in which the start is written, now or before.
  have hwritten : ∀ k, HasStart (Function.update v.written v.session (v.written v.session ++ e) k) →
      HasStart (v.written k) ∨ k = v.session ∧ HasStart e := fun k hk => hasStart_record hk
  have hold : HasStart e → ∀ k, ¬ HasStart (v.written k) := fun he =>
    h.fresh (hahead ▸ hasStart_append.mpr (.inl he))
  have hflow : flow (v.written v.session ++ e) <+: flow v.line := by
    refine ⟨flow rest, ?_⟩
    simp only [LocalView.line, hopen, if_true, hahead, flow_append, List.append_assoc]
  have hall : HasStart (v.written v.session ++ e) → flow v.line = v.handed := by
    intro hs
    refine hstarts.suffix h.suffix (hasStart_flow.mpr (hs.mono fun x hx => ?_))
    simp only [LocalView.line, hopen, if_true, hahead]
    rcases List.mem_append.mp hx with hx | hx
    · exact List.mem_append_left _ hx
    · exact List.mem_append_right _ (List.mem_append_left _ hx)
  refine ⟨fun k hk => ?_, fun k hk => ?_, fun j k hj hk => ?_, fun hs k hk => ?_, hline ▸ h.suffix,
    fun k hk => ?_, fun hm => hline ▸ h.ordered hm, fun hm k => ?_, h.control, fun hm hc => ?_⟩
  · show Function.update v.written v.session _ k = []
    rw [Function.update_of_ne (Nat.ne_of_gt hk)]
    exact h.future k hk
  · rcases hwritten k hk with hk | ⟨rfl, he⟩
    · exact h.begun k hk
    · rw [← hall (hasStart_append.mpr (.inr he)), hasStart_flow]
      refine he.mono fun x hx => ?_
      simp only [LocalView.line, hahead]
      exact List.mem_append_right _ (List.mem_append_left _ hx)
  · rcases hwritten j hj with hj | ⟨rfl, he⟩ <;> rcases hwritten k hk with hk | ⟨rfl, he'⟩
    · exact h.once j k hj hk
    · exact absurd hj (hold he' j)
    · exact absurd hk (hold he k)
    · rfl
  · rcases hwritten k hk with hk | ⟨rfl, he⟩
    · exact h.fresh (hahead ▸ hasStart_append.mpr (.inr hs)) k hk
    · have hflows : StartsFirst (flow v.line) := hstarts.sublist h.suffix.sublist
      have hcut : flow v.line = flow (v.written v.session ++ e) ++ flow rest := by
        simp only [LocalView.line, hopen, if_true, hahead, flow_append, List.append_assoc]
      rw [hcut] at hflows
      have hnil := hflows.eq_nil (hasStart_flow.mpr hs)
      rw [flow_append] at hnil
      exact not_hasStart_nil ((List.append_eq_nil_iff.mp hnil).2 ▸ hasStart_flow.mpr he)
  · by_cases hks : k = v.session
    · subst hks
      have hk : HasStart (Function.update v.written v.session (v.written v.session ++ e) v.session) := hk
      show flow (Function.update v.written v.session _ v.session) <+: _
      rw [Function.update_self] at hk ⊢
      rw [← hall hk]
      exact hflow
    · have hk : HasStart (Function.update v.written v.session (v.written v.session ++ e) k) := hk
      show flow (Function.update v.written v.session _ k) <+: _
      rw [Function.update_of_ne hks] at hk ⊢
      exact h.pre k hk
  · show Ordered (Function.update v.written v.session _ k)
    by_cases hks : k = v.session
    · subst hks
      rw [Function.update_self]
      refine (h.ordered hm).sublist ?_
      simp only [LocalView.line, hopen, if_true, hahead, ← List.append_assoc]
      exact List.sublist_append_left _ _
    · rw [Function.update_of_ne hks]
      exact h.past hm k
  · rw [hline] at hc
    exact h.closes hm hc

/-- What waits is lost from the front, or a session ends or opens. -/
theorem cut (h : LineInv v) {ahead control : List StreamEvent} {closed isOpen : Bool} {session : Nat}
    {delivering : Bytes} (hsession : v.session ≤ session) (hahead : ahead <:+ v.ahead)
    (hline : (if isOpen then v.written session else []) ++ ahead <:+ v.line)
    (hcontrol : ∀ x ∈ control, x ∈ v.control) :
    LineInv { v with closed, isOpen, session, ahead, control, delivering } where
  future k hk := h.future k (Nat.lt_of_le_of_lt hsession hk)
  begun := h.begun
  once := h.once
  fresh hs := h.fresh (hs.mono fun _ hx => hahead.subset hx)
  suffix := by
    obtain ⟨before, hb⟩ := hline
    have hflow : flow ((if isOpen then v.written session else []) ++ ahead) <:+ flow v.line :=
      ⟨flow before, by rw [← flow_append, hb]⟩
    exact hflow.trans h.suffix
  pre := h.pre
  ordered hm := (h.ordered hm).sublist hline.sublist
  past := h.past
  control x hx := h.control x (hcontrol x hx)
  closes hm hc := by
    refine h.closes hm ?_
    rcases List.mem_append.mp hc with hc | hc
    · exact List.mem_append_left _ (hline.subset hc)
    · exact List.mem_append_right _ (hcontrol _ hc)

/-- The session task waits to send a Close. -/
theorem waitClose (h : LineInv v) (hlive : v.mode = .tcp → v.live = false) :
    LineInv { v with control := [.close] } :=
  ⟨h.future, h.begun, h.once, h.fresh, h.suffix, h.pre, h.ordered, h.past,
    fun _ hx => List.mem_singleton.mp hx, fun hm _ => hlive hm⟩

end LineInv

/-! ### The tables -/

/-- Nothing has come of the stream yet. -/
structure LocalView.Untouched (v : LocalView) : Prop where
  answer : v.answer = none
  entry : v.entry = false
  waiter : v.waiter = false
  http : v.http = false
  ahead : v.ahead = []
  control : v.control = []
  written : ∀ k, v.written k = []

structure TableInv (v : LocalView) : Prop where
  answered : ∀ k, v.received k ≠ [] → HasStart (v.written k)
  opened : v.mode = .tcp → v.answer = some true ∨ v.stage.past = true → ∃ k, HasStart (v.received k)
  carried : v.mode = .tcp → (∃ x ∈ v.handed, x.carries = true) → ∃ k, HasStart (v.received k)
  tcp : v.entry = true ∨ v.waiter = true → v.mode = .tcp
  http : v.http = true → v.mode = .http
  fresh : v.stage = .fresh → v.Untouched
  /-- A waiter goes with its channel's entry, unless the gateway has ended its side. -/
  waiting : v.mode = .tcp → v.waiter = true → v.stage ≠ .gone →
    v.entry = true ∨ ∃ k, HasEnd (v.received k)
  /-- In its session a stream keeps the entry until one of the sides has ended. -/
  entered : v.mode = .tcp → v.closed = false → HasStart (v.written v.session) → v.live = true →
    v.entry = true ∨ HasEnd (v.received v.session)
  /-- An entry of a closed connection is that of a stream still to be checked. -/
  late : v.entry = true → v.closed = true →
    v.handed = [] ∧ (v.stage = .gone ∨ ∃ e, v.stage = .submitting e false)
  arrived : ∃ k, v.socket.arrived ++ v.delivering <+: payload (v.received k)
  /-- While the entry is there, all that came has arrived. -/
  whole : v.entry = true → v.isOpen = true →
    v.socket.arrived ++ v.delivering = payload (v.received v.session)
  idle : v.isOpen = false → v.control = [] ∧ v.delivering = []

structure LocalInv (v : LocalView) : Prop where
  handler : HandlerInv v.mode v.stage v.handed v.socket.read
  line : LineInv v
  table : TableInv v

/-- Events of the gateway: only for a stream whose start it was sent, and no data behind an end. -/
structure LocalView.Answers (v : LocalView) (e : List StreamEvent) : Prop where
  started : v.received v.session ++ e ≠ [] → HasStart (v.written v.session)
  ordered : .start .tcp ∈ v.written v.session → Ordered (v.received v.session ++ e)

namespace LocalInv
variable {v : LocalView}

/-- Nothing comes back for a stream that was not written. -/
theorem received_nil (h : LocalInv v) (hw : ∀ k, ¬ HasStart (v.written k)) (k : Nat) : v.received k = [] := by
  by_contra hne
  exact hw k (h.table.answered k hne)

theorem arrived_nil (h : LocalInv v) (hw : ∀ k, ¬ HasStart (v.written k)) :
    v.socket.arrived = [] ∧ v.delivering = [] := by
  obtain ⟨k, hk⟩ := h.table.arrived
  rw [h.received_nil hw k] at hk
  exact List.append_eq_nil_iff.mp (List.prefix_nil.mp hk)

theorem not_written (h : LocalInv v) (hnil : v.handed = []) (k : Nat) : ¬ HasStart (v.written k) := by
  intro hk
  have hs := h.line.begun k hk
  rw [hnil] at hs
  exact not_hasStart_nil hs

/-- An HTTP stream has no entry among the TCP streams. -/
theorem entry_of_http (h : LocalInv v) (hhttp : v.http = true) : v.entry = false := by
  by_contra hentry
  have hmode := (h.table.http hhttp).symm.trans (h.table.tcp (.inl (by simpa using hentry)))
  cases hmode

/-- A TCP handler past the answer has one. -/
theorem not_late (h : LocalInv v) (hentry : v.entry = true) (hclosed : v.closed = true)
    (hgone : v.stage ≠ .gone) : ∃ e, v.stage = .submitting e false :=
  (h.table.late hentry hclosed).2.resolve_left hgone

/-! ### The steps of the handler -/

/-- A step that the stream's events know nothing of. -/
theorem same (h : LocalInv v) {stage : Stage} {answer : Option Bool} (hs : stage = v.stage)
    (ha : answer = v.answer) : LocalInv { v with stage, answer } := by
  subst hs ha
  exact h

theorem start (h : LocalInv v) (hs : v.stage = .fresh) (mode : Mode) : LocalInv { v with mode } := by
  have hfresh := h.table.fresh hs
  have hhandler := h.handler
  rw [hs] at hhandler
  have hline : LocalView.line { v with mode } = [] := by
    simp only [LocalView.line, hfresh.written, hfresh.ahead, ite_self, List.append_nil]
  refine ⟨?_, ?_, ?_⟩
  · show HandlerInv mode v.stage v.handed v.socket.read
    rw [hs]
    exact hhandler.unsent mode rfl ⟨rfl, rfl⟩
  · exact { h.line with
      ordered := fun _ => by rw [hline]; exact List.Pairwise.nil
      past := fun _ k => by
        show Ordered (v.written k)
        rw [hfresh.written]
        exact List.Pairwise.nil
      closes := fun _ hc => by
        have hc : StreamEvent.close ∈ LocalView.line { v with mode } ++ v.control := hc
        rw [hline, hfresh.control] at hc
        cases hc }
  · have hnone : ∀ k, ¬ HasStart (v.written k) := fun k => by
      rw [hfresh.written]
      exact not_hasStart_nil
    exact { h.table with
      opened := fun _ ho => by
        rcases ho with ho | ho
        · have ho : v.answer = some true := ho
          rw [hfresh.answer] at ho
          cases ho
        · have ho : v.stage.past = true := ho
          rw [hs] at ho
          cases ho
      carried := fun _ hc => by
        obtain ⟨x, hx, _⟩ := hc
        have hx : x ∈ v.handed := hx
        rw [hhandler.handed_nil rfl] at hx
        cases hx
      tcp := fun ht => by
        have ht : v.entry = true ∨ v.waiter = true := ht
        rw [hfresh.entry, hfresh.waiter] at ht
        rcases ht with ht | ht <;> cases ht
      http := fun ht => by
        have ht : v.http = true := ht
        rw [hfresh.http] at ht
        cases ht
      fresh := fun _ => ⟨hfresh.answer, hfresh.entry, hfresh.waiter, hfresh.http, hfresh.ahead,
        hfresh.control, hfresh.written⟩
      waiting := fun _ hw => by
        have hw : v.waiter = true := hw
        rw [hfresh.waiter] at hw
        cases hw
      entered := fun _ _ hw => absurd hw (hnone _) }

/-- The waiter and the channel, or the HTTP entries, are registered. -/
theorem register (h : LocalInv v) (hs : v.stage = .fresh) {entry waiter http : Bool}
    (hentry : entry = decide (v.mode = .tcp)) (hwaiter : waiter = decide (v.mode = .tcp))
    (hhttp : http = decide (v.mode = .http)) :
    LocalInv { v with stage := .submitting [.start v.mode] false, entry, waiter, http } := by
  subst hentry hwaiter hhttp
  have hfresh := h.table.fresh hs
  have hhandler := h.handler
  rw [hs] at hhandler
  have hnil : v.handed = [] := hhandler.handed_nil rfl
  have hnone := h.not_written hnil
  refine ⟨hhandler.unsent v.mode rfl ⟨rfl, rfl, rfl⟩, h.line.aside fun _ _ => ?_, ?_⟩
  · simp only [LocalView.live, hs, Stage.live]
  · exact { h.table with
      opened := fun _ ho => by
        rcases ho with ho | ho
        · have ho : v.answer = some true := ho
          rw [hfresh.answer] at ho
          cases ho
        · cases ho
      tcp := fun ht => by simpa using ht
      http := fun ht => by simpa using ht
      fresh := fun he => by cases he
      waiting := fun hm _ _ => .inl (decide_eq_true hm)
      entered := fun _ _ hw => absurd hw (hnone _)
      late := fun _ _ => ⟨hnil, .inr ⟨_, rfl⟩⟩
      whole := fun _ _ => by
        obtain ⟨harrived, hdelivering⟩ := h.arrived_nil hnone
        show v.socket.arrived ++ v.delivering = payload (v.received v.session)
        rw [harrived, hdelivering, h.received_nil hnone]
        rfl }

/-- The stage changes, and nothing else that the tables know of. -/
theorem table_move (h : LocalInv v) {stage : Stage} {socket : LocalSocket}
    (hsocket : socket.arrived = v.socket.arrived)
    (hopened : v.mode = .tcp → stage.past = true → v.answer = some true ∨ v.stage.past = true)
    (hfresh : stage ≠ .fresh) (hgone : v.stage = .gone → stage = .gone)
    (hlive : v.mode = .tcp → stage.live v.answer v.waiter = true → v.live = true)
    (hlate : v.entry = true → v.closed = true → v.handed = [] →
      stage = .gone ∨ ∃ e, stage = .submitting e false) :
    TableInv { v with stage, socket } :=
  { h.table with
    opened := fun hm ho => by
      rcases ho with ho | ho
      · exact h.table.opened hm (.inl ho)
      · exact h.table.opened hm (hopened hm ho)
    fresh := fun he => absurd he hfresh
    waiting := fun hm hw hne => h.table.waiting hm hw fun hg => hne (hgone hg)
    entered := fun hm hc hw hl => h.table.entered hm hc hw (hlive hm hl)
    late := fun he hc => by
      obtain ⟨hnil, _⟩ := h.table.late he hc
      exact ⟨hnil, hlate he hc hnil⟩
    arrived := by
      show ∃ k, socket.arrived ++ v.delivering <+: payload (v.received k)
      rw [hsocket]
      exact h.table.arrived
    whole := fun he ho => by
      show socket.arrived ++ v.delivering = payload (v.received v.session)
      rw [hsocket]
      exact h.table.whole he ho }

/-- The check of the first message has passed. -/
theorem checked (h : LocalInv v) {e : List StreamEvent} {b : Bool} (hs : v.stage = .submitting e b)
    (hopen : v.closed = false) : LocalInv { v with stage := .submitting e true } := by
  have hlive : ∀ b, (Stage.submitting e b).live v.answer v.waiter = v.live := fun b => by
    simp only [LocalView.live, hs, Stage.live]
  refine ⟨h.handler.move ?_, h.line.aside fun _ hl => (hlive true).symm.trans hl,
    h.table_move rfl (fun _ hp => by cases hp) (fun he => by cases he) ?_
      (fun _ hl => (hlive true).symm.trans hl) fun _ hc => ?_⟩
  · have hplace := h.handler.place
    rw [hs] at hplace
    exact hplace
  · rw [hs]
    exact fun hg => by cases hg
  · rw [hopen] at hc
    cases hc

/-- The local end is refused, and forwarding goes on. -/
theorem refusedEnd (h : LocalInv v) {e : List StreamEvent} {last : Bool}
    (hs : v.stage = .sending e last) : LocalInv { v with stage := .sent } := by
  refine ⟨h.handler.move ?_, h.line.aside fun _ hl => (by cases hl),
    h.table_move rfl (fun _ _ => .inr (by rw [hs]; rfl)) (fun he => by cases he) ?_
      (fun _ hl => by cases hl) fun he hc _ => ?_⟩
  · have hplace := h.handler.place
    rw [hs] at hplace
    exact hplace.1
  · rw [hs]
    exact fun hg => by cases hg
  · obtain ⟨e', he'⟩ := h.not_late he hc (by rw [hs]; exact fun hg => by cases hg)
    rw [hs] at he'
    cases he'

/-- The handler sends no data any more. -/
theorem retire (h : LocalInv v) {stage : Stage} {entry waiter http : Bool} {lost : Bytes}
    (hstage : stage = .gone ∨ stage = .closing [.close] ∧ entry = false ∧ waiter = false)
    (hentry : entry = true → v.entry = true) (hwaiter : waiter = true → v.waiter = true)
    (hhttp : http = true → v.http = true) (hlost : lost ≠ [] → v.stage = .running) :
    LocalInv { v with
      stage, entry, waiter, http, socket := { v.socket with read := v.socket.read ++ lost } } := by
  have hdead : ∀ answer waiter, stage.live answer waiter = false := by
    rcases hstage with rfl | ⟨rfl, _⟩ <;> exact fun _ _ => rfl
  refine ⟨h.handler.retire ?_ hlost, h.line.aside fun _ hl => ?_, ?_⟩
  · rcases hstage with rfl | ⟨rfl, _⟩
    · trivial
    · rfl
  · rw [hdead] at hl
    cases hl
  · exact { h.table with
      opened := fun hm ho => by
        rcases ho with ho | ho
        · exact h.table.opened hm (.inl ho)
        · rcases hstage with rfl | ⟨rfl, _⟩ <;> cases ho
      tcp := fun ht => h.table.tcp (ht.imp (fun ht => hentry ht) (fun ht => hwaiter ht))
      http := fun ht => h.table.http (hhttp ht)
      fresh := fun he => by rcases hstage with rfl | ⟨rfl, _⟩ <;> cases he
      waiting := fun _ hw hne => by
        rcases hstage with rfl | ⟨_, _, hno⟩
        · exact absurd rfl hne
        · have hw : waiter = true := hw
          rw [hno] at hw
          cases hw
      entered := fun _ _ _ hl => by
        have hl : stage.live v.answer waiter = true := hl
        rw [hdead] at hl
        cases hl
      late := fun he hc => by
        rcases hstage with rfl | ⟨_, hno, _⟩
        · exact ⟨(h.table.late (hentry he) hc).1, .inl rfl⟩
        · have he : entry = true := he
          rw [hno] at he
          cases he
      whole := fun he ho => h.table.whole (hentry he) ho }

/-- The answer is a good one. -/
theorem opened (h : LocalInv v) (hs : v.stage = .awaiting) (ha : v.answer = some true) :
    LocalInv { v with stage := .running } := by
  have hlive : v.live = true := by
    simp only [LocalView.live, hs, Stage.live, ha, true_or, decide_true]
  have hhandler := h.handler
  rw [hs] at hhandler
  refine ⟨hhandler.opened, h.line.aside fun _ _ => hlive,
    h.table_move rfl (fun _ _ => .inl ha) (fun he => by cases he) ?_ (fun _ _ => hlive) fun he hc _ => ?_⟩
  · rw [hs]
    exact fun hg => by cases hg
  · obtain ⟨e', he'⟩ := h.not_late he hc (by rw [hs]; exact fun hg => by cases hg)
    rw [hs] at he'
    cases he'

/-- A part is made: of what was just read, or the end. -/
theorem partMade (h : LocalInv v) (hs : v.stage = .running) {e : List StreamEvent} {last : Bool}
    {bytes : Bytes} (hcarries : ∀ x ∈ e, x.carries = true)
    (hm : v.mode = .tcp → payload e = bytes ∧ (.eof ∈ e → last = true) ∧ Ordered e) :
    LocalInv { v with
      stage := .sending e last, socket := { v.socket with read := v.socket.read ++ bytes } } := by
  have hlive : v.live = true := by simp only [LocalView.live, hs, Stage.live]
  have hhandler := h.handler
  rw [hs] at hhandler
  refine ⟨hhandler.partMade hcarries hm, h.line.aside fun _ _ => hlive,
    h.table_move rfl (fun _ _ => .inr (by rw [hs]; rfl)) (fun he => by cases he) ?_ (fun _ _ => hlive)
      fun he hc _ => ?_⟩
  · rw [hs]
    exact fun hg => by cases hg
  · obtain ⟨e', he'⟩ := h.not_late he hc (by rw [hs]; exact fun hg => by cases hg)
    rw [hs] at he'
    cases he'

/-- The Open or HttpRequestStart is put. -/
theorem submitPut (h : LocalInv v) {e : List StreamEvent} (hs : v.stage = .submitting e true) :
    LocalInv { v with
      stage := if v.mode = .tcp then .awaiting else .running
      handed := v.handed ++ flow e, ahead := v.ahead ++ e } := by
  have hhandler := h.handler
  rw [hs] at hhandler
  obtain ⟨hnil, _, rfl⟩ := hhandler.place
  refine ⟨hhandler.submitted, h.line.put v.control (fun _ hs => ?_) ?_ (fun _ => List.pairwise_singleton _ _)
    (fun _ hx => hx) fun hm hl => ?_, ?_⟩
  · rw [hnil] at hs
    exact not_hasStart_nil hs
  · rintro _ ⟨x, hx, hc⟩
    rw [List.mem_singleton.mp hx] at hc
    cases hc
  · rw [if_pos hm] at hl
    refine ⟨?_, fun hc => ?_⟩
    · simp only [LocalView.live, hs]
      exact hl
    · rcases List.mem_cons.mp hc with hc | hc <;> cases hc
  · exact { h.table with
      opened := fun hm ho => by
        rcases ho with ho | ho
        · exact h.table.opened hm (.inl ho)
        · have hm : v.mode = .tcp := hm
          have ho : (if v.mode = .tcp then Stage.awaiting else .running).past = true := ho
          rw [if_pos hm] at ho
          cases ho
      carried := fun _ hc => by
        obtain ⟨x, hx, hc⟩ := hc
        have hx : x ∈ v.handed ++ [.start v.mode] := hx
        rw [hnil, List.nil_append, List.mem_singleton] at hx
        rw [hx] at hc
        cases hc
      fresh := fun he => by
        have he : (if v.mode = .tcp then Stage.awaiting else .running) = .fresh := he
        split at he <;> cases he
      waiting := fun hm hw _ => h.table.waiting hm hw (by rw [hs]; exact fun hg => by cases hg)
      entered := fun _ _ hw => absurd hw (h.not_written hnil _)
      late := fun he hc => by
        obtain ⟨e', he'⟩ := h.not_late he hc (by rw [hs]; exact fun hg => by cases hg)
        rw [hs] at he'
        cases he' }

/-- A part is put. -/
theorem partPut (h : LocalInv v) {e : List StreamEvent} {last : Bool} (hs : v.stage = .sending e last) :
    LocalInv { v with
      stage := if last then .sent else .running
      handed := v.handed ++ flow e, ahead := v.ahead ++ e } := by
  have hhandler := h.handler
  rw [hs] at hhandler
  obtain ⟨hstart, hcarries, htcp⟩ := hhandler.place
  have hlive : v.live = true := by simp only [LocalView.live, hs, Stage.live]
  have hclose : StreamEvent.close ∉ e := fun hc => by cases hcarries _ hc
  refine ⟨?_, h.line.put v.control (fun he => ?_) (fun hm _ => ⟨hlive, (htcp hm).2.2.2⟩)
    (fun hm => (htcp hm).2.2.1) (fun _ hx => hx) fun _ _ => ⟨hlive, hclose⟩, ?_⟩
  · show HandlerInv v.mode (if last then .sent else .running) (v.handed ++ flow e) v.socket.read
    rw [flow_eq_self hclose]
    exact hhandler.partPut
  · obtain ⟨x, hx, hstarts⟩ := he
    have hc := hcarries x hx
    cases x <;> first | (cases hc; done) | cases hstarts
  · exact { h.table with
      opened := fun hm _ => h.table.opened hm (.inr (by rw [hs]; rfl))
      carried := fun hm _ => h.table.opened hm (.inr (by rw [hs]; rfl))
      fresh := fun he => by
        have he : (if last then Stage.sent else .running) = .fresh := he
        split at he <;> cases he
      waiting := fun hm hw _ => h.table.waiting hm hw (by rw [hs]; exact fun hg => by cases hg)
      entered := fun hm hc hw _ => h.table.entered hm hc hw hlive
      late := fun he hc => by
        obtain ⟨e', he'⟩ := h.not_late he hc (by rw [hs]; exact fun hg => by cases hg)
        rw [hs] at he'
        cases he' }

/-- The handler's Close is put. -/
theorem closePut (h : LocalInv v) {e : List StreamEvent} (hs : v.stage = .closing e) :
    LocalInv { v with stage := .gone, handed := v.handed ++ flow e, ahead := v.ahead ++ e } := by
  have hhandler := h.handler
  rw [hs] at hhandler
  obtain rfl := hhandler.place
  refine ⟨?_, h.line.put v.control (fun he => ?_) ?_ (fun _ => List.pairwise_singleton _ _)
    (fun _ hx => hx)
    fun _ hl => (by cases hl), ?_⟩
  · show HandlerInv v.mode .gone (v.handed ++ []) v.socket.read
    rw [List.append_nil]
    exact hhandler.move trivial
  · obtain ⟨x, hx, hstart⟩ := he
    rw [List.mem_singleton.mp hx] at hstart
    cases hstart
  · rintro _ ⟨x, hx, hc⟩
    rw [List.mem_singleton.mp hx] at hc
    cases hc
  · exact { h.table with
      opened := fun hm ho => h.table.opened hm (ho.imp_right fun ho => by cases ho)
      carried := fun hm hc => by
        have hc : ∃ x ∈ v.handed ++ [], x.carries = true := hc
        rw [List.append_nil] at hc
        exact h.table.carried hm hc
      fresh := fun he => by cases he
      waiting := fun _ _ hne => absurd rfl hne
      entered := fun _ _ _ hl => by cases hl
      late := fun he hc => by
        obtain ⟨e', he'⟩ := h.not_late he hc (by rw [hs]; exact fun hg => by cases hg)
        rw [hs] at he'
        cases he' }

/-! ### The steps of the sessions -/

/-- The session writes. -/
theorem feed (h : LocalInv v) {e rest : List StreamEvent} (hopen : v.isOpen = true)
    (hahead : v.ahead = e ++ rest) :
    LocalInv { v with
      written := Function.update v.written v.session (v.written v.session ++ e), ahead := rest } := by
  refine ⟨h.handler, h.line.feed hopen hahead h.handler.startsFirst, { h.table with
    answered := fun k hk => hasStart_record_mono (h.table.answered k hk)
    fresh := fun hs => ?_
    entered := fun hm hc hw hl => ?_ }⟩
  · obtain ⟨answer, entry, waiter, http, hnil, control, hwritten⟩ := h.table.fresh hs
    rw [hahead] at hnil
    obtain ⟨rfl, rfl⟩ := List.append_eq_nil_iff.mp hnil
    refine ⟨answer, entry, waiter, http, rfl, control, fun k => ?_⟩
    show Function.update v.written v.session (v.written v.session ++ []) k = []
    rw [List.append_nil, Function.update_eq_self]
    exact hwritten k
  · have hw : HasStart (Function.update v.written v.session (v.written v.session ++ e) v.session) := hw
    rw [Function.update_self] at hw
    rcases hasStart_append.mp hw with hw | he
    · exact h.table.entered hm hc hw hl
    · -- The start is written now: nothing has come back, and a live handler still waits.
      have hnone := h.line.fresh (hahead ▸ hasStart_append.mpr (.inl he))
      have hnever : ∀ k, ¬ HasStart (v.received k) := fun k => by
        rw [h.received_nil hnone k]
        exact not_hasStart_nil
      have hnotOpened : ¬ (v.answer = some true ∨ v.stage.past = true) := fun ho => by
        obtain ⟨k, hk⟩ := h.table.opened hm ho
        exact hnever k hk
      have hwaits : v.waiter = true → v.stage ≠ .gone → v.entry = true := fun hwaiter hgone => by
        refine (h.table.waiting hm hwaiter hgone).resolve_right fun hend => ?_
        obtain ⟨k, hk⟩ := hend
        rw [h.received_nil hnone k] at hk
        exact not_hasEnd_nil hk
      have hl : v.stage.live v.answer v.waiter = true := hl
      left
      show v.entry = true
      cases hs : v.stage with
      | fresh =>
        have hnil := (h.table.fresh hs).ahead
        rw [hahead] at hnil
        rw [(List.append_eq_nil_iff.mp hnil).1] at he
        exact absurd he not_hasStart_nil
      | submitting e' b =>
        rw [hs] at hl
        simp only [Stage.live, decide_eq_true_eq] at hl
        rcases hl with hl | ⟨_, hl⟩
        · exact absurd (.inl hl) hnotOpened
        · exact hwaits hl (by rw [hs]; exact fun hg => by cases hg)
      | awaiting =>
        rw [hs] at hl
        simp only [Stage.live, decide_eq_true_eq] at hl
        rcases hl with hl | ⟨_, hl⟩
        · exact absurd (.inl hl) hnotOpened
        · exact hwaits hl (by rw [hs]; exact fun hg => by cases hg)
      | running => exact absurd (.inr (by rw [hs]; rfl)) hnotOpened
      | sending e' last => exact absurd (.inr (by rw [hs]; rfl)) hnotOpened
      | _ =>
        rw [hs] at hl
        cases hl

/-- The queue loses its front, or the session ends. -/
theorem lose (h : LocalInv v) {rest : List StreamEvent} (hrest : rest <:+ v.ahead) :
    LocalInv { v with isOpen := false, ahead := rest, control := [], delivering := [] } := by
  refine ⟨h.handler, h.line.cut (Nat.le_refl _) hrest ?_ fun _ hx => (by cases hx), { h.table with
    fresh := fun hs => ?_
    arrived := ?_
    whole := fun _ ho => by cases ho
    idle := fun _ => ⟨rfl, rfl⟩ }⟩
  · exact hrest.trans (List.suffix_append _ _)
  · obtain ⟨answer, entry, waiter, http, hnil, _, hwritten⟩ := h.table.fresh hs
    rw [hnil] at hrest
    exact ⟨answer, entry, waiter, http, List.suffix_nil.mp hrest, rfl, hwritten⟩
  · obtain ⟨k, hk⟩ := h.table.arrived
    refine ⟨k, ?_⟩
    show v.socket.arrived ++ [] <+: payload (v.received k)
    rw [List.append_nil]
    exact (List.prefix_append _ _).trans hk

/-- The connection is closed, and who waits is told. -/
theorem close (h : LocalInv v) {answer : Option Bool}
    (hanswer : answer = v.answer ∨ v.answer = none ∧ answer = some false ∧ (v.waiter = true ∨ v.http = true)) :
    LocalInv { v with closed := true, entry := false, waiter := false, http := false, answer } := by
  have hgood : answer = some true → v.answer = some true := by
    rcases hanswer with rfl | ⟨_, rfl, _⟩
    · exact id
    · exact fun ha => by cases ha
  have hlive : v.stage.live answer false = true → v.live = true := by
    unfold LocalView.live
    cases v.stage with
    | submitting e b =>
      simp only [Stage.live, decide_eq_true_eq]
      exact fun hl => hl.elim (fun ha => .inl (hgood ha)) fun hw => by cases hw.2
    | awaiting =>
      simp only [Stage.live, decide_eq_true_eq]
      exact fun hl => hl.elim (fun ha => .inl (hgood ha)) fun hw => by cases hw.2
    | _ => exact fun hl => hl
  refine ⟨h.handler, h.line.aside fun _ => hlive, { h.table with
    opened := fun hm ho => h.table.opened hm (ho.imp_left fun ha => hgood ha)
    tcp := fun ht => by rcases ht with ht | ht <;> cases ht
    http := fun ht => by cases ht
    fresh := fun hs => ?_
    waiting := fun _ hw => by cases hw
    entered := fun _ hc => by cases hc
    late := fun he => by cases he
    whole := fun he => by cases he }⟩
  obtain ⟨hnone, _, hwaiter, hhttp, ahead, control, hwritten⟩ := h.table.fresh hs
  refine ⟨?_, rfl, rfl, rfl, ahead, control, hwritten⟩
  rcases hanswer with rfl | ⟨_, _, hw | hw⟩
  · exact hnone
  · rw [hwaiter] at hw
    cases hw
  · rw [hhttp] at hw
    cases hw

/-- The next session opens. -/
theorem connect (h : LocalInv v) (hopen : v.isOpen = false) (hclosed : v.closed = true) :
    LocalInv { v with closed := false, isOpen := true, session := v.session + 1 } := by
  obtain ⟨hcontrol, hdelivering⟩ := h.table.idle hopen
  have hnew : v.written (v.session + 1) = [] := h.line.future _ (Nat.lt_succ_self _)
  have hreceived : v.received (v.session + 1) = [] := by
    by_contra hne
    have hs := h.table.answered _ hne
    rw [hnew] at hs
    exact not_hasStart_nil hs
  refine ⟨h.handler, h.line.cut (Nat.le_succ _) (List.suffix_refl _) ?_ (fun _ hx => hx), { h.table with
    fresh := fun hs => ?_
    entered := fun _ _ hw => ?_
    late := fun _ hc => by cases hc
    whole := fun he _ => ?_
    idle := fun ho => by cases ho }⟩
  · simp only [LocalView.line, hopen, hnew, if_true, List.nil_append]
    exact List.suffix_refl _
  · obtain ⟨answer, entry, waiter, http, ahead, control, hwritten⟩ := h.table.fresh hs
    exact ⟨answer, entry, waiter, http, ahead, control, hwritten⟩
  · have hw : HasStart (v.written (v.session + 1)) := hw
    rw [hnew] at hw
    exact absurd hw not_hasStart_nil
  · show v.socket.arrived ++ v.delivering = payload (v.received (v.session + 1))
    obtain ⟨harrived, hnil⟩ := h.arrived_nil (h.not_written (h.table.late he hclosed).1)
    rw [harrived, hnil, hreceived]
    rfl

/-- The session task puts a Close, at once or after it has waited. -/
theorem controlPut (h : LocalInv v) {e control : List StreamEvent} (hopen : v.isOpen = true)
    (he : ∀ x ∈ e, x = .close) (hcontrol : ∀ x ∈ control, x ∈ v.control)
    (hfresh : v.stage = .fresh → e = []) (hlive : v.mode = .tcp → e ≠ [] → v.live = false) :
    LocalInv { v with ahead := v.ahead ++ e, control } := by
  have hflow : flow e = [] := by
    rw [flow, List.filter_eq_nil_iff]
    intro x hx
    rw [he x hx]
    simp
  have hline : LineInv { v with handed := v.handed ++ flow e, ahead := v.ahead ++ e, control } := by
    refine h.line.put control (fun hs => ?_) (fun hm hc => ?_) (fun hm => ?_) hcontrol (fun hm hl => ?_)
    · obtain ⟨x, hx, hstart⟩ := hs
      rw [he x hx] at hstart
      cases hstart
    · obtain ⟨x, hx, hc⟩ := hc
      rw [he x hx] at hc
      cases hc
    · apply List.pairwise_of_forall_mem_list
      intro x _ y hy _
      rw [he y hy]
      rfl
    · refine ⟨hl, fun hc => ?_⟩
      have hdead := hlive hm (List.ne_nil_of_mem hc)
      have hl : v.live = true := hl
      rw [hdead] at hl
      cases hl
  · rw [hflow, List.append_nil] at hline
    refine ⟨h.handler, hline, { h.table with
      fresh := fun hs => ?_
      idle := fun ho => ?_ }⟩
    · obtain ⟨answer, entry, waiter, http, ahead, hnone, hwritten⟩ := h.table.fresh hs
      refine ⟨answer, entry, waiter, http, ?_, ?_, hwritten⟩
      · show v.ahead ++ e = []
        rw [ahead, hfresh hs]
        rfl
      · rw [hnone] at hcontrol
        exact List.eq_nil_iff_forall_not_mem.mpr fun x hx => by cases hcontrol x hx
    · have ho : v.isOpen = false := ho
      rw [hopen] at ho
      cases ho

/-- The session task waits to put a Close. -/
theorem waitClose (h : LocalInv v) (hopen : v.isOpen = true) (hfresh : v.stage ≠ .fresh)
    (hlive : v.mode = .tcp → v.live = false) : LocalInv { v with control := [.close] } :=
  ⟨h.handler, h.line.waitClose hlive, { h.table with
    fresh := fun hs => absurd hs hfresh
    idle := fun ho => by
      have ho : v.isOpen = false := ho
      rw [hopen] at ho
      cases ho }⟩

/-! ### What comes back -/

/-- A message or a data frame is handled: entries go, and an answer or data come. -/
theorem receive (h : LocalInv v) {e : List StreamEvent} {entry waiter http : Bool} {answer : Option Bool}
    {delivering : Bytes} (hopen : v.isOpen = true) (hidle : v.delivering = []) (ha : v.Answers e)
    (hentry : entry = true → v.entry = true ∧ delivering = payload e)
    (hnone : entry = false → delivering = [] ∧ (v.entry = true → HasEnd e))
    (hwaiter : waiter = true → v.waiter = true) (hhttp : http = true → v.http = true)
    (hanswer : answer = v.answer ∨ v.answer = none ∧ (v.waiter = true ∨ v.http = true) ∧
      (v.mode = .tcp → answer = some true → v.waiter = true ∧ HasStart e)) :
    LocalInv { v with
      entry, waiter, http, answer, delivering
      received := Function.update v.received v.session (v.received v.session ++ e) } := by
  have hself : Function.update v.received v.session (v.received v.session ++ e) v.session =
      v.received v.session ++ e := Function.update_self _ _ _
  have hgone : v.entry = true → entry = true ∨
      HasEnd (Function.update v.received v.session (v.received v.session ++ e) v.session) := by
    intro hold
    cases hb : entry with
    | true => exact .inl rfl
    | false =>
      rw [hself]
      exact .inr (hasEnd_append.mpr (.inr ((hnone hb).2 hold)))
  have hlive : v.mode = .tcp → v.stage.live answer waiter = true → v.live = true := by
    intro hm
    have key : (answer = some true ∨ answer = none ∧ waiter = true) →
        v.answer = some true ∨ v.answer = none ∧ v.waiter = true := by
      intro hl
      rcases hanswer with rfl | ⟨hnil, _, hgood⟩
      · exact hl.imp_right fun hw => ⟨hw.1, hwaiter hw.2⟩
      · exact .inr ⟨hnil, hl.elim (fun ha => (hgood hm ha).1) fun hw => hwaiter hw.2⟩
    unfold LocalView.live
    cases v.stage with
    | submitting e b => simpa only [Stage.live, decide_eq_true_eq] using key
    | awaiting => simpa only [Stage.live, decide_eq_true_eq] using key
    | _ => exact fun hl => hl
  have hexact : v.entry = true → delivering = payload e → v.socket.arrived ++ delivering =
      payload (Function.update v.received v.session (v.received v.session ++ e) v.session) := by
    intro hold hd
    have hwhole := h.table.whole hold hopen
    rw [hidle, List.append_nil] at hwhole
    rw [hself, payload_append, hwhole, hd]
  refine ⟨h.handler, h.line.aside hlive, { h.table with
    answered := fun k hk => ?_
    opened := fun hm ho => ?_
    carried := fun hm hc => ?_
    tcp := fun ht => h.table.tcp (ht.imp (fun ht => (hentry ht).1) hwaiter)
    http := fun ht => h.table.http (hhttp ht)
    fresh := fun hs => ?_
    waiting := fun hm hw hg => ?_
    entered := fun hm hc hw hl => ?_
    late := fun he hc => h.table.late (hentry he).1 hc
    arrived := ?_
    whole := fun he _ => ?_
    idle := fun ho => ?_ }⟩
  · have hk : Function.update v.received v.session (v.received v.session ++ e) k ≠ [] := hk
    by_cases hks : k = v.session
    · subst hks
      rw [hself] at hk
      exact ha.started hk
    · rw [Function.update_of_ne hks] at hk
      exact h.table.answered k hk
  · rcases ho with ho | ho
    · rcases hanswer with rfl | ⟨_, _, hgood⟩
      · obtain ⟨k, hk⟩ := h.table.opened hm (.inl ho)
        exact ⟨k, hasStart_record_mono hk⟩
      · refine ⟨v.session, ?_⟩
        show HasStart (Function.update v.received v.session (v.received v.session ++ e) v.session)
        rw [hself]
        exact hasStart_append.mpr (.inr (hgood hm ho).2)
    · obtain ⟨k, hk⟩ := h.table.opened hm (.inr ho)
      exact ⟨k, hasStart_record_mono hk⟩
  · obtain ⟨k, hk⟩ := h.table.carried hm hc
    exact ⟨k, hasStart_record_mono hk⟩
  · obtain ⟨hnil, hentry', hwaiter', hhttp', ahead, control, hwritten⟩ := h.table.fresh hs
    have hoff : ∀ {now before : Bool}, (now = true → before = true) → before = false → now = false := by
      intro now before himp hbefore
      rw [hbefore] at himp
      simpa using himp
    refine ⟨?_, ?_, ?_, ?_, ahead, control, hwritten⟩
    · rcases hanswer with rfl | ⟨_, hw | hw, _⟩
      · exact hnil
      · rw [hwaiter'] at hw
        cases hw
      · rw [hhttp'] at hw
        cases hw
    · exact hoff (fun he => (hentry he).1) hentry'
    · exact hoff hwaiter hwaiter'
    · exact hoff hhttp hhttp'
  · rcases h.table.waiting hm (hwaiter hw) hg with hold | ⟨k, hk⟩
    · exact (hgone hold).imp_right fun hend => ⟨_, hend⟩
    · exact .inr ⟨k, hasEnd_record_mono hk⟩
  · rcases h.table.entered hm hc hw (hlive hm hl) with hold | hend
    · exact hgone hold
    · exact .inr (hasEnd_record_mono hend)
  · cases hb : entry with
    | true =>
      obtain ⟨hold, hd⟩ := hentry hb
      exact ⟨v.session, hexact hold hd ▸ List.prefix_refl _⟩
    | false =>
      obtain ⟨k, hk⟩ := h.table.arrived
      rw [hidle, List.append_nil] at hk
      have hkept := record_kept (P := fun l => v.socket.arrived <+: payload l) (i := v.session) (e := e)
        (fun l hl => hl.trans (payload_mono (List.prefix_append _ _))) hk
      refine ⟨k, ?_⟩
      rw [(hnone hb).1, List.append_nil]
      exact hkept
  · obtain ⟨hold, hd⟩ := hentry he
    exact hexact hold hd
  · have ho : v.isOpen = false := ho
    rw [hopen] at ho
    cases ho

/-- The start in a session is of the handler's mode. -/
theorem mode_of_written (h : LocalInv v) {k : Nat} {mode : Mode} (hk : .start mode ∈ v.written k) :
    mode = v.mode := by
  have hflow : .start mode ∈ flow (v.written k) := mem_flow.mpr ⟨hk, by simp⟩
  exact h.handler.mode_eq ((h.line.pre k ⟨_, hk, rfl⟩).subset hflow)

theorem started_of_written (h : LocalInv v) {k : Nat} (hk : HasStart (v.written k)) :
    .start v.mode ∈ v.written k := by
  obtain ⟨y, hy, hys⟩ := hk
  cases y with
  | start m =>
    rw [← h.mode_of_written hy]
    exact hy
  | _ => cases hys

/-- Data for a stream without an entry: its handler goes on no more. -/
theorem not_live_of_data (h : LocalInv v) {p : Bytes} (hm : v.mode = .tcp) (hp : p ≠ [])
    (hclosed : v.closed = false) (hentry : v.entry = false) (ha : v.Answers (dataEvents p)) :
    v.live = false := by
  by_contra hl
  obtain ⟨b, p, rfl⟩ := List.exists_cons_of_ne_nil hp
  have hmem : StreamEvent.byte b ∈ dataEvents (b :: p) := List.mem_cons_self
  have hw := ha.started (List.append_ne_nil_of_right_ne_nil _ (List.ne_nil_of_mem hmem))
  have hend := (h.table.entered hm hclosed hw (by simpa using hl)).resolve_left (by simp [hentry])
  obtain ⟨x, hx, hends⟩ := hend
  have hstart : StreamEvent.start .tcp ∈ v.written v.session := hm ▸ h.started_of_written hw
  have hno := (List.pairwise_append.mp (ha.ordered hstart)).2.2 x hx _ hmem hends
  cases hno

/-- The frame that waited is in the channel. -/
theorem delivered (h : LocalInv v) :
    LocalInv { v with
      socket := { v.socket with channel := v.socket.channel ++ [v.delivering] }, delivering := [] } := by
  have harrived : LocalSocket.arrived { v.socket with channel := v.socket.channel ++ [v.delivering] } ++ [] =
      v.socket.arrived ++ v.delivering := by
    simp only [LocalSocket.arrived, List.flatten_append, List.flatten_cons, List.flatten_nil,
      List.append_nil, List.append_assoc]
  exact ⟨h.handler, h.line.aside fun _ hl => hl, { h.table with
    fresh := fun hs => ⟨(h.table.fresh hs).answer, (h.table.fresh hs).entry, (h.table.fresh hs).waiter,
      (h.table.fresh hs).http, (h.table.fresh hs).ahead, (h.table.fresh hs).control,
      (h.table.fresh hs).written⟩
    arrived := by
      obtain ⟨k, hk⟩ := h.table.arrived
      exact ⟨k, harrived ▸ hk⟩
    whole := fun he ho => harrived.trans (h.table.whole he ho)
    idle := fun ho => ⟨(h.table.idle ho).1, rfl⟩ }⟩

/-- The entry of a handler that is gone is taken out. -/
theorem unlist (h : LocalInv v) {http : Bool} (hgone : v.mode = .tcp → v.stage = .gone)
    (hfresh : v.stage ≠ .fresh) (hhttp : http = true → v.http = true) :
    LocalInv { v with entry := false, http, delivering := [] } := by
  refine ⟨h.handler, h.line.aside fun _ hl => hl, { h.table with
    tcp := fun ht => h.table.tcp (ht.imp_left fun ht => by cases ht)
    http := fun ht => h.table.http (hhttp ht)
    fresh := fun hs => absurd hs hfresh
    waiting := fun hm _ hne => absurd (hgone hm) hne
    entered := fun hm _ _ hl => ?_
    late := fun he => by cases he
    arrived := ?_
    whole := fun he => by cases he
    idle := fun ho => ⟨(h.table.idle ho).1, rfl⟩ }⟩
  · have hl : v.stage.live v.answer v.waiter = true := hl
    rw [hgone hm] at hl
    cases hl
  · obtain ⟨k, hk⟩ := h.table.arrived
    refine ⟨k, ?_⟩
    show v.socket.arrived ++ [] <+: payload (v.received k)
    rw [List.append_nil]
    exact (List.prefix_append _ _).trans hk

/-- The local socket is written to. -/
theorem socketMoved (h : LocalInv v) {socket : LocalSocket} (hread : socket.read = v.socket.read)
    (harrived : socket.arrived = v.socket.arrived) : LocalInv { v with socket } := by
  refine ⟨?_, h.line.aside fun _ hl => hl, { h.table with
    fresh := fun hs => ⟨(h.table.fresh hs).answer, (h.table.fresh hs).entry, (h.table.fresh hs).waiter,
      (h.table.fresh hs).http, (h.table.fresh hs).ahead, (h.table.fresh hs).control,
      (h.table.fresh hs).written⟩
    arrived := ?_
    whole := fun he ho => ?_ }⟩
  · show HandlerInv v.mode v.stage v.handed socket.read
    rw [hread]
    exact h.handler
  · show ∃ k, socket.arrived ++ v.delivering <+: payload (v.received k)
    rw [harrived]
    exact h.table.arrived
  · show socket.arrived ++ v.delivering = payload (v.received v.session)
    rw [harrived]
    exact h.table.whole he ho

end LocalInv

end WsNet.Relay
