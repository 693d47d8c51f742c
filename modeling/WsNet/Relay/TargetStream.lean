import WsNet.Relay.TargetSide

/-! One stream of the gateway's end.

To one stream a session is its task, the entry of its sender, and what the session
has consumed and produced of its events. What every step keeps is said of this view. -/
namespace WsNet.Relay
open Gateway Data Transition

/-! ### The view -/

/-- Where a TCP task is, as far as its stream's events go. -/
inductive TargetStage where
  /-- Not connected to the target. -/
  | before
  | opening
  | reading
  | relaying (events : List StreamEvent)
  /-- The target's end is sent, or could not be. -/
  | ended
  | gone
  deriving DecidableEq

/-- The channel's receiver is there. -/
def TargetStage.listening : TargetStage → Bool
  | before | gone => false
  | _ => true

/-- The target may still be read. -/
def TargetStage.ofRead (targetReadClosed : Bool) : TargetStage := if targetReadClosed then ended else reading

/-- The channel may still be read. -/
def accepts : TaskPhase → Bool
  | .forwarding _ accessClosed | .relaying _ _ accessClosed => !accessClosed
  | .opening | .writing _ => true
  | _ => false

def busy : TaskPhase → Bool
  | .writing _ => true
  | _ => false

section Stage
variable [MessageCodec]

def targetStage (t : Task) : TargetStage :=
  match t.phase with
  | .unspawned | .connecting => .before
  | .opening => .opening
  | .forwarding targetReadClosed _ | .writing targetReadClosed | .shutting targetReadClosed =>
    .ofRead targetReadClosed
  | .relaying out _ _ => .relaying (wsEvents t.id (Outgoing.wsMessage out))
  | _ => .gone

end Stage

structure TargetView where
  stage : TargetStage
  accepts : Bool
  busy : Bool
  entry : Bool
  /-- The lease is not cancelled. -/
  free : Bool
  /-- The session ends. -/
  ending : Bool
  /-- The session waits for the stream's channel. -/
  waiting : Bool
  /-- The session sends the stream's Close. -/
  closing : Bool
  consumed : List StreamEvent
  produced : List StreamEvent
  socket : TargetSocket
  channel : List Bytes
  /-- The data that the session has at hand. -/
  inPoint : Bytes

namespace TargetView

/-- What has come for the target. -/
def arrived (v : TargetView) : Bytes := v.socket.written ++ v.socket.writing.getD [] ++ v.channel.flatten

end TargetView

/-! ### The invariant -/

/-- What a task has sent and read when it is at a stage. -/
def AtTarget (produced : List StreamEvent) (read : Bytes) : TargetStage → Prop
  | .before | .opening => produced = [] ∧ read = []
  | .reading => read = payload produced ∧ HasStart produced ∧ ¬ HasEnd produced
  | .relaying e => read = payload produced ++ payload e ∧ HasStart produced ∧ ¬ HasEnd produced ∧
      (∀ x ∈ e, x.carries = true) ∧ Ordered e
  | .ended | .gone => True

structure StreamInv (v : TargetView) : Prop where
  place : AtTarget v.produced v.socket.read v.stage
  sent : payload v.produced <+: v.socket.read
  ordered : Ordered v.produced
  started : .start .tcp ∈ v.consumed
  behaved : Ordered v.consumed
  opened : (∃ x ∈ v.consumed, x.carries = true) → HasStart v.produced
  untouched : v.stage = .before → v.entry = false ∧ v.socket = {} ∧ v.channel = []
  pend : v.inPoint <:+ payload v.consumed
  pre : v.arrived <+: payload v.consumed
  /-- While the entry is there, all that was consumed has arrived. -/
  whole : v.stage.listening = true → v.entry = true → v.free = true →
    v.arrived ++ v.inPoint = payload v.consumed
  /-- A task that listens keeps its entry until the access has ended its side. -/
  unlisted : v.stage.listening = true → v.entry = false → HasEnd v.consumed ∨ v.ending = true
  exact' : v.stage.listening = true → .eof ∈ v.consumed → v.arrived = payload v.consumed
  waits : v.waiting = true → v.stage.listening = true → v.entry = true
  closing : v.closing = true → v.stage = .gone
  idle : v.stage.listening = true → v.busy = false → v.socket.writing = none
  cut : v.socket.drained = true → v.accepts = false ∧ (HasEnd v.consumed ∨ v.ending = true)
  complete : v.socket.drained = true → .eof ∈ v.consumed → v.socket.written = payload v.consumed

namespace StreamInv
variable {v : TargetView}

theorem payload_of_quiet (h : StreamInv v) (hp : v.produced = []) : payload v.consumed = [] := by
  apply payload_eq_nil
  intro x hx
  by_contra hc
  have hs := h.opened ⟨x, hx, by simpa using hc⟩
  rw [hp] at hs
  exact not_hasStart_nil hs

/-! ### The session -/

/-- The session consumes events of the stream. -/
theorem receive (h : StreamInv v) {e : List StreamEvent} (hfree : v.free = true) (hidle : v.inPoint = [])
    (hgoes : v.ending = false) (ho : Ordered (v.consumed ++ e))
    (hopened : (∃ x ∈ v.consumed ++ e, x.carries = true) → HasStart v.produced)
    (heof : .eof ∈ e → payload e = []) :
    StreamInv { v with consumed := v.consumed ++ e, inPoint := payload e } := by
  have hmono : ∀ {x}, x ∈ v.consumed → x ∈ v.consumed ++ e := fun hx => List.mem_append_left _ hx
  have hpayload : payload v.consumed <+: payload (v.consumed ++ e) := by
    rw [payload_append]
    exact List.prefix_append _ _
  have hlast : .eof ∈ v.consumed ++ e → payload e = [] := by
    intro hmem
    rcases List.mem_append.mp hmem with hmem | hmem
    · exact payload_eq_nil (ho.no_more ⟨_, hmem, rfl⟩)
    · exact heof hmem
  refine { h with
    started := hmono h.started
    behaved := ho
    opened := hopened
    pend := ?_
    pre := h.pre.trans hpayload
    whole := fun hl he hf => ?_
    unlisted := fun hl he => (h.unlisted hl he).imp_left fun hend => hend.mono fun _ hx => hmono hx
    exact' := fun hl hmem => ?_
    cut := fun hd => (h.cut hd).imp_right fun hc => hc.imp_left fun hend => hend.mono fun _ hx => hmono hx
    complete := fun hd hmem => ?_ }
  · show payload e <:+ payload (v.consumed ++ e)
    rw [payload_append]
    exact List.suffix_append _ _
  · show v.arrived ++ payload e = payload (v.consumed ++ e)
    have hwhole := h.whole hl he hf
    rw [hidle, List.append_nil] at hwhole
    rw [hwhole, payload_append]
  · show v.arrived = payload (v.consumed ++ e)
    rw [payload_append, hlast hmem, List.append_nil]
    rcases List.mem_append.mp hmem with hold | hnew
    · exact h.exact' hl hold
    · cases he : v.entry with
      | true =>
        have hwhole := h.whole hl he hfree
        rw [hidle, List.append_nil] at hwhole
        exact hwhole
      | false =>
        have hend := (h.unlisted hl he).resolve_right (by simp [hgoes])
        have hno := ho.no_more hend _ hnew
        cases hno
  · show v.socket.written = payload (v.consumed ++ e)
    rw [payload_append, hlast hmem, List.append_nil]
    rcases List.mem_append.mp hmem with hold | hnew
    · exact h.complete hd hold
    · have hend := (h.cut hd).2.resolve_right (by simp [hgoes])
      have hno := ho.no_more hend _ hnew
      cases hno

/-- The session goes on: to another await, or to its end. -/
theorem goOn (h : StreamInv v) (free ending waiting closing : Bool) (inPoint : Bytes)
    (hfree : free = true → v.free = true) (hending : v.ending = true → ending = true)
    (hwaiting : waiting = true → v.stage.listening = true → v.entry = true)
    (hclosing : closing = true → v.stage = .gone)
    (hpoint : inPoint = v.inPoint ∨ inPoint = [] ∧
      (v.stage.listening = true → v.entry = true → free = true → v.inPoint = [])) :
    StreamInv { v with free, ending, waiting, closing, inPoint } := by
  refine { h with
    pend := ?_
    whole := fun hl he hf => ?_
    unlisted := fun hl he => (h.unlisted hl he).imp_right hending
    waits := hwaiting
    closing := hclosing
    cut := fun hd => (h.cut hd).imp_right fun hc => hc.imp_right hending }
  · rcases hpoint with rfl | ⟨rfl, _⟩
    · exact h.pend
    · exact List.nil_suffix
  · have hwhole := h.whole hl he (hfree hf)
    rcases hpoint with rfl | ⟨rfl, hnil⟩
    · exact hwhole
    · rw [hnil hl he hf] at hwhole
      exact hwhole

/-- The data that the session has at hand is put into the channel. -/
theorem put (h : StreamInv v) (hl : v.stage.listening = true) (hw : v.waiting = true) (hfree : v.free = true) :
    StreamInv { v with channel := v.channel ++ [v.inPoint], inPoint := [], waiting := false } := by
  have he := h.waits hw hl
  have harrived : TargetView.arrived { v with
      channel := v.channel ++ [v.inPoint], inPoint := [], waiting := false } = payload v.consumed := by
    rw [← h.whole hl he hfree]
    simp only [TargetView.arrived, List.flatten_append, List.flatten_cons, List.flatten_nil, List.append_nil,
      List.append_assoc]
  refine { h with
    untouched := fun hs => ?_
    pend := List.nil_suffix
    pre := harrived ▸ List.prefix_refl _
    whole := fun _ _ _ => ?_
    exact' := fun _ _ => harrived
    waits := fun hw => by cases hw }
  · have hs : v.stage = .before := hs
    rw [hs] at hl
    cases hl
  · rw [List.append_nil]
    exact harrived

/-- The entry goes. -/
theorem unlist (h : StreamInv v) (hwhy : v.stage.listening = true → HasEnd v.consumed ∨ v.ending = true)
    (hw : v.waiting = true → v.stage.listening = false) : StreamInv { v with entry := false } :=
  { h with
    untouched := fun hs => ⟨rfl, (h.untouched hs).2⟩
    whole := fun _ he => by cases he
    unlisted := fun hl _ => hwhy hl
    waits := fun hwait hl => by
      have hl : v.stage.listening = true := hl
      rw [hw hwait] at hl
      cases hl }

/-- The session's own Close of the stream. -/
theorem closed (h : StreamInv v) {e : List StreamEvent} (he : ∀ x ∈ e, x = .close) (hover : v.stage = .gone) :
    StreamInv { v with produced := v.produced ++ e } := by
  have hcarries : ∀ x ∈ e, x.carries = false := fun x hx => by rw [he x hx]; rfl
  refine { h with
    place := ?_
    sent := ?_
    ordered := ?_
    opened := fun hc => hasStart_append.mpr (.inl (h.opened hc)) }
  · show AtTarget (v.produced ++ e) v.socket.read v.stage
    rw [hover]
    trivial
  · show payload (v.produced ++ e) <+: v.socket.read
    rw [payload_append, payload_eq_nil hcarries, List.append_nil]
    exact h.sent
  · refine h.ordered.append ?_ fun _ => hcarries
    apply List.pairwise_of_forall_mem_list
    intro _ _ y hy _
    exact hcarries y hy

/-! ### The task -/

/-- The task goes on, and nothing comes of it. -/
theorem move (h : StreamInv v) (stage : TargetStage) (accepts busy : Bool)
    (hplace : AtTarget v.produced v.socket.read stage) (hbefore : stage = .before → v.stage = .before)
    (hlistening : stage.listening = true → v.stage.listening = true)
    (hover : v.stage = .gone → stage = .gone) (hbusy : v.busy = true → busy = false →
      stage.listening = true → v.socket.writing = none) (haccepts : accepts = true → v.accepts = true) :
    StreamInv { v with stage, accepts, busy } :=
  { h with
    place := hplace
    untouched := fun hs => h.untouched (hbefore hs)
    whole := fun hl => h.whole (hlistening hl)
    unlisted := fun hl => h.unlisted (hlistening hl)
    exact' := fun hl => h.exact' (hlistening hl)
    waits := fun hw hl => h.waits hw (hlistening hl)
    closing := fun hc => hover (h.closing hc)
    idle := fun hl hb => by
      cases hold : v.busy with
      | true => exact hbusy hold hb hl
      | false => exact h.idle (hlistening hl) hold
    cut := fun hd => by
      obtain ⟨hno, hend⟩ := h.cut hd
      refine ⟨?_, hend⟩
      by_contra ha
      rw [haccepts (by simpa using ha)] at hno
      cases hno }

/-- The target is connected: the sender is inserted. -/
theorem insert (h : StreamInv v) (hs : v.stage = .before) (hc : v.closing = false) :
    StreamInv { v with stage := .opening, accepts := true, busy := false, entry := true } := by
  have hplace := h.place
  rw [hs] at hplace
  obtain ⟨hproduced, hread⟩ := hplace
  obtain ⟨_, hsocket, hchannel⟩ := h.untouched hs
  have hpayload := h.payload_of_quiet hproduced
  have harrived : v.arrived = [] := by
    simp only [TargetView.arrived, hsocket, hchannel]
    rfl
  have hpoint : v.inPoint = [] := by
    have hpend := h.pend
    rw [hpayload] at hpend
    exact List.suffix_nil.mp hpend
  exact { h with
    place := ⟨hproduced, hread⟩
    untouched := fun hb => by cases hb
    whole := fun _ _ _ => by
      show v.arrived ++ v.inPoint = payload v.consumed
      rw [harrived, hpoint, hpayload]
      rfl
    unlisted := fun _ he => by cases he
    exact' := fun _ _ => harrived.trans hpayload.symm
    waits := fun _ _ => rfl
    closing := fun hcl => by
      have hcl : v.closing = true := hcl
      rw [hc] at hcl
      cases hcl
    idle := fun _ _ => by
      show v.socket.writing = none
      rw [hsocket]
    cut := fun hd => by
      have hd : v.socket.drained = true := hd
      rw [hsocket] at hd
      cases hd }

/-- OpenOk is sent. -/
theorem openOk (h : StreamInv v) (hs : v.stage = .opening) (accepts : Bool)
    (haccepts : accepts = true → v.accepts = true) :
    StreamInv { v with stage := .reading, accepts, produced := v.produced ++ [.start .tcp] } := by
  have hplace := h.place
  rw [hs] at hplace
  obtain ⟨hproduced, hread⟩ := hplace
  have hl : v.stage.listening = true := by rw [hs]; rfl
  have hstart : HasStart (v.produced ++ [.start .tcp]) :=
    hasStart_append.mpr (.inr ⟨_, List.mem_singleton_self _, rfl⟩)
  refine { h with
    place := ⟨?_, hstart, ?_⟩
    sent := ?_
    ordered := ?_
    opened := fun _ => hstart
    untouched := fun hb => by cases hb
    whole := fun _ => h.whole hl
    unlisted := fun _ => h.unlisted hl
    exact' := fun _ => h.exact' hl
    waits := fun hw _ => h.waits hw hl
    closing := fun hc => by
      have hover := h.closing hc
      rw [hs] at hover
      cases hover
    idle := fun _ hb => h.idle hl hb
    cut := fun hd => ?_ }
  · show v.socket.read = payload (v.produced ++ [.start .tcp])
    rw [hproduced, hread]
    rfl
  · rw [hproduced]
    rintro ⟨x, hx, hends⟩
    rw [List.mem_singleton.mp hx] at hends
    cases hends
  · show payload (v.produced ++ [.start .tcp]) <+: v.socket.read
    rw [hproduced]
    exact List.nil_prefix
  · show Ordered (v.produced ++ [.start .tcp])
    rw [hproduced]
    exact List.pairwise_singleton _ _
  · obtain ⟨hno, hend⟩ := h.cut hd
    refine ⟨?_, hend⟩
    by_contra ha
    rw [haccepts (by simpa using ha)] at hno
    cases hno

/-- The target is read, or its end. -/
theorem read (h : StreamInv v) (hs : v.stage = .reading) {e : List StreamEvent}
    (hcarries : ∀ x ∈ e, x.carries = true) (he : Ordered e) :
    StreamInv { v with
      stage := .relaying e, socket := { v.socket with read := v.socket.read ++ payload e } } := by
  have hplace := h.place
  rw [hs] at hplace
  obtain ⟨hread, hstart, hnoEnd⟩ := hplace
  have hl : v.stage.listening = true := by rw [hs]; rfl
  exact { h with
    place := ⟨by rw [hread], hstart, hnoEnd, hcarries, he⟩
    sent := h.sent.trans (List.prefix_append _ _)
    untouched := fun hb => by cases hb
    whole := fun _ => h.whole hl
    unlisted := fun _ => h.unlisted hl
    exact' := fun _ => h.exact' hl
    waits := fun hw _ => h.waits hw hl
    closing := fun hc => by
      have hover := h.closing hc
      rw [hs] at hover
      cases hover
    idle := fun _ hb => h.idle hl hb
    cut := h.cut
    complete := h.complete }

/-- What was read is sent. -/
theorem relayed (h : StreamInv v) {e : List StreamEvent} (hs : v.stage = .relaying e) (stage : TargetStage)
    (accepts : Bool) (hnext : stage = .reading ∧ ¬ HasEnd e ∨ stage = .ended ∨ stage = .gone)
    (haccepts : accepts = true → v.accepts = true) :
    StreamInv { v with stage, accepts, produced := v.produced ++ e } := by
  have hplace := h.place
  rw [hs] at hplace
  obtain ⟨hread, hstart, hnoEnd, hcarries, he⟩ := hplace
  have hl : v.stage.listening = true := by rw [hs]; rfl
  have hwhole : v.socket.read = payload (v.produced ++ e) := by rw [hread, payload_append]
  have hstart' : HasStart (v.produced ++ e) := hasStart_append.mpr (.inl hstart)
  refine { h with
    place := ?_
    sent := hwhole ▸ List.prefix_refl _
    ordered := h.ordered.append he fun hend => absurd hend hnoEnd
    opened := fun hc => hstart'
    untouched := fun hb => ?_
    whole := fun _ => h.whole hl
    unlisted := fun _ => h.unlisted hl
    exact' := fun _ => h.exact' hl
    waits := fun hw _ => h.waits hw hl
    closing := fun hc => ?_
    idle := fun _ hb => h.idle hl hb
    cut := fun hd => ?_ }
  · rcases hnext with ⟨rfl, hno⟩ | rfl | rfl
    · exact ⟨hwhole, hstart', fun hend => (hasEnd_append.mp hend).elim hnoEnd hno⟩
    · trivial
    · trivial
  · have hb : stage = .before := hb
    rcases hnext with ⟨rfl, _⟩ | rfl | rfl <;> cases hb
  · have hover := h.closing hc
    rw [hs] at hover
    cases hover
  · obtain ⟨hno, hend⟩ := h.cut hd
    refine ⟨?_, hend⟩
    by_contra ha
    rw [haccepts (by simpa using ha)] at hno
    cases hno

/-! ### The target's socket -/

/-- The next data is taken out of the channel. -/
theorem recv (h : StreamInv v) (hl : v.stage.listening = true) (hb : v.busy = false) {bytes : Bytes}
    {channel : List Bytes} (hc : v.channel = bytes :: channel) :
    StreamInv { v with busy := true, channel, socket := { v.socket with writing := some bytes } } := by
  have hnone := h.idle hl hb
  have harrived : TargetView.arrived { v with
      busy := true, channel, socket := { v.socket with writing := some bytes } } = v.arrived := by
    simp only [TargetView.arrived, hnone, hc, Option.getD_some, Option.getD_none, List.flatten_cons,
      List.append_assoc, List.nil_append]
  refine { h with
    untouched := fun hs => ?_
    pre := harrived ▸ h.pre
    whole := fun hl he hf => ?_
    exact' := fun hl hmem => harrived.trans (h.exact' hl hmem)
    idle := fun _ hb => by cases hb }
  · have hs : v.stage = .before := hs
    rw [hs] at hl
    cases hl
  · rw [harrived]
    exact h.whole hl he hf

/-- The channel is empty, and its senders are gone. -/
theorem drain (h : StreamInv v) (hl : v.stage.listening = true) (hb : v.busy = false)
    (hc : v.channel = []) (he : v.entry = false) :
    StreamInv { v with accepts := false, socket := { v.socket with drained := true } } := by
  have hwritten : v.arrived = v.socket.written := by
    simp only [TargetView.arrived, h.idle hl hb, hc, Option.getD_none, List.flatten_nil, List.append_nil]
  exact { h with
    untouched := fun hs => by
      have hs : v.stage = .before := hs
      rw [hs] at hl
      cases hl
    cut := fun _ => ⟨rfl, h.unlisted hl he⟩
    complete := fun _ hmem => hwritten.symm.trans (h.exact' hl hmem) }

/-- A part of the data is written. -/
theorem writeSome (h : StreamInv v) (ha : v.accepts = true) {rest : Bytes}
    (hw : v.socket.writing = some rest) (hb : v.busy = true) (count : Nat) :
    StreamInv { v with socket := { v.socket with
      written := v.socket.written ++ rest.take count, writing := some (rest.drop count) } } := by
  have harrived : TargetView.arrived { v with socket := { v.socket with
      written := v.socket.written ++ rest.take count, writing := some (rest.drop count) } } = v.arrived := by
    have htake : rest.take count ++ (rest.drop count ++ v.channel.flatten) = rest ++ v.channel.flatten := by
      rw [← List.append_assoc, List.take_append_drop]
    simp only [TargetView.arrived, hw, Option.getD_some, List.append_assoc, htake]
  have hnot : v.socket.drained = true → False := by
    intro hd
    have hno := (h.cut hd).1
    rw [ha] at hno
    cases hno
  refine { h with
    untouched := fun hs => ?_
    pre := harrived ▸ h.pre
    whole := fun hl he hf => ?_
    exact' := fun hl hmem => harrived.trans (h.exact' hl hmem)
    idle := fun _ hbusy => ?_
    complete := fun hd => (hnot hd).elim }
  · have hsocket := (h.untouched hs).2.1
    rw [hsocket] at hw
    cases hw
  · rw [harrived]
    exact h.whole hl he hf
  · have hbusy : v.busy = false := hbusy
    rw [hb] at hbusy
    cases hbusy

/-- All of the data is written. -/
theorem wrote (h : StreamInv v) (hw : v.socket.writing.getD [] = []) :
    StreamInv { v with busy := false, socket := { v.socket with writing := none } } := by
  have harrived : TargetView.arrived { v with
      busy := false, socket := { v.socket with writing := none } } = v.arrived := by
    simp only [TargetView.arrived, hw, Option.getD_none]
  refine { h with
    untouched := fun hs => ?_
    pre := harrived ▸ h.pre
    whole := fun hl he hf => ?_
    exact' := fun hl hmem => harrived.trans (h.exact' hl hmem)
    idle := fun _ _ => rfl }
  · obtain ⟨he, hsocket, hchannel⟩ := h.untouched hs
    refine ⟨he, ?_, hchannel⟩
    show { v.socket with writing := none } = ({} : TargetSocket)
    rw [hsocket]
  · rw [harrived]
    exact h.whole hl he hf

/-- Reading has failed. -/
theorem lost (h : StreamInv v) (lost : Bytes) (busy : Bool) :
    StreamInv { v with
      stage := .gone, accepts := false, busy, socket := { v.socket with read := v.socket.read ++ lost } } :=
  { h with
    place := trivial
    sent := h.sent.trans (List.prefix_append _ _)
    untouched := fun hb => by cases hb
    whole := fun hl => by cases hl
    unlisted := fun hl => by cases hl
    exact' := fun hl => by cases hl
    waits := fun _ hl => by cases hl
    closing := fun _ => rfl
    idle := fun hl => by cases hl
    cut := fun hd => ⟨rfl, (h.cut hd).2⟩ }

end StreamInv

end WsNet.Relay
