import WsNet.Access.ResponseBody

/-! Which ends of a response the client takes for the whole response.

An error that finds the channel full is not sent. The end of the channel then looks
like the end of the response, unless `gateway_closed` sees that the connection is
closed (`cut_short`). Under `ErrorsArrive` a body that ends without an error is one
whose HttpResponseEnd was processed (`complete_finished`). -/
namespace WsNet.Access
open Data Transition

/-! ### The rule -/

/-- The answer is a response, and the client has not been given an error. -/
def Request.hasBody (r : Request) : Bool :=
  match r.phase with
  | .submitting | .awaiting _ => r.answer.any fun answer => answer.toBool
  | .reading _ => !r.erred
  | _ => false

/-- The answer is awaited, or will be. -/
def RequestPhase.awaits : RequestPhase → Bool
  | submitting | awaiting _ => true
  | _ => false

/-- Neither an error in the channel nor the gateway's word that the response is whole. -/
def Request.silent (r : Request) : Bool :=
  r.channel.items.all (fun item => item.toBool) && !r.finished

/-- The body's entry is gone, and nothing says why. -/
def BodyState.truncated (id : StreamId) (s : BodyState) : Bool :=
  decide (id ∉ s.connection.httpBodyStreams) && (s.requests id).silent

/-- The stream whose body a message ends with an error. -/
def failedBody : Message → Option StreamId
  | .close id _ | .error (some id) _ _ => some id
  | _ => none

/-- A Close or an Error finds room in the channel of the body that it ends; a session
opens only when no body was cut by the loss of an earlier one; and a handler whose
upload has failed answers only with a body that was not cut. -/
def ErrorsArrive (op : BodyOp) (s : BodyState) : Prop :=
  match op with
  | .message m => ∀ id ∈ failedBody m, (s.requests id).hasBody = true →
      id ∈ s.connection.httpBodyStreams → ¬ (s.requests id).channel.Full
  | .connect => ∀ id < s.connection.streamIds, (s.requests id).hasBody = true → s.truncated id = false
  | .respond id => (s.requests id).phase = .failing → s.truncated id = false
  | _ => True

instance (op : BodyOp) (s : BodyState) : Decidable (ErrorsArrive op s) :=
  match op with
  | .message m => inferInstanceAs (Decidable (∀ id ∈ failedBody m, _ → _ → _))
  | .connect => inferInstanceAs (Decidable (∀ id < s.connection.streamIds, _ → _))
  | .respond _ => inferInstanceAs (Decidable (_ → _))
  | .data .. | .delivered | .undelivered | .lose | .close _ | .stop _ | .stopIdentity _ | .start
  | .ready _ | .register _ | .registerBody _ | .submitted _ | .refused _ | .uploadEnd _
  | .uploadRefused _ | .uploadFails _ | .closeSent _ | .poll _ | .recv _ | .dropped _ => .isTrue trivial

/-! ### What one stream sees -/

/-- A stream's part of the state. -/
structure View where
  /-- The entries of the stream. -/
  head : Bool
  body : Bool
  /-- `gateway_closed` is ready. -/
  lost : Bool
  delivering : Bool
  request : Request

def BodyState.view (id : StreamId) (s : BodyState) : View where
  head := id ∈ s.connection.httpHeadWaiters
  body := id ∈ s.connection.httpBodyStreams
  lost := s.connection.gatewayClosed.isSome
  delivering := s.phase.deliversTo id
  request := s.requests id

structure View.Ok (v : View) : Prop where
  answer : v.head = true → v.request.answer = none
  early : v.request.phase.early = true → v.head = false ∧ v.body = false ∧ v.request.answer = none
  awaiting : v.request.phase.awaits = true → v.head = true → v.body = true ∨ v.request.finished = true
  senders : v.request.channel.senders = if v.delivering then [()] else []
  /-- A body that was cut is one of a connection that is closed, and its channel is
  not empty before the client has seen that. -/
  cut : v.request.hasBody = true → v.body = false → v.request.silent = true →
    v.lost = true ∧ (v.request.phase = .reading true → v.request.channel.items ≠ [])
  complete : v.request.Complete → v.request.finished = true

/-! ### Notices -/

namespace Request
variable {r : Request}

theorem sendError_cases (error : Error) (r : Request) :
    r.sendError error = r ∧ (r.phase.listening = true → r.channel.Full) ∨
      ∃ channel, r.channel.trySend (.error error) = some channel ∧
        r.sendError error = { r with channel } := by
  unfold sendError
  split
  · cases ht : r.channel.trySend (.error error) with
    | none => exact .inl ⟨rfl, fun _ => BoundedChannel.trySend_eq_none.mp ht⟩
    | some channel => exact .inr ⟨channel, rfl, rfl⟩
  · rename_i hl
    exact .inl ⟨rfl, fun h => absurd h hl⟩

/-- An error in the channel is in it after the body's end, if there was room. -/
theorem notified_cases (n : Notices) (r : Request) :
    ∃ channel : BodyChannel, r.notified n = { r with answer := r.answer.or n.head, channel } ∧
      channel.senders = r.channel.senders ∧
      (channel = r.channel ∨ n.body.isSome = true ∧ channel.items.all (fun item => item.toBool) = false) ∧
      (channel = r.channel → n.body.isSome = true → r.phase.listening = true → r.channel.Full) := by
  unfold notified
  cases n.body with
  | none => exact ⟨r.channel, rfl, rfl, .inl rfl, fun _ h => nomatch h⟩
  | some error =>
    rcases sendError_cases error { r with answer := r.answer.or n.head } with ⟨heq, hfull⟩ | ⟨channel, hsend, heq⟩
    · exact ⟨r.channel, heq, rfl, .inl rfl, fun _ _ hl => hfull hl⟩
    · obtain ⟨hroom, hitems, _⟩ := BoundedChannel.trySend_eq_some hsend
      refine ⟨channel, heq, BoundedChannel.senders_trySend hsend, .inr ⟨rfl, ?_⟩, ?_⟩
      · rw [hitems, List.all_append]
        exact Bool.and_false _
      · intro heq
        subst heq
        have hlen := congrArg List.length hitems
        rw [List.length_append, List.length_singleton] at hlen
        exact absurd hlen (Nat.ne_of_lt (Nat.lt_succ_self _))

@[simp] theorem notified_nothing (r : Request) : r.notified {} = r := by
  unfold notified
  rw [Option.or_none]

theorem hasBody_awaits (h : r.phase.awaits = true) :
    r.hasBody = r.answer.any fun answer => answer.toBool := by
  unfold hasBody
  cases hp : r.phase with
  | submitting => rfl
  | awaiting upload => rfl
  | _ =>
    rw [hp] at h
    cases h

theorem hasBody_reading {polled : Bool} (h : r.phase = .reading polled) : r.hasBody = !r.erred := by
  unfold hasBody
  rw [h]

theorem notified_of_none {n : Notices} (hh : n.head = none) (hb : n.body = none) : r.notified n = r := by
  unfold notified
  rw [hh, hb, Option.or_none]

theorem phase_notified (n : Notices) (r : Request) : (r.notified n).phase = r.phase := by
  obtain ⟨_, hreq, _⟩ := r.notified_cases n
  rw [hreq]

theorem hasBody_cases (h : r.hasBody = true) :
    r.phase.awaits = true ∨ ∃ polled, r.phase = .reading polled := by
  unfold hasBody at h
  cases hp : r.phase with
  | submitting => exact .inl rfl
  | awaiting upload => exact .inl rfl
  | reading polled => exact .inr ⟨polled, rfl⟩
  | _ =>
    rw [hp] at h
    cases h

theorem listening_of_awaits {phase : RequestPhase} (h : phase.awaits = true) : phase.listening = true := by
  cases phase <;> first | rfl | cases h

theorem listening_of_hasBody (h : r.hasBody = true) : r.phase.listening = true := by
  rcases hasBody_cases h with hp | ⟨_, hp⟩
  · exact listening_of_awaits hp
  · rw [hp]
    rfl

end Request

namespace View
variable {v w : View}

/-- With one sender at most, a full channel has items. -/
theorem Ok.items_of_full (h : v.Ok) (hf : v.request.channel.Full) : v.request.channel.items ≠ [] := by
  intro hnil
  have hlen : v.request.channel.granted.length ≤ 1 := by
    have hs := congrArg List.length h.senders
    rw [BoundedChannel.senders, List.length_append] at hs
    by_cases hd : v.delivering = true
    · rw [if_pos hd, List.length_singleton] at hs
      omega
    · rw [if_neg hd, List.length_nil] at hs
      omega
  rw [BoundedChannel.Full, hnil, List.length_nil] at hf
  simp only [bodyCapacity] at hf
  omega

/-- **The entries go with an error.** If the error finds no room, the client must see
that the connection is closed. -/
theorem Ok.fail {n : Notices} {error : GatewayError} {body : Error} (h : v.Ok)
    (hn : n.head = if v.head then some (.error error) else none)
    (hb : n.body = if v.body then some body else none)
    (hw : w.request = v.request.notified n) (hhead : w.head = false) (hbody : w.body = false)
    (hdel : w.delivering = v.delivering) (hlost : v.lost = true → w.lost = true)
    (hroom : v.request.hasBody = true → v.body = true → v.request.channel.Full → w.lost = true) : w.Ok := by
  obtain ⟨channel, hreq, hsenders, hchan, hfull⟩ := v.request.notified_cases n
  rw [hreq] at hw
  -- A stream that is told of the error has no response.
  have hanswer : (v.request.answer.or n.head).any (fun answer => answer.toBool) = true →
      v.request.answer.any (fun answer => answer.toBool) = true := by
    by_cases hv : v.head = true
    · rw [h.answer hv, hn, if_pos hv]
      exact nofun
    · rw [hn, if_neg hv, Option.or_none]
      exact id
  have hhas : w.request.hasBody = true → v.request.hasBody = true := by
    rw [hw]
    unfold Request.hasBody
    cases v.request.phase <;> first | exact hanswer | exact id
  refine ⟨?_, ?_, ?_, ?_, ?_, ?_⟩
  · intro hh
    rw [hhead] at hh
    cases hh
  · intro he
    rw [hw] at he
    obtain ⟨hvh, _, hva⟩ := h.early he
    refine ⟨hhead, hbody, ?_⟩
    rw [hw, hn, hva, hvh]
    rfl
  · intro _ hh
    rw [hhead] at hh
    cases hh
  · rw [hw, hdel, ← h.senders]
    exact hsenders
  · intro hwb _ hs
    have hbod := hhas hwb
    rw [hw] at hs ⊢
    have hs : (channel.items.all (fun item => item.toBool) && !v.request.finished) = true := hs
    rcases hchan with rfl | ⟨_, herr⟩
    · cases hv : v.body with
      | false =>
        obtain ⟨ho, hitems⟩ := h.cut hbod hv hs
        exact ⟨hlost ho, hitems⟩
      | true =>
        have hf := hfull rfl (by rw [hb, if_pos hv]; rfl) (Request.listening_of_hasBody hbod)
        exact ⟨hroom hbod hv hf, fun _ => h.items_of_full hf⟩
    · rw [herr] at hs
      cases hs
  · intro hc
    rw [hw] at hc ⊢
    exact h.complete hc

/-- Nothing changes but that `gateway_closed` may be ready. -/
theorem Ok.mono (h : v.Ok) (hhead : w.head = v.head) (hbody : w.body = v.body)
    (hdel : w.delivering = v.delivering) (hreq : w.request = v.request)
    (hlost : v.lost = true → w.lost = true) : w.Ok where
  answer := by
    rw [hhead, hreq]
    exact h.answer
  early := by
    rw [hhead, hbody, hreq]
    exact h.early
  awaiting := by
    rw [hhead, hbody, hreq]
    exact h.awaiting
  senders := by
    rw [hreq, hdel]
    exact h.senders
  cut := by
    rw [hbody, hreq]
    exact fun hb hv hs => (h.cut hb hv hs).imp_left hlost
  complete := by
    rw [hreq]
    exact h.complete

/-- A handler's step from a phase in which the stream is registered to a phase without
a response. -/
theorem Ok.off {phase : RequestPhase} (h : v.Ok) (hp : phase = .registering ∨ phase = .failing ∨ phase = .gone)
    (hhead : w.head = true → v.request.answer = none) (hdel : w.delivering = v.delivering)
    (hw : w.request = { v.request with phase }) : w.Ok := by
  have hbody : w.request.hasBody = false := by
    rw [hw]
    rcases hp with rfl | rfl | rfl <;> rfl
  refine ⟨?_, ?_, ?_, ?_, ?_, ?_⟩
  · intro hh
    rw [hw]
    exact hhead hh
  · intro he
    rw [hw] at he
    rcases hp with rfl | rfl | rfl <;> cases he
  · intro ha
    rw [hw] at ha
    rcases hp with rfl | rfl | rfl <;> cases ha
  · rw [hw, hdel]
    exact h.senders
  · intro hb
    rw [hbody] at hb
    cases hb
  · intro hc
    rw [hw] at hc
    have hend : phase = .ended := hc.1
    rcases hp with rfl | rfl | rfl <;> cases hend

/-- A step within the phases in which there may be a response. -/
theorem Ok.on {r : Request} (h : v.Ok) (hw : w = { v with request := r })
    (hanswer : r.answer = v.request.answer) (hearly : r.phase.early = false)
    (hawait : r.phase.awaits = true → v.head = true → v.body = true ∨ r.finished = true)
    (hsenders : r.channel.senders = v.request.channel.senders)
    (hcut : r.hasBody = true → v.body = false → r.silent = true →
      v.lost = true ∧ (r.phase = .reading true → r.channel.items ≠ []))
    (hcomplete : r.Complete → r.finished = true) : w.Ok := by
  subst hw
  refine ⟨?_, ?_, hawait, hsenders.trans h.senders, hcut, hcomplete⟩
  · intro hh
    exact hanswer.trans (h.answer hh)
  · intro he
    have he : r.phase.early = true := he
    rw [hearly] at he
    cases he

/-- Something happens to the channel, and no error leaves it. -/
theorem Ok.channel {channel : BodyChannel} {delivering : Bool} (h : v.Ok)
    (hw : w = { v with delivering, request := { v.request with channel } })
    (hsenders : channel.senders = if delivering then [()] else [])
    (hall : channel.items.all (fun item => item.toBool) = true →
      v.request.channel.items.all (fun item => item.toBool) = true)
    (hitems : v.request.channel.items ≠ [] → channel.items ≠ []) : w.Ok := by
  subst hw
  refine ⟨h.answer, h.early, h.awaiting, hsenders, fun hb hn hs => ?_, h.complete⟩
  have hs' : v.request.silent = true := by
    simp only [Request.silent, Bool.and_eq_true] at hs ⊢
    exact ⟨hall hs.1, hs.2⟩
  obtain ⟨ho, hne⟩ := h.cut hb hn hs'
  exact ⟨ho, fun hp => hitems (hne hp)⟩

end View

/-! ### Steps about one stream -/

theorem mem_erase_iff {map : Finset StreamId} {id j : StreamId} (hj : j ≠ id) :
    j ∈ map.erase id ↔ j ∈ map := by
  rw [Finset.mem_erase, and_iff_right hj]

theorem mem_insert_iff {map : Finset StreamId} {id j : StreamId} (hj : j ≠ id) :
    j ∈ insert id map ↔ j ∈ map := by
  rw [Finset.mem_insert, or_iff_right hj]

/-- Only one stream's entries differ. -/
structure SameBut (id : StreamId) (c d : GatewayConnection) : Prop where
  streamIds : d.streamIds = c.streamIds
  lost : d.gatewayClosed = c.gatewayClosed
  head : ∀ j, j ≠ id → (j ∈ d.httpHeadWaiters ↔ j ∈ c.httpHeadWaiters)
  body : ∀ j, j ≠ id → (j ∈ d.httpBodyStreams ↔ j ∈ c.httpBodyStreams)

namespace SameBut
variable (id : StreamId) (c : GatewayConnection)

theorem refl : SameBut id c c := ⟨rfl, rfl, fun _ _ => Iff.rfl, fun _ _ => Iff.rfl⟩

theorem closeStream : SameBut id c (c.closeStream id) :=
  ⟨rfl, rfl, fun _ hj => mem_erase_iff hj, fun _ hj => mem_erase_iff hj⟩

theorem failStream : SameBut id c (c.failStream id) :=
  ⟨rfl, rfl, fun _ hj => mem_erase_iff hj, fun _ hj => mem_erase_iff hj⟩

theorem closeRequest : SameBut id c (c.closeRequest id) :=
  ⟨rfl, rfl, fun _ hj => mem_erase_iff hj, fun _ hj => mem_erase_iff hj⟩

theorem answer : SameBut id c { c with httpHeadWaiters := c.httpHeadWaiters.erase id } :=
  ⟨rfl, rfl, fun _ hj => mem_erase_iff hj, fun _ _ => Iff.rfl⟩

theorem endBody : SameBut id c { c with httpBodyStreams := c.httpBodyStreams.erase id } :=
  ⟨rfl, rfl, fun _ _ => Iff.rfl, fun _ hj => mem_erase_iff hj⟩

theorem register : SameBut id c { c with httpHeadWaiters := insert id c.httpHeadWaiters } :=
  ⟨rfl, rfl, fun _ hj => mem_insert_iff hj, fun _ _ => Iff.rfl⟩

theorem registerBody : SameBut id c { c with httpBodyStreams := insert id c.httpBodyStreams } :=
  ⟨rfl, rfl, fun _ _ => Iff.rfl, fun _ hj => mem_insert_iff hj⟩

end SameBut

/-! ### The invariant -/

structure Sound (s : BodyState) : Prop where
  views : ∀ id, (s.view id).Ok
  fresh : ∀ id, s.connection.streamIds ≤ id → (s.requests id).phase = .idle

section Steps
variable {s t : BodyState} {id : StreamId}

/-- **A step about one stream.** -/
theorem Sound.one (h : Sound s) (hc : SameBut id s.connection t.connection)
    (hr : ∀ j, j ≠ id → t.requests j = s.requests j)
    (hd : ∀ j, j ≠ id → t.phase.deliversTo j = s.phase.deliversTo j)
    (hidle : (s.requests id).phase = .idle → (t.requests id).phase = .idle) (hok : (t.view id).Ok) :
    Sound t where
  views j := by
    by_cases hj : j = id
    · exact hj ▸ hok
    · refine (h.views j).mono ?_ ?_ (hd j hj) (hr j hj) ?_
      · exact decide_eq_decide.mpr (hc.head j hj)
      · exact decide_eq_decide.mpr (hc.body j hj)
      · intro ho
        show t.connection.gatewayClosed.isSome = true
        rw [hc.lost]
        exact ho
  fresh j hj := by
    have hidle' := h.fresh j (hc.streamIds ▸ hj)
    by_cases hji : j = id
    · subst hji
      exact hidle hidle'
    · rw [hr j hji]
      exact hidle'

/-- A step of a handler that has begun. -/
theorem Sound.handler {c : GatewayConnection} {r : Request} (h : Sound s)
    (hp : (s.requests id).phase ≠ .idle) (hc : SameBut id s.connection c)
    (hok : (({ s with connection := c }.setRequest id r).view id).Ok) :
    Sound ({ s with connection := c }.setRequest id r) :=
  h.one hc (fun _ hj => Function.update_of_ne hj ..) (fun _ _ => rfl) (fun hidle => absurd hidle hp) hok

/-- What the handler's stream then sees. -/
theorem view_setRequest (c : GatewayConnection) (r : Request) :
    ({ s with connection := c }.setRequest id r).view id =
      ⟨id ∈ c.httpHeadWaiters, id ∈ c.httpBodyStreams, c.gatewayClosed.isSome, s.phase.deliversTo id, r⟩ := by
  show View.mk _ _ _ _ (Function.update s.requests id r id) = _
  rw [Function.update_self]
  rfl

theorem BodyState.inPhase_eq_some {p : RequestPhase} {next : BodyState} :
    s.inPhase id p next = some t ↔ (s.requests id).phase = p ∧ next = t := by
  unfold BodyState.inPhase
  split <;> simp_all

/-- The handler goes to a phase without a response. -/
theorem sound_off {p : RequestPhase} {c : GatewayConnection} (h : Sound s)
    (hp : (s.requests id).phase ≠ .idle) (hc : SameBut id s.connection c)
    (hoff : p = .registering ∨ p = .failing ∨ p = .gone)
    (hhead : id ∈ c.httpHeadWaiters → (s.requests id).answer = none) :
    Sound ({ s with connection := c }.setPhase id p) := by
  refine h.handler hp hc ?_
  rw [view_setRequest]
  exact (h.views id).off hoff (fun hh => hhead (of_decide_eq_true hh)) rfl rfl

theorem Sound.answer_of_mem (h : Sound s) (hh : id ∈ s.connection.httpHeadWaiters) :
    (s.requests id).answer = none :=
  (h.views id).answer (decide_eq_true hh)

theorem sound_closeRequest {p : RequestPhase} (h : Sound s) (hp : (s.requests id).phase ≠ .idle)
    (hoff : p = .registering ∨ p = .failing ∨ p = .gone) : Sound (s.closeRequest id p) :=
  sound_off h hp (.closeRequest id _) hoff fun hh => absurd hh (Finset.notMem_erase id _)

theorem sound_gone (h : Sound s) (hp : (s.requests id).phase ≠ .idle) : Sound (s.setPhase id .gone) :=
  sound_off h hp (.refl id _) (.inr (.inr rfl)) h.answer_of_mem

/-- The handler goes on with the response, if there is one. -/
theorem sound_on {r : Request} (h : Sound s) (hp : (s.requests id).phase ≠ .idle)
    (hanswer : r.answer = (s.requests id).answer) (hearly : r.phase.early = false)
    (hawait : r.phase.awaits = true → (s.view id).head = true →
      (s.view id).body = true ∨ r.finished = true)
    (hsenders : r.channel.senders = (s.requests id).channel.senders)
    (hcut : r.hasBody = true → (s.view id).body = false → r.silent = true →
      (s.view id).lost = true ∧ (r.phase = .reading true → r.channel.items ≠ []))
    (hcomplete : r.Complete → r.finished = true) : Sound (s.setRequest id r) := by
  refine h.handler (c := s.connection) hp (.refl id _) ?_
  rw [view_setRequest]
  exact (h.views id).on (r := r) rfl hanswer hearly hawait hsenders hcut hcomplete

/-! ### The steps of a handler -/

theorem sound_start (h : Sound s) (hs : s.start = some t) : Sound t := by
  simp only [BodyState.start] at hs
  split at hs <;> cases hs
  have hidle := h.fresh s.connection.streamIds (Nat.le_refl _)
  have hnew := h.views s.connection.streamIds
  refine ⟨fun j => ?_, fun j hj => ?_⟩
  · by_cases hj : j = s.connection.streamIds
    · subst hj
      rw [BodyState.setPhase, view_setRequest]
      exact ⟨hnew.answer, fun _ => hnew.early (by rw [BodyState.view, hidle]; rfl), nofun, hnew.senders,
        nofun, nofun⟩
    · exact (h.views j).mono rfl rfl rfl (Function.update_of_ne hj ..) id
  · have hlt : s.connection.streamIds < j := hj
    exact (congrArg Request.phase (Function.update_of_ne (Nat.ne_of_gt hlt) ..)).trans
      (h.fresh j (Nat.le_of_lt hlt))

theorem sound_ready (h : Sound s) (hs : s.ready id = some t) : Sound t := by
  obtain ⟨_, hs⟩ := Option.ite_none_right_eq_some.mp hs
  obtain ⟨hp, rfl⟩ := BodyState.inPhase_eq_some.mp hs
  have hv := h.views id
  refine h.handler (c := s.connection) (by rw [hp]; nofun) (.refl id _) ?_
  rw [view_setRequest]
  exact ⟨hv.answer, fun _ => hv.early (by rw [BodyState.view, hp]; rfl), nofun, hv.senders, nofun, nofun⟩

theorem sound_register (h : Sound s) (hs : s.register id = some t) : Sound t := by
  obtain ⟨hp, rfl⟩ := BodyState.inPhase_eq_some.mp hs
  have hnone : (s.requests id).answer = none := ((h.views id).early (by rw [BodyState.view, hp]; rfl)).2.2
  exact sound_off h (by rw [hp]; nofun) (.register id _) (.inl rfl) fun _ => hnone

theorem sound_registerBody (h : Sound s) (hs : s.registerBody id = some t) : Sound t := by
  obtain ⟨hp, rfl⟩ := BodyState.inPhase_eq_some.mp hs
  have hv := h.views id
  have hbody : decide (id ∈ insert id s.connection.httpBodyStreams) = true :=
    decide_eq_true (Finset.mem_insert_self id _)
  refine h.handler (by rw [hp]; nofun) (.registerBody id _) ?_
  rw [view_setRequest]
  refine ⟨hv.answer, nofun, fun _ _ => .inl hbody, hv.senders, fun _ hb => ?_, nofun⟩
  have hb : decide (id ∈ insert id s.connection.httpBodyStreams) = false := hb
  rw [hbody] at hb
  cases hb

/-- From one phase in which the answer is awaited to another. -/
theorem sound_awaiting {upload : Bool} (h : Sound s) (hp : (s.requests id).phase.awaits = true) :
    Sound (s.setPhase id (.awaiting upload)) := by
  have hv := h.views id
  refine sound_on h (fun hidle => ?_) rfl rfl (fun _ => hv.awaiting hp) rfl (fun hb hn hs => ?_) nofun
  · rw [hidle] at hp
    cases hp
  · exact ⟨(hv.cut ((Request.hasBody_awaits hp).trans hb) hn hs).1, nofun⟩

/-- The client has the response. -/
theorem sound_answered (h : Sound s) (hp : (s.requests id).phase ≠ .idle)
    (hcut : (s.requests id).answer.any (fun answer => answer.toBool) = true → (s.view id).body = false →
      (s.requests id).silent = true → (s.view id).lost = true)
    (hs : s.answered id = some t) : Sound t := by
  unfold BodyState.answered at hs
  split at hs
  · rename_i head ha
    cases hs
    split
    · exact sound_on h hp rfl rfl nofun rfl (fun _ hn hs => ⟨hcut (by rw [ha]; rfl) hn hs, nofun⟩) nofun
    · exact sound_gone h hp
  · cases hs
    exact sound_closeRequest h hp (.inr (.inr rfl))
  · split at hs <;> cases hs
    exact sound_gone h hp

theorem sound_respond (h : Sound s) (hr : ErrorsArrive (.respond id) s) (hs : s.respond id = some t) :
    Sound t := by
  unfold BodyState.respond at hs
  split at hs
  · rename_i hp
    refine sound_answered h (by rw [hp]; nofun) (fun ha hn hs => ?_) hs
    have hb : (s.requests id).hasBody = true := (Request.hasBody_awaits (by rw [hp]; rfl)).trans ha
    exact ((h.views id).cut hb hn hs).1
  · rename_i hp
    refine sound_answered h (by rw [hp]; nofun) (fun _ hn hs => ?_) hs
    have hcut := hr hp
    simp only [BodyState.truncated, hs, Bool.and_true, decide_eq_false_iff_not, not_not] at hcut
    exact absurd hcut (of_decide_eq_false hn)
  · cases hs

theorem sound_poll (h : Sound s) (hs : s.poll id = some t) : Sound t := by
  obtain ⟨hp, rfl⟩ := BodyState.inPhase_eq_some.mp hs
  have hv := h.views id
  have hidle : (s.requests id).phase ≠ .idle := by rw [hp]; nofun
  split
  · exact sound_on h hidle rfl rfl nofun rfl nofun (fun hc => nomatch hc.2)
  · rename_i hopen
    refine sound_on h hidle rfl rfl nofun rfl (fun hb hn hs => ?_) nofun
    have hlost : s.connection.gatewayClosed.isSome = true :=
      (hv.cut ((Request.hasBody_reading hp).trans hb) hn hs).1
    rw [hopen] at hlost
    cases hlost

/-- An item given to the client leaves the rest of the body as it was. -/
theorem sound_recv (h : Sound s) (hs : s.recv id = some t) : Sound t := by
  obtain ⟨hp, rfl⟩ := BodyState.inPhase_eq_some.mp hs
  have hv := h.views id
  have hidle : (s.requests id).phase ≠ .idle := by rw [hp]; nofun
  split
  · rename_i bytes channel hr
    obtain ⟨hitems, _⟩ := BoundedChannel.recv_eq_some hr
    refine sound_on h hidle rfl rfl nofun (BoundedChannel.senders_recv hr) (fun hb hn hs => ?_) nofun
    have hs' : (s.requests id).silent = true := by
      unfold Request.silent
      rw [hitems]
      exact hs
    exact ⟨(hv.cut ((Request.hasBody_reading hp).trans hb) hn hs').1, nofun⟩
  · rename_i error channel hr
    exact sound_on h hidle rfl rfl nofun (BoundedChannel.senders_recv hr) nofun nofun
  · rename_i hr
    have hempty : (s.requests id).channel.items = [] := BoundedChannel.recv_eq_none.mp hr
    by_cases hsend : s.hasSender id = true
    · rw [if_pos hsend]
      refine sound_on h hidle rfl rfl nofun rfl (fun hb hn hs => ?_) nofun
      exact ⟨(hv.cut ((Request.hasBody_reading hp).trans hb) hn hs).1, nofun⟩
    · rw [if_neg hsend]
      refine sound_on h hidle rfl rfl nofun rfl nofun (fun hc => ?_)
      -- The channel is empty and has no sender: nothing but the gateway's word ends it so.
      show (s.requests id).finished = true
      by_contra hnot
      have hb : (s.requests id).hasBody = true := by
        have herr : (s.requests id).erred = false := hc.2
        rw [Request.hasBody_reading hp, herr]
        rfl
      have hn : (s.view id).body = false := by
        simp only [BodyState.hasSender, Bool.or_eq_true, not_or] at hsend
        exact Bool.eq_false_iff.mpr hsend.1
      have hs : (s.requests id).silent = true := by
        unfold Request.silent
        rw [hempty, Bool.eq_false_iff.mpr hnot]
        rfl
      exact (hv.cut hb hn hs).2 hp hempty

theorem sound_dropped (h : Sound s) (hs : s.dropped id = some t) : Sound t := by
  unfold BodyState.dropped at hs
  split at hs <;> cases hs
  rename_i hidle _
  exact sound_gone h hidle

/-! ### The steps of the session -/

theorem sound_connect (h : Sound s) (hr : ErrorsArrive .connect s) (hs : s.connect = some t) : Sound t := by
  unfold BodyState.connect at hs
  split at hs <;> cases hs
  rename_i hc
  refine ⟨fun j => ?_, h.fresh⟩
  have hv := h.views j
  have hdel : (s.view j).delivering = false := by
    rw [BodyState.view, hc.1]
    rfl
  refine ⟨hv.answer, hv.early, hv.awaiting, ?_, fun hb hn hs => ?_, hv.complete⟩
  · have hsenders := hv.senders
    rw [hdel] at hsenders
    exact hsenders
  · -- Under the rule no body was cut.
    have hj : j < s.connection.streamIds := by
      by_contra hlt
      have hb : (s.requests j).hasBody = true := hb
      unfold Request.hasBody at hb
      rw [h.fresh j (Nat.le_of_not_lt hlt)] at hb
      cases hb
    have hs : (s.requests j).silent = true := hs
    have hcut := hr j hj hb
    simp only [BodyState.truncated, hs, Bool.and_true, decide_eq_false_iff_not, not_not] at hcut
    exact absurd hcut (of_decide_eq_false hn)

/-- A notice is sent to an entry that the stream has. -/
theorem ifIn_view {α : Type} {map map' : Finset StreamId} {j : StreamId} {a : α} (h : map = map') :
    GatewayConnection.ifIn map j a = if decide (j ∈ map') = true then some a else none := by
  subst h
  unfold GatewayConnection.ifIn
  simp only [decide_eq_true_eq]

/-- **Closing**, whoever closes: the entries go, and `gateway_closed` is ready. -/
theorem sound_closing {c : GatewayConnection} {p : BodyPhase} (reason : String) (h : Sound s)
    (hids : c.streamIds = s.connection.streamIds) (hheads : c.httpHeadWaiters = s.connection.httpHeadWaiters)
    (hbodies : c.httpBodyStreams = s.connection.httpBodyStreams)
    (hdel : ∀ j, p.deliversTo j = s.phase.deliversTo j) :
    Sound (BodyState.notify (c.closeGatewayConnection reason).2
      { s with connection := (c.closeGatewayConnection reason).1, phase := p }) := by
  unfold GatewayConnection.closeGatewayConnection
  by_cases hclosed : c.closed = true
  · rw [if_pos hclosed]
    have hlost : c.gatewayClosed.isSome = true := by
      rw [Option.isSome_iff_ne_none, ne_eq, GatewayConnection.gatewayClosed_none, hclosed]
      exact fun hc => nomatch hc.2.1
    refine ⟨fun j => (h.views j).mono ?_ ?_ (hdel j) (Request.notified_nothing _) fun _ => hlost, fun j hj => ?_⟩
    · show decide (j ∈ c.httpHeadWaiters) = _
      rw [hheads]
      rfl
    · show decide (j ∈ c.httpBodyStreams) = _
      rw [hbodies]
      rfl
    · exact (Request.phase_notified ..).trans (h.fresh j (hids ▸ hj))
  · rw [if_neg hclosed]
    have hlost : ({ c with
        closed := true, tcpStreams := ∅, unknownStreams := ∅, openWaiters := ∅
        httpHeadWaiters := ∅, httpBodyStreams := ∅ } : GatewayConnection).gatewayClosed.isSome = true := by
      rw [Option.isSome_iff_ne_none, ne_eq, GatewayConnection.gatewayClosed_none]
      exact fun hc => nomatch hc.2.1
    refine ⟨fun j => ?_, fun j hj => ?_⟩
    · refine (h.views j).fail (n := c.closeNotices reason j) (ifIn_view hheads) (ifIn_view hbodies) rfl
        ?_ ?_ (hdel j) (fun _ => hlost) (fun _ _ _ => hlost)
      · exact decide_eq_false (Finset.notMem_empty j)
      · exact decide_eq_false (Finset.notMem_empty j)
    · exact (Request.phase_notified ..).trans (h.fresh j (hids ▸ hj))

theorem sound_close {reason : String} (h : Sound s) (hs : s.close reason = some t) : Sound t := by
  simp only [BodyState.close] at hs
  split at hs <;> cases hs
  rename_i hp
  exact sound_closing reason h rfl rfl rfl fun j => by rw [hp]; rfl

theorem sound_stop (reason : String) (h : Sound s) : Sound (s.stop reason) := by
  refine sound_closing (c := { s.connection with stopped := true }) reason h rfl rfl rfl fun _ => rfl

/-- A stop of the identity, in a phase in which the same is delivered. -/
theorem sound_stopped {p : BodyPhase} (error : GatewayError) (h : Sound s)
    (hdel : ∀ j, p.deliversTo j = s.phase.deliversTo j) :
    Sound (BodyState.notify (s.connection.stopIdentity error).2
      { s with connection := (s.connection.stopIdentity error).1, phase := p }) := by
  unfold GatewayConnection.stopIdentity
  by_cases hblocked : s.connection.identity.isSome = true
  · rw [if_pos hblocked]
    exact ⟨fun j => (h.views j).mono rfl rfl (hdel j) (Request.notified_nothing _) id, fun j hj =>
      (Request.phase_notified ..).trans (h.fresh j hj)⟩
  · rw [if_neg hblocked]
    exact sound_closing (c := { s.connection with identity := some error, stopped := true })
      error.message h rfl rfl rfl hdel

theorem sound_channel {channel : BodyChannel} {p : BodyPhase} (h : Sound s)
    (hp : ∀ j, j ≠ id → p.deliversTo j = s.phase.deliversTo j)
    (hsenders : channel.senders = if p.deliversTo id then [()] else [])
    (hall : channel.items.all (fun item => item.toBool) = true →
      (s.requests id).channel.items.all (fun item => item.toBool) = true)
    (hitems : (s.requests id).channel.items ≠ [] → channel.items ≠ []) :
    Sound { s.setChannel id channel with phase := p } := by
  have hreq : ({ s.setChannel id channel with phase := p } : BodyState).requests id =
      { s.requests id with channel } := Function.update_self ..
  refine h.one (.refl id _) (fun _ hj => Function.update_of_ne hj ..) hp (fun hi => ?_)
    ((h.views id).channel ?_ hsenders hall hitems)
  · rw [hreq]
    exact hi
  · show View.mk _ _ _ _ (({ s.setChannel id channel with phase := p } : BodyState).requests id) = _
    rw [hreq]
    rfl

/-- The waiting delivery ends without its frame. -/
theorem sound_withdraw {p : BodyPhase} (h : Sound s) (hp : ∀ j, p.deliversTo j = false) :
    Sound { s.withdraw with phase := p } := by
  unfold BodyState.withdraw
  split
  · rename_i id payload hphase
    have hsenders := (h.views id).senders
    have hdel : s.phase.deliversTo id = true := by
      rw [hphase]
      exact decide_eq_true rfl
    have hsenders : (s.requests id).channel.senders = [()] := hsenders.trans (if_pos hdel)
    refine sound_channel h (fun j hj => ?_) ?_ (fun ha => ?_) (fun hi => ?_)
    · rw [hphase]
      exact (hp j).trans (decide_eq_false (Ne.symm hj)).symm
    · rw [BoundedChannel.senders_withdraw, hsenders, hp id]
      rfl
    · rwa [BoundedChannel.withdraw_items] at ha
    · rwa [BoundedChannel.withdraw_items]
  · rename_i hnot
    have hdel : ∀ j, s.phase.deliversTo j = false := by
      intro j
      cases hphase : s.phase with
      | delivering id payload => exact absurd hphase (hnot id payload)
      | _ => rfl
    exact ⟨fun j => (h.views j).mono rfl rfl ((hp j).trans (hdel j).symm) rfl id, h.fresh⟩

theorem sound_lose (h : Sound s) (hs : s.lose = some t) : Sound t := by
  unfold BodyState.lose at hs
  split at hs <;> cases hs
  · exact sound_withdraw h fun _ => rfl
  · exact sound_withdraw h fun _ => rfl

/-- The entry of a body that nobody reads goes. -/
theorem sound_deaf (h : Sound s) (hl : (s.requests id).phase.listening = false) :
    Sound { s with connection := { s.connection with
      httpBodyStreams := s.connection.httpBodyStreams.erase id } } := by
  have hv := h.views id
  have hbody : decide (id ∈ s.connection.httpBodyStreams.erase id) = false :=
    decide_eq_false (Finset.notMem_erase id _)
  refine h.one (.endBody id _) (fun _ _ => rfl) (fun _ _ => rfl) (fun hi => hi)
    ⟨hv.answer, fun he => ⟨(hv.early he).1, hbody, (hv.early he).2.2⟩, fun hp => ?_, hv.senders,
      fun hb => ?_, hv.complete⟩
  · have hp : (s.requests id).phase.awaits = true := hp
    rw [Request.listening_of_awaits hp] at hl
    cases hl
  · have hb : (s.requests id).hasBody = true := hb
    rw [Request.listening_of_hasBody hb] at hl
    cases hl

theorem sound_undelivered (h : Sound s) (hs : s.undelivered = some t) : Sound t := by
  unfold BodyState.undelivered at hs
  split at hs
  · rename_i id payload hphase
    split at hs <;> cases hs
    rename_i hl
    have hw : s.withdraw = s.setChannel id ((s.requests id).channel.withdraw ()) := by
      rw [BodyState.withdraw, hphase]
    have hopen : Sound { s.withdraw with phase := .open } := sound_withdraw h fun _ => rfl
    rw [hw] at hopen ⊢
    refine sound_deaf hopen ?_
    have hreq : ({ s.setChannel id ((s.requests id).channel.withdraw ()) with phase := .open } :
        BodyState).requests id = { s.requests id with channel := (s.requests id).channel.withdraw () } :=
      Function.update_self ..
    rw [hreq]
    exact Bool.eq_false_iff.mpr hl
  · cases hs

theorem sound_delivered (h : Sound s) (hs : s.delivered = some t) : Sound t := by
  unfold BodyState.delivered at hs
  split at hs
  · rename_i id payload hphase
    obtain ⟨channel, hput, rfl⟩ := Option.map_eq_some_iff.mp hs
    obtain ⟨_, hitems, _⟩ := BoundedChannel.put_eq_some hput
    have hdel : s.phase.deliversTo id = true := by
      rw [hphase]
      exact decide_eq_true rfl
    have hsenders : (s.requests id).channel.senders = [()] := (h.views id).senders.trans (if_pos hdel)
    refine sound_channel h (fun j hj => ?_) ?_ (fun ha => ?_) (fun _ hnil => ?_)
    · rw [hphase]
      exact (decide_eq_false (Ne.symm hj)).symm
    · rw [BoundedChannel.senders_put hput, hsenders]
      rfl
    · rw [hitems, List.all_append, Bool.and_eq_true] at ha
      exact ha.1
    · rw [hitems] at hnil
      exact List.append_ne_nil_of_right_ne_nil _ (List.cons_ne_nil _ _) hnil
  · cases hs

theorem sound_data {payload : Bytes} (h : Sound s) (hs : s.data id payload = some t) : Sound t := by
  unfold BodyState.data at hs
  split at hs
  · rename_i hopen
    have hdel : ∀ j, s.phase.deliversTo j = false := fun j => by rw [hopen]; rfl
    have hsenders : (s.requests id).channel.senders = [] :=
      (h.views id).senders.trans (if_neg (by rw [BodyState.view, hdel]; nofun))
    split at hs
    · rename_i htarget
      split at hs
      · split at hs <;> cases hs
        · rename_i channel hsend
          obtain ⟨_, hitems, _⟩ := BoundedChannel.trySend_eq_some hsend
          refine sound_channel (p := s.phase) h (fun _ _ => rfl) ?_ (fun ha => ?_) (fun _ hnil => ?_)
          · rw [BoundedChannel.senders_trySend hsend, hsenders, hdel id]
            rfl
          · rw [hitems, List.all_append, Bool.and_eq_true] at ha
            exact ha.1
          · rw [hitems] at hnil
            exact List.append_ne_nil_of_right_ne_nil _ (List.cons_ne_nil _ _) hnil
        · refine sound_channel h (fun j hj => ?_) ?_ (fun ha => ?_) (fun hi => ?_)
          · rw [hdel j]
            exact decide_eq_false (Ne.symm hj)
          · rw [BoundedChannel.senders_request, hsenders]
            exact (if_pos (decide_eq_true rfl)).symm
          · rwa [BoundedChannel.request_items] at ha
          · rwa [BoundedChannel.request_items]
      · rename_i hl
        cases hs
        rw [GatewayConnection.removeChannel, htarget]
        exact sound_deaf h (Bool.eq_false_iff.mpr hl)
    · cases hs
      exact h
    · cases hs
      exact ⟨fun j => (h.views j).mono rfl rfl rfl rfl fun ho => ho, h.fresh⟩
  · cases hs

/-! ### The messages of the gateway -/

/-- A message that is about no response. -/
theorem sound_other {c : GatewayConnection} {notices : StreamId → Notices} {p : BodyPhase} (h : Sound s)
    (hids : c.streamIds = s.connection.streamIds) (hheads : c.httpHeadWaiters = s.connection.httpHeadWaiters)
    (hbodies : c.httpBodyStreams = s.connection.httpBodyStreams)
    (hlost : c.gatewayClosed = s.connection.gatewayClosed)
    (hdel : ∀ j, p.deliversTo j = s.phase.deliversTo j)
    (hn : ∀ j, (notices j).head = none ∧ (notices j).body = none) :
    Sound (BodyState.notify notices { s with connection := c, phase := p }) := by
  refine ⟨fun j => (h.views j).mono ?_ ?_ (hdel j) (Request.notified_of_none (hn j).1 (hn j).2) ?_,
    fun j hj => (Request.phase_notified ..).trans (h.fresh j (hids ▸ hj))⟩
  · show decide (j ∈ c.httpHeadWaiters) = _
    rw [hheads]
    rfl
  · show decide (j ∈ c.httpBodyStreams) = _
    rw [hbodies]
    rfl
  · intro ho
    show c.gatewayClosed.isSome = true
    rw [hlost]
    exact ho

/-- A message about one stream, with what the stream is told. -/
theorem Sound.told {c : GatewayConnection} {n : Notices} (h : Sound s) (hc : SameBut id s.connection c)
    (hok : View.Ok ⟨id ∈ c.httpHeadWaiters, id ∈ c.httpBodyStreams, c.gatewayClosed.isSome,
      s.phase.deliversTo id, (s.requests id).notified n⟩) :
    Sound (BodyState.notify (Notices.only id n) { s with connection := c }) := by
  refine h.one hc (fun j hj => ?_) (fun _ _ => rfl) (fun hi => (Request.phase_notified ..).trans hi) ?_
  · show (s.requests j).notified (Notices.only id n j) = _
    rw [Notices.only_ne n hj, Request.notified_nothing]
  · show View.Ok ⟨_, _, _, _, (s.requests id).notified (Notices.only id n id)⟩
    rw [Notices.only_self]
    exact hok

/-- **HttpResponseStart**: the stream that waits for it has its channel, or the
response has ended already. -/
theorem sound_responseStart {response : HttpResponseHead} (h : Sound s) :
    Sound (BodyState.notify
      (Notices.only id { head := GatewayConnection.ifIn s.connection.httpHeadWaiters id (.ok response) })
      { s with connection := { s.connection with
        httpHeadWaiters := s.connection.httpHeadWaiters.erase id } }) := by
  have hv := h.views id
  have hhead : decide (id ∈ s.connection.httpHeadWaiters.erase id) = false :=
    decide_eq_false (Finset.notMem_erase id _)
  refine h.told (.answer id _) ?_
  by_cases hmem : id ∈ s.connection.httpHeadWaiters
  · have hreq : (s.requests id).notified
        { head := GatewayConnection.ifIn s.connection.httpHeadWaiters id (.ok response) } =
        { s.requests id with answer := some (.ok response) } := by
      unfold Request.notified
      rw [h.answer_of_mem hmem, GatewayConnection.ifIn, if_pos hmem]
      rfl
    have hvh : (s.view id).head = true := decide_eq_true hmem
    rw [hreq, hhead]
    refine ⟨nofun, fun he => ?_, nofun, hv.senders, fun hb hn hs => ?_, hv.complete⟩
    · rw [(hv.early he).1] at hvh
      cases hvh
    · have hs' : (s.requests id).silent = true := hs
      have hn' : (s.view id).body = false := hn
      rcases Request.hasBody_cases hb with hp | ⟨polled, hp⟩
      · exfalso
        rcases hv.awaiting hp hvh with hbody | hfin
        · rw [hn'] at hbody
          cases hbody
        · have hfin : (s.requests id).finished = true := hfin
          rw [Request.silent, hfin, Bool.not_true, Bool.and_false] at hs'
          cases hs'
      · have hp : (s.requests id).phase = .reading polled := hp
        have hread : ({ s.requests id with answer := some (.ok response) } : Request).hasBody =
            !(s.requests id).erred := Request.hasBody_reading hp
        exact hv.cut ((Request.hasBody_reading hp).trans (hread.symm.trans hb)) hn' hs'
  · have hsame : decide (id ∈ s.connection.httpHeadWaiters.erase id) = (s.view id).head := by
      rw [hhead]
      exact (decide_eq_false hmem).symm
    rw [Request.notified_of_none (if_neg hmem) rfl, hsame]
    exact hv

/-- **HttpResponseEnd**: the entry goes without an error. -/
theorem sound_responseEnd (h : Sound s) :
    Sound ((BodyState.notify Notices.nothing { s with connection := { s.connection with
      httpBodyStreams := s.connection.httpBodyStreams.erase id } }).mark (.httpResponseEnd id)) := by
  have hv := h.views id
  have hbody : decide (id ∈ s.connection.httpBodyStreams.erase id) = false :=
    decide_eq_false (Finset.notMem_erase id _)
  have hnothing : ∀ j, (s.requests j).notified (Notices.nothing j) = s.requests j :=
    fun j => Request.notified_nothing _
  have hreq : ((BodyState.notify Notices.nothing { s with connection := { s.connection with
      httpBodyStreams := s.connection.httpBodyStreams.erase id } }).mark (.httpResponseEnd id)).requests id =
      { s.requests id with finished := true } := by
    refine (Function.update_self ..).trans ?_
    show ({ (s.requests id).notified (Notices.nothing id) with finished := true } : Request) = _
    rw [hnothing]
  refine h.one (.endBody id _) (fun j hj => ?_) (fun _ _ => rfl) (fun hi => ?_) ?_
  · exact (Function.update_of_ne hj ..).trans (hnothing j)
  · rw [hreq]
    exact hi
  · unfold BodyState.view
    rw [hreq]
    refine ⟨hv.answer, fun he => ⟨(hv.early he).1, hbody, (hv.early he).2.2⟩, fun _ _ => .inr rfl,
      hv.senders, fun _ _ hs => ?_, fun _ => rfl⟩
    rw [Request.silent, Bool.not_true, Bool.and_false] at hs
    cases hs

/-- **Close and Error**: the entries go with an error, which finds room. -/
theorem sound_fail {c : GatewayConnection} {error : GatewayError} {body : Error} (h : Sound s)
    (hc : SameBut id s.connection c) (hheads : id ∉ c.httpHeadWaiters) (hbodies : id ∉ c.httpBodyStreams)
    (hroom : (s.requests id).hasBody = true → id ∈ s.connection.httpBodyStreams →
      ¬ (s.requests id).channel.Full) :
    Sound (BodyState.notify (Notices.only id (s.connection.errorNotices id error body))
      { s with connection := c }) := by
  refine h.told hc ((h.views id).fail (n := s.connection.errorNotices id error body) (ifIn_view rfl)
    (ifIn_view rfl) rfl (decide_eq_false hheads) (decide_eq_false hbodies) rfl ?_ ?_)
  · intro ho
    show c.gatewayClosed.isSome = true
    rw [hc.lost]
    exact ho
  · intro hb hm hf
    exact absurd hf (hroom hb (of_decide_eq_true hm))

theorem sound_message {m : Message} (h : Sound s) (hr : ErrorsArrive (.message m) s)
    (hs : s.message m = some t) : Sound t := by
  unfold BodyState.message at hs
  split at hs
  · rename_i hopen
    have hended : ∀ j, BodyPhase.ended.deliversTo j = s.phase.deliversTo j := fun j => by rw [hopen]; rfl
    cases m with
    | openOk id =>
      cases hs
      exact sound_other h rfl rfl rfl rfl (fun _ => rfl) fun j => by
        unfold Notices.only
        split <;> exact ⟨rfl, rfl⟩
    | httpResponseStart id response =>
      cases hs
      exact sound_responseStart h
    | httpResponseEnd id =>
      cases hs
      exact sound_responseEnd h
    | close id reason =>
      cases hs
      exact sound_fail h (.closeStream id _) (Finset.notMem_erase id _) (Finset.notMem_erase id _) (hr id rfl)
    | error id code text =>
      cases id with
      | some id =>
        cases hs
        exact sound_fail h (.failStream id _) (Finset.notMem_erase id _) (Finset.notMem_erase id _) (hr id rfl)
      | none =>
        cases hterminal : (⟨code, text⟩ : GatewayError).terminal with
        | true =>
          simp only [GatewayConnection.handleGatewayMessage, hterminal, if_true] at hs
          cases hs
          exact sound_stopped _ h hended
        | false =>
          simp only [GatewayConnection.handleGatewayMessage, hterminal] at hs
          cases hs
          exact sound_other h rfl rfl rfl rfl hended fun _ => ⟨rfl, rfl⟩
    | ping =>
      cases hs
      exact h
    | tcpEof id =>
      cases hs
      exact sound_other h rfl rfl rfl rfl (fun _ => rfl) fun _ => ⟨rfl, rfl⟩
    | httpResponse id response =>
      cases hs
      exact sound_other h rfl rfl rfl rfl (fun _ => rfl) fun _ => ⟨rfl, rfl⟩
    | pong =>
      cases hs
      exact sound_other h rfl rfl rfl rfl (fun _ => rfl) fun _ => ⟨rfl, rfl⟩
    | _ =>
      cases hs
      exact sound_other h rfl rfl rfl rfl hended fun _ => ⟨rfl, rfl⟩
  · cases hs

end Steps

/-! ### The runs -/

theorem sound_initial : Sound {} where
  views _ := ⟨nofun, fun _ => ⟨rfl, rfl, rfl⟩, nofun, rfl, nofun, nofun⟩
  fresh _ _ := rfl

theorem sound_step {op : BodyOp} {s t : BodyState} (h : Sound s) (hr : ErrorsArrive op s)
    (hs : responseBodies.step op s = some t) : Sound t := by
  cases op with
  | connect => exact sound_connect h hr hs
  | message m => exact sound_message h hr hs
  | data id payload => exact sound_data h hs
  | delivered => exact sound_delivered h hs
  | undelivered => exact sound_undelivered h hs
  | lose => exact sound_lose h hs
  | close reason => exact sound_close h hs
  | stop reason =>
    cases hs
    exact sound_stop reason h
  | stopIdentity error =>
    cases hs
    exact sound_stopped error h fun _ => rfl
  | start => exact sound_start h hs
  | ready id => exact sound_ready h hs
  | register id => exact sound_register h hs
  | registerBody id => exact sound_registerBody h hs
  | submitted id =>
    obtain ⟨hp, rfl⟩ := BodyState.inPhase_eq_some.mp hs
    exact sound_awaiting h (by rw [hp]; rfl)
  | refused id =>
    obtain ⟨hp, rfl⟩ := BodyState.inPhase_eq_some.mp hs
    exact sound_closeRequest h (by rw [hp]; nofun) (.inr (.inr rfl))
  | uploadEnd id =>
    obtain ⟨hp, rfl⟩ := BodyState.inPhase_eq_some.mp hs
    exact sound_awaiting h (by rw [hp]; rfl)
  | uploadRefused id =>
    obtain ⟨hp, rfl⟩ := BodyState.inPhase_eq_some.mp hs
    exact sound_closeRequest h (by rw [hp]; nofun) (.inr (.inr rfl))
  | uploadFails id =>
    obtain ⟨hp, rfl⟩ := BodyState.inPhase_eq_some.mp hs
    exact sound_closeRequest h (by rw [hp]; nofun) (.inr (.inl rfl))
  | closeSent id =>
    obtain ⟨hp, rfl⟩ := BodyState.inPhase_eq_some.mp hs
    exact sound_gone h (by rw [hp]; nofun)
  | respond id => exact sound_respond h hr hs
  | poll id => exact sound_poll h hs
  | recv id => exact sound_recv h hs
  | dropped id => exact sound_dropped h hs

theorem reachable_sound {s : BodyState} (h : responseBodies.ReachableUnder ErrorsArrive s) : Sound s :=
  h.invariant (fun _ hi => hi ▸ sound_initial) (fun _ _ _ _ hp hr hs => sound_step hp hr hs)

/-- **The main result.** Under the rule, a body that ends without an error is whole: the
gateway's HttpResponseEnd for the stream was processed. -/
theorem complete_finished {s : BodyState} (h : responseBodies.ReachableUnder ErrorsArrive s)
    {id : StreamId} (hc : (s.requests id).Complete) : (s.requests id).finished = true :=
  ((reachable_sound h).views id).complete hc

/-- A client asks for a page, and has the head of the response. -/
def requestOps : List BodyOp :=
  [.connect, .start, .ready 1, .register 1, .registerBody 1, .submitted 1, .uploadEnd 1,
   .message (.httpResponseStart 1 ⟨200, []⟩), .respond 1]

/-- It reads so many chunks, and polls again. -/
def readOps (chunks : Nat) : List BodyOp := (List.replicate (chunks + 1) [.poll 1, .recv 1]).flatten

/-- The response is whole, and a Close comes after it. -/
def wholeOps : List BodyOp :=
  requestOps ++ [.data 1 [72, 105], .message (.httpResponseEnd 1), .message (.close 1 "done")] ++ readOps 1

def wholeState : BodyState := (responseBodies.runUnder ErrorsArrive wholeOps {}).getD {}

theorem complete_finished_wholeState :
    (wholeState.requests 1).Complete ∧ (wholeState.requests 1).finished = true := by
  have hreach : responseBodies.ReachableUnder ErrorsArrive wholeState :=
    Machine.reachable_getD rfl (by decide +kernel)
  have hc : (wholeState.requests 1).Complete := by
    refine ⟨?_, ?_⟩ <;> decide +kernel
  exact ⟨hc, complete_finished hreach hc⟩

/-- The channel is full when the target fails and the gateway closes the stream; the
client reads what is in it, and then the end. -/
def cutOps : List BodyOp :=
  requestOps ++ List.replicate bodyCapacity (.data 1 [0]) ++ [.message (.close 1 "target_error")] ++
    readOps bodyCapacity

def cutState : BodyState := (responseBodies.run cutOps {}).getD {}

/-- The channel is full when the session is lost, and the client does not poll before
the next session. -/
def lostOps : List BodyOp :=
  requestOps ++ List.replicate bodyCapacity (.data 1 [0]) ++ [.lose, .close "closed", .connect] ++
    readOps bodyCapacity

def lostState : BodyState := (responseBodies.run lostOps {}).getD {}

theorem cut_short :
    responseBodies.Reachable cutState ∧ (cutState.requests 1).Complete ∧
      (cutState.requests 1).finished = false ∧ responseBodies.Reachable lostState ∧
      (lostState.requests 1).Complete ∧ (lostState.requests 1).finished = false := by
  refine ⟨Machine.reachable_getD rfl ?_, ⟨?_, ?_⟩, ?_, Machine.reachable_getD rfl ?_, ⟨?_, ?_⟩, ?_⟩ <;>
    decide +kernel

end WsNet.Access
