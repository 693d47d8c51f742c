import WsNet.Access.Isolation

/-! The upload of an HTTP request's body.

A handler sends `HttpRequestStart`, then the chunks of the body as it reads them, then
`HttpRequestEnd`. The upload is a future raced against the response head: when the head
is there first, or the handler is dropped, the rest of the upload goes with it, and the
gateway is told nothing.

To the session's state belongs here what each handler has read from its body and put
into the queue, and which streams the gateway or the end of a session has ended. -/
namespace WsNet.Access
open Data Transition

/-- The handler is at its upload: a part of it, or the Close after a failure. -/
def HandlerPhase.uploads : HandlerPhase → Bool
  | awaiting upload => upload
  | uploading _ _ | failing _ => true
  | _ => false

structure UploadState where
  session : SessionState
  /-- The chunks of its request's body that a handler has read. -/
  read : StreamId → List Bytes := fun _ => []
  /-- What a handler has put into the queue. -/
  sent : StreamId → List WsMessage := fun _ => []
  /-- The streams that were ended by the gateway or with a session. -/
  ended : StreamId → Bool := fun _ => false

/-- The handler whose step it is, the one that the step starts included. -/
def SessionOp.actor (op : SessionOp) (s : SessionState) : Option StreamId :=
  match op with
  | .openTcp _ _ | .startHttp _ _ _ => some s.connection.streamIds
  | op => op.handler

/-- The chunk that the step reads. -/
def SessionOp.chunk : SessionOp → List Bytes
  | .upload _ chunk => [chunk]
  | _ => []

/-- The step ends the stream, the session being then as it is. -/
def SessionOp.ends (op : SessionOp) (t : SessionState) (id : StreamId) : Bool :=
  match op with
  | .message (.close j _) | .message (.error (some j) _ _) => j = id
  | .message _ | .lost _ => !t.phase.running
  | _ => false

section Machine
variable [MessageCodec]

namespace UploadState

def start : UploadState where
  session := .start

/-- The step to the session's next state. -/
def record (op : SessionOp) (t : SessionState) (s : UploadState) : UploadState where
  session := t
  read id := if op.actor s.session = some id then s.read id ++ op.chunk else s.read id
  sent id :=
    if op.actor s.session = some id then
      s.sent id ++ t.outbound.items.drop s.session.outbound.items.length
    else s.sent id
  ended id := s.ended id || (decide (id < s.session.connection.streamIds) && op.ends t id)

/-- An empty chunk is read, and nothing is sent. -/
def skip (id : StreamId) (s : UploadState) : Option UploadState :=
  if (s.session.streams id).phase = .awaiting true then
    some { s with read := Function.update s.read id (s.read id ++ [[]]) }
  else none

end UploadState

def requestUploads : Machine UploadState SessionOp where
  Initial := fun s => s = .start
  step
    | .upload id [], s => s.skip id
    | op, s => (session.step op s.session).map fun t => s.record op t

/-! ### What an upload has to send -/

def StartsRequest (id : StreamId) (m : WsMessage) : Prop :=
  ∃ target config request, m = .text (encodeMessage (.httpRequestStart id target config request))

omit [MessageCodec] in
/-- The chunks that are not empty, each as a data frame. -/
def frames (id : StreamId) (read : List Bytes) : List WsMessage :=
  (read.filter fun chunk => !chunk.isEmpty).map fun chunk => .binary (encodeDataFrame id chunk)

/-- The start, every chunk in order, and the end. -/
def Whole (id : StreamId) (sent : List WsMessage) (read : List Bytes) : Prop :=
  ∃ m, StartsRequest id m ∧ sent = m :: (frames id read ++ [.text (encodeMessage (.httpRequestEnd id))])

def CloseSent (id : StreamId) (sent : List WsMessage) : Prop :=
  ∃ reason, .text (encodeMessage (.close id reason)) ∈ sent

/-- A request whose start was sent is still being uploaded, in order; or it was sent to
its end; or a Close was; or the gateway or the end of a session has ended it. -/
def Kept (id : StreamId) (sent : List WsMessage) (read : List Bytes) (ended : Bool) (st : Stream) : Prop :=
  st.mode = .http → sent ≠ [] →
    st.phase.uploads = true ∧ (∃ m, StartsRequest id m ∧ sent <+: m :: frames id read) ∨
      Whole id sent read ∨ CloseSent id sent ∨ ended = true

def UploadsKept (s : UploadState) : Prop :=
  ∀ id, Kept id (s.sent id) (s.read id) (s.ended id) (s.session.streams id)

/-- No upload is left before its end, but one that was ended. -/
def NotCut (op : SessionOp) (s : UploadState) : Prop :=
  match op with
  | .answered id | .dropped id =>
    (s.session.streams id).mode = .http → (s.session.streams id).phase.uploads = true → s.ended id = true
  | _ => True

/-! ### What a handler has sent, by its phase -/

def Progress (id : StreamId) (sent : List WsMessage) (read : List Bytes) : HandlerPhase → Prop
  | .submitting m => StartsRequest id m ∧ sent = [] ∧ frames id read = []
  | .awaiting true => ∃ m, StartsRequest id m ∧ sent = m :: frames id read
  | .awaiting false => Whole id sent read
  | .uploading m false => sent ≠ [] ∧ ∃ m', StartsRequest id m' ∧ sent ++ [m] = m' :: frames id read
  | .uploading m true =>
    m = .text (encodeMessage (.httpRequestEnd id)) ∧ ∃ m', StartsRequest id m' ∧ sent = m' :: frames id read
  | .failing m =>
    (∃ reason, m = .text (encodeMessage (.close id reason))) ∧
      ∃ m', StartsRequest id m' ∧ sent = m' :: frames id read
  | .idle | .reading | .gone => True
  | .forwarding | .sending _ | .writing | .closing _ => False

variable {id : StreamId} {sent put : List WsMessage} {read : List Bytes} {ended : Bool}
  {st st' : Stream} {phase : HandlerPhase} {op : SessionOp} {c : GatewayConnection}

omit [MessageCodec] in
theorem frames_append (chunk : Bytes) (h : chunk ≠ []) :
    frames id (read ++ [chunk]) = frames id read ++ [.binary (encodeDataFrame id chunk)] := by
  simp [frames, h]

/-- In an upload no more was sent than its start and the chunks. -/
theorem Progress.inOrder (h : Progress id sent read phase) (hp : phase.uploads = true) :
    ∃ m, StartsRequest id m ∧ sent <+: m :: frames id read := by
  cases phase with
  | awaiting upload =>
    cases hp
    obtain ⟨m, hm, rfl⟩ := h
    exact ⟨m, hm, List.prefix_rfl⟩
  | uploading m last =>
    cases last with
    | false =>
      obtain ⟨_, m', hm, heq⟩ := h
      exact ⟨m', hm, heq ▸ List.prefix_append _ _⟩
    | true =>
      obtain ⟨_, m', hm, rfl⟩ := h
      exact ⟨m', hm, List.prefix_rfl⟩
  | failing m =>
    obtain ⟨_, m', hm, rfl⟩ := h
    exact ⟨m', hm, List.prefix_rfl⟩
  | _ => cases hp

theorem Progress.sent_ne_nil (h : Progress id sent read phase) (hp : phase.uploads = true) : sent ≠ [] := by
  cases phase with
  | awaiting upload =>
    cases hp
    obtain ⟨m, _, rfl⟩ := h
    exact nofun
  | uploading m last =>
    cases last with
    | false => exact h.1
    | true =>
      obtain ⟨_, m', _, rfl⟩ := h
      exact nofun
  | failing m =>
    obtain ⟨_, m', _, rfl⟩ := h
    exact nofun
  | _ => cases hp

/-- Nor is the stream's end among it, or a Close. -/
theorem Progress.unfinished (h : Progress id sent read phase) (hp : phase.uploads = true) :
    .text (encodeMessage (.httpRequestEnd id)) ∉ sent ∧ ¬ CloseSent id sent := by
  obtain ⟨m, ⟨target, config, request, rfl⟩, hsub⟩ := h.inOrder hp
  have other : ∀ m' : Message, .text (encodeMessage m') ∈ sent → ∃ t c r, m' = .httpRequestStart id t c r := by
    intro m' hmem
    rcases List.mem_cons.mp (hsub.subset hmem) with heq | hmem
    · exact ⟨_, _, _, encodeMessage_inj (WsMessage.text.inj heq)⟩
    · obtain ⟨chunk, _, heq⟩ := List.mem_map.mp hmem
      cases heq
  constructor
  · intro hmem
    obtain ⟨_, _, _, heq⟩ := other _ hmem
    cases heq
  · rintro ⟨reason, hmem⟩
    obtain ⟨_, _, _, heq⟩ := other _ hmem
    cases heq

theorem Whole.end_mem (h : Whole id sent read) : .text (encodeMessage (.httpRequestEnd id)) ∈ sent := by
  obtain ⟨m, _, rfl⟩ := h
  simp

/-- What a handler submits in an upload. -/
inductive Uploads (id : StreamId) : SessionOp → HandlerPhase → Prop where
  | chunk (chunk : Bytes) : Uploads id (.upload id chunk) (.uploading (.binary (encodeDataFrame id chunk)) false)
  | finish : Uploads id (.uploadEnd id) (.uploading (.text (encodeMessage (.httpRequestEnd id))) true)
  | fails : Uploads id (.uploadFails id) (.failing (.text (encodeMessage (.close id "request_body_read_failed"))))

/-- A handler of HTTP submits in its upload only. -/
theorem Progress.submits (hp : Progress id sent read st.phase) (h : Submits id st op phase)
    (hmode : st.mode = .http) : st.phase = .awaiting true ∧ Uploads id op phase := by
  have now : ∀ {phase}, st.phase = phase → Progress id sent read phase := fun h => h ▸ hp
  cases h with
  | openTimeout hm => cases hmode.symm.trans hm
  | upload hphase => exact ⟨hphase, .chunk _⟩
  | uploadEnd hphase => exact ⟨hphase, .finish⟩
  | uploadFails hphase => exact ⟨hphase, .fails⟩
  | readLocal hphase | localEof hphase => exact False.elim (now hphase)
  | finish hphase =>
    rcases hphase with hphase | hphase
    · exact False.elim (now hphase)
    · exact False.elim (now hphase)
  | closedSeen hphase =>
    rcases hphase with hphase | ⟨m, hphase⟩ | hphase
    · exact False.elim (now hphase)
    · exact False.elim (now hphase)
    · exact False.elim (now hphase)

/-- What a handler's step sends fits its next phase. -/
theorem Turn.progress (h : Turn c id st op st' put) (hmode : st.mode = .http)
    (hchunk : ∀ chunk, op = .upload id chunk → chunk ≠ []) (hp : Progress id sent read st.phase) :
    Progress id (sent ++ put) (read ++ op.chunk) st'.phase := by
  have now : ∀ {phase}, st.phase = phase → Progress id sent read phase := fun h => h ▸ hp
  cases h with
  | enqueued hm =>
    cases hphase : st.phase with
    | submitting m =>
      rw [hphase] at hm
      cases hm
      obtain ⟨hstart, rfl, hread⟩ := now hphase
      rw [hmode]
      exact ⟨_, hstart, by simp [SessionOp.chunk, hread]⟩
    | uploading m last =>
      rw [hphase] at hm
      cases hm
      cases last with
      | false =>
        obtain ⟨_, m', hm', heq⟩ := now hphase
        exact ⟨m', hm', heq.trans (by simp [SessionOp.chunk])⟩
      | true =>
        obtain ⟨rfl, m', hm', rfl⟩ := now hphase
        exact ⟨m', hm', by simp [SessionOp.chunk]⟩
    | failing m => trivial
    | sending m => exact False.elim (now hphase)
    | closing m => trivial
    | _ =>
      rw [hphase] at hm
      cases hm
  | opened hp' ha =>
    rw [hmode]
    trivial
  | put h hm =>
    obtain ⟨hawaits, hup⟩ := hp.submits h hmode
    obtain ⟨m, hstart, rfl⟩ := now hawaits
    cases hup with
    | chunk chunk =>
      cases hm
      exact ⟨m, hstart, by simp [SessionOp.chunk, frames_append chunk (hchunk chunk rfl)]⟩
    | finish =>
      cases hm
      exact ⟨m, hstart, by simp [SessionOp.chunk]⟩
    | fails => trivial
  | wait h =>
    obtain ⟨hawaits, hup⟩ := hp.submits h hmode
    obtain ⟨m, hstart, rfl⟩ := now hawaits
    cases hup with
    | chunk chunk =>
      exact ⟨by simp, m, hstart, by simp [SessionOp.chunk, frames_append chunk (hchunk chunk rfl)]⟩
    | finish => exact ⟨rfl, m, hstart, by simp [SessionOp.chunk]⟩
    | fails => exact ⟨⟨_, rfl⟩, m, hstart, by simp [SessionOp.chunk]⟩
  | unsent hp' => exact False.elim (now hp')
  | recvRemote hp' => exact False.elim (now hp')
  | remoteEof hp' => exact False.elim (now hp')
  | wrote hp' => exact False.elim (now hp')
  | clientReads hp' =>
    show Progress id (sent ++ []) (read ++ []) st.phase
    rw [hp']
    trivial
  | _ => trivial

/-- A request whose handler is at work is in order. -/
theorem Progress.kept (h : Progress id sent read st.phase)
    (hne : st.phase ≠ .idle ∧ st.phase ≠ .reading ∧ st.phase ≠ .gone) : Kept id sent read ended st := by
  intro _ hsent
  by_cases hup : st.phase.uploads = true
  · exact .inl ⟨hup, h.inOrder hup⟩
  refine .inr (.inl ?_)
  cases hp : st.phase with
  | submitting m =>
    rw [hp] at h
    exact absurd h.2.1 hsent
  | awaiting upload =>
    rw [hp] at h hup
    cases upload with
    | true => exact absurd rfl hup
    | false => exact h
  | uploading m last => exact absurd (by rw [hp]; rfl) hup
  | failing m => exact absurd (by rw [hp]; rfl) hup
  | idle => exact absurd hp hne.1
  | reading => exact absurd hp hne.2.1
  | gone => exact absurd hp hne.2.2
  | _ =>
    rw [hp] at h
    exact False.elim h

/-- A handler that leaves when its upload is over, or was ended, leaves it kept. -/
theorem Kept.left {phase' : HandlerPhase} (h : Kept id sent read ended st)
    (hq : st.mode = .http → st.phase.uploads = true → ended = true) :
    Kept id sent read ended { st with phase := phase' } := by
  intro hmode hsent
  rcases h hmode hsent with ⟨hup, _⟩ | hdone
  · exact .inr (.inr (.inr (hq hmode hup)))
  · exact .inr hdone

/-- **A handler's step keeps the uploads** where it leaves none before its end. -/
theorem Turn.kept (h : Turn c id st op st' put)
    (hchunk : ∀ chunk, op = .upload id chunk → chunk ≠ [])
    (hp : st.mode = .http → Progress id sent read st.phase) (hkept : Kept id sent read ended st)
    (hclosed : c.ensureGatewayOpen ≠ .ok () → ended = true)
    (hq : op = .answered id ∨ op = .dropped id → st.mode = .http → st.phase.uploads = true → ended = true) :
    Kept id (sent ++ put) (read ++ op.chunk) ended st' := by
  have left : ∀ {phase'}, op = .answered id ∨ op = .dropped id →
      Kept id (sent ++ []) (read ++ []) ended { st with phase := phase' } := by
    intro phase' hop
    rw [List.append_nil, List.append_nil]
    exact hkept.left (hq hop)
  have next : st'.phase ≠ .idle ∧ st'.phase ≠ .reading ∧ st'.phase ≠ .gone →
      st'.mode = st.mode → Kept id (sent ++ put) (read ++ op.chunk) ended st' := by
    intro hne hmode' hmode hsent
    have hhttp := hmode'.symm.trans hmode
    exact (h.progress hhttp hchunk (hp hhttp)).kept hne hmode hsent
  have now : ∀ {phase}, st.mode = .http → st.phase = phase → Progress id sent read phase :=
    fun hmode h => h ▸ hp hmode
  cases h with
  | enqueued hm =>
    cases hphase : st.phase with
    | submitting m =>
      rw [← hphase]
      exact next (by simp [hphase, HandlerPhase.next]) rfl
    | uploading m last =>
      rw [← hphase]
      exact next (by simp [hphase, HandlerPhase.next]) rfl
    | failing m =>
      intro hmode _
      rw [hphase] at hm
      cases hm
      obtain ⟨⟨reason, rfl⟩, _⟩ := now hmode hphase
      exact .inr (.inr (.inl ⟨reason, by simp⟩))
    | sending m => exact fun hmode _ => False.elim (now hmode hphase)
    | closing m => exact fun hmode _ => False.elim (now hmode hphase)
    | _ =>
      rw [hphase] at hm
      cases hm
  | opened hp' ha => exact left (.inl rfl)
  | early hp' ha => exact left (.inl rfl)
  | failed hp' => exact left (.inl rfl)
  | dropped => exact left (.inr rfl)
  | put h hm =>
    intro hmode hsent
    have hhttp : st.mode = .http := (ending_mode op st).symm.trans hmode
    cases ((hp hhttp).submits h hhttp).2 with
    | chunk => exact next (by simp [HandlerPhase.next]) rfl hmode hsent
    | finish => exact next (by simp [HandlerPhase.next]) rfl hmode hsent
    | fails =>
      cases hm
      exact .inr (.inr (.inl ⟨_, List.mem_append_right _ (List.mem_singleton_self _)⟩))
  | wait h =>
    refine next ?_ (ending_mode op st)
    cases h <;> simp
  | refused h hc => exact fun _ _ => .inr (.inr (.inr (hclosed hc)))
  | clientReads hp' =>
    intro hmode hsent
    rw [List.append_nil] at hsent
    simpa [SessionOp.chunk] using hkept hmode hsent
  | bodyClosed hp' =>
    show Kept id (sent ++ []) (read ++ []) ended _
    rw [List.append_nil, List.append_nil]
    exact hkept.left fun _ hup => by rw [hp'] at hup; cases hup
  | unsent hp' => exact fun hmode _ => False.elim (now hmode hp')
  | recvRemote hp' => exact fun hmode _ => False.elim (now hmode hp')
  | remoteEof hp' => exact fun hmode _ => False.elim (now hmode hp')
  | wrote hp' => exact fun hmode _ => False.elim (now hmode hp')

/-- A handler that leaves its upload before the end leaves it kept only if it was ended. -/
theorem Turn.cut (h : Turn c id st op st' put) (hop : op = .answered id ∨ op = .dropped id)
    (hp : Progress id sent read st.phase) (hmode : st.mode = .http) (hup : st.phase.uploads = true)
    (hkept : Kept id (sent ++ put) (read ++ op.chunk) ended st') : ended = true := by
  have left : put = [] ∧ op.chunk = [] ∧ st'.mode = .http ∧ st'.phase.uploads = false := by
    rcases hop with rfl | rfl
    · cases h with
      | opened hp' ha => exact ⟨rfl, rfl, hmode, by rw [hmode]; rfl⟩
      | early hp' ha => exact ⟨rfl, rfl, hmode, rfl⟩
      | failed hp' => exact ⟨rfl, rfl, hmode, rfl⟩
      | put h | wait h | refused h => cases h
    · cases h with
      | dropped => exact ⟨rfl, rfl, hmode, rfl⟩
      | put h | wait h | refused h => cases h
  obtain ⟨rfl, hchunk, hmode', hup'⟩ := left
  rw [hchunk, List.append_nil, List.append_nil] at hkept
  obtain ⟨hend, hclose⟩ := hp.unfinished hup
  rcases hkept hmode' (hp.sent_ne_nil hup) with ⟨hup'', _⟩ | hwhole | hsent | hended
  · rw [hup'] at hup''
    cases hup''
  · exact absurd hwhole.end_mem hend
  · exact absurd hsent hclose
  · exact hended

/-! ### The end of a session -/

omit [MessageCodec] in
/-- A message that is dealt with leaves the connection as open as it was. -/
theorem handled_isOpen {m : Message} {d : GatewayConnection} {notices : StreamId → Notices}
    (h : c.handleGatewayMessage m = .done d notices) : d.ensureGatewayOpen = c.ensureGatewayOpen := by
  cases m with
  | error stream code text =>
    cases stream with
    | none => cases h
    | some id =>
      cases h
      rfl
  | openOk | httpResponseStart | httpResponseEnd | close | tcpEof | httpResponse | pong =>
    cases h
    rfl
  | _ => cases h

omit [MessageCodec] in
/-- One that is not ends the session. -/
theorem failed_ends {m : Message} {error : Error} {d : GatewayConnection} {notices : StreamId → Notices}
    {u : SessionState} (h : c.handleGatewayMessage m = .failed error d notices) (hu : u.phase.running = false) :
    (SessionOp.message m).ends u id = true := by
  have hrun : (!u.phase.running) = true := by rw [hu]; rfl
  cases m with
  | error stream code text =>
    cases stream with
    | none => exact hrun
    | some id => cases h
  | close => cases h
  | _ => exact hrun

/-- **The session task closes no connection** but at the end of the session, and then
every stream has ended. -/
theorem isOpen_step {s t : SessionState} (hsession : op.ofSession = true)
    (hs : session.step op s = some t) :
    t.connection.ensureGatewayOpen = s.connection.ensureGatewayOpen ∨
      t.connection.ensureGatewayOpen = .ok () ∨ ∀ id, op.ends t id = true := by
  cases sessionMove_of_step hsession hs with
  | writer | sent | delivered | drain | drained => exact .inl rfl
  | heartbeat => exact .inl (by rw [(sendText_sent .ping s).1])
  | message =>
    unfold SessionState.message
    split
    · rename_i hm
      exact .inl (handled_isOpen hm)
    · exact .inl (by rw [(sendText_sent _ s).1])
    · rename_i hm
      exact .inr (.inr fun _ => failed_ends hm rfl)
  | @data id payload =>
    have hdeliver : (s.deliver id payload).connection.ensureGatewayOpen = s.connection.ensureGatewayOpen := by
      unfold SessionState.deliver
      split
      · rw [SessionState.backpressure, (sendText_sent _ _).1]
        exact GatewayConnection.removeChannel_ensureGatewayOpen id _
      · split <;> rfl
    unfold SessionState.data
    split
    · exact .inl hdeliver
    · exact .inl hdeliver
    · split
      · exact .inl rfl
      · exact .inl (by rw [(sendText_sent _ _).1]; rfl)
  | undelivered hp =>
    refine .inl ?_
    rw [SessionState.backpressure, (sendText_sent _ _).1]
    refine (GatewayConnection.removeChannel_ensureGatewayOpen _ _).trans ?_
    simp only [SessionState.abandon, hp]
    rfl
  | lost => exact .inr (.inr fun _ => rfl)
  | connect _ hidentity => exact .inr (.inl (GatewayConnection.ensureGatewayOpen_ok.mpr ⟨hidentity, rfl⟩))

/-! ### Steps -/

/-- What the phases, the log and the flags have to do with each other. -/
structure Logged (s : UploadState) : Prop where
  idle : ∀ id, (s.session.streams id).phase = .idle → s.sent id = [] ∧ frames id (s.read id) = []
  progress : ∀ id, (s.session.streams id).mode = .http →
    Progress id (s.sent id) (s.read id) (s.session.streams id).phase
  ended : s.session.connection.ensureGatewayOpen ≠ .ok () →
    ∀ id, (s.session.streams id).phase ≠ .idle → s.ended id = true

variable {s t : UploadState} {u : SessionState}

/-- A step is an empty chunk, or one of the session. -/
theorem uploads_cases (hs : requestUploads.step op s = some t) :
    (∃ id, op = .upload id [] ∧ t = { s with read := Function.update s.read id (s.read id ++ [[]]) }) ∨
      (∀ id chunk, op = .upload id chunk → chunk ≠ []) ∧
        ∃ u, session.step op s.session = some u ∧ t = s.record op u := by
  have recorded : (session.step op s.session).map (s.record op) = some t →
      ∃ u, session.step op s.session = some u ∧ t = s.record op u := by
    intro h
    obtain ⟨u, hu, rfl⟩ := Option.map_eq_some_iff.mp h
    exact ⟨u, hu, rfl⟩
  cases op with
  | upload id chunk =>
    cases chunk with
    | nil =>
      simp only [requestUploads, UploadState.skip, Option.ite_none_right_eq_some] at hs
      obtain ⟨_, hs⟩ := hs
      cases hs
      exact .inl ⟨id, rfl, rfl⟩
    | cons b rest =>
      refine .inr ⟨?_, recorded hs⟩
      rintro _ _ heq
      cases heq
      exact nofun
  | _ => exact .inr ⟨nofun, recorded hs⟩

/-- What one stream makes of a step of the session. -/
inductive Recorded (id : StreamId) (op : SessionOp) (s t : UploadState) : Prop where
  | alike (h : (s.session.streams id).Alike (t.session.streams id)) (hs : t.sent id = s.sent id)
      (hr : t.read id = s.read id)
  | turn (put : List WsMessage) (hop : op.handler = some id)
      (h : Turn s.session.connection id (s.session.streams id) op (t.session.streams id) put)
      (hs : t.sent id = s.sent id ++ put) (hr : t.read id = s.read id ++ op.chunk)
      (he : t.ended id = s.ended id)
  | start (mode : Mode) (m : Message) (phase : HandlerPhase) (put : List WsMessage)
      (hop : op.starts id = some (mode, m)) (hb : Begins mode (.text (encodeMessage m)) phase put)
      (hi : (s.session.streams id).phase = .idle) (hst : t.session.streams id = { mode, phase })
      (hs : t.sent id = s.sent id ++ put) (hr : t.read id = s.read id)

theorem recorded_turn (hop : op.handler = some id) (hs : session.step op s.session = some u) :
    ∃ put, Turn s.session.connection id (s.session.streams id) op (u.streams id) put ∧
      (s.record op u).sent id = s.sent id ++ put ∧ (s.record op u).read id = s.read id ++ op.chunk ∧
      (s.record op u).ended id = s.ended id := by
  have hactor : op.actor s.session = some id := by
    cases op <;> first | exact hop | cases hop
  have hends : op.ends u id = false := by
    cases op <;> first | rfl | cases hop
  obtain ⟨st, put, hturn, hdoes⟩ := turn_step hop hs
  refine ⟨put, hdoes.self.symm ▸ hturn, ?_, if_pos hactor, ?_⟩
  · rw [show (s.record op u).sent id = _ from if_pos hactor, hdoes.items, List.drop_left]
  · show (s.ended id || (_ && op.ends u id)) = s.ended id
    rw [hends, Bool.and_false, Bool.or_false]

theorem recorded_step (hc : Consistent s.session) (hs : session.step op s.session = some u)
    (id : StreamId) : Recorded id op s (s.record op u) := by
  have others : op.actor s.session ≠ some id →
      (s.record op u).sent id = s.sent id ∧ (s.record op u).read id = s.read id :=
    fun hne => ⟨if_neg hne, if_neg hne⟩
  by_cases hsession : op.ofSession = true
  · have hactor : op.actor s.session = none := by
      cases op <;> first | rfl | cases hsession
    obtain ⟨hsent, hread⟩ := others (by rw [hactor]; exact nofun)
    exact .alike (alike_step hsession hs id) hsent hread
  cases hop : op.handler with
  | some j =>
    have hactor : op.actor s.session = some j := by
      cases op <;> first | exact hop | cases hop
    by_cases hj : id = j
    · subst hj
      obtain ⟨put, hturn, hsent, hread, hended⟩ := recorded_turn hop hs
      exact .turn put hop hturn hsent hread hended
    · obtain ⟨st, put, _, hdoes⟩ := turn_step hop hs
      obtain ⟨hsent, hread⟩ := others (by rw [hactor]; exact fun h => hj (Option.some.inj h).symm)
      refine .alike ?_ hsent hread
      show (s.session.streams id).Alike (u.streams id)
      rw [hdoes.others hj]
      exact .refl _
  | none =>
    have hstart : ∃ mode m, op.starts s.session.connection.streamIds = some (mode, m) ∧
        op.actor s.session = some s.session.connection.streamIds ∧ op.chunk = [] := by
      cases op <;> first | exact ⟨_, _, rfl, rfl, rfl⟩ | exact absurd rfl hsession | cases hop
    obtain ⟨mode, m, hstart, hactor, hchunk⟩ := hstart
    obtain ⟨_, _, phase, put, hbegins, hstreams, hitems⟩ := start_step hstart hs
    by_cases hid : id = s.session.connection.streamIds
    · subst hid
      refine .start mode m phase put hstart hbegins (hc.fresh _ (Nat.le_refl _)) ?_ ?_ ?_
      · show u.streams _ = _
        rw [hstreams, Function.update_self]
      · rw [show (s.record op u).sent _ = _ from if_pos hactor, hitems, List.drop_left]
      · rw [show (s.record op u).read _ = _ from if_pos hactor, hchunk, List.append_nil]
    · obtain ⟨hsent, hread⟩ := others (by rw [hactor]; exact fun h => hid (Option.some.inj h).symm)
      refine .alike ?_ hsent hread
      show (s.session.streams id).Alike (u.streams id)
      rw [hstreams, Function.update_of_ne hid]
      exact .refl _

theorem Progress.congr {read' : List Bytes} (hf : frames id read' = frames id read)
    (h : Progress id sent read phase) : Progress id sent read' phase := by
  unfold Progress Whole at *
  rw [hf]
  exact h

theorem Kept.congr {read' : List Bytes} (hf : frames id read' = frames id read)
    (h : Kept id sent read ended st) : Kept id sent read' ended st := by
  unfold Kept Whole at *
  rw [hf]
  exact h

omit [MessageCodec] in
theorem frames_skip (read : StreamId → List Bytes) (id j : StreamId) :
    frames id (Function.update read j (read j ++ [[]]) id) = frames id (read id) := by
  by_cases hj : id = j
  · subst hj
    rw [Function.update_self]
    simp [frames]
  · rw [Function.update_of_ne hj]

omit [MessageCodec] in
theorem ended_record (h : s.ended id = true) : (s.record op u).ended id = true := by
  show (s.ended id || _) = true
  rw [h, Bool.true_or]

/-- The start of a request is the first that its handler sends. -/
theorem Begins.progress {m : Message} (hop : op.starts id = some (.http, m))
    (hb : Begins .http (.text (encodeMessage m)) phase put) (hread : frames id read = []) :
    Progress id put read phase := by
  have hstart : StartsRequest id (.text (encodeMessage m)) := by
    cases op with
    | startHttp target config request =>
      cases hop
      exact ⟨target, config, request, rfl⟩
    | _ => cases hop
  cases hb with
  | put => exact ⟨_, hstart, by rw [hread]⟩
  | wait => exact ⟨hstart, rfl, hread⟩

/-- Once a connection is closed its streams have ended. -/
theorem ended_step (hc : Consistent s.session) (hl : Logged s) (hs : session.step op s.session = some u)
    (hclosed : u.connection.ensureGatewayOpen ≠ .ok ()) (hp : (u.streams id).phase ≠ .idle) :
    (s.record op u).ended id = true := by
  by_cases hsession : op.ofSession = true
  · obtain ⟨answer, channel, hst⟩ := alike_step hsession hs id
    rw [hst] at hp
    rcases isOpen_step hsession hs with heq | hopen | hends
    · exact ended_record (hl.ended (heq ▸ hclosed) id hp)
    · exact absurd hopen hclosed
    · show (s.ended id || (decide _ && op.ends u id)) = true
      rw [hends id, decide_eq_true (hc.lt_streamIds hp), Bool.and_self, Bool.or_true]
  cases hop : op.handler with
  | some j =>
    obtain ⟨st, put, hturn, hdoes⟩ := turn_step hop hs
    refine ended_record (hl.ended (hdoes.isOpen ▸ hclosed) id ?_)
    by_cases hj : id = j
    · subst hj
      exact hturn.begun
    · rw [← hdoes.others hj]
      exact hp
  | none =>
    have hstart : ∃ mode m, op.starts s.session.connection.streamIds = some (mode, m) := by
      cases op <;> first | exact ⟨_, _, rfl⟩ | exact absurd rfl hsession | cases hop
    obtain ⟨mode, m, hstart⟩ := hstart
    exact absurd (start_step hstart hs).1 hclosed

theorem uploads_consistent (hc : Consistent s.session) (hs : requestUploads.step op s = some t) :
    Consistent t.session := by
  rcases uploads_cases hs with ⟨j, rfl, rfl⟩ | ⟨_, u, hu, rfl⟩
  · exact hc
  · exact consistent_step hc hu

theorem logged_step (hc : Consistent s.session) (hl : Logged s) (hs : requestUploads.step op s = some t) :
    Logged t := by
  rcases uploads_cases hs with ⟨j, rfl, rfl⟩ | ⟨hchunk, u, hu, rfl⟩
  · refine ⟨fun id hi => ?_, fun id hmode => (hl.progress id hmode).congr (frames_skip _ id j), hl.ended⟩
    obtain ⟨hsent, hread⟩ := hl.idle id hi
    exact ⟨hsent, (frames_skip _ id j).trans hread⟩
  refine ⟨fun id hi => ?_, fun id hmode => ?_, fun hclosed id hp => ended_step hc hl hu hclosed hp⟩
  · cases recorded_step hc hu id with
    | alike h hsent hread =>
      obtain ⟨answer, channel, heq⟩ := h
      rw [heq] at hi
      rw [hsent, hread]
      exact hl.idle id hi
    | turn put hop => exact absurd hi (touches_step hc hop hu).2.1.begun
    | start mode m phase put hop hb _ hst =>
      rw [hst] at hi
      cases hb <;> cases hi
  · cases recorded_step hc hu id with
    | alike h hsent hread =>
      obtain ⟨answer, channel, heq⟩ := h
      rw [heq] at hmode ⊢
      rw [hsent, hread]
      exact hl.progress id hmode
    | turn put hop h hsent hread =>
      rw [h.mode] at hmode
      rw [hsent, hread]
      exact h.progress hmode (hchunk id) (hl.progress id hmode)
    | start mode m phase put hop hb hi hst hsent hread =>
      obtain ⟨hnone, hempty⟩ := hl.idle id hi
      rw [hst] at hmode ⊢
      cases hmode
      rw [hsent, hread, hnone]
      exact hb.progress hop hempty

/-! ### Uploads are kept -/

/-- Every other stream is kept as it was. -/
theorem Kept.alike {ended' : Bool} (h : Kept id sent read ended st) (ha : st.Alike st')
    (he : ended = true → ended' = true) : Kept id sent read ended' st' := by
  obtain ⟨answer, channel, rfl⟩ := ha
  intro hmode hsent
  exact (h hmode hsent).imp_right (Or.imp_right (Or.imp_right he))

/-- **A step keeps the uploads** exactly if it cuts none. -/
theorem uploadsKept_iff (hc : Consistent s.session) (hl : Logged s) (hk : UploadsKept s)
    (hs : requestUploads.step op s = some t) : UploadsKept t ↔ NotCut op s := by
  rcases uploads_cases hs with ⟨j, rfl, rfl⟩ | ⟨hchunk, u, hu, rfl⟩
  · exact iff_of_true (fun id => (hk id).congr (frames_skip _ id j)) trivial
  constructor
  · intro h
    have cut : ∀ id, op = .answered id ∨ op = .dropped id → (s.session.streams id).mode = .http →
        (s.session.streams id).phase.uploads = true → s.ended id = true := by
      intro id hop hmode hup
      have hhandler : op.handler = some id := by
        rcases hop with rfl | rfl
        · rfl
        · rfl
      obtain ⟨put, hturn, hsent, hread, hended⟩ := recorded_turn hhandler hu
      have hkept := h id
      rw [hsent, hread, hended] at hkept
      exact hturn.cut hop (hl.progress id hmode) hmode hup hkept
    cases op with
    | answered id => exact cut id (.inl rfl)
    | dropped id => exact cut id (.inr rfl)
    | _ => trivial
  · intro hnot id
    cases recorded_step hc hu id with
    | alike ha hsent hread =>
      rw [hsent, hread]
      exact (hk id).alike ha ended_record
    | turn put hop hturn hsent hread hended =>
      rw [hsent, hread, hended]
      refine hturn.kept (hchunk id) (hl.progress id) (hk id) (fun hclosed => hl.ended hclosed id hturn.begun) ?_
      rintro (rfl | rfl)
      · exact hnot
      · exact hnot
    | start mode m phase put hop hb hi hst hsent hread =>
      obtain ⟨hnone, hempty⟩ := hl.idle id hi
      rw [hst, hsent, hread, hnone]
      intro hmode
      cases hmode
      have hprogress : Progress id _ _ (Stream.phase { mode := .http, phase }) := hb.progress hop hempty
      refine hprogress.kept ?_ rfl
      cases hb <;> simp

theorem logged_start : Logged .start where
  idle _ _ := ⟨rfl, rfl⟩
  progress _ hmode := nomatch hmode
  ended _ _ hp := absurd rfl hp

/-- **Every upload is kept** in a run exactly if in it no upload is left before its end,
but one that was ended. -/
theorem uploads_kept_iff (labels : List SessionOp) :
    requestUploads.Throughout (fun _ _ t => UploadsKept t) labels .start ↔
      requestUploads.Throughout (fun op s _ => NotCut op s) labels .start := by
  refine Machine.throughout_congr (fun s => Consistent s.session ∧ Logged s ∧ UploadsKept s)
    (fun _ _ _ ⟨hc, hl, hk⟩ hs => uploadsKept_iff hc hl hk hs) ?_ ?_
  · intro op s t ⟨hc, hl, _⟩ hs hk
    exact ⟨uploads_consistent hc hs, logged_step hc hl hs, hk⟩
  · exact ⟨consistent_start, logged_start, nofun⟩

end Machine

section Example

local instance uploadCodec : MessageCodec := .plain

def pageTarget : TargetConfig := ⟨.http, "10.0.0.6", 80, some "http", false, false, false⟩

/-- The target answers after the first part of the body. -/
def earlyHeadOps : List SessionOp :=
  [.connect, .startHttp "page" pageTarget ⟨"POST", "/", []⟩, .upload 1 [1, 2],
    .message (.httpResponseStart 1 ⟨200, []⟩), .answered 1]

def earlyHeadState : UploadState := (requestUploads.run earlyHeadOps .start).getD .start

/-- The rest of the body is not read, no end follows, and the session goes on. -/
theorem early_head_cuts_upload :
    requestUploads.Reachable earlyHeadState ∧ earlyHeadState.ended 1 = false ∧
      earlyHeadState.session.connection.ensureGatewayOpen = .ok () ∧
      (∀ chunk, requestUploads.step (.upload 1 chunk) earlyHeadState = none) ∧
      requestUploads.step (.uploadEnd 1) earlyHeadState = none ∧ ¬ UploadsKept earlyHeadState := by
  have hphase : (earlyHeadState.session.streams 1).phase = .reading := by decide +kernel
  have hended : earlyHeadState.ended 1 = false := by decide +kernel
  have hsent : earlyHeadState.sent 1 =
      [.text (encodeMessage (.httpRequestStart 1 "page" pageTarget ⟨"POST", "/", []⟩)),
        .binary (encodeDataFrame 1 [1, 2])] := rfl
  have hread : earlyHeadState.read 1 = [[1, 2]] := rfl
  refine ⟨Machine.reachable_getD rfl (by decide +kernel), hended, by decide +kernel, fun chunk => ?_, ?_, ?_⟩
  · cases chunk with
    | nil => simp [requestUploads, UploadState.skip, hphase]
    | cons b rest => simp [requestUploads, session, SessionState.upload, hphase]
  · simp [requestUploads, session, SessionState.upload, hphase]
  · intro h
    have hkept := h 1 (by decide +kernel) (by simp [hsent])
    rw [hphase, hsent, hread, hended] at hkept
    rcases hkept with ⟨hup, _⟩ | ⟨m, _, heq⟩ | ⟨reason, hmem⟩ | hended
    · cases hup
    · have hlength := congrArg List.length heq
      cases hlength
    · rcases List.mem_cons.mp hmem with heq | hmem
      · have hmessage := encodeMessage_inj (WsMessage.text.inj heq)
        cases hmessage
      · cases List.mem_singleton.mp hmem
    · cases hended

end Example

end WsNet.Access
