import WsNet.Access.Backpressure
import WsNet.Access.TunnelSession
import WsNet.Access.Turn

/-! One stream against the others.

All streams share the session task, its writer and its cipher. Where a stream's channel is
full the task waits. The wait has a limit, and its three ends differ: there is room, the
handler has gone, or the limit is reached. The first two concern the stream alone. The
third is an error of the session: `timeout(..).await?` passes it on, and every stream is
lost. So it is with a message that the writer cannot encrypt, whose stream alone it
concerns, and with a caller's request for another session that comes when this one is
open already. -/
namespace WsNet.Access
open Crypto Data Transition

/-! ### What isolation asks of a step -/

/-- The ends that are the session's own: not the fault of one stream, nor asked for by one. -/
def SessionEnd.ofSession : SessionEnd → Bool
  | identity _ | stopped _ | heartbeat | transport _ | undecryptable | malformed _ | refused _ => true
  | reconnect | unsealed _ | elapsed => false

/-- The stream's entries stay. -/
structure SameEntries (id : StreamId) (c d : GatewayConnection) : Prop where
  tcpStreams : id ∈ d.tcpStreams ↔ id ∈ c.tcpStreams
  openWaiters : id ∈ d.openWaiters ↔ id ∈ c.openWaiters
  httpHeadWaiters : id ∈ d.httpHeadWaiters ↔ id ∈ c.httpHeadWaiters
  httpBodyStreams : id ∈ d.httpBodyStreams ↔ id ∈ c.httpBodyStreams

section Isolation
variable [MessageCodec]

/-- The message is in the queue, or the session task waits to put it there. -/
def Sent (message : Message) (s t : SessionState) : Prop :=
  t.outbound.items = s.outbound.items ++ [.text (encodeMessage message)] ∨
    t.phase = .sending (.text (encodeMessage message))

/-- What a frame of the stream may do: the session goes on, the other streams are as
they were, and at worst the entry that the stream's frames go to goes and the gateway
is told. -/
structure Confined (id : StreamId) (s t : SessionState) : Prop where
  running : t.phase.running = true
  others : ∀ j, j ≠ id → SameEntries j s.connection t.connection ∧ t.streams j = s.streams j
  own : SameEntries id s.connection t.connection ∨
    t.connection = s.connection.removeChannel id ∧ Sent (.close id "local_backpressure") s t

variable [Aead]

/-- The stream whose data frame the step handles. -/
def TunnelSessionOp.frame (op : TunnelSessionOp) (s : TunnelSession) : Option StreamId :=
  match op with
  | .receive log (.frame frame) =>
    match (openGatewayFrame log s.cipher frame).1 with
    | .ok (.data id _) => some id
    | _ => none
  | .run .delivered | .run .undelivered | .elapsed =>
    match s.state.phase with
    | .delivering id _ => some id
    | _ => none
  | _ => none

/-- Frames are confined to their stream, and the session ends by a cause of its own. -/
structure Isolated (op : TunnelSessionOp) (s t : TunnelSession) : Prop where
  confined : ∀ id, op.frame s = some id → Confined id s.state t.state
  ends : s.state.phase.running = true → t.state.phase.running = false →
    ∃ cause, t.ended = some cause ∧ cause.ofSession = true

/-- Text or data that is not too large for a frame. -/
def FitsFrame (message : WsMessage) : Prop :=
  ∃ kind payload, message.sealedAs = some (kind, payload) ∧ payload.length ≤ maxPayloadLen

/-- The sequence numbers of the session are not used up. -/
def NumbersLeft (cipher : TunnelCipher) : Prop :=
  cipher.accessToGateway.nextSendSequence + 1 < 2 ^ 64

/-- The message fits in a frame and a sequence number is left for it, or it needs neither. -/
def Sealable (cipher : TunnelCipher) (message : WsMessage) : Prop :=
  message = .close none ∨ FitsFrame message ∧ NumbersLeft cipher

/-- The writer's next message can be encrypted, no reconnect is asked for, and no wait for
a channel reaches its limit. -/
def Undisturbed (op : TunnelSessionOp) (s : TunnelSession) : Prop :=
  match op with
  | .writer .feed _ => ∀ message batch, s.state.writer.phase = .writing (message :: batch) →
      Sealable s.cipher message
  | .reconnectNow => s.state.connection.stopped = false → s.reconnectRequested = false
  | .elapsed => False
  | _ => True

end Isolation

/-! ### Frames -/

theorem SameEntries.refl (id : StreamId) (c : GatewayConnection) : SameEntries id c c :=
  ⟨Iff.rfl, Iff.rfl, Iff.rfl, Iff.rfl⟩

theorem SameEntries.removeChannel {id j : StreamId} (hj : j ≠ id) (c : GatewayConnection) :
    SameEntries j c (c.removeChannel id) where
  tcpStreams := c.mem_removeChannel_tcpStreams hj
  openWaiters := by rw [c.removeChannel_openWaiters]
  httpHeadWaiters := by rw [c.removeChannel_httpHeadWaiters]
  httpBodyStreams := c.mem_removeChannel_httpBodyStreams hj

section Proofs
variable [MessageCodec] {id : StreamId} {s t : SessionState}

theorem sendText_running (message : Message) (s : SessionState) :
    (s.sendText message).phase.running = true ∧ Sent message s (s.sendText message) := by
  obtain ⟨_, _, ⟨hitems, hp⟩ | hp⟩ := sendText_sent message s
  · exact ⟨by rw [hp]; rfl, .inl hitems⟩
  · exact ⟨by rw [hp]; rfl, .inr hp⟩

/-- The handler has gone: the stream's entry goes with it. -/
theorem confined_backpressure {streams : StreamId → Stream} (hs : ∀ j, j ≠ id → streams j = s.streams j) :
    Confined id s ({ s with streams }.backpressure id) := by
  obtain ⟨hconnection, hstreams, _⟩ := sendText_sent (.close id "local_backpressure")
    { s with streams, connection := s.connection.removeChannel id }
  obtain ⟨hrunning, hsent⟩ := sendText_running (.close id "local_backpressure")
    { s with streams, connection := s.connection.removeChannel id }
  refine ⟨hrunning, fun j hj => ⟨?_, ?_⟩, .inr ⟨hconnection, hsent⟩⟩
  · exact hconnection ▸ .removeChannel hj _
  · exact (congrFun hstreams j).trans (hs j hj)

theorem confined_setChannel {channel : StreamChannel} {phase : SessionPhase}
    (hp : phase.running = true) : Confined id s { s.setChannel id channel with phase } :=
  ⟨hp, fun _ hj => ⟨.refl _ _, Function.update_of_ne hj _ _⟩, .inl (.refl _ _)⟩

/-- A frame for a stream with a channel. -/
theorem confined_deliver {payload : Bytes} (hp : s.phase = .select) :
    Confined id s (s.deliver id payload) := by
  unfold SessionState.deliver
  split
  · exact confined_backpressure (s := s) fun _ _ => rfl
  · split
    · exact confined_setChannel (show s.phase.running = true by rw [hp]; rfl)
    · exact confined_setChannel rfl

theorem confined_data {payload : Bytes} (hp : s.phase = .select) : Confined id s (s.data id payload) := by
  unfold SessionState.data
  split
  · exact confined_deliver hp
  · exact confined_deliver hp
  · split
    · exact ⟨by rw [hp]; rfl, fun _ _ => ⟨.refl _ _, rfl⟩, .inl (.refl _ _)⟩
    · -- A frame of an unknown stream takes no entry out.
      obtain ⟨hconnection, hstreams, _⟩ := sendText_sent (.close id "unknown_stream")
        { s with connection := { s.connection with
          unknownStreams := insert id s.connection.unknownStreams } }
      have hsame : ∀ j, SameEntries j s.connection { s.connection with
          unknownStreams := insert id s.connection.unknownStreams } := fun _ =>
        ⟨Iff.rfl, Iff.rfl, Iff.rfl, Iff.rfl⟩
      exact ⟨(sendText_running _ _).1, fun j _ => ⟨hconnection ▸ hsame j, congrFun hstreams j⟩,
        .inl (hconnection ▸ hsame id)⟩

/-- What the wait for a stream's channel ends with, but for the limit. -/
theorem confined_wait {payload : Bytes} {o : SessionOp} (hp : s.phase = .delivering id payload)
    (ho : o = .delivered ∨ o = .undelivered) (hs : session.step o s = some t) : Confined id s t := by
  rcases ho with rfl | rfl
  · cases sessionMove_of_step rfl hs with
    | delivered hp' =>
      rw [hp] at hp'
      cases hp'
      exact confined_setChannel rfl
  · cases sessionMove_of_step rfl hs with
    | undelivered hp' =>
      rw [hp] at hp'
      cases hp'
      simp only [SessionState.abandon, hp]
      exact confined_backpressure fun _ hj => Function.update_of_ne hj _ _

/-- **Frames are confined to their stream**, unless the wait reaches its limit. -/
theorem confined_step [Aead] {op : TunnelSessionOp} {s t : TunnelSession} (hop : op ≠ .elapsed)
    (hf : op.frame s = some id) (hs : tunnelSession.step op s = some t) : Confined id s.state t.state := by
  cases tunnelMove_of_step hs with
  | @ran o _ ho hstep =>
    cases o with
    | delivered | undelivered =>
      simp only [TunnelSessionOp.frame] at hf
      split at hf
      · rename_i hp
        cases hf
        exact confined_wait hp (by simp) hstep
      · cases hf
    | _ => cases hf
  | data ho hstep =>
    simp only [TunnelSessionOp.frame, ho] at hf
    cases hf
    cases sessionMove_of_step rfl hstep with
    | data hp => exact confined_data hp
  | message ho =>
    simp only [TunnelSessionOp.frame, ho] at hf
    cases hf
  | flagged hhalts | halted hhalts => cases hhalts <;> cases hf
  | ended hends =>
    cases hends with
    | unopened ho =>
      simp only [TunnelSessionOp.frame, ho] at hf
      cases hf
    | elapsed => exact absurd rfl hop
    | _ => cases hf
  | _ => cases hf

/-! ### Ends -/

/-- The session ends by a `lost`, or by a message that it cannot take. -/
theorem running_step {o : SessionOp} (h : Consistent s) (hs : session.step o s = some t)
    (hrun : s.phase.running = true) :
    t.phase.running = true ∨ (∃ reason, o = .lost reason) ∨
      ∃ m error, o = .message m ∧ TunnelSession.refusal m s = some (.refused error) := by
  rcases step_cases h hs with ⟨hsession, _⟩ | ⟨_, _, htouches, _⟩ | ⟨mode, c, message, hc, rfl⟩
  · cases sessionMove_of_step hsession hs with
    | writer => exact .inl hrun
    | heartbeat => exact .inl (sendText_running .ping s).1
    | @message m =>
      unfold SessionState.message TunnelSession.refusal
      split
      · exact .inl hrun
      · exact .inl (sendText_running _ s).1
      · rename_i error connection notices hm
        exact .inr (.inr ⟨m, error, rfl, by rw [hm]⟩)
    | data hp => exact .inl (confined_data hp).running
    | undelivered hp => exact .inl (confined_wait hp (.inr rfl) hs).running
    | sent | delivered | connect => exact .inl rfl
    | lost => exact .inr (.inl ⟨_, rfl⟩)
    | drain hp | drained hp =>
      rw [hp] at hrun
      cases hrun
  · exact .inl (htouches.phase ▸ hrun)
  · obtain ⟨_, htouches, _⟩ := touches_submit message h hc
    refine .inl ?_
    rw [htouches.phase]
    exact hrun

theorem running_of_step {o : SessionOp} (h : Consistent s) (hs : session.step o s = some t)
    (hlost : ∀ reason, o ≠ .lost reason) (hmessage : ∀ m, o ≠ .message m) (hrun : s.phase.running = true) :
    t.phase.running = true := by
  rcases running_step h hs hrun with hafter | ⟨reason, ho⟩ | ⟨m, _, ho, _⟩
  · exact hafter
  · exact absurd ho (hlost reason)
  · exact absurd ho (hmessage m)

theorem lost_running {reason : String} (hs : session.step (.lost reason) s = some t) :
    s.phase.running = true ∧ t.phase.running = false := by
  simp only [session, Option.ite_none_left_eq_some, not_or] at hs
  obtain ⟨⟨hdraining, hoffline⟩, hs⟩ := hs
  cases hs
  refine ⟨?_, rfl⟩
  cases hp : s.phase <;> first | rfl | contradiction

/-- What was decrypted is a message or data, or malformed. -/
theorem readDecrypted_error {kind : TunnelFrameKind} {bytes : Bytes} {cause : SessionEnd}
    (h : readDecrypted kind bytes = .error cause) : ∃ text, cause = .malformed text := by
  cases kind with
  | text =>
    unfold readDecrypted at h
    cases htext : textOf bytes with
    | none =>
      rw [htext] at h
      cases h
      exact ⟨_, rfl⟩
    | some text =>
      rw [htext] at h
      change (orError (decodeMessage text) _ >>= fun m => pure (Carried.message m)) = _ at h
      cases hdecode : decodeMessage text with
      | none =>
        rw [hdecode] at h
        cases h
        exact ⟨_, rfl⟩
      | some message =>
        rw [hdecode] at h
        cases h
  | binary =>
    simp only [readDecrypted] at h
    split at h
    · cases h
    · cases h
      exact ⟨_, rfl⟩

/-- A frame that cannot be opened ends the session by a cause of its own. -/
theorem openGatewayFrame_error [Aead] {log : SealLog} {cipher cipher' : TunnelCipher} {frame : WsMessage}
    {cause : SessionEnd} (h : openGatewayFrame log cipher frame = (.error cause, cipher')) :
    cause.ofSession = true := by
  unfold openGatewayFrame at h
  split at h
  · cases h
    rfl
  · cases h
    rfl
  · cases h
    rfl
  · dsimp only at h
    split at h
    · obtain ⟨text, rfl⟩ := readDecrypted_error (Prod.mk.inj h).1
      rfl
    · cases h
      rfl

omit [MessageCodec] in
/-- **What the access can encrypt.** -/
theorem encryptAccessMessage_sealable [Aead] (cipher : TunnelCipher) (message : WsMessage) :
    (∃ r, encryptAccessMessage cipher message = .ok r) ↔ Sealable cipher message := by
  cases hsealed : message.sealedAs with
  | none =>
    constructor
    · rintro ⟨r, hr⟩
      cases message with
      | close reason =>
        cases reason with
        | none => exact .inl rfl
        | some reason => cases hr
      | text | binary => cases hsealed
      | ping | pong => cases hr
    · rintro (rfl | ⟨⟨_, _, hsome, _⟩, _⟩)
      · exact ⟨_, rfl⟩
      · rw [hsealed] at hsome
        cases hsome
  | some pair =>
    obtain ⟨kind, payload⟩ := pair
    rw [encryptAccessMessage_sealed hsealed]
    constructor
    · rintro ⟨r, hr⟩
      cases henc : cipher.encryptFromAccess kind payload with
      | error e =>
        rw [henc] at hr
        cases hr
      | ok pair =>
        obtain ⟨⟨frame, direction⟩, hd, _⟩ := bind_eq_ok.mp henc
        obtain ⟨hlen, hlt, _, _⟩ := DirectionCipher.encrypt_eq_ok.mp hd
        exact .inr ⟨⟨kind, payload, hsealed, hlen⟩, hlt⟩
    · rintro (rfl | ⟨⟨kind', payload', hsome, hlen⟩, hlt⟩)
      · cases hsealed
      · rw [hsealed] at hsome
        cases hsome
        have hd : cipher.accessToGateway.encrypt kind payload accessToGateway = .ok (_, _) :=
          DirectionCipher.encrypt_eq_ok.mpr ⟨hlen, hlt, rfl, rfl⟩
        simp only [TunnelCipher.encryptFromAccess, hd]
        exact ⟨_, rfl⟩

/-! ### Steps and runs -/

section Runs
variable [Aead] {op : TunnelSessionOp} {s t : TunnelSession}

/-- A session that does not end is isolated. -/
theorem isolated_of_running (hs : tunnelSession.step op s = some t) (hop : op ≠ .elapsed)
    (hrun : s.state.phase.running = true → t.state.phase.running = true) : Isolated op s t := by
  refine ⟨fun id hf => confined_step hop hf hs, fun hbefore hafter => ?_⟩
  rw [hrun hbefore] at hafter
  cases hafter

/-- A step of the streams, of the writer or of the heartbeat does not end it. -/
theorem isolated_of_step {o : SessionOp} (h : Consistent s.state) (hs : tunnelSession.step op s = some t)
    (hop : op ≠ .elapsed) (hstep : session.step o s.state = some t.state) (hlost : ∀ reason, o ≠ .lost reason)
    (hmessage : ∀ m, o ≠ .message m) : Isolated op s t :=
  isolated_of_running hs hop (running_of_step h hstep hlost hmessage)

theorem isolated_of_cause {cause : SessionEnd} (hs : tunnelSession.step op s = some t)
    (hop : op ≠ .elapsed) (hended : t.ended = some cause)
    (hcause : cause.ofSession = true) : Isolated op s t :=
  ⟨fun _ hf => confined_step hop hf hs, fun _ _ => ⟨cause, hended, hcause⟩⟩

/-- One that ends by another cause is not. -/
theorem not_isolated {cause : SessionEnd} {cipher : TunnelCipher} {state : SessionState}
    (hs : session.step (.lost cause.reason) s.state = some state) (hcause : cause.ofSession = false) :
    ¬ Isolated op s { s with state, cipher, ended := some cause } := by
  intro hisolated
  obtain ⟨hbefore, hafter⟩ := lost_running hs
  obtain ⟨other, hended, hother⟩ := hisolated.ends hbefore hafter
  cases hended
  rw [hcause] at hother
  cases hother

/-- **A step is isolated** exactly if it is undisturbed: the writer's next message can be
encrypted, no reconnect is asked for, and no wait reaches its limit. -/
theorem isolated_iff (h : Consistent s.state) (hs : tunnelSession.step op s = some t) :
    Isolated op s t ↔ Undisturbed op s := by
  cases tunnelMove_of_step hs with
  | ran ho hstep =>
    refine iff_of_true (isolated_of_step h hs nofun hstep ?_ ?_) trivial
    · rintro _ rfl
      cases ho
    · rintro _ rfl
      cases ho
  | connected hstep => exact iff_of_true (isolated_of_step h hs nofun hstep nofun nofun) trivial
  | fed hp he hstep =>
    refine iff_of_true (isolated_of_step h hs nofun hstep nofun nofun) ?_
    intro message batch hp'
    rw [hp] at hp'
    cases hp'
    exact (encryptAccessMessage_sealable _ _).mp ⟨_, he⟩
  | @wrote o _ _ hp hstep =>
    refine iff_of_true (isolated_of_step h hs nofun hstep nofun nofun) ?_
    cases o with
    | feed => exact fun message batch hp' => absurd hp' (hp message batch rfl)
    | _ => trivial
  | woken hr => exact iff_of_true (isolated_of_running hs nofun fun hrun => hrun) hr
  | ticked hstep => exact iff_of_true (isolated_of_step h hs nofun hstep nofun nofun) trivial
  | message ho hstep =>
    refine iff_of_true ⟨fun id hf => ?_, fun hrun hend => ?_⟩ trivial
    · simp only [TunnelSessionOp.frame, ho] at hf
      cases hf
    rcases running_step h hstep hrun with hafter | ⟨_, hlost⟩ | ⟨_, error, hm, hrefusal⟩
    · rw [hend] at hafter
      cases hafter
    · cases hlost
    · cases hm
      exact ⟨_, hrefusal, rfl⟩
  | data ho hstep => exact iff_of_true (isolated_of_step h hs nofun hstep nofun nofun) trivial
  | requested =>
    refine iff_of_true (isolated_of_running hs nofun fun hrun => ?_) trivial
    unfold TunnelSession.requestReconnect
    split <;> exact hrun
  | blocked => exact iff_of_true (isolated_of_running hs nofun fun hrun => hrun) trivial
  | flagged hhalts hrun =>
    cases hhalts <;> exact iff_of_true (isolated_of_running hs nofun fun hrun => hrun) trivial
  | halted hhalts hstep =>
    cases hhalts <;> exact iff_of_true (isolated_of_cause hs nofun rfl rfl) trivial
  | ended hends hstep =>
    cases hends with
    | unsealed hp he =>
      refine iff_of_false (not_isolated hstep rfl) fun hseals => ?_
      obtain ⟨r, hr⟩ := (encryptAccessMessage_sealable _ _).mpr (hseals _ _ hp)
      rw [he] at hr
      cases hr
    | unfed hp he =>
      refine iff_of_true (isolated_of_cause hs nofun rfl rfl) ?_
      intro message batch hp'
      rw [hp] at hp'
      cases hp'
      exact (encryptAccessMessage_sealable _ _).mp ⟨_, he⟩
    | stopped hstopped =>
      refine iff_of_true (isolated_of_cause hs nofun rfl rfl) fun hrun => ?_
      rw [hstopped] at hrun
      cases hrun
    | reconnect hstopped hr =>
      refine iff_of_false (not_isolated hstep rfl) fun hrequested => ?_
      rw [hrequested hstopped] at hr
      cases hr
    | unflushed | heartbeat | closed | failed =>
      exact iff_of_true (isolated_of_cause hs nofun rfl rfl) trivial
    | unopened ho =>
      exact iff_of_true (isolated_of_cause hs nofun rfl (openGatewayFrame_error ho)) trivial
    | elapsed => exact iff_of_false (not_isolated hstep rfl) id

/-- A message that cannot be encrypted takes every stream with it. -/
theorem unsealed_ends_session {failed : Bool} {message : WsMessage} {batch : List WsMessage}
    (hp : s.state.phase = .select) (hw : s.state.writer.phase = .writing (message :: batch))
    (hm : ¬ Sealable s.cipher message) (hopen : s.state.connection.closed = false) :
    ∃ error u, tunnelSession.step (.writer .feed failed) s = some u ∧ u.ended = some (.unsealed error) ∧
      u.state.phase.running = false ∧ u.state.connection.tcpStreams = ∅ ∧
      u.state.connection.httpBodyStreams = ∅ := by
  cases he : encryptAccessMessage s.cipher message with
  | ok r => exact absurd ((encryptAccessMessage_sealable _ _).mp ⟨r, he⟩) hm
  | error error =>
    have hstep : tunnelSession.step (.writer .feed failed) s = s.finish (.unsealed error) := by
      simp only [tunnelSession, TunnelSession.branch, if_pos hp, TunnelSession.writer, hw, he]
    have hlost : session.step (.lost (SessionEnd.unsealed error).reason) s.state =
        some (s.state.lost (SessionEnd.unsealed error).reason) := by
      simp only [session, hp, reduceCtorEq, or_self, if_false]
    rw [hstep, TunnelSession.finish, hlost]
    refine ⟨error, _, rfl, rfl, rfl, ?_⟩
    simp only [SessionState.lost, SessionState.notify, GatewayConnection.closeGatewayConnection, hopen,
      Bool.false_eq_true, if_false, and_self]

/-- **Streams are isolated** in a run exactly if each of its steps is undisturbed. -/
theorem isolated_run_iff (labels : List TunnelSessionOp) :
    tunnelSession.Throughout Isolated labels .start ↔
      tunnelSession.Throughout (fun op s _ => Undisturbed op s) labels .start :=
  Machine.throughout_congr (fun s => Consistent s.state) (fun _ _ _ => isolated_iff)
    (fun _ _ _ h hs _ => tunnelSession_consistent h hs) consistent_start

end Runs

/-! ### The queue -/

section Queue
variable {s t : SessionState}

omit [MessageCodec] in
theorem writer_enqueue {id : StreamId} {phase : HandlerPhase} {message : WsMessage} :
    (s.enqueue id phase message).writer = s.writer := by
  unfold SessionState.enqueue
  split
  · rfl
  · split <;> rfl

theorem writer_sendText {message : Message} : (s.sendText message).writer = s.writer := by
  unfold SessionState.sendText
  split <;> rfl

theorem writer_message {message : Message} :
    (s.message message).writer = s.writer ∨ (s.message message).writer = {} := by
  unfold SessionState.message
  split
  · exact .inl rfl
  · exact .inl writer_sendText
  · exact .inr rfl

theorem writer_data {id : StreamId} {payload : Bytes} : (s.data id payload).writer = s.writer := by
  have hdeliver : (s.deliver id payload).writer = s.writer := by
    unfold SessionState.deliver
    split
    · exact writer_sendText
    · split <;> rfl
  unfold SessionState.data
  split
  · exact hdeliver
  · exact hdeliver
  · split
    · rfl
    · exact writer_sendText

theorem writer_handler {id : StreamId} {o : SessionOp} (h : HandlerMove id s o t) : t.writer = s.writer := by
  cases h with
  | submits =>
    rw [writer_enqueue]
    cases o <;> rfl
  | _ => rfl

/-- The writer goes on by its own steps only, and stops with the session. -/
theorem writer_step {o : SessionOp} (h : Consistent s) (hs : session.step o s = some t) :
    t.writer = s.writer ∨ t.writer = {} ∨ ∃ op r, o = .writer op ∧
      s.writer.step op s.outbound = some r ∧ t.writer = r.writer := by
  rcases step_cases h hs with ⟨hsession, _⟩ | ⟨id, hhandler, _⟩ | ⟨mode, c, message, _, rfl⟩
  · cases sessionMove_of_step hsession hs with
    | writer _ hr => exact .inr (.inr ⟨_, _, rfl, hr, rfl⟩)
    | heartbeat => exact .inl writer_sendText
    | message => exact writer_message.imp_right .inl
    | data => exact .inl writer_data
    | undelivered hp =>
      refine .inl (writer_sendText.trans ?_)
      simp only [SessionState.abandon, hp]
      rfl
    | lost => exact .inr (.inl rfl)
    | sent | delivered | drain | drained | connect => exact .inl rfl
  · exact .inl (writer_handler (handlerMove_of_step hhandler hs))
  · exact .inl writer_enqueue

omit [MessageCodec] in
/-- A merge keeps to the payload of a data frame, which is far below the limit. -/
theorem fitsFrame_merge {a b c : WsMessage} (h : tryMergeWsBinary a b = some c) : FitsFrame c := by
  unfold tryMergeWsBinary at h
  split at h
  · rename_i current next
    obtain ⟨merged, hm, rfl⟩ := Option.map_eq_some_iff.mp h
    refine ⟨.binary, merged, rfl, ?_⟩
    simp only [tryMergeDataFrames, Option.ite_none_left_eq_some, not_or, Nat.not_lt] at hm
    obtain ⟨⟨hcurrent, hnext⟩, _, hlen, hm⟩ := hm
    cases hm
    have hmax : dataFrameHeaderLen + wsDataFrameMaxPayload ≤ maxPayloadLen := by decide +kernel
    rw [List.length_append, List.length_drop]
    omega
  · cases h

/-- The messages that the writer holds fit in a frame, as those of the queue do. -/
theorem holds_step {o : SessionOp} (h : Consistent s) (hs : session.step o s = some t)
    (hw : s.writer.Holds FitsFrame) (hq : ∀ m ∈ s.outbound.items, FitsFrame m) :
    t.writer.Holds FitsFrame := by
  rcases writer_step h hs with hsame | hnew | ⟨op, r, _, hr, hwriter⟩
  · rw [hsame]
    exact hw
  · rw [hnew]
    exact ⟨nofun, nofun⟩
  · rw [hwriter]
    exact (Writer.step_forall (fun _ _ _ hmerge _ _ => fitsFrame_merge hmerge) hr hw hq).1

end Queue

section Fitting
variable [Aead] {op : TunnelSessionOp} {s t : TunnelSession}

/-- What is queued fits in a frame, the sequence numbers are not used up, no reconnect is
asked for and no wait reaches its limit. -/
structure Fitting (op : TunnelSessionOp) (s t : TunnelSession) : Prop where
  queued : ∀ m ∈ t.state.outbound.items, FitsFrame m
  numbers : NumbersLeft s.cipher
  unasked : op = .reconnectNow → s.state.connection.stopped = false → s.reconnectRequested = false
  inTime : op ≠ .elapsed

/-- What the writer and the queue hold fits in a frame. -/
structure HoldsFitting (s : TunnelSession) : Prop where
  consistent : Consistent s.state
  writer : s.state.writer.Holds FitsFrame
  queue : ∀ m ∈ s.state.outbound.items, FitsFrame m

theorem HoldsFitting.step (h : HoldsFitting s) (hs : tunnelSession.step op s = some t)
    (hfitting : Fitting op s t) : HoldsFitting t := by
  refine ⟨tunnelSession_consistent h.consistent hs, ?_, hfitting.queued⟩
  cases tunnelMove_of_step hs with
  | ran _ hstep | connected hstep | fed _ _ hstep | wrote _ hstep | ticked hstep | message _ hstep
  | data _ hstep | ended _ hstep => exact holds_step h.consistent hstep h.writer h.queue
  | woken | blocked | flagged => exact h.writer
  | requested =>
    unfold TunnelSession.requestReconnect
    split <;> exact h.writer
  | halted hhalts hstep => exact holds_step (consistent_halts h.consistent hhalts) hstep h.writer h.queue

omit [MessageCodec] [Aead] in
theorem undisturbed_of_fitting (h : HoldsFitting s) (hfitting : Fitting op s t) : Undisturbed op s := by
  cases op with
  | writer o failed =>
    cases o with
    | feed =>
      intro message batch hp
      refine .inr ⟨h.writer.batch message ?_, hfitting.numbers⟩
      rw [hp]
      exact List.mem_cons_self
    | _ => trivial
  | reconnectNow => exact hfitting.unasked rfl
  | elapsed => exact absurd rfl hfitting.inTime
  | _ => trivial

/-- **A run is isolated** whose queued messages all fit in a frame, if no reconnect is
asked for and no wait reaches its limit. -/
theorem isolated_of_fitting {labels : List TunnelSessionOp}
    (h : tunnelSession.Throughout Fitting labels .start) : tunnelSession.Throughout Isolated labels .start := by
  rw [isolated_run_iff]
  refine Machine.Throughout.mono HoldsFitting ?_ ⟨consistent_start, ⟨nofun, nofun⟩, nofun⟩ h
  exact fun _ _ _ hholds hs hfitting => ⟨undisturbed_of_fitting hholds hfitting, hholds.step hs hfitting⟩

end Fitting

end Proofs

section Example

local instance isolationCodec : MessageCodec := .plain
local instance isolationAead : Aead := .transparent

/-- What the gateway seals and sends under the sequence number. -/
def gatewayFrame (sequence : Nat) (kind : TunnelFrameKind) (payload : Bytes) : TunnelSessionOp :=
  let r := (TunnelCipher.ofKeys [1] [2]).gatewayToAccess.sealedAt sequence kind payload gatewayToAccess
  .receive [r] (.frame (.binary (DirectionCipher.frameOf sequence r)))

/-- Two streams are opened. -/
def openedOps : List TunnelSessionOp :=
  [.connect [1] [2], .run (.openTcp "db" databaseTarget), .run (.openTcp "db" databaseTarget),
    gatewayFrame 0 .text (bytesOf (encodeMessage (.openOk 1))),
    gatewayFrame 1 .text (bytesOf (encodeMessage (.openOk 2))), .run (.answered 1), .run (.answered 2)]

/-- The local client of the first stream does not read, and the frame after the 64 that its
channel holds is waited for. -/
def stalledClient : List TunnelSessionOp :=
  openedOps ++ (List.range (streamChannelCapacity + 1)).map fun n =>
    gatewayFrame (n + 2) .binary (encodeDataFrame 1 [0])

def stalledClientState : TunnelSession := (tunnelSession.run stalledClient .start).getD .start

def elapsedState : TunnelSession := (tunnelSession.step .elapsed stalledClientState).getD stalledClientState

/-- The limit is reached: the session ends, and the second stream's entry goes. -/
theorem stalled_client_ends_session :
    tunnelSession.Reachable stalledClientState ∧
      tunnelSession.step .elapsed stalledClientState = some elapsedState ∧
      TunnelSessionOp.elapsed.frame stalledClientState = some 1 ∧
      2 ∈ stalledClientState.state.connection.tcpStreams ∧
      2 ∉ elapsedState.state.connection.tcpStreams ∧
      elapsedState.state.phase.running = false ∧ elapsedState.ended = some .elapsed ∧
      ¬ Isolated .elapsed stalledClientState elapsedState := by
  have hphase : stalledClientState.state.phase = .delivering 1 [0] := by decide +kernel
  have hframe : TunnelSessionOp.elapsed.frame stalledClientState = some 1 := by
    simp only [TunnelSessionOp.frame, hphase]
  have hsome : (tunnelSession.step .elapsed stalledClientState).isSome = true := by decide +kernel
  have hend : elapsedState.state.phase.running = false := by decide +kernel
  refine ⟨Machine.reachable_getD rfl (by decide +kernel),
    (Option.getD_of_ne_none (Option.isSome_iff_ne_none.mp hsome) _).symm, hframe, by decide +kernel,
    by decide +kernel, hend, by decide +kernel, fun hisolated => ?_⟩
  have hrun := (hisolated.confined 1 hframe).running
  rw [hend] at hrun
  cases hrun

end Example

end WsNet.Access
