import WsNet.Relay.TargetSession

/-! The tasks of the gateway's end, and its runs.

A step of a task changes the view of its own stream and no other: what the task sends
has events of its stream only, and it touches no other entry. -/
namespace WsNet.Relay
open Gateway Data Transition

section Target
variable [MessageCodec]

/-! ### The view of a step -/

/-- The part of a view that is its task's. -/
structure TargetView.Of (v : TargetView) (t : Task) : Prop where
  stage : v.stage = targetStage t
  accepts : v.accepts = Relay.accepts t.phase
  busy : v.busy = Relay.busy t.phase
  channel : v.channel = t.channel.items

omit [MessageCodec] in
/-- The entry of the task, after an effect of its own. -/
def entryAfter (effect : Effect) (entry : Bool) : Bool :=
  match effect with
  | .insertStream => true
  | .removeStream => false
  | _ => entry

def TargetView.after (v : TargetView) (t : Task) (effect : Effect) (k : TargetSocket) (l : List WsMessage) :
    TargetView :=
  { v with
    stage := targetStage t
    accepts := Relay.accepts t.phase
    busy := Relay.busy t.phase
    entry := entryAfter effect v.entry
    produced := v.produced ++ eventsIn t.id l
    socket := k
    channel := t.channel.items }

/-- What a step of a task has to keep, with its socket after the step and what it sends. -/
structure Keeps (v : TargetView) (t t' : Task) (effect : Effect) (k : TargetSocket) (l : List WsMessage) :
    Prop where
  id : t'.id = t.id
  kind : t'.kind = t.kind
  shaped : Shaped t'
  gone : targetStage t = .gone → targetStage t' = .gone
  spawned : targetStage t' = .before → targetStage t = .before
  events : ∀ id, id ≠ t.id → eventsIn id l = []
  frames : ∀ frame id bytes, .binary frame ∈ l → decodeDataFrame frame = some (id, bytes) →
    id = t.id ∧ (t.kind = .tcp → bytes ≠ [])
  inserts : effect = .insertStream → t.kind = .tcp
  view : t.kind = .tcp → StreamInv (v.after t' effect k l)

variable {v : TargetView} {t t' : Task} {effect : Effect} {env : Surroundings}

/-- Nothing comes of the step but a move of the task. -/
theorem Keeps.moved (hof : v.Of t) (hv : t.kind = .tcp → StreamInv v) (hid : t'.id = t.id) (hkind : t'.kind = t.kind)
    (hshaped : Shaped t') (hchannel : t'.channel = t.channel) (heffect : entryAfter effect v.entry = v.entry)
    (hinserts : effect ≠ .insertStream)
    (hstage : targetStage t' = .gone ∨ targetStage t' = targetStage t ∧ accepts t'.phase = accepts t.phase ∧
      busy t'.phase = busy t.phase)
    (haccepts : accepts t'.phase = true → accepts t.phase = true) : Keeps v t t' effect v.socket [] := by
  refine ⟨hid, hkind, hshaped, fun hgone => ?_, fun hbefore => ?_, fun _ _ => rfl, fun _ _ _ hmem => ?_,
    fun h => absurd h hinserts, fun htcp => ?_⟩
  · exact hstage.elim (fun h => h) fun h => h.1.trans hgone
  · rcases hstage with h | h
    · rw [hbefore] at h
      cases h
    · exact h.1.symm.trans hbefore
  · cases hmem
  · have hview := hv htcp
    have heq : v.after t' effect v.socket [] =
        { v with stage := targetStage t', accepts := accepts t'.phase, busy := busy t'.phase } := by
      simp only [TargetView.after, heffect, eventsIn_nil, List.append_nil, hchannel, hof.channel]
    rw [heq]
    rcases hstage with h | ⟨h, ha, hb⟩
    · rw [h]
      refine hview.move .gone _ _ trivial (fun h => by cases h) (fun h => by cases h) (fun _ => rfl)
        (fun _ _ h => by cases h) fun ha => ?_
      rw [hof.accepts]
      exact haccepts ha
    · rw [h, ha, hb, ← hof.stage, ← hof.accepts, ← hof.busy]
      exact hview

/-- The task stays in its phase. -/
theorem Keeps.same (hof : v.Of t) (hv : t.kind = .tcp → StreamInv v) (hshaped : Shaped t)
    (hid : t'.id = t.id) (hkind : t'.kind = t.kind) (hphase : t'.phase = t.phase)
    (hchannel : t'.channel = t.channel) : Keeps v t t' .quiet v.socket [] := by
  refine .moved hof hv hid hkind ?_ hchannel rfl (fun h => by cases h) (.inr ⟨?_, ?_, ?_⟩) fun ha => ?_
  · unfold Shaped at hshaped ⊢
    rw [hphase, hkind, hid]
    exact hshaped
  · simp only [targetStage, hphase, hid]
  · rw [hphase]
  · rw [hphase]
  · rw [hphase] at ha
    exact ha

/-- The work of the task is over. -/
theorem Keeps.ended (hof : v.Of t) (hv : t.kind = .tcp → StreamInv v) (hid : t'.id = t.id)
    (hkind : t'.kind = t.kind) (hshaped : Shaped t') (hchannel : t'.channel = t.channel)
    (heffect : entryAfter effect v.entry = v.entry) (hinserts : effect ≠ .insertStream)
    (hgone : targetStage t' = .gone) (haccepts : accepts t'.phase = false) :
    Keeps v t t' effect v.socket [] :=
  .moved hof hv hid hkind hshaped hchannel heffect hinserts (.inl hgone) fun ha => by rw [haccepts] at ha; cases ha

omit [MessageCodec] in
theorem shaped_tcpFail (error : String) (htcp : t.kind = .tcp) : Shaped (t.tcpFail error) :=
  ⟨htcp, fun _ => rfl⟩

theorem Keeps.tcpFail (hof : v.Of t) (hv : t.kind = .tcp → StreamInv v) (htcp : t.kind = .tcp) (error : String) :
    Keeps v t (t.tcpFail error) .quiet v.socket [] :=
  .ended hof hv rfl rfl (shaped_tcpFail error htcp) rfl rfl (fun h => by cases h) rfl rfl

theorem Keeps.tcpLeave (hof : v.Of t) (hv : t.kind = .tcp → StreamInv v) :
    Keeps v t t.tcpLeave .quiet v.socket [] :=
  .ended hof hv rfl rfl trivial rfl rfl (fun h => by cases h) rfl rfl

theorem Keeps.leave (hof : v.Of t) (hv : t.kind = .tcp → StreamInv v) : Keeps v t t.leave .quiet v.socket [] := by
  unfold Task.leave
  split
  · exact .ended hof hv rfl rfl trivial rfl rfl (fun h => by cases h) rfl rfl
  · exact .ended hof hv rfl rfl trivial rfl rfl (fun h => by cases h) rfl rfl

/-! ### The steps of a task -/

theorem keeps_poll (hof : v.Of t) (hv : t.kind = .tcp → StreamInv v) (hshaped : Shaped t)
    (hs : t.poll env = some (t', effect)) : Keeps v t t' effect v.socket [] := by
  unfold Task.poll at hs
  split at hs
  · split at hs
    · rename_i hkind _
      cases hs
      exact .tcpFail hof hv hkind _
    · cases hs
      exact .same hof hv hshaped rfl rfl rfl rfl
    · cases hs
      exact .leave hof hv
    · split at hs
      · cases hs
        exact .leave hof hv
      · cases hs
        exact .same hof hv hshaped rfl rfl rfl rfl
  · cases hs

theorem keeps_suspend (hof : v.Of t) (hv : t.kind = .tcp → StreamInv v) (hshaped : Shaped t)
    (hs : t.suspend = some (t', effect)) : Keeps v t t' effect v.socket [] := by
  unfold Task.suspend at hs
  split at hs
  · cases hs
  · split at hs
    · cases hs
      exact .same hof hv hshaped rfl rfl rfl rfl
    · cases hs

theorem keeps_connected (hof : v.Of t) (hv : t.kind = .tcp → StreamInv v) (hshaped : Shaped t)
    (hs : t.connected = some (t', effect)) : Keeps v t t' effect v.socket [] := by
  unfold Task.connected at hs
  split at hs <;> rename_i hphase
  · cases (Task.working_eq_some hs).2
    have hkind : t.kind = .tcp := by
      unfold Shaped at hshaped
      rw [hphase] at hshaped
      exact hshaped
    have hbefore : targetStage t = .before := by rw [targetStage, hphase]
    refine ⟨rfl, rfl, hkind, fun hgone => ?_, fun h => (by cases h), fun _ _ => rfl,
      fun _ _ _ hmem => (by cases hmem),
      fun _ => hkind, fun _ => ?_⟩
    · rw [hbefore] at hgone
      cases hgone
    · have hstage : v.stage = .before := hof.stage.trans hbefore
      have hview := hv hkind
      have hopen : v.closing = false := by
        by_contra hc
        have hover := hview.closing (by simpa using hc)
        rw [hstage] at hover
        cases hover
      have hinserted := hview.insert hstage hopen
      simp only [TargetView.after, eventsIn_nil, List.append_nil, ← hof.channel]
      exact hinserted
  · cases hs

theorem keeps_connectFails {error : String} (hof : v.Of t) (hv : t.kind = .tcp → StreamInv v) (hshaped : Shaped t)
    (hs : t.connectFails error = some (t', effect)) : Keeps v t t' effect v.socket [] := by
  unfold Task.connectFails at hs
  split at hs <;> rename_i hphase
  · cases (Task.working_eq_some hs).2
    unfold Shaped at hshaped
    rw [hphase] at hshaped
    exact .tcpFail hof hv hshaped _
  · cases hs

theorem keeps_observe (hof : v.Of t) (hv : t.kind = .tcp → StreamInv v) (hs : t.observe = some (t', effect)) :
    Keeps v t t' effect v.socket [] := by
  unfold Task.observe at hs
  split at hs
  · split at hs
    · cases (Task.working_eq_some hs).2
      exact .tcpLeave hof hv
    · cases hs
  · cases hs

theorem keeps_writeFails {error : String} (hof : v.Of t) (hv : t.kind = .tcp → StreamInv v) (hshaped : Shaped t)
    (hs : t.writeFails error = some (t', effect)) : Keeps v t t' effect v.socket [] := by
  unfold Task.writeFails at hs
  split at hs <;> rename_i hphase
  · cases (Task.working_eq_some hs).2
    unfold Shaped at hshaped
    rw [hphase] at hshaped
    exact .tcpFail hof hv hshaped _
  · cases (Task.working_eq_some hs).2
    unfold Shaped at hshaped
    rw [hphase] at hshaped
    exact .tcpFail hof hv hshaped _
  · cases hs

/-- A step of an HTTP task. -/
theorem Keeps.http (hof : v.Of t) (hv : t.kind = .tcp → StreamInv v) (hkind : t.kind ≠ .tcp) (hid : t'.id = t.id)
    (hkind' : t'.kind = t.kind) (hshaped : Shaped t') (hchannel : t'.channel = t.channel)
    (hgone : targetStage t' = .gone) (haccepts : accepts t'.phase = false)
    (hinserts : effect ≠ .insertStream) : Keeps v t t' effect v.socket [] := by
  have hkeeps : Keeps v t t' .quiet v.socket [] :=
    .ended hof hv hid hkind' hshaped hchannel rfl (fun h => by cases h) hgone haccepts
  exact { hkeeps with
    inserts := fun h => absurd h hinserts
    view := fun htcp => absurd htcp hkind }

theorem keeps_respond {out : Outgoing} (hof : v.Of t) (hv : t.kind = .tcp → StreamInv v) (hshaped : Shaped t)
    (hs : t.respond out = some (t', effect)) : Keeps v t t' effect v.socket [] := by
  unfold Task.respond at hs
  split at hs <;> rename_i hphase
  · split at hs
    · rename_i hresponse
      cases (Task.working_eq_some hs).2
      unfold Shaped at hshaped
      rw [hphase] at hshaped
      exact .http hof hv hshaped rfl rfl ⟨hshaped, hresponse.2⟩ rfl rfl rfl fun h => by cases h
    · cases hs
  · cases hs

omit [MessageCodec] in
theorem messageEvents_reply (result : Except String (Option HttpResponsePayload)) (t : Task) (id : StreamId) :
    messageEvents id (t.reply result) = [] := by
  unfold Task.reply
  split <;> rfl

theorem keeps_requestEnds {result : Except String (Option HttpResponsePayload)} (hof : v.Of t)
    (hv : t.kind = .tcp → StreamInv v) (hshaped : Shaped t) (hs : t.requestEnds result = some (t', effect)) :
    Keeps v t t' effect v.socket [] := by
  unfold Task.requestEnds at hs
  split at hs <;> rename_i hphase
  · cases (Task.working_eq_some hs).2
    unfold Shaped at hshaped
    rw [hphase] at hshaped
    split
    · exact .http hof hv hshaped rfl rfl ⟨hshaped, messageEvents_reply result t⟩ rfl rfl rfl fun h => by cases h
    · exact .http hof hv hshaped rfl rfl ⟨hshaped, messageEvents_reply result t⟩ rfl rfl rfl fun h => by cases h
  · cases hs

theorem keeps_readBody (hof : v.Of t) (hv : t.kind = .tcp → StreamInv v) (hshaped : Shaped t)
    (hs : t.readBody env = some (t', effect)) : Keeps v t t' effect v.socket [] := by
  unfold Task.readBody at hs
  split at hs
  · split at hs
    · cases hs
      exact .same hof hv hshaped rfl rfl rfl rfl
    · split at hs
      · cases hs
      · cases hs
        exact .same hof hv hshaped rfl rfl rfl rfl
  · cases hs

theorem keeps_dropBody (hof : v.Of t) (hv : t.kind = .tcp → StreamInv v) (hshaped : Shaped t)
    (hs : t.dropBody = some (t', effect)) : Keeps v t t' effect v.socket [] := by
  unfold Task.dropBody at hs
  split at hs
  · cases hs
    exact .same hof hv hshaped rfl rfl rfl rfl
  · cases hs

theorem keeps_wind (hof : v.Of t) (hv : t.kind = .tcp → StreamInv v) (hshaped : Shaped t)
    (hs : t.wind = some (t', effect)) : Keeps v t t' effect v.socket [] := by
  unfold Task.wind at hs
  split at hs <;> rename_i hphase
  · cases hs
    unfold Shaped at hshaped
    rw [hphase] at hshaped
    exact .http hof hv hshaped.1 rfl rfl hshaped rfl rfl rfl fun h => by cases h
  · cases hs
    by_cases hkind : t.kind = .tcp
    · rw [if_pos hkind]
      have hkeeps : Keeps v t { t with phase := .unregistering } .quiet v.socket [] :=
        .ended hof hv rfl rfl trivial rfl rfl (fun h => by cases h) rfl rfl
      refine { hkeeps with inserts := fun h => (by cases h), view := fun _ => ?_ }
      refine (hkeeps.view hkind).unlist (fun hl => ?_) fun _ => rfl
      cases hl
    · rw [if_neg hkind]
      exact .http hof hv hkind rfl rfl trivial rfl rfl rfl fun h => by cases h
  · cases hs
    by_cases hkind : t.kind = .tcp
    · rw [if_pos hkind]
      exact .ended hof hv rfl rfl hkind rfl rfl (fun h => by cases h) rfl rfl
    · rw [if_neg hkind]
      exact .http hof hv hkind rfl rfl trivial rfl rfl rfl fun h => by cases h
  · cases hs

/-! ### The target is read -/

/-- At the `select!`, with the target still read. -/
theorem TargetView.Of.reading {accessClosed : Bool} (hof : v.Of t) (hphase : t.phase = .forwarding false accessClosed) :
    v.stage = .reading := hof.stage.trans (by rw [targetStage, hphase]; rfl)

omit [MessageCodec] in
theorem shaped_forwarding {targetReadClosed accessClosed : Bool} (hshaped : Shaped t)
    (hphase : t.phase = .forwarding targetReadClosed accessClosed) : t.kind = .tcp := by
  unfold Shaped at hshaped
  rw [hphase] at hshaped
  exact hshaped

/-- What is read is to be sent. -/
theorem Keeps.read {accessClosed targetReadClosed : Bool} {out : Outgoing} {k : TargetSocket} (hof : v.Of t)
    (hv : t.kind = .tcp → StreamInv v) (hphase : t.phase = .forwarding false accessClosed)
    (hshaped : Shaped { t with phase := .relaying out targetReadClosed accessClosed })
    (hcarries : ∀ x ∈ wsEvents t.id out.wsMessage, x.carries = true) (hordered : Ordered (wsEvents t.id out.wsMessage))
    (hk : k = { v.socket with read := v.socket.read ++ payload (wsEvents t.id out.wsMessage) }) :
    Keeps v t { t with phase := .relaying out targetReadClosed accessClosed } .quiet k [] := by
  have hstage : targetStage t = .reading := by
    rw [targetStage, hphase]
    rfl
  refine ⟨rfl, rfl, hshaped, fun hgone => ?_, fun h => (by cases h), fun _ _ => rfl,
    fun _ _ _ hmem => (by cases hmem), fun h => (by cases h), fun htcp => ?_⟩
  · rw [hstage] at hgone
    cases hgone
  · have hread := (hv htcp).read (hof.reading hphase) hcarries hordered
    have ha : accepts t.phase = !accessClosed := by
      rw [hphase]
      rfl
    have hb : busy t.phase = false := by
      rw [hphase]
      rfl
    have heq : v.after { t with phase := .relaying out targetReadClosed accessClosed } .quiet k [] =
        { v with
          stage := .relaying (wsEvents t.id out.wsMessage)
          socket := { v.socket with read := v.socket.read ++ payload (wsEvents t.id out.wsMessage) } } := by
      simp only [TargetView.after, eventsIn_nil, List.append_nil, entryAfter, hk, hof.accepts, hof.busy, hof.channel,
        ha, hb]
      rfl
    rw [heq]
    exact hread

theorem keeps_readTarget {bytes : Bytes} (hof : v.Of t) (hv : t.kind = .tcp → StreamInv v) (hshaped : Shaped t)
    (hsmall : t.id < 2 ^ 64) (hne : bytes ≠ []) (hs : t.readTarget bytes = some (t', effect)) :
    Keeps v t t' effect { v.socket with read := v.socket.read ++ bytes } [] := by
  unfold Task.readTarget at hs
  split at hs <;> rename_i hphase
  · cases (Task.working_eq_some hs).2
    have hkind : t.kind = .tcp := shaped_forwarding hshaped hphase
    have hevents : wsEvents t.id (Outgoing.data t.id bytes).wsMessage = dataEvents bytes :=
      (frameEvents_encode t.id bytes hsmall).trans (if_pos rfl)
    refine .read hof hv hphase ⟨hkind, .inl ⟨rfl, bytes, rfl, hne⟩⟩ ?_ ?_ ?_
    · rw [hevents]
      intro x hx
      obtain ⟨b, rfl⟩ := mem_dataEvents hx
      rfl
    · rw [hevents]
      exact ordered_dataEvents bytes
    · rw [hevents, payload_dataEvents]
  · cases hs

theorem keeps_targetEof (hof : v.Of t) (hv : t.kind = .tcp → StreamInv v) (hshaped : Shaped t)
    (hs : t.targetEof = some (t', effect)) : Keeps v t t' effect v.socket [] := by
  unfold Task.targetEof at hs
  split at hs <;> rename_i hphase
  · cases (Task.working_eq_some hs).2
    have hkind : t.kind = .tcp := shaped_forwarding hshaped hphase
    have hevents : wsEvents t.id (Outgoing.message (.tcpEof t.id)).wsMessage = [.eof] :=
      (wsEvents_text ..).trans (if_pos rfl)
    refine .read hof hv hphase ⟨hkind, .inr ⟨rfl, rfl⟩⟩ ?_ ?_ ?_
    · rw [hevents]
      intro x hx
      rw [List.mem_singleton.mp hx]
      rfl
    · rw [hevents]
      exact List.pairwise_singleton _ _
    · rw [hevents]
      show v.socket = { v.socket with read := v.socket.read ++ [] }
      rw [List.append_nil]
  · cases hs

theorem keeps_targetFails {error : String} (lost : Bytes) (hof : v.Of t) (hv : t.kind = .tcp → StreamInv v)
    (hshaped : Shaped t) (hs : t.targetFails error = some (t', effect)) :
    Keeps v t t' effect { v.socket with read := v.socket.read ++ lost } [] := by
  unfold Task.targetFails at hs
  split at hs <;> rename_i hphase
  · cases (Task.working_eq_some hs).2
    have hkind := shaped_forwarding hshaped hphase
    have hkeeps := Keeps.tcpFail hof hv hkind error
    refine { hkeeps with view := fun htcp => ?_ }
    have hlost := (hv htcp).lost lost false
    have heq : v.after (t.tcpFail error) .quiet { v.socket with read := v.socket.read ++ lost } [] =
        { v with
          stage := .gone, accepts := false, busy := false
          socket := { v.socket with read := v.socket.read ++ lost } } := by
      simp only [TargetView.after, eventsIn_nil, List.append_nil, entryAfter, hof.channel]
      rfl
    rw [heq]
    exact hlost
  · cases hs

/-! ### The target is written -/

theorem keeps_recv (hof : v.Of t) (hv : t.kind = .tcp → StreamInv v) (hshaped : Shaped t)
    (hentry : env.streamSender = false → v.entry = false) (hs : t.recv env = some (t', effect)) :
    Keeps v t t' effect
      (match t.channel.recv with
        | some (payload, _) => { v.socket with writing := some payload }
        | none => { v.socket with drained := true }) [] := by
  unfold Task.recv at hs
  split at hs <;> rename_i hphase
  · rename_i targetReadClosed
    have hkind := shaped_forwarding hshaped hphase
    have hstage : targetStage t = .ofRead targetReadClosed := by rw [targetStage, hphase]
    have hl : v.stage.listening = true := by
      rw [hof.stage, hstage]
      cases targetReadClosed <;> rfl
    have hb : v.busy = false := hof.busy.trans (by rw [hphase]; rfl)
    have hshape : ∀ {phase}, (phase = .writing targetReadClosed ∨ phase = .shutting targetReadClosed) →
        ∀ channel, Shaped { t with channel, phase } := by
      intro phase hp channel
      rcases hp with rfl | rfl
      · exact hkind
      · exact hkind
    cases hrecv : t.channel.recv with
    | some r =>
      obtain ⟨bytes, channel⟩ := r
      rw [hrecv] at hs
      cases (Task.working_eq_some hs).2
      have hitems : v.channel = bytes :: channel.items := hof.channel.trans (BoundedChannel.recv_eq_some hrecv).1
      refine ⟨rfl, rfl, hshape (.inl rfl) _, fun hgone => ?_, fun h => ?_, fun _ _ => rfl,
        fun _ _ _ hmem => (by cases hmem), fun h => (by cases h), fun htcp => ?_⟩
      · exact hstage.symm.trans hgone
      · exact hstage.trans h
      · have htaken := (hv htcp).recv hl hb hitems
        have ha : v.accepts = true := hof.accepts.trans (by rw [hphase]; rfl)
        have heq : v.after { t with channel, phase := .writing targetReadClosed } .quiet
            { v.socket with writing := some bytes } [] =
            { v with busy := true, channel := channel.items, socket := { v.socket with writing := some bytes } } := by
          simp only [TargetView.after, eventsIn_nil, List.append_nil, entryAfter, ha, hof.stage, hstage]
          rfl
        rw [heq]
        exact htaken
    | none =>
      rw [hrecv] at hs
      obtain ⟨hsender, hs⟩ := Option.ite_none_left_eq_some.mp hs
      cases (Task.working_eq_some hs).2
      refine ⟨rfl, rfl, hshape (.inr rfl) _, fun hgone => ?_, fun h => ?_, fun _ _ => rfl,
        fun _ _ _ hmem => (by cases hmem), fun h => (by cases h), fun htcp => ?_⟩
      · exact hstage.symm.trans hgone
      · exact hstage.trans h
      · have hdrained := (hv htcp).drain hl hb (hof.channel.trans (BoundedChannel.recv_eq_none.mp hrecv))
          (hentry (by simpa using hsender))
        have heq : v.after { t with phase := .shutting targetReadClosed } .quiet
            { v.socket with drained := true } [] =
            { v with accepts := false, socket := { v.socket with drained := true } } := by
          simp only [TargetView.after, eventsIn_nil, List.append_nil, entryAfter, hb, hof.stage, hstage, hof.channel]
          rfl
        rw [heq]
        exact hdrained
  · cases hs

/-- After the target was written. -/
theorem Keeps.wrote {targetReadClosed accessClosed : Bool} (hof : v.Of t) (hv : t.kind = .tcp → StreamInv v)
    (hkind : t.kind = .tcp) (hstage : targetStage t = .ofRead targetReadClosed)
    (hwritten : v.socket.writing.getD [] = []) (haccepts : accessClosed = false → accepts t.phase = true) :
    Keeps v t (t.resume targetReadClosed accessClosed) .quiet { v.socket with writing := none } [] := by
  have hwrote := (hv hkind).wrote hwritten
  unfold Task.resume
  split
  · have hkeeps := Keeps.tcpLeave hof hv
    refine { hkeeps with view := fun _ => ?_ }
    have hgone := hwrote.move .gone false false trivial (fun h => by cases h)
      (fun h => by cases h) (fun _ => rfl) (fun _ _ _ => rfl) (fun ha => by cases ha)
    have heq : v.after t.tcpLeave .quiet { v.socket with writing := none } [] =
        { v with
          stage := .gone, accepts := false, busy := false, socket := { v.socket with writing := none } } := by
      simp only [TargetView.after, eventsIn_nil, List.append_nil, entryAfter, hof.channel]
      rfl
    rw [heq]
    exact hgone
  · refine ⟨rfl, rfl, hkind, fun hgone => ?_, fun h => ?_, fun _ _ => rfl, fun _ _ _ hmem => (by cases hmem),
      fun h => (by cases h), fun _ => ?_⟩
    · exact hstage.symm.trans hgone
    · exact hstage.trans h
    · have hmoved := hwrote.move v.stage (!accessClosed) false hwrote.place
        (fun h => h) (fun h => h) (fun h => h) (fun _ _ _ => rfl) fun ha => ?_
      · have heq : v.after { t with phase := .forwarding targetReadClosed accessClosed } .quiet
            { v.socket with writing := none } [] =
            { v with accepts := !accessClosed, busy := false, socket := { v.socket with writing := none } } := by
          simp only [TargetView.after, eventsIn_nil, List.append_nil, entryAfter, hof.channel, hof.stage, hstage]
          rfl
        rw [heq]
        exact hmoved
      · show v.accepts = true
        rw [hof.accepts]
        exact haccepts (by simpa using ha)

theorem keeps_wrote (hof : v.Of t) (hv : t.kind = .tcp → StreamInv v) (hshaped : Shaped t)
    (hwritten : (∃ r, t.phase = .writing r) → v.socket.writing = some [])
    (hs : t.wrote = some (t', effect)) : Keeps v t t' effect { v.socket with writing := none } [] := by
  unfold Task.wrote at hs
  split at hs <;> rename_i hphase
  · cases (Task.working_eq_some hs).2
    unfold Shaped at hshaped
    rw [hphase] at hshaped
    refine .wrote hof hv hshaped (by rw [targetStage, hphase]) ?_ fun _ => by rw [hphase]; rfl
    rw [hwritten ⟨_, hphase⟩]
    rfl
  · rename_i targetReadClosed
    cases (Task.working_eq_some hs).2
    unfold Shaped at hshaped
    rw [hphase] at hshaped
    refine .wrote hof hv hshaped (by rw [targetStage, hphase]) ?_ fun h => by cases h
    have hl : v.stage.listening = true := by
      rw [hof.stage, targetStage, hphase]
      cases targetReadClosed <;> rfl
    rw [(hv hshaped).idle hl (hof.busy.trans (by rw [hphase]; rfl))]
    rfl
  · cases hs

/-! ### Messages are sent -/

/-- A message of the task's own stream. -/
theorem events_of_own {out : Outgoing} {i : StreamId} (hsmall : i < 2 ^ 64)
    (hout : (∃ bytes, out = .data i bytes) ∨ out = .message (.tcpEof i) ∨ out = .message (.openOk i) ∨
      (∃ reason, out = .message (.close i reason)) ∨ ∃ m, out = .message m ∧ ∀ id, messageEvents id m = [])
    (id : StreamId) (hne : id ≠ i) : eventsIn id [out.wsMessage] = [] := by
  simp only [eventsIn_cons, eventsIn_nil, List.append_nil]
  rcases hout with ⟨bytes, rfl⟩ | rfl | rfl | ⟨reason, rfl⟩ | ⟨m, rfl, hm⟩
  · exact (frameEvents_encode id bytes hsmall).trans (if_neg hne.symm)
  · exact (wsEvents_text ..).trans (if_neg hne.symm)
  · exact (wsEvents_text ..).trans (if_neg hne.symm)
  · exact (wsEvents_text ..).trans (if_neg hne.symm)
  · exact (wsEvents_text ..).trans (hm id)

omit [MessageCodec] in
/-- What is sent of a response. -/
theorem ofResponse_cases {out : Outgoing} {i : StreamId} (h : out.ofResponse i = true) :
    (∃ bytes, out = .data i bytes) ∨ ∃ m, out = .message m ∧ ∀ id, messageEvents id m = [] := by
  unfold Outgoing.ofResponse at h
  split at h
  · exact .inr ⟨_, rfl, fun _ => rfl⟩
  · exact .inl ⟨_, by rw [of_decide_eq_true h]⟩
  · cases h

theorem no_frames {m : Message} {P : Bytes → StreamId → Bytes → Prop} :
    ∀ frame id bytes, WsMessage.binary frame ∈ [(Outgoing.message m).wsMessage] →
      decodeDataFrame frame = some (id, bytes) → P frame id bytes := by
  intro frame id bytes hmem
  cases List.mem_singleton.mp hmem

/-- A step that sends a message without events. -/
theorem Keeps.quietly {m : Message} {k : TargetSocket} (h : Keeps v t t' .quiet k []) (hm : ∀ id, messageEvents id m = []) :
    Keeps v t t' (.send (.message m)) k [(Outgoing.message m).wsMessage] := by
  have hnone : ∀ id, eventsIn id [(Outgoing.message m).wsMessage] = [] := by
    intro id
    simp only [eventsIn_cons, eventsIn_nil, List.append_nil]
    exact (wsEvents_text ..).trans (hm id)
  refine { h with
    events := fun id _ => hnone id, frames := no_frames, inserts := fun h => (by cases h), view := fun htcp => ?_ }
  have heq : v.after t' (.send (.message m)) k [(Outgoing.message m).wsMessage] = v.after t' .quiet k [] := by
    simp only [TargetView.after, hnone, entryAfter, eventsIn_nil]
  rw [heq]
  exact h.view htcp

/-- A TCP task sends what it is sending. -/
theorem Keeps.relayed {e : List StreamEvent} {out : Outgoing} {targetReadClosed accessClosed : Bool} (hof : v.Of t)
    (hv : t.kind = .tcp → StreamInv v) (hshaped : Shaped t) (hsmall : t.id < 2 ^ 64)
    (hphase : t.phase = .relaying out targetReadClosed accessClosed) (he : wsEvents t.id out.wsMessage = e) :
    Keeps v t (t.resume targetReadClosed accessClosed) (.send out) v.socket [out.wsMessage] := by
  unfold Shaped at hshaped
  rw [hphase] at hshaped
  obtain ⟨hkind, hout⟩ := hshaped
  have hstage : targetStage t = .relaying e := by rw [targetStage, hphase, ← he]
  have hown : (∃ bytes, out = .data t.id bytes) ∨ out = .message (.tcpEof t.id) ∨ out = .message (.openOk t.id) ∨
      (∃ reason, out = .message (.close t.id reason)) ∨ ∃ m, out = .message m ∧ ∀ id, messageEvents id m = [] :=
    hout.elim (fun h => .inl (h.2.imp fun _ h => h.1)) fun h => .inr (.inl h.2)
  have hframes : ∀ frame id bytes, WsMessage.binary frame ∈ [out.wsMessage] →
      decodeDataFrame frame = some (id, bytes) → id = t.id ∧ (t.kind = .tcp → bytes ≠ []) := by
    intro frame id bytes hmem hdecode
    rcases hout with ⟨_, payload, rfl, hne⟩ | ⟨_, rfl⟩
    · cases List.mem_singleton.mp hmem
      rw [decodeDataFrame_encode t.id payload hsmall] at hdecode
      cases hdecode
      exact ⟨rfl, fun _ => hne⟩
    · cases List.mem_singleton.mp hmem
  -- the target's end is what is sent last
  have hnext : targetReadClosed = false ∧ ¬ HasEnd e ∨ targetReadClosed = true := by
    rcases hout with ⟨hr, bytes, rfl, _⟩ | ⟨hr, _⟩
    · refine .inl ⟨hr, ?_⟩
      have hevents : wsEvents t.id (Outgoing.data t.id bytes).wsMessage = dataEvents bytes :=
        (frameEvents_encode t.id bytes hsmall).trans (if_pos rfl)
      rw [← he, hevents]
      intro hend
      obtain ⟨x, hx, hends⟩ := hend
      obtain ⟨b, rfl⟩ := mem_dataEvents hx
      cases hends
    · exact .inr hr
  have hview := hv hkind
  have hevents : eventsIn t.id [out.wsMessage] = e := by
    simp only [eventsIn_cons, eventsIn_nil, List.append_nil, he]
  have hbusy : v.busy = false := hof.busy.trans (by rw [hphase]; rfl)
  unfold Task.resume
  split
  · refine ⟨rfl, rfl, trivial, fun _ => rfl, fun h => (by cases h), events_of_own hsmall hown, hframes,
      fun h => (by cases h), fun _ => ?_⟩
    have hsent := hview.relayed (hof.stage.trans hstage) .gone false (.inr (.inr rfl))
      fun ha => by cases ha
    have heq : v.after t.tcpLeave (.send out) v.socket [out.wsMessage] =
        { v with stage := .gone, accepts := false, produced := v.produced ++ e } := by
      simp only [TargetView.after, entryAfter, hof.channel, hbusy]
      rw [← hevents]
      rfl
    rw [heq]
    exact hsent
  · refine ⟨rfl, rfl, hkind, fun h => ?_, fun h => ?_, events_of_own hsmall hown, hframes,
      fun h => (by cases h), fun _ => ?_⟩
    · rw [hstage] at h
      cases h
    · cases targetReadClosed <;> cases h
    · have hsent := hview.relayed (hof.stage.trans hstage) (.ofRead targetReadClosed) (!accessClosed) ?_ fun ha => ?_
      · have heq : v.after { t with phase := .forwarding targetReadClosed accessClosed } (.send out) v.socket
            [out.wsMessage] =
            { v with stage := .ofRead targetReadClosed, accepts := !accessClosed, produced := v.produced ++ e } := by
          simp only [TargetView.after, entryAfter, hof.channel, hbusy, hevents]
          rfl
        rw [heq]
        exact hsent
      · rcases hnext with ⟨rfl, hno⟩ | rfl
        · exact .inl ⟨rfl, hno⟩
        · exact .inr (.inl rfl)
      · rw [hof.accepts, hphase]
        exact ha

/-- A TCP task sends OpenOk, and reads. -/
theorem Keeps.openOk (hof : v.Of t) (hv : t.kind = .tcp → StreamInv v) (hsmall : t.id < 2 ^ 64)
    (hphase : t.phase = .opening) (hkind : t.kind = .tcp) :
    Keeps v t { t with phase := .forwarding false false } (.send (.message (.openOk t.id))) v.socket
      [(Outgoing.message (.openOk t.id)).wsMessage] := by
  have hstage : targetStage t = .opening := by rw [targetStage, hphase]
  refine ⟨rfl, rfl, hkind, fun h => ?_, fun h => (by cases h), events_of_own hsmall (.inr (.inr (.inl rfl))),
    no_frames, fun h => (by cases h), fun _ => ?_⟩
  · rw [hstage] at h
    cases h
  · have hopened := (hv hkind).openOk (hof.stage.trans hstage) true fun _ => by
      rw [hof.accepts, hphase]
      rfl
    have hbusy : v.busy = false := hof.busy.trans (by rw [hphase]; rfl)
    have hevents : eventsIn t.id [(Outgoing.message (.openOk t.id)).wsMessage] = [.start .tcp] := by
      show eventsIn t.id [.text (encodeMessage (.openOk t.id))] = _
      simp only [eventsIn_cons, eventsIn_nil, List.append_nil, wsEvents_text, messageEvents, if_true]
    have heq : v.after { t with phase := .forwarding false false } (.send (.message (.openOk t.id))) v.socket
        [(Outgoing.message (.openOk t.id)).wsMessage] =
        { v with stage := .reading, accepts := true, produced := v.produced ++ [.start .tcp] } := by
      simp only [TargetView.after, entryAfter, hof.channel, hbusy, hevents]
      rfl
    rw [heq]
    exact hopened

/-- A TCP task sends its Close, and has finished. -/
theorem Keeps.closed (hof : v.Of t) (hv : t.kind = .tcp → StreamInv v) (hsmall : t.id < 2 ^ 64)
    (hphase : t.phase = .closing) (hkind : t.kind = .tcp) (reason : String) :
    Keeps v t { t with phase := .finished } (.send (.message (.close t.id reason))) v.socket
      [(Outgoing.message (.close t.id reason)).wsMessage] := by
  have hstage : targetStage t = .gone := by rw [targetStage, hphase]
  refine ⟨rfl, rfl, trivial, fun _ => rfl, fun h => (by cases h),
    events_of_own hsmall (.inr (.inr (.inr (.inl ⟨_, rfl⟩)))), no_frames, fun h => (by cases h), fun _ => ?_⟩
  have hclosed := (hv hkind).closed (e := [.close]) (fun x hx => List.mem_singleton.mp hx) (hof.stage.trans hstage)
  have hbusy : v.busy = false := hof.busy.trans (by rw [hphase]; rfl)
  have haccepts : v.accepts = false := hof.accepts.trans (by rw [hphase]; rfl)
  have hevents : eventsIn t.id [(Outgoing.message (.close t.id reason)).wsMessage] = [.close] := by
    show eventsIn t.id [.text (encodeMessage (.close t.id reason))] = _
    simp only [eventsIn_cons, eventsIn_nil, List.append_nil, wsEvents_text, messageEvents, if_true]
  have heq : v.after { t with phase := .finished } (.send (.message (.close t.id reason))) v.socket
      [(Outgoing.message (.close t.id reason)).wsMessage] = { v with produced := v.produced ++ [.close] } := by
    simp only [TargetView.after, entryAfter, hof.channel, hof.stage, hstage, hbusy, haccepts, hevents]
    rfl
  rw [heq]
  exact hclosed

/-- An HTTP task sends a part of its response, and goes on. -/
theorem Keeps.responded {out : Outgoing} (hof : v.Of t) (hv : t.kind = .tcp → StreamInv v) (hsmall : t.id < 2 ^ 64)
    (hkind : t.kind ≠ .tcp) (hresponse : out.ofResponse t.id = true) :
    Keeps v t { t with phase := .requesting } (.send out) v.socket [out.wsMessage] := by
  have hkeeps : Keeps v t { t with phase := .requesting } .quiet v.socket [] :=
    .http hof hv hkind rfl rfl hkind rfl rfl rfl fun h => by cases h
  rcases ofResponse_cases hresponse with ⟨bytes, rfl⟩ | ⟨m, rfl, hm⟩
  · refine { hkeeps with
      events := events_of_own hsmall (.inl ⟨bytes, rfl⟩), frames := fun frame id payload hmem hdecode => ?_,
      inserts := fun h => (by cases h), view := fun htcp => absurd htcp hkind }
    cases List.mem_singleton.mp hmem
    rw [decodeDataFrame_encode t.id bytes hsmall] at hdecode
    cases hdecode
    exact ⟨rfl, fun htcp => absurd htcp hkind⟩
  · exact hkeeps.quietly hm

theorem keeps_sent (hof : v.Of t) (hv : t.kind = .tcp → StreamInv v) (hshaped : Shaped t) (hsmall : t.id < 2 ^ 64)
    (hs : t.sent env = some (t', effect)) :
    Keeps v t t' effect v.socket (t.sends.toList.map Outgoing.wsMessage) := by
  have hshaped' := hshaped
  unfold Shaped at hshaped'
  unfold Task.sent at hs
  split at hs
  · split at hs <;> rename_i hphase
    · cases (Task.working_eq_some hs).2
      rw [hphase] at hshaped'
      simp only [Task.sends, hphase]
      exact .openOk hof hv hsmall hphase hshaped'
    · cases (Task.working_eq_some hs).2
      simp only [Task.sends, hphase]
      exact .relayed hof hv hshaped hsmall hphase rfl
    · cases hs
      rw [hphase] at hshaped'
      simp only [Task.sends, hphase]
      exact (Keeps.tcpLeave hof hv).quietly hshaped'.2
    · cases (Task.working_eq_some hs).2
      rw [hphase] at hshaped'
      simp only [Task.sends, hphase]
      exact .responded hof hv hsmall hshaped'.1 hshaped'.2
    · cases (Task.working_eq_some hs).2
      rw [hphase] at hshaped'
      simp only [Task.sends, hphase]
      exact (Keeps.leave hof hv).quietly hshaped'.2
    · cases hs
      rw [hphase] at hshaped'
      simp only [Task.sends, hphase]
      exact .closed hof hv hsmall hphase hshaped' _
    · cases hs
  · cases hs

theorem keeps_refused {error : String} (hof : v.Of t) (hv : t.kind = .tcp → StreamInv v) (hshaped : Shaped t)
    (hs : t.refused error env = some (t', effect)) : Keeps v t t' effect v.socket [] := by
  unfold Shaped at hshaped
  unfold Task.refused at hs
  split at hs
  · cases hs
  · split at hs <;> rename_i hphase
    · cases (Task.working_eq_some hs).2
      rw [hphase] at hshaped
      exact .tcpFail hof hv hshaped _
    · cases (Task.working_eq_some hs).2
      rw [hphase] at hshaped
      exact .tcpFail hof hv hshaped.1 _
    · rename_i message targetReadClosed accessClosed
      cases (Task.working_eq_some hs).2
      rw [hphase] at hshaped
      obtain ⟨hkind, hout⟩ := hshaped
      -- a TcpEof: the target's end is not sent
      rcases hout with ⟨_, _, hdata, _⟩ | ⟨rfl, _⟩
      · cases hdata
      · unfold Task.resume
        split
        · exact .tcpLeave hof hv
        · have hstage : ∃ e, v.stage = .relaying e := ⟨_, hof.stage.trans (by rw [targetStage, hphase])⟩
          obtain ⟨e, hstage⟩ := hstage
          refine ⟨rfl, rfl, hkind, fun h => ?_, fun h => (by cases h), fun _ _ => rfl,
            fun _ _ _ hmem => (by cases hmem), fun h => (by cases h), fun _ => ?_⟩
          · rw [← hof.stage, hstage] at h
            cases h
          · have hbusy : v.busy = false := hof.busy.trans (by rw [hphase]; rfl)
            have hmoved := (hv hkind).move .ended (!accessClosed) false trivial
              (fun h => by cases h) (fun _ => by rw [hstage]; rfl) (fun h => by rw [hstage] at h; cases h)
              (fun hb => by rw [hbusy] at hb; cases hb) fun ha => by
                rw [hof.accepts, hphase]
                exact ha
            have heq : v.after { t with phase := .forwarding true accessClosed } .quiet v.socket [] =
                { v with stage := .ended, accepts := !accessClosed, busy := false } := by
              simp only [TargetView.after, eventsIn_nil, List.append_nil, entryAfter, hof.channel]
              rfl
            rw [heq]
            exact hmoved
    · cases hs
      exact .tcpLeave hof hv
    · cases (Task.working_eq_some hs).2
      rw [hphase] at hshaped
      exact .http hof hv hshaped.1 rfl rfl ⟨hshaped.1, fun _ => rfl⟩ rfl rfl rfl fun h => by cases h
    · cases (Task.working_eq_some hs).2
      exact .leave hof hv
    · cases hs
      exact .ended hof hv rfl rfl trivial rfl rfl (fun h => by cases h) rfl rfl
    · cases hs

end Target

end WsNet.Relay
