import WsNet.Access.Upload

/-! A request whose handler is dropped.

The local client disconnects, and the server drops the handler's future where it
awaits. The entries of a stream are taken out by the handler's own code, on each of its
error exits; a dropped future runs none of it. The entries stay and count in the
connection's load, and to a gateway that has seen the start but no end nothing is sent. -/
namespace WsNet.Access
open Data Transition

/-- The handler awaits, its request's start being sent. -/
def HandlerPhase.requesting : HandlerPhase → Bool
  | awaiting _ | uploading _ _ | failing _ => true
  | _ => false

/-- A request without entries does not count. -/
theorem connectionLoad_closeRequest {c : GatewayConnection} {id : StreamId} (hh : id ∉ c.httpHeadWaiters)
    (hb : id ∉ c.httpBodyStreams) : connectionLoad (c.closeRequest id) = connectionLoad c := by
  simp only [connectionLoad, GatewayConnection.closeRequest, Finset.erase_eq_of_notMem hh,
    Finset.erase_eq_of_notMem hb]

section Machine
variable [MessageCodec]

/-- Nothing is left of the request here, and the gateway knows of its end. -/
structure CleanedUp (id : StreamId) (s : UploadState) : Prop where
  head : id ∉ s.session.connection.httpHeadWaiters
  body : id ∉ s.session.connection.httpBodyStreams
  load : connectionLoad (s.session.connection.closeRequest id) = connectionLoad s.session.connection
  told : .text (encodeMessage (.httpRequestEnd id)) ∈ s.sent id ∨ CloseSent id (s.sent id)

/-- The step drops a handler that awaits, its request's start being sent. -/
def Drops (id : StreamId) (op : SessionOp) (s : UploadState) : Prop :=
  op = .dropped id ∧ (s.session.streams id).mode = .http ∧ (s.session.streams id).phase.requesting = true

/-- Its drop cleans up after a request. -/
def DropCleans (op : SessionOp) (s t : UploadState) : Prop := ∀ id, Drops id op s → CleanedUp id t

/-- The drop comes after the upload, and after the entries were taken out. -/
def DropHarmless (op : SessionOp) (s : UploadState) : Prop :=
  ∀ id, Drops id op s → (s.session.streams id).phase = .awaiting false ∧
    id ∉ s.session.connection.httpHeadWaiters ∧ id ∉ s.session.connection.httpBodyStreams

variable {id : StreamId} {s t : UploadState}

/-- A drop leaves entries and messages as they were. -/
theorem dropped_leaves (hs : requestUploads.step (.dropped id) s = some t) :
    t.session.connection = s.session.connection ∧ t.sent id = s.sent id := by
  obtain ⟨j, hop, _⟩ | ⟨_, u, hu, rfl⟩ := uploads_cases hs
  · cases hop
  obtain ⟨put, hturn, hsent, _⟩ := recorded_turn rfl hu
  constructor
  · simp only [session, SessionState.dropped, Option.ite_none_left_eq_some] at hu
    obtain ⟨_, hu⟩ := hu
    cases hu
    rfl
  · generalize u.streams id = st at hturn
    cases hturn with
    | dropped => exact hsent.trans (List.append_nil _)
    | put h | wait h | refused h => cases h

/-- **A drop cleans up** exactly if there was nothing left to do. -/
theorem dropCleans_iff {op : SessionOp} (hl : Logged s) (hs : requestUploads.step op s = some t) :
    DropCleans op s t ↔ DropHarmless op s := by
  refine forall_congr' fun id => forall_congr' fun hdrop => ?_
  obtain ⟨rfl, hmode, hreq⟩ := hdrop
  obtain ⟨hconnection, hsent⟩ := dropped_leaves hs
  have hprogress := hl.progress id hmode
  constructor
  · intro h
    have hup : (s.session.streams id).phase.uploads = false := by
      by_contra hup
      obtain ⟨hend, hclose⟩ := hprogress.unfinished (Bool.not_eq_false _ ▸ hup)
      have htold := h.told
      rw [hsent] at htold
      rcases htold with htold | htold
      · exact hend htold
      · exact hclose htold
    refine ⟨?_, hconnection ▸ h.head, hconnection ▸ h.body⟩
    cases hp : (s.session.streams id).phase with
    | awaiting upload =>
      rw [hp] at hup
      rw [show upload = false from hup]
    | uploading m last =>
      rw [hp] at hup
      cases hup
    | failing m =>
      rw [hp] at hup
      cases hup
    | _ =>
      rw [hp] at hreq
      cases hreq
  · rintro ⟨hp, hhead, hbody⟩
    rw [hp] at hprogress
    rw [← hconnection] at hhead hbody
    exact ⟨hhead, hbody, connectionLoad_closeRequest hhead hbody,
      .inl (hsent ▸ Whole.end_mem hprogress)⟩

/-- **Every drop cleans up** in a run exactly if in it none comes before the upload's end
and the entries'. -/
theorem drops_clean_iff (labels : List SessionOp) :
    requestUploads.Throughout DropCleans labels .start ↔
      requestUploads.Throughout (fun op s _ => DropHarmless op s) labels .start := by
  refine Machine.throughout_congr (fun s => Consistent s.session ∧ Logged s)
    (fun _ _ _ ⟨_, hl⟩ hs => dropCleans_iff hl hs) ?_ ?_
  · exact fun _ _ _ ⟨hc, hl⟩ hs _ => ⟨uploads_consistent hc hs, logged_step hc hl hs⟩
  · exact ⟨consistent_start, logged_start⟩

end Machine

section Example

local instance droppedCodec : MessageCodec := .plain

/-- A part of the body is sent, and the client disconnects. -/
def droppedOps : List SessionOp :=
  [.connect, .startHttp "page" pageTarget ⟨"POST", "/", []⟩, .upload 1 [1, 2]]

def midUploadState : UploadState := (requestUploads.run droppedOps .start).getD .start

def droppedState : UploadState := (requestUploads.step (.dropped 1) midUploadState).getD midUploadState

/-- Both entries stay and count, and neither an end nor a Close is sent. -/
theorem drop_leaves_entries :
    requestUploads.Reachable midUploadState ∧
      requestUploads.step (.dropped 1) midUploadState = some droppedState ∧
      connectionLoad droppedState.session.connection = 2 ∧
      1 ∈ droppedState.session.connection.httpHeadWaiters ∧
      1 ∈ droppedState.session.connection.httpBodyStreams ∧
      ¬ (.text (encodeMessage (.httpRequestEnd 1)) ∈ droppedState.sent 1 ∨
        CloseSent 1 (droppedState.sent 1)) ∧
      ¬ DropCleans (.dropped 1) midUploadState droppedState := by
  have hhead : 1 ∈ droppedState.session.connection.httpHeadWaiters := by decide +kernel
  have hsent : droppedState.sent 1 =
      [.text (encodeMessage (.httpRequestStart 1 "page" pageTarget ⟨"POST", "/", []⟩)),
        .binary (encodeDataFrame 1 [1, 2])] := rfl
  have hdrops : Drops 1 (.dropped 1) midUploadState := ⟨rfl, by decide +kernel, by decide +kernel⟩
  refine ⟨Machine.reachable_getD rfl (by decide +kernel), rfl, by decide +kernel, hhead, by decide +kernel,
    ?_, fun h => (h 1 hdrops).head hhead⟩
  rw [hsent]
  have other : ∀ m : Message, .text (encodeMessage m) ∈ [WsMessage.text (encodeMessage
      (.httpRequestStart 1 "page" pageTarget ⟨"POST", "/", []⟩)), .binary (encodeDataFrame 1 [1, 2])] →
      m = .httpRequestStart 1 "page" pageTarget ⟨"POST", "/", []⟩ := by
    intro m hmem
    rcases List.mem_cons.mp hmem with heq | hmem
    · exact encodeMessage_inj (WsMessage.text.inj heq)
    · cases List.mem_singleton.mp hmem
  rintro (hmem | ⟨reason, hmem⟩)
  · exact nomatch other _ hmem
  · exact nomatch other _ hmem

end Example

end WsNet.Access
