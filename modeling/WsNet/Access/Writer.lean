import WsNet.Common.WsMessage
import WsNet.Data.BoundedChannel

/-! The queue to the gateway, and the writer that empties it.

The session task and the stream handlers send to one bounded queue. The writer takes a
first message, adds to it what is queued behind it if it is data, and has the sink
take the messages of the batch one by one. -/
namespace WsNet.Access
open Data

def outboundCapacity : Nat := 1024

/-- Who sends to the queue. -/
inductive Sender where
  | session
  | handler (id : StreamId)
  deriving DecidableEq, Repr

abbrev Outbound := BoundedChannel outboundCapacity WsMessage Sender

inductive WriterPhase where
  | idle
  /-- At `yield_now`, with a first binary message. -/
  | yielding (first : WsMessage)
  /-- In the `try_recv` loop. -/
  | gathering (batch : List WsMessage) (batchBytes : Nat)
  /-- The sink takes the messages, and is flushed after the last. -/
  | writing (batch : List WsMessage)
  deriving DecidableEq

def WriterPhase.batch : WriterPhase → List WsMessage
  | .idle => []
  | .yielding first => [first]
  | .gathering batch _ | .writing batch => batch

structure Writer where
  pending : Option WsMessage := none
  phase : WriterPhase := .idle
  deriving DecidableEq

inductive WriterOp where
  | receive
  | yielded
  /-- One round of the `try_recv` loop. -/
  | gather
  /-- The sink takes a message. -/
  | feed
  | flushed
  deriving DecidableEq

/-- The writer and the queue after a step, with the message that the sink took. -/
structure WriterStep where
  writer : Writer
  outbound : Outbound
  fed : Option WsMessage := none

namespace Writer

def begin (first : WsMessage) (outbound : Outbound) : WriterStep where
  writer := { phase := if first.isBinary then .yielding first else .writing [first] }
  outbound

def receive (w : Writer) (outbound : Outbound) : Option WriterStep :=
  if w.phase = .idle then
    match w.pending with
    | some first => some (begin first outbound)
    | none => outbound.recv.map fun r => begin r.1 r.2
  else none

def yielded (w : Writer) (outbound : Outbound) : Option WriterStep :=
  match w.phase with
  | .yielding first => some { writer := { w with phase := .gathering [first] (wsMessageSize first) }, outbound }
  | _ => none

def gather (w : Writer) (outbound : Outbound) : Option WriterStep :=
  match w.phase with
  | .gathering batch batchBytes =>
    if batch.length < wsWriteBatchMaxMessages then
      match outbound.recv with
      | none => some { writer := { w with phase := .writing batch }, outbound }
      | some (next, outbound) =>
        match pushWsMessage batch batchBytes next with
        | .pushed stop batch batchBytes =>
          some { writer := { w with
                   phase := if stop then .writing batch else .gathering batch batchBytes }
                 outbound }
        | .deferred next => some { writer := { pending := some next, phase := .writing batch }, outbound }
    else some { writer := { w with phase := .writing batch }, outbound }
  | _ => none

def feed (w : Writer) (outbound : Outbound) : Option WriterStep :=
  match w.phase with
  | .writing (message :: batch) =>
    some { writer := { w with phase := .writing batch }, outbound, fed := some message }
  | _ => none

def flushed (w : Writer) (outbound : Outbound) : Option WriterStep :=
  if w.phase = .writing [] then some { writer := { w with phase := .idle }, outbound } else none

def step : WriterOp → Writer → Outbound → Option WriterStep
  | .receive => receive
  | .yielded => yielded
  | .gather => gather
  | .feed => feed
  | .flushed => flushed

/-! ### What a step does -/

/-- The steps of the writer, branch by branch. -/
inductive Move (w : Writer) (o : Outbound) : WriterStep → Prop where
  | resumed {first : WsMessage} (hp : w.phase = .idle) (hpending : w.pending = some first) :
    Move w o (begin first o)
  | received {first : WsMessage} {o' : Outbound} (hp : w.phase = .idle) (hpending : w.pending = none)
    (hr : o.recv = some (first, o')) : Move w o (begin first o')
  | yielded {first : WsMessage} (hp : w.phase = .yielding first) :
    Move w o { writer := { w with phase := .gathering [first] (wsMessageSize first) }, outbound := o }
  /-- The batch is full, or the queue is empty. -/
  | gathered {batch : List WsMessage} {batchBytes : Nat} (hp : w.phase = .gathering batch batchBytes) :
    Move w o { writer := { w with phase := .writing batch }, outbound := o }
  | pushed {batch batch' : List WsMessage} {batchBytes batchBytes' : Nat} {next : WsMessage} {o' : Outbound}
    {stop : Bool} (hp : w.phase = .gathering batch batchBytes) (hr : o.recv = some (next, o'))
    (hpush : pushWsMessage batch batchBytes next = .pushed stop batch' batchBytes') :
    Move w o
      { writer := { w with phase := if stop then .writing batch' else .gathering batch' batchBytes' }
        outbound := o' }
  | deferred {batch : List WsMessage} {batchBytes : Nat} {next next' : WsMessage} {o' : Outbound}
    (hp : w.phase = .gathering batch batchBytes) (hr : o.recv = some (next, o'))
    (hpush : pushWsMessage batch batchBytes next = .deferred next') :
    Move w o { writer := { pending := some next', phase := .writing batch }, outbound := o' }
  | fed {message : WsMessage} {batch : List WsMessage} (hp : w.phase = .writing (message :: batch)) :
    Move w o { writer := { w with phase := .writing batch }, outbound := o, fed := some message }
  | flushed (hp : w.phase = .writing []) : Move w o { writer := { w with phase := .idle }, outbound := o }

variable {w : Writer} {o : Outbound} {r : WriterStep}

theorem move_of_gather (h : w.gather o = some r) : Move w o r := by
  unfold gather at h
  split at h
  · rename_i batch batchBytes hp
    split at h
    · split at h
      · cases h
        exact .gathered hp
      · rename_i next o' hr
        split at h
        · rename_i stop batch' batchBytes' hpush
          cases h
          exact .pushed hp hr hpush
        · rename_i next' hpush
          cases h
          exact .deferred hp hr hpush
    · cases h
      exact .gathered hp
  · cases h

/-- **What a step of the writer does.** -/
theorem move_of_step {op : WriterOp} (h : w.step op o = some r) : Move w o r := by
  cases op with
  | receive =>
    simp only [step, receive, Option.ite_none_right_eq_some] at h
    obtain ⟨hp, h⟩ := h
    split at h
    · rename_i first hpending
      cases h
      exact .resumed hp hpending
    · rename_i hpending
      obtain ⟨⟨first, o'⟩, hr, rfl⟩ := Option.map_eq_some_iff.mp h
      exact .received hp hpending hr
  | yielded =>
    simp only [step, yielded] at h
    split at h
    · rename_i first hp
      cases h
      exact .yielded hp
    · cases h
  | gather => exact move_of_gather h
  | feed =>
    simp only [step, feed] at h
    split at h
    · rename_i message batch hp
      cases h
      exact .fed hp
    · cases h
  | flushed =>
    simp only [step, flushed, Option.ite_none_right_eq_some] at h
    obtain ⟨hp, h⟩ := h
    cases h
    exact .flushed hp

/-- **The queue gives a message or none**, and nobody is sent anything. -/
theorem step_outbound {op : WriterOp} (h : w.step op o = some r) :
    r.outbound = o ∨ ∃ m, o.recv = some (m, r.outbound) := by
  cases move_of_step h with
  | received _ _ hr | pushed _ hr | deferred _ hr => exact .inr ⟨_, hr⟩
  | _ => exact .inl rfl

/-- What holds of every message that the writer holds. -/
structure Holds (Q : WsMessage → Prop) (w : Writer) : Prop where
  pending : ∀ m ∈ w.pending, Q m
  batch : ∀ m ∈ w.phase.batch, Q m

theorem holds_begin {Q : WsMessage → Prop} {first : WsMessage} (h : Q first) :
    Holds Q (begin first o).writer := by
  refine ⟨nofun, fun m hm => ?_⟩
  have hmem : m = first := by
    unfold begin at hm
    by_cases hb : first.isBinary = true <;> simpa [hb, WriterPhase.batch] using hm
  exact hmem ▸ h

/-- **What goes in comes out**: a property that survives a merge passes from the queue
and the writer to what they hold after the step and to what the sink took. -/
theorem step_forall {Q : WsMessage → Prop}
    (merge : ∀ a b c, tryMergeWsBinary a b = some c → Q a → Q b → Q c) {op : WriterOp}
    (h : w.step op o = some r) (hw : Holds Q w) (ho : ∀ m ∈ o.items, Q m) :
    Holds Q r.writer ∧ (∀ m ∈ r.outbound.items, Q m) ∧ (∀ m ∈ r.fed, Q m) := by
  have tail : ∀ {m : WsMessage} {o' : Outbound}, o.recv = some (m, o') → Q m ∧ ∀ m ∈ o'.items, Q m := by
    intro m o' hr
    have hitems := (BoundedChannel.recv_eq_some hr).1
    rw [hitems] at ho
    exact ⟨ho m List.mem_cons_self, fun m hm => ho m (List.mem_cons_of_mem _ hm)⟩
  have gathering : ∀ {batch batchBytes}, w.phase = .gathering batch batchBytes → ∀ m ∈ batch, Q m :=
    fun hp m hm => hw.batch m (by rw [hp]; exact hm)
  cases move_of_step h with
  | resumed _ hpending => exact ⟨holds_begin (hw.pending _ hpending), ho, fun _ hm => by cases hm⟩
  | received _ _ hr =>
    obtain ⟨hfirst, ho'⟩ := tail hr
    exact ⟨holds_begin hfirst, ho', fun _ hm => by cases hm⟩
  | yielded hp =>
    have hbatch := hw.batch
    rw [hp] at hbatch
    exact ⟨⟨hw.pending, hbatch⟩, ho, fun _ hm => by cases hm⟩
  | gathered hp => exact ⟨⟨hw.pending, gathering hp⟩, ho, fun _ hm => by cases hm⟩
  | @pushed _ _ batchBytes _ _ _ stop hp hr hpush =>
    obtain ⟨hnext, ho'⟩ := tail hr
    have hpushed := pushWsMessage_forall merge batchBytes (gathering hp) hnext
    rw [hpush] at hpushed
    refine ⟨⟨hw.pending, ?_⟩, ho', fun _ hm => by cases hm⟩
    cases stop <;> exact hpushed
  | @deferred _ batchBytes _ _ _ hp hr hpush =>
    obtain ⟨hnext, ho'⟩ := tail hr
    have hpushed := pushWsMessage_forall merge batchBytes (gathering hp) hnext
    rw [hpush] at hpushed
    refine ⟨⟨fun m hm => ?_, gathering hp⟩, ho', fun _ hm => by cases hm⟩
    cases hm
    exact hpushed
  | @fed message _ hp =>
    have hbatch := hw.batch
    rw [hp] at hbatch
    refine ⟨⟨hw.pending, fun m hm => hbatch m (List.mem_cons_of_mem _ hm)⟩, ho, fun m hm => ?_⟩
    cases hm
    exact hbatch message List.mem_cons_self
  | flushed => exact ⟨⟨hw.pending, fun _ hm => by cases hm⟩, ho, fun _ hm => by cases hm⟩

end Writer

end WsNet.Access
