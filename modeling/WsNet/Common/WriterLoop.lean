import WsNet.Common.WsMessage
import WsNet.Data.Merging
import WsNet.Transition.Machine

/-! The loop of the writers.

Access and gateway write with the same loop: a first message, the one that the last
batch put off or the next of the queue; behind a binary one what `try_recv` finds,
merged where it can be; then the batch, encrypted one by one. What differs is the
direction of the cipher and the gateway's lease, which ends the loop when it is
cancelled. The queue is seen through its answers only, which may be any. -/
namespace WsNet
open Crypto Data Transition

/-! ### The loop -/

inductive Side where
  | access
  | gateway
  deriving DecidableEq, Repr

inductive LoopPhase where
  | idle
  /-- At `yield_now`, with a first binary message. -/
  | yielding (first : WsMessage)
  /-- In the `try_recv` loop. -/
  | gathering (batch : List WsMessage) (batchBytes : Nat)
  /-- Between two messages of the batch. -/
  | writing (batch : List WsMessage)
  /-- A message is encrypted and waits for the sink. -/
  | feeding (frame : WsMessage) (batch : List WsMessage)
  | flushing
  | ended
  deriving DecidableEq, Repr

structure WriterLoop where
  cipher : TunnelCipher
  /-- The cancellation of the gateway's lease. -/
  canceled : Bool := false
  pending : Option WsMessage := none
  phase : LoopPhase := .idle
  /-- What the queue gave. -/
  received : List WsMessage := []
  /-- What was passed to encryption. -/
  encrypted : List WsMessage := []

inductive LoopOp where
  | cancel
  /-- The message that was put off is the first of the next batch. -/
  | resume
  /-- The queue gives a message, or is closed. -/
  | recv (answer : Option WsMessage)
  | yielded
  /-- The queue gives a message, or none is there. -/
  | tryRecv (answer : Option WsMessage)
  /-- The batch is full. -/
  | full
  /-- The next message is encrypted; with none left, the sink is flushed. -/
  | feed
  | accepted
  | failed
  | flushed
  /-- The cancellation is seen: what is awaited is dropped. -/
  | interrupt
  /-- The loop is dropped with its session. -/
  | drop

namespace WriterLoop

/-- The batch is written, but not in a cancelled session. -/
def start (batch : List WsMessage) (w : WriterLoop) : WriterLoop :=
  { w with phase := if w.canceled then .ended else .writing batch }

def begin (first : WsMessage) (w : WriterLoop) : WriterLoop :=
  if first.isBinary then { w with phase := .yielding first } else w.start [first]

def resume (w : WriterLoop) : Option WriterLoop :=
  if w.phase = .idle then w.pending.map fun first => begin first { w with pending := none } else none

/-- The gateway looks at the cancellation first. -/
def recv (answer : Option WsMessage) (w : WriterLoop) : Option WriterLoop :=
  if w.phase = .idle ∧ w.pending = none ∧ w.canceled = false then
    match answer with
    | none => some { w with phase := .ended }
    | some first => some (begin first { w with received := w.received ++ [first] })
  else none

def yielded (w : WriterLoop) : Option WriterLoop :=
  match w.phase with
  | .yielding first => some { w with phase := .gathering [first] (wsMessageSize first) }
  | _ => none

def tryRecv (answer : Option WsMessage) (w : WriterLoop) : Option WriterLoop :=
  match w.phase with
  | .gathering batch batchBytes =>
    if batch.length < wsWriteBatchMaxMessages then
      match answer with
      | none => some (w.start batch)
      | some next =>
        let w := { w with received := w.received ++ [next] }
        match pushWsMessage batch batchBytes next with
        | .pushed stop batch batchBytes =>
          some (if stop then w.start batch else { w with phase := .gathering batch batchBytes })
        | .deferred next => some (start batch { w with pending := some next })
    else none
  | _ => none

def full (w : WriterLoop) : Option WriterLoop :=
  match w.phase with
  | .gathering batch _ =>
    if batch.length < wsWriteBatchMaxMessages then none else some (w.start batch)
  | _ => none

def accepted (w : WriterLoop) : Option WriterLoop :=
  match w.phase with
  | .feeding _ batch => some { w with phase := .writing batch }
  | _ => none

def failed (w : WriterLoop) : Option WriterLoop :=
  match w.phase with
  | .feeding _ _ | .flushing => some { w with phase := .ended }
  | _ => none

def flushed (w : WriterLoop) : Option WriterLoop :=
  if w.phase = .flushing then some { w with phase := .idle } else none

def interrupt (w : WriterLoop) : Option WriterLoop :=
  if w.canceled then
    match w.phase with
    | .idle => if w.pending = none then some { w with phase := .ended } else none
    | .feeding _ _ | .flushing => some { w with phase := .ended }
    | _ => none
  else none

end WriterLoop

section Machine
variable [Aead]

def Side.encrypt : Side → TunnelCipher → WsMessage → Except Error (WsMessage × TunnelCipher)
  | .access => encryptAccessMessage
  | .gateway => encryptGatewayMessage

def WriterLoop.feed (side : Side) (w : WriterLoop) : Option WriterLoop :=
  match w.phase with
  | .writing [] => some { w with phase := .flushing }
  | .writing (message :: batch) =>
    let w := { w with encrypted := w.encrypted ++ [message] }
    match side.encrypt w.cipher message with
    | .ok (frame, cipher) => some { w with cipher, phase := .feeding frame batch }
    | .error _ => some { w with phase := .ended }
  | _ => none

def writerLoop (side : Side) : Machine WriterLoop LoopOp where
  Initial := fun w => ∃ cipher, w = { cipher }
  step
    | .cancel, w => if side = .gateway then some { w with canceled := true } else none
    | .resume, w => w.resume
    | .recv answer, w => w.recv answer
    | .yielded, w => w.yielded
    | .tryRecv answer, w => w.tryRecv answer
    | .full, w => w.full
    | .feed, w => w.feed side
    | .accepted, w => w.accepted
    | .failed, w => w.failed
    | .flushed, w => w.flushed
    | .interrupt, w => w.interrupt
    | .drop, w => some { w with phase := .ended }

end Machine

/-! ### What a step does -/

section Moves
variable [Aead] {side : Side} {op : LoopOp} {w w' : WriterLoop}

/-- The steps of the loop, branch by branch. -/
inductive LoopMove (side : Side) (w : WriterLoop) : LoopOp → WriterLoop → Prop where
  | canceled : LoopMove side w .cancel { w with canceled := true }
  | resumed {first : WsMessage} (hphase : w.phase = .idle) (hpending : w.pending = some first) :
    LoopMove side w .resume (WriterLoop.begin first { w with pending := none })
  | closed (hphase : w.phase = .idle) : LoopMove side w (.recv none) { w with phase := .ended }
  | received {first : WsMessage} (hphase : w.phase = .idle) (hpending : w.pending = none) :
    LoopMove side w (.recv (some first)) (WriterLoop.begin first { w with received := w.received ++ [first] })
  | yielded {first : WsMessage} (hphase : w.phase = .yielding first) :
    LoopMove side w .yielded { w with phase := .gathering [first] (wsMessageSize first) }
  | drained {batch : List WsMessage} {batchBytes : Nat} (hphase : w.phase = .gathering batch batchBytes) :
    LoopMove side w (.tryRecv none) (w.start batch)
  | pushed {batch batch' : List WsMessage} {batchBytes batchBytes' : Nat} {next : WsMessage} {stop : Bool}
    (hphase : w.phase = .gathering batch batchBytes)
    (hpush : pushWsMessage batch batchBytes next = .pushed stop batch' batchBytes') :
    LoopMove side w (.tryRecv (some next))
      (if stop then { w with received := w.received ++ [next] }.start batch'
        else { w with received := w.received ++ [next], phase := .gathering batch' batchBytes' })
  | deferred {batch : List WsMessage} {batchBytes : Nat} {next next' : WsMessage}
    (hphase : w.phase = .gathering batch batchBytes)
    (hpush : pushWsMessage batch batchBytes next = .deferred next') :
    LoopMove side w (.tryRecv (some next))
      (WriterLoop.start batch { w with received := w.received ++ [next], pending := some next' })
  | full {batch : List WsMessage} {batchBytes : Nat} (hphase : w.phase = .gathering batch batchBytes) :
    LoopMove side w .full (w.start batch)
  | written (hphase : w.phase = .writing []) : LoopMove side w .feed { w with phase := .flushing }
  | encrypted {message frame : WsMessage} {batch : List WsMessage} {cipher : TunnelCipher}
    (hphase : w.phase = .writing (message :: batch))
    (hok : side.encrypt w.cipher message = .ok (frame, cipher)) :
    LoopMove side w .feed
      { w with encrypted := w.encrypted ++ [message], cipher, phase := .feeding frame batch }
  | unencrypted {message : WsMessage} {batch : List WsMessage} {error : Error}
    (hphase : w.phase = .writing (message :: batch)) (herror : side.encrypt w.cipher message = .error error) :
    LoopMove side w .feed { w with encrypted := w.encrypted ++ [message], phase := .ended }
  | accepted {frame : WsMessage} {batch : List WsMessage} (hphase : w.phase = .feeding frame batch) :
    LoopMove side w .accepted { w with phase := .writing batch }
  | flushed (hphase : w.phase = .flushing) : LoopMove side w .flushed { w with phase := .idle }
  | failed : LoopMove side w .failed { w with phase := .ended }
  | interrupted : LoopMove side w .interrupt { w with phase := .ended }
  | dropped : LoopMove side w .drop { w with phase := .ended }

theorem loopMove_tryRecv {answer : Option WsMessage} (hs : w.tryRecv answer = some w') :
    LoopMove side w (.tryRecv answer) w' := by
  unfold WriterLoop.tryRecv at hs
  split at hs
  · rename_i batch batchBytes hphase
    split at hs
    · cases answer with
      | none =>
        cases hs
        exact .drained hphase
      | some next =>
        dsimp only at hs
        cases hpush : pushWsMessage batch batchBytes next with
        | pushed stop batch' batchBytes' =>
          rw [hpush] at hs
          cases hs
          exact .pushed hphase hpush
        | deferred next' =>
          rw [hpush] at hs
          cases hs
          exact .deferred hphase hpush
    · cases hs
  · cases hs

theorem loopMove_feed (hs : w.feed side = some w') : LoopMove side w .feed w' := by
  unfold WriterLoop.feed at hs
  split at hs
  · rename_i hphase
    cases hs
    exact .written hphase
  · rename_i message batch hphase
    dsimp only at hs
    split at hs
    · rename_i frame cipher hok
      cases hs
      exact .encrypted hphase hok
    · rename_i error herror
      cases hs
      exact .unencrypted hphase herror
  · cases hs

/-- **What a step does.** -/
theorem loopMove_of_step (hs : (writerLoop side).step op w = some w') : LoopMove side w op w' := by
  cases op with
  | cancel =>
    simp only [writerLoop, Option.ite_none_right_eq_some] at hs
    obtain ⟨_, hs⟩ := hs
    cases hs
    exact .canceled
  | resume =>
    simp only [writerLoop, WriterLoop.resume, Option.ite_none_right_eq_some, Option.map_eq_some_iff] at hs
    obtain ⟨hphase, first, hpending, rfl⟩ := hs
    exact .resumed hphase hpending
  | recv answer =>
    simp only [writerLoop, WriterLoop.recv, Option.ite_none_right_eq_some] at hs
    obtain ⟨⟨hphase, hpending, _⟩, hs⟩ := hs
    cases answer with
    | none =>
      cases hs
      exact .closed hphase
    | some first =>
      cases hs
      exact .received hphase hpending
  | yielded =>
    simp only [writerLoop, WriterLoop.yielded] at hs
    split at hs
    · rename_i first hphase
      cases hs
      exact .yielded hphase
    · cases hs
  | tryRecv answer => exact loopMove_tryRecv hs
  | full =>
    simp only [writerLoop, WriterLoop.full] at hs
    split at hs
    · rename_i batch batchBytes hphase
      split at hs <;> cases hs
      exact .full hphase
    · cases hs
  | feed => exact loopMove_feed hs
  | accepted =>
    simp only [writerLoop, WriterLoop.accepted] at hs
    split at hs
    · rename_i frame batch hphase
      cases hs
      exact .accepted hphase
    · cases hs
  | failed =>
    simp only [writerLoop, WriterLoop.failed] at hs
    split at hs <;> cases hs <;> exact .failed
  | flushed =>
    simp only [writerLoop, WriterLoop.flushed, Option.ite_none_right_eq_some] at hs
    obtain ⟨hphase, hs⟩ := hs
    cases hs
    exact .flushed hphase
  | interrupt =>
    simp only [writerLoop, WriterLoop.interrupt, Option.ite_none_right_eq_some] at hs
    obtain ⟨_, hs⟩ := hs
    split at hs
    · split at hs <;> cases hs
      exact .interrupted
    · cases hs
      exact .interrupted
    · cases hs
      exact .interrupted
    · cases hs
  | drop =>
    cases hs
    exact .dropped

/-! ### What is received -/

/-- What the queue answers. -/
def LoopOp.answer : LoopOp → Option WsMessage
  | .recv answer | .tryRecv answer => answer
  | _ => none

omit [Aead] in
@[simp] theorem WriterLoop.start_received (batch : List WsMessage) (w : WriterLoop) :
    (w.start batch).received = w.received := rfl

omit [Aead] in
@[simp] theorem WriterLoop.begin_received (first : WsMessage) (w : WriterLoop) :
    (WriterLoop.begin first w).received = w.received := by
  unfold WriterLoop.begin
  split <;> rfl

/-- Only what the queue gives is received. -/
theorem received_step (hs : (writerLoop side).step op w = some w') :
    w'.received = w.received ++ op.answer.toList := by
  cases loopMove_of_step hs with
  | resumed => simp [LoopOp.answer]
  | received => simp [LoopOp.answer]
  | @pushed _ _ _ _ _ stop => cases stop <;> rfl
  | deferred => rfl
  | _ => exact (List.append_nil _).symm

/-! ### What is passed to encryption -/

omit [Aead] in
/-- At the start of a batch, and of a loop that ends, nothing is passed on. -/
@[simp] theorem WriterLoop.start_encrypted (batch : List WsMessage) (w : WriterLoop) :
    (w.start batch).encrypted = w.encrypted := rfl

omit [Aead] in
@[simp] theorem WriterLoop.begin_encrypted (first : WsMessage) (w : WriterLoop) :
    (WriterLoop.begin first w).encrypted = w.encrypted := by
  unfold WriterLoop.begin
  split <;> rfl

/-- Nothing is passed on by the step, and a loop that has ended has ended. -/
structure PassesNone (w w' : WriterLoop) : Prop where
  encrypted : w'.encrypted = w.encrypted
  ended : w.phase = .ended → w'.phase = .ended

omit [Aead] in
theorem passesNone_of_running (hencrypted : w'.encrypted = w.encrypted) (hphase : w.phase ≠ .ended) :
    PassesNone w w' := ⟨hencrypted, fun h => absurd h hphase⟩

/-- What is not a `feed` passes nothing on. -/
theorem LoopMove.passesNone (h : LoopMove side w op w') (hop : op ≠ .feed) : PassesNone w w' := by
  cases h with
  | canceled => exact ⟨rfl, fun hended => hended⟩
  | resumed hphase => exact passesNone_of_running (WriterLoop.begin_encrypted _ _) (by simp [hphase])
  | received hphase => exact passesNone_of_running (WriterLoop.begin_encrypted _ _) (by simp [hphase])
  | @pushed _ _ _ _ _ stop hphase =>
    refine passesNone_of_running ?_ (by simp [hphase])
    cases stop <;> rfl
  | written | encrypted | unencrypted => exact absurd rfl hop
  | closed | failed | interrupted | dropped => exact ⟨rfl, fun _ => rfl⟩
  | yielded hphase | drained hphase | deferred hphase | full hphase | accepted hphase | flushed hphase =>
    exact passesNone_of_running rfl (by simp [hphase])

/-- **Only `feed` passes a message on**, the first of the batch; if that cannot be
encrypted the loop ends. -/
theorem encrypted_step (hs : (writerLoop side).step op w = some w') :
    (∃ message batch, op = .feed ∧ w.phase = .writing (message :: batch) ∧
      w'.encrypted = w.encrypted ++ [message] ∧
      ((∃ r, side.encrypt w.cipher message = .ok r) ∨
        (∃ e, side.encrypt w.cipher message = .error e) ∧ w'.phase = .ended)) ∨
    (∀ message batch, op = .feed → w.phase ≠ .writing (message :: batch)) ∧ PassesNone w w' := by
  have hmove := loopMove_of_step hs
  by_cases hop : op = .feed
  · subst hop
    cases hmove with
    | encrypted hphase hok => exact .inl ⟨_, _, rfl, hphase, rfl, .inl ⟨_, hok⟩⟩
    | unencrypted hphase herror => exact .inl ⟨_, _, rfl, hphase, rfl, .inr ⟨⟨_, herror⟩, rfl⟩⟩
    | written hphase => exact .inr ⟨by simp [hphase], passesNone_of_running rfl (by simp [hphase])⟩
  · exact .inr ⟨fun _ _ hfeed => absurd hfeed hop, hmove.passesNone hop⟩

end Moves

/-! ### Merged messages -/

/-- Two data frames of one stream become one with both payloads. -/
def JoinsFrames (a b c : WsMessage) : Prop :=
  ∃ current next merged id x y, a = .binary current ∧ b = .binary next ∧ c = .binary merged ∧
    decodeDataFrame current = some (id, x) ∧ decodeDataFrame next = some (id, y) ∧
    decodeDataFrame merged = some (id, x ++ y)

theorem joinsFrames_of_merge {a b c : WsMessage} (h : tryMergeWsBinary a b = some c) :
    JoinsFrames a b c := by
  unfold tryMergeWsBinary at h
  split at h
  · rename_i current next
    obtain ⟨merged, hm, rfl⟩ := Option.map_eq_some_iff.mp h
    obtain ⟨id, x, y, hx, hy, hxy⟩ := decodeDataFrame_merge hm
    exact ⟨current, next, merged, id, x, y, rfl, rfl, rfl, hx, hy, hxy⟩
  · cases h

abbrev Merged : List WsMessage → List WsMessage → Prop := Merging JoinsFrames

/-- A message pushed on a batch is its last, or merged into its last; one that is put
off comes after the batch. -/
theorem merged_push {before done batch : List WsMessage} (batchBytes : Nat) (next : WsMessage)
    (h : Merged before (done ++ batch)) :
    match pushWsMessage batch batchBytes next with
    | .pushed _ batch' _ => Merged (before ++ [next]) (done ++ batch')
    | .deferred next' => Merged (before ++ [next]) (done ++ (batch ++ [next'])) := by
  have hlater : Merged (before ++ [next]) (done ++ (batch ++ [next])) := by
    rw [← List.append_assoc]
    exact h.snoc next
  unfold pushWsMessage
  cases hlast : batch.getLast?.bind (tryMergeWsBinary · next) with
  | some merged =>
    obtain ⟨current, hc, hm⟩ := Option.bind_eq_some_iff.mp hlast
    have hbatch : batch = batch.dropLast ++ [current] := (List.dropLast_append_getLast? current hc).symm
    rw [hbatch, ← List.append_assoc] at h
    have hjoined := h.joinLast (joinsFrames_of_merge hm)
    rw [List.append_assoc] at hjoined
    exact hjoined
  | none =>
    by_cases hbytes : batchBytes + wsMessageSize next > wsWriteBatchMaxBytes
    · simp only [hbytes, if_true]
      exact hlater
    · simp only [hbytes, if_false]
      exact hlater

/-! ### The invariant -/

/-- What a running loop holds, in the order in which it will be passed on. -/
def LoopPhase.held : LoopPhase → List WsMessage
  | .idle | .flushing | .ended => []
  | .yielding first => [first]
  | .gathering batch _ | .writing batch | .feeding _ batch => batch

def WriterLoop.held (w : WriterLoop) : List WsMessage := w.phase.held ++ w.pending.toList

/-- A batch is being gathered. -/
def LoopPhase.gathers : LoopPhase → Bool
  | .yielding _ | .gathering _ _ => true
  | _ => false

structure InOrder (w : WriterLoop) : Prop where
  /-- What was passed on and what is still held is what was received. -/
  merged : ∃ rest, (w.phase ≠ .ended → rest = w.held) ∧ Merged w.received (w.encrypted ++ rest)
  /-- No message is put off over another. -/
  pending : w.phase.gathers = true → w.pending = none

theorem InOrder.running {w : WriterLoop} (h : InOrder w) (hphase : w.phase ≠ .ended) :
    Merged w.received (w.encrypted ++ w.held) := by
  obtain ⟨rest, hrest, hm⟩ := h.merged
  rw [hrest hphase] at hm
  exact hm

theorem InOrder.ended {w : WriterLoop} (h : InOrder w) : InOrder { w with phase := .ended } := by
  obtain ⟨rest, _, hm⟩ := h.merged
  exact ⟨⟨rest, fun hne => absurd rfl hne, hm⟩, fun hg => by cases hg⟩

/-- The batch, and what is put off behind it, is all that is held. -/
theorem inOrder_start {w : WriterLoop} {batch : List WsMessage}
    (h : Merged w.received (w.encrypted ++ (batch ++ w.pending.toList))) : InOrder (w.start batch) := by
  have hgathers : (w.start batch).phase.gathers = false := by
    unfold WriterLoop.start
    dsimp only
    split <;> rfl
  refine ⟨⟨batch ++ w.pending.toList, fun hne => ?_, h⟩, fun hg => ?_⟩
  · unfold WriterLoop.start at hne ⊢
    dsimp only at hne
    split at hne
    · exact absurd rfl hne
    · rename_i hcanceled
      simp only [WriterLoop.held, if_neg hcanceled, LoopPhase.held]
  · rw [hgathers] at hg
    cases hg

theorem inOrder_begin {w : WriterLoop} {first : WsMessage} (hpending : w.pending = none)
    (h : Merged w.received (w.encrypted ++ [first])) : InOrder (WriterLoop.begin first w) := by
  unfold WriterLoop.begin
  split
  · refine ⟨⟨[first], fun _ => ?_, h⟩, fun _ => hpending⟩
    simp only [WriterLoop.held, LoopPhase.held, hpending, Option.toList_none, List.append_nil]
  · apply inOrder_start
    rw [hpending, Option.toList_none, List.append_nil]
    exact h

/-! ### One step -/

theorem InOrder.gathering {w : WriterLoop} {batch : List WsMessage} {batchBytes : Nat} (h : InOrder w)
    (hphase : w.phase = .gathering batch batchBytes) :
    w.pending = none ∧ Merged w.received (w.encrypted ++ batch) := by
  have hpending : w.pending = none := h.pending (by rw [hphase]; rfl)
  have hm := h.running (by simp [hphase])
  simp only [WriterLoop.held, hphase, LoopPhase.held, hpending, Option.toList_none, List.append_nil] at hm
  exact ⟨hpending, hm⟩

theorem InOrder.idle {w : WriterLoop} (h : InOrder w) (hphase : w.phase = .idle) :
    Merged w.received (w.encrypted ++ w.pending.toList) := by
  have hm := h.running (by simp [hphase])
  simp only [WriterLoop.held, hphase, LoopPhase.held, List.nil_append] at hm
  exact hm

/-- A batch with nothing behind it. -/
theorem inOrder_start_alone {w : WriterLoop} {batch : List WsMessage} (hpending : w.pending = none)
    (h : Merged w.received (w.encrypted ++ batch)) : InOrder (w.start batch) := by
  apply inOrder_start
  rw [hpending, Option.toList_none, List.append_nil]
  exact h

theorem InOrder.pushed {w : WriterLoop} {batch batch' : List WsMessage} {batchBytes batchBytes' : Nat}
    {next : WsMessage} {stop : Bool} (h : InOrder w) (hphase : w.phase = .gathering batch batchBytes)
    (hpush : pushWsMessage batch batchBytes next = .pushed stop batch' batchBytes') :
    InOrder (if stop then { w with received := w.received ++ [next] }.start batch'
      else { w with received := w.received ++ [next], phase := .gathering batch' batchBytes' }) := by
  obtain ⟨hpending, hm⟩ := h.gathering hphase
  have hmerged := merged_push batchBytes next hm
  rw [hpush] at hmerged
  cases stop with
  | true => exact inOrder_start_alone hpending hmerged
  | false =>
    refine ⟨⟨batch', fun _ => ?_, hmerged⟩, fun _ => hpending⟩
    simp [WriterLoop.held, LoopPhase.held, hpending]

theorem InOrder.deferred {w : WriterLoop} {batch : List WsMessage} {batchBytes : Nat} {next next' : WsMessage}
    (h : InOrder w) (hphase : w.phase = .gathering batch batchBytes)
    (hpush : pushWsMessage batch batchBytes next = .deferred next') :
    InOrder (WriterLoop.start batch
      { w with received := w.received ++ [next], pending := some next' }) := by
  have hmerged := merged_push batchBytes next (h.gathering hphase).2
  rw [hpush] at hmerged
  exact inOrder_start hmerged

/-- The first message of the batch is passed on. -/
theorem InOrder.passed {w : WriterLoop} {message : WsMessage} {batch : List WsMessage} (h : InOrder w)
    (hphase : w.phase = .writing (message :: batch)) :
    Merged w.received (w.encrypted ++ [message] ++ (batch ++ w.pending.toList)) := by
  have hm := h.running (by simp [hphase])
  simp only [WriterLoop.held, hphase, LoopPhase.held] at hm
  rw [List.cons_append, List.append_cons] at hm
  exact hm

/-- Where the loop holds the same as before. -/
theorem InOrder.moveTo {w : WriterLoop} {phase : LoopPhase} (h : InOrder w)
    (hphase : w.phase ≠ .ended) (hheld : phase.held = w.phase.held) (hgathers : phase.gathers = true →
      w.phase.gathers = true) : InOrder { w with phase } := by
  refine ⟨⟨w.held, fun _ => ?_, h.running hphase⟩, fun hg => h.pending (hgathers hg)⟩
  simp only [WriterLoop.held, hheld]

theorem inOrder_step [Aead] {side : Side} {op : LoopOp} {w w' : WriterLoop} (h : InOrder w)
    (hs : (writerLoop side).step op w = some w') : InOrder w' := by
  cases loopMove_of_step hs with
  | canceled => exact ⟨h.merged, h.pending⟩
  | resumed hphase hpending =>
    have hm := h.idle hphase
    rw [hpending] at hm
    exact inOrder_begin rfl hm
  | received hphase hpending =>
    have hm := h.idle hphase
    rw [hpending, Option.toList_none, List.append_nil] at hm
    exact inOrder_begin hpending (hm.snoc _)
  | yielded hphase =>
    exact h.moveTo (by simp [hphase]) (by rw [hphase]; rfl) fun _ => by rw [hphase]; rfl
  | drained hphase =>
    obtain ⟨hpending, hm⟩ := h.gathering hphase
    exact inOrder_start_alone hpending hm
  | pushed hphase hpush => exact h.pushed hphase hpush
  | deferred hphase hpush => exact h.deferred hphase hpush
  | full hphase =>
    obtain ⟨hpending, hm⟩ := h.gathering hphase
    exact inOrder_start_alone hpending hm
  | written hphase => exact h.moveTo (by simp [hphase]) (by rw [hphase]; rfl) fun hg => by cases hg
  | encrypted hphase => exact ⟨⟨_, fun _ => rfl, h.passed hphase⟩, fun hg => by cases hg⟩
  | unencrypted hphase => exact ⟨⟨_, fun hne => absurd rfl hne, h.passed hphase⟩, fun hg => by cases hg⟩
  | accepted hphase => exact h.moveTo (by simp [hphase]) (by rw [hphase]; rfl) fun hg => by cases hg
  | flushed hphase => exact h.moveTo (by simp [hphase]) (by rw [hphase]; rfl) fun hg => by cases hg
  | closed | failed | interrupted | dropped => exact h.ended

theorem inOrder_reachable [Aead] {side : Side} {w : WriterLoop} (h : (writerLoop side).Reachable w) :
    InOrder w := by
  apply h.invariant
  · intro w hw
    obtain ⟨cipher, rfl⟩ := hw
    exact ⟨⟨[], fun _ => rfl, .nil⟩, fun hg => by cases hg⟩
  · exact fun _ _ _ _ hi _ hs => inOrder_step hi hs

/-- **What is encrypted is what was received**, in both loops, whatever the queue
answers: in the same order, nothing lost, repeated or moved, up to joined data frames
of one stream. While the loop runs, what is not passed on yet is what it holds; when
it waits for the queue, everything has been passed on. -/
theorem encrypted_as_received [Aead] (side : Side) {w : WriterLoop}
    (h : (writerLoop side).Reachable w) :
    (∃ rest, Merged w.received (w.encrypted ++ rest)) ∧
      (w.phase ≠ .ended → Merged w.received (w.encrypted ++ w.held)) ∧
      (w.phase = .idle → w.pending = none → Merged w.received w.encrypted) := by
  have hi := inOrder_reachable h
  obtain ⟨rest, _, hm⟩ := hi.merged
  refine ⟨⟨rest, hm⟩, hi.running, fun hidle hpending => ?_⟩
  have hrun := hi.running (by rw [hidle]; decide)
  simp only [WriterLoop.held, hidle, LoopPhase.held, hpending, Option.toList_none,
    List.append_nil] at hrun
  exact hrun

/-! ### A batch -/

section Example

local instance : Aead := .transparent

def loopStart : WriterLoop := { cipher := .ofKeys [1] [2] }

/-- Two frames of one stream, a malformed one and a text. -/
def queuedMessages : List WsMessage :=
  [.binary (encodeDataFrame 7 [1]), .binary (encodeDataFrame 7 [2]), .binary [9], .text "a"]

def batchOps : List LoopOp :=
  [.recv (queuedMessages.head?), .yielded] ++ queuedMessages.tail.map (fun m => .tryRecv (some m)) ++
    [.feed, .accepted, .feed, .accepted, .feed, .accepted, .feed, .flushed]

def batchState : WriterLoop := ((writerLoop .gateway).run batchOps loopStart).getD loopStart

theorem encrypted_as_received_batchState :
    Merged queuedMessages [.binary (encodeDataFrame 7 [1, 2]), .binary [9], .text "a"] := by
  have hreach : (writerLoop .gateway).Reachable batchState :=
    Machine.reachable_getD ⟨_, rfl⟩ (by decide +kernel)
  obtain ⟨_, _, hall⟩ := encrypted_as_received .gateway hreach
  have hreceived : batchState.received = queuedMessages := by decide +kernel
  have hencrypted :
      batchState.encrypted = [.binary (encodeDataFrame 7 [1, 2]), .binary [9], .text "a"] := by
    decide +kernel
  rw [hreceived, hencrypted] at hall
  exact hall (by decide +kernel) (by decide +kernel)

end Example

end WsNet
