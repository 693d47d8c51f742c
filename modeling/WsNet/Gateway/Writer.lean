import WsNet.Common.WsMessage
import WsNet.Transition.Machine

/-! The gateway's writer task.

The writer takes messages off the session's queue, batches them, encrypts them one
by one and feeds them to the WebSocket's sink. Its batches are written under
`SessionLease::run`, which drops what is being awaited when the session is
cancelled; a notice is then sent with the same cipher.

A frame takes its sequence number when it is encrypted, before the sink takes the
frame. One that is dropped while it waits for the sink leaves a gap, and the
other end accepts nothing after a gap. -/
namespace WsNet.Gateway
open Crypto Data Transition

/-! ### The machine -/

inductive WriterPhase where
  /-- In the `select!` for the next message or the cancellation. -/
  | idle
  /-- At `yield_now`, with a first binary message. -/
  | yielding (first : WsMessage)
  /-- Between two messages of a batch. -/
  | feeding (batch : List WsMessage)
  /-- A message is encrypted and waits for the sink to be ready. -/
  | waiting (frame : WsMessage) (batch : List WsMessage)
  | flushing
  /-- The notice is encrypted and waits for the sink. -/
  | notifying (notice : WsMessage)
  | ended
  deriving DecidableEq, Repr

structure WriterState where
  cipher : TunnelCipher
  log : SealLog
  /-- The lease's cancellation. -/
  signal : Option GatewayError
  queue : List WsMessage
  pending : Option WsMessage
  phase : WriterPhase
  /-- The encrypted frames that the sink has taken. -/
  handed : List Bytes

inductive WriterOp where
  | enqueue (message : WsMessage)
  | cancel (error : GatewayError)
  /-- The next message, or the one deferred by the last batch. -/
  | receive
  /-- After the yield: gather the batch. -/
  | gather
  /-- Encrypt the next message of the batch; with none left, flush. -/
  | feed
  /-- The sink is ready and takes the frame. -/
  | accept
  /-- The sink fails. -/
  | fail
  | flushed
  /-- The cancellation is seen: what is awaited is dropped. -/
  | cancelled
  /-- The task is aborted, or the time for the notice is up. -/
  | abort

section Machine
variable [Aead] [MessageCodec]

namespace WriterState

def encrypt (message : WsMessage) (s : WriterState) : Except Error (WsMessage × WriterState) := do
  let (frame, cipher) ← encryptGatewayMessage s.cipher message
  let c := s.cipher.gatewayToAccess
  let seals := message.sealedAs.toList.map fun m =>
    c.sealedAt c.nextSendSequence m.1 m.2 gatewayToAccess
  return (frame, { s with cipher, log := seals ++ s.log })

/-- The notice of a cancelled session. -/
def noticeOf (error : GatewayError) : WsMessage :=
  .text (encodeMessage (.error none error.code error.message))

/-- The writer ends; if the session is cancelled, after the notice. -/
def leave (s : WriterState) : WriterState :=
  match s.signal with
  | none => { s with phase := .ended }
  | some error =>
    match s.encrypt (noticeOf error) with
    | .ok (notice, s) => { s with phase := .notifying notice }
    | .error _ => { s with phase := .ended }

/-- `lease.run`: a batch is not started in a cancelled session. -/
def start (batch : Batch) (s : WriterState) : WriterState :=
  let s := { s with queue := batch.queue, pending := batch.pending }
  if s.signal.isSome then s.leave else { s with phase := .feeding batch.messages }

def receive (s : WriterState) : Option WriterState :=
  if s.phase = .idle then
    match s.pending, s.queue with
    | some first, queue => some (next first queue { s with pending := none })
    | none, first :: queue => if s.signal.isSome then none else some (next first queue s)
    | none, [] => none
  else none
where
  next (first : WsMessage) (queue : List WsMessage) (s : WriterState) : WriterState :=
    if first.isBinary then { s with queue, phase := .yielding first }
    else s.start (takeBatch first queue)

def gather (s : WriterState) : Option WriterState :=
  match s.phase with
  | .yielding first => some (s.start (takeBatch first s.queue))
  | _ => none

def feed (s : WriterState) : Option WriterState :=
  match s.phase with
  | .feeding [] => some { s with phase := .flushing }
  | .feeding (message :: batch) =>
    match s.encrypt message with
    | .ok (frame, s) => some { s with phase := .waiting frame batch }
    | .error _ => some s.leave
  | _ => none

/-- The sink takes what is encrypted. -/
def hand (frame : WsMessage) (s : WriterState) : WriterState :=
  match frame with
  | .binary bytes => { s with handed := s.handed ++ [bytes] }
  | _ => s

def accept (s : WriterState) : Option WriterState :=
  match s.phase with
  | .waiting frame batch => some { s.hand frame with phase := .feeding batch }
  | .notifying notice => some { s.hand notice with phase := .ended }
  | _ => none

def fail (s : WriterState) : Option WriterState :=
  match s.phase with
  | .waiting _ _ | .flushing => some s.leave
  | .notifying _ => some { s with phase := .ended }
  | _ => none

def flushed (s : WriterState) : Option WriterState :=
  if s.phase = .flushing then some { s with phase := .idle } else none

def cancelled (s : WriterState) : Option WriterState :=
  if s.signal.isSome then
    match s.phase with
    | .idle => if s.pending.isSome then none else some s.leave
    | .waiting _ _ | .flushing => some s.leave
    | _ => none
  else none

end WriterState

def writer : Machine WriterState WriterOp where
  Initial := fun s => (∃ accessKey gatewayKey, s.cipher = .ofKeys accessKey gatewayKey) ∧ s.log = [] ∧
    s.signal = none ∧ s.queue = [] ∧ s.pending = none ∧ s.phase = .idle ∧ s.handed = []
  step
    | .enqueue message, s => some { s with queue := s.queue ++ [message] }
    | .cancel error, s => some { s with signal := some error }
    | .receive, s => s.receive
    | .gather, s => s.gather
    | .feed, s => s.feed
    | .accept, s => s.accept
    | .fail, s => s.fail
    | .flushed, s => s.flushed
    | .cancelled, s => s.cancelled
    | .abort, s => some { s with phase := .ended }

/-! ### The rule -/

/-- An encrypted frame is given up in a session that then sends a notice. -/
def givesUp (op : WriterOp) (s : WriterState) : Bool :=
  match op, s.phase with
  | .cancelled, .waiting (.binary _) _ => true
  | .fail, .waiting (.binary _) _ => s.signal.isSome
  | _, _ => false

def NothingGivenUp : WriterOp → WriterState → Prop := fun op s => givesUp op s = false

instance (op : WriterOp) (s : WriterState) : Decidable (NothingGivenUp op s) :=
  inferInstanceAs (Decidable (_ = _))

end Machine

/-! ### Frames in sequence -/

section Frames
variable [Aead]

/-- The sequence number that a frame shows. -/
def frameSequence (frame : Bytes) : Nat :=
  ofBeBytes ((frame.drop frameMagic.length).take frameSequenceLen)

/-- The frame is a seal of the direction, under this number. -/
def Carries (log : SealLog) (c : DirectionCipher) (sequence : Nat) (frame : Bytes) : Prop :=
  sequence + 1 < 2 ^ 64 ∧ ∃ kind payload, payload.length ≤ maxPayloadLen ∧
    c.sealedAt sequence kind payload gatewayToAccess ∈ log ∧
    frame = DirectionCipher.frameOf sequence (c.sealedAt sequence kind payload gatewayToAccess)

/-- The encrypted frame that waits for the sink. -/
def WriterPhase.held : WriterPhase → Option Bytes
  | .waiting (.binary frame) _ | .notifying (.binary frame) => some frame
  | _ => none

/-- Nothing is held, and everything encrypted was handed over. -/
structure Ready (s : WriterState) : Prop where
  noncePrefix : s.cipher.gatewayToAccess.noncePrefix = bytesOf "G2AC"
  handed : ∀ i frame, s.handed[i]? = some frame → Carries s.log s.cipher.gatewayToAccess i frame
  next : s.cipher.gatewayToAccess.nextSendSequence = s.handed.length

structure InSequence (s : WriterState) : Prop where
  noncePrefix : s.cipher.gatewayToAccess.noncePrefix = bytesOf "G2AC"
  handed : ∀ i frame, s.handed[i]? = some frame → Carries s.log s.cipher.gatewayToAccess i frame
  next : s.phase ≠ .ended →
    s.cipher.gatewayToAccess.nextSendSequence = s.handed.length + s.phase.held.toList.length
  held : ∀ frame ∈ s.phase.held, Carries s.log s.cipher.gatewayToAccess s.handed.length frame

theorem Ready.inSequence {s : WriterState} (h : Ready s) (hp : s.phase.held = none) : InSequence s := by
  refine ⟨h.noncePrefix, h.handed, fun _ => ?_, ?_⟩
  · simp [hp, h.next]
  · simp [hp]

theorem InSequence.ready {s : WriterState} (h : InSequence s) (hp : s.phase.held = none)
    (hne : s.phase ≠ .ended) : Ready s := by
  refine ⟨h.noncePrefix, h.handed, ?_⟩
  rw [h.next hne, hp]
  rfl

theorem InSequence.ended {s : WriterState} (h : InSequence s) : InSequence { s with phase := .ended } :=
  ⟨h.noncePrefix, h.handed, fun hne => absurd rfl hne, by simp [WriterPhase.held]⟩

/-- An encryption adds a seal under the next number, and returns its frame. -/
theorem encrypt_ok {message frame : WsMessage} {s t : WriterState}
    (h : s.encrypt message = .ok (frame, t)) :
    (∃ kind payload, payload.length ≤ maxPayloadLen ∧
      s.cipher.gatewayToAccess.nextSendSequence + 1 < 2 ^ 64 ∧
      let c := s.cipher.gatewayToAccess
      let r := c.sealedAt c.nextSendSequence kind payload gatewayToAccess
      frame = .binary (DirectionCipher.frameOf c.nextSendSequence r) ∧
      t = { s with
        cipher := { s.cipher with
          gatewayToAccess := { c with nextSendSequence := c.nextSendSequence + 1 } }
        log := r :: s.log }) ∨
    (frame = .close none ∧ t = s) := by
  obtain ⟨⟨w, cipher⟩, hc, h⟩ := bind_eq_ok.mp h
  cases pure_eq_ok.mp h
  rcases encryptGatewayMessage_ok hc with
    ⟨kind, payload, bytes, direction, hseal, hd, rfl, rfl⟩ | ⟨hseal, rfl, rfl⟩
  · obtain ⟨hlen, hlt, rfl, rfl⟩ := DirectionCipher.encrypt_eq_ok.mp hd
    exact .inl ⟨kind, payload, hlen, hlt, rfl, by simp [hseal]⟩
  · exact .inr ⟨rfl, by simp [hseal]⟩

/-- More seals and a later counter leave what a frame carries. -/
theorem Carries.mono {log log' : SealLog} {c c' : DirectionCipher} {i : Nat} {frame : Bytes}
    (h : Carries log c i frame) (hlog : ∀ r ∈ log, r ∈ log') (hkey : c'.key = c.key)
    (hnonce : c'.noncePrefix = c.noncePrefix) : Carries log' c' i frame := by
  obtain ⟨hlt, kind, payload, hlen, hmem, hframe⟩ := h
  have hsame : c'.sealedAt i kind payload gatewayToAccess = c.sealedAt i kind payload gatewayToAccess := by
    simp only [DirectionCipher.sealedAt, hkey, hnonce]
  exact ⟨hlt, kind, payload, hlen, hsame ▸ hlog _ hmem, hsame ▸ hframe⟩

/-- What is encrypted when nothing is held is held under the next number. -/
theorem Ready.encrypt {message frame : WsMessage} {s t : WriterState} (h : Ready s)
    (hs : s.encrypt message = .ok (frame, t)) (phase : WriterPhase)
    (hp : phase.held = (WriterPhase.notifying frame).held) :
    InSequence { t with phase := phase } := by
  rcases encrypt_ok hs with ⟨kind, payload, hlen, hlt, rfl, rfl⟩ | ⟨rfl, rfl⟩
  · refine ⟨h.noncePrefix, ?_, fun _ => ?_, ?_⟩
    · intro i f hi
      exact (h.handed i f hi).mono (fun r hr => List.mem_cons_of_mem _ hr) rfl rfl
    · show s.cipher.gatewayToAccess.nextSendSequence + 1 = s.handed.length + phase.held.toList.length
      rw [hp, h.next]
      rfl
    · intro f hf
      rw [hp] at hf
      have heq := Option.some.inj hf
      refine ⟨h.next ▸ hlt, kind, payload, hlen, ?_, ?_⟩
      · rw [← h.next]
        exact List.mem_cons_self
      · rw [← h.next, ← heq]
        rfl
  · exact Ready.inSequence ⟨h.noncePrefix, h.handed, h.next⟩ hp

/-- The sink takes the frame that is held: nothing is held any more. -/
theorem InSequence.hand {s : WriterState} {frame : WsMessage} (h : InSequence s)
    (hp : s.phase.held = (WriterPhase.notifying frame).held) (hne : s.phase ≠ .ended) :
    Ready (s.hand frame) := by
  by_cases hb : ∃ bytes, frame = .binary bytes
  · obtain ⟨bytes, rfl⟩ := hb
    have hheld : s.phase.held = some bytes := hp
    refine ⟨h.noncePrefix, ?_, ?_⟩
    · intro i f hi
      simp only [WriterState.hand, List.getElem?_append] at hi
      split at hi
      · exact h.handed i f hi
      · rename_i hge
        obtain ⟨hone, hf⟩ := List.getElem?_eq_some_iff.mp hi
        have hzero : i = s.handed.length := by
          rw [List.length_singleton] at hone
          omega
        subst hzero
        simp only [Nat.sub_self, List.getElem_cons_zero] at hf
        subst hf
        exact h.held bytes hheld
    · show s.cipher.gatewayToAccess.nextSendSequence = (s.handed ++ [bytes]).length
      rw [h.next hne, hheld, List.length_append]
      rfl
  · have hsame : s.hand frame = s ∧ (WriterPhase.notifying frame).held = none := by
      cases frame <;> first | exact ⟨rfl, rfl⟩ | exact absurd ⟨_, rfl⟩ hb
    rw [hsame.1]
    exact h.ready (hp.trans hsame.2) hne

theorem inSequence_accept {s t : WriterState} (h : InSequence s) (hs : s.accept = some t) :
    InSequence t := by
  unfold WriterState.accept at hs
  split at hs
  · rename_i frame batch hphase
    cases hs
    have hready : Ready (s.hand frame) := by
      refine h.hand ?_ (by rw [hphase]; simp)
      rw [hphase]
      cases frame <;> rfl
    exact Ready.inSequence ⟨hready.noncePrefix, hready.handed, hready.next⟩ rfl
  · rename_i notice hphase
    cases hs
    have hready : Ready (s.hand notice) := h.hand (by rw [hphase]) (by rw [hphase]; simp)
    exact Ready.inSequence ⟨hready.noncePrefix, hready.handed, hready.next⟩ rfl
  · cases hs

/-- The other end decrypts the frames, each in its turn. -/
def accepts (log : SealLog) : List Bytes → DirectionCipher → Bool
  | [], _ => true
  | frame :: frames, c =>
    let (result, c) := c.decrypt log frame gatewayToAccess
    result.isOk && accepts log frames c

theorem Carries.frameSequence {log : SealLog} {c : DirectionCipher} {i : Nat} {frame : Bytes}
    (h : Carries log c i frame) : frameSequence frame = i := by
  obtain ⟨hlt, kind, payload, _, _, rfl⟩ := h
  have hwidth : 256 ^ frameSequenceLen = 2 ^ 64 := by decide
  rw [Gateway.frameSequence, DirectionCipher.frameOf, List.append_assoc, List.drop_left' rfl,
    List.take_left' (length_toBeBytes _ _), ofBeBytes_toBeBytes _ _ (by rw [hwidth]; omega)]

/-- Frames that carry consecutive numbers are accepted one after the other. -/
theorem accepts_of_carries {log : SealLog} {frames : List Bytes} {c : DirectionCipher}
    (h : ∀ i frame, frames[i]? = some frame → Carries log c (c.nextReceiveSequence + i) frame) :
    accepts log frames c = true := by
  induction frames generalizing c with
  | nil => rfl
  | cons frame frames ih =>
    obtain ⟨hlt, kind, payload, hlen, hmem, rfl⟩ := h 0 frame rfl
    have hd := DirectionCipher.decrypt_frameOf hmem hlen hlt
    rw [Nat.add_zero] at hd
    simp only [accepts, Nat.add_zero, hd, Except.isOk, Except.toBool, Bool.true_and]
    apply ih
    intro i f hi
    have hnext := h (i + 1) f hi
    rw [← Nat.add_assoc, Nat.add_right_comm] at hnext
    exact hnext.mono (fun _ hr => hr) rfl rfl

end Frames

/-! ### Steps -/

section Steps
variable [Aead] [MessageCodec]

theorem Ready.leave {s : WriterState} (h : Ready s) : InSequence s.leave := by
  have hended : InSequence { s with phase := .ended } :=
    Ready.inSequence ⟨h.noncePrefix, h.handed, h.next⟩ rfl
  unfold WriterState.leave
  split
  · exact hended
  · split
    · exact h.encrypt ‹_› _ rfl
    · exact hended

theorem Ready.start {s : WriterState} (h : Ready s) (batch : Batch) : InSequence (s.start batch) := by
  have hs : Ready { s with queue := batch.queue, pending := batch.pending } :=
    ⟨h.noncePrefix, h.handed, h.next⟩
  unfold WriterState.start
  dsimp only
  split
  · exact hs.leave
  · exact Ready.inSequence ⟨h.noncePrefix, h.handed, h.next⟩ rfl

theorem inSequence_initial {s : WriterState} (h : writer.Initial s) : InSequence s := by
  obtain ⟨⟨accessKey, gatewayKey, hcipher⟩, _, _, _, _, hphase, hhanded⟩ := h
  refine Ready.inSequence ⟨?_, ?_, ?_⟩ ?_
  · rw [hcipher]
    rfl
  · simp [hhanded]
  · rw [hcipher, hhanded]
    rfl
  · rw [hphase]
    rfl

theorem inSequence_receive {s t : WriterState} (h : InSequence s) (hs : s.receive = some t) :
    InSequence t := by
  have hnext : ∀ (first : WsMessage) (queue : List WsMessage) (u : WriterState), Ready u →
      InSequence (WriterState.receive.next first queue u) := by
    intro first queue u hu
    unfold WriterState.receive.next
    split
    · exact Ready.inSequence ⟨hu.noncePrefix, hu.handed, hu.next⟩ rfl
    · exact hu.start _
  unfold WriterState.receive at hs
  split at hs
  · rename_i hidle
    have hready := h.ready (by rw [hidle]; rfl) (by rw [hidle]; decide)
    split at hs
    · cases hs
      exact hnext _ _ _ ⟨hready.noncePrefix, hready.handed, hready.next⟩
    · split at hs
      · cases hs
      · cases hs
        exact hnext _ _ _ hready
    · cases hs
  · cases hs

theorem inSequence_feed {s t : WriterState} (h : InSequence s) (hs : s.feed = some t) :
    InSequence t := by
  unfold WriterState.feed at hs
  split at hs
  · rename_i hphase
    have hready := h.ready (by rw [hphase]; rfl) (by rw [hphase]; simp)
    cases hs
    exact Ready.inSequence ⟨hready.noncePrefix, hready.handed, hready.next⟩ rfl
  · rename_i message batch hphase
    have hready := h.ready (by rw [hphase]; rfl) (by rw [hphase]; simp)
    split at hs <;> cases hs
    · rename_i frame u hu
      refine hready.encrypt hu _ ?_
      cases frame <;> rfl
    · exact hready.leave
  · cases hs

theorem inSequence_fail {s t : WriterState} (h : InSequence s) (hr : NothingGivenUp .fail s)
    (hs : s.fail = some t) : InSequence t := by
  unfold WriterState.fail at hs
  split at hs
  · rename_i frame batch hphase
    cases hs
    by_cases hb : s.phase.held = none
    · exact (h.ready hb (by rw [hphase]; simp)).leave
    · -- the frame is given up, and nothing follows it
      have hsignal : s.signal = none := by
        cases frame <;> simp_all [NothingGivenUp, givesUp, WriterPhase.held]
      unfold WriterState.leave
      split
      · exact h.ended
      · rename_i error he
        rw [hsignal] at he
        cases he
  · rename_i hphase
    cases hs
    exact (h.ready (by rw [hphase]; rfl) (by rw [hphase]; simp)).leave
  · cases hs
    exact h.ended
  · cases hs

theorem inSequence_cancelled {s t : WriterState} (h : InSequence s)
    (hr : NothingGivenUp .cancelled s) (hs : s.cancelled = some t) : InSequence t := by
  unfold WriterState.cancelled at hs
  split at hs
  · split at hs
    · rename_i hphase
      split at hs
      · cases hs
      · cases hs
        exact (h.ready (by rw [hphase]; rfl) (by rw [hphase]; simp)).leave
    · rename_i frame batch hphase
      cases hs
      have hheld : s.phase.held = none := by
        rw [hphase]
        cases frame <;> first | rfl | simp [NothingGivenUp, givesUp, hphase] at hr
      exact (h.ready hheld (by rw [hphase]; simp)).leave
    · rename_i hphase
      cases hs
      exact (h.ready (by rw [hphase]; rfl) (by rw [hphase]; simp)).leave
    · cases hs
  · cases hs

theorem inSequence_step {op : WriterOp} {s t : WriterState} (h : InSequence s)
    (hr : NothingGivenUp op s) (hs : writer.step op s = some t) : InSequence t := by
  cases op with
  | enqueue message =>
    cases hs
    exact ⟨h.noncePrefix, h.handed, h.next, h.held⟩
  | cancel error =>
    cases hs
    exact ⟨h.noncePrefix, h.handed, h.next, h.held⟩
  | receive => exact inSequence_receive h hs
  | gather =>
    simp only [writer, WriterState.gather] at hs
    split at hs
    · rename_i hphase
      cases hs
      exact (h.ready (by rw [hphase]; rfl) (by rw [hphase]; simp)).start _
    · cases hs
  | feed => exact inSequence_feed h hs
  | accept => exact inSequence_accept h hs
  | fail => exact inSequence_fail h hr hs
  | flushed =>
    simp only [writer, WriterState.flushed] at hs
    split at hs
    · rename_i hphase
      cases hs
      have hready := h.ready (by rw [hphase]; rfl) (by rw [hphase]; simp)
      exact Ready.inSequence ⟨hready.noncePrefix, hready.handed, hready.next⟩ rfl
    · cases hs
  | cancelled => exact inSequence_cancelled h hr hs
  | abort =>
    cases hs
    exact h.ended

theorem inSequence_reachable {s : WriterState} (h : writer.ReachableUnder NothingGivenUp s) :
    InSequence s := by
  apply Machine.ReachableUnder.invariant _ _ h
  · exact fun _ hi => inSequence_initial hi
  · exact fun _ _ _ _ hinv hr hs => inSequence_step hinv hr hs

/-- **No gap while nothing is given up.** In every run in which no encrypted frame
waits for the sink when a cancelled session leaves its batch, the frames handed to
the sink are numbered from zero without a gap, and the other end, with a cipher of
the same keys, accepts them all, the notice included. -/
theorem handed_in_sequence {s : WriterState} (h : writer.ReachableUnder NothingGivenUp s) :
    (∀ k frame, s.handed[k]? = some frame → frameSequence frame = k) ∧
      accepts s.log s.handed (.new s.cipher.gatewayToAccess.key (bytesOf "G2AC")) = true := by
  have hinv := inSequence_reachable h
  refine ⟨fun k frame hk => (hinv.handed k frame hk).frameSequence, accepts_of_carries ?_⟩
  intro i frame hi
  have hcarries := hinv.handed i frame hi
  show Carries s.log _ (0 + i) frame
  rw [Nat.zero_add]
  exact hcarries.mono (fun _ hr => hr) rfl hinv.noncePrefix.symm

end Steps

/-! ### A frame given up -/

section Example

local instance : Aead := .transparent
local instance : MessageCodec := .plain

def writerStart : WriterState := ⟨.ofKeys [1] [2], [], none, [], none, .idle, []⟩

/-- A text, then data of two streams in one batch; the sink takes every frame. -/
def writtenOps : List WriterOp :=
  [.enqueue (.text "a"), .enqueue (.binary (encodeDataFrame 1 [1])),
    .enqueue (.binary (encodeDataFrame 2 [2])), .receive, .feed, .accept, .feed, .flushed,
    .receive, .gather, .feed, .accept, .feed, .accept, .cancel .changed, .feed, .cancelled, .accept]

def writtenState : WriterState :=
  (writer.runUnder NothingGivenUp writtenOps writerStart).getD writerStart

theorem writerStart_initial : writer.Initial writerStart :=
  ⟨⟨[1], [2], rfl⟩, rfl, rfl, rfl, rfl, rfl, rfl⟩

theorem writtenState_ends : (writer.runUnder NothingGivenUp writtenOps writerStart).isSome = true ∧
    writtenState.handed.map frameSequence = [0, 1, 2, 3] := by decide +kernel

theorem handed_in_sequence_writtenState :
    writtenState.handed.map frameSequence = [0, 1, 2, 3] ∧
      accepts writtenState.log writtenState.handed (.new writtenState.cipher.gatewayToAccess.key
        (bytesOf "G2AC")) = true := by
  obtain ⟨hrun, hhanded⟩ := writtenState_ends
  have hreach : writer.ReachableUnder NothingGivenUp writtenState :=
    Machine.reachable_getD writerStart_initial hrun
  obtain ⟨_, haccepts⟩ := handed_in_sequence hreach
  exact ⟨hhanded, haccepts⟩

/-- The same batch, but the session is replaced while its second frame waits. -/
def gapOps : List WriterOp :=
  [.enqueue (.binary (encodeDataFrame 1 [1])), .enqueue (.binary (encodeDataFrame 2 [2])),
    .receive, .gather, .feed, .accept, .feed, .cancel .replaced, .cancelled, .accept]

def gapState : WriterState := (writer.run gapOps writerStart).getD writerStart

theorem gap_in_sequence :
    writer.Reachable gapState ∧ gapState.handed.map frameSequence = [0, 2] ∧
      accepts gapState.log gapState.handed (.new gapState.cipher.gatewayToAccess.key
        (bytesOf "G2AC")) = false := by
  have hends : (writer.run gapOps writerStart).isSome = true ∧
      gapState.handed.map frameSequence = [0, 2] ∧
      accepts gapState.log gapState.handed (.new gapState.cipher.gatewayToAccess.key
        (bytesOf "G2AC")) = false := by decide +kernel
  exact ⟨Machine.reachable_getD writerStart_initial hends.1, hends.2⟩

end Example

end WsNet.Gateway
