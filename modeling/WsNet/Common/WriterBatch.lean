import WsNet.Common.WriterLoop

/-! The bytes of a batch.

The running total of a batch is the sum of its messages, along both ways into the
batch. A message that is appended is weighed first; one that is merged into the last
frame is not, and takes the total past the limit where it does not fit. The batches
that never get there are those of runs in which every merged message fits
(`honored_iff_fits`). -/
namespace WsNet

/-- A batch and its running total. -/
structure BatchState where
  batch : List WsMessage
  bytes : Nat

namespace BatchState

def start (first : WsMessage) : BatchState := ⟨[first], wsMessageSize first⟩

/-- A deferred message leaves the batch as it is. -/
def push (s : BatchState) (next : WsMessage) : BatchState :=
  match pushWsMessage s.batch s.bytes next with
  | .pushed _ batch bytes => ⟨batch, bytes⟩
  | .deferred _ => s

def pushAll (s : BatchState) (messages : List WsMessage) : BatchState := messages.foldl push s

/-- The sum of the sizes. -/
def total (s : BatchState) : Nat := (s.batch.map wsMessageSize).sum

/-- The last message with the next one merged into it. -/
def merges (s : BatchState) (next : WsMessage) : Option WsMessage :=
  s.batch.getLast?.bind (tryMergeWsBinary · next)

/-- What a message adds: its payload when it is merged, else all of it. -/
def weight (s : BatchState) (next : WsMessage) : Nat :=
  if (s.merges next).isSome then wsMessageSize next - dataFrameHeaderLen else wsMessageSize next

def Defers (s : BatchState) (next : WsMessage) : Prop :=
  pushWsMessage s.batch s.bytes next = .deferred next

/-- If the message is merged, its payload fits. -/
def Fits (s : BatchState) (next : WsMessage) : Prop :=
  (s.merges next).isSome = true → s.bytes + (wsMessageSize next - dataFrameHeaderLen) ≤ wsWriteBatchMaxBytes

/-! ### One message -/

/-- A message is merged, deferred or appended. -/
theorem push_cases (s : BatchState) (next : WsMessage) :
    (∃ merged, s.merges next = some merged ∧ s.push next =
      ⟨s.batch.dropLast ++ [merged], s.bytes + (wsMessageSize next - dataFrameHeaderLen)⟩ ∧
      ¬ s.Defers next) ∨
    (s.merges next = none ∧ wsWriteBatchMaxBytes < s.bytes + wsMessageSize next ∧ s.push next = s ∧
      s.Defers next) ∨
    (s.merges next = none ∧ s.bytes + wsMessageSize next ≤ wsWriteBatchMaxBytes ∧
      s.push next = ⟨s.batch ++ [next], s.bytes + wsMessageSize next⟩ ∧ ¬ s.Defers next) := by
  unfold push Defers pushWsMessage
  cases hmerges : s.merges next with
  | some merged =>
    unfold merges at hmerges
    rw [hmerges]
    exact .inl ⟨merged, rfl, rfl, by simp⟩
  | none =>
    unfold merges at hmerges
    rw [hmerges]
    dsimp only
    by_cases hfull : s.bytes + wsMessageSize next > wsWriteBatchMaxBytes
    · rw [if_pos hfull]
      exact .inr (.inl ⟨rfl, hfull, rfl, rfl⟩)
    · rw [if_neg hfull]
      exact .inr (.inr ⟨rfl, Nat.not_lt.mp hfull, rfl, by simp⟩)

/-- A merged frame is as long as the two with one header. -/
theorem wsMessageSize_merge {a b c : WsMessage} (h : tryMergeWsBinary a b = some c) :
    wsMessageSize c = wsMessageSize a + (wsMessageSize b - dataFrameHeaderLen) := by
  unfold tryMergeWsBinary at h
  split at h
  · obtain ⟨merged, hmerged, rfl⟩ := Option.map_eq_some_iff.mp h
    simp only [tryMergeDataFrames, Option.ite_none_left_eq_some] at hmerged
    obtain ⟨_, _, _, hmerged⟩ := hmerged
    cases hmerged
    simp only [wsMessageSize, List.length_append, List.length_drop]
  · cases h

/-- The running total stays the sum. -/
theorem total_push {s : BatchState} (h : s.bytes = s.total) (next : WsMessage) :
    (s.push next).bytes = (s.push next).total := by
  rcases push_cases s next with ⟨merged, hmerges, hpush, _⟩ | ⟨_, _, hpush, _⟩ | ⟨_, _, hpush, _⟩
  · obtain ⟨current, hlast, hmerge⟩ := Option.bind_eq_some_iff.mp hmerges
    have hbatch : s.batch = s.batch.dropLast ++ [current] :=
      (List.dropLast_append_getLast? current hlast).symm
    have htotal : s.bytes = (s.batch.dropLast.map wsMessageSize).sum + wsMessageSize current := by
      rw [h, total]
      conv_lhs => rw [hbatch]
      simp
    rw [hpush]
    simp only [total, List.map_append, List.sum_append, List.map_singleton, List.sum_singleton,
      wsMessageSize_merge hmerge]
    omega
  · rw [hpush]
    exact h
  · rw [hpush]
    simp only [total, List.map_append, List.sum_append, List.map_singleton, List.sum_singleton]
    rw [h, total]

/-- A message that fits leaves the total within the limit. -/
theorem within_push {s : BatchState} {next : WsMessage} (h : s.bytes ≤ wsWriteBatchMaxBytes)
    (hfits : s.Fits next) : (s.push next).bytes ≤ wsWriteBatchMaxBytes := by
  rcases push_cases s next with ⟨merged, hmerges, hpush, _⟩ | ⟨_, _, hpush, _⟩ | ⟨_, hle, hpush, _⟩
  · rw [hpush]
    exact hfits (by rw [hmerges]; rfl)
  · rw [hpush]
    exact h
  · rw [hpush]
    exact hle

/-- Where a message that exceeds the limit is deferred, a merged one fits, and the other
way around. -/
theorem defers_iff_fits (s : BatchState) (next : WsMessage) :
    (wsWriteBatchMaxBytes < s.bytes + s.weight next → s.Defers next) ↔ s.Fits next := by
  unfold weight Fits
  rcases push_cases s next with ⟨merged, hmerges, _, hnot⟩ | ⟨hmerges, _, _, hdefers⟩ | ⟨hmerges, hle, _, _⟩
  · rw [hmerges]
    simp only [Option.isSome_some, if_true, forall_const]
    constructor
    · intro h
      by_contra hover
      exact hnot (h (Nat.not_le.mp hover))
    · intro h hover
      omega
  · rw [hmerges]
    exact ⟨fun _ h => (by cases h), fun _ _ => hdefers⟩
  · rw [hmerges]
    refine ⟨fun _ h => (by cases h), fun _ hover => ?_⟩
    simp only [Option.isSome_none, Bool.false_eq_true, if_false] at hover
    omega

/-! ### Runs -/

theorem pushAll_snoc (s : BatchState) (messages : List WsMessage) (next : WsMessage) :
    s.pushAll (messages ++ [next]) = (s.pushAll messages).push next := by
  simp only [pushAll, List.foldl_append, List.foldl_cons, List.foldl_nil]

theorem total_pushAll (first : WsMessage) (messages : List WsMessage) :
    ((start first).pushAll messages).bytes = ((start first).pushAll messages).total := by
  induction messages using List.reverseRecOn with
  | nil => simp [pushAll, start, total]
  | append_singleton messages next ih =>
    rw [pushAll_snoc]
    exact total_push ih next

/-- What is asked of a batch: the total is the sum and within the limit after any of the
messages, and one that would take it past the limit is deferred. -/
def Honored (first : WsMessage) (messages : List WsMessage) : Prop :=
  (∀ done rest, messages = done ++ rest →
    ((start first).pushAll done).bytes = ((start first).pushAll done).total ∧
      ((start first).pushAll done).bytes ≤ wsWriteBatchMaxBytes) ∧
  ∀ done next rest, messages = done ++ next :: rest →
    wsWriteBatchMaxBytes < ((start first).pushAll done).bytes + ((start first).pushAll done).weight next →
      ((start first).pushAll done).Defers next

/-- **The bytes of a batch.** The total is the sum and within the limit, and what exceeds
the limit is deferred, exactly when no message is merged whose payload does not fit. -/
theorem honored_iff_fits (first : WsMessage) (messages : List WsMessage)
    (hfirst : wsMessageSize first ≤ wsWriteBatchMaxBytes) :
    Honored first messages ↔
      ∀ done next rest, messages = done ++ next :: rest → ((start first).pushAll done).Fits next := by
  constructor
  · intro h done next rest hmessages
    exact (defers_iff_fits _ next).mp (h.2 done next rest hmessages)
  · intro hfits
    refine ⟨?_, fun done next rest hmessages => (defers_iff_fits _ next).mpr (hfits done next rest hmessages)⟩
    intro done
    induction done using List.reverseRecOn with
    | nil => exact fun rest _ => ⟨total_pushAll first [], hfirst⟩
    | append_singleton done next ih =>
      intro rest hmessages
      rw [List.append_assoc, List.singleton_append] at hmessages
      refine ⟨total_pushAll first _, ?_⟩
      rw [pushAll_snoc]
      exact within_push (ih (next :: rest) hmessages).2 (hfits done next rest hmessages)

/-! ### The writers' batches -/

section Writers
open Crypto Transition

theorem start_phase (w : WriterLoop) (messages batch : List WsMessage) (bytes : Nat) :
    (w.start messages).phase ≠ .gathering batch bytes := by
  unfold WriterLoop.start
  intro h
  dsimp only at h
  split at h <;> cases h

theorem begin_phase (w : WriterLoop) (first : WsMessage) (batch : List WsMessage) (bytes : Nat) :
    (WriterLoop.begin first w).phase ≠ .gathering batch bytes := by
  unfold WriterLoop.begin
  intro h
  split at h
  · cases h
  · exact start_phase w [first] batch bytes h

/-- A batch that is gathered was begun, or pushed on. -/
def Gathered (w : WriterLoop) (s : BatchState) : Prop :=
  w.phase = .gathering s.batch s.bytes ∨ (∃ first, s = start first) ∨
    ∃ before : BatchState, ∃ next, w.phase = .gathering before.batch before.bytes ∧ s = before.push next

theorem gathered_step [Aead] {side : Side} {op : LoopOp} {w w' : WriterLoop}
    (hs : (writerLoop side).step op w = some w') {s : BatchState}
    (hphase : w'.phase = .gathering s.batch s.bytes) : Gathered w s := by
  cases loopMove_of_step hs with
  | canceled => exact .inl hphase
  | @yielded first =>
    injection hphase with hbatch hbytes
    refine .inr (.inl ⟨first, ?_⟩)
    rw [start, hbatch, hbytes]
  | @pushed batch _ batchBytes _ next stop hgathering hpush =>
    cases stop with
    | true => exact absurd hphase (start_phase _ _ _ _)
    | false =>
      refine .inr (.inr ⟨⟨batch, batchBytes⟩, next, hgathering, ?_⟩)
      injection hphase with hbatch hbytes
      simp only [push, hpush, hbatch, hbytes]
  | resumed | received => exact absurd hphase (begin_phase _ _ _ _)
  | drained | deferred | full => exact absurd hphase (start_phase _ _ _ _)
  | _ => cases hphase

/-- **What a writer gathers is a run of pushes.** -/
theorem gathering_of_reachable [Aead] {side : Side} {w : WriterLoop} (hr : (writerLoop side).Reachable w) :
    ∀ s : BatchState, w.phase = .gathering s.batch s.bytes →
      ∃ first messages, s = (start first).pushAll messages := by
  refine hr.invariant (P := fun w => ∀ s : BatchState, w.phase = .gathering s.batch s.bytes →
    ∃ first messages, s = (start first).pushAll messages) ?_ ?_
  · intro w hinitial s hphase
    obtain ⟨cipher, rfl⟩ := hinitial
    cases hphase
  · intro op w w' _ ih _ hs s hphase
    rcases gathered_step hs hphase with hbefore | ⟨first, rfl⟩ | ⟨before, next, hbefore, rfl⟩
    · exact ih s hbefore
    · exact ⟨first, [], rfl⟩
    · obtain ⟨first, messages, rfl⟩ := ih before hbefore
      exact ⟨first, messages ++ [next], (pushAll_snoc _ messages next).symm⟩

end Writers

section Example

/-- A data frame of a stream with so many bytes. -/
def frameOfZeros (id n : Nat) : WsMessage := .binary (encodeDataFrame id (List.replicate n 0))

theorem size_frameOfZeros (id n : Nat) : wsMessageSize (frameOfZeros id n) = 8 + n := by
  simp [frameOfZeros, wsMessageSize, encodeDataFrame]

theorem merge_frameOfZeros (id m n : Nat) (h : m + n ≤ wsDataFrameMaxPayload) :
    (tryMergeWsBinary (frameOfZeros id m) (frameOfZeros id n)).isSome = true := by
  have hlen : ∀ k, (encodeDataFrame id (List.replicate k 0)).length = 8 + k := by simp [encodeDataFrame]
  have htake : ∀ k, (encodeDataFrame id (List.replicate k 0)).take 8 = Data.toBeBytes 8 id := by
    intro k
    exact List.take_left' (Data.length_toBeBytes 8 id)
  unfold frameOfZeros tryMergeWsBinary tryMergeDataFrames dataFrameHeaderLen
  rw [Option.isSome_map, hlen, hlen, htake, htake, if_neg (by omega), if_neg (by simp), if_neg (by omega)]
  rfl

theorem merge_frameOfZeros_ne {id id' : Nat} (m n : Nat) (h : Data.toBeBytes 8 id ≠ Data.toBeBytes 8 id') :
    tryMergeWsBinary (frameOfZeros id m) (frameOfZeros id' n) = none := by
  have htake : ∀ id k, (encodeDataFrame id (List.replicate k 0)).take 8 = Data.toBeBytes 8 id := by
    intro id k
    exact List.take_left' (Data.length_toBeBytes 8 id)
  unfold frameOfZeros tryMergeWsBinary tryMergeDataFrames dataFrameHeaderLen
  dsimp only
  rw [htake, htake, if_pos h]
  simp

theorem merges_snoc (front : List WsMessage) (last next : WsMessage) (bytes : Nat) :
    merges ⟨front ++ [last], bytes⟩ next = tryMergeWsBinary last next := by
  unfold merges
  rw [List.getLast?_concat, Option.bind_some]

/-- A frame of another stream that fits is appended. -/
theorem push_other (front : List WsMessage) (id id' bytes m n : Nat)
    (hid : Data.toBeBytes 8 id ≠ Data.toBeBytes 8 id') (hfits : bytes + (8 + n) ≤ wsWriteBatchMaxBytes) :
    push ⟨front ++ [frameOfZeros id m], bytes⟩ (frameOfZeros id' n) =
      ⟨front ++ [frameOfZeros id m] ++ [frameOfZeros id' n], bytes + (8 + n)⟩ := by
  have hmerges := (merges_snoc front (frameOfZeros id m) (frameOfZeros id' n) bytes).trans
    (merge_frameOfZeros_ne m n hid)
  rcases push_cases ⟨front ++ [frameOfZeros id m], bytes⟩ (frameOfZeros id' n) with
    ⟨merged, hsome, _⟩ | ⟨_, hover, _⟩ | ⟨_, _, hpush, _⟩
  · rw [hmerges] at hsome
    cases hsome
  · rw [size_frameOfZeros] at hover
    dsimp only at hover
    omega
  · rw [hpush, size_frameOfZeros]

/-- Three full frames of three streams, and one of a fourth that ends at the limit. -/
def fullFront : List WsMessage := [frameOfZeros 1 65536] ++ [frameOfZeros 2 65536] ++ [frameOfZeros 3 65536]

def fullRest : List WsMessage := [frameOfZeros 2 65536, frameOfZeros 3 65536, frameOfZeros 4 65504]

theorem pushAll_fullRest :
    (start (frameOfZeros 1 65536)).pushAll fullRest =
      ⟨fullFront ++ [frameOfZeros 4 65504], wsWriteBatchMaxBytes⟩ := by
  have hlimit : wsWriteBatchMaxBytes = 262144 := rfl
  have hfirst : start (frameOfZeros 1 65536) = ⟨[] ++ [frameOfZeros 1 65536], 65544⟩ := by
    rw [start, size_frameOfZeros, List.nil_append]
  have hsecond := push_other [] 1 2 65544 65536 65536 (by decide) (by omega)
  have hthird := push_other ([] ++ [frameOfZeros 1 65536]) 2 3 131088 65536 65536 (by decide)
    (by omega)
  have hfourth := push_other ([] ++ [frameOfZeros 1 65536] ++ [frameOfZeros 2 65536]) 3 4 196632 65536
    65504 (by decide) (by omega)
  rw [pushAll, fullRest, hfirst, List.foldl_cons, List.foldl_cons, List.foldl_cons, List.foldl_nil, hsecond,
    hthird, hfourth, hlimit, fullFront, List.nil_append]

/-- One byte past the limit, merged into the fourth stream's frame. -/
theorem not_honored : ¬ ∀ first messages, wsMessageSize first ≤ wsWriteBatchMaxBytes →
    Honored first messages := by
  intro h
  have hfirst : wsMessageSize (frameOfZeros 1 65536) ≤ wsWriteBatchMaxBytes := by
    rw [size_frameOfZeros, wsWriteBatchMaxBytes]
    omega
  have hhonored := h (frameOfZeros 1 65536) (fullRest ++ [frameOfZeros 4 1]) hfirst
  have hdefers := hhonored.2 fullRest (frameOfZeros 4 1) [] rfl
  rw [pushAll_fullRest, defers_iff_fits] at hdefers
  have hmerges : (merges ⟨fullFront ++ [frameOfZeros 4 65504], wsWriteBatchMaxBytes⟩
      (frameOfZeros 4 1)).isSome = true := by
    rw [merges_snoc]
    exact merge_frameOfZeros 4 65504 1 (by decide)
  have hbytes := hdefers hmerges
  rw [size_frameOfZeros, dataFrameHeaderLen] at hbytes
  dsimp only at hbytes
  omega

/-- A second frame of the stream is merged into the first, within the limit. -/
theorem honored_iff_fits_merged :
    ((start (frameOfZeros 4 1)).merges (frameOfZeros 4 2)).isSome = true ∧
      Honored (frameOfZeros 4 1) [frameOfZeros 4 2, .text "a"] := by
  have hmerges : ((start (frameOfZeros 4 1)).merges (frameOfZeros 4 2)).isSome = true :=
    merge_frameOfZeros 4 1 2 (by decide)
  refine ⟨hmerges, (honored_iff_fits _ _ (by decide +kernel)).mpr ?_⟩
  intro done next rest hmessages
  cases done with
  | nil =>
    cases hmessages
    exact fun _ => by decide +kernel
  | cons m done =>
    cases done with
    | nil =>
      cases hmessages
      exact fun htext => absurd htext (by decide +kernel)
    | cons m' done => cases done <;> cases hmessages

end Example

end BatchState

end WsNet
