import WsNet.Relay.LocalSide
import WsNet.Relay.TargetSide

/-! Reading a socket into data frames.

A frame is filled by one read that waits and by reads that do not, as long as there is
room and something there. The socket is what its reads will find, in order. What the
frames carry is what the socket delivers, except that an error found while a frame holds
data takes the frame with it: the bytes survive exactly where the data in front of the
error fills whole frames (`readDataFrame_faithful_iff`). -/
namespace WsNet.Relay
open Data

/-! ### Sockets -/

/-- What a read finds. -/
inductive SocketEvent where
  | data (bytes : Bytes) (nonempty : bytes ≠ [])
  | wouldBlock
  | endOfFile
  | error (error : Error)

/-- What the reads of a socket find, one after the other. Behind the last event nothing
has happened yet. -/
abbrev Socket := List SocketEvent

/-- Data, or what is left of it. -/
def dataFirst (bytes : Bytes) (s : Socket) : Socket :=
  if h : bytes = [] then s else .data bytes h :: s

inductive IoError where
  | wouldBlock
  | other (error : Error)

/-- At most so many bytes, without waiting; none at the end of the file, which stays. -/
def tryRead (room : Nat) : Socket → Except IoError Bytes × Socket
  | [] => (.error .wouldBlock, [])
  | .data bytes _ :: s => (.ok (bytes.take room), dataFirst (bytes.drop room) s)
  | .wouldBlock :: s => (.error .wouldBlock, s)
  | .endOfFile :: s => (.ok [], .endOfFile :: s)
  | .error e :: s => (.error (.other e), s)

/-- The read that waits: `none` where it waits for ever. -/
def read (room : Nat) : Socket → Option (Except Error Bytes × Socket)
  | [] => none
  | .data bytes _ :: s => some (.ok (bytes.take room), dataFirst (bytes.drop room) s)
  | .wouldBlock :: s => read room s
  | .endOfFile :: s => some (.ok [], .endOfFile :: s)
  | .error e :: s => some (.error e, s)

/-! ### Frames -/

def newDataFrameBuffer (streamId : StreamId) (payloadCapacity : Nat) : Bytes :=
  toBeBytes 8 streamId ++ List.replicate payloadCapacity 0

/-- What a read writes into a buffer. -/
def writeAt (buffer : Bytes) (offset : Nat) (bytes : Bytes) : Bytes :=
  buffer.take offset ++ bytes ++ buffer.drop (offset + bytes.length)

section Reader
variable (bufferSize : Nat)

/-- The loop of `try_read`s: the frame, and how much payload it has. -/
def fillFrame (frame : Bytes) (payloadLen : Nat) (s : Socket) : Except Error (Bytes × Nat) × Socket :=
  if payloadLen < bufferSize then
    match tryRead (bufferSize - payloadLen) s with
    | (.ok [], s) => (.ok (frame, payloadLen), s)
    | (.ok (b :: bytes), s) =>
      fillFrame (writeAt frame (dataFrameHeaderLen + payloadLen) (b :: bytes))
        (payloadLen + (b :: bytes).length) s
    | (.error .wouldBlock, s) => (.ok (frame, payloadLen), s)
    | (.error (.other e), s) => (.error e, s)
  else (.ok (frame, payloadLen), s)
termination_by bufferSize - payloadLen
decreasing_by
  simp only [List.length_cons]
  omega

/-- `read_data_frame`: a frame, nothing at the end of the file, or an error. -/
def readDataFrame (streamId : StreamId) (s : Socket) : Option (Except Error (Option Bytes) × Socket) :=
  let frame := newDataFrameBuffer streamId bufferSize
  match read bufferSize s with
  | none => none
  | some (.error e, s) => some (.error e, s)
  | some (.ok [], s) => some (.ok none, s)
  | some (.ok (b :: bytes), s) =>
    let frame := writeAt frame dataFrameHeaderLen (b :: bytes)
    match fillFrame bufferSize frame (b :: bytes).length s with
    | (.ok (frame, payloadLen), s) => some (.ok (some (frame.take (dataFrameHeaderLen + payloadLen))), s)
    | (.error e, s) => some (.error e, s)

end Reader

/-- `read_data_frame` of the access. -/
def readLocalFrame : StreamId → Socket → Option (Except Error (Option Bytes) × Socket) :=
  readDataFrame tcpBufferSize

/-- `read_data_frame` of the gateway. -/
def readTargetFrame : StreamId → Socket → Option (Except Error (Option Bytes) × Socket) :=
  readDataFrame targetBufferSize

/-! ### What a socket delivers -/

/-- The bytes before the end of the file or the first error. -/
def delivered : Socket → Bytes
  | [] => []
  | .data bytes _ :: s => bytes ++ delivered s
  | .wouldBlock :: s => delivered s
  | .endOfFile :: _ => []
  | .error _ :: _ => []

/-- How many bytes there are between the last `WouldBlock` and the first error, on top of
the given ones. -/
def bytesBeforeError (held : Nat) : Socket → Option Nat
  | [] => none
  | .data bytes _ :: s => bytesBeforeError (held + bytes.length) s
  | .wouldBlock :: s => bytesBeforeError 0 s
  | .endOfFile :: _ => none
  | .error _ :: _ => some held

/-- An upper bound of the reads that a socket has in it. -/
def remaining : Socket → Nat
  | [] => 0
  | .data bytes _ :: s => bytes.length + remaining s
  | _ :: s => 1 + remaining s

@[simp] theorem delivered_dataFirst (bytes : Bytes) (s : Socket) :
    delivered (dataFirst bytes s) = bytes ++ delivered s := by
  unfold dataFirst
  split
  · rename_i h
    rw [h, List.nil_append]
  · rfl

@[simp] theorem bytesBeforeError_dataFirst (held : Nat) (bytes : Bytes) (s : Socket) :
    bytesBeforeError held (dataFirst bytes s) = bytesBeforeError (held + bytes.length) s := by
  unfold dataFirst
  split
  · rename_i h
    rw [h, List.length_nil, Nat.add_zero]
  · rfl

@[simp] theorem remaining_dataFirst (bytes : Bytes) (s : Socket) :
    remaining (dataFirst bytes s) = bytes.length + remaining s := by
  unfold dataFirst
  split
  · rename_i h
    rw [h, List.length_nil, Nat.zero_add]
  · rfl

/-- What reading some bytes off a socket leaves. -/
structure Took (bytes : Bytes) (s s' : Socket) : Prop where
  delivered : delivered s = bytes ++ delivered s'
  before : ∀ held, bytesBeforeError held s = bytesBeforeError (held + bytes.length) s'
  remaining : remaining s = bytes.length + remaining s'

theorem took_data (room : Nat) (bytes : Bytes) (h : bytes ≠ []) (s : Socket) :
    Took (bytes.take room) (.data bytes h :: s) (dataFirst (bytes.drop room) s) := by
  have hlength : (bytes.take room).length + (bytes.drop room).length = bytes.length := by
    rw [← List.length_append, List.take_append_drop]
  constructor
  · rw [delivered_dataFirst, ← List.append_assoc, List.take_append_drop]
    rfl
  · intro held
    rw [bytesBeforeError_dataFirst, Nat.add_assoc, hlength]
    rfl
  · rw [remaining_dataFirst, ← Nat.add_assoc, hlength]
    rfl

/-! ### One read -/

/-- The read that waits skips what blocks. It takes data, or there is none in front of
what it finds. -/
theorem read_spec {size : Nat} (hsize : 0 < size) (s : Socket) :
    (∃ b bytes s', read size s = some (.ok (b :: bytes), s') ∧ (b :: bytes).length ≤ size ∧
      delivered s = b :: bytes ++ delivered s' ∧ remaining s' + (b :: bytes).length ≤ remaining s ∧
      ∀ held, held % size = 0 → ∃ held', held' % size = (b :: bytes).length % size ∧
        bytesBeforeError held s = bytesBeforeError held' s') ∨
    (delivered s = [] ∧ (∀ b bytes s', read size s ≠ some (.ok (b :: bytes), s')) ∧
      ∀ held, held % size = 0 → ∀ n ∈ bytesBeforeError held s, n % size = 0) := by
  induction s with
  | nil => exact .inr ⟨rfl, fun _ _ _ h => (by cases h), fun _ _ _ hn => (by cases hn)⟩
  | cons event s ih =>
    cases event with
    | data bytes h =>
      have htook := took_data size bytes h s
      cases htake : bytes.take size with
      | nil =>
        rcases List.take_eq_nil_iff.mp htake with hzero | hnil
        · omega
        · exact absurd hnil h
      | cons b rest =>
        rw [htake] at htook
        refine .inl ⟨b, rest, _, by rw [read, htake], ?_, htook.delivered, ?_, ?_⟩
        · rw [← htake]
          exact List.length_take_le _ _
        · rw [htook.remaining]
          omega
        · intro held hheld
          exact ⟨held + (b :: rest).length, by rw [Nat.add_mod, hheld, Nat.zero_add, Nat.mod_mod],
            htook.before held⟩
    | wouldBlock =>
      rcases ih with ⟨b, bytes, s', hread, hle, hdelivered, hremaining, hbefore⟩ | ⟨hnone, hread, hbefore⟩
      · refine .inl ⟨b, bytes, s', hread, hle, hdelivered, ?_, ?_⟩
        · show _ ≤ 1 + remaining s
          omega
        · intro held _
          exact hbefore 0 (Nat.zero_mod size)
      · exact .inr ⟨hnone, hread, fun _ _ => hbefore 0 (Nat.zero_mod size)⟩
    | endOfFile =>
      refine .inr ⟨rfl, ?_, fun _ _ _ hn => (by cases hn)⟩
      intro b bytes s' hread
      cases hread
    | error e =>
      refine .inr ⟨rfl, ?_, ?_⟩
      · intro b bytes s' hread
        cases hread
      · intro held hheld n hn
        cases hn
        exact hheld

/-- Without room nothing is read. -/
theorem read_zero (s : Socket) : ∀ b bytes s', read 0 s ≠ some (.ok (b :: bytes), s') := by
  intro b bytes s'
  induction s with
  | nil => simp [read]
  | cons event s ih =>
    cases event with
    | wouldBlock => exact ih
    | data bytes h => simp [read]
    | endOfFile => simp [read]
    | error e => simp [read]

/-! ### One frame -/

section Reader
variable (bufferSize : Nat)

/-- A frame's buffer with some payload in it. -/
def bufferWith (header payload : Bytes) : Bytes :=
  header ++ payload ++ List.replicate (bufferSize - payload.length) 0

theorem newDataFrameBuffer_eq (streamId : StreamId) :
    newDataFrameBuffer streamId bufferSize = bufferWith bufferSize (toBeBytes 8 streamId) [] := by
  simp [newDataFrameBuffer, bufferWith]

/-- A read writes behind the payload. -/
theorem writeAt_bufferWith {header : Bytes} (payload bytes : Bytes) (hheader : header.length = dataFrameHeaderLen) :
    writeAt (bufferWith bufferSize header payload) (dataFrameHeaderLen + payload.length) bytes =
      bufferWith bufferSize header (payload ++ bytes) := by
  have hfront : (header ++ payload).length = dataFrameHeaderLen + payload.length := by
    rw [List.length_append, hheader]
  unfold writeAt bufferWith
  rw [List.take_left' hfront, ← List.drop_drop, List.drop_left' hfront, List.drop_replicate,
    List.length_append]
  simp only [List.append_assoc]
  congr 4
  omega

/-- The frame that is cut off the buffer. -/
theorem take_bufferWith {header payload : Bytes} (hheader : header.length = dataFrameHeaderLen) :
    (bufferWith bufferSize header payload).take (dataFrameHeaderLen + payload.length) =
      header ++ payload := by
  unfold bufferWith
  rw [List.take_left' (by rw [List.length_append, hheader])]

/-- The loop takes more payload off the socket, and ends where what was read fills whole
frames or the socket blocked. -/
structure Gathers (payload more : Bytes) (s s' : Socket) : Prop where
  fits : (payload ++ more).length ≤ bufferSize
  delivered : delivered s = more ++ delivered s'
  remaining : remaining s' ≤ remaining s
  before : ∀ held, held % bufferSize = payload.length % bufferSize → ∃ held', held' % bufferSize = 0 ∧
    bytesBeforeError held s = bytesBeforeError held' s'

/-- The socket has nothing more for now. -/
theorem gathers_nothing {payload : Bytes} {s s' : Socket} (hle : payload.length ≤ bufferSize)
    (hdelivered : delivered s = delivered s') (hremaining : remaining s' ≤ remaining s)
    (hbefore : ∀ held, ∃ held', held' % bufferSize = 0 ∧ bytesBeforeError held s = bytesBeforeError held' s') :
    Gathers bufferSize payload [] s s' where
  fits := by
    rw [List.append_nil]
    exact hle
  delivered := hdelivered
  remaining := hremaining
  before := fun held _ => hbefore held

/-- The frame is full. -/
theorem gathers_full {payload : Bytes} (hfull : payload.length = bufferSize) (s : Socket) :
    Gathers bufferSize payload [] s s where
  fits := by rw [List.append_nil, hfull]
  delivered := rfl
  remaining := Nat.le_refl _
  before := fun held hheld => ⟨held, by rw [hheld, hfull, Nat.mod_self], rfl⟩

/-- The loop goes on after a read. -/
theorem Took.gathers {payload bytes more : Bytes} {s s' s'' : Socket} (htook : Took bytes s s')
    (h : Gathers bufferSize (payload ++ bytes) more s' s'') : Gathers bufferSize payload (bytes ++ more) s s'' where
  fits := by
    rw [← List.append_assoc]
    exact h.fits
  delivered := by rw [htook.delivered, h.delivered, List.append_assoc]
  remaining := by
    have hremaining := h.remaining
    rw [htook.remaining]
    omega
  before := by
    intro held hheld
    rw [htook.before]
    apply h.before
    rw [List.length_append, Nat.add_mod, hheld, ← Nat.add_mod]

/-- **The loop.** It ends with more payload in the frame; or with an error, and what it had
is gone. -/
theorem fillFrame_spec {header payload : Bytes} (hheader : header.length = dataFrameHeaderLen)
    (hle : payload.length ≤ bufferSize) (s : Socket) :
    (∃ more s', fillFrame bufferSize (bufferWith bufferSize header payload) payload.length s =
        (.ok (bufferWith bufferSize header (payload ++ more), (payload ++ more).length), s') ∧
      Gathers bufferSize payload more s s') ∨
    (∃ e more s', fillFrame bufferSize (bufferWith bufferSize header payload) payload.length s =
        (.error e, s') ∧ (payload ++ more).length < bufferSize ∧
      ∀ held, bytesBeforeError held s = some (held + more.length)) := by
  have stop : ∀ {payload : Bytes} {s s' : Socket}, Gathers bufferSize payload [] s s' →
      ∃ more s'', ((.ok (bufferWith bufferSize header payload, payload.length), s') :
          Except Error (Bytes × Nat) × Socket) =
          (.ok (bufferWith bufferSize header (payload ++ more), (payload ++ more).length), s'') ∧
        Gathers bufferSize payload more s s'' :=
    fun hgathers => ⟨[], _, by rw [List.append_nil], hgathers⟩
  induction hroom : bufferSize - payload.length using Nat.strong_induction_on generalizing payload s with
  | _ room ih =>
    rw [fillFrame]
    by_cases hlt : payload.length < bufferSize
    · rw [if_pos hlt]
      cases s with
      | nil =>
        exact .inl (stop (gathers_nothing bufferSize hle rfl (Nat.le_refl _) fun _ => ⟨0, Nat.zero_mod _, rfl⟩))
      | cons event s =>
        cases event with
        | data bytes h =>
          have htook := took_data (bufferSize - payload.length) bytes h s
          cases htake : bytes.take (bufferSize - payload.length) with
          | nil =>
            rcases List.take_eq_nil_iff.mp htake with hzero | hnil
            · omega
            · exact absurd hnil h
          | cons b rest =>
            have hbytes : (b :: rest).length ≤ bufferSize - payload.length := by
              rw [← htake]
              exact List.length_take_le _ _
            have hpos : 0 < (b :: rest).length := Nat.succ_pos _
            rw [htake] at htook
            have hfits : payload.length + (b :: rest).length ≤ bufferSize := by omega
            simp only [tryRead, htake]
            rw [writeAt_bufferWith bufferSize _ _ hheader, ← List.length_append]
            rcases ih (bufferSize - (payload ++ b :: rest).length)
              (by rw [List.length_append]; omega) (by rw [List.length_append]; exact hfits)
              (dataFirst (bytes.drop (bufferSize - payload.length)) s) rfl with
              ⟨more, s', hfill, hgathers⟩ | ⟨e, more, s', hfill, hmore, hbefore⟩
            · rw [List.append_assoc] at hfill
              exact .inl ⟨b :: rest ++ more, s', hfill, htook.gathers bufferSize hgathers⟩
            · rw [List.append_assoc] at hmore
              refine .inr ⟨e, b :: rest ++ more, s', hfill, hmore, ?_⟩
              intro held
              rw [htook.before, hbefore, List.length_append, Nat.add_assoc]
        | wouldBlock =>
          exact .inl (stop (gathers_nothing bufferSize hle rfl (Nat.le_add_left _ _)
            fun _ => ⟨0, Nat.zero_mod _, rfl⟩))
        | endOfFile =>
          exact .inl (stop (gathers_nothing bufferSize hle rfl (Nat.le_refl _) fun _ => ⟨0, Nat.zero_mod _, rfl⟩))
        | error e =>
          refine .inr ⟨e, [], s, rfl, by rw [List.append_nil]; exact hlt, fun _ => rfl⟩
    · rw [if_neg hlt]
      exact .inl (stop (gathers_full bufferSize (by omega) s))

/-- **One call.** A frame takes its payload off the socket, at least a byte and at most a
buffer; or no frame comes, and there was no data; or there was, and an error came. -/
theorem readDataFrame_spec (streamId : StreamId) (hsize : 0 < bufferSize) (s : Socket) :
    (∃ payload s', readDataFrame bufferSize streamId s =
        some (.ok (some (encodeDataFrame streamId payload)), s') ∧
      1 ≤ payload.length ∧ payload.length ≤ bufferSize ∧ delivered s = payload ++ delivered s' ∧
      remaining s' < remaining s ∧
      ∀ held, held % bufferSize = 0 → ∃ held', held' % bufferSize = 0 ∧
        bytesBeforeError held s = bytesBeforeError held' s') ∨
    ((∀ frame s', readDataFrame bufferSize streamId s ≠ some (.ok (some frame), s')) ∧
      ((delivered s = [] ∧ ∀ held, held % bufferSize = 0 →
        ∀ n ∈ bytesBeforeError held s, n % bufferSize = 0) ∨
      (delivered s ≠ [] ∧ ∀ held, held % bufferSize = 0 →
        ∃ n ∈ bytesBeforeError held s, n % bufferSize ≠ 0))) := by
  have hheader : (toBeBytes 8 streamId).length = dataFrameHeaderLen := length_toBeBytes 8 streamId
  rcases read_spec hsize s with ⟨b, bytes, s', hread, hle, hdelivered, hremaining, hbefore⟩ |
    ⟨hnone, hread, hbefore⟩
  · have hpos : 1 ≤ (b :: bytes).length := Nat.succ_pos _
    have hbuffer : writeAt (newDataFrameBuffer streamId bufferSize) dataFrameHeaderLen (b :: bytes) =
        bufferWith bufferSize (toBeBytes 8 streamId) (b :: bytes) := by
      rw [newDataFrameBuffer_eq]
      exact writeAt_bufferWith bufferSize [] _ hheader
    unfold readDataFrame
    simp only [hread, hbuffer]
    rcases fillFrame_spec bufferSize hheader hle s' with
      ⟨more, s'', hfill, hgathers⟩ | ⟨e, more, s'', hfill, hmore, hbefore'⟩
    · have hremaining' := hgathers.remaining
      refine .inl ⟨b :: bytes ++ more, s'', ?_, ?_, hgathers.fits, ?_, by omega, ?_⟩
      · simp only [hfill, take_bufferWith bufferSize hheader]
        rfl
      · rw [List.length_append]
        omega
      · rw [hdelivered, hgathers.delivered, List.append_assoc]
      · intro held hheld
        obtain ⟨held₁, hmod, heq⟩ := hbefore held hheld
        obtain ⟨held₂, hmod', heq'⟩ := hgathers.before held₁ hmod
        exact ⟨held₂, hmod', heq.trans heq'⟩
    · refine .inr ⟨?_, .inr ⟨by rw [hdelivered]; simp, ?_⟩⟩
      · intro frame s₁ hframe
        rw [hfill] at hframe
        cases hframe
      intro held hheld
      obtain ⟨held₁, hmod, heq⟩ := hbefore held hheld
      refine ⟨held₁ + more.length, by rw [heq, hbefore']; rfl, ?_⟩
      rw [Nat.add_mod, hmod, ← Nat.add_mod, ← List.length_append, Nat.mod_eq_of_lt hmore]
      rw [List.length_append]
      omega
  · refine .inr ⟨?_, .inl ⟨hnone, hbefore⟩⟩
    intro frame s' hframe
    unfold readDataFrame at hframe
    split at hframe
    · cases hframe
    · cases hframe
    · cases hframe
    · rename_i b bytes s'' hdata
      exact hread b bytes s'' hdata

/-! ### Repeated calls -/

theorem remaining_readDataFrame {streamId : StreamId} {s s' : Socket} {frame : Bytes}
    (h : readDataFrame bufferSize streamId s = some (.ok (some frame), s')) :
    remaining s' < remaining s := by
  by_cases hsize : 0 < bufferSize
  · rcases readDataFrame_spec bufferSize streamId hsize s with
      ⟨payload, s'', hframe, _, _, _, hremaining, _⟩ | ⟨hnone, _⟩
    · rw [hframe] at h
      cases h
      exact hremaining
    · exact absurd h (hnone frame s')
  · obtain rfl : bufferSize = 0 := Nat.eq_zero_of_not_pos hsize
    unfold readDataFrame at h
    split at h
    · cases h
    · cases h
    · cases h
    · rename_i b bytes s'' hread
      exact absurd hread (read_zero s b bytes s'')

/-- A plain call: a frame for each read. -/
def readPlainFrame (streamId : StreamId) (s : Socket) : Option (Except Error (Option Bytes) × Socket) :=
  match read bufferSize s with
  | none => none
  | some (.error e, s) => some (.error e, s)
  | some (.ok [], s) => some (.ok none, s)
  | some (.ok (b :: bytes), s) => some (.ok (some (encodeDataFrame streamId (b :: bytes))), s)

theorem readPlainFrame_eq_frame {streamId : StreamId} {s s' : Socket} {frame : Bytes}
    (h : readPlainFrame bufferSize streamId s = some (.ok (some frame), s')) :
    ∃ b bytes, frame = encodeDataFrame streamId (b :: bytes) ∧
      read bufferSize s = some (.ok (b :: bytes), s') := by
  unfold readPlainFrame at h
  split at h
  · cases h
  · cases h
  · cases h
  · rename_i b bytes s'' hread
    cases h
    exact ⟨b, bytes, rfl, hread⟩

theorem remaining_readPlainFrame {streamId : StreamId} {s s' : Socket} {frame : Bytes}
    (h : readPlainFrame bufferSize streamId s = some (.ok (some frame), s')) :
    remaining s' < remaining s := by
  obtain ⟨b, bytes, _, hread⟩ := readPlainFrame_eq_frame bufferSize h
  by_cases hsize : 0 < bufferSize
  · rcases read_spec hsize s with ⟨b', bytes', s'', hread', _, _, hremaining, _⟩ | ⟨_, hnone, _⟩
    · rw [hread'] at hread
      cases hread
      rw [List.length_cons] at hremaining
      omega
    · exact absurd hread (hnone b bytes s')
  · obtain rfl : bufferSize = 0 := Nat.eq_zero_of_not_pos hsize
    exact absurd hread (read_zero s b bytes s')

end Reader

/-- A reader of frames. A frame takes something off the socket. -/
structure FrameReader where
  call : Socket → Option (Except Error (Option Bytes) × Socket)
  progress : ∀ {s s' frame}, call s = some (.ok (some frame), s') → remaining s' < remaining s

namespace FrameReader

/-- The frames of one call after another, until no frame comes: at the end of the file,
after an error, or where the call waits. -/
def frames (R : FrameReader) (s : Socket) : List Bytes :=
  match _h : R.call s with
  | some (.ok (some frame), s') => frame :: R.frames s'
  | _ => []
termination_by remaining s
decreasing_by exact R.progress _h

def payloads (R : FrameReader) (s : Socket) : Bytes :=
  ((R.frames s).map (·.drop dataFrameHeaderLen)).flatten

theorem drop_encodeDataFrame (streamId : StreamId) (payload : Bytes) :
    (encodeDataFrame streamId payload).drop dataFrameHeaderLen = payload :=
  List.drop_left' (length_toBeBytes 8 streamId)

theorem frames_of_frame {R : FrameReader} {s s' : Socket} {frame : Bytes}
    (h : R.call s = some (.ok (some frame), s')) : R.frames s = frame :: R.frames s' := by
  rw [frames]
  split
  · rename_i frame' s'' hframe
    rw [h] at hframe
    cases hframe
    rfl
  · rename_i hnone
    exact absurd h (hnone frame s')

theorem frames_of_none {R : FrameReader} {s : Socket}
    (h : ∀ frame s', R.call s ≠ some (.ok (some frame), s')) : R.frames s = [] := by
  rw [frames]
  split
  · rename_i frame s' hframe
    exact absurd hframe (h frame s')
  · rfl

theorem payloads_of_frame {R : FrameReader} {s s' : Socket} {streamId : StreamId} {payload : Bytes}
    (h : R.call s = some (.ok (some (encodeDataFrame streamId payload)), s')) :
    R.payloads s = payload ++ R.payloads s' := by
  unfold payloads
  rw [frames_of_frame h, List.map_cons, List.flatten_cons, drop_encodeDataFrame]

theorem payloads_of_none {R : FrameReader} {s : Socket}
    (h : ∀ frame s', R.call s ≠ some (.ok (some frame), s')) : R.payloads s = [] := by
  unfold payloads
  rw [frames_of_none h]
  rfl

def coalescing (bufferSize : Nat) (streamId : StreamId) : FrameReader :=
  ⟨readDataFrame bufferSize streamId, remaining_readDataFrame bufferSize⟩

def plain (bufferSize : Nat) (streamId : StreamId) : FrameReader :=
  ⟨readPlainFrame bufferSize streamId, remaining_readPlainFrame bufferSize⟩

/-- The reader of the access. -/
def ofLocal (streamId : StreamId) : FrameReader :=
  ⟨readLocalFrame streamId, remaining_readDataFrame tcpBufferSize⟩

/-- The reader of the gateway. -/
def ofTarget (streamId : StreamId) : FrameReader :=
  ⟨readTargetFrame streamId, remaining_readDataFrame targetBufferSize⟩

variable {bufferSize : Nat} (hsize : 0 < bufferSize) (streamId : StreamId)
include hsize

/-- The plain reader delivers what the socket does. -/
theorem payloads_plain (s : Socket) : (plain bufferSize streamId).payloads s = delivered s := by
  induction hn : remaining s using Nat.strong_induction_on generalizing s with
  | _ n ih =>
    rcases read_spec hsize s with ⟨b, bytes, s', hread, _, hdelivered, hremaining, _⟩ | ⟨hnone, hread, _⟩
    · have hcall : (plain bufferSize streamId).call s =
          some (.ok (some (encodeDataFrame streamId (b :: bytes))), s') := by
        simp only [plain, readPlainFrame, hread]
      rw [List.length_cons] at hremaining
      rw [payloads_of_frame hcall, ih (remaining s') (by omega) s' rfl, hdelivered]
    · rw [hnone]
      refine payloads_of_none fun frame s' hframe => ?_
      obtain ⟨b, bytes, _, hdata⟩ := readPlainFrame_eq_frame bufferSize hframe
      exact hread b bytes s' hdata

end FrameReader

/-! ### What the frames carry -/

/-- A frame of the stream with between one byte and a buffer of payload. -/
def Sized (bufferSize : Nat) (streamId : StreamId) (frame : Bytes) : Prop :=
  ∃ payload, frame = encodeDataFrame streamId payload ∧ 1 ≤ payload.length ∧ payload.length ≤ bufferSize

/-- What holds from any point at which the data since the last `WouldBlock` fills whole
frames. -/
theorem payloads_coalescing {bufferSize : Nat} (hsize : 0 < bufferSize) (streamId : StreamId) (s : Socket)
    {held : Nat} (hheld : held % bufferSize = 0) :
    ((FrameReader.coalescing bufferSize streamId).payloads s = delivered s ↔
      ∀ n ∈ bytesBeforeError held s, n % bufferSize = 0) ∧
    ∀ frame ∈ (FrameReader.coalescing bufferSize streamId).frames s, Sized bufferSize streamId frame := by
  induction hn : remaining s using Nat.strong_induction_on generalizing s held with
  | _ n ih =>
    rcases readDataFrame_spec bufferSize streamId hsize s with
      ⟨payload, s', hframe, hpos, hle, hdelivered, hremaining, hbefore⟩ | ⟨hnone, hdone⟩
    · obtain ⟨held', hheld', heq⟩ := hbefore held hheld
      obtain ⟨hiff, hsized⟩ := ih (remaining s') (by omega) s' hheld' rfl
      have hcall : (FrameReader.coalescing bufferSize streamId).call s =
          some (.ok (some (encodeDataFrame streamId payload)), s') := hframe
      constructor
      · rw [heq, ← hiff, hdelivered, FrameReader.payloads_of_frame hcall]
        exact List.append_right_inj payload
      · rw [FrameReader.frames_of_frame hcall]
        exact List.forall_mem_cons.mpr ⟨⟨payload, rfl, hpos, hle⟩, hsized⟩
    · rw [FrameReader.payloads_of_none hnone, FrameReader.frames_of_none hnone]
      refine ⟨?_, fun _ h => (by cases h)⟩
      rcases hdone with ⟨hempty, hbefore⟩ | ⟨hsome, hbefore⟩
      · exact ⟨fun _ => hbefore held hheld, fun _ => hempty.symm⟩
      · obtain ⟨m, hm, hmod⟩ := hbefore held hheld
        exact ⟨fun h => absurd h.symm hsome, fun h => absurd (h m hm) hmod⟩

/-- What is asked of a reader: its frames carry what the socket delivered before the end
of the file or the first error, as the frames of a plain reader do, and none is empty or
larger than a buffer. -/
def FrameReader.Faithful (R : FrameReader) (streamId : StreamId) (s : Socket) : Prop :=
  R.payloads s = delivered s ∧
    R.payloads s = (FrameReader.plain (64 * 1024) streamId).payloads s ∧
      ∀ frame ∈ R.frames s, Sized (64 * 1024) streamId frame

/-- The condition: the data between the last `WouldBlock` and the first error fills whole
buffers. -/
def ErrorAtBoundary (s : Socket) : Prop := ∀ n ∈ bytesBeforeError 0 s, n % (64 * 1024) = 0

theorem coalescing_faithful_iff (streamId : StreamId) (s : Socket) :
    (FrameReader.coalescing (64 * 1024) streamId).Faithful streamId s ↔ ErrorAtBoundary s := by
  have hsize : 0 < 64 * 1024 := by decide
  obtain ⟨hiff, hsized⟩ := payloads_coalescing hsize streamId s (Nat.zero_mod _)
  unfold FrameReader.Faithful ErrorAtBoundary
  rw [FrameReader.payloads_plain hsize streamId s, ← hiff]
  exact ⟨fun h => h.1, fun h => ⟨h, h, hsized⟩⟩

/-- **The coalescing readers.** In both programs, whatever the socket does: the frames
carry exactly what it delivers, exactly where the data in front of the first error fills
whole buffers, or no error comes. -/
theorem readDataFrame_faithful_iff (streamId : StreamId) (s : Socket) :
    ((FrameReader.ofLocal streamId).Faithful streamId s ↔ ErrorAtBoundary s) ∧
      ((FrameReader.ofTarget streamId).Faithful streamId s ↔ ErrorAtBoundary s) :=
  ⟨coalescing_faithful_iff streamId s, coalescing_faithful_iff streamId s⟩

/-- A byte, and an error behind it: the byte is lost. -/
theorem not_readDataFrame_faithful : ¬ ∀ (streamId : StreamId) (s : Socket),
    (FrameReader.ofLocal streamId).Faithful streamId s ∧
      (FrameReader.ofTarget streamId).Faithful streamId s := by
  intro h
  have hfaithful := h 1 [.data [104] (by decide), .error (.other "connection reset by peer")]
  have hboundary := (coalescing_faithful_iff 1 _).mp hfaithful.1
  exact absurd (hboundary 1 rfl) (by decide)

end WsNet.Relay
