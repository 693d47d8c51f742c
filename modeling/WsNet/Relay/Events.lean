import WsNet.Common.WriterLoop

/-! What the messages of a shared queue mean to one stream.

Messages of many streams pass through one queue, one writer and one cipher. To a
stream, a message is a list of events: its start, a byte of its data, its end, its
close, or nothing. A writer joins data frames, which changes the messages and not the
events. -/
namespace WsNet.Relay
open Data

inductive StreamEvent where
  /-- Open or HttpRequestStart; from the gateway, OpenOk. -/
  | start (mode : Mode)
  | byte (b : UInt8)
  | eof
  | close
  deriving DecidableEq, Repr

namespace StreamEvent

def isStart : StreamEvent → Bool
  | start _ => true
  | _ => false

/-- No data comes after it. -/
def ends : StreamEvent → Bool
  | eof | close => true
  | _ => false

/-- Data, or the end of it. -/
def carries : StreamEvent → Bool
  | byte _ | eof => true
  | _ => false

def data : StreamEvent → Option UInt8
  | byte b => some b
  | _ => none

end StreamEvent

/-! ### Lists of events -/

/-- The data in a list of events. -/
def payload (l : List StreamEvent) : Bytes := l.filterMap StreamEvent.data

def dataEvents (bytes : Bytes) : List StreamEvent := bytes.map .byte

/-- No data follows an end. -/
def Ordered (l : List StreamEvent) : Prop := l.Pairwise fun x y => x.ends = true → y.carries = false

/-- Only the first event may be a start. -/
def StartsFirst (l : List StreamEvent) : Prop := l.Pairwise fun _ y => y.isStart = false

def HasStart (l : List StreamEvent) : Prop := ∃ x ∈ l, x.isStart = true

def HasEnd (l : List StreamEvent) : Prop := ∃ x ∈ l, x.ends = true

@[simp] theorem payload_nil : payload [] = [] := rfl

@[simp] theorem payload_append (l m : List StreamEvent) : payload (l ++ m) = payload l ++ payload m :=
  List.filterMap_append

@[simp] theorem payload_dataEvents (bytes : Bytes) : payload (dataEvents bytes) = bytes := by
  induction bytes with
  | nil => rfl
  | cons b bytes ih => exact congrArg (b :: ·) ih

theorem payload_mono {l m : List StreamEvent} (h : l <+: m) : payload l <+: payload m := by
  obtain ⟨rest, rfl⟩ := h
  rw [payload_append]
  exact List.prefix_append _ _

theorem mem_dataEvents {bytes : Bytes} {x : StreamEvent} (h : x ∈ dataEvents bytes) :
    ∃ b, x = .byte b := by
  obtain ⟨b, _, rfl⟩ := List.mem_map.mp h
  exact ⟨b, rfl⟩

/-- Events without data. -/
theorem payload_eq_nil {l : List StreamEvent} (h : ∀ x ∈ l, x.carries = false) : payload l = [] := by
  rw [payload, List.filterMap_eq_nil_iff]
  intro x hx
  have hc := h x hx
  cases x with
  | byte b => cases hc
  | _ => rfl

theorem HasStart.mono {l m : List StreamEvent} (h : HasStart l) (hsub : ∀ x ∈ l, x ∈ m) : HasStart m := by
  obtain ⟨x, hx, hs⟩ := h
  exact ⟨x, hsub x hx, hs⟩

theorem HasEnd.mono {l m : List StreamEvent} (h : HasEnd l) (hsub : ∀ x ∈ l, x ∈ m) : HasEnd m := by
  obtain ⟨x, hx, hs⟩ := h
  exact ⟨x, hsub x hx, hs⟩

theorem hasStart_append {l m : List StreamEvent} : HasStart (l ++ m) ↔ HasStart l ∨ HasStart m := by
  simp only [HasStart, List.mem_append, or_and_right, exists_or]

theorem hasEnd_append {l m : List StreamEvent} : HasEnd (l ++ m) ↔ HasEnd l ∨ HasEnd m := by
  simp only [HasEnd, List.mem_append, or_and_right, exists_or]

theorem not_hasStart_nil : ¬ HasStart [] := by
  intro h
  obtain ⟨x, hx, _⟩ := h
  cases hx

theorem not_hasEnd_nil : ¬ HasEnd [] := by
  intro h
  obtain ⟨x, hx, _⟩ := h
  cases hx

theorem HasStart.of_pre {l m : List StreamEvent} (hl : HasStart l) (h : l <+: m) : HasStart m :=
  hl.mono h.subset

theorem Ordered.of_pre {l m : List StreamEvent} (hm : Ordered m) (h : l <+: m) : Ordered l :=
  hm.sublist h.sublist

/-- Nothing behind an end carries data. -/
theorem Ordered.no_more {l m : List StreamEvent} (ho : Ordered (l ++ m)) (he : HasEnd l) :
    ∀ y ∈ m, y.carries = false := by
  intro y hy
  obtain ⟨x, hx, hends⟩ := he
  exact (List.pairwise_append.mp ho).2.2 x hx y hy hends

/-- An event may follow if it carries nothing or nothing has ended. -/
theorem Ordered.append {l m : List StreamEvent} (hl : Ordered l) (hm : Ordered m)
    (h : HasEnd l → ∀ y ∈ m, y.carries = false) : Ordered (l ++ m) :=
  List.pairwise_append.mpr ⟨hl, hm, fun x hx _ hy hends => h ⟨x, hx, hends⟩ _ hy⟩

theorem ordered_dataEvents (bytes : Bytes) : Ordered (dataEvents bytes) := by
  apply List.pairwise_of_forall_mem_list
  intro x hx y _ hends
  obtain ⟨b, rfl⟩ := mem_dataEvents hx
  cases hends

/-- What comes before the start is nothing. -/
theorem StartsFirst.eq_nil {l m : List StreamEvent} (h : StartsFirst (l ++ m)) (hm : HasStart m) :
    l = [] := by
  obtain ⟨y, hy, hstart⟩ := hm
  cases l with
  | nil => rfl
  | cons x l =>
    have hnot := (List.pairwise_append.mp h).2.2 x List.mem_cons_self y hy
    rw [hstart] at hnot
    cases hnot

/-! ### Without the closes -/

/-- Starts, data and ends: what a handler decides and the session does not. -/
def flow (l : List StreamEvent) : List StreamEvent := l.filter (· ≠ .close)

@[simp] theorem flow_append (l m : List StreamEvent) : flow (l ++ m) = flow l ++ flow m :=
  List.filter_append ..

theorem flow_mono {l m : List StreamEvent} (h : l <+: m) : flow l <+: flow m := by
  obtain ⟨rest, rfl⟩ := h
  rw [flow_append]
  exact List.prefix_append _ _

theorem flow_eq_self {l : List StreamEvent} (h : .close ∉ l) : flow l = l := by
  rw [flow, List.filter_eq_self]
  intro x hx
  simp only [ne_eq, decide_eq_true_eq]
  rintro rfl
  exact h hx

theorem mem_flow {l : List StreamEvent} {x : StreamEvent} : x ∈ flow l ↔ x ∈ l ∧ x ≠ .close := by
  simp only [flow, List.mem_filter, ne_eq, decide_eq_true_eq]

@[simp] theorem payload_flow (l : List StreamEvent) : payload (flow l) = payload l := by
  rw [payload, flow, List.filterMap_filter, payload]
  congr 1
  funext x
  cases x <;> rfl

theorem hasStart_flow {l : List StreamEvent} : HasStart (flow l) ↔ HasStart l := by
  constructor
  · exact fun h => h.mono fun x hx => (mem_flow.mp hx).1
  · intro h
    obtain ⟨x, hx, hs⟩ := h
    refine ⟨x, mem_flow.mpr ⟨hx, ?_⟩, hs⟩
    rintro rfl
    cases hs

/-- A list that may start only at its front, cut behind its start. -/
theorem StartsFirst.suffix {l m : List StreamEvent} (h : StartsFirst m) (hl : l <:+ m)
    (hs : HasStart l) : l = m := by
  obtain ⟨before, rfl⟩ := hl
  rw [h.eq_nil hs, List.nil_append]

/-! ### The events of a message -/

def messageEvents (id : StreamId) : Message → List StreamEvent
  | .open i _ _ => if i = id then [.start .tcp] else []
  | .httpRequestStart i _ _ _ | .httpRequest i _ _ _ => if i = id then [.start .http] else []
  | .openOk i => if i = id then [.start .tcp] else []
  | .tcpEof i => if i = id then [.eof] else []
  | .close i _ => if i = id then [.close] else []
  | _ => []

theorem payload_messageEvents (id : StreamId) (m : Message) : payload (messageEvents id m) = [] := by
  unfold messageEvents
  split <;> first | rfl | (split <;> rfl)

def frameEvents (id : StreamId) (frame : Bytes) : List StreamEvent :=
  match decodeDataFrame frame with
  | some (i, bytes) => if i = id then dataEvents bytes else []
  | none => []

section Events
variable [MessageCodec]

/-- The events of what is sealed in a frame. -/
def sealedEvents (id : StreamId) : TunnelFrameKind × Bytes → List StreamEvent
  | (.text, bytes) => ((textOf bytes).bind decodeMessage).elim [] (messageEvents id)
  | (.binary, frame) => frameEvents id frame

/-- An end comes without data. -/
theorem payload_of_eof {id : StreamId} {m : TunnelFrameKind × Bytes} (h : .eof ∈ sealedEvents id m) :
    payload (sealedEvents id m) = [] := by
  obtain ⟨kind, bytes⟩ := m
  cases kind with
  | text =>
    simp only [sealedEvents]
    cases (textOf bytes).bind decodeMessage with
    | none => rfl
    | some m => exact payload_messageEvents id m
  | binary =>
    simp only [sealedEvents, frameEvents] at h
    split at h
    · split at h
      · obtain ⟨b, heq⟩ := mem_dataEvents h
        cases heq
      · cases h
    · cases h

def wsEvents (id : StreamId) (message : WsMessage) : List StreamEvent :=
  message.sealedAs.elim [] (sealedEvents id)

/-- The events of a stream in a list of messages. -/
def eventsIn (id : StreamId) (l : List WsMessage) : List StreamEvent := l.flatMap (wsEvents id)

@[simp] theorem wsEvents_text (id : StreamId) (message : Message) :
    wsEvents id (.text (encodeMessage message)) = messageEvents id message := by
  simp only [wsEvents, WsMessage.sealedAs, Option.elim_some, sealedEvents, textOf_bytesOf, Option.bind_some,
    MessageCodec.decode_encode]

@[simp] theorem wsEvents_binary (id : StreamId) (frame : Bytes) :
    wsEvents id (.binary frame) = frameEvents id frame := rfl

omit [MessageCodec] in
theorem frameEvents_encode {i : StreamId} (id : StreamId) (bytes : Bytes) (h : i < 2 ^ 64) :
    frameEvents id (encodeDataFrame i bytes) = if i = id then dataEvents bytes else [] := by
  rw [frameEvents, decodeDataFrame_encode i bytes h]

@[simp] theorem eventsIn_nil (id : StreamId) : eventsIn id [] = [] := rfl

@[simp] theorem eventsIn_append (id : StreamId) (l m : List WsMessage) :
    eventsIn id (l ++ m) = eventsIn id l ++ eventsIn id m := List.flatMap_append

@[simp] theorem eventsIn_cons (id : StreamId) (m : WsMessage) (l : List WsMessage) :
    eventsIn id (m :: l) = wsEvents id m ++ eventsIn id l := List.flatMap_cons

/-- What is not sealed means nothing to a stream. -/
theorem eventsIn_sealed (id : StreamId) (l : List WsMessage) :
    eventsIn id l = (l.filterMap WsMessage.sealedAs).flatMap (sealedEvents id) := by
  induction l with
  | nil => rfl
  | cons m l ih =>
    rw [eventsIn_cons, ih, wsEvents, List.filterMap_cons]
    cases m.sealedAs <;> rfl

theorem sealed_pre {l m : List (TunnelFrameKind × Bytes)} (id : StreamId) (h : l <+: m) :
    l.flatMap (sealedEvents id) <+: m.flatMap (sealedEvents id) := by
  obtain ⟨rest, rfl⟩ := h
  rw [List.flatMap_append]
  exact List.prefix_append _ _

/-- A joined frame means what its two parts mean. -/
theorem wsEvents_join (id : StreamId) (a b c : WsMessage) (h : JoinsFrames a b c) :
    wsEvents id c = wsEvents id a ++ wsEvents id b := by
  obtain ⟨current, next, merged, i, x, y, rfl, rfl, rfl, hx, hy, hxy⟩ := h
  simp only [wsEvents_binary, frameEvents, hx, hy, hxy]
  split
  · exact List.map_append
  · rfl

/-- **Merging changes no events.** -/
theorem eventsIn_merged (id : StreamId) {l m : List WsMessage} (h : Merged l m) :
    eventsIn id l = eventsIn id m := h.flatMap_eq (wsEvents_join id)

end Events

end WsNet.Relay
