import WsNet.Common.Text
import WsNet.Data.BigEndian
import WsNet.Data.Codec

/-! The messages of the tunnel and the data frames between them.

Text messages travel as JSON: the codec is a parameter that reads back what it
wrote (`MessageCodec`). Data frames are the stream's identifier, big-endian, and
the payload. -/
namespace WsNet
open Data

abbrev StreamId := Nat

inductive Mode where
  | tcp
  | http
  deriving DecidableEq, Repr

structure TargetConfig where
  mode : Mode
  host : String
  port : UInt16
  scheme : Option String
  acceptInvalidCerts : Bool
  rewriteLocation : Bool
  rewriteCookie : Bool
  deriving DecidableEq, Repr

structure HttpRequestPayload where
  method : String
  pathAndQuery : String
  headers : List (String × String)
  body : Bytes
  deriving DecidableEq, Repr

structure HttpRequestHead where
  method : String
  pathAndQuery : String
  headers : List (String × String)
  deriving DecidableEq, Repr

structure HttpResponsePayload where
  status : UInt16
  headers : List (String × String)
  body : Bytes
  deriving DecidableEq, Repr

structure HttpResponseHead where
  status : UInt16
  headers : List (String × String)
  deriving DecidableEq, Repr

inductive Message where
  | registerAccessV4 (instanceId : String) (clientPublicKey : Bytes)
  | registerOkV4 (gatewayPublicKey : Bytes) (userName : String) (userAuth : Bool)
  | registerAccessV3 (instanceId : String) (clientPublicKey : Bytes)
  | registerOkV3 (gatewayPublicKey : Bytes) (userName : String)
  | registerAccess (token : String) (clientPublicKey : Bytes)
  | registerOk (gatewayPublicKey : Bytes)
  | open (streamId : StreamId) (target : String) (config : TargetConfig)
  | openOk (streamId : StreamId)
  | close (streamId : StreamId) (reason : String)
  | tcpEof (streamId : StreamId)
  | error (streamId : Option StreamId) (code message : String)
  | httpRequest (streamId : StreamId) (target : String) (config : TargetConfig) (request : HttpRequestPayload)
  | httpRequestStart (streamId : StreamId) (target : String) (config : TargetConfig) (request : HttpRequestHead)
  | httpRequestEnd (streamId : StreamId)
  | httpResponse (streamId : StreamId) (response : HttpResponsePayload)
  | httpResponseStart (streamId : StreamId) (response : HttpResponseHead)
  | httpResponseEnd (streamId : StreamId)
  | ping
  | pong
  deriving DecidableEq, Repr

/-- `encode_message` and `decode_message`: JSON text that reads back. -/
class MessageCodec where
  encodeMessage : Message → String
  decodeMessage : String → Option Message
  decode_encode : ∀ m, decodeMessage (encodeMessage m) = some m

export MessageCodec (encodeMessage decodeMessage)

theorem encodeMessage_inj [MessageCodec] {a b : Message} (h : encodeMessage a = encodeMessage b) :
    a = b := by
  have hd := congrArg decodeMessage h
  rw [MessageCodec.decode_encode, MessageCodec.decode_encode] at hd
  exact Option.some.inj hd

/-! ### A codec to run -/

/-- The kinds of a message's fields. -/
abbrev Field := Nat ⊕ String ⊕ Bytes ⊕ List (String × String)

namespace Field

def number (n : Nat) : Field := .inl n
def text (s : String) : Field := .inr (.inl s)
def bytes (b : Bytes) : Field := .inr (.inr (.inl b))
def headers (h : List (String × String)) : Field := .inr (.inr (.inr h))
def flag (b : Bool) : Field := number b.toNat

def codec : Codec Field :=
  .sum .nat (.sum .string (.sum (.list (.map .nat UInt8.ofNat UInt8.toNat fun _ => UInt8.ofNat_toNat))
    (.list (.pair .string .string))))

end Field

def TargetConfig.fields (c : TargetConfig) : List Field :=
  [.number (match c.mode with | .tcp => 0 | .http => 1), .text c.host, .number c.port.toNat,
    match c.scheme with | none => .number 0 | some scheme => .text scheme,
    .flag c.acceptInvalidCerts, .flag c.rewriteLocation, .flag c.rewriteCookie]

def TargetConfig.ofFields : List Field → Option TargetConfig
  | [.inl mode, .inr (.inl host), .inl port, scheme, .inl invalid, .inl location, .inl cookie] =>
    some ⟨if mode = 0 then .tcp else .http, host, UInt16.ofNat port,
      match scheme with | .inr (.inl scheme) => some scheme | _ => none,
      invalid == 1, location == 1, cookie == 1⟩
  | _ => none

theorem TargetConfig.ofFields_fields (c : TargetConfig) : ofFields c.fields = some c := by
  obtain ⟨mode, host, port, scheme, invalid, location, cookie⟩ := c
  cases mode <;> cases scheme <;> cases invalid <;> cases location <;> cases cookie <;>
    simp [ofFields, fields, Field.number, Field.text, Field.flag]

namespace Message

/-- The number of the variant, and its fields. -/
def fields : Message → Nat × List Field
  | .registerAccessV4 i k => (0, [.text i, .bytes k])
  | .registerOkV4 k u a => (1, [.bytes k, .text u, .flag a])
  | .registerAccessV3 i k => (2, [.text i, .bytes k])
  | .registerOkV3 k u => (3, [.bytes k, .text u])
  | .registerAccess t k => (4, [.text t, .bytes k])
  | .registerOk k => (5, [.bytes k])
  | .open s t c => (6, .number s :: .text t :: c.fields)
  | .openOk s => (7, [.number s])
  | .close s r => (8, [.number s, .text r])
  | .tcpEof s => (9, [.number s])
  | .error none c m => (10, [.text c, .text m])
  | .error (some s) c m => (10, [.text c, .text m, .number s])
  | .httpRequest s t c r => (11, .number s :: .text t :: .text r.method :: .text r.pathAndQuery ::
      .headers r.headers :: .bytes r.body :: c.fields)
  | .httpRequestStart s t c r => (12, .number s :: .text t :: .text r.method ::
      .text r.pathAndQuery :: .headers r.headers :: c.fields)
  | .httpRequestEnd s => (13, [.number s])
  | .httpResponse s r => (14, [.number s, .number r.status.toNat, .headers r.headers, .bytes r.body])
  | .httpResponseStart s r => (15, [.number s, .number r.status.toNat, .headers r.headers])
  | .httpResponseEnd s => (16, [.number s])
  | .ping => (17, [])
  | .pong => (18, [])

def ofFields : Nat × List Field → Option Message
  | (0, [.inr (.inl i), .inr (.inr (.inl k))]) => some (.registerAccessV4 i k)
  | (1, [.inr (.inr (.inl k)), .inr (.inl u), .inl a]) => some (.registerOkV4 k u (a == 1))
  | (2, [.inr (.inl i), .inr (.inr (.inl k))]) => some (.registerAccessV3 i k)
  | (3, [.inr (.inr (.inl k)), .inr (.inl u)]) => some (.registerOkV3 k u)
  | (4, [.inr (.inl t), .inr (.inr (.inl k))]) => some (.registerAccess t k)
  | (5, [.inr (.inr (.inl k))]) => some (.registerOk k)
  | (6, .inl s :: .inr (.inl t) :: c) => (TargetConfig.ofFields c).map (.open s t)
  | (7, [.inl s]) => some (.openOk s)
  | (8, [.inl s, .inr (.inl r)]) => some (.close s r)
  | (9, [.inl s]) => some (.tcpEof s)
  | (10, [.inr (.inl c), .inr (.inl m)]) => some (.error none c m)
  | (10, [.inr (.inl c), .inr (.inl m), .inl s]) => some (.error (some s) c m)
  | (11, .inl s :: .inr (.inl t) :: .inr (.inl method) :: .inr (.inl path) ::
      .inr (.inr (.inr headers)) :: .inr (.inr (.inl body)) :: c) =>
    (TargetConfig.ofFields c).map fun c => .httpRequest s t c ⟨method, path, headers, body⟩
  | (12, .inl s :: .inr (.inl t) :: .inr (.inl method) :: .inr (.inl path) ::
      .inr (.inr (.inr headers)) :: c) =>
    (TargetConfig.ofFields c).map fun c => .httpRequestStart s t c ⟨method, path, headers⟩
  | (13, [.inl s]) => some (.httpRequestEnd s)
  | (14, [.inl s, .inl status, .inr (.inr (.inr headers)), .inr (.inr (.inl body))]) =>
    some (.httpResponse s ⟨UInt16.ofNat status, headers, body⟩)
  | (15, [.inl s, .inl status, .inr (.inr (.inr headers))]) =>
    some (.httpResponseStart s ⟨UInt16.ofNat status, headers⟩)
  | (16, [.inl s]) => some (.httpResponseEnd s)
  | (17, []) => some .ping
  | (18, []) => some .pong
  | _ => none

theorem ofFields_fields (m : Message) : ofFields m.fields = some m := by
  cases m with
  | registerOkV4 k u a => cases a <;> rfl
  | error s c m => cases s <;> rfl
  | «open» s t c =>
    show (TargetConfig.ofFields c.fields).map (Message.open s t) = some (.open s t c)
    rw [TargetConfig.ofFields_fields, Option.map_some]
  | httpRequest s t c r =>
    obtain ⟨method, path, headers, body⟩ := r
    show (TargetConfig.ofFields c.fields).map (fun c => Message.httpRequest s t c _) = _
    rw [TargetConfig.ofFields_fields, Option.map_some]
  | httpRequestStart s t c r =>
    obtain ⟨method, path, headers⟩ := r
    show (TargetConfig.ofFields c.fields).map (fun c => Message.httpRequestStart s t c _) = _
    rw [TargetConfig.ofFields_fields, Option.map_some]
  | httpResponse s r =>
    obtain ⟨status, headers, body⟩ := r
    show some (Message.httpResponse s ⟨UInt16.ofNat status.toNat, _, _⟩) = _
    rw [UInt16.ofNat_toNat]
  | httpResponseStart s r =>
    obtain ⟨status, headers⟩ := r
    show some (Message.httpResponseStart s ⟨UInt16.ofNat status.toNat, _⟩) = _
    rw [UInt16.ofNat_toNat]
  | _ => rfl

def codec : Codec (Nat × List Field) := .pair .nat (.list Field.codec)

end Message

/-- The fields one after the other: enough to run the program on messages. -/
@[reducible] def MessageCodec.plain : MessageCodec where
  encodeMessage m := String.ofList (Message.codec.write m.fields)
  decodeMessage text := (Message.codec.readAll text.toList).bind Message.ofFields
  decode_encode m := by
    rw [String.toList_ofList, Codec.readAll_write, Option.bind_some, Message.ofFields_fields]

/-! ### Data frames -/

def dataFrameHeaderLen : Nat := 8

def encodeDataFrame (streamId : StreamId) (bytes : Bytes) : Bytes := toBeBytes 8 streamId ++ bytes

def decodeDataFrame (frame : Bytes) : Option (StreamId × Bytes) :=
  if frame.length < dataFrameHeaderLen then none
  else some (ofBeBytes (frame.take dataFrameHeaderLen), frame.drop dataFrameHeaderLen)

/-- The current frame with the payload of the next, when both are frames of one
stream and the merged payload is within the limit. -/
def tryMergeDataFrames (current next : Bytes) (maxPayloadSize : Nat) : Option Bytes :=
  if current.length < dataFrameHeaderLen ∨ next.length < dataFrameHeaderLen then none
  else if current.take dataFrameHeaderLen ≠ next.take dataFrameHeaderLen then none
  else if current.length - dataFrameHeaderLen + (next.length - dataFrameHeaderLen) > maxPayloadSize then none
  else some (current ++ next.drop dataFrameHeaderLen)

/-- A stream's identifier is a 64-bit number: its frames read back. -/
theorem decodeDataFrame_encode (streamId : StreamId) (bytes : Bytes) (h : streamId < 2 ^ 64) :
    decodeDataFrame (encodeDataFrame streamId bytes) = some (streamId, bytes) := by
  have hlen : (toBeBytes 8 streamId).length = dataFrameHeaderLen := length_toBeBytes 8 streamId
  have hnot : ¬ (encodeDataFrame streamId bytes).length < dataFrameHeaderLen := by
    simp only [encodeDataFrame, List.length_append, hlen]
    omega
  unfold decodeDataFrame
  rw [if_neg hnot]
  simp only [encodeDataFrame]
  rw [List.take_left' hlen, List.drop_left' hlen, ofBeBytes_toBeBytes 8 streamId (by simpa using h)]

/-- **A merge keeps the stream** and puts the payloads one after the other. -/
theorem decodeDataFrame_merge {current next merged : Bytes} {maxPayloadSize : Nat}
    (h : tryMergeDataFrames current next maxPayloadSize = some merged) :
    ∃ id a b, decodeDataFrame current = some (id, a) ∧ decodeDataFrame next = some (id, b) ∧
      decodeDataFrame merged = some (id, a ++ b) := by
  simp only [tryMergeDataFrames, Option.ite_none_left_eq_some, not_or, Nat.not_lt, not_not] at h
  obtain ⟨⟨hc, hn⟩, hsame, _, h⟩ := h
  cases h
  have hm : ¬ (current ++ next.drop dataFrameHeaderLen).length < dataFrameHeaderLen := by
    rw [List.length_append]
    omega
  refine ⟨ofBeBytes (current.take dataFrameHeaderLen), current.drop dataFrameHeaderLen,
    next.drop dataFrameHeaderLen, if_neg (by omega), ?_, ?_⟩
  · rw [decodeDataFrame, if_neg (by omega), hsame]
  · rw [decodeDataFrame, if_neg hm, List.take_append_of_le_length hc, List.drop_append_of_le_length hc]

end WsNet
