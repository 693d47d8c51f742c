import WsNet.Common.Message
import WsNet.Common.TunnelCrypto

/-! WebSocket messages: what is queued for the writers, how a writer batches it
and how it is encrypted.

Both programs have the same writer over their own library's message type; it is
modelled once. -/
namespace WsNet
open Crypto

inductive WsMessage where
  | text (text : String)
  | binary (bytes : Bytes)
  | ping (bytes : Bytes)
  | pong (bytes : Bytes)
  | close (reason : Option (UInt16 × String))
  deriving DecidableEq, Repr

def WsMessage.isBinary : WsMessage → Bool
  | .binary _ => true
  | _ => false

/-- The kind and payload under which a message is encrypted. -/
def WsMessage.sealedAs : WsMessage → Option (TunnelFrameKind × Bytes)
  | .text s => some (.text, bytesOf s)
  | .binary bytes => some (.binary, bytes)
  | _ => none

/-! ### Batches -/

def wsWriteBatchMaxMessages : Nat := 64
def wsWriteBatchMaxBytes : Nat := 256 * 1024
def wsDataFrameMaxPayload : Nat := 64 * 1024

def wsMessageSize : WsMessage → Nat
  | .text text => (bytesOf text).length
  | .binary bytes | .ping bytes | .pong bytes => bytes.length
  | .close _ => 0

/-- The current message with the next merged into it. -/
def tryMergeWsBinary : WsMessage → WsMessage → Option WsMessage
  | .binary current, .binary next =>
    (tryMergeDataFrames current next wsDataFrameMaxPayload).map .binary
  | _, _ => none

inductive Pushed where
  /-- The batch with the message; whether it ends there. -/
  | pushed (stop : Bool) (batch : List WsMessage) (batchBytes : Nat)
  | deferred (next : WsMessage)

def pushWsMessage (batch : List WsMessage) (batchBytes : Nat) (next : WsMessage) : Pushed :=
  let nextBytes := wsMessageSize next
  match batch.getLast?.bind (tryMergeWsBinary · next) with
  | some merged =>
    .pushed false (batch.dropLast ++ [merged]) (batchBytes + (nextBytes - dataFrameHeaderLen))
  | none =>
    if batchBytes + nextBytes > wsWriteBatchMaxBytes then .deferred next
    else .pushed (!next.isBinary) (batch ++ [next]) (batchBytes + nextBytes)

/-- What holds of the messages and survives a merge holds of the batch with the next
message in it, and of a message that is deferred. -/
theorem pushWsMessage_forall {Q : WsMessage → Prop}
    (merge : ∀ a b c, tryMergeWsBinary a b = some c → Q a → Q b → Q c) {batch : List WsMessage}
    (batchBytes : Nat) {next : WsMessage} (hbatch : ∀ m ∈ batch, Q m) (hnext : Q next) :
    match pushWsMessage batch batchBytes next with
    | .pushed _ batch' _ => ∀ m ∈ batch', Q m
    | .deferred next' => Q next' := by
  unfold pushWsMessage
  cases hlast : batch.getLast?.bind (tryMergeWsBinary · next) with
  | some merged =>
    obtain ⟨current, hc, hm⟩ := Option.bind_eq_some_iff.mp hlast
    intro m hmem
    rcases List.mem_append.mp hmem with hmem | hmem
    · exact hbatch m (List.dropLast_subset _ hmem)
    · rw [List.mem_singleton] at hmem
      rw [hmem]
      exact merge current next merged hm (hbatch current (List.mem_of_getLast? hc)) hnext
  | none =>
    by_cases hbytes : batchBytes + wsMessageSize next > wsWriteBatchMaxBytes
    · simp only [hbytes, if_true]
      exact hnext
    · simp only [hbytes, if_false]
      intro m hmem
      rcases List.mem_append.mp hmem with hmem | hmem
      · exact hbatch m hmem
      · rw [List.mem_singleton] at hmem
        rw [hmem]
        exact hnext

/-- A batch taken off a queue. -/
structure Batch where
  messages : List WsMessage
  pending : Option WsMessage
  queue : List WsMessage

/-- The `try_recv` loop: until the batch is full, a message ends it or does not fit,
or the queue is empty. -/
def fillBatch (batch : List WsMessage) (batchBytes : Nat) : List WsMessage → Batch
  | [] => ⟨batch, none, []⟩
  | next :: queue =>
    if batch.length < wsWriteBatchMaxMessages then
      match pushWsMessage batch batchBytes next with
      | .pushed stop batch batchBytes =>
        if stop then ⟨batch, none, queue⟩ else fillBatch batch batchBytes queue
      | .deferred next => ⟨batch, some next, queue⟩
    else ⟨batch, none, next :: queue⟩

/-- The batch that starts with a message: only a binary one gathers more. -/
def takeBatch (first : WsMessage) (queue : List WsMessage) : Batch :=
  if first.isBinary then fillBatch [first] (wsMessageSize first) queue
  else ⟨[first], none, queue⟩

/-! ### Encryption -/

section Text
variable [MessageCodec]

/-- The text message in a decrypted frame. -/
def decodeText (kind : TunnelFrameKind) (bytes : Bytes) (notText : String) : Except Error Message := do
  ensure (kind = .text) (.other notText)
  let text ← orError (textOf bytes) (.other "invalid utf-8")
  orError (decodeMessage text) (.other "invalid message")

/-- What decodes is the text of a frame that the cipher accepts. -/
theorem decodeText_ok {kind : TunnelFrameKind} {bytes : Bytes} {notText : String} {message : Message}
    (h : decodeText kind bytes notText = .ok message) :
    kind = .text ∧ (textOf bytes).bind decodeMessage = some message := by
  obtain ⟨_, hkind, h⟩ := bind_eq_ok.mp h
  obtain ⟨text, htext, h⟩ := bind_eq_ok.mp h
  refine ⟨ensure_eq_ok.mp hkind, ?_⟩
  rw [orError_eq_ok.mp htext]
  exact orError_eq_ok.mp h

end Text

section Encryption
variable [Aead]

def encryptGatewayMessage (cipher : TunnelCipher) :
    WsMessage → Except Error (WsMessage × TunnelCipher)
  | .text text => do
    let (frame, cipher) ← cipher.encryptFromGateway .text (bytesOf text)
    return (.binary frame, cipher)
  | .binary bytes => do
    let (frame, cipher) ← cipher.encryptFromGateway .binary bytes
    return (.binary frame, cipher)
  | .close none => return (.close none, cipher)
  | .close (some _) => throw (.other "refusing to send a plaintext websocket close reason")
  | _ => throw (.other "refusing to send unencrypted websocket control message")

def encryptAccessMessage (cipher : TunnelCipher) :
    WsMessage → Except Error (WsMessage × TunnelCipher)
  | .text text => do
    let (frame, cipher) ← cipher.encryptFromAccess .text (bytesOf text)
    return (.binary frame, cipher)
  | .binary bytes => do
    let (frame, cipher) ← cipher.encryptFromAccess .binary bytes
    return (.binary frame, cipher)
  | .close none => return (.close none, cipher)
  | .close (some _) => throw (.other "拒绝发送明文隧道关闭原因")
  | _ => throw (.other "拒绝发送未加密的隧道控制消息")

omit [Aead] in
theorem binary_map (encrypted : Except Error (Bytes × TunnelCipher)) :
    (do let (frame, cipher) ← encrypted
        return (WsMessage.binary frame, cipher)) = encrypted.map fun r => (.binary r.1, r.2) := by
  cases encrypted <;> rfl

/-- Text and data are encrypted as frames. -/
theorem encryptGatewayMessage_sealed {message : WsMessage} {kind : TunnelFrameKind} {payload : Bytes}
    (h : message.sealedAs = some (kind, payload)) (cipher : TunnelCipher) :
    encryptGatewayMessage cipher message =
      (cipher.encryptFromGateway kind payload).map fun r => (.binary r.1, r.2) := by
  cases message <;> cases h <;> exact binary_map _

theorem encryptAccessMessage_sealed {message : WsMessage} {kind : TunnelFrameKind} {payload : Bytes}
    (h : message.sealedAs = some (kind, payload)) (cipher : TunnelCipher) :
    encryptAccessMessage cipher message =
      (cipher.encryptFromAccess kind payload).map fun r => (.binary r.1, r.2) := by
  cases message <;> cases h <;> exact binary_map _

/-- Text and data become a frame of the gateway's direction; nothing else passes but
a close without a reason. -/
theorem encryptGatewayMessage_ok {cipher cipher' : TunnelCipher} {message frame : WsMessage}
    (h : encryptGatewayMessage cipher message = .ok (frame, cipher')) :
    (∃ kind payload bytes direction, message.sealedAs = some (kind, payload) ∧
      cipher.gatewayToAccess.encrypt kind payload gatewayToAccess = .ok (bytes, direction) ∧
      frame = .binary bytes ∧ cipher' = { cipher with gatewayToAccess := direction }) ∨
    (message.sealedAs = none ∧ frame = .close none ∧ cipher' = cipher) := by
  have sealed : ∀ kind payload, message.sealedAs = some (kind, payload) →
      (do let (frame, cipher) ← cipher.encryptFromGateway kind payload
          return (WsMessage.binary frame, cipher)) = Except.ok (frame, cipher') →
      ∃ kind payload bytes direction, message.sealedAs = some (kind, payload) ∧
        cipher.gatewayToAccess.encrypt kind payload gatewayToAccess = .ok (bytes, direction) ∧
        frame = .binary bytes ∧ cipher' = { cipher with gatewayToAccess := direction } := by
    intro kind payload hs h
    obtain ⟨⟨bytes, c⟩, hc, h⟩ := bind_eq_ok.mp h
    obtain ⟨⟨bytes', direction⟩, hd, hc⟩ := bind_eq_ok.mp hc
    cases pure_eq_ok.mp hc
    cases pure_eq_ok.mp h
    exact ⟨kind, payload, bytes, direction, hs, hd, rfl, rfl⟩
  cases message with
  | text text => exact .inl (sealed .text (bytesOf text) rfl h)
  | binary bytes => exact .inl (sealed .binary bytes rfl h)
  | ping bytes => cases h
  | pong bytes => cases h
  | close reason =>
    cases reason with
    | none =>
      cases h
      exact .inr ⟨rfl, rfl, rfl⟩
    | some reason => cases h

/-- A text is encrypted if it fits and a sequence number is left. -/
theorem encryptGatewayMessage_text (cipher : TunnelCipher) (text : String) :
    (∃ r, encryptGatewayMessage cipher (.text text) = .ok r) ↔
      (bytesOf text).length ≤ maxPayloadLen ∧ cipher.gatewayToAccess.nextSendSequence + 1 < 2 ^ 64 := by
  constructor
  · rintro ⟨⟨frame, cipher'⟩, h⟩
    rcases encryptGatewayMessage_ok h with ⟨kind, payload, bytes, direction, hseal, hd, _, _⟩ | ⟨hseal, _, _⟩
    · cases hseal
      obtain ⟨hlen, hlt, _, _⟩ := DirectionCipher.encrypt_eq_ok.mp hd
      exact ⟨hlen, hlt⟩
    · cases hseal
  · rintro ⟨hlen, hlt⟩
    have hd : cipher.gatewayToAccess.encrypt .text (bytesOf text) gatewayToAccess = .ok (_, _) :=
      DirectionCipher.encrypt_eq_ok.mpr ⟨hlen, hlt, rfl, rfl⟩
    cases h : encryptGatewayMessage cipher (.text text) with
    | ok r => exact ⟨r, rfl⟩
    | error e =>
      simp only [encryptGatewayMessage, TunnelCipher.encryptFromGateway, hd] at h
      cases h

variable [MessageCodec]

def decodeAccessMessage (log : SealLog) (cipher : TunnelCipher) :
    WsMessage → Except Error Message × TunnelCipher
  | .binary bytes =>
    let (result, cipher) := cipher.decryptFromAccess log bytes
    (result >>= fun r => decodeText r.1 r.2 "expected encrypted websocket text message", cipher)
  | _ => (.error (.other "expected encrypted websocket binary message"), cipher)

def decodeGatewayMessage (log : SealLog) (cipher : TunnelCipher) :
    WsMessage → Except Error Message × TunnelCipher
  | .binary bytes =>
    let (result, cipher) := cipher.decryptFromGateway log bytes
    (result >>= fun r => decodeText r.1 r.2 "预期收到加密的网关文本消息", cipher)
  | _ => (.error (.other "收到不合法的未加密网关消息"), cipher)

theorem decodeAccessMessage_ok {log : SealLog} {cipher : TunnelCipher} {frame : WsMessage}
    {message : Message} (h : (decodeAccessMessage log cipher frame).1 = .ok message) :
    ∃ bytes payload, frame = .binary bytes ∧
      (cipher.decryptFromAccess log bytes).1 = .ok (.text, payload) ∧
      (textOf payload).bind decodeMessage = some message := by
  cases frame with
  | binary bytes =>
    obtain ⟨⟨kind, payload⟩, hd, h⟩ := bind_eq_ok.mp h
    obtain ⟨hkind, hm⟩ := decodeText_ok h
    have hkind' : kind = .text := hkind
    subst hkind'
    exact ⟨bytes, payload, rfl, hd, hm⟩
  | _ => cases h

/-- Receiving moves the receiving side of the cipher only. -/
theorem decodeAccessMessage_gateway (log : SealLog) (cipher : TunnelCipher) (frame : WsMessage) :
    (decodeAccessMessage log cipher frame).2.gatewayToAccess = cipher.gatewayToAccess := by
  cases frame <;> rfl

theorem decodeGatewayMessage_ok {log : SealLog} {cipher : TunnelCipher} {frame : WsMessage}
    {message : Message} (h : (decodeGatewayMessage log cipher frame).1 = .ok message) :
    ∃ bytes payload, frame = .binary bytes ∧
      (cipher.decryptFromGateway log bytes).1 = .ok (.text, payload) ∧
      (textOf payload).bind decodeMessage = some message := by
  cases frame with
  | binary bytes =>
    obtain ⟨⟨kind, payload⟩, hd, h⟩ := bind_eq_ok.mp h
    obtain ⟨hkind, hm⟩ := decodeText_ok h
    have hkind' : kind = .text := hkind
    subst hkind'
    exact ⟨bytes, payload, rfl, hd, hm⟩
  | _ => cases h

end Encryption

end WsNet
