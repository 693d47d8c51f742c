import WsNet.Access.SessionInvariant

/-! A session with its tunnel.

`session` says what becomes of the streams. Here the loop of `run_gateway_session` is put
around it: the writer encrypts a message before the sink takes it, what the socket gives
is decrypted and decoded, and each way in which the loop returns is a `SessionEnd`. With
a frame comes a log of what the gateway has sealed so far, which may be anything.

`TunnelMove` lists the steps, `Ends` those that end the session and by what cause. -/
namespace WsNet.Access
open Crypto Data Transition

/-! ### Ends of a session -/

/-- How the loop returns. -/
inductive SessionEnd where
  | identity (error : GatewayError)
  | stopped (reason : String)
  | reconnect
  /-- Nothing was received for too long. -/
  | heartbeat
  /-- The socket has ended or failed. -/
  | transport (text : String)
  | undecryptable
  | malformed (text : String)
  /-- An error that the gateway sends for the session, or a message that only an access sends. -/
  | refused (error : Error)
  /-- The writer could not encrypt a message. -/
  | unsealed (error : Error)
  /-- The wait for a stream's channel has reached its limit. -/
  | elapsed
  deriving DecidableEq

/-- The reason with which the connection is closed. -/
def SessionEnd.reason : SessionEnd → String
  | identity error => error.message
  | stopped text | transport text | malformed text => text
  | reconnect => (GatewayError.network "已请求重新连接网关").text
  | heartbeat => (GatewayError.network "网关隧道接收超时").text
  | undecryptable => "网关隧道数据解密失败"
  | refused error | unsealed error => error.text
  | elapsed => "deadline has elapsed"

def SessionPhase.running : SessionPhase → Bool
  | draining | offline => false
  | _ => true

/-! ### Frames -/

/-- What the socket gives. -/
inductive Incoming where
  | frame (frame : WsMessage)
  | failed
  | closed

/-- What a frame carries. -/
inductive Carried where
  | message (message : Message)
  | data (id : StreamId) (payload : Bytes)

section Frames
variable [Aead]

def decryptGatewayFrame (log : SealLog) (cipher : TunnelCipher) :
    WsMessage → Except Error (TunnelFrameKind × Bytes) × TunnelCipher
  | .binary bytes => cipher.decryptFromGateway log bytes
  | _ => (.error (.other "收到不合法的未加密网关消息"), cipher)

variable [MessageCodec]

/-- What was decrypted, read as its kind says. -/
def readDecrypted (kind : TunnelFrameKind) (bytes : Bytes) : Except SessionEnd Carried :=
  match kind with
  | .text => do
    let text ← orError (textOf bytes) (.malformed "加密消息不是有效 UTF-8 文本")
    let message ← orError (decodeMessage text) (.malformed "网关加密消息格式错误")
    return .message message
  | .binary =>
    let frameLen := bytes.length
    match decodeDataFrame bytes with
    | some (id, payload) => .ok (.data id payload)
    | none => .error (.malformed s!"收到非法网关数据帧：长度={frameLen}")

/-- `handle_gateway_frame`, up to what the frame does to the streams. -/
def openGatewayFrame (log : SealLog) (cipher : TunnelCipher) (frame : WsMessage) :
    Except SessionEnd Carried × TunnelCipher :=
  match frame with
  | .ping _ | .pong _ => (.error (.malformed "收到未加密的隧道控制帧，已拒绝"), cipher)
  | .close _ => (.error (.transport (GatewayError.network "网关隧道已关闭").text), cipher)
  | frame =>
    let (decrypted, cipher) := decryptGatewayFrame log cipher frame
    match decrypted with
    | .ok (kind, bytes) => (readDecrypted kind bytes, cipher)
    | .error _ => (.error .undecryptable, cipher)

end Frames

/-! ### The loop -/

structure TunnelSession where
  state : SessionState
  cipher : TunnelCipher
  reconnectRequested : Bool := false
  /-- How the last session ended. -/
  ended : Option SessionEnd := none

inductive TunnelSessionOp where
  /-- A step of a handler, the end of a wait of the session task, or a step between sessions. -/
  | run (op : SessionOp)
  /-- The handshake has given the session its keys. -/
  | connect (accessKey gatewayKey : Bytes)
  /-- A step of the writer; at a message or a flush the sink may fail. -/
  | writer (op : WriterOp) (failed : Bool)
  | reconnectNow
  /-- The heartbeat ticks, and nothing was received for too long or something was. -/
  | tick (idle : Bool)
  | receive (log : SealLog) (incoming : Incoming)
  /-- The wait for a stream's channel reaches its limit. -/
  | elapsed
  /-- A caller that has found the connection closed asks for another session. -/
  | requestReconnect
  /-- The connection is stopped from outside, for good or with its identity. -/
  | stop (reason : String)
  | stopIdentity (error : GatewayError)

/-- The steps of the session that belong to the loop. -/
def SessionOp.ofLoop : SessionOp → Bool
  | .writer _ | .heartbeat | .message _ | .data _ _ | .lost _ | .connect => true
  | _ => false

namespace TunnelSession
section Steps
variable [MessageCodec]

def run (op : SessionOp) (s : TunnelSession) : Option TunnelSession :=
  (session.step op s.state).map fun state => { s with state }

/-- The loop returns. -/
def finish (cause : SessionEnd) (s : TunnelSession) : Option TunnelSession :=
  (session.step (.lost cause.reason) s.state).map fun state =>
    { s with state, ended := some cause }

/-- A branch of the `select!`. -/
def branch (f : TunnelSession → Option TunnelSession) (s : TunnelSession) : Option TunnelSession :=
  if s.state.phase = .select then f s else none

def connect (accessKey gatewayKey : Bytes) (s : TunnelSession) : Option TunnelSession :=
  (session.step .connect s.state).map fun state =>
    { state, cipher := .ofKeys accessKey gatewayKey }

/-- The sink takes a message or is flushed, unless it fails. -/
def sink (op : WriterOp) (failed : Bool) (text : String) (s : TunnelSession) : Option TunnelSession :=
  if failed then s.finish (.transport text) else s.run (.writer op)

def reconnectNow (s : TunnelSession) : Option TunnelSession :=
  if s.state.connection.stopped then
    s.finish (.stopped (GatewayError.network "网关连接已停止").text)
  else if s.reconnectRequested then s.finish .reconnect
  else some s

def tick (idle : Bool) (s : TunnelSession) : Option TunnelSession :=
  if idle then s.finish .heartbeat else s.run .heartbeat

def elapsed (s : TunnelSession) : Option TunnelSession :=
  match s.state.phase with
  | .delivering _ _ => s.finish .elapsed
  | _ => none

def requestReconnect (s : TunnelSession) : TunnelSession :=
  if s.state.connection.stopped = false ∧ s.state.connection.identity = none then
    { s with reconnectRequested := true }
  else s

/-- The connection's flags are set from outside. A session that runs is dropped wherever
it waits. -/
def halt (connection : GatewayConnection) (cause : SessionEnd) (s : TunnelSession) :
    Option TunnelSession :=
  let s := { s with state := { s.state with connection } }
  if s.state.phase.running then s.finish cause else some s

def stop (reason : String) (s : TunnelSession) : Option TunnelSession :=
  s.halt { s.state.connection with stopped := true } (.stopped reason)

/-- The first error stays. -/
def stopIdentity (error : GatewayError) (s : TunnelSession) : Option TunnelSession :=
  if s.state.connection.identity.isSome then some s
  else s.halt { s.state.connection with identity := some error, stopped := true } (.identity error)

variable [Aead]

/-- A message is encrypted before the sink takes it. -/
def writer (op : WriterOp) (failed : Bool) (s : TunnelSession) : Option TunnelSession :=
  match op, s.state.writer.phase with
  | .feed, .writing (message :: _) =>
    match encryptAccessMessage s.cipher message with
    | .ok (_, cipher) => { s with cipher }.sink .feed failed "写入网关隧道失败"
    | .error error => s.finish (.unsealed error)
  | .flushed, .writing [] => s.sink .flushed failed "发送网关隧道数据失败"
  | op, _ => s.run (.writer op)

/-- How a message ends the session, if it does. -/
def refusal (message : Message) (s : SessionState) : Option SessionEnd :=
  match s.connection.handleGatewayMessage message with
  | .failed error _ _ => some (.refused error)
  | _ => none

def receive (log : SealLog) (incoming : Incoming) (s : TunnelSession) : Option TunnelSession :=
  match incoming with
  | .closed => s.finish (.transport (GatewayError.network "网关隧道已关闭").text)
  | .failed => s.finish (.transport "读取网关隧道失败")
  | .frame frame =>
    let (carried, cipher) := openGatewayFrame log s.cipher frame
    match carried with
    | .error cause => { s with cipher }.finish cause
    | .ok (.message m) => { s with cipher, ended := refusal m s.state }.run (.message m)
    | .ok (.data id payload) => { s with cipher }.run (.data id payload)

end Steps
end TunnelSession

section Machine
variable [MessageCodec] [Aead]

/-- The connection before its first session. -/
def TunnelSession.start : TunnelSession where
  state := .start
  cipher := .ofKeys [] []

def tunnelSession : Machine TunnelSession TunnelSessionOp where
  Initial := fun s => s = .start
  step
    | .run op, s => if op.ofLoop then none else s.run op
    | .connect accessKey gatewayKey, s => s.connect accessKey gatewayKey
    | .writer op failed, s => s.branch (·.writer op failed)
    | .reconnectNow, s => s.branch (·.reconnectNow)
    | .tick idle, s => s.branch (·.tick idle)
    | .receive log incoming, s => s.branch (·.receive log incoming)
    | .elapsed, s => s.elapsed
    | .requestReconnect, s => some s.requestReconnect
    | .stop reason, s => s.stop reason
    | .stopIdentity error, s => s.stopIdentity error

end Machine

/-! ### What a step does -/

/-- The flags that are set from outside, and what ends the session with them. -/
inductive Halts (c : GatewayConnection) : TunnelSessionOp → GatewayConnection → SessionEnd → Prop where
  | stop {reason : String} : Halts c (.stop reason) { c with stopped := true } (.stopped reason)
  | stopIdentity {error : GatewayError} :
    Halts c (.stopIdentity error) { c with identity := some error, stopped := true } (.identity error)

section Moves
variable [MessageCodec] [Aead] {op : TunnelSessionOp} {s t : TunnelSession}

/-- The steps with which the loop returns. -/
inductive Ends (s : TunnelSession) : TunnelSessionOp → SessionEnd → Prop where
  | unsealed {failed : Bool} {message : WsMessage} {batch : List WsMessage} {error : Error}
    (hp : s.state.writer.phase = .writing (message :: batch))
    (he : encryptAccessMessage s.cipher message = .error error) :
    Ends s (.writer .feed failed) (.unsealed error)
  | unfed {text : String} {message : WsMessage} {batch : List WsMessage} {r : WsMessage × TunnelCipher}
    (hp : s.state.writer.phase = .writing (message :: batch))
    (he : encryptAccessMessage s.cipher message = .ok r) : Ends s (.writer .feed true) (.transport text)
  | unflushed {text : String} : Ends s (.writer .flushed true) (.transport text)
  | stopped {reason : String} (hstopped : s.state.connection.stopped = true) :
    Ends s .reconnectNow (.stopped reason)
  | reconnect (hstopped : s.state.connection.stopped = false) (hr : s.reconnectRequested = true) :
    Ends s .reconnectNow .reconnect
  | heartbeat : Ends s (.tick true) .heartbeat
  | closed {log : SealLog} {text : String} : Ends s (.receive log .closed) (.transport text)
  | failed {log : SealLog} {text : String} : Ends s (.receive log .failed) (.transport text)
  | unopened {log : SealLog} {frame : WsMessage} {cause : SessionEnd} {cipher : TunnelCipher}
    (ho : openGatewayFrame log s.cipher frame = (.error cause, cipher)) :
    Ends s (.receive log (.frame frame)) cause
  | elapsed {id : StreamId} {payload : Bytes} (hp : s.state.phase = .delivering id payload) :
    Ends s .elapsed .elapsed

/-- The steps of a session with its tunnel, by the step that the session takes in each. -/
inductive TunnelMove (s : TunnelSession) : TunnelSessionOp → TunnelSession → Prop where
  | ran {o : SessionOp} {state : SessionState} (ho : o.ofLoop = false)
    (hs : session.step o s.state = some state) : TunnelMove s (.run o) { s with state }
  | connected {accessKey gatewayKey : Bytes} {state : SessionState}
    (hs : session.step .connect s.state = some state) :
    TunnelMove s (.connect accessKey gatewayKey) { state, cipher := .ofKeys accessKey gatewayKey }
  | fed {failed : Bool} {message frame : WsMessage} {batch : List WsMessage} {cipher : TunnelCipher}
    {state : SessionState} (hp : s.state.writer.phase = .writing (message :: batch))
    (he : encryptAccessMessage s.cipher message = .ok (frame, cipher))
    (hs : session.step (.writer .feed) s.state = some state) :
    TunnelMove s (.writer .feed failed) { s with state, cipher }
  | wrote {o : WriterOp} {failed : Bool} {state : SessionState}
    (hp : ∀ message batch, o = .feed → s.state.writer.phase ≠ .writing (message :: batch))
    (hs : session.step (.writer o) s.state = some state) : TunnelMove s (.writer o failed) { s with state }
  | woken (hr : s.state.connection.stopped = false → s.reconnectRequested = false) :
    TunnelMove s .reconnectNow s
  | ticked {state : SessionState} (hs : session.step .heartbeat s.state = some state) :
    TunnelMove s (.tick false) { s with state }
  | message {log : SealLog} {frame : WsMessage} {m : Message} {cipher : TunnelCipher} {state : SessionState}
    (ho : openGatewayFrame log s.cipher frame = (.ok (.message m), cipher))
    (hs : session.step (.message m) s.state = some state) :
    TunnelMove s (.receive log (.frame frame))
      { s with state, cipher, ended := TunnelSession.refusal m s.state }
  | data {log : SealLog} {frame : WsMessage} {id : StreamId} {payload : Bytes} {cipher : TunnelCipher}
    {state : SessionState} (ho : openGatewayFrame log s.cipher frame = (.ok (.data id payload), cipher))
    (hs : session.step (.data id payload) s.state = some state) :
    TunnelMove s (.receive log (.frame frame)) { s with state, cipher }
  | requested : TunnelMove s .requestReconnect s.requestReconnect
  /-- The identity has an error already. -/
  | blocked {error : GatewayError} : TunnelMove s (.stopIdentity error) s
  | flagged {op : TunnelSessionOp} {connection : GatewayConnection} {cause : SessionEnd}
    (hhalts : Halts s.state.connection op connection cause) (hrun : s.state.phase.running = false) :
    TunnelMove s op { s with state := { s.state with connection } }
  | halted {op : TunnelSessionOp} {connection : GatewayConnection} {cause : SessionEnd} {state : SessionState}
    (hhalts : Halts s.state.connection op connection cause)
    (hs : session.step (.lost cause.reason) { s.state with connection } = some state) :
    TunnelMove s op { s with state, ended := some cause }
  | ended {op : TunnelSessionOp} {cause : SessionEnd} {cipher : TunnelCipher} {state : SessionState}
    (hends : Ends s op cause) (hs : session.step (.lost cause.reason) s.state = some state) :
    TunnelMove s op { s with state, cipher, ended := some cause }

/-- The loop returns as one of the listed steps says. -/
theorem move_of_finish {cause : SessionEnd} {cipher : TunnelCipher} (hends : Ends s op cause)
    (h : { s with cipher }.finish cause = some t) : TunnelMove s op t := by
  obtain ⟨state, hs, rfl⟩ := Option.map_eq_some_iff.mp h
  exact .ended hends hs

theorem move_of_writer {o : WriterOp} {failed : Bool} (h : s.writer o failed = some t) :
    TunnelMove s (.writer o failed) t := by
  unfold TunnelSession.writer at h
  split at h
  · rename_i message batch hp
    split at h
    · rename_i frame cipher he
      cases failed with
      | true => exact move_of_finish (.unfed hp he) h
      | false =>
        obtain ⟨state, hs, rfl⟩ := Option.map_eq_some_iff.mp h
        exact .fed hp he hs
    · rename_i error he
      exact move_of_finish (.unsealed hp he) h
  · cases failed with
    | true => exact move_of_finish .unflushed h
    | false =>
      obtain ⟨state, hs, rfl⟩ := Option.map_eq_some_iff.mp h
      exact .wrote (fun _ _ ho => by cases ho) hs
  · rename_i hfeed _
    obtain ⟨state, hs, rfl⟩ := Option.map_eq_some_iff.mp h
    exact .wrote (fun message batch ho hp => hfeed message batch ho hp) hs

theorem move_of_reconnectNow (h : s.reconnectNow = some t) : TunnelMove s .reconnectNow t := by
  unfold TunnelSession.reconnectNow at h
  split at h
  · rename_i hstopped
    exact move_of_finish (.stopped hstopped) h
  · rename_i hstopped
    rw [Bool.not_eq_true] at hstopped
    split at h
    · rename_i hr
      exact move_of_finish (.reconnect hstopped hr) h
    · rename_i hr
      cases h
      exact .woken fun _ => Bool.eq_false_iff.mpr hr

theorem move_of_receive {log : SealLog} {incoming : Incoming} (h : s.receive log incoming = some t) :
    TunnelMove s (.receive log incoming) t := by
  cases incoming with
  | closed => exact move_of_finish .closed h
  | failed => exact move_of_finish .failed h
  | frame frame =>
    cases ho : openGatewayFrame log s.cipher frame with
    | mk carried cipher =>
      simp only [TunnelSession.receive, ho] at h
      split at h
      · exact move_of_finish (.unopened ho) h
      · obtain ⟨state, hs, rfl⟩ := Option.map_eq_some_iff.mp h
        exact .message ho hs
      · obtain ⟨state, hs, rfl⟩ := Option.map_eq_some_iff.mp h
        exact .data ho hs

theorem move_of_halt {connection : GatewayConnection} {cause : SessionEnd}
    (hhalts : Halts s.state.connection op connection cause) (h : s.halt connection cause = some t) :
    TunnelMove s op t := by
  simp only [TunnelSession.halt] at h
  split at h
  · obtain ⟨state, hs, rfl⟩ := Option.map_eq_some_iff.mp h
    exact .halted hhalts hs
  · rename_i hrun
    cases h
    exact .flagged hhalts (by simpa using hrun)

/-- **What a step does.** -/
theorem tunnelMove_of_step (hs : tunnelSession.step op s = some t) : TunnelMove s op t := by
  cases op with
  | run o =>
    simp only [tunnelSession, Option.ite_none_left_eq_some] at hs
    obtain ⟨ho, h⟩ := hs
    obtain ⟨state, hs, rfl⟩ := Option.map_eq_some_iff.mp h
    exact .ran (by simpa using ho) hs
  | connect accessKey gatewayKey =>
    obtain ⟨state, hstep, rfl⟩ := Option.map_eq_some_iff.mp hs
    exact .connected hstep
  | writer o failed =>
    simp only [tunnelSession, TunnelSession.branch, Option.ite_none_right_eq_some] at hs
    exact move_of_writer hs.2
  | reconnectNow =>
    simp only [tunnelSession, TunnelSession.branch, Option.ite_none_right_eq_some] at hs
    exact move_of_reconnectNow hs.2
  | tick idle =>
    simp only [tunnelSession, TunnelSession.branch, Option.ite_none_right_eq_some] at hs
    obtain ⟨_, h⟩ := hs
    cases idle with
    | true => exact move_of_finish .heartbeat h
    | false =>
      obtain ⟨state, hs, rfl⟩ := Option.map_eq_some_iff.mp h
      exact .ticked hs
  | receive log incoming =>
    simp only [tunnelSession, TunnelSession.branch, Option.ite_none_right_eq_some] at hs
    exact move_of_receive hs.2
  | elapsed =>
    simp only [tunnelSession, TunnelSession.elapsed] at hs
    split at hs
    · rename_i id payload hp
      exact move_of_finish (.elapsed hp) hs
    · cases hs
  | requestReconnect =>
    cases hs
    exact .requested
  | stop reason => exact move_of_halt .stop hs
  | stopIdentity error =>
    simp only [tunnelSession, TunnelSession.stopIdentity] at hs
    split at hs
    · cases hs
      exact .blocked
    · exact move_of_halt .stopIdentity hs

omit [MessageCodec] [Aead] in
/-- The flags that are set from outside concern no stream. -/
theorem consistent_halts {connection : GatewayConnection} {cause : SessionEnd} {state : SessionState}
    (h : Consistent state) (hhalts : Halts state.connection op connection cause) :
    Consistent { state with connection } := by
  have hfewer : state.connection.Fewer connection := by
    cases hhalts <;>
      exact ⟨rfl, Finset.Subset.refl _, Finset.Subset.refl _, Finset.Subset.refl _, Finset.Subset.refl _⟩
  exact h.of_serves (.connection_le hfewer) ⟨h.session, h.channels⟩

/-- **The parties stay consistent** in a session with its tunnel. -/
theorem tunnelSession_consistent (h : Consistent s.state) (hs : tunnelSession.step op s = some t) :
    Consistent t.state := by
  cases tunnelMove_of_step hs with
  | ran _ hstep | connected hstep | fed _ _ hstep | wrote _ hstep | ticked hstep | message _ hstep
  | data _ hstep | ended _ hstep => exact consistent_step h hstep
  | woken | blocked => exact h
  | requested =>
    unfold TunnelSession.requestReconnect
    split <;> exact h
  | flagged hhalts => exact consistent_halts h hhalts
  | halted hhalts hstep => exact consistent_step (consistent_halts h hhalts) hstep

end Moves

end WsNet.Access
