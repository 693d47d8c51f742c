import Mathlib.Data.Finset.Union
import WsNet.Data.HashMap
import WsNet.Common.Config
import WsNet.Common.Identifiers
import WsNet.Common.Message

/-! The gateway's session registry and the authorization of targets.

All state sits behind one lock, so each locked region is one function on
`Runtime`. A session's cancellation signal is kept with the session: the lease
that shares it removes the session when it is dropped, so while a lease exists
its signal is the one in the map. -/
namespace WsNet.Gateway
open Data

structure Credential where
  token : String
  name : String
  single : Bool
  rules : List AccessRule
  deriving DecidableEq, Repr

abbrev Credentials := HashMap String Credential

structure SessionInfo where
  credential : String
  instanceId : String
  order : Nat
  signal : Option GatewayError
  deriving DecidableEq, Repr

structure Runtime where
  config : GatewayConfig
  credentials : Credentials
  sessions : HashMap String SessionInfo
  orders : HashMap (String × String) Nat
  retired : Finset (String × String)
  nextOrder : Nat

structure SessionLease where
  id : String
  userName : Option String
  credential : String
  deriving DecidableEq, Repr

def forbidden (target : TargetConfig) : GatewayError :=
  ⟨"FORBIDDEN", s!"无权访问 {target.host}:{target.port}"⟩

/-! ### Credentials -/

section Credentials
variable [NetLiterals] [Ring]

def userCredentials (auth : GatewayAuth) : Credentials → List GatewayUser → Except Error Credentials
  | table, [] => .ok table
  | table, user :: rest => do
    let rules ← user.rules
    ensure (table.lookup (credentialId user.token) = none) (.other "凭证选择标识冲突")
    userCredentials auth (table.insert (credentialId user.token)
      ⟨user.token, user.name, user.isSingleAccess auth, rules⟩) rest

/-- The one credential of a gateway without users. -/
def sharedCredential (auth : GatewayAuth) : Credential :=
  ⟨auth.accessToken, "共享 Token", false, [.any]⟩

def credentials (config : GatewayConfig) : Except Error Credentials := do
  config.validate
  if config.auth.enabled then userCredentials config.auth ∅ config.users
  else return (AList.insert (credentialId config.auth.accessToken) (sharedCredential config.auth) ∅)

end Credentials

/-! ### Signals -/

namespace SessionInfo

/-- Not cancelled: the signal is unset. -/
def Live (session : SessionInfo) : Prop := session.signal = none

instance (session : SessionInfo) : Decidable session.Live :=
  inferInstanceAs (Decidable (session.signal = none))

end SessionInfo

namespace Runtime

/-- The cancellation signal of a session. -/
def signal (runtime : Runtime) (id : String) : Option GatewayError :=
  (runtime.sessions.lookup id).bind SessionInfo.signal

/-- `SessionLease::check`. -/
def check (runtime : Runtime) (lease : SessionLease) : Except Error Unit :=
  match runtime.signal lease.id with
  | some error => .error (.gateway error)
  | none => .ok ()

/-! ### Registration -/

/-- Retire the credential's other instances and cancel their sessions. -/
def takeover (id instanceId : String) (runtime : Runtime) : Runtime :=
  { runtime with
    retired := runtime.retired ∪
      (runtime.orders.keys.filter fun key => key.1 = id ∧ key.2 ≠ instanceId).toFinset
    sessions := runtime.sessions.mapValues fun session =>
      if session.credential = id ∧ session.instanceId ≠ instanceId then
        { session with signal := some .replaced }
      else session }

/-- The order of an instance: the one it was given, or the next. -/
def assignOrder (key : String × String) (runtime : Runtime) : Nat × Runtime :=
  match runtime.orders.lookup key with
  | some order => (order, runtime)
  | none =>
    (runtime.nextOrder + 1,
      { runtime with
        nextOrder := runtime.nextOrder + 1
        orders := runtime.orders.insert key (runtime.nextOrder + 1) })

/-- A new session of an instance, not cancelled. -/
def enroll (sessionId id instanceId : String) (runtime : Runtime) : Runtime :=
  let (order, runtime) := runtime.assignOrder (id, instanceId)
  { runtime with sessions := runtime.sessions.insert sessionId ⟨id, instanceId, order, none⟩ }

end Runtime

namespace AppState
variable [NetLiterals] [Ring]

def new (config : GatewayConfig) : Except Error Runtime := do
  let table ← credentials config
  return { config, credentials := table, sessions := ∅, orders := ∅, retired := ∅, nextOrder := 0 }

def bootstrapTokens (gatewayId : String) (userId : Option String) (runtime : Runtime) :
    Except Error (String × Option String) := do
  ensure (credentialId runtime.config.auth.accessToken = gatewayId) (.gateway ⟨"UNAUTHORIZED",
    "未认证：网关鉴权失败，gateway Token 无效或已撤销，连接已拒绝，已停止自动重连。"⟩)
  if runtime.config.auth.enabled then
    let credential ← orError (runtime.credentials.lookup (userId.getD "")) (.gateway ⟨"UNAUTHORIZED",
      "未认证：用户鉴权失败，user_token 未配置、无效或已被撤销，连接已拒绝，已停止自动重连。"⟩)
    return (runtime.config.auth.accessToken, some credential.token)
  else return (runtime.config.auth.accessToken, none)

/-- The token that identifies the user: its own, or the shared one without users. -/
def submittedToken (auth : GatewayAuth) (gatewayToken : String) (userToken : Option String) :
    Except Error String :=
  if auth.enabled then orError userToken (.gateway .unauthorized) else .ok gatewayToken

/-- Register a session under the random identifier drawn for it. -/
def register (sessionId gatewayToken : String) (userToken : Option String) (instanceId : String)
    (legacy : Bool) (runtime : Runtime) : Except Error (Runtime × SessionLease × String) := do
  ensure (¬ (gatewayToken ≠ runtime.config.auth.accessToken ∨ (legacy ∧ runtime.config.auth.enabled)))
    (.gateway .unauthorized)
  let token ← submittedToken runtime.config.auth gatewayToken userToken
  let id := credentialId token
  let credential ← orError ((runtime.credentials.lookup id).filter (·.token = token))
    (.gateway .unauthorized)
  ensure (validId instanceId) (.gateway .unauthorized)
  ensure ((id, instanceId) ∉ runtime.retired) (.gateway .replaced)
  let taken := if credential.single then runtime.takeover id instanceId else runtime
  return (taken.enroll sessionId id instanceId,
    ⟨sessionId, if runtime.config.auth.enabled then some credential.name else none, id⟩,
    credential.name)

/-- `SessionLease::drop`. -/
def dropLease (id : String) (runtime : Runtime) : Runtime :=
  { runtime with sessions := runtime.sessions.erase id }

end AppState

/-! ### Reload -/

/-- The latest instance of each credential that the next table makes single-access. -/
abbrev Winners := HashMap String (Nat × String)

/-- A live session of a credential that is single-access in the next table competes
for it; the latest order wins. -/
def recordWinner (next : Credentials) (winners : Winners) (session : SessionInfo) : Winners :=
  if session.signal = none ∧ ((next.lookup session.credential).any (·.single)) = true then
    match winners.lookup session.credential with
    | none => winners.insert session.credential (session.order, session.instanceId)
    | some winner =>
      if session.order > winner.1 then
        winners.insert session.credential (session.order, session.instanceId)
      else winners
  else winners

/-- Why a reload cancels a session, if it does. -/
def reloadError (gatewayChanged : Bool) (old next : Credentials) (winners : Winners)
    (session : SessionInfo) : Option GatewayError :=
  let replaced :=
    if (winners.lookup session.credential).any (·.2 ≠ session.instanceId) then
      some GatewayError.replaced
    else none
  if gatewayChanged then some .changed
  else
    match old.lookup session.credential, next.lookup session.credential with
    | _, none => some .changed
    | some old, some new =>
      if old.name ≠ new.name ∨ ¬ old.rules.all (fun rule => new.rules.any (·.covers rule)) then
        some .changed
      else replaced
    | none, some _ => replaced

namespace Runtime

def gatewayChanged (runtime : Runtime) (config : GatewayConfig) : Bool :=
  runtime.config.auth.accessToken != config.auth.accessToken

def winners (runtime : Runtime) (gatewayChanged : Bool) (next : Credentials) : Winners :=
  if gatewayChanged then ∅ else runtime.sessions.values.foldl (recordWinner next) ∅

/-- Instances that lose their credential to a winner. -/
def losers (orders : HashMap (String × String) Nat) (winners : Winners) : Finset (String × String) :=
  (orders.keys.filter fun key => (winners.lookup key.1).any (key.2 ≠ ·.2)).toFinset

/-- A signal that is set keeps its error. -/
def cancel (error : Option GatewayError) (session : SessionInfo) : SessionInfo :=
  if session.signal = none then { session with signal := error } else session

/-- The registry under a new configuration and its credentials. -/
def reconfigure (config : GatewayConfig) (next : Credentials) (runtime : Runtime) : Runtime :=
  let changed := runtime.gatewayChanged config
  -- both tokens have changed identity: the old histories cannot block a new pair
  let orders := if changed then ∅ else runtime.orders
  let retired := if changed then ∅ else runtime.retired
  let winners := runtime.winners changed next
  { runtime with
    config := config
    credentials := next
    orders := orders
    retired := retired ∪ losers orders winners
    sessions := runtime.sessions.mapValues fun session =>
      cancel (reloadError changed runtime.credentials next winners session) session }

end Runtime

def AppState.reload [NetLiterals] [Ring] (config : GatewayConfig) (runtime : Runtime) :
    Except Error Runtime := do
  let next ← credentials config
  ensure (runtime.config.gateway = config.gateway)
    (.other "listen 或 path 已修改，需要重启 gateway；本次重载未生效")
  return runtime.reconfigure config next

/-! ### Authorization of a target

`authorize_target` holds the lock twice, before and after the host is resolved; the
lookup of a host name is awaited between the two. -/

/-- The host without its brackets. -/
def trimBrackets (host : String) : String :=
  String.ofList (((host.toList.dropWhile (· = '[')).reverse.dropWhile (· = ']')).reverse)

/-- The addresses of a literal, or the name to look up. -/
inductive Resolution where
  | literal (addresses : List SocketAddr)
  | lookup (host : String)
  deriving DecidableEq, Repr

namespace AppState

/-- The checks before the host is resolved. -/
def authorizeEntry (lease : SessionLease) (target : TargetConfig) (runtime : Runtime) :
    Except Error Unit := do
  runtime.check lease
  ensure (target.port ≠ 0) (.other "目标端口必须为 1～65535")
  let credential ← orError (runtime.credentials.lookup lease.credential) (.gateway .unauthorized)
  ensure (credential.rules ≠ []) (.gateway (forbidden target))

def resolveHost [NetLiterals] (target : TargetConfig) : Except Error Resolution :=
  let host := trimBrackets target.host
  match NetLiterals.parseIp host with
  | some ip => .ok (.literal [⟨ip, target.port⟩])
  | none =>
    if host = "" ∨ ¬ host.toList.all (fun c => isAsciiAlphanumeric c || c == '-' || c == '.') then
      .error (.other "目标主机地址格式错误")
    else .ok (.lookup host)

/-- `SessionLease::run` around the lookup: a cancelled session does not see the answer. -/
def awaitLookup (lease : SessionLease) (answer : Except Error (List SocketAddr)) (runtime : Runtime) :
    Except Error (List SocketAddr) := do
  runtime.check lease
  answer

/-- The second locked region: the addresses that the rules in force allow. -/
def authorizeAddresses (lease : SessionLease) (target : TargetConfig) (addresses : List SocketAddr)
    (runtime : Runtime) : Except Error (List SocketAddr) := do
  runtime.check lease
  let credential ← orError (runtime.credentials.lookup lease.credential) (.gateway .unauthorized)
  let allowed := addresses.filter fun address => credential.rules.any (·.allows address)
  ensure (allowed ≠ []) (.gateway (forbidden target))
  return allowed

end AppState

end WsNet.Gateway
