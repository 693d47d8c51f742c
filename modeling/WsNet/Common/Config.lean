import WsNet.Common.Text
import WsNet.Common.Error

/-! The gateway's configuration: users, access rules and their validation.

Addresses are read by the standard library's parsers, which the configuration
takes as they are (`NetLiterals`). -/
namespace WsNet

/-! ### Addresses -/

inductive IpAddr where
  | v4 (address : BitVec 32)
  | v6 (address : BitVec 128)
  deriving DecidableEq, Repr

structure SocketAddr where
  ip : IpAddr
  port : UInt16
  deriving DecidableEq, Repr

/-- `str::parse` at `IpAddr` and at `SocketAddr`. -/
class NetLiterals where
  parseIp : String → Option IpAddr
  parseSocket : String → Option SocketAddr

namespace NetLiterals

/-- A decimal octet: one to three digits, no leading zero. -/
def parseOctet (digits : List Char) : Option Nat :=
  if digits ≠ [] ∧ digits.length ≤ 3 ∧ digits.all isAsciiDigit ∧
      (digits.head? = some '0' → digits.length = 1) ∧ decimalValue digits < 256 then
    some (decimalValue digits)
  else none

/-- Dotted-quad literals only: enough to run a configuration without IPv6. -/
@[reducible] def dottedQuad : NetLiterals where
  parseIp := parseQuad
  parseSocket := fun value => do
    let (host, port) ← rsplitOnce ':' value.toList
    let ip ← parseQuad (String.ofList host)
    if port ≠ [] ∧ port.all isAsciiDigit ∧ decimalValue port ≤ 65535 then
      some ⟨ip, UInt16.ofNat (decimalValue port)⟩
    else none
where
  parseQuad (value : String) : Option IpAddr :=
    match (value.toList.splitOn '.').map parseOctet with
    | [some a, some b, some c, some d] => some (.v4 (BitVec.ofNat 32 (((a * 256 + b) * 256 + c) * 256 + d)))
    | _ => none

end NetLiterals

/-! ### Access rules -/

inductive AccessRule where
  | any
  | address (ip : IpAddr) (port : Option UInt16)
  deriving DecidableEq, Repr

namespace AccessRule

/-- The host of a rule: in brackets, or without a colon. -/
def hostText (host : List Char) : Except Error String :=
  if host.head? = some '[' ∧ host.getLast? = some ']' then .ok (String.ofList (host.drop 1).dropLast)
  else if ':' ∈ host then .error (.other "IPv6 访问规则必须使用 [地址]:port 格式")
  else .ok (String.ofList host)

def portNumber (port : List Char) : Except Error (Option UInt16) :=
  if port = ['*'] then .ok none
  else if port = [] ∨ ¬ port.all isAsciiDigit then .error (.other "访问规则包含非法端口")
  else if decimalValue port = 0 ∨ 65535 < decimalValue port then .error (.other "端口必须为 1～65535")
  else .ok (some (UInt16.ofNat (decimalValue port)))

def fromStr [NetLiterals] (value : String) : Except Error AccessRule :=
  if value = "*" then .ok .any
  else do
    let (host, port) ← orError (rsplitOnce ':' value.toList)
      (.other "访问规则必须为 IP:port、IP:* 或 *")
    let host ← hostText host
    let ip ← orError (NetLiterals.parseIp host) (.other "访问规则包含非法 IP 地址")
    let port ← portNumber port
    return .address ip port

def allows (rule : AccessRule) (address : SocketAddr) : Bool :=
  match rule with
  | .any => true
  | .address ip port => ip == address.ip && port.all (· == address.port)

def covers : AccessRule → AccessRule → Bool
  | .any, _ => true
  | .address ip port, .address otherIp otherPort => ip == otherIp && (port.isNone || port == otherPort)
  | .address _ _, .any => false

/-- What a covered rule allows, the covering rule allows. -/
theorem allows_of_covers {rule other : AccessRule} {address : SocketAddr}
    (hc : rule.covers other = true) (ha : other.allows address = true) : rule.allows address = true := by
  cases rule with
  | any => rfl
  | address ip port =>
    cases other with
    | any => simp [covers] at hc
    | address otherIp otherPort =>
      simp only [covers, allows, Bool.and_eq_true, beq_iff_eq, Bool.or_eq_true] at hc ha ⊢
      obtain ⟨rfl, hport⟩ := hc
      refine ⟨ha.1, ?_⟩
      rcases hport with hnone | rfl
      · rw [Option.isNone_iff_eq_none.mp hnone]
        rfl
      · exact ha.2

end AccessRule

/-! ### The configuration -/

structure GatewaySection where
  listen : String
  path : String
  deriving DecidableEq, Repr

structure GatewayAuth where
  accessToken : String
  enabled : Bool
  singleAccess : Bool
  deriving DecidableEq, Repr

structure GatewayUser where
  name : String
  token : String
  singleAccess : Option Bool
  allow : List String
  deriving DecidableEq, Repr

structure GatewayConfig where
  gateway : GatewaySection
  auth : GatewayAuth
  users : List GatewayUser
  deriving DecidableEq, Repr

namespace GatewayUser

/-- Whether the user may hold one instance only: its own setting, else the default. -/
def isSingleAccess (user : GatewayUser) (auth : GatewayAuth) : Bool :=
  user.singleAccess.getD auth.singleAccess

def rules [NetLiterals] (user : GatewayUser) : Except Error (List AccessRule) :=
  user.allow.mapM AccessRule.fromStr

end GatewayUser

def validateUsername (name : String) : Except Error Unit :=
  ensure (¬ (isBlank name ∨ name.toList.any isControl)) (.other "用户名不能为空、纯空白或包含控制字符")

namespace GatewayConfig

/-- The checks on one user, given those listed before it. -/
def validateUser [NetLiterals] (auth : GatewayAuth) (previous : List GatewayUser) (user : GatewayUser) :
    Except Error Unit := do
  validateUsername user.name
  ensure (¬ isBlank user.token) (.other s!"用户“{user.name}”的 Token 不能为空")
  ensure (user.token ≠ auth.accessToken) (.other "用户 Token 不能与共享 Token 相同")
  ensure (¬ previous.any (·.name = user.name)) (.other s!"用户“{user.name}”重复")
  ensure (¬ previous.any (·.token = user.token)) (.other s!"用户“{user.name}”的 Token 与其他用户重复")
  let _ ← user.rules.mapError fun e => .other s!"用户“{user.name}”的访问规则错误：{e.text}"

def validateUsers [NetLiterals] (auth : GatewayAuth) (previous : List GatewayUser) :
    List GatewayUser → Except Error Unit
  | [] => .ok ()
  | user :: rest => do
    validateUser auth previous user
    validateUsers auth (previous ++ [user]) rest

def validate [NetLiterals] (config : GatewayConfig) : Except Error Unit := do
  ensure (¬ isBlank config.auth.accessToken) (.other "共享 access_token 不能为空")
  ensure (NetLiterals.parseSocket config.gateway.listen).isSome
    (.other "gateway.listen 必须为合法的 IP:port")
  ensure (config.gateway.path.toList.head? = some '/' ∧
      ¬ ('?' ∈ config.gateway.path.toList ∨ '#' ∈ config.gateway.path.toList))
    (.other "gateway.path 必须为以 / 开头的路径")
  validateUsers config.auth [] config.users

theorem validateUsers_tokens [NetLiterals] {auth : GatewayAuth} {users previous : List GatewayUser}
    (h : validateUsers auth previous users = .ok ()) {user : GatewayUser} (hu : user ∈ users) :
    user.token ≠ auth.accessToken := by
  induction users generalizing previous with
  | nil => cases hu
  | cons first rest ih =>
    obtain ⟨_, hfirst, h⟩ := bind_eq_ok.mp h
    rcases List.mem_cons.mp hu with rfl | hu
    · obtain ⟨_, _, hfirst⟩ := bind_eq_ok.mp hfirst
      obtain ⟨_, _, hfirst⟩ := bind_eq_ok.mp hfirst
      obtain ⟨_, hother, _⟩ := bind_eq_ok.mp hfirst
      exact ensure_eq_ok.mp hother
    · exact ih h hu

/-- No user of a valid configuration has the gateway's own token. -/
theorem validate_tokens [NetLiterals] {config : GatewayConfig} (h : config.validate = .ok ())
    {user : GatewayUser} (hu : user ∈ config.users) : user.token ≠ config.auth.accessToken := by
  obtain ⟨_, _, h⟩ := bind_eq_ok.mp h
  obtain ⟨_, _, h⟩ := bind_eq_ok.mp h
  obtain ⟨_, _, h⟩ := bind_eq_ok.mp h
  exact validateUsers_tokens h hu

end GatewayConfig

end WsNet
