import Mathlib.Data.List.Basic

/-! Errors: the gateway's coded errors, which cross the tunnel, and the plain
texts of every other failure. -/
namespace WsNet

structure GatewayError where
  code : String
  message : String
  deriving DecidableEq, Repr

namespace GatewayError

def unauthorized : GatewayError :=
  ⟨"UNAUTHORIZED", "未认证：鉴权失败，gateway Token 无效，或用户体系开启时 user_token 未配置、无效或已被撤销，连接已拒绝，已停止自动重连。"⟩

def replaced : GatewayError :=
  ⟨"SESSION_REPLACED", "您的连接已被踢下线：同一用户 Token 已在另一个 access 实例登录。该 Token 的自动重连已停止。"⟩

def changed : GatewayError := ⟨"AUTH_CHANGED", "用户配置已更新，当前连接已关闭，需要重新鉴权。"⟩

def network (message : String) : GatewayError := ⟨"GATEWAY_DISCONNECTED", message⟩

/-- Errors after which an access stops reconnecting. -/
def terminal (e : GatewayError) : Bool := e.code == "SESSION_REPLACED" || e.code == "UNAUTHORIZED"

def text (e : GatewayError) : String := e.code ++ ": " ++ e.message

end GatewayError

/-- Any failure. A caller can tell a `GatewayError` from the rest. -/
inductive Error where
  | gateway (error : GatewayError)
  | other (text : String)
  deriving DecidableEq, Repr

namespace Error

def text : Error → String
  | .gateway e => e.text
  | .other t => t

/-- `downcast_ref::<GatewayError>()`. -/
def gatewayError : Error → Option GatewayError
  | .gateway e => some e
  | .other _ => none

end Error

/-! ### Fallible computations -/

/-- `bail!` unless the condition holds. -/
def ensure {ε : Type} (c : Prop) [Decidable c] (e : ε) : Except ε Unit := if c then .ok () else .error e

theorem ensure_eq_ok {ε : Type} {c : Prop} [Decidable c] {e : ε} {u : Unit} :
    ensure c e = .ok u ↔ c := by
  unfold ensure
  split <;> simp_all

/-- A sequence succeeds when its first part does and the rest does on its value. -/
theorem bind_eq_ok {ε α β : Type} {x : Except ε α} {f : α → Except ε β} {b : β} :
    (x >>= f) = .ok b ↔ ∃ a, x = .ok a ∧ f a = .ok b := by
  cases x with
  | error e => simp only [bind, Except.bind, reduceCtorEq, false_and, exists_false]
  | ok a => simp only [bind, Except.bind, Except.ok.injEq, exists_eq_left']

theorem mapError_eq_ok {ε ε' α : Type} {x : Except ε α} {f : ε → ε'} {a : α} :
    x.mapError f = .ok a ↔ x = .ok a := by
  cases x <;> simp [Except.mapError]

theorem pure_eq_ok {ε α : Type} {a b : α} : (pure a : Except ε α) = .ok b ↔ a = b := by
  simp only [pure, Except.pure, Except.ok.injEq]

/-- A check of every element succeeds when each does. -/
theorem forM_eq_ok {ε α : Type} {l : List α} {check : α → Except ε Unit} {u : Unit} :
    l.forM check = .ok u ↔ ∀ a ∈ l, check a = .ok () := by
  induction l with
  | nil => exact ⟨fun _ a ha => (by cases ha), fun _ => rfl⟩
  | cons a l ih =>
    rw [List.forM, bind_eq_ok, List.forall_mem_cons]
    constructor
    · intro h
      obtain ⟨_, ha, hl⟩ := h
      exact ⟨ha, ih.mp hl⟩
    · exact fun h => ⟨(), h.1, ih.mpr h.2⟩

/-- The value of an option, or the error. -/
def orError {ε α : Type} (o : Option α) (e : ε) : Except ε α := o.elim (.error e) .ok

theorem orError_eq_ok {ε α : Type} {o : Option α} {e : ε} {a : α} :
    orError o e = .ok a ↔ o = some a := by
  cases o <;> simp [orError]

end WsNet
