import Mathlib.Data.Fintype.Card
import WsNet.Gateway.Takeover

/-! Narrowing: the test of a reload against what it means.

A reload compares rules one by one; what a user has is the union of the addresses
that its rules allow. The two agree because a union of finitely many rules cannot
pass for a wildcard: no rule names port 0, and `*` would take every address. -/
namespace WsNet
open Data

/-! ### Unions of rules -/

theorem exists_not_mem_of_injective {α : Type*} {n : Nat} {f : Fin n → α} (hf : Function.Injective f)
    {l : List α} (hl : l.length < n) : ∃ i, f i ∉ l := by
  classical
  by_contra hall
  have hsub : Finset.univ.image f ⊆ l.toFinset := by
    intro a ha
    obtain ⟨i, _, rfl⟩ := Finset.mem_image.mp ha
    rw [List.mem_toFinset]
    by_contra hi
    exact hall ⟨i, hi⟩
  have hcard : (Finset.univ.image f).card = n := by
    rw [Finset.card_image_of_injective _ hf, Finset.card_univ, Fintype.card_fin]
  have hle := (Finset.card_le_card hsub).trans l.toFinset_card_le
  omega

namespace AccessRule

/-- An address that some rule of the list allows. -/
def Reaches (rules : List AccessRule) (address : SocketAddr) : Prop :=
  ∃ rule ∈ rules, rule.allows address = true

instance (rules : List AccessRule) (address : SocketAddr) : Decidable (Reaches rules address) :=
  inferInstanceAs (Decidable (∃ rule ∈ rules, rule.allows address = true))

@[simp] theorem allows_address (ip : IpAddr) (port : Option UInt16) (address : SocketAddr) :
    (AccessRule.address ip port).allows address = true ↔
      ip = address.ip ∧ ∀ p, port = some p → p = address.port := by
  cases port <;> simp [allows]

theorem address_covers (ip ip' : IpAddr) (port port' : Option UInt16) :
    (AccessRule.address ip port).covers (.address ip' port') = true ↔
      ip = ip' ∧ (port = none ∨ port = port') := by
  simp [covers]

/-- A rule covers itself. -/
theorem covers_refl (rule : AccessRule) : rule.covers rule = true := by
  cases rule <;> simp [covers]

/-- No rule of the list names port 0. -/
def NamesPorts (rules : List AccessRule) : Prop :=
  ∀ ip port, AccessRule.address ip (some port) ∈ rules → port ≠ 0

theorem portNumber_ne_zero {text : List Char} {port : UInt16}
    (h : portNumber text = .ok (some port)) : port ≠ 0 := by
  unfold portNumber at h
  split_ifs at h with hstar hdigits hrange
  · simp at h
  · simp only [Except.ok.injEq, Option.some.injEq] at h
    have hlt : decimalValue text < 2 ^ 16 := by omega
    intro hzero
    rw [← h] at hzero
    have hvalue := congrArg UInt16.toNat hzero
    rw [UInt16.toNat_ofNat_of_lt' hlt] at hvalue
    exact hrange (.inl hvalue)

theorem fromStr_address [NetLiterals] {value : String} {ip : IpAddr} {port : UInt16}
    (h : fromStr value = .ok (.address ip (some port))) : port ≠ 0 := by
  unfold fromStr at h
  split_ifs at h
  · simp at h
  · obtain ⟨_, _, h⟩ := bind_eq_ok.mp h
    obtain ⟨_, _, h⟩ := bind_eq_ok.mp h
    obtain ⟨_, _, h⟩ := bind_eq_ok.mp h
    obtain ⟨_, hport, h⟩ := bind_eq_ok.mp h
    have hrule := pure_eq_ok.mp h
    simp only [AccessRule.address.injEq] at hrule
    rw [hrule.2] at hport
    exact portNumber_ne_zero hport

end AccessRule

/-- What a successful `mapM` returns comes from the elements. -/
theorem mem_of_mapM_ok {ε α β : Type} {f : α → Except ε β} {l : List α} {l' : List β}
    (h : l.mapM f = .ok l') {b : β} (hb : b ∈ l') : ∃ a ∈ l, f a = .ok b := by
  induction l generalizing l' with
  | nil =>
    have hnil := pure_eq_ok.mp h
    simp [← hnil] at hb
  | cons a rest ih =>
    rw [List.mapM_cons] at h
    obtain ⟨first, hfirst, h⟩ := bind_eq_ok.mp h
    obtain ⟨others, hothers, h⟩ := bind_eq_ok.mp h
    rw [← pure_eq_ok.mp h] at hb
    rcases List.mem_cons.mp hb with rfl | hb
    · exact ⟨a, List.mem_cons_self, hfirst⟩
    · obtain ⟨a', ha', hb⟩ := ih hothers hb
      exact ⟨a', List.mem_cons_of_mem _ ha', hb⟩

/-- A user's rules name ports from 1 on. -/
theorem GatewayUser.rules_namesPorts [NetLiterals] {user : GatewayUser} {rules : List AccessRule}
    (h : user.rules = .ok rules) : AccessRule.NamesPorts rules := by
  intro ip port hmem
  obtain ⟨value, _, hvalue⟩ := mem_of_mapM_ok h hmem
  exact AccessRule.fromStr_address hvalue

/-! ### One rule against a union -/

namespace AccessRule
variable {rules : List AccessRule}

/-- The address that a rule names. -/
def host : AccessRule → Option IpAddr
  | .any => none
  | .address ip _ => some ip

/-- Fewer than 2^32 rules miss some address, unless `*` is one of them. -/
theorem any_mem_of_reaches (hlt : rules.length < 2 ^ 32) (h : ∀ address, Reaches rules address) :
    AccessRule.any ∈ rules := by
  have hf : Function.Injective fun i : Fin (2 ^ 32) => some (IpAddr.v4 (BitVec.ofFin i)) := by
    intro i j hij
    simpa using hij
  -- an address whose host no rule names
  obtain ⟨i, hi⟩ := exists_not_mem_of_injective hf (l := rules.map host)
    (by simpa using hlt)
  obtain ⟨rule, hrule, hallows⟩ := h ⟨.v4 (BitVec.ofFin i), 0⟩
  cases rule with
  | any => exact hrule
  | address ip port =>
    obtain ⟨hip, _⟩ := (allows_address _ _ _).mp hallows
    exact absurd (List.mem_map.mpr ⟨_, hrule, by rw [host, hip]⟩) hi

/-- Port 0 of a host is reached through a rule for every port of it. -/
theorem wildcard_mem_of_reaches {ip : IpAddr} (hports : NamesPorts rules)
    (h : Reaches rules ⟨ip, 0⟩) : AccessRule.any ∈ rules ∨ AccessRule.address ip none ∈ rules := by
  obtain ⟨rule, hrule, hallows⟩ := h
  cases rule with
  | any => exact .inl hrule
  | address ip' port =>
    obtain ⟨rfl, hport⟩ := (allows_address _ _ _).mp hallows
    cases port with
    | none => exact .inr hrule
    | some port => exact absurd (hport port rfl) (hports _ _ hrule)

/-- A rule is covered by one rule of a list exactly when the list reaches all that
it allows. -/
theorem any_covers_iff (hports : NamesPorts rules) (hlt : rules.length < 2 ^ 32) (rule : AccessRule) :
    rules.any (·.covers rule) = true ↔
      ∀ address, rule.allows address = true → Reaches rules address := by
  rw [List.any_eq_true]
  constructor
  · intro hcovered address hallows
    obtain ⟨wider, hwider, hcovers⟩ := hcovered
    exact ⟨wider, hwider, allows_of_covers hcovers hallows⟩
  · intro hreach
    cases rule with
    | any => exact ⟨.any, any_mem_of_reaches hlt fun address => hreach address rfl, rfl⟩
    | address ip port =>
      cases port with
      | none =>
        rcases wildcard_mem_of_reaches hports (hreach ⟨ip, 0⟩ (by simp)) with hany | hhost
        · exact ⟨_, hany, rfl⟩
        · exact ⟨_, hhost, covers_refl _⟩
      | some port =>
        obtain ⟨wider, hwider, hallows⟩ := hreach ⟨ip, port⟩ (by simp)
        refine ⟨wider, hwider, ?_⟩
        cases wider with
        | any => rfl
        | address ip' port' =>
          obtain ⟨rfl, hport⟩ := (allows_address _ _ _).mp hallows
          rw [address_covers]
          cases port' with
          | none => exact ⟨rfl, .inl rfl⟩
          | some port' => exact ⟨rfl, .inr (congrArg some (hport port' rfl))⟩

/-- Rule by rule, the narrowing test asks for the inclusion of the unions. -/
theorem all_covers_iff {old : List AccessRule} (hports : NamesPorts rules)
    (hlt : rules.length < 2 ^ 32) :
    (old.all fun rule => rules.any (·.covers rule)) = true ↔
      ∀ address, Reaches old address → Reaches rules address := by
  simp only [List.all_eq_true, any_covers_iff hports hlt]
  constructor
  · intro h address hold
    obtain ⟨rule, hrule, hallows⟩ := hold
    exact h rule hrule address hallows
  · intro h rule hrule address hallows
    exact h address ⟨rule, hrule, hallows⟩

end AccessRule

/-! ### The test of a reload -/

namespace Gateway

/-- The signal of a session that is live before a reload is the reload's error. -/
theorem signal_reconfigure {config : GatewayConfig} {table : Credentials} {runtime : Runtime}
    {sid : String} {session : SessionInfo} (h : runtime.LiveSession sid session) :
    (runtime.reconfigure config table).signal sid =
      reloadError (runtime.gatewayChanged config) runtime.credentials table
        (runtime.winners (runtime.gatewayChanged config) table) session := by
  have hsignal : session.signal = none := h.2
  simp only [Runtime.signal, Runtime.reconfigure, HashMap.lookup_mapValues, h.1, Option.map_some,
    Option.bind_some, Runtime.cancel, if_pos hsignal]

/-- With the same name in both tables, only narrower rules change a session. -/
theorem reloadError_changed {old next : Credentials} {winners : Winners} {session : SessionInfo}
    {before after : Credential} (hold : old.lookup session.credential = some before)
    (hnext : next.lookup session.credential = some after) (hname : before.name = after.name) :
    reloadError false old next winners session = some .changed ↔
      ¬ (before.rules.all fun rule => after.rules.any (·.covers rule)) = true := by
  have hother : (if (winners.lookup session.credential).any (·.2 ≠ session.instanceId) then
      some GatewayError.replaced else none) ≠ some .changed := by
    split_ifs
    · exact fun h => absurd h (by decide)
    · nofun
  simp only [reloadError, Bool.false_eq_true, if_false, hold, hnext, hname, ne_eq, not_true_eq_false,
    false_or]
  by_cases hcovered : (before.rules.all fun rule => after.rules.any (·.covers rule)) = true
  · rw [if_neg (not_not.mpr hcovered)]
    exact ⟨fun h => absurd h hother, fun h => absurd hcovered h⟩
  · rw [if_pos hcovered]
    exact ⟨fun _ => hcovered, fun _ => rfl⟩

/-- **Narrowing is losing an address.** The test of a reload passes for a user's new
rules, whatever the old ones are, exactly when each address that the old rules allow
is allowed by the new ones; so a reload under the same access token changes a live
session of a user that keeps its name exactly when the user loses an address. -/
theorem narrowed_iff_address_lost [NetLiterals] [Ring] {newUser : GatewayUser}
    (oldRules : List AccessRule) {newRules : List AccessRule} (hnew : newUser.rules = .ok newRules)
    (hlt : newRules.length < 2 ^ 32) :
    ((oldRules.all fun rule => newRules.any (·.covers rule)) = true ↔
      ∀ address, AccessRule.Reaches oldRules address → AccessRule.Reaches newRules address) ∧
    ∀ (config : GatewayConfig) (runtime next : Runtime) (sid : String) (session : SessionInfo)
      (before after : Credential), AppState.reload config runtime = .ok next →
      runtime.config.auth.accessToken = config.auth.accessToken → runtime.LiveSession sid session →
      runtime.credentials.lookup session.credential = some before → before.rules = oldRules →
      next.credentials.lookup session.credential = some after → after.rules = newRules →
      before.name = after.name →
      (next.signal sid = some .changed ↔
        ∃ address, AccessRule.Reaches oldRules address ∧ ¬ AccessRule.Reaches newRules address) := by
  have hinclusion : (oldRules.all fun rule => newRules.any (·.covers rule)) = true ↔ _ :=
    AccessRule.all_covers_iff (GatewayUser.rules_namesPorts hnew) hlt
  refine ⟨hinclusion, ?_⟩
  intro config runtime next sid session before after hreload htoken hlive hbefore hold hafter hnew hname
  obtain ⟨table, _, _, rfl⟩ := reload_ok hreload
  have hsame : runtime.gatewayChanged config = false := by simp [Runtime.gatewayChanged, htoken]
  have hafter : table.lookup session.credential = some after := hafter
  rw [signal_reconfigure hlive, hsame, reloadError_changed hbefore hafter hname, hold, hnew,
    hinclusion]
  simp only [not_forall, exists_prop]

/-! ### Two ports for a host -/

section Example

local instance narrowingLiterals : NetLiterals := .dottedQuad
local instance narrowingRing : Ring := .free

def loopback : IpAddr := .v4 (BitVec.ofNat 32 0x7f000001)

/-- `lisi` with two ports of the host that it had whole. -/
def portsUser : GatewayUser := ⟨"lisi", "user", none, ["127.0.0.1:80", "127.0.0.1:443"]⟩

def portsConfig : GatewayConfig := { singleConfig with users := [portsUser] }

def portsLeft : Runtime := ((AppState.reload portsConfig takenOver).toOption).getD takenOver

theorem narrowed_iff_address_lost_ports :
    portsLeft.signal "s3" = some .changed ∧
      ∃ address, AccessRule.Reaches [.address loopback none] address ∧
        ¬ AccessRule.Reaches [.address loopback (some 80), .address loopback (some 443)] address := by
  obtain ⟨_, _, hlive, _, _, hconfig⟩ := takenOver_ends
  have hends : (AppState.reload portsConfig takenOver).toOption.isSome = true ∧
      portsLeft.signal "s3" = some .changed ∧
      takenOver.credentials.lookup (liveB 2).credential =
        some ⟨"user", "lisi", true, [.address loopback none]⟩ ∧
      portsLeft.credentials.lookup (liveB 2).credential =
        some ⟨"user", "lisi", true, [.address loopback (some 80), .address loopback (some 443)]⟩ := by
    decide +kernel
  obtain ⟨hreload, hsignal, hbefore, hafter⟩ := hends
  have hreload : AppState.reload portsConfig takenOver = .ok portsLeft := by
    unfold portsLeft
    cases h : AppState.reload portsConfig takenOver with
    | error e => simp [h, Except.toOption] at hreload
    | ok next => rfl
  have hrules : portsUser.rules =
      .ok [.address loopback (some 80), .address loopback (some 443)] := by rfl
  have hlost := narrowed_iff_address_lost [.address loopback none] hrules (by decide)
  refine ⟨hsignal, ?_⟩
  exact (hlost.2 portsConfig takenOver portsLeft "s3" (liveB 2)
    ⟨"user", "lisi", true, [.address loopback none]⟩
    ⟨"user", "lisi", true, [.address loopback (some 80), .address loopback (some 443)]⟩
    hreload (by rw [hconfig]; rfl) hlive hbefore rfl hafter rfl rfl).mp hsignal

end Example

end Gateway

end WsNet
