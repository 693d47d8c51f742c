import Mathlib.Data.List.Nodup
import WsNet.Common.Error
import WsNet.Common.Text

/-! The access's configuration: gateways and the listeners that are routed to them.

A configuration without `gateways` is of the old form: one gateway for each URL that
`access` or a listener names, all with one token. -/
namespace WsNet

structure AccessSection where
  token : Option String
  serverUrl : Option String
  serverUrls : List String
  gatewayPoolSize : Nat
  deriving DecidableEq, Repr

structure AccessGatewayConfig where
  name : String
  serverUrl : String
  token : String
  userToken : Option String
  deriving DecidableEq, Repr

structure ListenerConfig where
  name : String
  gateway : Option String
  serverUrl : Option String
  deriving DecidableEq, Repr

structure AccessConfig where
  access : AccessSection
  gateways : List AccessGatewayConfig
  listeners : List ListenerConfig
  deriving DecidableEq, Repr

/-- The setting without white space around it, if anything is left. -/
def trimmed (setting : Option String) : Option String := (setting.map trim).filter (· ≠ "")

theorem trimmed_eq_some {setting : Option String} {s : String} :
    trimmed setting = some s ↔ ∃ raw, setting = some raw ∧ trim raw = s ∧ s ≠ "" := by
  cases setting with
  | none => simp [trimmed]
  | some raw =>
    simp only [trimmed, Option.map_some, Option.filter_eq_some_iff, Option.some.injEq,
      decide_eq_true_eq, exists_eq_left']

theorem trim_of_trimmed {setting : Option String} {s : String} (h : trimmed setting = some s) :
    trim s = s := by
  obtain ⟨raw, _, rfl, _⟩ := trimmed_eq_some.mp h
  exact trim_trim raw

theorem any_trim {setting : Option String} :
    setting.any (trim · ≠ "") = true ↔ (trimmed setting).isSome = true := by
  cases setting with
  | none => simp [trimmed]
  | some raw =>
    rw [Option.isSome_iff_exists]
    simp only [trimmed_eq_some, Option.any_some, decide_eq_true_eq]
    exact ⟨fun h => ⟨trim raw, raw, rfl, rfl, h⟩, fun ⟨_, _, hraw, ht, hne⟩ => by
      cases hraw
      exact ht ▸ hne⟩

namespace AccessConfig

/-! ### The old form -/

/-- One more URL, unless it is blank or listed. -/
def addUrl (urls : List String) (url : String) : List String :=
  if trim url = "" ∨ trim url ∈ urls then urls else urls ++ [trim url]

/-- The URLs of `access`, then those of the listeners. -/
def legacyUrls (config : AccessConfig) : List String :=
  ((config.access.serverUrl.toList ++ config.access.serverUrls) ++
    config.listeners.filterMap (·.serverUrl)).foldl addUrl []

def legacyGateway (token : String) (index : Nat) (url : String) : AccessGatewayConfig where
  name := s!"gateway-{index + 1}"
  serverUrl := url
  token
  userToken := none

def configuredGateways (config : AccessConfig) : Except Error (List AccessGatewayConfig) :=
  if config.gateways = [] then do
    let token ← orError (config.access.token.filter fun token => ¬ isBlank token)
      (.other "未鉴权：请在 access 配置中填写 Token")
    return config.legacyUrls.mapIdx (legacyGateway token)
  else .ok config.gateways

/-! ### Validation -/

def trimGateway (gateway : AccessGatewayConfig) : AccessGatewayConfig :=
  { gateway with name := trim gateway.name, serverUrl := trim gateway.serverUrl }

def checkGateway (gateway : AccessGatewayConfig) : Except Error Unit := do
  ensure (gateway.name ≠ "") (.other "网关名称不能为空")
  ensure (gateway.serverUrl ≠ "") (.other s!"网关“{gateway.name}”的 server_url 不能为空")
  ensure (¬ isBlank gateway.token) (.other s!"未鉴权：网关“{gateway.name}”的 Token 不能为空")
  ensure (¬ gateway.userToken.any isBlank) (.other s!"未鉴权：网关“{gateway.name}”的 user_token 不能为空")

/-- No name is used twice, given those listed before. -/
def checkNames (previous : List AccessGatewayConfig) : List AccessGatewayConfig → Except Error Unit
  | [] => .ok ()
  | gateway :: rest => do
    ensure (¬ previous.any (·.name = gateway.name)) (.other s!"网关名称“{gateway.name}”重复")
    checkNames (previous ++ [gateway]) rest

def hasDefaultGateway (config : AccessConfig) (gateways : List AccessGatewayConfig) : Bool :=
  gateways.length = 1 ∨ config.gateways = [] ∧ config.access.serverUrl.any (trim · ≠ "")

def checkListener (gateways : List AccessGatewayConfig) (hasDefaultGateway : Bool)
    (listener : ListenerConfig) : Except Error Unit := do
  ensure (¬ ((trimmed listener.gateway).isSome ∧ (trimmed listener.serverUrl).isSome))
    (.other s!"监听器“{listener.name}”不能同时配置 gateway 和 server_url")
  match trimmed listener.gateway, trimmed listener.serverUrl with
  | some name, _ =>
    ensure (gateways.any (·.name = name)) (.other s!"监听器“{listener.name}”引用了不存在的网关“{name}”")
  | none, some url =>
    ensure (gateways.any (·.serverUrl = url))
      (.other s!"监听器“{listener.name}”引用了不存在的网关“{url}”")
  | none, none =>
    ensure hasDefaultGateway (.other s!"监听器“{listener.name}”必须指定 gateway 或 server_url")

def gatewayConfigs (config : AccessConfig) : Except Error (List AccessGatewayConfig) := do
  let gateways ← config.configuredGateways
  let gateways := gateways.map trimGateway
  ensure (gateways ≠ []) (.other "access 至少需要配置一个网关")
  gateways.forM checkGateway
  checkNames [] gateways
  config.listeners.forM (checkListener gateways (config.hasDefaultGateway gateways))
  return gateways

/-! ### What a valid configuration has -/

theorem checkNames_nodup {gateways previous : List AccessGatewayConfig}
    (h : checkNames previous gateways = .ok ()) :
    (gateways.map (·.name)).Nodup ∧ ∀ g ∈ gateways, ∀ p ∈ previous, g.name ≠ p.name := by
  induction gateways generalizing previous with
  | nil => exact ⟨List.nodup_nil, fun g hg => by cases hg⟩
  | cons gateway rest ih =>
    obtain ⟨_, hfresh, h⟩ := bind_eq_ok.mp h
    have hfresh := ensure_eq_ok.mp hfresh
    simp only [List.any_eq_true, decide_eq_true_eq, not_exists, not_and] at hfresh
    obtain ⟨hnodup, hother⟩ := ih h
    refine ⟨?_, fun g hg p hp => ?_⟩
    · rw [List.map_cons, List.nodup_cons]
      refine ⟨fun hmem => ?_, hnodup⟩
      obtain ⟨g, hg, hname⟩ := List.mem_map.mp hmem
      exact hother g hg gateway (List.mem_append_right _ List.mem_cons_self) hname
    · rcases List.mem_cons.mp hg with rfl | hg
      · exact fun hname => hfresh p hp hname.symm
      · exact hother g hg p (List.mem_append_left _ hp)

/-- What the validation checked. -/
structure Valid (config : AccessConfig) (gateways : List AccessGatewayConfig) : Prop where
  trimmed : ∃ raw, config.configuredGateways = .ok raw ∧ gateways = raw.map trimGateway
  nonempty : gateways ≠ []
  gateway : ∀ g ∈ gateways, checkGateway g = .ok ()
  names : (gateways.map (·.name)).Nodup
  listener : ∀ l ∈ config.listeners,
    checkListener gateways (config.hasDefaultGateway gateways) l = .ok ()

theorem valid_of_gatewayConfigs {config : AccessConfig} {gateways : List AccessGatewayConfig}
    (h : config.gatewayConfigs = .ok gateways) : Valid config gateways := by
  obtain ⟨raw, hraw, h⟩ := bind_eq_ok.mp h
  obtain ⟨_, hne, h⟩ := bind_eq_ok.mp h
  obtain ⟨_, hgateways, h⟩ := bind_eq_ok.mp h
  obtain ⟨_, hnames, h⟩ := bind_eq_ok.mp h
  obtain ⟨_, hlisteners, h⟩ := bind_eq_ok.mp h
  cases pure_eq_ok.mp h
  exact ⟨⟨raw, hraw, rfl⟩, ensure_eq_ok.mp hne, forM_eq_ok.mp hgateways, (checkNames_nodup hnames).1,
    forM_eq_ok.mp hlisteners⟩

/-- The gateway with a name is the only one. -/
theorem Valid.unique {config : AccessConfig} {gateways : List AccessGatewayConfig}
    (h : Valid config gateways) {g g' : AccessGatewayConfig} (hg : g ∈ gateways) (hg' : g' ∈ gateways)
    (hname : g.name = g'.name) : g = g' := List.inj_on_of_nodup_map h.names hg hg' hname

/-- The URLs of the old form are listed as they are trimmed. -/
theorem mem_foldl_addUrl {url : String} {raw urls : List String} (h : url ∈ urls ∨
    ∃ r ∈ raw, trim r = url ∧ url ≠ "") : url ∈ raw.foldl addUrl urls := by
  induction raw generalizing urls with
  | nil =>
    rcases h with h | ⟨_, hr, _⟩
    · exact h
    · cases hr
  | cons first rest ih =>
    rw [List.foldl_cons]
    apply ih
    unfold addUrl
    rcases h with h | ⟨r, hr, rfl, hne⟩
    · left
      split
      · exact h
      · exact List.mem_append_left _ h
    · rcases List.mem_cons.mp hr with rfl | hr
      · left
        split
        · rename_i hold
          exact hold.resolve_left hne
        · exact List.mem_append_right _ (List.mem_singleton.mpr rfl)
      · exact .inr ⟨r, hr, rfl, hne⟩

/-- The legacy `access.server_url` has a gateway. -/
theorem Valid.legacy {config : AccessConfig} {gateways : List AccessGatewayConfig}
    (h : Valid config gateways) (hold : config.gateways = []) {url : String}
    (hurl : WsNet.trimmed config.access.serverUrl = some url) : ∃ g ∈ gateways, g.serverUrl = url := by
  obtain ⟨raw, hraw, rfl⟩ := h.trimmed
  rw [configuredGateways, if_pos hold] at hraw
  obtain ⟨token, _, hraw⟩ := bind_eq_ok.mp hraw
  cases pure_eq_ok.mp hraw
  obtain ⟨setting, hsetting, htrim, hne⟩ := trimmed_eq_some.mp hurl
  have hmem : url ∈ config.legacyUrls := by
    apply mem_foldl_addUrl
    refine .inr ⟨setting, ?_, htrim, hne⟩
    rw [hsetting]
    exact List.mem_append_left _ (List.mem_append_left _ List.mem_cons_self)
  obtain ⟨i, hi, hget⟩ := List.getElem_of_mem hmem
  refine ⟨trimGateway (legacyGateway token i url), ?_, trim_of_trimmed hurl⟩
  refine List.mem_map.mpr ⟨_, List.mem_mapIdx.mpr ⟨i, hi, ?_⟩, rfl⟩
  rw [hget]

end AccessConfig

end WsNet
