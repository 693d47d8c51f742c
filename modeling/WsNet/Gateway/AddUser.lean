import WsNet.Common.Config
import WsNet.Common.Identifiers

/-! Adding a user: the next content of the gateway's configuration file.

The file is edited as a document that keeps its comments and its layout, and the
result is read back as a configuration before it is saved. Both TOML libraries are a
parameter (`Toml`); what they promise to one another is a hypothesis where it is
needed (`Toml.Lawful`). -/
namespace WsNet

/-! ### The TOML libraries -/

/-- An item of a document, as far as the editor tells items apart. -/
inductive TomlItem (Decor : Type) where
  | value (emptyArray : Bool) (decor : Decor)
  | table
  | arrayOfTables

namespace TomlItem
variable {Decor : Type}

def isEmptyArray : TomlItem Decor → Bool
  | .value emptyArray _ => emptyArray
  | _ => false

/-- The decor of a value: the white space and the comments around it. -/
def decor : TomlItem Decor → Option Decor
  | .value _ decor => some decor
  | _ => none

def isArrayOfTables : TomlItem Decor → Bool
  | .arrayOfTables => true
  | _ => false

end TomlItem

/-- A table of `[[users]]`. -/
structure UserTable (Decor : Type) where
  decor : Option Decor
  name : String
  token : String
  allow : List String

class Toml where
  Document : Type
  Decor : Type
  /-- `toml::from_str` at the gateway's configuration. An error may know where it starts. -/
  fromStr : String → Except (Option Nat) GatewayConfig
  /-- `DocumentMut::from_str`. -/
  parse : String → Option Document
  /-- The item under `users`. -/
  users : Document → Option (TomlItem Decor)
  /-- Put an array of tables, with none yet, under `users`. -/
  resetUsers : Document → Document
  /-- Push a table to the array under `users`. -/
  pushUser : Document → UserTable Decor → Document
  print : Document → String

/-! ### Loading -/

/-- Parser diagnostics can contain a Token: the error names the line only. -/
def configParseError (content : String) (span : Option Nat) : Error :=
  match span with
  | some start =>
    let bytes := bytesOf content
    let line := 1 + (bytes.take (min start bytes.length)).count 10
    .other s!"配置格式错误（第 {line} 行），请检查 TOML 语法及字段类型"
  | none => .other "配置格式错误，请检查 TOML 语法及字段类型"

namespace GatewayConfig
variable [NetLiterals] [Toml]

/-- `GatewayConfig::load`, from the bytes that are read. -/
def load (bytes : Bytes) : Except Error GatewayConfig := do
  let content ← orError (textOf bytes) (.other "stream did not contain valid UTF-8")
  let config ← (Toml.fromStr content).mapError (configParseError content)
  config.validate
  return config

theorem load_eq_ok {bytes : Bytes} {config : GatewayConfig} :
    load bytes = .ok config ↔
      ∃ content, textOf bytes = some content ∧ Toml.fromStr content = .ok config ∧
        config.validate = .ok () := by
  simp only [load, bind_eq_ok, orError_eq_ok, mapError_eq_ok, pure_eq_ok]
  constructor
  · rintro ⟨content, htext, _, hread, _, hvalid, rfl⟩
    exact ⟨content, htext, hread, hvalid⟩
  · rintro ⟨content, htext, hread, hvalid⟩
    exact ⟨content, htext, config, hread, (), hvalid, rfl⟩

end GatewayConfig

namespace Gateway

/-! ### The token -/

/-- What a call of the system's random source returns. -/
abbrev Seed := { bytes : Bytes // bytes.length = 32 }

def randomId : Option Seed → Except Error String
  | some seed => .ok (hex seed)
  | none => .error (.other "无法生成安全随机数")

/-- The tokens that a new one must differ from. -/
def Taken (config : GatewayConfig) (token : String) : Prop :=
  token = config.auth.accessToken ∨ ∃ user ∈ config.users, user.token = token

instance (config : GatewayConfig) (token : String) : Decidable (Taken config token) :=
  inferInstanceAs (Decidable (_ ∨ _))

/-- Draw until a token is nobody's. Without an end in the draws given, `none`. -/
def freshToken (config : GatewayConfig) : List (Option Seed) → Option (Except Error String)
  | [] => none
  | draw :: rest =>
    match randomId draw with
    | .error error => some (.error error)
    | .ok token => if Taken config token then freshToken config rest else some (.ok token)

theorem freshToken_eq_ok {config : GatewayConfig} {draws : List (Option Seed)} {token : String}
    (h : freshToken config draws = some (.ok token)) : ¬ Taken config token ∧ validId token = true := by
  induction draws with
  | nil => cases h
  | cons draw rest ih =>
    cases draw with
    | none => cases h
    | some seed =>
      simp only [freshToken, randomId] at h
      split at h
      · exact ih h
      · rename_i hfresh
        cases h
        exact ⟨hfresh, validId_hex seed.2⟩

/-! ### Line ends -/

/-- `contains("\r\n")`. -/
def hasCrlf : List Char → Bool
  | '\r' :: '\n' :: _ => true
  | _ :: rest => hasCrlf rest
  | [] => false

/-- `replace("\r\n", "\n")`. -/
def toLf : List Char → List Char
  | '\r' :: '\n' :: rest => '\n' :: toLf rest
  | c :: rest => c :: toLf rest
  | [] => []

/-- `replace('\n', "\r\n")`. -/
def toCrlf (text : List Char) : List Char :=
  text.flatMap fun c => if c = '\n' then ['\r', '\n'] else [c]

/-- The line ends of the file, on all lines. -/
def keepLineEnds (content updated : String) : String :=
  if hasCrlf content.toList then String.ofList (toCrlf (toLf updated.toList)) else updated

/-! ### The next content -/

def checkAbsent (config : GatewayConfig) (name : String) : Except Error Unit :=
  ensure (¬ config.users.any (·.name = name)) (.other s!"用户“{name}”已存在，未修改原有 Token。")

theorem checkAbsent_eq_ok {config : GatewayConfig} {name : String} :
    checkAbsent config name = .ok () ↔ ∀ user ∈ config.users, user.name ≠ name := by
  simp [checkAbsent, ensure_eq_ok]

section AddUser
variable [NetLiterals] [Toml]

/-- The document with an array of tables under `users`, if there was nothing to lose. -/
def withTables (document : Toml.Document) : Toml.Document :=
  if (Toml.users document).all TomlItem.isEmptyArray then Toml.resetUsers document else document

def appendUser (content name token : String) : Except Error String := do
  let document ← orError (Toml.parse content) (.other "配置格式错误")
  let arrayDecor := (Toml.users document).bind TomlItem.decor
  let document := withTables document
  ensure ((Toml.users document).any TomlItem.isArrayOfTables) (.other "users 必须使用 [[users]] 格式")
  let document := Toml.pushUser document { decor := arrayDecor, name, token, allow := [] }
  return keepLineEnds content (Toml.print document)

/-- The content that replaces the original, once it has been read back. -/
def updateConfig (original : Bytes) (name token : String) : Except Error Bytes := do
  let content ← orError (textOf original) (.other "配置文件必须为 UTF-8")
  let updated ← appendUser content name token
  let parsed ← (Toml.fromStr updated).mapError fun _ => .other "生成的配置未通过格式校验"
  parsed.validate
  return bytesOf updated

theorem updateConfig_eq_ok {original updated : Bytes} {name token : String} :
    updateConfig original name token = .ok updated ↔ ∃ content text config,
      textOf original = some content ∧ appendUser content name token = .ok text ∧
        Toml.fromStr text = .ok config ∧ config.validate = .ok () ∧ updated = bytesOf text := by
  simp only [updateConfig, bind_eq_ok, orError_eq_ok, mapError_eq_ok, pure_eq_ok]
  constructor
  · rintro ⟨content, htext, text, happend, config, hread, _, hvalid, rfl⟩
    exact ⟨content, text, config, htext, happend, hread, hvalid, rfl⟩
  · rintro ⟨content, text, config, htext, happend, hread, hvalid, rfl⟩
    exact ⟨content, htext, text, happend, config, hread, (), hvalid, rfl⟩

/-- What is saved can be loaded. -/
theorem load_of_updateConfig {original updated : Bytes} {name token : String}
    (h : updateConfig original name token = .ok updated) : ∃ config, GatewayConfig.load updated = .ok config := by
  obtain ⟨_, text, config, -, -, hread, hvalid, rfl⟩ := updateConfig_eq_ok.mp h
  exact ⟨config, GatewayConfig.load_eq_ok.mpr ⟨text, textOf_bytesOf text, hread, hvalid⟩⟩

/-- The configuration with a user who may reach nothing yet. -/
def withUser (config : GatewayConfig) (name token : String) : GatewayConfig :=
  { config with users := config.users ++ [⟨name, token, none, []⟩] }

end AddUser

end Gateway

/-- What the libraries promise to one another: a document prints as it was written, but
for what was changed, and the configuration is read from what is printed. -/
structure Toml.Lawful [Toml] : Prop where
  print_parse : ∀ content document, Toml.parse content = some document → Toml.print document = content
  reset : ∀ document config, Toml.fromStr (Toml.print document) = .ok config →
    (Toml.users document).all TomlItem.isEmptyArray = true →
    Toml.fromStr (Toml.print (Toml.resetUsers document)) = .ok config
  push : ∀ document config (user : UserTable Toml.Decor),
    Toml.fromStr (Toml.print document) = .ok config →
    (Toml.users document).any TomlItem.isArrayOfTables = true →
    validateUsername user.name = .ok () → validId user.token = true → user.allow = [] →
    Toml.fromStr (Toml.print (Toml.pushUser document user)) =
      .ok { config with users := config.users ++ [⟨user.name, user.token, none, user.allow⟩] }
  /-- Line ends are all the same to the reader. -/
  crlf : ∀ text config, Toml.fromStr text = .ok config →
    Toml.fromStr (String.ofList (Gateway.toCrlf (Gateway.toLf text.toList))) = .ok config

namespace Gateway

section Lawful
variable [Toml]

theorem appendUser_reads (lawful : Toml.Lawful) {content name token text : String} {config : GatewayConfig}
    (hname : validateUsername name = .ok ()) (htoken : validId token = true)
    (hread : Toml.fromStr content = .ok config) (h : appendUser content name token = .ok text) :
    Toml.fromStr text = .ok (withUser config name token) := by
  simp only [appendUser, bind_eq_ok, orError_eq_ok, ensure_eq_ok, pure_eq_ok] at h
  obtain ⟨document, hparse, _, htables, rfl⟩ := h
  have hprint : Toml.fromStr (Toml.print (withTables document)) = .ok config := by
    rw [← lawful.print_parse content document hparse] at hread
    unfold withTables
    split
    · rename_i hempty
      exact lawful.reset document config hread hempty
    · exact hread
  have hpushed := lawful.push (withTables document) config
    { decor := (Toml.users document).bind TomlItem.decor, name, token, allow := [] } hprint htables hname
    htoken rfl
  unfold keepLineEnds
  split
  · exact lawful.crlf _ _ hpushed
  · exact hpushed

variable [NetLiterals]

/-- **What is saved is the configuration that was read, with the user added.** -/
theorem load_withUser (lawful : Toml.Lawful) {original updated : Bytes} {name token : String}
    {config : GatewayConfig} (hname : validateUsername name = .ok ()) (htoken : validId token = true)
    (hload : GatewayConfig.load original = .ok config)
    (h : updateConfig original name token = .ok updated) :
    GatewayConfig.load updated = .ok (withUser config name token) := by
  obtain ⟨content, htext, hread, -⟩ := GatewayConfig.load_eq_ok.mp hload
  obtain ⟨content', text, parsed, htext', hupdated, hparsed, hvalid, rfl⟩ := updateConfig_eq_ok.mp h
  obtain rfl : content = content' := Option.some.inj (htext.symm.trans htext')
  have hreads := appendUser_reads lawful hname htoken hread hupdated
  obtain rfl : parsed = withUser config name token := Except.ok.inj (hparsed.symm.trans hreads)
  exact GatewayConfig.load_eq_ok.mpr ⟨text, textOf_bytesOf text, hreads, hvalid⟩

/-! ### An edit that is accepted -/

omit [Toml] in
theorem validateUsers_append {auth : GatewayAuth} {previous users : List GatewayUser} {user : GatewayUser}
    (husers : GatewayConfig.validateUsers auth previous users = .ok ())
    (huser : GatewayConfig.validateUser auth (previous ++ users) user = .ok ()) :
    GatewayConfig.validateUsers auth previous (users ++ [user]) = .ok () := by
  induction users generalizing previous with
  | nil =>
    rw [List.append_nil] at huser
    exact bind_eq_ok.mpr ⟨(), huser, rfl⟩
  | cons first rest ih =>
    obtain ⟨_, hfirst, hrest⟩ := bind_eq_ok.mp husers
    refine bind_eq_ok.mpr ⟨(), hfirst, ih hrest ?_⟩
    rw [List.append_assoc]
    exact huser

omit [Toml] in
/-- A valid configuration stays valid with a new user. -/
theorem validate_withUser {config : GatewayConfig} {name token : String}
    (hvalid : config.validate = .ok ()) (hname : validateUsername name = .ok ())
    (htoken : validId token = true) (habsent : ∀ user ∈ config.users, user.name ≠ name)
    (hfresh : ¬ Taken config token) : (withUser config name token).validate = .ok () := by
  simp only [Taken, not_or, not_exists, not_and] at hfresh
  simp only [GatewayConfig.validate, bind_eq_ok, ensure_eq_ok] at hvalid ⊢
  obtain ⟨_, haccess, _, hlisten, _, hpath, husers⟩ := hvalid
  refine ⟨(), haccess, (), hlisten, (), hpath, validateUsers_append husers ?_⟩
  simp only [GatewayConfig.validateUser, bind_eq_ok, ensure_eq_ok, List.nil_append]
  refine ⟨(), hname, (), ?_, (), hfresh.1, (), ?_, (), ?_, [], rfl, rfl⟩
  · rw [isBlank_of_validId htoken]
    exact Bool.false_ne_true
  · simpa using habsent
  · simpa using hfresh.2

/-- **The last check never fails.** Where the file can be edited, the name is new and the
token is nobody's, the edited file loads. -/
theorem updateConfig_succeeds (lawful : Toml.Lawful) {original : Bytes} {content name token : String}
    {document : Toml.Document} {config : GatewayConfig} (hload : GatewayConfig.load original = .ok config)
    (htext : textOf original = some content) (hparse : Toml.parse content = some document)
    (htables : (Toml.users (withTables document)).any TomlItem.isArrayOfTables = true)
    (hname : validateUsername name = .ok ()) (htoken : validId token = true)
    (habsent : ∀ user ∈ config.users, user.name ≠ name) (hfresh : ¬ Taken config token) :
    ∃ updated, updateConfig original name token = .ok updated ∧
      GatewayConfig.load updated = .ok (withUser config name token) := by
  obtain ⟨content', htext', hread, hvalid⟩ := GatewayConfig.load_eq_ok.mp hload
  obtain rfl : content = content' := Option.some.inj (htext.symm.trans htext')
  obtain ⟨text, happend⟩ : ∃ text, appendUser content name token = .ok text := by
    simp only [appendUser, bind_eq_ok, orError_eq_ok, ensure_eq_ok, pure_eq_ok]
    exact ⟨_, document, hparse, (), htables, rfl⟩
  have hupdated : updateConfig original name token = .ok (bytesOf text) :=
    updateConfig_eq_ok.mpr ⟨content, text, _, htext, happend, appendUser_reads lawful hname htoken hread happend,
      validate_withUser hvalid hname htoken habsent hfresh, rfl⟩
  exact ⟨bytesOf text, hupdated, load_withUser lawful hname htoken hload hupdated⟩

end Lawful

end Gateway

/-! ### Files in the editor's own layout

Enough of TOML to run the editor: a fixed text, and after it the tables that the editor
has pushed. -/

namespace Toml

def nameStart : List Char := "\n[[users]]\nname = \"".toList

def tokenStart : List Char := "token = \"".toList

def allowLine : List Char := "allow = []\n".toList

def tableText (name token : List Char) : List Char :=
  nameStart ++ (name ++ '"' :: '\n' :: (tokenStart ++ (token ++ '"' :: '\n' :: allowLine)))

def strip (start text : List Char) : Option (List Char) :=
  if start.isPrefixOf text then some (text.drop start.length) else none

/-- The rest of a line that ends in a quotation mark. -/
def quotedLine (text : List Char) : Option (List Char × List Char) :=
  let line := text.takeWhile (· ≠ '\n')
  match text.dropWhile (· ≠ '\n') with
  | [] => none
  | _ :: rest => if line.getLast? = some '"' then some (line.dropLast, rest) else none

def readUsers : Nat → List Char → Option (List GatewayUser)
  | _, [] => some []
  | 0, _ => none
  | n + 1, text => do
    let rest ← strip nameStart text
    let (name, rest) ← quotedLine rest
    let rest ← strip tokenStart rest
    let (token, rest) ← quotedLine rest
    let rest ← strip allowLine rest
    let users ← readUsers n rest
    return ⟨String.ofList name, String.ofList token, none, []⟩ :: users

theorem strip_eq_some {start text rest : List Char} : strip start text = some rest ↔ text = start ++ rest := by
  unfold strip
  constructor
  · intro h
    split at h <;> cases h
    rename_i hprefix
    obtain ⟨more, rfl⟩ := List.isPrefixOf_iff_prefix.mp hprefix
    rw [List.drop_left]
  · rintro rfl
    rw [if_pos (List.isPrefixOf_iff_prefix.mpr (List.prefix_append ..)), List.drop_left]

theorem quotedLine_eq_some {text value rest : List Char} :
    quotedLine text = some (value, rest) ↔ text = value ++ '"' :: '\n' :: rest ∧ '\n' ∉ value := by
  unfold quotedLine
  constructor
  · intro h
    have hsplit := List.takeWhile_append_dropWhile (p := (· ≠ '\n')) (l := text)
    have hline := fun c (hc : c ∈ text.takeWhile (· ≠ '\n')) => List.mem_takeWhile_imp hc
    have hstop := List.head?_dropWhile_not (· ≠ '\n') text
    cases hrest : text.dropWhile (· ≠ '\n') with
    | nil => simp only [hrest, reduceCtorEq] at h
    | cons c more =>
      simp only [hrest] at h hsplit hstop
      split at h <;> cases h
      rename_i hlast
      obtain rfl : c = '\n' := by simpa using hstop
      obtain ⟨front, hfront⟩ := List.getLast?_eq_some_iff.mp hlast
      rw [hfront] at hsplit hline ⊢
      rw [List.dropLast_concat]
      refine ⟨?_, ?_⟩
      · rw [← hsplit, List.append_assoc]
        rfl
      · intro hmem
        simpa using hline '\n' (List.mem_append_left _ hmem)
  · rintro ⟨rfl, hvalue⟩
    have hall : ∀ c ∈ value ++ ['"'], decide (c ≠ '\n') = true := by
      intro c hc
      rcases List.mem_append.mp hc with hc | hc
      · exact decide_eq_true fun heq => hvalue (heq ▸ hc)
      · rw [List.mem_singleton.mp hc]
        rfl
    have htake : (value ++ '"' :: '\n' :: rest).takeWhile (· ≠ '\n') = value ++ ['"'] := by
      rw [List.append_cons, List.takeWhile_append_of_pos hall]
      simp
    have hdrop : (value ++ '"' :: '\n' :: rest).dropWhile (· ≠ '\n') = '\n' :: rest := by
      rw [List.append_cons, List.dropWhile_append_of_pos hall]
      simp
    simp only [htake, hdrop, List.getLast?_concat, List.dropLast_concat, if_true]

theorem readUsers_cons {n : Nat} {text : List Char} {users : List GatewayUser} (hne : text ≠ []) :
    readUsers (n + 1) text = some users ↔ ∃ name token rest more, text = tableText name token ++ rest ∧
      '\n' ∉ name ∧ '\n' ∉ token ∧ readUsers n rest = some more ∧
        users = ⟨String.ofList name, String.ofList token, none, []⟩ :: more := by
  cases text with
  | nil => exact absurd rfl hne
  | cons c text =>
    simp only [readUsers, Option.bind_eq_bind, Option.bind_eq_some_iff, Prod.exists, strip_eq_some,
      quotedLine_eq_some, Option.pure_def, Option.some.injEq]
    constructor
    · rintro ⟨_, htext, name, _, ⟨rfl, hname⟩, _, rfl, token, _, ⟨rfl, htoken⟩, rest, rfl, more, hmore, rfl⟩
      refine ⟨name, token, rest, more, ?_, hname, htoken, hmore, rfl⟩
      rw [htext]
      simp only [tableText, List.append_assoc, List.cons_append]
    · rintro ⟨name, token, rest, more, htext, hname, htoken, hmore, rfl⟩
      refine ⟨_, ?_, name, _, ⟨rfl, hname⟩, _, rfl, token, _, ⟨rfl, htoken⟩, rest, rfl, more, hmore, rfl⟩
      rw [htext]
      simp only [tableText, List.append_assoc, List.cons_append]

theorem readUsers_nil (n : Nat) : readUsers n [] = some [] := by
  cases n <;> rfl

theorem append_tableText_ne_nil (text name token : List Char) : text ++ tableText name token ≠ [] :=
  List.append_ne_nil_of_right_ne_nil _ (List.append_ne_nil_of_left_ne_nil (by decide) _)

/-- A table after the last one is one more user. -/
theorem readUsers_table {n m : Nat} {text name token : List Char} {users : List GatewayUser}
    (hname : '\n' ∉ name) (htoken : '\n' ∉ token) (h : readUsers n text = some users) (hm : n < m) :
    readUsers m (text ++ tableText name token) =
      some (users ++ [⟨String.ofList name, String.ofList token, none, []⟩]) := by
  obtain ⟨m, rfl⟩ : ∃ m', m = m' + 1 := ⟨m - 1, by omega⟩
  rw [readUsers_cons (append_tableText_ne_nil text name token)]
  induction n generalizing m text users with
  | zero =>
    cases text with
    | nil =>
      cases h
      exact ⟨name, token, [], [], (List.append_nil _).symm, hname, htoken, readUsers_nil m, rfl⟩
    | cons c rest => cases h
  | succ n ih =>
    by_cases hnil : text = []
    · subst hnil
      cases h
      exact ⟨name, token, [], [], (List.append_nil _).symm, hname, htoken, readUsers_nil m, rfl⟩
    · obtain ⟨first, firstToken, rest, more, rfl, hfirst, hfirstToken, hmore, rfl⟩ :=
        (readUsers_cons hnil).mp h
      obtain ⟨m, rfl⟩ : ∃ m', m = m' + 1 := ⟨m - 1, by omega⟩
      refine ⟨first, firstToken, rest ++ tableText name token, _, List.append_assoc .., hfirst, hfirstToken,
        ?_, rfl⟩
      exact (readUsers_cons (append_tableText_ne_nil rest name token)).mpr (ih hmore m (by omega))

def readPlain (start : String) (base : GatewayConfig) (text : String) : Except (Option Nat) GatewayConfig :=
  match strip start.toList (text.toList.filter (· ≠ '\r')) with
  | none => .error none
  | some rest =>
    match readUsers rest.length rest with
    | none => .error none
    | some users => .ok { base with users := users }

/-- The files that start with the text, which is read as the configuration without users. -/
@[reducible] def plain (start : String) (base : GatewayConfig) : Toml where
  Document := Bool × String
  Decor := Unit
  fromStr := readPlain start base
  parse := fun content =>
    match readPlain start base content with
    | .ok config => some (!config.users.isEmpty, content)
    | .error _ => none
  users := fun document => if document.1 then some .arrayOfTables else none
  resetUsers := fun document => (true, document.2)
  pushUser := fun document user =>
    (document.1, document.2 ++ String.ofList (tableText user.name.toList user.token.toList))
  print := fun document => document.2

theorem readPlain_eq_ok {start text : String} {base config : GatewayConfig} :
    readPlain start base text = .ok config ↔ ∃ rest users,
      text.toList.filter (· ≠ '\r') = start.toList ++ rest ∧ readUsers rest.length rest = some users ∧
        config = { base with users := users } := by
  unfold readPlain
  constructor
  · intro h
    split at h
    · cases h
    · rename_i rest hstrip
      split at h
      · cases h
      · rename_i users husers
        exact ⟨rest, users, strip_eq_some.mp hstrip, husers, (Except.ok.inj h).symm⟩
  · rintro ⟨rest, users, htext, husers, rfl⟩
    rw [strip_eq_some.mpr htext]
    simp only [husers]

theorem filter_lineEnds (text : List Char) :
    (Gateway.toCrlf (Gateway.toLf text)).filter (· ≠ '\r') = text.filter (· ≠ '\r') := by
  have hcrlf : ∀ text : List Char, (Gateway.toCrlf text).filter (· ≠ '\r') = text.filter (· ≠ '\r') := by
    intro text
    induction text with
    | nil => rfl
    | cons c rest ih =>
      rw [Gateway.toCrlf, List.flatMap_cons, List.filter_append, ← Gateway.toCrlf, ih]
      by_cases hc : c = '\n'
      · subst hc
        rfl
      · rw [if_neg hc, ← List.filter_append]
        rfl
  rw [hcrlf]
  fun_induction Gateway.toLf text with
  | case1 rest ih => simpa using ih
  | case2 c rest _ ih => simp only [List.filter_cons, ih]
  | case3 => rfl

theorem filter_tableText {name token : String} (hname : validateUsername name = .ok ())
    (htoken : validId token = true) :
    ('\n' ∉ name.toList ∧ '\n' ∉ token.toList) ∧
      (tableText name.toList token.toList).filter (· ≠ '\r') = tableText name.toList token.toList := by
  have hplain : ∀ c ∈ name.toList, isControl c = false := by
    have hvalid := ensure_eq_ok.mp hname
    rw [not_or] at hvalid
    simpa using hvalid.2
  have hdigits : ∀ c ∈ token.toList, isAsciiHexDigit c = true := by
    have hall : token.toList.all isAsciiHexDigit = true := (Bool.and_eq_true_iff.mp htoken).2
    exact List.all_eq_true.mp hall
  have hkeep : ∀ l : List Char, '\r' ∉ l → l.filter (· ≠ '\r') = l := by
    intro l hl
    rw [List.filter_eq_self]
    exact fun c hc => decide_eq_true fun heq => hl (heq ▸ hc)
  refine ⟨⟨?_, ?_⟩, ?_⟩
  · intro hc
    exact absurd (hplain _ hc) (by decide)
  · intro hc
    exact absurd (hdigits _ hc) (by decide)
  · refine hkeep _ ?_
    intro hc
    simp only [tableText, List.mem_append, List.mem_cons] at hc
    have hstart : '\r' ∉ nameStart ∧ '\r' ∉ tokenStart ∧ '\r' ∉ allowLine := by decide
    rcases hc with hc | hc | hc | hc | hc | hc | hc | hc | hc
    · exact hstart.1 hc
    · exact absurd (hplain _ hc) (by decide)
    · exact absurd hc (by decide)
    · exact absurd hc (by decide)
    · exact hstart.2.1 hc
    · exact absurd (hdigits _ hc) (by decide)
    · exact absurd hc (by decide)
    · exact absurd hc (by decide)
    · exact hstart.2.2 hc

theorem plain_lawful (start : String) (base : GatewayConfig) : @Lawful (plain start base) := by
  let _ := plain start base
  refine ⟨?_, ?_, ?_, ?_⟩
  · intro content document h
    change (match readPlain start base content with
      | .ok config => some (!config.users.isEmpty, content)
      | .error _ => none) = some document at h
    split at h <;> cases h
    rfl
  · exact fun document config h _ => h
  · intro document config user h _ hname htoken hallow
    obtain ⟨rest, users, htext, husers, rfl⟩ := readPlain_eq_ok.mp h
    obtain ⟨⟨hn, ht⟩, hfilter⟩ := filter_tableText hname htoken
    refine readPlain_eq_ok.mpr ⟨rest ++ tableText user.name.toList user.token.toList, _, ?_,
      readUsers_table hn ht husers ?_, ?_⟩
    · show List.filter _ (String.toList (document.2 ++ _)) = _
      rw [String.toList_append, String.toList_ofList, List.filter_append, hfilter, ← List.append_assoc]
      exact congrArg (· ++ _) htext
    · have hpos := List.length_pos_iff.mpr (append_tableText_ne_nil [] user.name.toList user.token.toList)
      rw [List.nil_append] at hpos
      rw [List.length_append]
      omega
    · rw [String.ofList_toList, String.ofList_toList, hallow]
  · intro text config h
    obtain ⟨rest, users, htext, husers, rfl⟩ := readPlain_eq_ok.mp h
    refine readPlain_eq_ok.mpr ⟨rest, users, ?_, husers, rfl⟩
    rw [String.toList_ofList, filter_lineEnds]
    exact htext

end Toml

/-! ### One file, and one user added to it -/

namespace Gateway.OneUser

def content : String :=
  "[gateway]\nlisten = \"127.0.0.1:8443\"\n[auth]\naccess_token = \"shared\"\nenabled = true\n"

def config : GatewayConfig := ⟨⟨"127.0.0.1:8443", "/tunnel"⟩, ⟨"shared", true, true⟩, []⟩

def seed : Seed := ⟨List.replicate 32 1, rfl⟩

def added : String :=
  content ++ String.ofList (Toml.tableText "zhang".toList (hex seed).toList)

attribute [local instance] NetLiterals.dottedQuad

local instance toml : Toml := Toml.plain content config

theorem read_content : Toml.fromStr content = .ok config :=
  Toml.readPlain_eq_ok.mpr ⟨[], [], by decide +kernel, rfl, rfl⟩

theorem load_content : GatewayConfig.load (bytesOf content) = .ok config :=
  GatewayConfig.load_eq_ok.mpr ⟨content, textOf_bytesOf content, read_content, rfl⟩

theorem parse_content : Toml.parse content = some (false, content) := by
  rfl

theorem fresh_seed : ¬ Taken config (hex seed) := by
  decide +kernel

theorem append_content : appendUser content "zhang" (hex seed) = .ok added := by
  rfl

theorem update_content : updateConfig (bytesOf content) "zhang" (hex seed) = .ok (bytesOf added) :=
  updateConfig_eq_ok.mpr ⟨content, added, withUser config "zhang" (hex seed), textOf_bytesOf content,
    append_content, appendUser_reads (Toml.plain_lawful content config) rfl (validId_hex seed.2) read_content
    append_content, rfl, rfl⟩

end Gateway.OneUser

end WsNet
