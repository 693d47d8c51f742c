import WsNet.Gateway.Narrowing

/-! The grammar of an access rule.

A rule is read at its last colon. The source cuts brackets off by byte offsets,
which panics unless both are ends of characters; the grammar knows neither offsets
nor an order of checks. What `fromStr` accepts is the grammar, and the text of a
socket address is in it. -/
namespace WsNet

/-! ### Splitting and slicing -/

theorem rsplitOnce_eq_none {c : Char} {l : List Char} : rsplitOnce c l = none ↔ c ∉ l := by
  induction l with
  | nil => simp [rsplitOnce]
  | cons x rest ih =>
    unfold rsplitOnce
    cases hrest : rsplitOnce c rest with
    | none =>
      rw [hrest] at ih
      have hnot := ih.mp rfl
      by_cases hx : x = c
      · subst hx
        simp
      · simp [hx, hnot, Ne.symm hx]
    | some parts =>
      rw [hrest] at ih
      simp only [reduceCtorEq, false_iff, not_not] at ih ⊢
      exact List.mem_cons_of_mem x ih

theorem rsplitOnce_eq_some {c : Char} {l a b : List Char} :
    rsplitOnce c l = some (a, b) ↔ l = a ++ c :: b ∧ c ∉ b := by
  induction l generalizing a b with
  | nil => simp [rsplitOnce]
  | cons x rest ih =>
    unfold rsplitOnce
    cases hrest : rsplitOnce c rest with
    | none =>
      have hnot := rsplitOnce_eq_none.mp hrest
      constructor
      · intro h
        dsimp only at h
        split at h
        · cases h
          subst x
          exact ⟨rfl, hnot⟩
        · cases h
      · rintro ⟨hl, _⟩
        cases a with
        | nil =>
          obtain ⟨rfl, rfl⟩ := List.cons.inj hl
          exact if_pos rfl
        | cons y a =>
          obtain ⟨_, rfl⟩ := List.cons.inj hl
          exact absurd (List.mem_append_right a List.mem_cons_self) hnot
    | some parts =>
      obtain ⟨front, back⟩ := parts
      obtain ⟨rfl, hback⟩ := ih.mp hrest
      simp only [Option.some.injEq, Prod.mk.injEq]
      constructor
      · rintro ⟨rfl, rfl⟩
        exact ⟨rfl, hback⟩
      · rintro ⟨hl, hb⟩
        cases a with
        | nil =>
          obtain ⟨_, rfl⟩ := List.cons.inj hl
          exact absurd (List.mem_append_right front List.mem_cons_self) hb
        | cons y a =>
          obtain ⟨rfl, hrest'⟩ := List.cons.inj hl
          have hagain := ih.mpr ⟨hrest', hb⟩
          rw [hrest] at hagain
          cases hagain
          exact ⟨rfl, rfl⟩

/-- `&value[first..last]`. Where the slice panics, `none`. -/
def byteSlice (value : String) (first last : Nat) : Option String :=
  if first ≤ last ∧ last ≤ (bytesOf value).length then
    (textOf ((bytesOf value).take first)).bind fun _ => textOf (((bytesOf value).take last).drop first)
  else none

/-- One byte off each end, where these are ASCII characters. -/
theorem byteSlice_brackets (inner : List Char) :
    let host := String.ofList ('[' :: (inner ++ [']']))
    byteSlice host 1 ((bytesOf host).length - 1) = some (String.ofList inner) := by
  intro host
  have hbytes : bytesOf host = bytesOf "[" ++ (bytesOf (String.ofList inner) ++ bytesOf "]") := by
    rw [← bytesOf_append, ← bytesOf_append]
    congr 1
    rw [← String.toList_inj]
    simp [host]
  have hopen : (bytesOf "[").length = 1 := by decide +kernel
  have hclose : (bytesOf "]").length = 1 := by decide +kernel
  have hlen : (bytesOf host).length - 1 = 1 + (bytesOf (String.ofList inner)).length := by
    rw [hbytes, List.length_append, List.length_append, hopen, hclose]
    omega
  have hfront : (bytesOf host).take 1 = bytesOf "[" := by
    rw [hbytes, List.take_left' hopen]
  have hmiddle : ((bytesOf host).take (1 + (bytesOf (String.ofList inner)).length)).drop 1 =
      bytesOf (String.ofList inner) := by
    rw [hbytes, ← List.append_assoc, List.take_left' (by rw [List.length_append, hopen]),
      List.drop_left' hopen]
  unfold byteSlice
  rw [hlen, if_pos (by omega), hfront, hmiddle, textOf_bytesOf, textOf_bytesOf]
  rfl

namespace AccessRule

/-- The host of a rule by byte offsets, as the source cuts it. -/
def hostSlice (host : String) : Option (Except Error String) :=
  if host.toList.head? = some '[' ∧ host.toList.getLast? = some ']' then
    (byteSlice host 1 ((bytesOf host).length - 1)).map .ok
  else if ':' ∈ host.toList then some (.error (.other "IPv6 访问规则必须使用 [地址]:port 格式"))
  else some (.ok host)

/-- `from_str` with its slice. Where it panics, `none`. -/
def fromStrOrPanic [NetLiterals] (value : String) : Option (Except Error AccessRule) :=
  if value = "*" then some (.ok .any)
  else match rsplitOnce ':' value.toList with
    | none => some (.error (.other "访问规则必须为 IP:port、IP:* 或 *"))
    | some (host, port) => (hostSlice (String.ofList host)).map fun host => do
      let host ← host
      let ip ← orError (NetLiterals.parseIp host) (.other "访问规则包含非法 IP 地址")
      let port ← portNumber port
      return .address ip port

/-- Two different characters at the ends leave something between them. -/
theorem brackets_eq {host : List Char} (h : host.head? = some '[' ∧ host.getLast? = some ']') :
    host = '[' :: ((host.drop 1).dropLast ++ [']']) := by
  obtain ⟨hhead, hlast⟩ := h
  cases host with
  | nil => cases hhead
  | cons c rest =>
    obtain rfl := Option.some.inj hhead
    cases hrest : rest with
    | nil =>
      rw [hrest] at hlast
      exact absurd (Option.some.inj hlast) (by decide)
    | cons d tail =>
      rw [hrest, List.getLast?_cons_cons] at hlast
      rw [List.drop_succ_cons, List.drop_zero, List.dropLast_append_getLast? _ hlast]

theorem brackets_ends (inner : List Char) :
    ('[' :: (inner ++ [']'])).head? = some '[' ∧ ('[' :: (inner ++ [']'])).getLast? = some ']' :=
  ⟨rfl, by rw [← List.cons_append, List.getLast?_concat]⟩

theorem hostSlice_eq (host : List Char) : hostSlice (String.ofList host) = some (hostText host) := by
  unfold hostSlice hostText
  rw [String.toList_ofList]
  by_cases hbrackets : host.head? = some '[' ∧ host.getLast? = some ']'
  · rw [if_pos hbrackets, if_pos hbrackets]
    have hslice := byteSlice_brackets (host.drop 1).dropLast
    rw [← brackets_eq hbrackets] at hslice
    dsimp only at hslice
    rw [hslice]
    rfl
  · rw [if_neg hbrackets, if_neg hbrackets]
    split <;> rfl

/-- **No panic.** The slice is always one of characters. -/
theorem fromStrOrPanic_eq [NetLiterals] (value : String) :
    fromStrOrPanic value = some (fromStr value) := by
  unfold fromStrOrPanic fromStr
  by_cases hany : value = "*"
  · rw [if_pos hany, if_pos hany]
  · rw [if_neg hany, if_neg hany]
    cases hsplit : rsplitOnce ':' value.toList with
    | none => rfl
    | some parts =>
      obtain ⟨host, port⟩ := parts
      dsimp only
      rw [hostSlice_eq]
      rfl

/-! ### The grammar -/

/-- A literal in brackets, or a literal without a colon. -/
def HostGrammar [NetLiterals] (host : List Char) (ip : IpAddr) : Prop :=
  (∃ inner, host = '[' :: (inner ++ [']']) ∧ NetLiterals.parseIp (String.ofList inner) = some ip) ∨
    ':' ∉ host ∧ NetLiterals.parseIp (String.ofList host) = some ip

/-- A star, or digits that make a number from 1 to 65535. -/
def PortGrammar (text : List Char) (port : Option UInt16) : Prop :=
  text = ['*'] ∧ port = none ∨
    text ≠ [] ∧ (∀ c ∈ text, isAsciiDigit c = true) ∧ 1 ≤ decimalValue text ∧ decimalValue text ≤ 65535 ∧
      port = some (UInt16.ofNat (decimalValue text))

/-- An address rule: a host and a port around the last colon. -/
def Grammar [NetLiterals] (value : String) (ip : IpAddr) (port : Option UInt16) : Prop :=
  ∃ host text, value.toList = host ++ ':' :: text ∧ ':' ∉ text ∧ HostGrammar host ip ∧
    PortGrammar text port

theorem portNumber_eq_ok {text : List Char} {port : Option UInt16} :
    portNumber text = .ok port ↔ PortGrammar text port := by
  unfold portNumber PortGrammar
  by_cases hstar : text = ['*']
  · rw [if_pos hstar]
    constructor
    · intro h
      exact .inl ⟨hstar, (Except.ok.inj h).symm⟩
    · rintro (⟨_, rfl⟩ | ⟨_, hall, _⟩)
      · rfl
      · exact absurd (hall '*' (by rw [hstar]; exact List.mem_cons_self)) (by decide)
  rw [if_neg hstar]
  by_cases hdigits : text = [] ∨ ¬ text.all isAsciiDigit = true
  · rw [if_pos hdigits]
    simp only [reduceCtorEq, hstar, false_and, false_or, false_iff, not_and]
    intro hne hall
    rcases hdigits with hnil | hnot
    · exact absurd hnil hne
    · exact absurd (List.all_eq_true.mpr hall) hnot
  rw [if_neg hdigits]
  simp only [not_or, not_not, List.all_eq_true] at hdigits
  by_cases hrange : decimalValue text = 0 ∨ 65535 < decimalValue text
  · rw [if_pos hrange]
    simp only [reduceCtorEq, hstar, false_and, false_or, false_iff, not_and]
    omega
  · rw [if_neg hrange]
    simp only [Except.ok.injEq, hstar, false_and, false_or]
    constructor
    · intro h
      exact ⟨hdigits.1, hdigits.2, by omega, by omega, h.symm⟩
    · exact fun h => h.2.2.2.2.symm

theorem decimalValue_toDigits (n : Nat) : decimalValue (Nat.toDigits 10 n) = n :=
  Nat.ofDigitChars_ten_toDigits

theorem isAsciiDigit_of_mem_toDigits {c : Char} {n : Nat} (h : c ∈ Nat.toDigits 10 n) :
    isAsciiDigit c = true := by
  have hdigit := Nat.isDigit_of_mem_toDigits (by decide) (by decide) h
  simpa [isAsciiDigit, Char.isDigit, Char.le_def] using hdigit

/-- A port in decimal is a port of the grammar. -/
theorem portGrammar_toDigits {port : UInt16} (h : port ≠ 0) :
    PortGrammar (Nat.toDigits 10 port.toNat) (some port) := by
  have hpos : port.toNat ≠ 0 := fun hzero => h (UInt16.toNat_inj.mp hzero)
  have hlt := port.toNat_lt
  refine .inr ⟨Nat.toDigits_ne_nil, fun c hc => isAsciiDigit_of_mem_toDigits hc, ?_, ?_, ?_⟩
  · rw [decimalValue_toDigits]
    omega
  · rw [decimalValue_toDigits]
    omega
  · rw [decimalValue_toDigits, UInt16.ofNat_toNat]

/-! ### What a rule allows -/

/-- The addresses of a rule. -/
def allowed (rule : AccessRule) : Set SocketAddr := {address | rule.allows address = true}

@[simp] theorem allowed_any : allowed .any = Set.univ := Set.eq_univ_of_forall fun _ => rfl

@[simp] theorem allowed_host (ip : IpAddr) : allowed (.address ip none) = {address | address.ip = ip} := by
  ext address
  simp only [allowed, allows, Option.all_none, Bool.and_true, beq_iff_eq, Set.mem_ofPred_eq]
  exact eq_comm

@[simp] theorem allowed_socket (ip : IpAddr) (port : UInt16) :
    allowed (.address ip (some port)) = {⟨ip, port⟩} := by
  ext address
  obtain ⟨ip', port'⟩ := address
  simp only [allowed, allows, Option.all_some, Bool.and_eq_true, beq_iff_eq, Set.mem_ofPred_eq,
    Set.mem_singleton_iff, SocketAddr.mk.injEq]
  exact and_congr eq_comm eq_comm

section Literals
variable [NetLiterals]

theorem host_grammar (hliterals : ∀ text ip, NetLiterals.parseIp text = some ip →
      text.toList.head? ≠ some '[') {host : List Char} {ip : IpAddr} :
    (∃ text, hostText host = .ok text ∧ NetLiterals.parseIp text = some ip) ↔ HostGrammar host ip := by
  unfold hostText HostGrammar
  by_cases hbrackets : host.head? = some '[' ∧ host.getLast? = some ']'
  · rw [if_pos hbrackets]
    constructor
    · rintro ⟨text, htext, hip⟩
      obtain rfl := Except.ok.inj htext
      exact .inl ⟨_, brackets_eq hbrackets, hip⟩
    · rintro (⟨inner, rfl, hip⟩ | ⟨_, hip⟩)
      · refine ⟨_, rfl, ?_⟩
        rwa [List.drop_succ_cons, List.drop_zero, List.dropLast_concat]
      · have hhead := hliterals _ _ hip
        rw [String.toList_ofList] at hhead
        exact absurd hbrackets.1 hhead
  · rw [if_neg hbrackets]
    constructor
    · rintro ⟨text, htext, hip⟩
      split at htext
      · cases htext
      · rename_i hcolon
        obtain rfl := Except.ok.inj htext
        exact .inr ⟨hcolon, hip⟩
    · rintro (⟨inner, rfl, _⟩ | ⟨hcolon, hip⟩)
      · exact absurd (brackets_ends inner) hbrackets
      · rw [if_neg hcolon]
        exact ⟨_, rfl, hip⟩

/-- An address rule is read exactly from the grammar. -/
theorem fromStr_eq_address (hliterals : ∀ text ip, NetLiterals.parseIp text = some ip →
      text.toList.head? ≠ some '[') {value : String} {ip : IpAddr} {port : Option UInt16} :
    fromStr value = .ok (.address ip port) ↔ Grammar value ip port := by
  unfold fromStr Grammar
  by_cases hany : value = "*"
  · rw [if_pos hany, hany]
    constructor
    · intro h
      cases h
    · rintro ⟨host, text, hsplit, _⟩
      have hmem : ':' ∈ "*".toList := by
        rw [hsplit]
        exact List.mem_append_right _ List.mem_cons_self
      exact absurd hmem (by decide)
  rw [if_neg hany]
  constructor
  · intro h
    obtain ⟨⟨host, text⟩, hsplit, h⟩ := bind_eq_ok.mp h
    obtain ⟨hostLiteral, hhost, h⟩ := bind_eq_ok.mp h
    obtain ⟨ip', hip, h⟩ := bind_eq_ok.mp h
    obtain ⟨port', hport, h⟩ := bind_eq_ok.mp h
    cases pure_eq_ok.mp h
    obtain ⟨hvalue, hcolon⟩ := rsplitOnce_eq_some.mp (orError_eq_ok.mp hsplit)
    exact ⟨host, text, hvalue, hcolon,
      (host_grammar hliterals).mp ⟨hostLiteral, hhost, orError_eq_ok.mp hip⟩, portNumber_eq_ok.mp hport⟩
  · rintro ⟨host, text, hvalue, hcolon, hhost, hport⟩
    obtain ⟨hostLiteral, hliteral, hip⟩ := (host_grammar hliterals).mpr hhost
    refine bind_eq_ok.mpr ⟨(host, text), orError_eq_ok.mpr (rsplitOnce_eq_some.mpr ⟨hvalue, hcolon⟩), ?_⟩
    refine bind_eq_ok.mpr ⟨hostLiteral, hliteral, bind_eq_ok.mpr ⟨ip, orError_eq_ok.mpr hip, ?_⟩⟩
    exact bind_eq_ok.mpr ⟨port, portNumber_eq_ok.mpr hport, rfl⟩

theorem fromStr_eq_any {value : String} : fromStr value = .ok .any ↔ value = "*" := by
  unfold fromStr
  by_cases hany : value = "*"
  · rw [if_pos hany]
    exact ⟨fun _ => hany, fun _ => rfl⟩
  · rw [if_neg hany]
    refine ⟨fun h => ?_, fun h => absurd h hany⟩
    obtain ⟨_, _, h⟩ := bind_eq_ok.mp h
    obtain ⟨_, _, h⟩ := bind_eq_ok.mp h
    obtain ⟨_, _, h⟩ := bind_eq_ok.mp h
    obtain ⟨_, _, h⟩ := bind_eq_ok.mp h
    cases pure_eq_ok.mp h

/-- Everything, one host, or one socket with a port. -/
theorem allowed_cases {user : GatewayUser} {rules : List AccessRule} (h : user.rules = .ok rules)
    {rule : AccessRule} (hmem : rule ∈ rules) :
    rule.allowed = Set.univ ∨ (∃ ip, rule.allowed = {address | address.ip = ip}) ∨
      ∃ ip port, port ≠ 0 ∧ rule.allowed = {⟨ip, port⟩} := by
  cases rule with
  | any => exact .inl allowed_any
  | address ip port =>
    cases port with
    | none => exact .inr (.inl ⟨ip, allowed_host ip⟩)
    | some port =>
      exact .inr (.inr ⟨ip, port, GatewayUser.rules_namesPorts h ip port hmem, allowed_socket ip port⟩)

/-! ### The text of a socket address -/

/-- What the library writes for an IP address: a literal that it reads back, without
a colon for IPv4. -/
structure IsTextOf (text : String) (ip : IpAddr) : Prop where
  parse : NetLiterals.parseIp text = some ip
  no_colon : ∀ address, ip = .v4 address → ':' ∉ text.toList

/-- `Display` of a socket address without a scope id, from the text of its IP address. -/
def socketText (text : String) (address : SocketAddr) : String :=
  match address.ip with
  | .v4 _ => text ++ ":" ++ toString address.port.toNat
  | .v6 _ => "[" ++ text ++ "]:" ++ toString address.port.toNat

/-- The text of a socket address is in the grammar of its own rule. -/
theorem socketText_grammar {text : String} {address : SocketAddr} (htext : IsTextOf text address.ip)
    (hport : address.port ≠ 0) :
    Grammar (socketText text address) address.ip (some address.port) := by
  have hcolon : ':' ∉ Nat.toDigits 10 address.port.toNat :=
    fun h => absurd (isAsciiDigit_of_mem_toDigits h) (by decide)
  obtain ⟨ip, port⟩ := address
  cases ip with
  | v4 a =>
    refine ⟨text.toList, _, ?_, hcolon, .inr ⟨htext.no_colon a rfl, ?_⟩, portGrammar_toDigits hport⟩
    · simp [socketText]
    · rw [String.ofList_toList]
      exact htext.parse
  | v6 a =>
    refine ⟨'[' :: (text.toList ++ [']']), _, ?_, hcolon, .inl ⟨text.toList, rfl, ?_⟩,
      portGrammar_toDigits hport⟩
    · simp [socketText]
    · rw [String.ofList_toList]
      exact htext.parse

/-- **The grammar of access rules.** With any parser of IP literals whose literals do
not start with a bracket: reading a rule never panics, and accepts the star and the
grammar. So a user's rule is everything, one host, or one socket, and the text of a
socket address is the rule for that socket. -/
theorem fromStr_grammar (hliterals : ∀ text ip, NetLiterals.parseIp text = some ip →
      text.toList.head? ≠ some '[') :
    (∀ value, fromStrOrPanic value = some (fromStr value)) ∧
    (∀ value, fromStr value = .ok .any ↔ value = "*") ∧
    (∀ value ip port, fromStr value = .ok (.address ip port) ↔ Grammar value ip port) ∧
    (∀ user : GatewayUser, ∀ rules, user.rules = .ok rules → ∀ rule ∈ rules,
      rule.allowed = Set.univ ∨ (∃ ip, rule.allowed = {address | address.ip = ip}) ∨
        ∃ ip port, port ≠ 0 ∧ rule.allowed = {⟨ip, port⟩}) ∧
    ∀ text address, IsTextOf text address.ip → address.port ≠ 0 →
      ∃ rule, fromStr (socketText text address) = .ok rule ∧ rule.allowed = {address} := by
  refine ⟨fromStrOrPanic_eq, fun _ => fromStr_eq_any, fun _ _ _ => fromStr_eq_address hliterals, ?_, ?_⟩
  · intro user rules hrules rule hmem
    exact allowed_cases hrules hmem
  · intro text address htext hport
    exact ⟨_, (fromStr_eq_address hliterals).mpr (socketText_grammar htext hport), allowed_socket ..⟩

end Literals

section Example

local instance grammarLiterals : NetLiterals := .dottedQuad

/-- An octet is made of digits. -/
theorem parseOctet_no_bracket {digits : List Char} {n : Nat} (h : NetLiterals.parseOctet digits = some n) :
    digits.head? ≠ some '[' := by
  unfold NetLiterals.parseOctet at h
  split at h
  · rename_i hdigits
    intro hhead
    have hall := List.all_eq_true.mp hdigits.2.2.1
    exact absurd (hall '[' (List.mem_of_mem_head? hhead)) (by decide)
  · cases h

theorem dottedQuad_no_bracket (text : String) (ip : IpAddr) (h : NetLiterals.parseIp text = some ip) :
    text.toList.head? ≠ some '[' := by
  intro hhead
  cases htext : text.toList with
  | nil =>
    rw [htext] at hhead
    cases hhead
  | cons c rest =>
    rw [htext] at hhead
    obtain rfl := Option.some.inj hhead
    have hsplit : text.toList.splitOn '.' = (rest.splitOn '.').modifyHead ('[' :: ·) := by
      rw [htext, List.splitOn_cons_eq_if_modifyHead]
      rfl
    cases hparts : rest.splitOn '.' with
    | nil => exact absurd hparts (List.splitOn_ne_nil _ _)
    | cons part parts =>
      have hquad : NetLiterals.dottedQuad.parseQuad text = some ip := h
      rw [hparts, List.modifyHead_cons] at hsplit
      unfold NetLiterals.dottedQuad.parseQuad at hquad
      rw [hsplit, List.map_cons] at hquad
      cases hoctet : NetLiterals.parseOctet ('[' :: part) with
      | none => simp [hoctet] at hquad
      | some n => exact parseOctet_no_bracket hoctet rfl

/-- The rule of 127.0.0.1 and port 22. -/
theorem fromStr_grammar_ssh :
    ∃ rule, fromStr "127.0.0.1:22" = .ok rule ∧ rule.allowed = {⟨.v4 0x7F000001, 22⟩} := by
  have htext : IsTextOf "127.0.0.1" (.v4 0x7F000001) := by
    refine ⟨by decide +kernel, fun _ _ => by decide⟩
  exact (fromStr_grammar dottedQuad_no_bracket).2.2.2.2 "127.0.0.1" ⟨.v4 0x7F000001, 22⟩ htext (by decide)

end Example

end AccessRule

end WsNet
