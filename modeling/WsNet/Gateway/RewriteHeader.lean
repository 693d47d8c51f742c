import Mathlib.Data.List.Basic
import WsNet.Gateway.RuleGrammar

/-! The rewriting of response headers, and of `Location` in particular.

The source cuts `scheme://host` off the front of the value, as a text. What it is for
is a fact about URLs: a location on the target itself becomes a path on the local
listener. So the authority of a value is read here as a URL has it, and the two are
compared (`location_local_iff`). -/
namespace WsNet

/-- `eq_ignore_ascii_case`. -/
def eqIgnoreAsciiCase (a b : String) : Bool := a.toList.map Char.toLower == b.toList.map Char.toLower

/-- Whether a segment of a cookie stays. -/
def keepsSegment (part : List Char) : Bool :=
  let trimmed := (trim (String.ofList part)).toList.map Char.toLower
  !("domain=".toList.isPrefixOf trimmed) && trimmed != "secure".toList

def rewriteCookie (value : List Char) : List Char :=
  [';'].intercalate ((value.splitOn ';').filter keepsSegment)

namespace TargetConfig

def schemeText (target : TargetConfig) : String := target.scheme.getD "http"

/-- What is cut off a location. -/
def locationFront (target : TargetConfig) : List Char :=
  target.schemeText.toList ++ "://".toList ++ target.host.toList

end TargetConfig

def rewriteHeader (target : TargetConfig) (name value : String) : String :=
  let location :=
    if target.rewriteLocation && eqIgnoreAsciiCase name "location" then
      value.toList.dropPrefix? target.locationFront
    else none
  match location with
  | some rest => String.ofList rest
  | none =>
    if target.rewriteCookie && eqIgnoreAsciiCase name "set-cookie" then
      String.ofList (rewriteCookie value.toList)
    else value

/-! ### The authority of a URL -/

/-- What ends an authority. -/
def endsAuthority (c : Char) : Bool := c == '/' || c == '?' || c == '#'

/-- An authority without the part before its last `@`. -/
def withoutUserinfo (authority : List Char) : List Char :=
  match rsplitOnce '@' authority with
  | some (_, rest) => rest
  | none => authority

/-- The port behind a host: nothing, or a colon and the port. -/
def portText : List Char → Option (Option (List Char))
  | [] => some none
  | ':' :: port => some (some port)
  | _ => none

/-- A host, which may be in brackets, and its port. -/
def hostAndPort (text : List Char) : Option (List Char × Option (List Char)) :=
  let host :=
    if text.head? = some '[' then
      text.takeWhile (· != ']') ++ (text.dropWhile (· != ']')).take 1
    else text.takeWhile (· != ':')
  (portText (text.drop host.length)).map fun port => (host, port)

/-- Absent, which an empty one is as well, or the target's. -/
def portIs (expected : UInt16) (port : Option (List Char)) : Bool :=
  match port with
  | none => true
  | some digits => digits.isEmpty || digits.all isAsciiDigit && decimalValue digits == expected.toNat

namespace TargetConfig
variable (target : TargetConfig)

/-- The path, query and fragment of a value whose scheme and authority are the target's
own. -/
def ownPath (value : List Char) : Option (List Char) := do
  let rest ← value.dropPrefix? (target.schemeText.toList ++ "://".toList)
  let authority := rest.takeWhile fun c => !endsAuthority c
  let (host, port) ← hostAndPort (withoutUserinfo authority)
  if host = target.host.toList ∧ portIs target.port port then
    some (rest.dropWhile fun c => !endsAuthority c)
  else none

/-- What a rewritten location is for: a value is changed only if it is the target's own,
and then, changed or not, it is a path that starts with one slash. -/
def LocationLocal (value result : List Char) : Prop :=
  (result ≠ value → (target.ownPath value).isSome = true) ∧
    ∀ path, target.ownPath value = some path → result = '/' :: path.dropWhile (· == '/')

/-- The target's host ends where the authority does. -/
def PlainHost : Prop :=
  (∀ c ∈ target.host.toList, endsAuthority c = false) ∧ '@' ∉ target.host.toList ∧
    hostAndPort target.host.toList = some (target.host.toList, none)

end TargetConfig

/-- Exactly one slash at the front. -/
def OneSlash (path : List Char) : Prop := ∃ rest, path = '/' :: rest ∧ rest.head? ≠ some '/'

theorem oneSlash_dropWhile (path : List Char) : OneSlash ('/' :: path.dropWhile (· == '/')) := by
  refine ⟨_, rfl, fun hhead => ?_⟩
  have hfirst := List.head?_dropWhile_not (fun c => c == '/') path
  rw [hhead] at hfirst
  exact absurd hfirst (by decide)

theorem OneSlash.dropWhile {path : List Char} (h : OneSlash path) :
    '/' :: path.dropWhile (· == '/') = path := by
  obtain ⟨rest, rfl, hrest⟩ := h
  cases rest with
  | nil => rfl
  | cons c rest =>
    have hc : (c == '/') = false := by
      rw [beq_eq_false_iff_ne]
      exact fun h => hrest (by rw [h]; rfl)
    simp [hc]

theorem dropPrefix?_eq_some {l p rest : List Char} : l.dropPrefix? p = some rest ↔ l = p ++ rest := by
  rw [List.dropPrefix?_eq_some_iff]
  constructor
  · rintro ⟨p', rfl, hp⟩
    rw [beq_iff_eq.mp hp]
  · exact fun h => ⟨p, h, beq_self_eq_true p⟩

/-- A character that ends an authority ends what is taken. -/
theorem takeWhile_append_slash (l rest : List Char) :
    (l ++ '/' :: rest).takeWhile (fun c => !endsAuthority c) = l.takeWhile fun c => !endsAuthority c := by
  induction l with
  | nil => rfl
  | cons c l ih => rw [List.cons_append, List.takeWhile_cons, List.takeWhile_cons, ih]

theorem withoutUserinfo_cases (authority : List Char) :
    ('@' ∉ authority ∧ withoutUserinfo authority = authority) ∨
      (withoutUserinfo authority).length < authority.length := by
  unfold withoutUserinfo
  cases hsplit : rsplitOnce '@' authority with
  | none => exact .inl ⟨rsplitOnce_eq_none.mp hsplit, rfl⟩
  | some parts =>
    obtain ⟨user, rest⟩ := parts
    obtain ⟨rfl, _⟩ := rsplitOnce_eq_some.mp hsplit
    refine .inr ?_
    simp only [List.length_append, List.length_cons]
    omega

/-- A host is the front of the text, and the port is read behind it. -/
theorem hostAndPort_eq_some {text host : List Char} {port : Option (List Char)}
    (h : hostAndPort text = some (host, port)) :
    ∃ tail, text = host ++ tail ∧ portText tail = some port := by
  obtain ⟨port', hport, hpair⟩ := Option.map_eq_some_iff.mp h
  obtain ⟨hhost, rfl⟩ := Prod.mk.inj hpair
  rw [hhost] at hport
  refine ⟨text.drop host.length, ?_, hport⟩
  have hfront : ∃ back, text = host ++ back := by
    rw [← hhost]
    split
    · refine ⟨(text.dropWhile (· != ']')).drop 1, ?_⟩
      rw [List.append_assoc, List.take_append_drop, List.takeWhile_append_dropWhile]
    · exact ⟨text.dropWhile (· != ':'), List.takeWhile_append_dropWhile.symm⟩
  obtain ⟨back, hback⟩ := hfront
  conv_rhs => rw [hback, List.drop_left]
  exact hback

/-! ### The rewriting of a location -/

namespace TargetConfig
variable {target : TargetConfig}

/-- A value that starts as the target's own is read from the host on. -/
theorem ownPath_front {value rest : List Char} (h : value = target.locationFront ++ rest) :
    target.ownPath value =
      (hostAndPort (withoutUserinfo ((target.host.toList ++ rest).takeWhile fun c => !endsAuthority c))).bind
        fun r => if r.1 = target.host.toList ∧ portIs target.port r.2 then
          some ((target.host.toList ++ rest).dropWhile fun c => !endsAuthority c) else none := by
  have hrest : value.dropPrefix? (target.schemeText.toList ++ "://".toList) =
      some (target.host.toList ++ rest) := by
    rw [dropPrefix?_eq_some, h, locationFront, List.append_assoc]
  unfold ownPath
  rw [hrest]
  rfl

/-- Behind a plain host, a slash starts the path. -/
theorem ownPath_of_plainHost (hplain : target.PlainHost) {value rest : List Char}
    (h : value = target.locationFront ++ '/' :: rest) : target.ownPath value = some ('/' :: rest) := by
  obtain ⟨hends, huser, hhost⟩ := hplain
  have hall : ∀ c ∈ target.host.toList, (!endsAuthority c) = true := by
    intro c hc
    rw [hends c hc]
    rfl
  have htake : (target.host.toList ++ '/' :: rest).takeWhile (fun c => !endsAuthority c) =
      target.host.toList := by
    rw [takeWhile_append_slash, List.takeWhile_eq_self_iff]
    exact hall
  have hdrop : (target.host.toList ++ '/' :: rest).dropWhile (fun c => !endsAuthority c) = '/' :: rest := by
    rw [List.dropWhile_append_of_pos hall]
    rfl
  have hname : withoutUserinfo target.host.toList = target.host.toList := by
    rcases withoutUserinfo_cases target.host.toList with ⟨_, hself⟩ | hlt
    · exact hself
    · unfold withoutUserinfo
      rw [rsplitOnce_eq_none.mpr huser]
  rw [ownPath_front h, htake, hdrop, hname, hhost, Option.bind_some, if_pos ⟨rfl, rfl⟩]

/-- Where a slash follows the target's host and the value is the target's own, the host
is the whole authority. -/
theorem plainHost_of_ownPath {value rest path : List Char}
    (h : value = target.locationFront ++ '/' :: rest) (hown : target.ownPath value = some path) :
    target.PlainHost := by
  rw [ownPath_front h, takeWhile_append_slash] at hown
  obtain ⟨⟨host, port⟩, hhost, hpath⟩ := Option.bind_eq_some_iff.mp hown
  obtain ⟨⟨rfl, _⟩, _⟩ := Option.ite_none_right_eq_some.mp hpath
  obtain ⟨tail, htext, hport⟩ := hostAndPort_eq_some hhost
  have hlength := congrArg List.length htext
  rw [List.length_append] at hlength
  have htake := (List.takeWhile_prefix (l := target.host.toList) fun c => !endsAuthority c)
  -- what is left of the host after the cuts is as long as the host: nothing was cut
  rcases withoutUserinfo_cases (target.host.toList.takeWhile fun c => !endsAuthority c) with
    ⟨huser, hself⟩ | hlt
  · have hle := htake.length_le
    rw [hself] at hlength hhost htext
    have hall : (target.host.toList.takeWhile fun c => !endsAuthority c) = target.host.toList :=
      htake.eq_of_length (by omega)
    rw [hall] at huser hhost htext
    have htail : tail = [] := List.self_eq_append_right.mp htext
    subst htail
    cases hport
    refine ⟨?_, huser, hhost⟩
    intro c hc
    have hkept := List.takeWhile_eq_self_iff.mp hall c hc
    simpa using hkept
  · have hle := htake.length_le
    omega

/-- What is cut off is not empty, so a rewritten value is a different one. -/
theorem rest_ne (target : TargetConfig) (rest : List Char) : rest ≠ target.locationFront ++ rest := by
  intro h
  have hlength := congrArg List.length h
  have hfront : "://".toList.length ≤ target.locationFront.length := by
    simp only [locationFront, List.length_append]
    omega
  have hthree : "://".toList.length = 3 := by decide
  rw [List.length_append] at hlength
  omega

/-- A value with an authority is longer than its path. -/
theorem ownPath_ne {value path : List Char} (h : target.ownPath value = some path) :
    value ≠ '/' :: path.dropWhile (· == '/') := by
  intro hvalue
  obtain ⟨rest, hrest, h⟩ := Option.bind_eq_some_iff.mp h
  obtain ⟨_, _, h⟩ := Option.bind_eq_some_iff.mp h
  obtain ⟨_, hpath⟩ := Option.ite_none_right_eq_some.mp h
  have hfront := congrArg List.length (dropPrefix?_eq_some.mp hrest)
  have hthree : "://".toList.length = 3 := by decide
  have hle : path.length ≤ rest.length := by
    rw [← Option.some.inj hpath]
    exact (List.dropWhile_sublist _).length_le
  have hle' := (List.dropWhile_sublist (fun c => c == '/') (l := path)).length_le
  rw [hvalue] at hfront
  simp only [List.length_append, List.length_cons, hthree] at hfront
  omega

/-- The condition: what follows the front is a path that starts with one slash, behind a
plain host; and without the front the value is not the target's own. -/
def LocationFits (target : TargetConfig) (value : List Char) : Prop :=
  (∀ rest, value.dropPrefix? target.locationFront = some rest → target.PlainHost ∧ OneSlash rest) ∧
    (value.dropPrefix? target.locationFront = none → target.ownPath value = none)

/-- **Rewritten locations.** A location that is rewritten, or that is the target's own,
becomes a local path exactly where the condition holds. -/
theorem location_local_iff (target : TargetConfig) (name value : String)
    (hrewrite : target.rewriteLocation = true) (hname : eqIgnoreAsciiCase name "location" = true) :
    target.LocationLocal value.toList (rewriteHeader target name value).toList ↔
      target.LocationFits value.toList := by
  have hcookie : eqIgnoreAsciiCase name "set-cookie" = false := by
    unfold eqIgnoreAsciiCase at hname ⊢
    rw [beq_iff_eq.mp hname]
    decide
  unfold rewriteHeader LocationFits LocationLocal
  simp only [hrewrite, hname, hcookie, Bool.and_self, Bool.and_false, if_true]
  cases hfront : value.toList.dropPrefix? target.locationFront with
  | none =>
    simp only [Bool.false_eq_true, if_false, ne_eq, not_true_eq_false, false_implies, true_and,
      reduceCtorEq, implies_true, true_implies]
    rw [Option.eq_none_iff_forall_ne_some]
    exact ⟨fun h path hown => ownPath_ne hown (h path hown), fun h path hown => absurd hown (h path)⟩
  | some rest =>
    have hvalue := dropPrefix?_eq_some.mp hfront
    simp only [String.toList_ofList, Option.some.injEq, reduceCtorEq, false_implies, and_true,
      forall_eq']
    constructor
    · rintro ⟨howned, hpath⟩
      obtain ⟨path, hown⟩ := Option.isSome_iff_exists.mp
        (howned fun h => rest_ne target rest (h.trans hvalue))
      have hrest := hpath path hown
      refine ⟨?_, hrest ▸ oneSlash_dropWhile path⟩
      rw [hrest] at hvalue
      exact plainHost_of_ownPath hvalue hown
    · rintro ⟨hplain, hslash⟩
      obtain ⟨path, hrest, _⟩ := id hslash
      have hown : target.ownPath value.toList = some rest := by
        rw [hrest] at hvalue ⊢
        exact ownPath_of_plainHost hplain hvalue
      rw [hown]
      refine ⟨fun _ => rfl, ?_⟩
      intro path hpath
      cases hpath
      exact hslash.dropWhile.symm

section Example

/-- An HTTP service on its own port. -/
def portalTarget : TargetConfig := ⟨.http, "10.0.0.6", 8080, some "http", false, true, true⟩

/-- A location without the port becomes a path. -/
theorem location_local_iff_plain :
    portalTarget.LocationLocal "http://10.0.0.6/login".toList
      (rewriteHeader portalTarget "Location" "http://10.0.0.6/login").toList := by
  refine (location_local_iff portalTarget "Location" "http://10.0.0.6/login" rfl (by decide +kernel)).mpr ?_
  have hfront : "http://10.0.0.6/login".toList.dropPrefix? portalTarget.locationFront =
      some ['/', 'l', 'o', 'g', 'i', 'n'] := by decide +kernel
  constructor
  · intro rest hrest
    rw [hfront] at hrest
    cases hrest
    have hends : (portalTarget.host.toList.all fun c => endsAuthority c == false) = true := by decide +kernel
    have hplain : portalTarget.PlainHost :=
      ⟨fun c hc => beq_iff_eq.mp (List.all_eq_true.mp hends c hc), by decide +kernel, by decide +kernel⟩
    exact ⟨hplain, ['l', 'o', 'g', 'i', 'n'], rfl, by decide⟩
  · intro hnone
    rw [hfront] at hnone
    cases hnone

/-- With the port, which is the target's, it becomes a text that starts with a colon. -/
theorem not_location_local : ¬ ∀ (target : TargetConfig) (name value : String),
    target.rewriteLocation = true → eqIgnoreAsciiCase name "location" = true →
      target.LocationLocal value.toList (rewriteHeader target name value).toList := by
  intro h
  have hlocal := h portalTarget "Location" "http://10.0.0.6:8080/login" rfl (by decide +kernel)
  have hown : portalTarget.ownPath "http://10.0.0.6:8080/login".toList = some "/login".toList := by
    decide +kernel
  have hresult := hlocal.2 _ hown
  exact absurd hresult (by decide +kernel)

end Example

end TargetConfig

end WsNet
