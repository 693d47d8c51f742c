import WsNet.Gateway.RewriteHeader

/-! The rewriting of cookies.

The source weighs every segment of the value alike, by how its text starts. What it is
for is a fact about cookies: the first segment is the cookie, the others are attributes
with a name each. The two are compared segment by segment. -/
namespace WsNet

/-! ### Segments -/

def segments (value : List Char) : List (List Char) := value.splitOn ';'

/-- A segment trimmed, in lower case. -/
def segmentText (part : List Char) : List Char := (trim (String.ofList part)).toList.map Char.toLower

/-- The name of an attribute: what is in front of its first `=`, trimmed, in lower case. -/
def attributeName (part : List Char) : List Char := segmentText (part.takeWhile (· != '='))

/-- An attribute that a cookie of the local listener must not have. -/
def isStripped (part : List Char) : Bool :=
  attributeName part == "domain".toList || attributeName part == "secure".toList

theorem keepsSegment_eq_false {part : List Char} : keepsSegment part = false ↔
    "domain=".toList <+: segmentText part ∨ segmentText part = "secure".toList := by
  unfold keepsSegment segmentText
  simp only [Bool.and_eq_false_iff, Bool.not_eq_false', List.isPrefixOf_iff_prefix, bne_eq_false_iff_eq]

theorem not_mem_of_mem_segments {value part : List Char} (h : part ∈ segments value) : ';' ∉ part := by
  unfold segments at h
  induction value generalizing part with
  | nil => simp_all
  | cons c rest ih =>
    rw [List.splitOn_cons_eq_if_modifyHead] at h
    split at h
    · rcases List.mem_cons.mp h with rfl | h
      · simp
      · exact ih h
    · rename_i hc
      cases hrest : rest.splitOn ';' with
      | nil => exact absurd hrest (List.splitOn_ne_nil _ _)
      | cons front parts =>
        rw [hrest, List.modifyHead_cons] at h
        rcases List.mem_cons.mp h with rfl | h
        · have hfront := ih (by rw [hrest]; exact List.mem_cons_self)
          simp only [List.mem_cons, not_or]
          exact ⟨fun heq => hc (by rw [← heq]; rfl), hfront⟩
        · exact ih (by rw [hrest]; exact List.mem_cons_of_mem _ h)

/-! ### Letters -/

theorem isAlpha_iff {c : Char} :
    c.isAlpha = true ↔ 65 ≤ c.toNat ∧ c.toNat ≤ 90 ∨ 97 ≤ c.toNat ∧ c.toNat ≤ 122 := by
  have hbool : c.isAlpha = (decide ('A'.val ≤ c.val ∧ c.val ≤ 'Z'.val) ||
      (decide ('a'.val ≤ c.val) && decide (c.val ≤ 'z'.val))) := rfl
  rw [hbool, Bool.or_eq_true, Bool.and_eq_true, decide_eq_true_eq, decide_eq_true_eq, decide_eq_true_eq]
  exact Iff.rfl

theorem not_isWhitespace_of_isAlpha {c : Char} (h : c.isAlpha = true) : isWhitespace c = false := by
  by_contra hspace
  rw [Bool.not_eq_false] at hspace
  rw [isAlpha_iff] at h
  simp only [isWhitespace, Bool.or_eq_true, Bool.and_eq_true, decide_eq_true_eq, beq_iff_eq] at hspace
  omega

/-- Lower case changes letters only. -/
theorem isAlpha_or_toLower_eq (c : Char) : c.isAlpha = true ∨ c.toLower = c := by
  by_cases hupper : 'A'.val ≤ c.val ∧ c.val ≤ 'Z'.val
  · exact .inl (isAlpha_iff.mpr (.inl hupper))
  · exact .inr (dif_neg hupper)

theorem toLower_eq_equals {c : Char} : c.toLower = '=' ↔ c = '=' := by
  constructor
  · intro h
    rcases isAlpha_or_toLower_eq c with halpha | hsame
    · have hall : ∀ n : Nat, n < 128 → (Char.ofNat n).isAlpha = true → (Char.ofNat n).toLower ≠ '=' := by
        decide +kernel
      have hlt : c.toNat < 128 := by
        have hletter := isAlpha_iff.mp halpha
        omega
      have hchar := Char.ofNat_toNat c
      exact absurd (by rw [hchar]; exact h) (hall c.toNat hlt (by rw [hchar]; exact halpha))
    · rw [← hsame]
      exact h
  · rintro rfl
    decide

/-- Text whose lower case is letters is letters. -/
theorem isAlpha_of_map_toLower {l : List Char} (h : (l.map Char.toLower).all Char.isAlpha = true) :
    ∀ c ∈ l, c.isAlpha = true := by
  intro c hc
  have hlower := List.all_eq_true.mp h _ (List.mem_map_of_mem hc)
  rcases isAlpha_or_toLower_eq c with halpha | hsame
  · exact halpha
  · rw [← hsame]
    exact hlower

theorem trim_toList (l : List Char) :
    (trim (String.ofList l)).toList = (l.dropWhile isWhitespace).rdropWhile isWhitespace := by
  unfold trim
  rw [String.toList_ofList, String.toList_ofList]

/-- Letters with blanks in front are trimmed to the letters. -/
theorem trim_letters {space letters : List Char} (hspace : ∀ c ∈ space, isWhitespace c = true)
    (hletters : ∀ c ∈ letters, c.isAlpha = true) :
    (trim (String.ofList (space ++ letters))).toList = letters := by
  have hnot : ∀ c ∈ letters, isWhitespace c = false := fun c hc => not_isWhitespace_of_isAlpha (hletters c hc)
  rw [trim_toList, List.dropWhile_append_of_pos hspace]
  have hfront : letters.dropWhile isWhitespace = letters := by
    cases letters with
    | nil => rfl
    | cons c rest => rw [List.dropWhile_cons, hnot c List.mem_cons_self, if_neg (by decide)]
  rw [hfront, List.rdropWhile_eq_self_iff]
  intro hne hlast
  rw [hnot _ (List.getLast_mem hne)] at hlast
  exact absurd hlast (by decide)

/-! ### What the source drops is an attribute to be dropped -/

theorem takeWhile_ne_equals {part : List Char} (h : '=' ∉ part) : part.takeWhile (· != '=') = part := by
  rw [List.takeWhile_eq_self_iff]
  intro c hc
  rw [bne_iff_ne]
  rintro rfl
  exact h hc

/-- A segment that is text and nothing else has no `=`. -/
theorem attributeName_secure {part : List Char} (h : segmentText part = "secure".toList) :
    '=' ∉ part ∧ attributeName part = "secure".toList := by
  have hnot : '=' ∉ part := by
    intro hmem
    have hkept : '=' ∈ (part.dropWhile isWhitespace).rdropWhile isWhitespace := by
      rw [← List.takeWhile_append_dropWhile (p := isWhitespace) (l := part)] at hmem
      rcases List.mem_append.mp hmem with hmem | hmem
      · exact absurd (List.mem_takeWhile_imp hmem) (by decide)
      rw [← List.rdropWhile_append_rtakeWhile (p := isWhitespace) (l := part.dropWhile isWhitespace)] at hmem
      rcases List.mem_append.mp hmem with hmem | hmem
      · exact hmem
      · exact absurd (List.mem_rtakeWhile_imp hmem) (by decide)
    have hlower : '=' ∈ segmentText part := by
      unfold segmentText
      rw [trim_toList]
      exact List.mem_map.mpr ⟨'=', hkept, by decide⟩
    rw [h] at hlower
    exact absurd hlower (by decide)
  refine ⟨hnot, ?_⟩
  rw [attributeName, takeWhile_ne_equals hnot, h]

/-- A segment that starts with `domain=` has that name. -/
theorem attributeName_domain {part : List Char} (h : "domain=".toList <+: segmentText part) :
    attributeName part = "domain".toList := by
  -- blanks, then seven characters that are `domain=` in lower case
  obtain ⟨rest, hrest⟩ := h
  have hpre := (List.rdropWhile_prefix isWhitespace (part.dropWhile isWhitespace)).map Char.toLower
  unfold segmentText at hrest
  rw [trim_toList] at hrest
  rw [← hrest] at hpre
  obtain ⟨rest', hrest'⟩ := hpre
  have hsplit : "domain=".toList = "domain".toList ++ ['='] := by decide
  rw [hsplit, List.append_assoc, List.append_assoc] at hrest'
  obtain ⟨letters, tail, hpart, hletters, htail⟩ := List.map_eq_append_iff.mp hrest'.symm
  obtain ⟨c, tail', rfl, hc, _⟩ := List.map_eq_cons_iff.mp htail
  obtain rfl := toLower_eq_equals.mp hc
  have halpha : ∀ c ∈ letters, c.isAlpha = true :=
    isAlpha_of_map_toLower (by rw [hletters]; decide)
  have hspace : ∀ c ∈ part.takeWhile isWhitespace, isWhitespace c = true :=
    fun c hc => List.mem_takeWhile_imp hc
  have hname : part.takeWhile (· != '=') = part.takeWhile isWhitespace ++ letters := by
    have hall : ∀ c ∈ part.takeWhile isWhitespace ++ letters, (c != '=') = true := by
      intro c hc
      rw [bne_iff_ne]
      rintro rfl
      rcases List.mem_append.mp hc with hc | hc
      · exact absurd (hspace _ hc) (by decide)
      · exact absurd (halpha _ hc) (by decide)
    conv_lhs => rw [← List.takeWhile_append_dropWhile (p := isWhitespace) (l := part), hpart]
    rw [← List.append_assoc, List.takeWhile_append_of_pos hall]
    simp
  rw [attributeName, segmentText, hname, trim_letters hspace halpha, hletters]

theorem isStripped_of_dropped {part : List Char} (h : keepsSegment part = false) :
    isStripped part = true := by
  unfold isStripped
  rcases keepsSegment_eq_false.mp h with hdomain | hsecure
  · rw [attributeName_domain hdomain, beq_self_eq_true, Bool.true_or]
  · rw [(attributeName_secure hsecure).2, beq_self_eq_true, Bool.or_true]

/-- How an attribute has to be written to be recognised: `Domain` with its `=` right
behind it, `Secure` without one. -/
def Recognised (part : List Char) : Prop :=
  (attributeName part = "domain".toList → "domain=".toList <+: segmentText part) ∧
    (attributeName part = "secure".toList → '=' ∉ part)

theorem recognised_iff {part : List Char} :
    Recognised part ↔ (isStripped part = true → keepsSegment part = false) := by
  unfold Recognised isStripped
  rw [Bool.or_eq_true, beq_iff_eq, beq_iff_eq, keepsSegment_eq_false]
  have hnames : ("domain".toList : List Char) ≠ "secure".toList := by decide
  constructor
  · rintro ⟨hdomain, hsecure⟩ (hname | hname)
    · exact .inl (hdomain hname)
    · refine .inr ?_
      rw [← hname, attributeName, takeWhile_ne_equals (hsecure hname)]
  · intro h
    constructor
    · intro hname
      rcases h (.inl hname) with hpre | htext
      · exact hpre
      · exact absurd (hname.symm.trans (attributeName_secure htext).2) hnames
    · intro hname
      rcases h (.inr hname) with hpre | htext
      · exact absurd ((attributeName_domain hpre).symm.trans hname) hnames
      · exact (attributeName_secure htext).1

/-! ### The rewriting of a cookie -/

/-- What a rewritten cookie is for: the cookie itself, and its attributes without the
ones to be dropped. -/
def CookieKept (value result : List Char) : Prop :=
  ∃ cookie attributes, segments value = cookie :: attributes ∧
    segments result = cookie :: attributes.filter fun part => !isStripped part

/-- The condition: the cookie itself passes the test for attributes, and each attribute is
written so that the test recognises it. -/
def CookieFits (value : List Char) : Prop :=
  ∃ cookie attributes, segments value = cookie :: attributes ∧ keepsSegment cookie = true ∧
    ∀ part ∈ attributes, Recognised part

/-- With no segment left, what is left is one empty segment. -/
theorem segments_rewriteCookie (value : List Char) :
    segments (rewriteCookie value) =
      if (segments value).filter keepsSegment = [] then [[]] else (segments value).filter keepsSegment := by
  unfold rewriteCookie
  split
  · rename_i hnone
    unfold segments at hnone
    rw [hnone]
    rfl
  · rename_i hsome
    exact List.splitOn_intercalate ';'
      (fun part hpart => not_mem_of_mem_segments (List.mem_filter.mp hpart).1) hsome

/-- Every segment of a rewritten cookie stays. -/
theorem keepsSegment_of_mem {value part : List Char} (h : part ∈ segments (rewriteCookie value)) :
    keepsSegment part = true := by
  rw [segments_rewriteCookie] at h
  split at h
  · rw [List.mem_singleton.mp h]
    decide +kernel
  · exact (List.mem_filter.mp h).2

/-- Rewriting again changes nothing. -/
theorem rewriteCookie_rewriteCookie (value : List Char) :
    rewriteCookie (rewriteCookie value) = rewriteCookie value := by
  have hall : (segments (rewriteCookie value)).filter keepsSegment = segments (rewriteCookie value) :=
    List.filter_eq_self.mpr fun part hpart => keepsSegment_of_mem hpart
  calc rewriteCookie (rewriteCookie value)
      = [';'].intercalate ((segments (rewriteCookie value)).filter keepsSegment) := rfl
    _ = [';'].intercalate (segments (rewriteCookie value)) := by rw [hall]
    _ = rewriteCookie value := List.intercalate_splitOn ';'

theorem cookieKept_iff (value : List Char) : CookieKept value (rewriteCookie value) ↔ CookieFits value := by
  constructor
  · rintro ⟨cookie, attributes, hvalue, hresult⟩
    have hcookie : keepsSegment cookie = true :=
      keepsSegment_of_mem (by rw [hresult]; exact List.mem_cons_self)
    refine ⟨cookie, attributes, hvalue, hcookie, ?_⟩
    intro part hpart
    refine recognised_iff.mpr fun hstripped => ?_
    by_contra hkept
    rw [Bool.not_eq_false] at hkept
    -- a kept attribute is in the result, where no stripped one is
    have hfilter : (segments value).filter keepsSegment = cookie :: attributes.filter keepsSegment := by
      rw [hvalue, List.filter_cons_of_pos hcookie]
    rw [segments_rewriteCookie, hfilter, if_neg (by simp)] at hresult
    have hmem : part ∈ attributes.filter fun part => !isStripped part := by
      rw [← (List.cons.inj hresult).2]
      exact List.mem_filter.mpr ⟨hpart, hkept⟩
    have hnot := (List.mem_filter.mp hmem).2
    rw [hstripped] at hnot
    exact absurd hnot (by decide)
  · rintro ⟨cookie, attributes, hvalue, hcookie, hrecognised⟩
    refine ⟨cookie, attributes, hvalue, ?_⟩
    have hfilter : (segments value).filter keepsSegment = cookie :: attributes.filter keepsSegment := by
      rw [hvalue, List.filter_cons_of_pos hcookie]
    have hsame : ∀ part ∈ attributes, keepsSegment part = !isStripped part := by
      intro part hpart
      cases hkept : keepsSegment part with
      | false => rw [isStripped_of_dropped hkept, Bool.not_true]
      | true =>
        cases hstripped : isStripped part with
        | false => rw [Bool.not_false]
        | true =>
          rw [recognised_iff.mp (hrecognised part hpart) hstripped] at hkept
          cases hkept
    rw [segments_rewriteCookie, hfilter, if_neg (List.cons_ne_nil _ _), List.filter_congr hsame]

theorem rewriteHeader_cookie {target : TargetConfig} {name : String} (value : String)
    (hrewrite : target.rewriteCookie = true) (hname : eqIgnoreAsciiCase name "set-cookie" = true) :
    (rewriteHeader target name value).toList = rewriteCookie value.toList := by
  have hlocation : eqIgnoreAsciiCase name "location" = false := by
    unfold eqIgnoreAsciiCase at hname ⊢
    rw [beq_iff_eq.mp hname]
    decide
  unfold rewriteHeader
  simp [hrewrite, hname, hlocation]

/-- **Rewritten cookies.** The cookie stays, its attributes lose exactly `Domain` and
`Secure`, and rewriting again changes nothing, exactly where the condition holds. -/
theorem cookie_kept_iff (target : TargetConfig) (name value : String)
    (hrewrite : target.rewriteCookie = true) (hname : eqIgnoreAsciiCase name "set-cookie" = true) :
    CookieKept value.toList (rewriteHeader target name value).toList ∧
      rewriteHeader target name (rewriteHeader target name value) = rewriteHeader target name value ↔
    CookieFits value.toList := by
  have hagain : rewriteHeader target name (rewriteHeader target name value) =
      rewriteHeader target name value := by
    rw [← String.toList_inj, rewriteHeader_cookie _ hrewrite hname, rewriteHeader_cookie _ hrewrite hname,
      rewriteCookie_rewriteCookie]
  rw [rewriteHeader_cookie value hrewrite hname]
  exact ⟨fun h => (cookieKept_iff _).mp h.1, fun h => ⟨(cookieKept_iff _).mpr h, hagain⟩⟩

section Example

/-- An HTTPS service whose cookies are rewritten. -/
def shopTarget : TargetConfig := ⟨.http, "shop.internal", 443, some "https", false, true, true⟩

theorem cookie_kept_iff_session :
    CookieKept "id=7; Secure; Path=/".toList
      (rewriteHeader shopTarget "Set-Cookie" "id=7; Secure; Path=/").toList := by
  refine ((cookie_kept_iff shopTarget "Set-Cookie" "id=7; Secure; Path=/" rfl (by decide +kernel)).mpr ?_).1
  refine ⟨"id=7".toList, [" Secure".toList, " Path=/".toList], by decide +kernel, by decide +kernel, ?_⟩
  intro part hpart
  rcases List.mem_cons.mp hpart with rfl | hpart
  · exact ⟨fun h => absurd h (by decide +kernel), fun _ => by decide +kernel⟩
  · rw [List.mem_singleton.mp hpart]
    exact ⟨fun h => absurd h (by decide +kernel), fun h => absurd h (by decide +kernel)⟩

/-- A cookie named `domain` is dropped. -/
theorem not_cookie_kept : ¬ ∀ (target : TargetConfig) (name value : String),
    target.rewriteCookie = true → eqIgnoreAsciiCase name "set-cookie" = true →
      CookieKept value.toList (rewriteHeader target name value).toList ∧
        rewriteHeader target name (rewriteHeader target name value) = rewriteHeader target name value := by
  intro h
  obtain ⟨⟨cookie, attributes, hvalue, hresult⟩, _⟩ :=
    h shopTarget "Set-Cookie" "domain=eu; Path=/" rfl (by decide +kernel)
  have hsegments : segments "domain=eu; Path=/".toList = ["domain=eu".toList, " Path=/".toList] := by
    decide +kernel
  rw [hsegments] at hvalue
  have hrewritten : segments (rewriteHeader shopTarget "Set-Cookie" "domain=eu; Path=/").toList =
      [" Path=/".toList] := by decide +kernel
  rw [hrewritten] at hresult
  have hfirst := (List.cons.inj hvalue).1.trans (List.cons.inj hresult).1.symm
  exact absurd hfirst (by decide)

end Example

end WsNet
