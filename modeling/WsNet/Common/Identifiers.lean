import WsNet.Common.Text

/-! Identifiers derived from tokens and random identifiers.

The cryptographic library is a parameter (`Ring`): what is assumed of it is a
named hypothesis of the theorem that needs it. -/
namespace WsNet

/-- The hash, key derivation and key agreement that the program takes from its
cryptographic library. Keys, salts and digests are byte strings. -/
class Ring where
  sha256 : Bytes → Bytes
  /-- HKDF-Extract of a salt and the input keying material. -/
  hkdfExtract : Bytes → Bytes → Bytes
  /-- HKDF-Expand of a pseudorandom key and the info, to the length of an AEAD key. -/
  hkdfExpand : Bytes → Bytes → Bytes
  /-- X25519 between a private key and a peer's public key. -/
  agree : Bytes → Bytes → Option Bytes
  publicKey : Bytes → Bytes

namespace Ring

/-- What is assumed of the hash and of the key derivation: no two inputs collide. -/
structure Ideal [Ring] : Prop where
  sha256_inj : ∀ a b : Bytes, sha256 a = sha256 b → a = b
  extract_inj : ∀ salt ikm salt' ikm' : Bytes,
    hkdfExtract salt ikm = hkdfExtract salt' ikm' → salt = salt' ∧ ikm = ikm'
  expand_inj : ∀ prk info prk' info' : Bytes,
    hkdfExpand prk info = hkdfExpand prk' info' → prk = prk' ∧ info = info'

/-- Two byte strings as one: each byte of the first is marked. -/
def pair (a b : Bytes) : Bytes := a.flatMap (fun x => [1, x]) ++ 0 :: b

theorem pair_inj {a b a' b' : Bytes} (h : pair a b = pair a' b') : a = a' ∧ b = b' := by
  induction a generalizing a' with
  | nil =>
    cases a' with
    | nil => simpa [pair] using h
    | cons y ys => simp [pair] at h
  | cons x xs ih =>
    cases a' with
    | nil => simp [pair] at h
    | cons y ys =>
      simp only [pair, List.flatMap_cons, List.cons_append, List.nil_append, List.cons.injEq,
        true_and] at h
      obtain ⟨hxs, hb⟩ := ih h.2
      exact ⟨by rw [h.1, hxs], hb⟩

/-- The instance in which nothing is lost: a digest is its input, a derived key is
the pair it was derived from. -/
@[reducible] def free : Ring where
  sha256 := id
  hkdfExtract := pair
  hkdfExpand := pair
  agree := fun key peer => some (List.zipWith (· + ·) key peer)
  publicKey := id

theorem free_ideal : @Ideal free :=
  @Ideal.mk free (fun _ _ h => h) (fun _ _ _ _ h => pair_inj h) (fun _ _ _ _ h => pair_inj h)

end Ring

/-! ### Hexadecimal text -/

def hexDigit (n : Nat) : Char :=
  if n < 10 then Char.ofNat ('0'.toNat + n) else Char.ofNat ('a'.toNat + (n - 10))

def hexByte (b : UInt8) : List Char := [hexDigit (b.toNat / 16), hexDigit (b.toNat % 16)]

def hex (bytes : Bytes) : String := String.ofList (bytes.flatMap hexByte)

theorem hexDigit_inj {m n : Nat} (hm : m < 16) (hn : n < 16) (h : hexDigit m = hexDigit n) : m = n := by
  have all : ∀ m < 16, ∀ n < 16, hexDigit m = hexDigit n → m = n := by decide
  exact all m hm n hn h

theorem hexByte_inj {a b : UInt8} (h : hexByte a = hexByte b) : a = b := by
  have ha := a.toNat_lt
  have hb := b.toNat_lt
  simp only [hexByte, List.cons.injEq, and_true] at h
  have hhigh := hexDigit_inj (by omega) (by omega) h.1
  have hlow := hexDigit_inj (by omega) (by omega) h.2
  apply UInt8.toNat_inj.mp
  omega

theorem flatMap_hexByte_inj {a b : Bytes} (h : a.flatMap hexByte = b.flatMap hexByte) : a = b := by
  induction a generalizing b with
  | nil =>
    cases b with
    | nil => rfl
    | cons y ys => simp [hexByte] at h
  | cons x xs ih =>
    cases b with
    | nil => simp [hexByte] at h
    | cons y ys =>
      simp only [List.flatMap_cons] at h
      obtain ⟨hhead, htail⟩ := List.append_inj h rfl
      rw [hexByte_inj hhead, ih htail]

/-- Two digits a byte: the text determines the bytes. -/
theorem hex_inj {a b : Bytes} (h : hex a = hex b) : a = b :=
  flatMap_hexByte_inj (String.ofList_inj.mp h)

/-! ### Identifiers -/

/-- Sixty-four hexadecimal digits. -/
def validId (value : String) : Bool :=
  value.toList.length == 64 && value.toList.all isAsciiHexDigit

theorem length_flatMap_hexByte (bytes : Bytes) : (bytes.flatMap hexByte).length = 2 * bytes.length := by
  induction bytes with
  | nil => rfl
  | cons b rest ih =>
    rw [List.flatMap_cons, List.length_append, ih, List.length_cons]
    simp only [hexByte, List.length_cons, List.length_nil]
    omega

/-- Thirty-two bytes make an identifier. -/
theorem validId_hex {bytes : Bytes} (h : bytes.length = 32) : validId (hex bytes) = true := by
  have hlength : (bytes.flatMap hexByte).length = 64 := by
    rw [length_flatMap_hexByte, h]
  have hdigits : ∀ n < 16, isAsciiHexDigit (hexDigit n) = true := by decide
  have hall : (bytes.flatMap hexByte).all isAsciiHexDigit = true := by
    rw [List.all_eq_true]
    intro c hc
    obtain ⟨b, _, hc⟩ := List.mem_flatMap.mp hc
    have hb := b.toNat_lt
    rcases List.mem_cons.mp hc with rfl | hc
    · exact hdigits _ (by omega)
    · rcases List.mem_singleton.mp hc with rfl
      exact hdigits _ (Nat.mod_lt _ (by decide))
  unfold validId hex
  rw [String.toList_ofList, hlength, hall]
  rfl

/-- An identifier is no blank text. -/
theorem isBlank_of_validId {value : String} (h : validId value = true) : isBlank value = false := by
  unfold validId at h
  rw [Bool.and_eq_true, beq_iff_eq, List.all_eq_true] at h
  by_contra hblank
  rw [Bool.not_eq_false, isBlank, List.all_eq_true] at hblank
  cases hchars : value.toList with
  | nil => simp [hchars] at h
  | cons c rest =>
    have hmem : c ∈ value.toList := by
      rw [hchars]
      exact List.mem_cons_self
    have hdigit := h.2 c hmem
    have hspace := hblank c hmem
    simp only [isWhitespace, isAsciiHexDigit, isAsciiDigit, Bool.or_eq_true, Bool.and_eq_true,
      decide_eq_true_eq, Char.le_def, UInt32.le_iff_toNat_le, beq_iff_eq] at hdigit hspace
    have hdigits : ('0' : Char).val.toNat = 48 ∧ ('9' : Char).val.toNat = 57 ∧
        ('a' : Char).val.toNat = 97 ∧ ('f' : Char).val.toNat = 102 ∧ ('A' : Char).val.toNat = 65 ∧
        ('F' : Char).val.toNat = 70 := by decide
    have hval : c.toNat = c.val.toNat := rfl
    omega

/-- The public selector of a token. -/
def credentialId [Ring] (token : String) : String :=
  hex (Ring.sha256 (bytesOf "ws-net/credential/v3\x00" ++ bytesOf token))

theorem credentialId_inj [Ring] (ideal : Ring.Ideal) : Function.Injective credentialId := by
  intro a b h
  have hbytes := ideal.sha256_inj _ _ (hex_inj h)
  exact bytesOf_inj (List.append_cancel_left hbytes)

end WsNet
