import Mathlib.Data.List.Basic
import Mathlib.Data.List.DropRight

/-! Text as the program reads it: the character classes and the splitting
functions of the standard library that the configuration and the identifiers
use. -/
namespace WsNet

abbrev Bytes := List UInt8

/-- The bytes of a string. -/
def bytesOf (s : String) : Bytes := s.toUTF8.data.toList

/-- Text from bytes, when they are valid UTF-8. -/
def textOf (b : Bytes) : Option String := String.fromUTF8? (b.toByteArray)

theorem bytesOf_inj {a b : String} (h : bytesOf a = bytesOf b) : a = b :=
  String.toByteArray_inj.mp (ByteArray.ext (Array.toList_inj.mp h))

@[simp] theorem bytesOf_append (a b : String) : bytesOf (a ++ b) = bytesOf a ++ bytesOf b := by
  simp [bytesOf]

@[simp] theorem textOf_bytesOf (s : String) : textOf (bytesOf s) = some s := by
  have h : (bytesOf s).toByteArray = s.toByteArray := by
    apply ByteArray.ext
    simp [bytesOf]
  unfold textOf
  rw [h]
  simp only [String.fromUTF8?]
  exact dif_pos s.isValidUTF8

theorem bytesOf_ofList (l : List Char) : bytesOf (String.ofList l) = l.flatMap String.utf8EncodeChar := by
  simp only [bytesOf, String.toUTF8, String.toByteArray_ofList, List.utf8Encode]
  simp

/-- A text has at least as many bytes as characters. -/
theorem length_le_bytesOf (s : String) : s.toList.length ≤ (bytesOf s).length := by
  have hbytes := bytesOf_ofList s.toList
  rw [String.ofList_toList] at hbytes
  rw [hbytes]
  induction s.toList with
  | nil => exact Nat.zero_le _
  | cons c l ih =>
    have hc := Char.utf8Size_pos c
    rw [List.flatMap_cons, List.length_append, String.length_utf8EncodeChar, List.length_cons]
    omega

theorem flatMap_utf8EncodeChar {l : List Char} (h : ∀ c ∈ l, c.toNat < 128) :
    l.flatMap String.utf8EncodeChar = l.map fun c => UInt8.ofNat c.toNat := by
  induction l with
  | nil => rfl
  | cons c l ih =>
    have hc : c.val.toNat ≤ 127 := Nat.le_of_lt_succ (h c List.mem_cons_self)
    rw [List.flatMap_cons, List.map_cons, ih fun d hd => h d (List.mem_cons_of_mem _ hd)]
    simp only [String.utf8EncodeChar, if_pos hc]
    rfl

/-- ASCII text has one byte a character. -/
theorem bytesOf_ascii {s : String} (h : ∀ c ∈ s.toList, c.toNat < 128) :
    bytesOf s = s.toList.map fun c => UInt8.ofNat c.toNat := by
  have hbytes := bytesOf_ofList s.toList
  rw [String.ofList_toList] at hbytes
  rw [hbytes, flatMap_utf8EncodeChar h]

/-- Unicode `White_Space`. -/
def isWhitespace (c : Char) : Bool :=
  (9 ≤ c.toNat && c.toNat ≤ 13) || c.toNat == 0x20 || c.toNat == 0x85 || c.toNat == 0xA0 ||
    c.toNat == 0x1680 || (0x2000 ≤ c.toNat && c.toNat ≤ 0x200A) || c.toNat == 0x2028 ||
    c.toNat == 0x2029 || c.toNat == 0x202F || c.toNat == 0x205F || c.toNat == 0x3000

/-- General category `Cc`. -/
def isControl (c : Char) : Bool := c.toNat < 0x20 || (0x7F ≤ c.toNat && c.toNat ≤ 0x9F)

/-- Trimming leaves nothing: every character is white space. -/
def isBlank (s : String) : Bool := s.toList.all isWhitespace

def trim (s : String) : String :=
  String.ofList ((s.toList.dropWhile isWhitespace).rdropWhile isWhitespace)

theorem trim_eq_empty {s : String} : trim s = "" ↔ isBlank s = true := by
  have hnil : trim s = "" ↔ (s.toList.dropWhile isWhitespace).rdropWhile isWhitespace = [] := by
    rw [trim, ← String.toList_inj, String.toList_ofList, String.toList_empty]
  rw [hnil, List.rdropWhile_eq_nil_iff, isBlank, List.all_eq_true]
  constructor
  · intro h c hc
    rw [← List.takeWhile_append_dropWhile (p := isWhitespace) (l := s.toList)] at hc
    rcases List.mem_append.mp hc with hc | hc
    · exact List.mem_takeWhile_imp hc
    · exact h c hc
  · exact fun h c hc => h c ((List.dropWhile_sublist _).subset hc)

/-- Trimming again changes nothing. -/
theorem trim_trim (s : String) : trim (trim s) = trim s := by
  set front := s.toList.dropWhile isWhitespace with hfront
  have hkept : (front.rdropWhile isWhitespace).dropWhile isWhitespace = front.rdropWhile isWhitespace := by
    obtain ⟨rest, hrest⟩ := List.rdropWhile_prefix isWhitespace front
    cases hback : front.rdropWhile isWhitespace with
    | nil => rfl
    | cons c tail =>
      rw [hback, List.cons_append] at hrest
      have hc : isWhitespace c = false := by
        have hidem : front.dropWhile isWhitespace = front := by
          rw [hfront, List.dropWhile_idempotent]
        rw [← hrest, List.dropWhile_cons] at hidem
        by_contra hws
        rw [Bool.not_eq_false] at hws
        rw [if_pos hws] at hidem
        have hlen := congrArg List.length hidem
        have hle := (List.dropWhile_sublist isWhitespace (l := tail ++ rest)).length_le
        rw [List.length_cons] at hlen
        omega
      rw [List.dropWhile_cons, hc]
      rfl
  rw [trim, trim, String.toList_ofList, ← hfront, hkept, List.rdropWhile_idempotent]

/-- Split at the last occurrence of a character. -/
def rsplitOnce (c : Char) : List Char → Option (List Char × List Char)
  | [] => none
  | x :: rest =>
    match rsplitOnce c rest with
    | some (a, b) => some (x :: a, b)
    | none => if x = c then some ([], rest) else none

def isAsciiDigit (c : Char) : Bool := '0' ≤ c && c ≤ '9'

def isAsciiHexDigit (c : Char) : Bool :=
  isAsciiDigit c || ('a' ≤ c && c ≤ 'f') || ('A' ≤ c && c ≤ 'F')

def isAsciiAlphanumeric (c : Char) : Bool :=
  isAsciiDigit c || ('a' ≤ c && c ≤ 'z') || ('A' ≤ c && c ≤ 'Z')

/-- The value of a string of decimal digits. -/
def decimalValue (digits : List Char) : Nat :=
  digits.foldl (fun n c => 10 * n + (c.toNat - '0'.toNat)) 0

end WsNet
