import Mathlib.Data.List.Basic

/-! Text that reads back.

A codec writes a value in front of any text and reads it off again. Codecs
compose, so that one for a record or a list comes from those of its parts. -/
namespace WsNet.Data

structure Codec (α : Type) where
  write : α → List Char
  read : List Char → Option (α × List Char)
  read_write : ∀ a rest, read (write a ++ rest) = some (a, rest)

namespace Codec
variable {α β : Type}

/-- The whole text is one value. -/
def readAll (c : Codec α) (text : List Char) : Option α :=
  match c.read text with
  | some (a, []) => some a
  | _ => none

theorem readAll_write (c : Codec α) (a : α) : c.readAll (c.write a) = some a := by
  have h := c.read_write a []
  rw [List.append_nil] at h
  rw [readAll, h]

def char : Codec Char where
  write c := [c]
  read text :=
    match text with
    | c :: rest => some (c, rest)
    | [] => none
  read_write _ _ := rfl

def readUnary : List Char → Option (Nat × List Char)
  | [] => none
  | c :: rest => if c = 'i' then (readUnary rest).map (fun r => (r.1 + 1, r.2)) else some (0, rest)

theorem readUnary_replicate (n : Nat) (rest : List Char) :
    readUnary (List.replicate n 'i' ++ '.' :: rest) = some (n, rest) := by
  induction n with
  | zero => rfl
  | succ n ih =>
    simp only [List.replicate_succ, List.cons_append, readUnary, if_true, ih, Option.map_some]

/-- In unary, closed by a full stop. -/
def nat : Codec Nat where
  write n := List.replicate n 'i' ++ ['.']
  read := readUnary
  read_write n rest := by rw [List.append_assoc, List.singleton_append, readUnary_replicate]

def pair (a : Codec α) (b : Codec β) : Codec (α × β) where
  write v := a.write v.1 ++ b.write v.2
  read text := do
    let (x, text) ← a.read text
    let (y, text) ← b.read text
    return ((x, y), text)
  read_write v rest := by
    rw [List.append_assoc, a.read_write]
    show (b.read (b.write v.2 ++ rest)).bind _ = _
    rw [b.read_write]
    rfl

/-- Values that are written as others. -/
def map (c : Codec α) (f : α → β) (g : β → α) (h : ∀ b, f (g b) = b) : Codec β where
  write b := c.write (g b)
  read text := (c.read text).map fun r => (f r.1, r.2)
  read_write b rest := by rw [c.read_write, Option.map_some, h]

def readMany (c : Codec α) : Nat → List Char → Option (List α × List Char)
  | 0, text => some ([], text)
  | n + 1, text => (c.read text).bind fun r => (readMany c n r.2).map fun l => (r.1 :: l.1, l.2)

theorem readMany_flatMap (c : Codec α) (l : List α) (rest : List Char) :
    readMany c l.length (l.flatMap c.write ++ rest) = some (l, rest) := by
  induction l with
  | nil => rfl
  | cons a l ih =>
    rw [List.flatMap_cons, List.append_assoc, List.length_cons, readMany, c.read_write,
      Option.bind_some, ih, Option.map_some]

/-- The length, then the elements. -/
def list (c : Codec α) : Codec (List α) where
  write l := nat.write l.length ++ l.flatMap c.write
  read text := (nat.read text).bind fun r => readMany c r.1 r.2
  read_write l rest := by
    rw [List.append_assoc, nat.read_write, Option.bind_some, readMany_flatMap]

/-- A tag, then a value of the first or of the second kind. -/
def sum (a : Codec α) (b : Codec β) : Codec (α ⊕ β) where
  write
    | .inl x => 'l' :: a.write x
    | .inr y => 'r' :: b.write y
  read text :=
    match text with
    | c :: text => if c = 'l' then (a.read text).map fun r => (.inl r.1, r.2)
        else (b.read text).map fun r => (.inr r.1, r.2)
    | [] => none
  read_write v rest := by
    cases v with
    | inl x => simp [a.read_write]
    | inr y => simp [b.read_write]

def string : Codec String := (list char).map String.ofList String.toList fun s => by simp

/-- Up to a character that the value's text does not have. -/
def upTo (c : Char) (write : α → List Char) (read : List Char → α) (hc : ∀ a, c ∉ write a)
    (h : ∀ a, read (write a) = a) : Codec α where
  write a := write a ++ [c]
  read text :=
    match text.dropWhile (· ≠ c) with
    | _ :: rest => some (read (text.takeWhile (· ≠ c)), rest)
    | [] => none
  read_write a rest := by
    have hne : ∀ x ∈ write a, decide (x ≠ c) = true := fun x hx =>
      decide_eq_true fun heq => hc a (heq ▸ hx)
    rw [List.append_assoc, List.dropWhile_append_of_pos hne, List.takeWhile_append_of_pos hne]
    simp [h]

/-- A fixed text, then a value. -/
def after (text : List Char) (c : Codec α) : Codec α where
  write a := text ++ c.write a
  read input := c.read (input.drop text.length)
  read_write a rest := by
    rw [List.append_assoc, List.drop_left]
    exact c.read_write a rest

end Codec

end WsNet.Data
