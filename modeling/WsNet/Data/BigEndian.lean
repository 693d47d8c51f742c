import Mathlib.Data.Nat.Digits.Defs
import Mathlib.Tactic.Ring

/-! Big-endian byte strings of a fixed width. -/
namespace WsNet.Data

/-- The `width` low bytes of a number, most significant first. -/
def toBeBytes : Nat → Nat → List UInt8
  | 0, _ => []
  | width + 1, n => UInt8.ofNat (n / 256 ^ width % 256) :: toBeBytes width n

def ofBeBytes (bytes : List UInt8) : Nat := bytes.foldl (fun n b => 256 * n + b.toNat) 0

@[simp] theorem length_toBeBytes (width n : Nat) : (toBeBytes width n).length = width := by
  induction width with
  | zero => rfl
  | succ width ih => simp [toBeBytes, ih]

theorem foldl_toBeBytes (width n acc : Nat) :
    (toBeBytes width n).foldl (fun n b => 256 * n + b.toNat) acc =
      acc * 256 ^ width + n % 256 ^ width := by
  induction width generalizing acc with
  | zero => simp [toBeBytes, Nat.mod_one]
  | succ width ih =>
    have hbyte : (UInt8.ofNat (n / 256 ^ width % 256)).toNat = n / 256 ^ width % 256 := by
      simp
    have hsplit : n % 256 ^ (width + 1) = n % 256 ^ width + 256 ^ width * (n / 256 ^ width % 256) := by
      rw [pow_succ, Nat.mod_mul]
    rw [toBeBytes, List.foldl_cons, ih, hbyte, hsplit]
    ring

/-- A number that fits in the width is read back. -/
theorem ofBeBytes_toBeBytes (width n : Nat) (h : n < 256 ^ width) : ofBeBytes (toBeBytes width n) = n := by
  unfold ofBeBytes
  rw [foldl_toBeBytes, Nat.mod_eq_of_lt h]
  omega

end WsNet.Data
