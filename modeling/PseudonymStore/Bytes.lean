/-!
# Bytes

Rows are kept under byte strings and the formats of the library are byte formats.  A byte string is a list, so that its
order is the lexicographic one and a proof can follow its structure.
-/
namespace PseudonymStore

/-- A byte string.  Its order compares byte by byte, and a proper beginning comes first. -/
abbrev Bytes := List UInt8

namespace Bytes

def ofNat : (width : Nat) → Nat → Bytes
  | 0, _ => []
  | width + 1, n => ofNat width (n / 256) ++ [UInt8.ofNat n]

def toNat (bs : Bytes) : Nat :=
  bs.foldl (fun n b => n * 256 + b.toNat) 0

@[simp] theorem length_ofNat (width n : Nat) : (ofNat width n).length = width := by
  induction width generalizing n with
  | zero => rfl
  | succ width ih => simp [ofNat, ih]

theorem toNat_append_singleton (bs : Bytes) (b : UInt8) : toNat (bs ++ [b]) = toNat bs * 256 + b.toNat := by
  simp [toNat]

theorem toNat_ofNat (width n : Nat) (h : n < Nat.pow 256 width) : toNat (ofNat width n) = n := by
  rw [Nat.pow_eq] at h
  induction width generalizing n with
  | zero => simp at h; subst h; rfl
  | succ width ih =>
    have hq : n / 256 < 256 ^ width := Nat.div_lt_of_lt_mul (by rw [Nat.pow_succ] at h; omega)
    rw [ofNat, toNat_append_singleton, ih _ hq]
    simp [UInt8.toNat_ofNat']
    omega

end Bytes

def utf8 (s : String) : Bytes :=
  s.toList.flatMap String.utf8EncodeChar

end PseudonymStore
