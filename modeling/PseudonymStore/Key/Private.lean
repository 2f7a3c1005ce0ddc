import PseudonymStore.Curve.Secp256k1
/-!
# Private keys

A private key is a number between zero and the order of the curve; its public point is that multiple of the base point.
-/
namespace PseudonymStore

structure PrivateKey where
  scalar : Nat
  pos : 0 < scalar
  lt : scalar < Secp256k1.order
deriving DecidableEq

namespace PrivateKey

def ofNat? (n : Nat) : Option PrivateKey :=
  if h : 0 < n ∧ n < Secp256k1.order then some ⟨n, h.1, h.2⟩ else none

def bytes (key : PrivateKey) : Bytes :=
  Bytes.ofNat 32 key.scalar

def point (key : PrivateKey) : Secp256k1.Point :=
  Secp256k1.multiple key.scalar

theorem ofNat?_scalar (key : PrivateKey) : ofNat? key.scalar = some key := by
  simp [ofNat?, key.pos, key.lt]

theorem toNat_bytes (key : PrivateKey) : Bytes.toNat key.bytes = key.scalar :=
  Bytes.toNat_ofNat _ _ (Nat.lt_trans key.lt (by decide))

end PrivateKey

end PseudonymStore
