import PseudonymStore.Proofs.Key.File
import PseudonymStore.Proofs.Operation.Provision
/-!
# Key pairs read back

A key pair is made of one draw, which is taken as a number.  Every number that is a private key gives a pair whose private
file is read as that key and whose public file is that of the key's point; every other one is refused
(`Action.newKeyPair_of_draw`).
-/
namespace PseudonymStore

variable {σ : Type}

theorem KeyPair.ofBytes_eq_ok {bytes : Bytes} {key : PrivateKey} (h : Bytes.toNat bytes = key.scalar) :
    ofBytes bytes = .ok (ofKey key) := by
  rw [ofBytes, h, PrivateKey.ofNat?_scalar]

theorem KeyPair.ofBytes_eq_error {bytes : Bytes} (h : Bytes.toNat bytes = 0 ∨ Secp256k1.order ≤ Bytes.toNat bytes) :
    ofBytes bytes = .error (.keyGeneration "invalid private scalar: signature error") := by
  rw [ofBytes, PrivateKey.ofNat?, dif_neg (by omega)]

namespace Action

theorem newKeyPair_eq {env : Environment σ} {s : Session σ} {world : σ}
    {drawn : { bytes : Bytes // bytes.length = KeyPair.drawLength }}
    (hdraw : env.draw KeyPair.drawLength s.world = (some drawn, world)) :
    newKeyPair env s = (ofExcept (KeyPair.ofBytes drawn.val) : Action σ KeyPair) { s with world } := by
  rw [newKeyPair, bind_eq, draw_eq, hdraw]

/-- **A drawn number gives a key pair just when it is a private key**, and the pair's files are those of this key. -/
theorem newKeyPair_of_draw (env : Environment σ) {s : Session σ} {world : σ}
    {drawn : { bytes : Bytes // bytes.length = KeyPair.drawLength }}
    (hdraw : env.draw KeyPair.drawLength s.world = (some drawn, world)) :
    (∀ hkey : 0 < Bytes.toNat drawn.val ∧ Bytes.toNat drawn.val < Secp256k1.order,
      let key : PrivateKey := ⟨Bytes.toNat drawn.val, hkey.1, hkey.2⟩
      ∃ pair, newKeyPair env s = .ok pair { s with world } ∧ PrivateKey.ofPem (utf8 pair.privatePem) = .ok key ∧
        pair.publicPem = key.point.pem) ∧
    (Bytes.toNat drawn.val = 0 ∨ Secp256k1.order ≤ Bytes.toNat drawn.val →
      newKeyPair env s = .error (.keyGeneration "invalid private scalar: signature error") { s with world }) := by
  rw [newKeyPair_eq hdraw]
  constructor
  · rintro ⟨hpos, hlt⟩ key
    have hpair : KeyPair.ofBytes drawn.val = .ok (.ofKey key) := KeyPair.ofBytes_eq_ok rfl
    rw [hpair]
    exact ⟨.ofKey key, rfl, PrivateKey.ofPem_pem key, rfl⟩
  · intro hrange
    rw [KeyPair.ofBytes_eq_error hrange]
    rfl

def drawing (number : Nat) : Environment Unit :=
  { Environment.still with
    draw := fun length world => (some ⟨Bytes.ofNat length number, Bytes.length_ofNat length number⟩, world) }

theorem toNat_drawing {number : Nat} (h : number ≤ Secp256k1.order) :
    Bytes.toNat (Bytes.ofNat KeyPair.drawLength number) = number :=
  Bytes.toNat_ofNat _ _ (Nat.lt_of_le_of_lt h (by decide))

/-- The number one is a private key, though 31 of its bytes are zero; the order of the curve is none. -/
theorem newKeyPair_of_draw_bounds : let s : Session Unit := .opened .empty ()
    (∃ drawn, (drawing 1).draw KeyPair.drawLength s.world = (some drawn, ()) ∧ Bytes.toNat drawn.val = 1) ∧
    (∃ key pair, key.scalar = 1 ∧ newKeyPair (drawing 1) s = .ok pair s ∧
      PrivateKey.ofPem (utf8 pair.privatePem) = .ok key ∧ pair.publicPem = key.point.pem) ∧
    (∃ drawn, (drawing Secp256k1.order).draw KeyPair.drawLength s.world = (some drawn, ()) ∧
      Bytes.toNat drawn.val = Secp256k1.order) ∧
    newKeyPair (drawing Secp256k1.order) s = .error (.keyGeneration "invalid private scalar: signature error") s := by
  intro s
  have hone := @toNat_drawing 1 (by decide)
  have horder := toNat_drawing (Nat.le_refl Secp256k1.order)
  refine ⟨⟨_, rfl, hone⟩, ?_, ⟨_, rfl, horder⟩, ?_⟩
  · have hkey : 0 < Bytes.toNat (Bytes.ofNat KeyPair.drawLength 1) ∧
        Bytes.toNat (Bytes.ofNat KeyPair.drawLength 1) < Secp256k1.order := by
      rw [hone]
      decide
    obtain ⟨pair, hpair, hread, hpublic⟩ := (newKeyPair_of_draw (drawing 1) (s := s) rfl).1 hkey
    exact ⟨⟨_, hkey.1, hkey.2⟩, pair, hone, hpair, hread, hpublic⟩
  · exact (newKeyPair_of_draw (drawing Secp256k1.order) (s := s) rfl).2 (Or.inr (Nat.le_of_eq horder.symm))

end Action

end PseudonymStore
