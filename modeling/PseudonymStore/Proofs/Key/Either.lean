import PseudonymStore.Proofs.Key.File
/-!
# Either encoding of a key

A file may hold a private key in either encoding and under any label.  A key is read whatever is left out of its encoding,
its own point may stand with it, another one may not, and no contents can be read in both ways
(`PrivateKey.ofPem_either`).  What is not compared with the key is the public key that the second version of the outer
encoding has on its own level (`PrivateKey.ofPem_strange`).
-/
namespace PseudonymStore

namespace PrivateKey

def unreadable : StoreError :=
  .invalidKey "invalid key format: crypto error"

section

variable {label : String} (hlabel : label ≠ "") (hdash : '-' ∉ label.toList)

include hlabel hdash

theorem ofPem_file_of_sec1 {der : Bytes} {key : PrivateKey} (h : Sec1.decode? der = some key) :
    ofPem (Pem.Block.file ⟨label, der⟩) = .ok key := by
  have hother : Pkcs8.decode? der = none := (decode?_eq_none_or der).resolve_right (by rw [h]; exact Option.some_ne_none key)
  rw [ofPem_file hlabel hdash, hother, h]
  rfl

theorem ofPem_file_of_pkcs8 {der : Bytes} {key : PrivateKey} (h : Pkcs8.decode? der = some key) :
    ofPem (Pem.Block.file ⟨label, der⟩) = .ok key := by
  rw [ofPem_file hlabel hdash, h]
  rfl

theorem ofPem_file_of_none {der : Bytes} (hpkcs8 : Pkcs8.decode? der = none) (hsec1 : Sec1.decode? der = none) :
    ofPem (Pem.Block.file ⟨label, der⟩) = .error unreadable := by
  rw [ofPem_file hlabel hdash, hpkcs8, hsec1]
  rfl

end

/-- **A private key is read from either encoding, under any label**, with or without the name of a curve and its point in
either form, and with any public key beside the inner encoding; a point on the level of the key itself that is another
one keeps it from being read; and no contents are read as both encodings, so that it does not matter which is tried
first. -/
theorem ofPem_either (key : PrivateKey) (octets : key.Octets) {label : String} (hlabel : label ≠ "")
    (hdash : '-' ∉ label.toList) :
    (∀ (curve : Option Der.ObjectIdentifier) (point : Option Secp256k1.PointForm),
      let sec1 := Sec1.encodeWith octets.bytes (Sec1.extras key curve point)
      ofPem (Pem.Block.file ⟨label, sec1⟩) = .ok key ∧
      ∀ publicKey : Option Bytes, (∀ bits ∈ publicKey, (Pkcs8.wrap sec1 (some bits)).length < Der.sizeLimit) →
        ofPem (Pem.Block.file ⟨label, Pkcs8.wrap sec1 publicKey⟩) = .ok key) ∧
    (∀ more : List Der.Element,
      (∃ e ∈ more, Der.isContext e.tag = true ∧ Der.tagNumber e.tag = 1 ∧ ∀ form, e ≠ Sec1.publicPoint key form) →
      let sec1 := Sec1.encodeWith octets.bytes more
      ofPem (Pem.Block.file ⟨label, sec1⟩) = .error unreadable ∧
      ∀ publicKey : Option Bytes, ofPem (Pem.Block.file ⟨label, Pkcs8.wrap sec1 publicKey⟩) = .error unreadable) ∧
    ∀ bs : Bytes, (Pkcs8.decode? bs = none ∨ Sec1.decode? bs = none) ∧
      (Pkcs8.decode? bs).or (Sec1.decode? bs) = (Sec1.decode? bs).or (Pkcs8.decode? bs) := by
  refine ⟨fun curve point => ?_, ?_, fun bs => ⟨decode?_eq_none_or bs, ?_⟩⟩
  · have hread := Sec1.decode?_encodeWith_extras key octets curve point
    refine ⟨ofPem_file_of_sec1 hlabel hdash hread, fun publicKey hsize => ofPem_file_of_pkcs8 hlabel hdash ?_⟩
    rw [Pkcs8.decode?_wrap ?_, hread]
    cases publicKey with
    | some bits => exact hsize bits rfl
    | none =>
      have hwrap := Pkcs8.length_wrap_none_le (Sec1.encodeWith octets.bytes (Sec1.extras key curve point))
      have hsec1 := Sec1.length_encodeWith_extras_le key octets curve point
      rw [Der.sizeLimit]
      omega
  · rintro more ⟨e, he, -, hnumber, hforeign⟩
    -- What one encoding refuses, the other one does not let in: it reads the same octets, or is no reading of these bytes.
    have hnone := Sec1.decode?_encodeWith_of_foreign octets.toNat_bytes he hnumber hforeign
    refine ⟨ofPem_file_of_none hlabel hdash (Pkcs8.decode?_encodeWith _ _) hnone, fun publicKey => ?_⟩
    exact ofPem_file_of_none hlabel hdash (Pkcs8.decode?_wrap_eq_none hnone publicKey) (Sec1.decode?_wrap _ _)
  · rcases decode?_eq_none_or bs with h | h <;> rw [h] <;> simp

def one : PrivateKey := ⟨1, by decide, by decide⟩

def two : PrivateKey := ⟨2, by decide, by decide⟩

theorem ofPem_either_one :
    ("EC PRIVATE KEY" ≠ "" ∧ '-' ∉ "EC PRIVATE KEY".toList) ∧
    (∃ secp256k1 : Der.ObjectIdentifier, secp256k1.contents = [0x2B, 0x81, 0x04, 0x00, 0x0A] ∧
      ofPem (Pem.Block.file ⟨"EC PRIVATE KEY",
        Sec1.encodeWith one.bytes (Sec1.extras one (some secp256k1) (some .compressed))⟩) = .ok one) ∧
    ((Pkcs8.wrap (Sec1.encodeWith one.bytes []) (some [4])).length < Der.sizeLimit ∧
      ofPem (Pem.Block.file ⟨"EC PRIVATE KEY", Pkcs8.wrap (Sec1.encodeWith one.bytes []) (some [4])⟩) = .ok one) ∧
    (∀ form, Sec1.publicPoint two .uncompressed ≠ Sec1.publicPoint one form) ∧
    ofPem (Pem.Block.file ⟨"EC PRIVATE KEY", Sec1.encodeWith one.bytes [Sec1.publicPoint two .uncompressed]⟩) =
      .error unreadable := by
  have hlabel : "EC PRIVATE KEY" ≠ "" ∧ '-' ∉ "EC PRIVATE KEY".toList := by decide
  have hsize : (Pkcs8.wrap (Sec1.encodeWith one.bytes []) (some [4])).length < Der.sizeLimit := by decide
  have hforeign (form : Secp256k1.PointForm) : Sec1.publicPoint two .uncompressed ≠ Sec1.publicPoint one form := by
    cases form <;> decide +kernel
  obtain ⟨hread, hrefused, -⟩ := ofPem_either one one.octets hlabel.1 hlabel.2
  refine ⟨hlabel, ⟨⟨[0x2B, 0x81, 0x04, 0x00, 0x0A], by decide⟩, rfl, (hread _ _).1⟩, ⟨hsize, ?_⟩, hforeign, ?_⟩
  · exact (hread none none).2 (some [4]) (fun bits hbits => Option.some.inj hbits ▸ hsize)
  · exact (hrefused _ ⟨_, List.mem_singleton_self _, by decide, by decide, hforeign⟩).1

/-- **A public key on the outer encoding's own level may be another key's.** -/
theorem ofPem_strange :
    (∀ form, two.point.uncompressed ≠ one.point.bytes form) ∧
    ofPem (Pem.Block.file ⟨"PRIVATE KEY",
      Pkcs8.wrap (Sec1.encodeWith one.bytes []) (some two.point.uncompressed)⟩) = .ok one := by
  have hlabel : "PRIVATE KEY" ≠ "" ∧ '-' ∉ "PRIVATE KEY".toList := by decide
  have hsize : (Pkcs8.wrap (Sec1.encodeWith one.bytes []) (some two.point.uncompressed)).length < Der.sizeLimit := by
    decide +kernel
  refine ⟨fun form => by cases form <;> decide +kernel, ofPem_file_of_pkcs8 hlabel.1 hlabel.2 ?_⟩
  rw [Pkcs8.decode?_wrap hsize]
  exact Sec1.decode?_encodeWith_extras one one.octets none none

end PrivateKey

end PseudonymStore
