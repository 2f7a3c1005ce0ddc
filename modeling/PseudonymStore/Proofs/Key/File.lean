import PseudonymStore.Key.File
import PseudonymStore.Proofs.Format.Pem
import PseudonymStore.Proofs.Key.Form
import PseudonymStore.Proofs.Text.Utf8
/-!
# Key files read back

A private key is read from the file that is written of it (`PrivateKey.ofPem_pem`): its PKCS #8 encoding, with its public
point, is the key again.  Whatever a file holds, under whatever label, it is read by the two encodings of keys
(`PrivateKey.ofPem_file`).
-/
namespace PseudonymStore

theorem Sec1.encode_eq (key : PrivateKey) :
    encode key = encodeWith key.octets.bytes (extras key none (some .uncompressed)) := by
  simp [encode, encodeWith, extras, PrivateKey.octets, Der.Element.bytes, publicPoint, Secp256k1.Point.bytes]

theorem Pkcs8.decode?_encode (key : PrivateKey) : decode? (encode key) = some key := by
  have hform : encode key = wrap (Sec1.encode key) none := by simp [encode, wrap]
  have hlength := Sec1.length_encodeWith_extras_le key key.octets none (some .uncompressed)
  have hsize := length_wrap_none_le (Sec1.encode key)
  rw [← Sec1.encode_eq] at hlength
  rw [hform, decode?_wrap (by rw [Der.sizeLimit]; omega), Sec1.encode_eq, Sec1.decode?_encodeWith_extras]

def Pem.Block.file (b : Pem.Block) : Bytes :=
  utf8 (String.ofList b.write)

namespace PrivateKey

/-- **A file holds the key that its contents encode**, in either encoding and under any label. -/
theorem ofPem_file {b : Pem.Block} (hlabel : b.label ≠ "") (hdash : '-' ∉ b.label.toList) :
    ofPem b.file = match (Pkcs8.decode? b.contents).or (Sec1.decode? b.contents) with
      | some key => .ok key
      | none => .error (.invalidKey "invalid key format: crypto error") := by
  have hdecode : (Utf8.decode b.file).filterMap id = b.write := by
    rw [Pem.Block.file, Utf8.decode_utf8, List.filterMap_map, String.toList_ofList]
    exact List.filterMap_some
  rw [ofPem, Pem.Block.file, Utf8.firstProblem_utf8, ← Pem.Block.file, hdecode, Pem.parse_write hlabel hdash]
  dsimp only
  cases (Pkcs8.decode? b.contents).or (Sec1.decode? b.contents) <;> rfl

theorem ofPem_pem (key : PrivateKey) : ofPem (utf8 key.pem) = .ok key := by
  have hlabel : "PRIVATE KEY" ≠ "" ∧ '-' ∉ "PRIVATE KEY".toList := by decide
  have hfile : utf8 key.pem = Pem.Block.file ⟨"PRIVATE KEY", Pkcs8.encode key⟩ := rfl
  rw [hfile, ofPem_file hlabel.1 hlabel.2, Pkcs8.decode?_encode]
  rfl

end PrivateKey

end PseudonymStore
