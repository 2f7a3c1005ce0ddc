import PseudonymStore.Key.Private
import PseudonymStore.Format.Der
/-!
# Encodings of keys

Three DER structures: a private key on its own (`Sec1`), a private key with its algorithm around it (`Pkcs8`), and a
public key with its algorithm (`Spki`).  The private forms are read as well; where one carries a public point, it has to
be the key's own.
-/
namespace PseudonymStore

def keyAlgorithm : Bytes :=
  Der.element Der.objectIdentifier [0x2A, 0x86, 0x48, 0xCE, 0x3D, 0x02, 0x01] ++
    Der.element Der.objectIdentifier [0x2B, 0x81, 0x04, 0x00, 0x0A]

namespace Spki

def encode (point : Secp256k1.Point) : Bytes :=
  Der.element Der.sequence
    (Der.element Der.sequence keyAlgorithm ++ Der.element Der.bitString (0 :: point.uncompressed))

end Spki

namespace Sec1

def curveTag : UInt8 := 0xA0

def pointTag : UInt8 := 0xA1

def encode (key : PrivateKey) : Bytes :=
  Der.element Der.sequence
    (Der.element Der.integer [1] ++ Der.element Der.octetString key.bytes ++
      Der.element pointTag (Der.element Der.bitString (0 :: key.point.uncompressed)))

def namesCurve (e : Der.Element) : Bool :=
  e.tag == curveTag && (Der.only? Der.objectIdentifier e.contents).any Der.isObjectIdentifier

def holdsPoint (key : PrivateKey) (e : Der.Element) : Bool :=
  e.tag == pointTag && ((Der.only? Der.bitString e.contents).bind Der.wholeBits?).any fun bytes =>
    let point := key.point
    bytes == point.uncompressed || bytes == point.compressed

/-- The private key that bytes encode; its number may be cut down to 24 bytes. -/
def decode? (bs : Bytes) : Option PrivateKey := do
  let body ← Der.only? Der.sequence bs
  let (version, body) ← Der.readTagged? Der.integer body
  guard (version = [1])
  let (octets, body) ← Der.readTagged? Der.octetString body
  guard (24 ≤ octets.length ∧ octets.length ≤ 32)
  let key ← PrivateKey.ofNat? (Bytes.toNat octets)
  let (curve, body) ← Der.context? 0 body.length body
  guard (curve.all namesCurve)
  let (point, body) ← Der.context? 1 body.length body
  guard (point.all (holdsPoint key))
  guard body.isEmpty
  return key

end Sec1

namespace Pkcs8

def publicKeyTag : UInt8 := 0x81

def encode (key : PrivateKey) : Bytes :=
  Der.element Der.sequence
    (Der.element Der.integer [0] ++ Der.element Der.sequence keyAlgorithm ++
      Der.element Der.octetString (Sec1.encode key))

def holdsPublicKey (e : Der.Element) : Bool :=
  e.tag == publicKeyTag && (Der.wholeBits? e.contents).isSome

def areExtensions : (fuel : Nat) → Bytes → Bool
  | 0, bs => bs.isEmpty
  | _, [] => true
  | fuel + 1, bs =>
    match Der.read? bs with
    | some (e, rest) =>
      Der.isContext e.tag && 0xA0 ≤ e.tag && ((Der.read? e.contents).any (·.2.isEmpty)) && areExtensions fuel rest
    | none => false

/-- The private key that bytes encode.  The second version differs from the first in that it has a public key. -/
def decode? (bs : Bytes) : Option PrivateKey := do
  let body ← Der.only? Der.sequence bs
  let (version, body) ← Der.readTagged? Der.integer body
  guard (version = [0] ∨ version = [1])
  let (algorithm, body) ← Der.readTagged? Der.sequence body
  guard (algorithm = keyAlgorithm)
  let (octets, body) ← Der.readTagged? Der.octetString body
  let (publicKey, body) ← Der.context? 1 body.length body
  guard (publicKey.all holdsPublicKey)
  guard (publicKey.isSome ↔ version = [1])
  guard (areExtensions body.length body)
  Sec1.decode? octets

end Pkcs8

end PseudonymStore
