import PseudonymStore.Key.Encoding
import PseudonymStore.Format.Pem
import PseudonymStore.Text.Utf8
import PseudonymStore.StoreError
/-!
# Key files

Keys as PEM text.  A new account's pair is made from 32 random bytes, which are not drawn again when they are no private
key.  A private key is read from either of its encodings, under any label.
-/
namespace PseudonymStore

structure KeyPair where
  publicPem : String
  privatePem : String
deriving DecidableEq

def Secp256k1.Point.pem (point : Secp256k1.Point) : String :=
  String.ofList (Pem.Block.write ⟨"PUBLIC KEY", Spki.encode point⟩)

def PrivateKey.pem (key : PrivateKey) : String :=
  String.ofList (Pem.Block.write ⟨"PRIVATE KEY", Pkcs8.encode key⟩)

namespace KeyPair

def drawLength : Nat := 32

def ofKey (key : PrivateKey) : KeyPair :=
  ⟨key.point.pem, key.pem⟩

def ofBytes (bytes : Bytes) : Except StoreError KeyPair :=
  match PrivateKey.ofNat? (Bytes.toNat bytes) with
  | some key => .ok (ofKey key)
  | none => .error (.keyGeneration "invalid private scalar: signature error")

/-- A pair for diagnostics: line feeds are shown as escapes, and the private key is not shown. -/
def debugText (pair : KeyPair) : String :=
  let shown := pair.publicPem.toList.flatMap fun c => if c = '\n' then ['\\', 'n'] else [c]
  "AccountKeyPair \x7b public_key_pem: \"" ++ String.ofList shown ++ "\", private_key_pem: \"<redacted>\" \x7d"

end KeyPair

/-- The private key of a file: UTF-8 text whose first block holds one in either encoding. -/
def PrivateKey.ofPem (bytes : Bytes) : Except StoreError PrivateKey := do
  if let some problem := Utf8.firstProblem bytes then throw (.invalidKey s!"invalid UTF-8: {problem.message}")
  match Pem.parse ((Utf8.decode bytes).filterMap id) with
  | .error problem => throw (.invalidKey s!"invalid PEM: {problem.message}")
  | .ok block =>
    match (Pkcs8.decode? block.contents).or (Sec1.decode? block.contents) with
    | some key => return key
    | none => throw (.invalidKey "invalid key format: crypto error")

end PseudonymStore
