import PseudonymStore.Bytes
/-!
# Base64

Three bytes are four digits of six bits.  The store uses two forms of the format: the standard alphabet with padding
(`encode`, `decode?`) for key files and ciphertexts, and the alphabet that is safe in addresses, without padding
(`encodeUrl`), for salts and pseudonyms.  Reading is strict: padding is required and the bits that padding leaves over
are zero, so each byte string has one written form.
-/
namespace PseudonymStore.Base64

def standard : List Char :=
  "ABCDEFGHIJKLMNOPQRSTUVWXYZabcdefghijklmnopqrstuvwxyz0123456789+/".toList

def urlSafe : List Char :=
  "ABCDEFGHIJKLMNOPQRSTUVWXYZabcdefghijklmnopqrstuvwxyz0123456789-_".toList

/-- The six-bit values of a byte string; the last one is filled up with zero bits. -/
def sextets : Bytes → List Nat
  | [] => []
  | [a] => [a.toNat / 4, a.toNat % 4 * 16]
  | [a, b] => [a.toNat / 4, a.toNat % 4 * 16 + b.toNat / 16, b.toNat % 16 * 4]
  | a :: b :: c :: rest =>
    a.toNat / 4 :: (a.toNat % 4 * 16 + b.toNat / 16) :: (b.toNat % 16 * 4 + c.toNat / 64) :: c.toNat % 64 ::
      sextets rest

def digit (alphabet : List Char) (value : Nat) : Char :=
  alphabet.getD value '='

def padding (bs : Bytes) : Nat :=
  (3 - bs.length % 3) % 3

def encode (bs : Bytes) : List Char :=
  (sextets bs).map (digit standard) ++ List.replicate (padding bs) '='

def encodeUrl (bs : Bytes) : List Char :=
  (sextets bs).map (digit urlSafe)

def value? (c : Char) : Option Nat :=
  standard.idxOf? c

/-- The bytes of a last group that padding shortens: of four digits the second, or the third, has no bits left over. -/
def lastGroup? (c₁ c₂ c₃ c₄ : Char) : Option Bytes := do
  guard (c₄ = '=')
  let d₁ ← value? c₁
  let d₂ ← value? c₂
  if c₃ = '=' then
    guard (d₂ % 16 = 0)
    return [UInt8.ofNat (d₁ * 4 + d₂ / 16)]
  else
    let d₃ ← value? c₃
    guard (d₃ % 4 = 0)
    return [UInt8.ofNat (d₁ * 4 + d₂ / 16), UInt8.ofNat (d₂ % 16 * 16 + d₃ / 4)]

def group? (c₁ c₂ c₃ c₄ : Char) : Option Bytes := do
  let d₁ ← value? c₁
  let d₂ ← value? c₂
  let d₃ ← value? c₃
  let d₄ ← value? c₄
  return [UInt8.ofNat (d₁ * 4 + d₂ / 16), UInt8.ofNat (d₂ % 16 * 16 + d₃ / 4), UInt8.ofNat (d₃ % 4 * 64 + d₄)]

/-- The bytes that padded standard Base64 spells; nothing else is accepted, blanks included. -/
def decode? : List Char → Option Bytes
  | [] => some []
  | [c₁, c₂, c₃, c₄] => (group? c₁ c₂ c₃ c₄).or (lastGroup? c₁ c₂ c₃ c₄)
  | c₁ :: c₂ :: c₃ :: c₄ :: rest => do
    let bytes ← group? c₁ c₂ c₃ c₄
    return bytes ++ (← decode? rest)
  | _ => none

end PseudonymStore.Base64
