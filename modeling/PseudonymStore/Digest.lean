import PseudonymStore.Bytes
/-!
# SHA-256 and HMAC

The hash function of 256 bits over byte strings.  The chaining state is a structure of eight words, so a digest has 32
bytes by its definition.  The message schedule of a block is produced from a window of its last sixteen words.  In the
keyed digest any key is valid: one longer than a block is hashed first, and every key is filled up with zeros to the
length of a block.
-/
namespace PseudonymStore.Sha256

structure State where
  a : UInt32
  b : UInt32
  c : UInt32
  d : UInt32
  e : UInt32
  f : UInt32
  g : UInt32
  h : UInt32

/-- The state before the first block: fractional parts of the square roots of the first eight primes. -/
def initial : State :=
  ⟨0x6a09e667, 0xbb67ae85, 0x3c6ef372, 0xa54ff53a, 0x510e527f, 0x9b05688c, 0x1f83d9ab, 0x5be0cd19⟩

def roundConstants : List UInt32 :=
  [0x428a2f98, 0x71374491, 0xb5c0fbcf, 0xe9b5dba5, 0x3956c25b, 0x59f111f1, 0x923f82a4, 0xab1c5ed5,
    0xd807aa98, 0x12835b01, 0x243185be, 0x550c7dc3, 0x72be5d74, 0x80deb1fe, 0x9bdc06a7, 0xc19bf174,
    0xe49b69c1, 0xefbe4786, 0x0fc19dc6, 0x240ca1cc, 0x2de92c6f, 0x4a7484aa, 0x5cb0a9dc, 0x76f988da,
    0x983e5152, 0xa831c66d, 0xb00327c8, 0xbf597fc7, 0xc6e00bf3, 0xd5a79147, 0x06ca6351, 0x14292967,
    0x27b70a85, 0x2e1b2138, 0x4d2c6dfc, 0x53380d13, 0x650a7354, 0x766a0abb, 0x81c2c92e, 0x92722c85,
    0xa2bfe8a1, 0xa81a664b, 0xc24b8b70, 0xc76c51a3, 0xd192e819, 0xd6990624, 0xf40e3585, 0x106aa070,
    0x19a4c116, 0x1e376c08, 0x2748774c, 0x34b0bcb5, 0x391c0cb3, 0x4ed8aa4a, 0x5b9cca4f, 0x682e6ff3,
    0x748f82ee, 0x78a5636f, 0x84c87814, 0x8cc70208, 0x90befffa, 0xa4506ceb, 0xbef9a3f7, 0xc67178f2]

def turned (x : UInt32) (bits : UInt32) : UInt32 :=
  (x >>> bits) ||| (x <<< (32 - bits))

def nextWord (window : List UInt32) : UInt32 :=
  let far := window.getD 1 0
  let near := window.getD 14 0
  window.getD 0 0 + (turned far 7 ^^^ turned far 18 ^^^ (far >>> 3)) + window.getD 9 0 +
    (turned near 17 ^^^ turned near 19 ^^^ (near >>> 10))

def schedule : (count : Nat) → (window : List UInt32) → List UInt32
  | 0, _ => []
  | count + 1, window => window.headD 0 :: schedule count (window.tail ++ [nextWord window])

def round (s : State) (input : UInt32 × UInt32) : State :=
  let choice := (s.e &&& s.f) ^^^ (~~~s.e &&& s.g)
  let majority := (s.a &&& s.b) ^^^ (s.a &&& s.c) ^^^ (s.b &&& s.c)
  let t := s.h + (turned s.e 6 ^^^ turned s.e 11 ^^^ turned s.e 25) + choice + input.1 + input.2
  ⟨t + (turned s.a 2 ^^^ turned s.a 13 ^^^ turned s.a 22) + majority, s.a, s.b, s.c, s.d + t, s.e, s.f, s.g⟩

def words : Bytes → List UInt32
  | a :: b :: c :: d :: rest => UInt32.ofNat (Bytes.toNat [a, b, c, d]) :: words rest
  | _ => []

def compress (s : State) (block : Bytes) : State :=
  let t := (roundConstants.zip (schedule 64 (words block))).foldl round s
  ⟨s.a + t.a, s.b + t.b, s.c + t.c, s.d + t.d, s.e + t.e, s.f + t.f, s.g + t.g, s.h + t.h⟩

def padded (message : Bytes) : Bytes :=
  message ++ 0x80 :: List.replicate ((119 - message.length % 64) % 64) 0 ++ Bytes.ofNat 8 (message.length * 8)

def blocks : (count : Nat) → Bytes → List Bytes
  | 0, _ => []
  | count + 1, bs => bs.take 64 :: blocks count (bs.drop 64)

def State.digest (s : State) : Bytes :=
  [s.a, s.b, s.c, s.d, s.e, s.f, s.g, s.h].flatMap fun w => Bytes.ofNat 4 w.toNat

def hash (message : Bytes) : Bytes :=
  let bs := padded message
  ((blocks (bs.length / 64) bs).foldl compress initial).digest

@[simp] theorem length_digest (s : State) : s.digest.length = 32 := by
  simp [State.digest]

@[simp] theorem length_hash (message : Bytes) : (hash message).length = 32 :=
  length_digest _

end PseudonymStore.Sha256

namespace PseudonymStore.Hmac

def blockKey (key : Bytes) : Bytes :=
  let short := if 64 < key.length then Sha256.hash key else key
  short ++ List.replicate (64 - short.length) 0

def sha256 (key message : Bytes) : Bytes :=
  let k := blockKey key
  Sha256.hash (k.map (· ^^^ 0x5C) ++ Sha256.hash (k.map (· ^^^ 0x36) ++ message))

@[simp] theorem length_sha256 (key message : Bytes) : (sha256 key message).length = 32 :=
  Sha256.length_hash _

end PseudonymStore.Hmac
