import PseudonymStore.Bytes
/-!
# DER

Elements of a tag, a length and contents, each in its one shortest form.  The reader takes elements apart and leaves
the meaning of their contents to the formats built on it; it refuses lengths that are not minimal, tags that no
standard assigns, contents that are cut short, and byte strings of 256 MiB and more.
-/
namespace PseudonymStore.Der

structure Element where
  tag : UInt8
  contents : Bytes
deriving DecidableEq

def integer : UInt8 := 0x02

def bitString : UInt8 := 0x03

def octetString : UInt8 := 0x04

def objectIdentifier : UInt8 := 0x06

def sequence : UInt8 := 0x30

def lengthBytes (n : Nat) : Bytes :=
  if n < 0x80 then [UInt8.ofNat n]
  else if n < 0x100 then 0x81 :: Bytes.ofNat 1 n
  else if n < 0x10000 then 0x82 :: Bytes.ofNat 2 n
  else if n < 0x1000000 then 0x83 :: Bytes.ofNat 3 n
  else 0x84 :: Bytes.ofNat 4 n

def element (tag : UInt8) (contents : Bytes) : Bytes :=
  tag :: lengthBytes contents.length ++ contents

/-- Whether a tag byte is one that the reader knows: an assigned universal tag, or any low-numbered tag of the other
classes. -/
def knownTag (tag : UInt8) : Bool :=
  if tag < 0x40 then
    [0x01, 0x02, 0x03, 0x04, 0x05, 0x06, 0x09, 0x0A, 0x0C, 0x12, 0x13, 0x14, 0x15, 0x16, 0x17, 0x18, 0x1A, 0x1E, 0x30,
      0x31].contains tag
  else tag % 32 != 31

def isContext (tag : UInt8) : Bool :=
  0x80 ≤ tag && tag < 0xC0

def tagNumber (tag : UInt8) : UInt8 :=
  tag % 32

def readLength? : Bytes → Option (Nat × Bytes)
  | [] => none
  | b :: rest =>
    if b < 0x80 then some (b.toNat, rest)
    else if b == 0x80 || 0x84 < b then none
    else
      let count := b.toNat - 0x80
      let n := Bytes.toNat (rest.take count)
      if count ≤ rest.length && lengthBytes n == b :: rest.take count then some (n, rest.drop count) else none

def read? : Bytes → Option (Element × Bytes)
  | [] => none
  | tag :: rest => do
    guard (knownTag tag)
    let (n, rest) ← readLength? rest
    guard (n ≤ rest.length)
    return (⟨tag, rest.take n⟩, rest.drop n)

def readTagged? (tag : UInt8) (bs : Bytes) : Option (Bytes × Bytes) := do
  let (e, rest) ← read? bs
  guard (e.tag = tag)
  return (e.contents, rest)

def sizeLimit : Nat := 0x10000000

def only? (tag : UInt8) (bs : Bytes) : Option Bytes := do
  guard (bs.length < sizeLimit)
  let (contents, rest) ← readTagged? tag bs
  guard rest.isEmpty
  return contents

/-- Passes context elements with lower numbers and reads the one with the given number, if it comes next: it and what
follows. -/
def context? (number : UInt8) : (fuel : Nat) → Bytes → Option (Option Element × Bytes)
  | 0, bs => some (none, bs)
  | _, [] => some (none, [])
  | fuel + 1, tag :: rest =>
    if isContext tag && tagNumber tag ≤ number then do
      let (e, rest) ← read? (tag :: rest)
      if tagNumber tag = number then return (some e, rest) else context? number fuel rest
    else some (none, tag :: rest)

def wholeBits? : Bytes → Option Bytes
  | 0 :: bytes => some bytes
  | _ => none

/-- The remaining arcs of an identifier are in base 128 with at most five digits, the fifth below 16; `digits` counts
those of the arc begun. -/
def arcsWellFormed : (digits : Nat) → Bytes → Bool
  | digits, [] => digits == 0
  | digits, b :: bs =>
    (digits < 4 || b &&& 0xF0 == 0) && arcsWellFormed (if b < 0x80 then 0 else digits + 1) bs

/-- Whether the contents of an element are an object identifier of at least three and at most 39 bytes. -/
def isObjectIdentifier : Bytes → Bool
  | [] => false
  | root :: arcs => root < 120 && 2 ≤ arcs.length && arcs.length ≤ 38 && arcsWellFormed 0 arcs

end PseudonymStore.Der
