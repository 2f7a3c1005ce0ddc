import PseudonymStore.Format.Base64
/-!
# Identifiers

What the store makes names of.  An event ID is a millisecond of 48 bits followed by 80 random bits, written as 26 digits of
base 32.  The digits ascend in the order of characters and their number is fixed, so the order of the texts is the order of
the numbers: IDs sort by time and can serve as cursors.  A UUID is the text of sixteen random bytes in which the version and
the variant are marked.  A token is a random text that is safe in addresses; four characters take three random bytes, so
every bit of a token comes from its own bit of the draw.
-/
namespace PseudonymStore

abbrev EventId.millisSpan : Nat := 0x1000000000000

abbrev EventId.randomSpan : Nat := 0x100000000000000000000

structure EventId where
  millis : Nat
  random : Nat
  millis_lt : millis < EventId.millisSpan
  random_lt : random < EventId.randomSpan
deriving DecidableEq

namespace EventId

def toNat (id : EventId) : Nat :=
  id.millis * randomSpan + id.random

def digits : List Char :=
  "0123456789ABCDEFGHJKMNPQRSTVWXYZ".toList

def digitsOf : (width : Nat) → Nat → List Char
  | 0, _ => []
  | width + 1, n => digitsOf width (n / 32) ++ [digits.getD (n % 32) '0']

def text (id : EventId) : String :=
  String.ofList (digitsOf 26 id.toNat)

/-- A fresh ID: of the clock's milliseconds the low 48 bits count, and of the drawn bytes the low 80. -/
def fresh (now : Nat) (drawn : Bytes) : EventId where
  millis := now % millisSpan
  random := Bytes.toNat drawn % randomSpan
  millis_lt := Nat.mod_lt _ (by decide)
  random_lt := Nat.mod_lt _ (by decide)

def drawLength : Nat := 10

/-- The next ID of the same millisecond, unless the random part is used up. -/
def successor? (id : EventId) : Option EventId :=
  if h : id.random + 1 < randomSpan then some { id with random := id.random + 1, random_lt := h } else none

@[simp] theorem length_digitsOf (width n : Nat) : (digitsOf width n).length = width := by
  induction width generalizing n with
  | zero => rfl
  | succ width ih => simp [digitsOf, ih]

end EventId

end PseudonymStore

namespace PseudonymStore.Uuid

def hex (bs : Bytes) : List Char :=
  bs.flatMap fun b => [Nat.digitChar (b.toNat / 16), Nat.digitChar (b.toNat % 16)]

def marked (bs : Bytes) : Bytes :=
  (bs.modify 6 fun b => (b &&& 0x0F) ||| 0x40).modify 8 fun b => (b &&& 0x3F) ||| 0x80

def text (bs : Bytes) : String :=
  let m := marked bs
  String.ofList (hex (m.take 4) ++ '-' :: hex ((m.drop 4).take 2) ++ '-' :: hex ((m.drop 6).take 2) ++
    '-' :: hex ((m.drop 8).take 2) ++ '-' :: hex (m.drop 10))

end PseudonymStore.Uuid

namespace PseudonymStore.Token

/-- How many random bytes a token of some length takes: three for each group of four characters begun. -/
def drawLength (length : Nat) : Nat :=
  (length + 3) / 4 * 3

def ofBytes (length : Nat) (bytes : Bytes) : String :=
  String.ofList ((Base64.encodeUrl bytes).take length)

def saltLength : Nat := 16

end PseudonymStore.Token
