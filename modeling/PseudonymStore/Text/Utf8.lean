import PseudonymStore.Bytes
/-!
# UTF-8

Reading bytes as text.  `decode` is lenient: a byte outside every well-formed sequence becomes `none`, so that a reader
of structured text can go on and decide itself whether that byte matters.  `decode?` is strict, and `firstProblem` says
where and how a byte string stops being text: an ill-formed sequence has the length of its longest beginning that could
have been continued, and a sequence cut off by the end is incomplete, not ill-formed.
-/
namespace PseudonymStore.Utf8

/-- What stands at the front of a byte string: a character with the number of bytes that follow its first one, an
ill-formed sequence of some length, or a sequence cut off by the end. -/
inductive Front where
  | char (c : Char) (following : Nat)
  | invalid (length : Nat)
  | incomplete

/-- The rest of a sequence: `count` more bytes, the next one between `lo` and `hi`, after `seen` bytes of value `value`. -/
def continued : (count : Nat) → (lo hi : UInt8) → (value seen : Nat) → Bytes → Front
  | 0, _, _, value, seen, _ => .char (Char.ofNat value) (seen - 1)
  | _ + 1, _, _, _, _, [] => .incomplete
  | count + 1, lo, hi, value, seen, b :: bs =>
    if lo ≤ b ∧ b ≤ hi then continued count 0x80 0xBF (value * 64 + b.toNat % 64) (seen + 1) bs
    else .invalid seen

/-- The first byte fixes the length of a sequence and narrows its second byte, which excludes overlong forms,
surrogates and values beyond the last character. -/
def front (b : UInt8) (bs : Bytes) : Front :=
  if b < 0x80 then .char (Char.ofNat b.toNat) 0
  else if b < 0xC2 then .invalid 1
  else if b < 0xE0 then continued 1 0x80 0xBF (b.toNat % 32) 1 bs
  else if b < 0xF0 then
    continued 2 (if b = 0xE0 then 0xA0 else 0x80) (if b = 0xED then 0x9F else 0xBF) (b.toNat % 16) 1 bs
  else if b < 0xF5 then
    continued 3 (if b = 0xF0 then 0x90 else 0x80) (if b = 0xF4 then 0x8F else 0xBF) (b.toNat % 8) 1 bs
  else .invalid 1

def decodeFrom : (skip : Nat) → Bytes → List (Option Char)
  | _, [] => []
  | skip + 1, _ :: bs => decodeFrom skip bs
  | 0, b :: bs =>
    match front b bs with
    | .char c following => some c :: decodeFrom following bs
    | _ => none :: decodeFrom 0 bs

def decode (bs : Bytes) : List (Option Char) :=
  decodeFrom 0 bs

def decode? (bs : Bytes) : Option String :=
  if (decode bs).all Option.isSome then some (String.ofList ((decode bs).filterMap id)) else none

/-- Where a byte string stops being text: the index, and the length of the ill-formed sequence there, or none for a
sequence that the end cuts off. -/
structure Problem where
  index : Nat
  length : Option Nat

def Problem.message (p : Problem) : String :=
  match p.length with
  | some n => s!"invalid utf-8 sequence of {n} bytes from index {p.index}"
  | none => s!"incomplete utf-8 byte sequence from index {p.index}"

def firstProblemFrom : (index skip : Nat) → Bytes → Option Problem
  | _, _, [] => none
  | index, skip + 1, _ :: bs => firstProblemFrom (index + 1) skip bs
  | index, 0, b :: bs =>
    match front b bs with
    | .char _ following => firstProblemFrom (index + 1) following bs
    | .invalid length => some ⟨index, some length⟩
    | .incomplete => some ⟨index, none⟩

def firstProblem (bs : Bytes) : Option Problem :=
  firstProblemFrom 0 0 bs

end PseudonymStore.Utf8
