/-!
# Numerals

Numbers that people write in settings and messages.
-/
namespace PseudonymStore.Numeral

/-- The number that decimal digits give, of which there is at least one, if it has at most 64 bits. -/
def unsigned? (cs : List Char) : Option Nat :=
  let n := cs.foldl (fun n c => n * 10 + (c.toNat - '0'.toNat)) 0
  if !cs.isEmpty ∧ cs.all Char.isDigit ∧ n < 0x10000000000000000 then some n else none

def withoutPlus (cs : List Char) : List Char :=
  if cs.head? = some '+' then cs.drop 1 else cs

def parse? (cs : List Char) : Option Nat :=
  unsigned? (withoutPlus cs)

def hexDigit? (c : Char) : Option Nat :=
  if c.isDigit then some (c.toNat - '0'.toNat)
  else if 'a' ≤ c ∧ c ≤ 'f' then some (c.toNat - 'a'.toNat + 10)
  else if 'A' ≤ c ∧ c ≤ 'F' then some (c.toNat - 'A'.toNat + 10)
  else none

def isExponent : List Char → Bool
  | [] => true
  | c :: cs =>
    let digits := if cs.head? = some '-' then cs.drop 1 else withoutPlus cs
    (c = 'e' || c = 'E') && !digits.isEmpty && digits.all Char.isDigit

/-- Whether a text without a sign is a decimal number, with a point and an exponent or without, or stands for what is
infinite or no number. -/
def isDecimal (cs : List Char) : Bool :=
  let whole := cs.takeWhile Char.isDigit
  let rest := cs.drop whole.length
  let part := if rest.head? = some '.' then (rest.drop 1).takeWhile Char.isDigit else []
  let rest := if rest.head? = some '.' then rest.drop (part.length + 1) else rest
  (!(whole ++ part).isEmpty && isExponent rest) ||
    ["inf", "infinity", "nan"].any (·.toList = cs.map Char.toLower)

end PseudonymStore.Numeral
