/-!
# Pieces of text

Text cut up: blanks dropped at its ends, pieces between separators, and what stands before and behind some of its UTF-8
bytes.  Blanks are the white space of Unicode, which is wider than that of ASCII and leaves out the zero-width characters;
settings, timestamps and key files all drop them.
-/
namespace PseudonymStore

def pieces (separator : Char) : List Char → List (List Char)
  | [] => [[]]
  | c :: cs =>
    if c = separator then [] :: pieces separator cs
    else match pieces separator cs with
      | piece :: rest => (c :: piece) :: rest
      | [] => [[c]]

end PseudonymStore

namespace PseudonymStore.Blank

/-- Whether a character has the Unicode property `White_Space`. -/
def isBlank (c : Char) : Bool :=
  let n := c.toNat
  (0x09 ≤ n && n ≤ 0x0D) || n == 0x20 || n == 0x85 || n == 0xA0 || n == 0x1680 || (0x2000 ≤ n && n ≤ 0x200A) ||
    n == 0x2028 || n == 0x2029 || n == 0x202F || n == 0x205F || n == 0x3000

def trimLeft (cs : List Char) : List Char :=
  cs.dropWhile isBlank

def trim (cs : List Char) : List Char :=
  (trimLeft (trimLeft cs).reverse).reverse

end PseudonymStore.Blank

namespace PseudonymStore.Cut

def size : List Char → Nat
  | [] => 0
  | c :: cs => c.utf8Size + size cs

/-- The text after so many bytes, if a character begins or the text ends there. -/
def after? : (bytes : Nat) → List Char → Option (List Char)
  | 0, cs => some cs
  | _ + 1, [] => none
  | bytes + 1, c :: cs => if c.utf8Size ≤ bytes + 1 then after? (bytes + 1 - c.utf8Size) cs else none

def first? : (bytes : Nat) → List Char → Option (List Char)
  | 0, _ => some []
  | _ + 1, [] => none
  | bytes + 1, c :: cs =>
    if c.utf8Size ≤ bytes + 1 then (first? (bytes + 1 - c.utf8Size) cs).map (c :: ·) else none

end PseudonymStore.Cut
