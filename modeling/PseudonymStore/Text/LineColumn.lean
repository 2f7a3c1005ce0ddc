import PseudonymStore.Text.Numeral
/-!
# Lines and columns

A wording may end by telling where in a text something went wrong: ` at line 3 column 4`.  Line zero stands for no
place.
-/
namespace PseudonymStore

structure LineColumn where
  line : Nat
  column : Nat
deriving DecidableEq

namespace LineColumn

def lineMark : List Char := " at line ".toList

def columnMark : List Char := " column ".toList

def aroundLast? (mark : List Char) : List Char → Option (List Char × List Char)
  | [] => none
  | c :: cs =>
    match aroundLast? mark cs with
    | some (before, after) => some (c :: before, after)
    | none => if mark.isPrefixOf (c :: cs) then some ([], (c :: cs).drop mark.length) else none

def parse? (cs : List Char) : Option LineColumn :=
  let line := cs.takeWhile Char.isDigit
  let rest := cs.drop line.length
  if columnMark.isPrefixOf rest then
    match Numeral.unsigned? line, Numeral.unsigned? (rest.drop columnMark.length) with
    | some line, some column => some ⟨line, column⟩
    | _, _ => none
  else none

def wording (p : LineColumn) : String :=
  if p.line = 0 then "" else s!" at line {p.line} column {p.column}"

/-- A wording with the place at its end, if it tells one, in plain digits or left out if it is none. -/
def settled (text : String) : String :=
  match aroundLast? lineMark text.toList with
  | none => text
  | some (before, after) =>
    match parse? after with
    | none => text
    | some place => String.ofList before ++ place.wording

end LineColumn

end PseudonymStore
