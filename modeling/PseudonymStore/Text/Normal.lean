import PseudonymStore.Text.Normal.CombiningClass
import PseudonymStore.Text.Normal.Decomposition
/-!
# Normalization Form C

Texts that Unicode calls canonically equivalent have one normal form: every character is decomposed, combining marks are
put in the order of their classes, and the result is composed again.  Hangul syllables are decomposed and composed by
arithmetic, all other characters by the tables.
-/
namespace PseudonymStore.Normal

/-- Hangul syllables: the first of them, of their leading consonants, of their vowels, and the place before their final
consonants. -/
def firstSyllable : Nat := 0xAC00

def firstLead : Nat := 0x1100

def firstVowel : Nat := 0x1161

def beforeFinals : Nat := 0x11A7

def syllableCount : Nat := 11172

def leadCount : Nat := 19

def vowelCount : Nat := 21

def finalCount : Nat := 28

def syllableParts (index : Nat) : List Nat :=
  let lead := firstLead + index / (vowelCount * finalCount)
  let vowel := firstVowel + index % (vowelCount * finalCount) / finalCount
  if index % finalCount = 0 then [lead, vowel] else [lead, vowel, beforeFinals + index % finalCount]

def decomposeOnce? (n : Nat) : Option (List Nat) :=
  if n < 0xC0 then none
  else if firstSyllable ≤ n ∧ n < firstSyllable + syllableCount then some (syllableParts (n - firstSyllable))
  else match pairs.find? (·.1 == n) with
    | some row => some [row.2.1, row.2.2]
    | none => match singles.find? (·.1 == n) with
      | some row => some [row.2]
      | none => (runs.findSome? fun row => if row.1 ≤ n then row.2[n - row.1]? else none).map ([·])

/-- The full decomposition of a character; no character needs more than four steps. -/
def decompose : (steps : Nat) → Nat → List Nat
  | 0, n => [n]
  | steps + 1, n =>
    match decomposeOnce? n with
    | some parts => parts.flatMap (decompose steps)
    | none => [n]

def insertMark (n : Nat) : (reversed : List Nat) → List Nat
  | [] => [n]
  | m :: ms => if combiningClass n < combiningClass m then m :: insertMark n ms else n :: m :: ms

/-- Adds a character to reversed text in canonical order: one of class zero stays where it is. -/
def addInOrder (reversed : List Nat) (n : Nat) : List Nat :=
  if combiningClass n = 0 then n :: reversed else insertMark n reversed

def reorder (text : List Nat) : List Nat :=
  (text.foldl addInOrder []).reverse

def composed? (first second : Nat) : Option Nat :=
  if firstLead ≤ first ∧ first < firstLead + leadCount ∧ firstVowel ≤ second ∧ second < firstVowel + vowelCount then
    some (firstSyllable + ((first - firstLead) * vowelCount + (second - firstVowel)) * finalCount)
  else if firstSyllable ≤ first ∧ first < firstSyllable + syllableCount ∧ (first - firstSyllable) % finalCount = 0 ∧
      beforeFinals < second ∧ second < beforeFinals + finalCount then
    some (first + (second - beforeFinals))
  else if second < 0x300 then none
  else (pairs.find? fun row => row.2.1 == first && row.2.2 == second && !uncomposed.contains row.1).map (·.1)

/-- Composition in progress: the finished text, reversed; the last starter; the marks after it that stay, reversed. -/
structure Composing where
  done : List Nat
  starter : Option Nat
  marks : List Nat

def Composing.text (c : Composing) : List Nat :=
  c.marks ++ c.starter.toList ++ c.done

/-- Takes the next character: it composes with the starter unless a mark between them has its class or a greater one. -/
def Composing.add (c : Composing) (n : Nat) : Composing :=
  let keep : Composing :=
    if combiningClass n = 0 then ⟨c.text, some n, []⟩ else { c with marks := n :: c.marks }
  match c.starter with
  | none => keep
  | some s =>
    if c.marks.all fun m => combiningClass m < combiningClass n then
      match composed? s n with
      | some p => { c with starter := some p }
      | none => keep
    else keep

def compose (text : List Nat) : List Nat :=
  (text.foldl Composing.add ⟨[], none, []⟩).text.reverse

def nfc (s : String) : String :=
  String.ofList ((compose (reorder (s.toList.flatMap fun c => decompose 4 c.toNat))).map Char.ofNat)

end PseudonymStore.Normal
