import PseudonymStore.Text.Alphanumeric
import PseudonymStore.Text.Pieces
import PseudonymStore.Text.Numeral
/-!
# Value patterns

What a filter may hold the value of a field against: regular expressions, in which folding of case, named classes and word
boundaries are known for ASCII alone, and so only where Unicode is switched off.  Only what lies in a span has its values
compared, and the store reports nothing from inside one; all that matters is whether a text is a pattern.
-/
namespace PseudonymStore.Log.Pattern

/-- What the options of a group change: whether case is folded, whether characters are those of Unicode, and whether
blanks and comments are skipped. -/
structure Options where
  foldsCase : Bool
  isUnicode : Bool
  skipsBlanks : Bool
deriving DecidableEq

def Options.standard : Options :=
  ⟨false, true, false⟩

def Options.switch (o : Options) (on : Bool) (c : Char) : Options :=
  match c with
  | 'i' => { o with foldsCase := on }
  | 'u' => { o with isUnicode := on }
  | 'x' => { o with skipsBlanks := on }
  | _ => o

def optionLetters : List Char :=
  ['i', 'm', 's', 'U', 'u', 'R', 'x']

inductive Position where
  | items (repeatable : Bool)
  /-- Behind a backslash, and perhaps in a range of a set that begins with some character. -/
  | escape (low : Option Nat)
  /-- In a code, of which so many digits are missing. -/
  | code (low : Option Nat) (isByte : Bool) (missing value : Nat)
  | groupOpened
  | groupKind
  /-- Behind the letter that may stand before the name of a group. -/
  | groupLetter
  | groupName (name : List Char)
  | groupOptions (options : Options) (on : Bool) (seen : List Char)
  | setOpened (isNegated : Bool)
  /-- In a set, where the last member may begin a range, and where a sign repeated makes an operator. -/
  | members (low : Option Nat) (sign : Option Char)
  | dash (low : Nat)
deriving DecidableEq

/-- A reader of a pattern: the options around each open group, the names of groups, the number of open sets, the options
in force, and where it is. -/
structure Reader where
  groups : List Options
  names : List (List Char)
  sets : Nat
  options : Options
  inComment : Bool
  position : Position
deriving DecidableEq

def Reader.initial : Reader :=
  ⟨[], [], 0, .standard, false, .items false⟩

def beyondCharacters : Nat := 0x110000

namespace Reader

def goTo (r : Reader) (position : Position) : Reader :=
  { r with position }

def takeCharacter (r : Reader) (low : Option Nat) (n : Nat) (sign : Option Char) : Option Reader :=
  if r.sets = 0 then
    if r.options.foldsCase && r.options.isUnicode then none else some (r.goTo (.items true))
  else if !r.options.isUnicode && 0x80 ≤ n then none
  else match low with
    | some low => if low ≤ n then some (r.goTo (.members none none)) else none
    | none => some (r.goTo (.members (some n) sign))

def takeAnchor (r : Reader) : Option Reader :=
  if r.sets = 0 then some (r.goTo (.items true)) else none

def takeClass (r : Reader) (low : Option Nat) : Option Reader :=
  if r.options.isUnicode then none
  else if r.sets = 0 then some (r.goTo (.items true))
  else if low.isSome then none
  else some (r.goTo (.members (some beyondCharacters) none))

def openSet (r : Reader) : Option Reader :=
  if r.options.foldsCase && r.options.isUnicode then none
  else some { r with sets := r.sets + 1, position := .setOpened false }

def closeSet (r : Reader) : Reader :=
  { r with sets := r.sets - 1, position := if r.sets = 1 then .items true else .members none none }

def openGroup (r : Reader) (options : Options) : Reader :=
  { r with groups := r.options :: r.groups, options, position := .items false }

def readItem (r : Reader) (repeatable : Bool) (c : Char) : Option Reader :=
  match c with
  | '(' => some (r.goTo .groupOpened)
  | ')' =>
    match r.groups with
    | [] => none
    | options :: groups => some { r with groups, options, position := .items true }
  | '[' => r.openSet
  | '\\' => some (r.goTo (.escape none))
  | '|' => some (r.goTo (.items false))
  | '*' | '+' | '?' => if repeatable then some r else none
  | '\x7b' => none
  | '^' | '$' => some (r.goTo (.items true))
  | '.' => if r.options.isUnicode then some (r.goTo (.items true)) else none
  | c => r.takeCharacter none c.toNat none

def readEscaped (r : Reader) (low : Option Nat) (c : Char) : Option Reader :=
  match c with
  | 'x' => some (r.goTo (.code low true 2 0))
  | 'u' => some (r.goTo (.code low false 4 0))
  | 'U' => some (r.goTo (.code low false 8 0))
  | 'd' | 's' | 'w' => r.takeClass low
  | 'b' | 'B' | '<' | '>' => if r.options.isUnicode then none else r.takeAnchor
  | 'A' | 'z' => r.takeAnchor
  | 'a' => r.takeCharacter low 0x07 none
  | 't' => r.takeCharacter low 0x09 none
  | 'n' => r.takeCharacter low 0x0A none
  | 'v' => r.takeCharacter low 0x0B none
  | 'f' => r.takeCharacter low 0x0C none
  | 'r' => r.takeCharacter low 0x0D none
  | c => if c.toNat < 0x80 ∧ !c.isAlphanum then r.takeCharacter low c.toNat none else none

def readDigit (r : Reader) (low : Option Nat) (isByte : Bool) (missing value : Nat) (c : Char) : Option Reader :=
  match Numeral.hexDigit? c with
  | none => none
  | some digit =>
    let value := value * 16 + digit
    if 1 < missing then some (r.goTo (.code low isByte (missing - 1) value))
    else if !value.isValidChar || (isByte && !r.options.isUnicode && 0x80 ≤ value) then none
    else r.takeCharacter low value none

def readName (r : Reader) (name : List Char) (c : Char) : Option Reader :=
  if c = '>' then
    if name.isEmpty ∨ r.names.contains name then none
    else some { r.openGroup r.options with names := name :: r.names }
  else if c = '_' ∨ (Alphanumeric.isAlphanumeric c ∧ !(name.isEmpty ∧ c.isDigit)) ∨
      (!name.isEmpty ∧ ['.', '[', ']'].contains c) then
    some (r.goTo (.groupName (c :: name)))
  else none

def readOption (r : Reader) (options : Options) (on : Bool) (seen : List Char) (c : Char) : Option Reader :=
  if c = ':' ∨ c = ')' then
    if seen.head? = some '-' then none
    else if c = ':' then some (r.openGroup options)
    else if seen.isEmpty then none
    else some { r with options, position := .items false }
  else if seen.contains c then none
  else if c = '-' then some (r.goTo (.groupOptions options false (c :: seen)))
  else if optionLetters.contains c then some (r.goTo (.groupOptions (options.switch on c) on (c :: seen)))
  else none

def readMember (r : Reader) (low : Option Nat) (sign : Option Char) (c : Char) : Option Reader :=
  if sign = some c then some (r.goTo (.members none none))
  else match c with
    | '[' => r.openSet
    | ']' => some r.closeSet
    | '\\' => some (r.goTo (.escape none))
    | '-' =>
      match low with
      | some low => some (r.goTo (.dash low))
      | none => some (r.goTo (.members none none))
    | '&' | '~' => r.takeCharacter none c.toNat (some c)
    | c => r.takeCharacter none c.toNat none

/-- Reads the first character of a set; there, closing brackets and dashes stand for themselves. -/
def readFirstMember (r : Reader) (isNegated : Bool) (c : Char) : Option Reader :=
  match c with
  | '^' =>
    if isNegated then r.readMember none none c
    else if r.options.isUnicode then some (r.goTo (.setOpened true)) else none
  | ']' | '-' => some (r.goTo (.members none none))
  | c => r.readMember none none c

def readRangeEnd (r : Reader) (low : Nat) (c : Char) : Option Reader :=
  match c with
  | ']' => some r.closeSet
  | '-' => some (r.goTo (.members none none))
  | '\\' => some (r.goTo (.escape (some low)))
  | c => r.takeCharacter (some low) c.toNat none

def maySkip (r : Reader) : Bool :=
  r.options.skipsBlanks && match r.position with
    | .items _ | .groupOpened | .setOpened _ | .members .. | .dash _ => true
    | _ => false

def read (r : Reader) (c : Char) : Option Reader :=
  if r.inComment then some { r with inComment := c ≠ '\n' }
  else if r.maySkip && Blank.isBlank c then some r
  else if r.maySkip && c = '#' then some { r with inComment := true }
  else match r.position with
    | .items repeatable => r.readItem repeatable c
    | .escape low => r.readEscaped low c
    | .code low isByte missing value => r.readDigit low isByte missing value c
    | .groupOpened =>
      if c = '?' then some (r.goTo .groupKind) else (r.openGroup r.options).readItem false c
    | .groupKind =>
      if c = 'P' then some (r.goTo .groupLetter)
      else if c = '<' then some (r.goTo (.groupName []))
      else r.readOption r.options true [] c
    | .groupLetter => if c = '<' then some (r.goTo (.groupName [])) else none
    | .groupName name => r.readName name c
    | .groupOptions options on seen => r.readOption options on seen c
    | .setOpened isNegated => r.readFirstMember isNegated c
    | .members low sign => r.readMember low sign c
    | .dash low => r.readRangeEnd low c

def mayEnd (r : Reader) : Bool :=
  match r.position with
  | .items _ => r.groups.isEmpty
  | _ => false

end Reader

def isPattern (cs : List Char) : Bool :=
  match cs.foldlM Reader.read .initial with
  | some r => r.mayEnd
  | none => false

end PseudonymStore.Log.Pattern
