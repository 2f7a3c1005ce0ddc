import PseudonymStore.Text.Numeral
import PseudonymStore.Text.Utf8
/-!
# Reading JSON

A reader knows which value it wants and takes it from the front of a text, from left to right, so that of several
problems the first one met is reported.  There are three kinds: the text ends too soon, the text is no JSON, or it is JSON
of another shape than wanted.  A value of another type is still read up to its end when it is a scalar, so that a mistake
within it is met first; a list or an object of another type is refused at its bracket.

A record may be written as an object, in any order and with other members between its own, or as a list of all its values
in order.
-/
namespace PseudonymStore.Json

inductive Problem where
  | unfinished
  | malformed
  | unfit
deriving DecidableEq

/-- What is left to read: characters, and `none` for a byte that belongs to none. -/
abbrev Source := List (Option Char)

abbrev Reader (α : Type) := StateT Source (Except Problem) α

/-! ## Characters -/

def isBlank (c : Option Char) : Bool :=
  c == some ' ' || c == some '\n' || c == some '\t' || c == some '\r'

def here : Reader (Option Char) := do
  match (← get).dropWhile isBlank with
  | [] => throw .unfinished
  | c :: rest =>
    set (c :: rest)
    return c

def advance : Reader Unit :=
  modify (·.drop 1)

def word : List Char → Source → Except Problem (Unit × Source)
  | [], s => .ok ((), s)
  | _ :: _, [] => .error .unfinished
  | w :: ws, c :: s => if c = some w then word ws s else .error .malformed

/-! ## Strings -/

def byteCount (s : Source) : Nat :=
  (s.map fun c => (c.map Char.utf8Size).getD 1).foldl (· + ·) 0

/-- The value of the four hexadecimal digits at the front; the text must go on for four bytes, whatever they are. -/
def hexEscape (s : Source) : Except Problem Nat :=
  if byteCount (s.take 4) < 4 then .error .unfinished
  else match (s.take 4).mapM (· >>= Numeral.hexDigit?) with
    | some ds => .ok (ds.foldl (· * 16 + ·) 0)
    | none => .error .malformed

/-- The character of an escape after its backslash, and how many characters of the source it takes.  A character beyond
four digits is written as a pair of surrogates; a surrogate alone stands for none. -/
def escape : Source → Except Problem (Char × Nat)
  | [] => .error .unfinished
  | some 'u' :: s => do
    let n ← hexEscape s
    if 0xDC00 ≤ n ∧ n < 0xE000 then .error .malformed
    else if 0xD800 ≤ n ∧ n < 0xDC00 then
      match s.drop 4 with
      | some '\\' :: some 'u' :: s => do
        let low ← hexEscape s
        if 0xDC00 ≤ low ∧ low < 0xE000 then return (Char.ofNat (0x10000 + (n - 0xD800) * 0x400 + (low - 0xDC00)), 11)
        else .error .malformed
      | [] => .error .unfinished
      | [some '\\'] => .error .unfinished
      | _ => .error .malformed
    else return (Char.ofNat n, 5)
  | c :: _ =>
    match c with
    | some '"' => .ok ('"', 1)
    | some '\\' => .ok ('\\', 1)
    | some '/' => .ok ('/', 1)
    | some 'b' => .ok ('\x08', 1)
    | some 'f' => .ok ('\x0c', 1)
    | some 'n' => .ok ('\n', 1)
    | some 'r' => .ok ('\r', 1)
    | some 't' => .ok ('\t', 1)
    | _ => .error .malformed

def stringFrom : (skip : Nat) → Source → Except Problem (List Char × Source)
  | _, [] => .error .unfinished
  | skip + 1, _ :: s => stringFrom skip s
  | 0, none :: _ => .error .malformed
  | 0, some c :: s =>
    if c = '"' then .ok ([], s)
    else if c = '\\' then do
      let (d, taken) ← escape s
      let (cs, rest) ← stringFrom taken s
      return (d :: cs, rest)
    else if c < ' ' then .error .malformed
    else do
      let (cs, rest) ← stringFrom 0 s
      return (c :: cs, rest)

/-- The end of a string that nobody wants: its escapes must be escapes, but neither surrogates nor stray bytes matter. -/
def passString : (skip : Nat) → Source → Except Problem (Unit × Source)
  | _, [] => .error .unfinished
  | skip + 1, _ :: s => passString skip s
  | 0, c :: s =>
    if c = some '"' then .ok ((), s)
    else if c = some '\\' then
      match s with
      | [] => .error .unfinished
      | some 'u' :: digits => do
        let _ ← hexEscape digits
        passString 5 s
      | d :: _ => if ("\"\\/bfnrt".toList.map some).contains d then passString 1 s else .error .malformed
    else if c.any (· < ' ') then .error .malformed
    else passString 0 s

def quoted : Reader String := do
  let cs ← stringFrom 0
  return String.ofList cs

/-! ## Numbers -/

def isDigit (c : Option Char) : Bool :=
  c.any Char.isDigit

def digits (s : Source) : List Nat × Source :=
  ((s.takeWhile isDigit).filterMap (·.map fun c => c.toNat - '0'.toNat), s.dropWhile isDigit)

def someDigits (atEnd : Problem) (s : Source) : Except Problem (List Nat × Source) :=
  match digits s with
  | ([], []) => .error atEnd
  | ([], _ :: _) => .error .malformed
  | ds => .ok ds

structure Numeral where
  whole : List Nat
  fraction : List Nat
  exponent : List Nat
  negativeExponent : Bool

def numeral (atEnd : Problem) (s : Source) : Except Problem (Numeral × Source) := do
  let s := if s.head? = some (some '-') then s.drop 1 else s
  let (whole, s) ← someDigits atEnd s
  if whole.length > 1 ∧ whole.head? = some 0 then .error .malformed
  let (fraction, s) ← if s.head? = some (some '.') then someDigits atEnd (s.drop 1) else .ok ([], s)
  if s.head? = some (some 'e') ∨ s.head? = some (some 'E') then
    let s := s.drop 1
    let signed := s.head? = some (some '+') ∨ s.head? = some (some '-')
    let (exponent, rest) ← someDigits atEnd (if signed then s.drop 1 else s)
    return (⟨whole, fraction, exponent, s.head? = some (some '-')⟩, rest)
  else return (⟨whole, fraction, [], false⟩, s)

def gather : (n taken : Nat) → List Nat → Nat × Nat
  | n, taken, [] => (n, taken)
  | n, taken, d :: ds => if n * 10 + d < 0x10000000000000000 then gather (n * 10 + d) (taken + 1) ds else (n, taken)

def rounded (n : Nat) : Nat :=
  let unit := 1 <<< (n.log2 - 52)
  let low := n / unit * unit
  let excess := 2 * (n - low)
  if excess < unit ∨ (excess = unit ∧ n / unit % 2 = 0) then low else low + unit

def Numeral.isTooLarge (n : Numeral) : Bool :=
  let (significand, whole) := gather 0 0 n.whole
  let (significand, fraction) := gather significand 0 n.fraction
  let written : Nat := n.exponent.foldl (· * 10 + ·) 0
  let exponent := (if n.negativeExponent then -(written : Int) else written) + (n.whole.length - whole : Nat) - fraction
  significand ≠ 0 && 0 ≤ exponent &&
    (308 < exponent || 1 <<< 1024 - 1 <<< 970 ≤ rounded significand * rounded (Nat.pow 10 exponent.toNat))

def number : Source → Except Problem (Unit × Source) := fun s => do
  let (n, rest) ← numeral .unfinished s
  if n.isTooLarge then .error .malformed else return ((), rest)

/-! ## Values -/

/-- Refuses a value of another type than wanted; a mistake in a scalar is met first. -/
def refuse : Reader α := do
  match ← here with
  | some 'n' =>
    advance
    word "ull".toList
  | some 't' =>
    advance
    word "rue".toList
  | some 'f' =>
    advance
    word "alse".toList
  | some '"' =>
    advance
    discard quoted
  | some '[' => throw .unfit
  | some '\x7b' => throw .unfit
  | c => if c = some '-' ∨ isDigit c then number else throw .malformed
  throw .unfit

def text : Reader String := do
  if (← here) = some '"' then
    advance
    quoted
  else refuse

def orNull (value : Reader α) : Reader (Option α) := do
  if (← here) = some 'n' then
    advance
    word "ull".toList
    return none
  else some <$> value

def colon : Reader Unit := do
  if (← here) = some ':' then advance else throw .malformed

/-! ## Values that nobody wants -/

inductive Bracket where
  | list
  | object
deriving DecidableEq

def Bracket.closing : Bracket → Char
  | .list => ']'
  | .object => '\x7d'

def passName : Bracket → Reader Unit
  | .list => pure ()
  | .object => do
    if (← here) = some '"' then
      advance
      passString 0
      colon
    else throw .malformed

/-- What follows an opening bracket: its end, or else what stands before its first value.  Tells whether it was the
end. -/
def passOpening (b : Bracket) : Reader Bool := do
  if (← here) = some b.closing then
    advance
    return true
  else
    passName b
    return false

/-- Passes values up to the end of the outermost open bracket; `ended` tells that a value has just ended, and otherwise
one begins. -/
def pass : (fuel : Nat) → (ended : Bool) → (isOpen : List Bracket) → Reader Unit
  | 0, _, _ => throw .unfinished
  | _ + 1, true, [] => pure ()
  | fuel + 1, true, b :: isOpen => do
    let c ← here
    if c = some ',' then
      advance
      passName b
      pass fuel false (b :: isOpen)
    else if c = some b.closing then
      advance
      pass fuel true isOpen
    else throw .malformed
  | fuel + 1, false, isOpen => do
    match ← here with
    | some 'n' =>
      advance
      word "ull".toList
      pass fuel true isOpen
    | some 't' =>
      advance
      word "rue".toList
      pass fuel true isOpen
    | some 'f' =>
      advance
      word "alse".toList
      pass fuel true isOpen
    | some '"' =>
      advance
      passString 0
      pass fuel true isOpen
    | some '[' =>
      advance
      if ← passOpening .list then pass fuel true isOpen else pass fuel false (.list :: isOpen)
    | some '\x7b' =>
      advance
      if ← passOpening .object then pass fuel true isOpen else pass fuel false (.object :: isOpen)
    | c =>
      if c = some '-' ∨ isDigit c then
        discard (numeral .malformed)
        pass fuel true isOpen
      else throw .malformed

def passValue : Reader Unit := do
  pass (2 * (← get).length + 2) false []

/-! ## Lists, objects and records -/

def items (value : Reader α) : (fuel : Nat) → (first : Bool) → Reader (List α)
  | 0, _ => throw .unfinished
  | fuel + 1, first => do
    let c ← here
    if c = some ']' then
      advance
      return []
    else if first then
      let a ← value
      return a :: (← items value fuel false)
    else if c = some ',' then
      advance
      if (← here) = some ']' then throw .malformed
      let a ← value
      return a :: (← items value fuel false)
    else throw .malformed

def list (value : Reader α) : Reader (List α) := do
  if (← here) = some '[' then
    advance
    items value (← get).length true
  else refuse

def members (put : String → δ → Reader δ) : (fuel : Nat) → (first : Bool) → δ → Reader δ
  | 0, _, _ => throw .unfinished
  | fuel + 1, first, draft => do
    let c ← here
    if c = some '\x7d' then
      advance
      return draft
    else
      if !first then
        if c = some ',' then advance else throw .malformed
      if (← here) = some '"' then
        advance
        let name ← quoted
        members put fuel false (← put name draft)
      else throw .malformed

def rows (value : Reader α) : Reader (List (String × α)) := do
  if (← here) = some '\x7b' then
    advance
    let reversed ← members (fun name rows => do
      colon
      return (name, ← value) :: rows) (← get).length true []
    return reversed.reverse
  else refuse

def once (slot : Option α) (value : Reader α) : Reader (Option α) := do
  if slot.isSome then throw .unfit
  colon
  some <$> value

def passMember : Reader Unit := do
  colon
  passValue

def required : Option α → Reader α
  | some a => pure a
  | none => throw .unfit

def inOrder (first : Bool) (value : Reader α) : Reader α := do
  let c ← here
  if c = some ']' then throw .unfit
  if !first then
    if c = some ',' then advance else throw .malformed
    if (← here) = some ']' then throw .malformed
  value

/-- A record: an object whose members are added to a draft that is finished at its end, or a list of all values. -/
def record (draft : δ) (put : String → δ → Reader δ) (finish : δ → Reader α) (ordered : Reader α) : Reader α := do
  match ← here with
  | some '\x7b' =>
    advance
    let draft ← members put (← get).length true draft
    finish draft
  | some '[' =>
    advance
    let a ← ordered
    if (← here) = some ']' then
      advance
      return a
    else throw .malformed
  | _ => refuse

def whole (value : Reader α) (s : Source) : Except Problem α := do
  let (a, rest) ← value s
  if (rest.dropWhile isBlank).isEmpty then return a else throw .malformed

def read (value : Reader α) (s : String) : Except Problem α :=
  whole value (s.toList.map some)

def readBytes (value : Reader α) (bs : Bytes) : Except Problem α :=
  whole value (Utf8.decode bs)

end PseudonymStore.Json
