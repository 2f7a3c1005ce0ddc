import PseudonymStore.Log.Event
import PseudonymStore.Log.Pattern
import PseudonymStore.Text.Alphanumeric
import PseudonymStore.Text.Pieces
import PseudonymStore.Text.Numeral
/-!
# Filter directives

The rules that a log filter is made of.  A directive is written `target[span{field=value}]=level`, and each of its parts
may be left out.  It says up to which level the events are let through whose target begins with its own and that have
its field.
-/
namespace PseudonymStore.Log

structure FieldMatch where
  name : List Char
  value : Option (List Char)
deriving DecidableEq

structure Directive where
  target : Option (List Char)
  span : Option (List Char)
  field : Option FieldMatch
  limit : Nat
deriving DecidableEq

def limitNames : List String :=
  ["off", "error", "warn", "info", "debug", "trace"]

def limit? (cs : List Char) : Option Nat :=
  match Numeral.parse? cs with
  | some n => if n ≤ Level.trace.rank then some n else none
  | none => limitNames.findIdx? (·.toList = cs.map Char.toLower)

/-- Whether values can be held against a text: it is a pattern, or a number with a plus sign, which would be none. -/
def isValue (cs : List Char) : Bool :=
  Pattern.isPattern cs || (cs.head? = some '+' && Numeral.isDecimal (cs.drop 1))

/-- The field that a text asks for; what follows a second equals sign does not count. -/
def FieldMatch.parse? (cs : List Char) : Option FieldMatch :=
  match pieces '=' cs with
  | name :: value :: _ => if isValue value then some ⟨name, some value⟩ else none
  | _ => if cs.isEmpty then none else some ⟨cs, none⟩

namespace Directive

def isOpening (c : Char) : Bool :=
  Alphanumeric.isAlphanumeric c || c = '-' || c = ':' || c = '_'

def part? (whole before part : List Char) : Option (List Char) :=
  (Cut.after? (Cut.size before) whole).bind (Cut.first? (Cut.size part))

def limitAfter? (whole before : List Char) : (rest : List Char) → Option Nat
  | [] => some Level.trace.rank
  | '=' :: _ =>
    match Cut.after? (Cut.size before + 1) whole with
    | some [] => some Level.trace.rank
    | some level => limit? level
    | none => none
  | _ => none

def parseSpan? (whole before : List Char) (target : Option (List Char)) (rest : List Char) : Option Directive := do
  let opened := before ++ ['[']
  let name := rest.takeWhile fun c => c ≠ ']' ∧ c ≠ '\x7b'
  let span ← part? whole opened name
  match rest.drop name.length with
  | ']' :: rest => return ⟨target, some span, none, ← limitAfter? whole (opened ++ name ++ [']']) rest⟩
  | brace :: rest =>
    let inner := rest.takeWhile (· ≠ '\x7d')
    let field ← FieldMatch.parse? (← part? whole (opened ++ name ++ [brace]) inner)
    match rest.drop inner.length with
    | closing :: ']' :: rest =>
      let limit ← limitAfter? whole (opened ++ name ++ brace :: inner ++ [closing, ']']) rest
      return ⟨target, if span.isEmpty then none else some span, some field, limit⟩
    | _ => none
  | [] => none

/-- The directive that a text gives.  Blanks at its ends do not count for where its parts are, and are not removed from
them.  A text that is no level is a target whose every event is let through. -/
def parse? (whole : List Char) : Option Directive :=
  let text := Blank.trim whole
  match text with
  | [] => none
  | '[' :: rest => parseSpan? whole [] none rest
  | c :: _ =>
    if !isOpening c then none
    else
      let target := text.takeWhile fun c => c ≠ '=' ∧ c ≠ '['
      match text.drop target.length with
      | '[' :: rest => do parseSpan? whole target (← part? whole [] target) rest
      | '=' :: rest => do
        return ⟨← part? whole [] target, none, none, ← limitAfter? whole target ('=' :: rest)⟩
      | _ =>
        match limit? whole with
        | some limit => some ⟨none, none, none, limit⟩
        | none => some ⟨some whole, none, none, Level.trace.rank⟩

/-- Whether a directive speaks about an event.  The store reports nothing from inside a span, so one that asks for a span,
or for the value of a field of a span, never does. -/
def speaksOf (d : Directive) (e : Event) : Bool :=
  d.span.isNone && (d.target.getD []).isPrefixOf e.target.toList &&
    d.field.all fun f => f.value.isNone && e.fieldNames.contains (String.ofList f.name)

def targetLength (d : Directive) : Nat :=
  match d.target with
  | none => 0
  | some t => t.length + 1

def isUpTo : List Char → List Char → Bool
  | [], _ => true
  | _ :: _, [] => false
  | c :: cs, d :: ds => c.toNat < d.toNat || (c = d && isUpTo cs ds)

/-- Whether another directive is at least as specific: the length of the target decides, then whether there is a field,
then its name. -/
def yieldsTo (d e : Directive) : Bool :=
  if d.targetLength ≠ e.targetLength then d.targetLength < e.targetLength
  else match d.field, e.field with
    | none, _ => true
    | some _, none => false
    | some f, some g => isUpTo f.name g.name

end Directive

end PseudonymStore.Log
