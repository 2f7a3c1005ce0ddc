import PseudonymStore.Log.Directive
/-!
# Log subscribers

Who the log goes to: which events are let through, and how they are written.  A filter is written as directives with
commas between them.  For an event the most specific of the directives that speak about it decides; without any, the event
is held back.  A process has at most one subscriber, the first that was installed.
-/
namespace PseudonymStore.Log

inductive Format where
  | json
  | pretty
deriving DecidableEq

/-- The format that a setting names, in any case and with blanks around it; every other setting is for people. -/
def Format.parse (setting : String) : Format :=
  if ((Blank.trim setting.toList).map Char.toLower) = "json".toList then .json else .pretty

abbrev Filter := List Directive

def Filter.parse? (s : String) : Option Filter :=
  ((pieces ',' s.toList).filter (!·.isEmpty)).mapM Directive.parse?

def Filter.default : Filter :=
  [⟨none, none, none, Level.info.rank⟩]

def Filter.ofSetting (setting : Option String) : Filter :=
  (setting.bind parse?).getD default

/-- The directive that decides about an event: of those that speak about it the most specific, and the last of its
equals. -/
def Filter.decisive? (f : Filter) (e : Event) : Option Directive :=
  (f.filter (·.speaksOf e)).foldl (fun best d => if best.all (·.yieldsTo d) then some d else best) none

def Filter.admits (f : Filter) (e : Event) : Bool :=
  (f.decisive? e).any (e.level.rank ≤ ·.limit)

structure Subscriber where
  format : Format
  filter : Filter
deriving DecidableEq

namespace Subscriber

def install (current : Option Subscriber) (format : Format) (setting : Option String) : Bool × Subscriber :=
  match current with
  | some subscriber => (false, subscriber)
  | none => (true, ⟨format, .ofSetting setting⟩)

def received (s : Subscriber) (log : List Event) : List Event :=
  log.filter s.filter.admits

end Subscriber

end PseudonymStore.Log
