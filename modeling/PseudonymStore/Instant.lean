import PseudonymStore.Text.Pieces
/-!
# Instants

A point in time and its text as in RFC 3339.  A date is found by walking the lengths of the years of an era of 400 years
and then of the months of the year, so that the month and the day are valid by their definition.  An instant is written
in UTC with as few digits of fraction as are exact; the reader takes more: any offset, blanks between the parts, and a
leap second.
-/
namespace PseudonymStore

/-- A point in time: seconds since the beginning of 1970 in UTC, and nanoseconds; a leap second is the second before it
with a thousand million nanoseconds more. -/
structure Instant where
  seconds : Int
  nanos : Nat
deriving DecidableEq

namespace Instant

def millis (t : Instant) : Nat :=
  (t.seconds * 1000 + (t.nanos / 1000000 : Nat)).toNat

def ofMillis (millis : Int) (nanos : Nat) : Instant where
  seconds := millis / 1000
  nanos := (millis % 1000).toNat * 1000000 + nanos

/-! ## The calendar -/

def isLeap (year : Int) : Bool :=
  year % 4 == 0 && (year % 100 != 0 || year % 400 == 0)

def monthLengths (year : Int) : List Nat :=
  [31, if isLeap year then 29 else 28, 31, 30, 31, 30, 31, 31, 30, 31, 30, 31]

def yearLengths : List Nat :=
  (List.range 400).map fun (year : Nat) => if isLeap (year : Int) then 366 else 365

def eraLength : Nat := 146097

def epochDay : Int := 719528

/-- In which of consecutive spans a day lies, and how far into it. -/
def locate : List Nat → Nat → Nat × Nat
  | [], day => (0, day)
  | length :: lengths, day =>
    if day < length then (0, day)
    else
      let (index, rest) := locate lengths (day - length)
      (index + 1, rest)

structure Date where
  year : Int
  month : Nat
  day : Nat
deriving DecidableEq

def Date.ofDay (day : Int) : Date :=
  let (year, rest) := locate yearLengths (day % eraLength).toNat
  let year := day / eraLength * 400 + year
  let (month, rest) := locate (monthLengths year) rest
  ⟨year, month, rest⟩

def total (lengths : List Nat) : Nat :=
  lengths.foldl (· + ·) 0

def Date.toDay (d : Date) : Int :=
  d.year / 400 * eraLength +
    (total (yearLengths.take (d.year % 400).toNat) + total ((monthLengths d.year).take d.month) + d.day : Nat)

def Date.isValid (d : Date) : Bool :=
  -262143 ≤ d.year && d.year ≤ 262142 && d.month < 12 && d.day < (monthLengths d.year).getD d.month 0

/-! ## Writing -/

def padded (width n : Nat) : List Char :=
  let digits := Nat.toDigits 10 n
  List.replicate (width - digits.length) '0' ++ digits

def writeYear (year : Int) : List Char :=
  if 0 ≤ year ∧ year ≤ 9999 then padded 4 year.toNat
  else (if year < 0 then '-' else '+') :: padded 4 year.natAbs

def writeFraction (nanos : Nat) : List Char :=
  if nanos = 0 then []
  else if nanos % 1000000 = 0 then '.' :: padded 3 (nanos / 1000000)
  else if nanos % 1000 = 0 then '.' :: padded 6 (nanos / 1000)
  else '.' :: padded 9 nanos

def write (t : Instant) : List Char :=
  let date := Date.ofDay (t.seconds / 86400 + epochDay)
  let second := (t.seconds % 86400).toNat
  writeYear date.year ++ '-' :: padded 2 (date.month + 1) ++ '-' :: padded 2 (date.day + 1) ++
    'T' :: padded 2 (second / 3600) ++ ':' :: padded 2 (second / 60 % 60) ++
    ':' :: padded 2 (second % 60 + t.nanos / 1000000000) ++ writeFraction (t.nanos % 1000000000) ++ ['Z']

/-! ## Reading -/

def digit? (c : Char) : Option Nat :=
  if c.isDigit then some (c.toNat - '0'.toNat) else none

def takeDigits : (limit count value : Nat) → List Char → Nat × Nat × List Char
  | 0, count, value, cs => (count, value, cs)
  | _ + 1, count, value, [] => (count, value, [])
  | limit + 1, count, value, c :: cs =>
    match digit? c with
    | some d => takeDigits limit (count + 1) (value * 10 + d) cs
    | none => (count, value, c :: cs)

def number? (limit : Nat) (cs : List Char) : Option (Nat × List Char) :=
  match takeDigits limit 0 0 (Blank.trimLeft cs) with
  | (0, _, _) => none
  | (_, value, rest) => some (value, rest)

def mark? (c : Char) (cs : List Char) : Option (List Char) :=
  match Blank.trimLeft cs with
  | d :: rest => if d = c then some rest else none
  | [] => none

def year? (cs : List Char) : Option (Int × List Char) :=
  let signed (rest : List Char) : Option (Nat × List Char) :=
    match takeDigits rest.length 0 0 rest with
    | (0, _, _) => none
    | (_, value, rest) => some (value, rest)
  match Blank.trimLeft cs with
  | '-' :: rest => (signed rest).map fun r => (-(r.1 : Int), r.2)
  | '+' :: rest => (signed rest).map fun r => ((r.1 : Int), r.2)
  | cs => (number? 4 cs).map fun r => ((r.1 : Int), r.2)

/-- A fraction of a second in nanoseconds, if one stands here; digits beyond the ninth do not count. -/
def fraction? : List Char → Option (Nat × List Char)
  | '.' :: cs =>
    match takeDigits 9 0 0 cs with
    | (0, _, _) => none
    | (count, value, rest) => some (value * Nat.pow 10 (9 - count), rest.dropWhile Char.isDigit)
  | cs => some (0, cs)

def twoDigits? (limit : Nat) : List Char → Option (Nat × List Char)
  | a :: b :: rest => do
    let x ← digit? a
    let y ← digit? b
    guard (x ≤ limit)
    return (x * 10 + y, rest)
  | _ => none

def hoursMinutes? (cs : List Char) : Option (Nat × List Char) := do
  let (hours, cs) ← twoDigits? 9 cs
  let (minutes, cs) ← twoDigits? 5 (cs.dropWhile fun c => c == ':' || Blank.isBlank c)
  return (hours * 3600 + minutes * 60, cs)

def offset? (cs : List Char) : Option (Int × List Char) :=
  match cs with
  | c :: rest =>
    if c = 'Z' ∨ c = 'z' then some (0, rest)
    else if (cs.take 3).map Char.toUpper = ['U', 'T', 'C'] then some (0, cs.drop 3)
    else if c = '+' then (hoursMinutes? rest).map fun r => ((r.1 : Int), r.2)
    else if c = '-' ∨ c = '\u2212' then (hoursMinutes? rest).map fun r => (-(r.1 : Int), r.2)
    else none
  | [] => none

def read? (text : List Char) : Option Instant := do
  let (year, cs) ← year? text
  let cs ← mark? '-' cs
  let (month, cs) ← number? 2 cs
  let cs ← mark? '-' cs
  let (day, cs) ← number? 2 cs
  let date : Date := ⟨year, month - 1, day - 1⟩
  guard (1 ≤ month ∧ 1 ≤ day ∧ date.isValid)
  let separator :: cs := cs | none
  guard (separator = 'T' ∨ separator = 't' ∨ separator = ' ')
  let (hour, cs) ← number? 2 cs
  let cs ← mark? ':' cs
  let (minute, cs) ← number? 2 cs
  let cs ← mark? ':' cs
  let (second, cs) ← number? 2 cs
  guard (hour < 24 ∧ minute < 60 ∧ second ≤ 60)
  let (nanos, cs) ← fraction? cs
  let (offset, cs) ← offset? (Blank.trimLeft cs)
  guard (offset.natAbs < 86400 ∧ (Blank.trimLeft cs).isEmpty)
  let wholeSeconds : Nat := hour * 3600 + minute * 60 + min second 59
  let seconds := (date.toDay - epochDay) * 86400 + wholeSeconds - offset
  guard (Date.ofDay (seconds / 86400 + epochDay)).isValid
  return ⟨seconds, if second = 60 then nanos + 1000000000 else nanos⟩

end Instant

end PseudonymStore
