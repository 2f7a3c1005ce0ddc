import PseudonymStore.Bytes
/-!
# Compact JSON text

The written form of values: no blanks, members in the order given, and in strings only what must be escaped is.  The six
short escapes are used where they exist and four hexadecimal digits for the other control characters; every other
character stands for itself.
-/
namespace PseudonymStore.Json

def hexEscaped (c : Char) : List Char :=
  ['\\', 'u', '0', '0', Nat.digitChar (c.toNat / 16), Nat.digitChar (c.toNat % 16)]

def escaped (c : Char) : List Char :=
  match c with
  | '"' => ['\\', '"']
  | '\\' => ['\\', '\\']
  | '\x08' => ['\\', 'b']
  | '\x0c' => ['\\', 'f']
  | '\n' => ['\\', 'n']
  | '\r' => ['\\', 'r']
  | '\t' => ['\\', 't']
  | c => if c < ' ' then hexEscaped c else [c]

def string (s : String) : List Char :=
  '"' :: s.toList.flatMap escaped ++ ['"']

def nullable (write : α → List Char) : Option α → List Char
  | none => "null".toList
  | some a => write a

def separated : List (List Char) → List Char
  | [] => []
  | [item] => item
  | item :: next :: items => item ++ ',' :: separated (next :: items)

def array (items : List (List Char)) : List Char :=
  '[' :: separated items ++ [']']

def member (name : String) (value : List Char) : List Char :=
  string name ++ ':' :: value

def object (members : List (List Char)) : List Char :=
  '\x7b' :: separated members ++ ['\x7d']

def optional (name : String) (write : α → List Char) : Option α → List (List Char)
  | none => []
  | some a => [member name (write a)]

end PseudonymStore.Json
