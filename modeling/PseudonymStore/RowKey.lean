import PseudonymStore.Text.Utf8
import PseudonymStore.Pseudonym
/-!
# Row keys

A composite key is its parts with NUL bytes between them.  Parts hold no NUL themselves, so keys below a path are those
that continue it with a NUL: they lie between the path followed by 0 and the path followed by 1, and within that range
they are ordered by their last part.
-/
namespace PseudonymStore

namespace RowKey

def separator : UInt8 := 0

def path : List String → Bytes
  | [] => []
  | [part] => utf8 part
  | part :: next :: parts => utf8 part ++ separator :: path (next :: parts)

def account (account : String) : Bytes :=
  path [account]

def secret (account : String) (user : Pseudonym) : Bytes :=
  path [account, user.text]

def event (account id : String) : Bytes :=
  path [account, id]

def eventAccount (id : String) : Bytes :=
  path [id]

def userEvent (account : String) (user : Pseudonym) (id : String) : Bytes :=
  path [account, user.text, id]

def leaf? (key : Bytes) : Option String :=
  if key.contains separator then Utf8.decode? (key.reverse.takeWhile (· ≠ separator)).reverse else none

end RowKey

structure KeyRange where
  start : Bytes
  stop : Bytes

namespace KeyRange

def contains (r : KeyRange) (key : Bytes) : Bool :=
  r.start ≤ key ∧ key < r.stop

/-- The keys below a path, or those of them whose last part comes after a cursor: the first text after a cursor is the
cursor followed by NUL. -/
def below (parts : List String) (since : Option String) : KeyRange where
  start := RowKey.path parts ++ RowKey.separator :: match since with
    | none => []
    | some cursor => utf8 cursor ++ [RowKey.separator]
  stop := RowKey.path parts ++ [RowKey.separator + 1]

def events (account : String) (since : Option String) : KeyRange :=
  below [account] since

def userEvents (account : String) (user : Pseudonym) (since : Option String) : KeyRange :=
  below [account, user.text] since

end KeyRange

end PseudonymStore
