import PseudonymStore.Text.Pieces
/-!
# Paths

Paths of files as texts.  Two texts give one path when they have the same parts: separators may be repeated or stand at
the end, and a dot between names says nothing.  A dot in front of a relative path is a part of it.
-/
namespace PseudonymStore.Path

structure Parts where
  isAbsolute : Bool
  startsHere : Bool
  names : List String
deriving DecidableEq

def isIdle (piece : List Char) : Bool :=
  piece = [] ∨ piece = ['.']

def parts (path : String) : Parts :=
  let ps := pieces '/' path.toList
  { isAbsolute := path.toList.head? = some '/'
    startsHere := ps.head? = some ['.']
    names := (ps.filter fun p => !isIdle p).map String.ofList }

def file (directory name : String) : String :=
  if directory = "" ∨ directory.toList.getLast? = some '/' then directory ++ name else directory ++ "/" ++ name

/-- Whether a path ends like that of a directory: in a separator or a dot. -/
def endsInDirectory (path : String) : Bool :=
  (pieces '/' path.toList).getLast?.any isIdle

def directory (path : String) : String :=
  let names := (pieces '/' path.toList).reverse.dropWhile isIdle
  String.ofList (['/'].intercalate ((names.drop 1).dropWhile isIdle).reverse)

/-- Whether a file can have a name: it has at most 255 bytes, and none of them is zero. -/
def isName (name : String) : Bool :=
  name.utf8ByteSize ≤ 255 ∧ !name.toList.contains (Char.ofNat 0)

def fits (path : String) : Bool :=
  path.utf8ByteSize ≤ 4095

end PseudonymStore.Path
