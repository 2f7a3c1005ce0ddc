import PseudonymStore.Bytes
import PseudonymStore.Text.Pieces
import PseudonymStore.Format.Base64
/-!
# PEM

A labelled block of Base64 between a `BEGIN` and an `END` line.  The writer gives lines of 64 columns with line feeds.
The reader takes the first block of a text and ignores what stands before, between and after its parts: blanks in the
data do not count and header lines may precede the data, separated from it by a blank line.
-/
namespace PseudonymStore.Pem

structure Block where
  label : String
  contents : Bytes
deriving DecidableEq

def lines : (count : Nat) → List Char → List Char
  | 0, _ => []
  | count + 1, cs => if cs.isEmpty then [] else cs.take 64 ++ '\n' :: lines count (cs.drop 64)

def Block.write (b : Block) : List Char :=
  let data := Base64.encode b.contents
  "-----BEGIN ".toList ++ b.label.toList ++ "-----\n".toList ++ lines data.length data ++
    "-----END ".toList ++ b.label.toList ++ "-----\n".toList

inductive Problem where
  | framing
  | noBeginLabel
  | noEndLabel
  | labelsDiffer (first last : String)
  | data
  | header (line : String)

def Problem.message : Problem → String
  | .framing => "malformedframing"
  | .noBeginLabel => "missing BEGIN tag"
  | .noEndLabel => "missing END tag"
  | .labelsDiffer first last => s!"mismatching BEGIN (\"{first}\") and END (\"{last}\") tags"
  | .data => "invalid data: not canonical Base64"
  | .header line => s!"invalid header: {line}"

/-- Walks to the end of the first occurrence of a marker: what was passed, and what follows.  After a beginning of the
marker that does not go on, the character that broke it is passed too, and never begins the marker itself. -/
def cutFrom (marker : List Char) : List Char → (left passed : List Char) → Option (List Char × List Char)
  | rest, [], passed => some ((passed.drop marker.length).reverse, rest)
  | [], _ :: _, _ => none
  | c :: rest, m :: left, passed => cutFrom marker rest (if c = m then left else marker) (c :: passed)

def cut (marker : String) (text : List Char) : Option (List Char × List Char) :=
  cutFrom marker.toList text marker.toList []

def isLineBlank (c : Char) : Bool :=
  c == ' ' || c == '\t' || c == '\r' || c == '\n'

structure Parts where
  first : List Char
  body : List Char
  last : List Char

def parts? (text : List Char) : Option Parts := do
  let (_, text) ← cut "-----BEGIN " text
  let (first, text) ← cut "-----" text
  let (body, text) ← cut "-----END " (text.dropWhile isLineBlank)
  let (last, _) ← cut "-----" text
  return ⟨first, body, last⟩

def headersAndData (body : List Char) : List Char × List Char :=
  ((cut "\n\n" body).or (cut "\r\n\r\n" body)).getD ([], body)

/-- The lines of a text; a line feed ends a line and takes a carriage return before it along. -/
def splitLines : (line : List Char) → List Char → List (List Char)
  | [], [] => []
  | line, [] => [line.reverse]
  | '\r' :: line, '\n' :: rest => line.reverse :: splitLines [] rest
  | line, '\n' :: rest => line.reverse :: splitLines [] rest
  | line, c :: rest => splitLines (c :: line) rest

/-- The first block of a text, or the first problem in this order: parts missing, labels, data, headers. -/
def parse (text : List Char) : Except Problem Block := do
  let some p := parts? text | throw .framing
  if p.first.isEmpty then throw .noBeginLabel
  if p.last.isEmpty then throw .noEndLabel
  if p.first ≠ p.last then throw (.labelsDiffer (String.ofList p.first) (String.ofList p.last))
  let (headers, data) := headersAndData p.body
  let some contents := Base64.decode? (data.filter (!Blank.isBlank ·)) | throw .data
  if let some line := (splitLines [] headers).find? (!·.contains ':') then throw (.header (String.ofList line))
  return ⟨String.ofList p.first, contents⟩

end PseudonymStore.Pem
