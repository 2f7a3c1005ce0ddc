import PseudonymStore.Pseudonym
import PseudonymStore.Instant
import PseudonymStore.StoreError
import PseudonymStore.Json.Text
import PseudonymStore.Json.Reader
/-!
# Fields of rows

How the values within rows are written and read: pseudonyms and instants are strings, and a row that cannot be read is a
fault of its own layer.
-/
namespace PseudonymStore

def Pseudonym.write (p : Pseudonym) : List Char :=
  Json.string p.text

def Pseudonym.reader : Json.Reader Pseudonym :=
  Pseudonym.mk <$> Json.text

def Instant.writeQuoted (t : Instant) : List Char :=
  Json.string (String.ofList t.write)

def Instant.reader : Json.Reader Instant := do
  match Instant.read? (← Json.text).toList with
  | some t => return t
  | none => throw .unfit

def Json.Problem.message : Json.Problem → String
  | .unfinished => "the text ends too soon"
  | .malformed => "the text is not JSON"
  | .unfit => "the text is not a row of this table"

def readRow (reader : Json.Reader α) (bs : Bytes) : Except StoreError α :=
  (Json.readBytes reader bs).mapError fun problem => .ofFault (.unreadable problem.message)

end PseudonymStore
