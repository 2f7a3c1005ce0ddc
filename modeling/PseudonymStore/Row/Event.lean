import PseudonymStore.Row.Fields
/-!
# Event rows

What the store keeps of an event.  The payload is whatever the client encrypted; an event without a user is anonymous.
-/
namespace PseudonymStore

structure EventRow where
  id : String
  account : String
  user : Option Pseudonym
  payload : String
deriving DecidableEq

namespace EventRow

def write (r : EventRow) : List Char :=
  Json.object
    [Json.member "event_id" (Json.string r.id), Json.member "account_id" (Json.string r.account),
      Json.member "hashed_user_id" (Json.nullable Pseudonym.write r.user),
      Json.member "payload" (Json.string r.payload)]

def bytes (r : EventRow) : Bytes :=
  utf8 (String.ofList r.write)

structure Draft where
  id : Option String := none
  account : Option String := none
  user : Option (Option Pseudonym) := none
  payload : Option String := none

def Draft.put (member : String) (d : Draft) : Json.Reader Draft :=
  match member with
  | "event_id" => return { d with id := ← Json.once d.id Json.text }
  | "account_id" => return { d with account := ← Json.once d.account Json.text }
  | "hashed_user_id" => return { d with user := ← Json.once d.user (Json.orNull Pseudonym.reader) }
  | "payload" => return { d with payload := ← Json.once d.payload Json.text }
  | _ => do
    Json.passMember
    return d

/-- The row of a draft to which nothing but the user may be missing. -/
def Draft.finish (d : Draft) : Json.Reader EventRow :=
  return {
    id := ← Json.required d.id
    account := ← Json.required d.account
    user := d.user.join
    payload := ← Json.required d.payload }

def ordered : Json.Reader EventRow :=
  return {
    id := ← Json.inOrder true Json.text
    account := ← Json.inOrder false Json.text
    user := ← Json.inOrder false (Json.orNull Pseudonym.reader)
    payload := ← Json.inOrder false Json.text }

def reader : Json.Reader EventRow :=
  Json.record {} Draft.put Draft.finish ordered

def ofBytes (bs : Bytes) : Except StoreError EventRow :=
  readRow reader bs

end EventRow

end PseudonymStore
