import PseudonymStore.OrderedMap
import PseudonymStore.Row.Event
/-!
# Events as callers see them

An event in an answer.  An operator also gets the encrypted secret that is bound to the event's user now; a user gets no
secrets.
-/
namespace PseudonymStore

structure EventView where
  account : String
  id : String
  user : Option Pseudonym
  payload : String
  secret : Option String
deriving DecidableEq

namespace EventView

def ofRow (r : EventRow) (secret : Option String) : EventView :=
  ⟨r.account, r.id, r.user, r.payload, secret⟩

def write (v : EventView) : List Char :=
  Json.object
    ([Json.member "accountId" (Json.string v.account), Json.member "eventId" (Json.string v.id),
      Json.member "userId" (Json.nullable Pseudonym.write v.user), Json.member "payload" (Json.string v.payload)] ++
      Json.optional "encryptedUserSecret" Json.string v.secret)

structure Draft where
  account : Option String := none
  id : Option String := none
  user : Option (Option Pseudonym) := none
  payload : Option String := none
  secret : Option (Option String) := none

def Draft.put (member : String) (d : Draft) : Json.Reader Draft :=
  match member with
  | "accountId" => return { d with account := ← Json.once d.account Json.text }
  | "eventId" => return { d with id := ← Json.once d.id Json.text }
  | "userId" => return { d with user := ← Json.once d.user (Json.orNull Pseudonym.reader) }
  | "payload" => return { d with payload := ← Json.once d.payload Json.text }
  | "encryptedUserSecret" => return { d with secret := ← Json.once d.secret (Json.orNull Json.text) }
  | _ => do
    Json.passMember
    return d

/-- The view of a draft to which nothing but the user and the secret may be missing. -/
def Draft.finish (d : Draft) : Json.Reader EventView :=
  return {
    account := ← Json.required d.account
    id := ← Json.required d.id
    user := d.user.join
    payload := ← Json.required d.payload
    secret := d.secret.join }

def ordered : Json.Reader EventView :=
  return {
    account := ← Json.inOrder true Json.text
    id := ← Json.inOrder false Json.text
    user := ← Json.inOrder false (Json.orNull Pseudonym.reader)
    payload := ← Json.inOrder false Json.text
    secret := ← Json.inOrder false (Json.orNull Json.text) }

def reader : Json.Reader EventView :=
  Json.record {} Draft.put Draft.finish ordered

end EventView

abbrev EventsByAccount := OrderedMap String (List EventView)

namespace EventsByAccount

def write (m : EventsByAccount) : List Char :=
  Json.object (m.rows.map fun r => Json.member r.1 (Json.array (r.2.map EventView.write)))

def reader : Json.Reader EventsByAccount :=
  OrderedMap.ofRows <$> Json.rows (Json.list EventView.reader)

end EventsByAccount

end PseudonymStore
