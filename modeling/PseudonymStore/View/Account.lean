import PseudonymStore.View.Event
import PseudonymStore.Row.Account
/-!
# Accounts as callers see them

The public part of an account.  When its events are asked for, the sealed private key, the events and the secrets of
their users come with it.  The salt is in no answer.
-/
namespace PseudonymStore

abbrev SecretsByUser := OrderedMap Pseudonym String

namespace SecretsByUser

def write (m : SecretsByUser) : List Char :=
  Json.object (m.rows.map fun r => Json.member r.1.text (Json.string r.2))

def reader : Json.Reader SecretsByUser :=
  (fun rows => OrderedMap.ofRows (rows.map fun r => (⟨r.1⟩, r.2))) <$> Json.rows Json.text

end SecretsByUser

structure AccountView where
  account : String
  name : String
  publicKey : String
  sealedKey : Option String
  events : Option EventsByAccount
  secrets : Option SecretsByUser
deriving DecidableEq

namespace AccountView

def ofRow (r : AccountRow) : AccountView where
  account := r.account
  name := r.name
  publicKey := r.publicKey
  sealedKey := none
  events := none
  secrets := none

def write (v : AccountView) : List Char :=
  Json.object
    ([Json.member "accountId" (Json.string v.account), Json.member "name" (Json.string v.name),
      Json.member "publicKey" (Json.string v.publicKey)] ++
      Json.optional "encryptedPrivateKey" Json.string v.sealedKey ++
      Json.optional "events" EventsByAccount.write v.events ++
      Json.optional "userSecrets" SecretsByUser.write v.secrets)

structure Draft where
  account : Option String := none
  name : Option String := none
  publicKey : Option String := none
  sealedKey : Option (Option String) := none
  events : Option (Option EventsByAccount) := none
  secrets : Option (Option SecretsByUser) := none

def Draft.put (member : String) (d : Draft) : Json.Reader Draft :=
  match member with
  | "accountId" => return { d with account := ← Json.once d.account Json.text }
  | "name" => return { d with name := ← Json.once d.name Json.text }
  | "publicKey" => return { d with publicKey := ← Json.once d.publicKey Json.text }
  | "encryptedPrivateKey" => return { d with sealedKey := ← Json.once d.sealedKey (Json.orNull Json.text) }
  | "events" => return { d with events := ← Json.once d.events (Json.orNull EventsByAccount.reader) }
  | "userSecrets" => return { d with secrets := ← Json.once d.secrets (Json.orNull SecretsByUser.reader) }
  | _ => do
    Json.passMember
    return d

/-- The view of a draft to which nothing of the public part is missing. -/
def Draft.finish (d : Draft) : Json.Reader AccountView :=
  return {
    account := ← Json.required d.account
    name := ← Json.required d.name
    publicKey := ← Json.required d.publicKey
    sealedKey := d.sealedKey.join
    events := d.events.join
    secrets := d.secrets.join }

def ordered : Json.Reader AccountView :=
  return {
    account := ← Json.inOrder true Json.text
    name := ← Json.inOrder false Json.text
    publicKey := ← Json.inOrder false Json.text
    sealedKey := ← Json.inOrder false (Json.orNull Json.text)
    events := ← Json.inOrder false (Json.orNull EventsByAccount.reader)
    secrets := ← Json.inOrder false (Json.orNull SecretsByUser.reader) }

def reader : Json.Reader AccountView :=
  Json.record {} Draft.put Draft.finish ordered

end AccountView

end PseudonymStore
