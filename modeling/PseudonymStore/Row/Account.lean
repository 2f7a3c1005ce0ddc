import PseudonymStore.Row.Fields
/-!
# Account rows

What the store keeps of an account: its names, its key pair with the private key sealed, the salt of its pseudonyms, and
when it was created.
-/
namespace PseudonymStore

/-- A stored account.  The private key is the padded Base64 of what the gateway made of the key's file. -/
structure AccountRow where
  account : String
  name : String
  publicKey : String
  sealedKey : String
  salt : String
  createdAt : Instant
deriving DecidableEq

namespace AccountRow

def write (r : AccountRow) : List Char :=
  Json.object
    [Json.member "account_id" (Json.string r.account), Json.member "name" (Json.string r.name),
      Json.member "public_key" (Json.string r.publicKey), Json.member "encrypted_private_key" (Json.string r.sealedKey),
      Json.member "user_salt" (Json.string r.salt), Json.member "created_at" r.createdAt.writeQuoted]

def bytes (r : AccountRow) : Bytes :=
  utf8 (String.ofList r.write)

structure Draft where
  account : Option String := none
  name : Option String := none
  publicKey : Option String := none
  sealedKey : Option String := none
  salt : Option String := none
  createdAt : Option Instant := none

def Draft.put (member : String) (d : Draft) : Json.Reader Draft :=
  match member with
  | "account_id" => return { d with account := ← Json.once d.account Json.text }
  | "name" => return { d with name := ← Json.once d.name Json.text }
  | "public_key" => return { d with publicKey := ← Json.once d.publicKey Json.text }
  | "encrypted_private_key" => return { d with sealedKey := ← Json.once d.sealedKey Json.text }
  | "user_salt" => return { d with salt := ← Json.once d.salt Json.text }
  | "created_at" => return { d with createdAt := ← Json.once d.createdAt Instant.reader }
  | _ => do
    Json.passMember
    return d

def Draft.finish (d : Draft) : Json.Reader AccountRow :=
  return {
    account := ← Json.required d.account
    name := ← Json.required d.name
    publicKey := ← Json.required d.publicKey
    sealedKey := ← Json.required d.sealedKey
    salt := ← Json.required d.salt
    createdAt := ← Json.required d.createdAt }

def ordered : Json.Reader AccountRow :=
  return {
    account := ← Json.inOrder true Json.text
    name := ← Json.inOrder false Json.text
    publicKey := ← Json.inOrder false Json.text
    sealedKey := ← Json.inOrder false Json.text
    salt := ← Json.inOrder false Json.text
    createdAt := ← Json.inOrder false Instant.reader }

def reader : Json.Reader AccountRow :=
  Json.record {} Draft.put Draft.finish ordered

def ofBytes (bs : Bytes) : Except StoreError AccountRow :=
  readRow reader bs

end AccountRow

end PseudonymStore
