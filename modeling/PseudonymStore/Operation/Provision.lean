import PseudonymStore.Session
import PseudonymStore.Key.File
import PseudonymStore.Identifier
/-!
# Providing accounts

A new account gets a salt and a key pair, and the private key is sealed before anything is written.  Later the key can
only be had through the gateway that sealed it.
-/
namespace PseudonymStore.Action

variable {σ : Type} [Engine σ]

def newToken (env : Environment σ) (length : Nat) : Action σ String :=
  Token.ofBytes length <$> draw env (Token.drawLength length)

def newKeyPair (env : Environment σ) : Action σ KeyPair := do
  ofExcept (KeyPair.ofBytes (← draw env KeyPair.drawLength))

/-- An account's name is part of row keys, so it is not empty and holds no NUL. -/
def validateAccount (account : String) : Except StoreError Unit :=
  if account = "" then .error (.invalidInput "account id must not be empty")
  else if account.toList.contains '\x00' then .error (.invalidInput "account id must not contain NUL bytes")
  else .ok ()

def newAccount (env : Environment σ) (account name : String) : Action σ AccountRow := do
  let salt ← newToken env Token.saltLength
  let pair ← newKeyPair env
  let sealed ← ofExcept ((env.encrypt (utf8 pair.privatePem)).mapError .encryption)
  let createdAt ← now env
  return {
    account, name, salt, createdAt
    publicKey := pair.publicPem
    sealedKey := String.ofList (Base64.encode sealed) }

def addAccount (row : AccountRow) : Action σ Unit := do
  if ((← tables).accounts.contains (RowKey.account row.account)) then throw (.accountExists row.account)
  change (·.putAccount row)

def createAccount (env : Environment σ) (account name : String) : Action σ Unit := do
  ofExcept (validateAccount account)
  let row ← newAccount env account name
  write "create_account" (some account) (addAccount row)
  report (.accountCreated account)

def privateKey (env : Environment σ) (account : String) : Action σ PrivateKey := do
  let row ← read "decrypt_private_key" (some account) fun t => ofExcept (t.account account)
  let some sealed := Base64.decode? row.sealedKey.toList
    | throw (.invalidKey "invalid ciphertext encoding: invalid Base64 encoding")
  let pem ← ofExcept ((env.decrypt sealed).mapError .encryption)
  ofExcept (PrivateKey.ofPem pem)

end PseudonymStore.Action
