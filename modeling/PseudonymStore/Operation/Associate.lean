import PseudonymStore.Session
import PseudonymStore.Identifier
/-!
# Associating secrets

Binding a secret to a user's pseudonym.  If a secret is bound to it already, the pseudonym changes hands, and the history
of the old owner must not become the new one's: first the old secret and every event of the pseudonym move to a pseudonym
of a random identifier, where they are parked.  The moved events get new IDs, so clients that follow a cursor see them
again.  All of it is one transaction.
-/
namespace PseudonymStore.Action

variable {σ : Type} [Engine σ]

/-- Moves an event to another pseudonym under a new ID, and tells whether there was one.  An index entry without an
event is dropped. -/
def moveEvent (env : Environment σ) (account : String) (source target : Pseudonym) (id : String) : Action σ Bool := do
  let (row, t) ← ofExcept ((← tables).takeEvent account id)
  match row with
  | some row =>
    change fun _ => t
    let next ← nextEventId env
    change (·.putEvent { row with id := next.text, user := some target })
    return true
  | none =>
    report (.indexEntryDropped account id)
    change (·.dropIndexEntry account (some source) id)
    return false

def moveEvents (env : Environment σ) (account : String) (source target : Pseudonym) : List String → Action σ Nat
  | [] => pure 0
  | id :: ids => do
    let moved ← moveEvent env account source target id
    let count ← moveEvents env account source target ids
    return if moved then count + 1 else count

def park (env : Environment σ) (row : AccountRow) (user : Pseudonym) (secret : String) : Action σ Nat := do
  let parked := env.hash (Uuid.text (← drawIdentifier env)) row.salt
  change fun t => (t.dropSecret row.account user).bindSecret row.account parked secret
  let t ← tables
  moveEvents env row.account user parked (t.userEventIds row.account user none)

def holder (env : Environment σ) (account user : String) : Action σ (AccountRow × Pseudonym × Option String) := do
  let row ← ofExcept ((← tables).account account)
  let pseudonym := env.hash user row.salt
  return (row, pseudonym, (← tables).secret? account pseudonym)

/-- Binds a secret, and parks what the pseudonym has if another one is bound to it: the number of events that have moved.
The cell tells whether it has come to that. -/
def rebind (env : Environment σ) (account user secret : String) : EStateM StoreError (Session σ × Bool) (Option Nat) := do
  let (row, pseudonym, stale) ← holder env account user
  let moved ← match stale with
    | some stale =>
      -- Whatever fails from here on, the commit included, is a rotation's failure.
      modify fun (s, _) => (s, true)
      some <$> mapError (·.inOperation "migrate_user_events" (some account)) (park env row pseudonym stale)
    | none => pure none
  (change (·.bindSecret account pseudonym secret) : Action σ Unit)
  return moved

def associate (env : Environment σ) (account user secret : String) : Action σ Unit := do
  if user = "" then throw (.invalidInput "user id must not be empty")
  let (outcome, rotating) ← transaction "associate_user_secret" (some account) false (rebind env account user secret)
  let moved ← ofExcept (outcome.mapError fun e => if rotating then e.asMigration account else e)
  report (match moved with
    | some events => .rotated account events
    | none => .associated account)

end PseudonymStore.Action
