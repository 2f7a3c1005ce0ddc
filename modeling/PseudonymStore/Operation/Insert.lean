import PseudonymStore.Session
import PseudonymStore.EventQuery
/-!
# Inserting events

An event without a user is anonymous.  An event of a user is accepted only while a secret is bound to the user's
pseudonym in the account.  The event's ID is issued within the transaction, so the order of IDs is the order in which
events are written.
-/
namespace PseudonymStore.Action

variable {σ : Type} [Engine σ]

/-- The pseudonym of the user of a new event, if it has one; a secret must be bound to it. -/
def author (env : Environment σ) (t : Tables) (row : AccountRow) (account : String) :
    (user : Option String) → Except StoreError (Option Pseudonym)
  | none => .ok none
  | some user =>
    let pseudonym := env.hash user row.salt
    if (t.secret? account pseudonym).isSome then .ok (some pseudonym) else .error (.unknownUser account)

def insert (env : Environment σ) (user : Option String) (account payload : String) : Action σ EventId :=
  write "insert" (some account) do
    let t ← tables
    let row ← ofExcept (t.account account)
    let user ← ofExcept (author env t row account (given user))
    let id ← nextEventId env
    change (·.putEvent { id := id.text, account, user, payload })
    return id

end PseudonymStore.Action
