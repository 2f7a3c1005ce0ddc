import PseudonymStore.Session
import PseudonymStore.EventQuery
/-!
# Looking up

What can be read from the tables: events by query, an account, and which of the events that a client knows are gone.  All
of it reads one state of the tables.
-/
namespace PseudonymStore

/-- Events by account from lists of accounts, where an account without events is left out. -/
def EventsByAccount.ofLists (lists : List (String × List EventView)) : EventsByAccount :=
  OrderedMap.ofRows (lists.filter (!·.2.isEmpty))

def SecretsByUser.ofEvents (events : List EventView) : SecretsByUser :=
  OrderedMap.ofRows (events.filterMap fun v =>
    match v.user, v.secret with
    | some user, some secret => some (user, secret)
    | _, _ => none)

namespace Tables

/-- The events with some IDs in a user's view; an ID without an event is reported and left out. -/
def eventsOf (t : Tables) (account : String) : List String → Reading (List EventView)
  | [] => pure []
  | id :: ids => do
    match ← ofExcept (t.event? account id) with
    | some row => return .ofRow row none :: (← t.eventsOf account ids)
    | none =>
      Reading.report (.indexedEventMissing account id)
      t.eventsOf account ids

def userView (t : Tables) (hash : (salt : String) → Pseudonym) (q : EventQuery) : Reading EventsByAccount := do
  let rows ← ofExcept (if q.accounts.isEmpty then t.allAccounts else q.accounts.mapM t.account)
  let lists ← rows.mapM fun row => do
    let events ← t.eventsOf row.account (t.userEventIds row.account (hash row.salt) (given q.cursor))
    return (row.account, events)
  return .ofLists lists

def operatorQuery (t : Tables) (q : EventQuery) : Except StoreError EventsByAccount := do
  let lists ← q.accounts.mapM fun account => do
    let _ ← t.account account
    let events ← t.operatorEvents account (given q.cursor)
    return (account, events)
  return .ofLists lists

def accountView (t : Tables) (account : String) (withEvents : Bool) (since : Option String) :
    Except StoreError AccountView := do
  let row ← t.account account
  if !withEvents then return .ofRow row
  let events ← t.operatorEvents account (given since)
  let byAccount := EventsByAccount.ofLists [(row.account, events)]
  let secrets := SecretsByUser.ofEvents events
  return { AccountView.ofRow row with
    sealedKey := some row.sealedKey
    events := if byAccount.isEmpty then none else some byAccount
    secrets := if secrets.isEmpty then none else some secrets }

/-- The pseudonym of the user who asks in an account, and the pseudonyms known from then on.  It is made once for each
account. -/
def remember (t : Tables) (hash : (salt : String) → Pseudonym) (known : OrderedMap String Pseudonym)
    (account : String) : Except StoreError (Pseudonym × OrderedMap String Pseudonym) :=
  match known.get? account with
  | some user => .ok (user, known)
  | none => do
    let row ← t.account account
    return (hash row.salt, known.insert account (hash row.salt))

/-- Those of some IDs whose events are gone or are not of the user who asks, in order.  The pseudonyms of the user that
are known carry over from one ID to the next. -/
def goneKnowing (t : Tables) (hash : Option ((salt : String) → Pseudonym)) :
    OrderedMap String Pseudonym → List String → Except StoreError (List String)
  | _, [] => .ok []
  | known, id :: ids =>
    match t.accountOf? id, hash with
    | none, _ => (id :: ·) <$> t.goneKnowing hash known ids
    | some _, none => t.goneKnowing hash known ids
    | some account, some ask => do
      let (user, known) ← t.remember ask known account
      let rest ← t.goneKnowing hash known ids
      return if t.isIndexed account user id then rest else id :: rest

end Tables

namespace Action

variable {σ : Type} [Engine σ]

def query (env : Environment σ) (q : EventQuery) : Action σ EventsByAccount :=
  read "query" none fun t =>
    match given q.userId with
    | some user => t.userView (env.hash user) q
    | none => ofExcept (t.operatorQuery q)

def viewAccount (account : String) (withEvents : Bool) (since : Option String) : Action σ AccountView :=
  read "get_account" (some account) fun t => ofExcept (t.accountView account withEvents since)

/-- Answers which of some events a client should forget: with a user, all that are not that user's. -/
def deletedEvents (env : Environment σ) (ids : List String) (user : Option String) : Action σ (List String) :=
  read "get_deleted_events" none fun t => ofExcept (t.goneKnowing ((given user).map env.hash) .empty ids)

def checkHealth : Action σ Unit :=
  read "check_health" none fun _ => pure ()

end Action

end PseudonymStore
