import PseudonymStore.OrderedMap
import PseudonymStore.RowKey
import PseudonymStore.View.Account
/-!
# Tables

The five tables of the store, and what one step of an operation does to them.  Two of them are indexes: `eventAccounts`
finds the account of an event, and `userEvents` lists the events of a pseudonym.  Nothing here assumes that the tables
agree with each other or that their rows can be read.
-/
namespace PseudonymStore

def tableNames : List String :=
  ["accounts", "user_secrets", "events", "event_accounts", "user_events"]

structure Tables where
  accounts : Table Bytes
  userSecrets : Table String
  events : Table Bytes
  eventAccounts : Table String
  userEvents : Table Unit
deriving DecidableEq

namespace Tables

def empty : Tables where
  accounts := .empty
  userSecrets := .empty
  events := .empty
  eventAccounts := .empty
  userEvents := .empty

/-! ## Accounts -/

def account (t : Tables) (account : String) : Except StoreError AccountRow :=
  match t.accounts.get? (RowKey.account account) with
  | some bytes => AccountRow.ofBytes bytes
  | none => .error (.unknownAccount account)

def allAccounts (t : Tables) : Except StoreError (List AccountRow) :=
  t.accounts.values.mapM AccountRow.ofBytes

def putAccount (t : Tables) (r : AccountRow) : Tables :=
  { t with accounts := t.accounts.insert (RowKey.account r.account) r.bytes }

/-! ## Secrets -/

def secret? (t : Tables) (account : String) (user : Pseudonym) : Option String :=
  t.userSecrets.get? (RowKey.secret account user)

def bindSecret (t : Tables) (account : String) (user : Pseudonym) (secret : String) : Tables :=
  { t with userSecrets := t.userSecrets.insert (RowKey.secret account user) secret }

def dropSecret (t : Tables) (account : String) (user : Pseudonym) : Tables :=
  { t with userSecrets := t.userSecrets.erase (RowKey.secret account user) }

/-! ## Events -/

def event? (t : Tables) (account id : String) : Except StoreError (Option EventRow) :=
  match t.events.get? (RowKey.event account id) with
  | some bytes => some <$> EventRow.ofBytes bytes
  | none => .ok none

def accountOf? (t : Tables) (id : String) : Option String :=
  t.eventAccounts.get? (RowKey.eventAccount id)

def putIndexEntry (t : Tables) (account : String) (user : Option Pseudonym) (id : String) : Tables :=
  match user with
  | some user => { t with userEvents := t.userEvents.insert (RowKey.userEvent account user id) () }
  | none => t

def dropIndexEntry (t : Tables) (account : String) (user : Option Pseudonym) (id : String) : Tables :=
  match user with
  | some user => { t with userEvents := t.userEvents.erase (RowKey.userEvent account user id) }
  | none => t

def putEvent (t : Tables) (r : EventRow) : Tables :=
  let t := { t with
    events := t.events.insert (RowKey.event r.account r.id) r.bytes
    eventAccounts := t.eventAccounts.insert (RowKey.eventAccount r.id) r.account }
  t.putIndexEntry r.account r.user r.id

def dropEvent (t : Tables) (account id : String) (user : Option Pseudonym) : Tables :=
  let t := { t with
    events := t.events.erase (RowKey.event account id)
    eventAccounts := t.eventAccounts.erase (RowKey.eventAccount id) }
  t.dropIndexEntry account user id

/-- Takes an event out: its row, and the tables without it. -/
def takeEvent (t : Tables) (account id : String) : Except StoreError (Option EventRow × Tables) :=
  match t.event? account id with
  | .ok (some r) => .ok (some r, t.dropEvent account id r.user)
  | .ok none => .ok (none, t)
  | .error e => .error e

def isIndexed (t : Tables) (account : String) (user : Pseudonym) (id : String) : Bool :=
  t.userEvents.contains (RowKey.userEvent account user id)

def userEventIds (t : Tables) (account : String) (user : Pseudonym) (since : Option String) : List String :=
  (t.userEvents.rows.filter ((KeyRange.userEvents account user since).contains ·.1)).filterMap (RowKey.leaf? ·.1)

def operatorView (t : Tables) (account : String) (r : EventRow) : EventView :=
  .ofRow r (r.user.bind (t.secret? account))

def operatorEvents (t : Tables) (account : String) (since : Option String) : Except StoreError (List EventView) :=
  (t.events.rows.filter ((KeyRange.events account since).contains ·.1)).mapM fun row =>
    t.operatorView account <$> EventRow.ofBytes row.2

end Tables

end PseudonymStore
