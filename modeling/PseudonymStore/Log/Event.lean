import PseudonymStore.Bytes
/-!
# Log events

What the store reports of its work.  An event names accounts, event IDs and counts; it never carries a plaintext user
ID, a salt, a secret or a payload.
-/
namespace PseudonymStore.Log

inductive Level where
  | error
  | warn
  | info
  | debug
  | trace
deriving DecidableEq

def Level.rank : Level → Nat
  | error => 1
  | warn => 2
  | info => 3
  | debug => 4
  | trace => 5

def Level.name : Level → String
  | error => "ERROR"
  | warn => "WARN"
  | info => "INFO"
  | debug => "DEBUG"
  | trace => "TRACE"

inductive Value where
  | text (s : String)
  | count (n : Nat)
deriving DecidableEq

def Value.show : Value → String
  | text s => s
  | count n => toString n

inductive Event where
  | databaseOpened
  | accountCreated (account : String)
  | indexedEventMissing (account id : String)
  | purgedNobody
  | purged (events secrets : Nat)
  | indexEntryDropped (account id : String)
  | rotated (account : String) (events : Nat)
  | associated (account : String)
  | abortFailed (operation reason : String)
deriving DecidableEq

namespace Event

def level : Event → Level
  | indexedEventMissing .. | indexEntryDropped .. | abortFailed .. => .warn
  | purgedNobody | associated _ => .debug
  | databaseOpened | accountCreated _ | purged .. | rotated .. => .info

def target : Event → String
  | databaseOpened | abortFailed .. => "pseudonymous_event_store::storage"
  | accountCreated _ => "pseudonymous_event_store::storage::accounts"
  | indexedEventMissing .. | purgedNobody | purged .. => "pseudonymous_event_store::storage::events"
  | indexEntryDropped .. | rotated .. | associated _ => "pseudonymous_event_store::storage::user_secrets"

def message : Event → String
  | databaseOpened => "Event database opened"
  | accountCreated _ => "Account created"
  | indexedEventMissing .. => "User event index points at a missing event"
  | purgedNobody => "Purge requested without user id, nothing to do"
  | purged .. => "Purged user data"
  | indexEntryDropped .. => "Dropping user event index entry without event"
  | rotated .. => "Rotated user secret, previous history parked"
  | associated _ => "Associated new user secret"
  | abortFailed .. => "Failed to abort write transaction"

def fields : Event → List (String × Value)
  | databaseOpened | purgedNobody => []
  | accountCreated account | associated account => [("account_id", .text account)]
  | indexedEventMissing account id | indexEntryDropped account id =>
    [("account_id", .text account), ("event_id", .text id)]
  | purged events secrets => [("events", .count events), ("secrets", .count secrets)]
  | rotated account events => [("account_id", .text account), ("events", .count events)]
  | abortFailed operation reason => [("operation", .text operation), ("error", .text reason)]

/-- The names of all that an event tells: its wording, its fields, and for the opening of a database its place, which
the log of a session leaves out. -/
def fieldNames (e : Event) : List String :=
  "message" :: e.fields.map (·.1) ++ (if e = databaseOpened then ["path"] else [])

def line (e : Event) : String :=
  let level := e.level.name
  String.ofList (List.replicate (5 - level.length) ' ') ++ level ++ " " ++ e.message ++
    String.join (e.fields.map fun f => " " ++ f.1 ++ "=" ++ f.2.show)

end Event

end PseudonymStore.Log
