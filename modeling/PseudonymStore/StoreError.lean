import PseudonymStore.Text.LineColumn
/-!
# Errors of the store

Every operation fails with a cause, so that a boundary can map it without looking at its wording.  Unknown names and
bad input are the caller's; a failed rotation and a storage fault can be tried again; all else is fatal where it arises.
A storage fault arises without knowing what it interrupts: the operation that it passes first puts its own name and
account on it, and no later one changes them.
-/
namespace PseudonymStore

inductive Layer where
  | engine
  | database
  | transaction
  | table
  | storage
  | commit
  | record
  | file
deriving DecidableEq

def Layer.heading : Layer → String
  | .engine => "redb error: "
  | .database => "redb database error: "
  | .transaction => "redb transaction error: "
  | .table => "redb table error: "
  | .storage => "redb storage error: "
  | .commit => "redb commit error: "
  | .record => "serialization error: "
  | .file => "I/O error: "

structure Fault where
  layer : Layer
  detail : String
deriving DecidableEq

def Fault.message (f : Fault) : String :=
  f.layer.heading ++ f.detail

/-- The fault of a record that cannot be read, with the place in it that the wording may tell. -/
def Fault.unreadable (wording : String) : Fault :=
  ⟨.record, LineColumn.settled wording⟩

inductive StoreError where
  | unknownAccount (account : String)
  | unknownUser (account : String)
  | accountExists (account : String)
  | invalidInput (text : String)
  | migration (account : String) (source : StoreError)
  | randomness (text : String)
  | keyGeneration (text : String)
  | invalidKey (text : String)
  | encryption (text : String)
  | storage (operation : String) (account : Option String) (fault : Fault)
deriving DecidableEq

namespace StoreError

def message : StoreError → String
  | unknownAccount account => s!"account id \"{account}\" unknown"
  | unknownUser account => s!"user is not known to account \"{account}\""
  | accountExists account => s!"account id \"{account}\" already exists"
  | invalidInput text => s!"invalid input: {text}"
  | migration account source => s!"error migrating existing events of account {account}: {source.message}"
  | randomness text => s!"randomness source failure: {text}"
  | keyGeneration text => s!"key generation failure: {text}"
  | invalidKey text => s!"invalid key material: {text}"
  | encryption text => s!"encryption gateway failure: {text}"
  | storage operation none fault => s!"storage error during {operation}: {fault.message}"
  | storage operation (some account) fault =>
    s!"storage error during {operation} (account {account}): {fault.message}"

def causes : StoreError → List String
  | migration _ source => source.message :: source.causes
  | storage _ _ fault => [fault.message]
  | _ => []

def isClientError : StoreError → Bool
  | unknownAccount _ | unknownUser _ | accountExists _ | invalidInput _ => true
  | _ => false

def isRetryable : StoreError → Bool
  | migration _ _ | storage _ _ _ => true
  | _ => false

/-- The name under which a fault goes until an operation takes it on. -/
def unattributed : String := "storage"

def ofFault (fault : Fault) : StoreError :=
  storage unattributed none fault

/-- Puts an operation's name and account on an unattributed fault; any other error passes as it is. -/
def inOperation (operation : String) (account : Option String) : StoreError → StoreError
  | storage op none fault => if op = unattributed then storage operation account fault else storage op none fault
  | e => e

/-- The error as that of a rotation of an account; a rotation's error is not wrapped again. -/
def asMigration (account : String) : StoreError → StoreError
  | migration a source => migration a source
  | e => migration account e

end StoreError

end PseudonymStore
