import PseudonymStore.Environment
import PseudonymStore.Identifier
import PseudonymStore.Tables
import PseudonymStore.Log.Event
/-!
# Sessions

An open store: its tables, the ID that it issued last, its log and the state of the world around it.  An action changes
the session and may fail.  What an action has drawn, issued and logged stays so when it fails; its tables go back to what
they were at the beginning of the transaction in which it failed.  The engine may fail when a transaction begins, whenever
a table is used in it, and when it is committed.
-/
namespace PseudonymStore

structure Session (σ : Type) where
  tables : Tables
  lastIssued : Option EventId
  log : List Log.Event
  world : σ

abbrev Action (σ α : Type) := EStateM StoreError (Session σ) α

/-- What only reads tables, and reports what it finds wrong with them. -/
abbrev Reading (α : Type) := EStateM StoreError (List Log.Event) α

def Reading.report (e : Log.Event) : Reading Unit :=
  modify (· ++ [e])

namespace Session

/-- A store just opened on some tables; a new session has issued nothing. -/
def opened (tables : Tables) (world : σ) : Session σ where
  tables := tables
  lastIssued := none
  log := [.databaseOpened]
  world := world

/-- The session after a transaction is given up; that the engine fails at this is only reported. -/
def giveUp [Engine σ] (operation : String) (before : Tables) (s : Session σ) : Session σ :=
  match Engine.call .abort s.world with
  | (none, world) => { s with tables := before, world }
  | (some fault, world) => { s with tables := before, world, log := s.log ++ [.abortFailed operation fault.detail] }

end Session

namespace Action

variable {σ α γ : Type}

def report (e : Log.Event) : Action σ Unit :=
  modify fun s => { s with log := s.log ++ [e] }

def mapError (f : StoreError → StoreError) (x : Action σ α) : Action σ α := fun s =>
  match x s with
  | .ok a s => .ok a s
  | .error e s => .error (f e) s

def beside (x : Action σ α) : EStateM StoreError (Session σ × γ) α := fun (s, cell) =>
  match x s with
  | .ok a s => .ok a (s, cell)
  | .error e s => .error e (s, cell)

instance : MonadLift (EStateM StoreError (Session σ)) (EStateM StoreError (Session σ × γ)) where
  monadLift := beside

section Engine

variable [Engine σ]

def engine (call : EngineCall) : Action σ Unit := fun s =>
  match Engine.call call s.world with
  | (none, world) => .ok () { s with world }
  | (some fault, world) => .error (.ofFault fault) { s with world }

def tables : Action σ Tables := do
  engine .access
  return (← get).tables

def change (f : Tables → Tables) : Action σ Unit := do
  engine .access
  modify fun s => { s with tables := f s.tables }

/-- **A transaction** beside a cell, which what is done in it may set.  When it fails, the tables are as before it, and the
fault goes under the operation's name.  With the outcome comes what is left in the cell. -/
def transaction (operation : String) (account : Option String) (cell : γ) (x : EStateM StoreError (Session σ × γ) α) :
    Action σ (Except StoreError α × γ) := fun s =>
  match engine .start s with
  | .error e t => .ok (.error (e.inOperation operation account), cell) t
  | .ok () t =>
    match x (t, cell) with
    | .ok a (t, cell) =>
      match engine .commit t with
      | .ok () t => .ok (.ok a, cell) t
      | .error e t => .ok (.error (e.inOperation operation account), cell) { t with tables := s.tables }
    | .error e (t, cell) => .ok (.error (e.inOperation operation account), cell) (t.giveUp operation s.tables)

def write (operation : String) (account : Option String) (x : Action σ α) : Action σ α := do
  let (outcome, _) ← transaction operation account () (beside x)
  ofExcept outcome

/-- Reads a snapshot of the tables.  A fault in it goes under the operation's name; the engine is asked for the snapshot as
a whole. -/
def read (operation : String) (account : Option String) (x : Tables → Reading α) : Action σ α := fun s =>
  match (do engine .start; engine .access : Action σ Unit) s with
  | .error e t => .error (e.inOperation operation account) t
  | .ok () t =>
    match x t.tables t.log with
    | .ok a log => .ok a { t with log }
    | .error e log => .error (e.inOperation operation account) { t with log }

/-- Opens a database's tables in a transaction of their own, so that no snapshot lacks one. -/
def openTables : Action σ Unit := do
  mapError (·.inOperation "open" none) do
    engine .start
    for _ in tableNames do engine .access
    engine .commit
  report .databaseOpened

end Engine

def draw (env : Environment σ) (length : Nat) : Action σ Bytes := do
  let s ← get
  let (bytes, world) := env.draw length s.world
  set { s with world }
  match bytes with
  | some bytes => return bytes.val
  | none => throw (.randomness "error reading random bytes: ring::error::Unspecified")

def drawIdentifier (env : Environment σ) : Action σ Bytes := do
  let s ← get
  let (bytes, world) := env.drawIdentifier s.world
  set { s with world }
  return bytes

def now (env : Environment σ) : Action σ Instant := do
  let s ← get
  let (time, world) := env.now s.world
  set { s with world }
  return time

/-- **The next event ID.**  While the clock has not passed the last ID, the ID after it is issued, so IDs of a session
ascend; otherwise a fresh one is drawn. -/
def nextEventId (env : Environment σ) : Action σ EventId := do
  let time ← now env
  let id ← match (← get).lastIssued with
    | some last =>
      if time.millis ≤ last.millis then
        match last.successor? with
        | some id => pure id
        | none => throw (.randomness s!"event id space exhausted for millisecond {last.millis}")
      else .fresh time.millis <$> draw env EventId.drawLength
    | none => .fresh time.millis <$> draw env EventId.drawLength
  modify fun s => { s with lastIssued := some id }
  return id

end Action

end PseudonymStore
