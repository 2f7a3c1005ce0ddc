import PseudonymStore.Pseudonym
import PseudonymStore.Instant
import PseudonymStore.StoreError
/-!
# The environment of a store

What a store asks of the world around it: pseudonyms, the sealing of private keys, random bytes and the time.  Random
bytes and the time come from a state of the world that each request moves on; pseudonyms and sealing do not depend on it.
Nothing is assumed of them but that a draw has the length that was asked for.

Below the tables is an engine.  Any call of it may fail, as the state of the world has it.  Where no engine is named, it
is the one that never fails.
-/
namespace PseudonymStore

structure Environment (σ : Type) where
  hash : (user salt : String) → Pseudonym
  encrypt : Bytes → Except String Bytes
  decrypt : Bytes → Except String Bytes
  /-- Random bytes, or a failed draw. -/
  draw : (length : Nat) → σ → Option { bytes : Bytes // bytes.length = length } × σ
  drawIdentifier : σ → Bytes × σ
  now : σ → Instant × σ

/-- What an engine is called for: the beginning of a transaction, the use of a table in it, and its end. -/
inductive EngineCall where
  | start
  | access
  | commit
  | abort

class Engine (σ : Type) where
  /-- The fault that a call meets, if it fails. -/
  call : EngineCall → σ → Option Fault × σ

instance Engine.faultless {σ : Type} : Engine σ where
  call _ world := (none, world)

end PseudonymStore
