import PseudonymStore.Operation.Provision
import PseudonymStore.Operation.Insert
import PseudonymStore.Operation.Associate
import PseudonymStore.Operation.Purge
import PseudonymStore.Operation.Lookup
/-!
# Runs

The operations of the store as values, so that a run is a list of them: each is performed on the session that the one
before it left, whether that one succeeded or not.
-/
namespace PseudonymStore

inductive Operation where
  | createAccount (account name : String)
  | viewAccount (account : String) (withEvents : Bool) (since : Option String)
  | privateKey (account : String)
  | associate (account user secret : String)
  | insert (user : Option String) (account payload : String)
  | query (q : EventQuery)
  | deletedEvents (ids : List String) (user : Option String)
  | purge (user : String)
  | checkHealth
deriving DecidableEq

inductive Answer where
  | done
  | account (view : AccountView)
  | privateKey (key : PrivateKey)
  | inserted (id : EventId)
  | events (events : EventsByAccount)
  | deleted (ids : List String)
deriving DecidableEq

namespace Operation

variable {σ : Type} [Engine σ]

def perform (env : Environment σ) : Operation → Action σ Answer
  | createAccount account name => do
    Action.createAccount env account name
    return .done
  | viewAccount account withEvents since => .account <$> Action.viewAccount account withEvents since
  | privateKey account => .privateKey <$> Action.privateKey env account
  | associate account user secret => do
    Action.associate env account user secret
    return .done
  | insert user account payload => .inserted <$> Action.insert env user account payload
  | query q => .events <$> Action.query env q
  | deletedEvents ids user => .deleted <$> Action.deletedEvents env ids user
  | purge user => do
    Action.purge env user
    return .done
  | checkHealth => do
    Action.checkHealth
    return .done

end Operation

def Session.after [Engine σ] (env : Environment σ) (s : Session σ) (op : Operation) : Except StoreError Answer × Session σ :=
  match op.perform env s with
  | .ok a s => (.ok a, s)
  | .error e s => (.error e, s)

def Session.run [Engine σ] (env : Environment σ) (s : Session σ) : List Operation → List (Except StoreError Answer) × Session σ
  | [] => ([], s)
  | op :: ops =>
    let (answer, s) := s.after env op
    let (answers, s) := s.run env ops
    (answer :: answers, s)

end PseudonymStore
