import PseudonymStore.Session
/-!
# Purging users

Deletes a user's events and secret in every account.  Parked history is no longer the user's and stays.
-/
namespace PseudonymStore.Action

variable {σ : Type} [Engine σ]

def deleteEvents (account : String) : List String → Action σ Nat
  | [] => pure 0
  | id :: ids => do
    let (row, t) ← ofExcept ((← tables).takeEvent account id)
    change fun _ => t
    let count ← deleteEvents account ids
    return if row.isSome then count + 1 else count

def deletePseudonym (account : String) (user : Pseudonym) : Action σ (Nat × Nat) := do
  let events ← deleteEvents account ((← tables).userEventIds account user none)
  let secrets := if ((← tables).secret? account user).isSome then 1 else 0
  change (·.dropSecret account user)
  return (events, secrets)

def deleteUser (env : Environment σ) (user : String) : List AccountRow → Action σ (Nat × Nat)
  | [] => pure (0, 0)
  | row :: rows => do
    let (events, secrets) ← deletePseudonym row.account (env.hash user row.salt)
    let (moreEvents, moreSecrets) ← deleteUser env user rows
    return (events + moreEvents, secrets + moreSecrets)

def purge (env : Environment σ) (user : String) : Action σ Unit := do
  if user = "" then report .purgedNobody
  else
    let (events, secrets) ← write "purge" none do
      let rows ← ofExcept (← tables).allAccounts
      deleteUser env user rows
    report (.purged events secrets)

end PseudonymStore.Action
