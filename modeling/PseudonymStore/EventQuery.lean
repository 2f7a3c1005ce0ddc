import PseudonymStore.Bytes
/-!
# Event queries

Which events are asked for: the accounts, the user, and the cursor after which events count.  With a user the query is
that user's own view, in the accounts named or in all; without one it is the operator's view of the accounts named.  An
empty user or cursor is none.
-/
namespace PseudonymStore

/-- A text that is given and not empty. -/
def given (s : Option String) : Option String :=
  s.filter (· ≠ "")

structure EventQuery where
  accounts : List String := []
  userId : Option String := none
  cursor : Option String := none
deriving DecidableEq

namespace EventQuery

def operator (accounts : List String) : EventQuery :=
  { accounts }

def user (userId : String) : EventQuery :=
  { userId := some userId }

def inAccounts (q : EventQuery) (accounts : List String) : EventQuery :=
  { q with accounts }

def since (q : EventQuery) (cursor : String) : EventQuery :=
  { q with cursor := some cursor }

end EventQuery

end PseudonymStore
