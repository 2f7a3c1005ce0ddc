import PseudonymStore.Operation.Lookup
/-!
# Remembered pseudonyms

The search for deleted events makes the pseudonym of the user who asks once for each account and remembers it.  What it
remembers are the user's pseudonyms (`Tables.Recalls`), so it answers as if it made them anew for every ID
(`Tables.goneKnowing_empty`), whatever the tables hold.
-/
namespace PseudonymStore.Tables

variable {t : Tables} {ask : (salt : String) → Pseudonym} {known : OrderedMap String Pseudonym}

def isGone (t : Tables) (hash : Option ((salt : String) → Pseudonym)) (id : String) : Except StoreError Bool :=
  match t.accountOf? id, hash with
  | none, _ => .ok true
  | some _, none => .ok false
  | some account, some hash => do
    let row ← t.account account
    return !t.isIndexed account (hash row.salt) id

def goneAmong (t : Tables) (hash : Option ((salt : String) → Pseudonym)) : List String → Except StoreError (List String)
  | [] => .ok []
  | id :: ids => do
    let gone ← t.isGone hash id
    let rest ← t.goneAmong hash ids
    return if gone then id :: rest else rest

/-- What is known are pseudonyms that the user has. -/
def Recalls (t : Tables) (ask : (salt : String) → Pseudonym) (known : OrderedMap String Pseudonym) : Prop :=
  ∀ account user, known.get? account = some user → ∃ row, t.account account = .ok row ∧ user = ask row.salt

theorem recalls_empty (t : Tables) (ask : (salt : String) → Pseudonym) : t.Recalls ask .empty := by
  intro account user hknown
  cases hknown

theorem Recalls.remember_eq (h : t.Recalls ask known) (account : String) :
    ∃ known', t.Recalls ask known' ∧
      t.remember ask known account = (t.account account).map fun row => (ask row.salt, known') := by
  unfold remember
  cases hget : known.get? account with
  | some user =>
    obtain ⟨row, hrow, rfl⟩ := h account user hget
    exact ⟨known, h, by rw [hrow]; rfl⟩
  | none =>
    cases hrow : t.account account with
    | error e => exact ⟨known, h, rfl⟩
    | ok row =>
      refine ⟨known.insert account (ask row.salt), ?_, rfl⟩
      intro a user hknown
      by_cases ha : a = account
      · subst ha
        rw [OrderedMap.get?_insert_self] at hknown
        exact ⟨row, hrow, (Option.some.inj hknown).symm⟩
      · rw [OrderedMap.get?_insert_of_ne _ ha] at hknown
        exact h a user hknown

theorem goneKnowing_eq (t : Tables) (hash : Option ((salt : String) → Pseudonym)) :
    ∀ (ids : List String) (known : OrderedMap String Pseudonym), (∀ ask, hash = some ask → t.Recalls ask known) →
      t.goneKnowing hash known ids = t.goneAmong hash ids
  | [], _, _ => rfl
  | id :: ids, known, hknown => by
    have ih := t.goneKnowing_eq hash ids
    unfold goneKnowing goneAmong isGone
    cases t.accountOf? id with
    | none =>
      rw [ih known hknown]
      cases t.goneAmong hash ids <;> rfl
    | some account =>
      cases hash with
      | none =>
        rw [ih known hknown]
        cases t.goneAmong none ids <;> rfl
      | some ask =>
        obtain ⟨known', hknown', hrecall⟩ := (hknown ask rfl).remember_eq account
        dsimp only
        rw [hrecall]
        cases t.account account with
        | error e => rfl
        | ok row =>
          show (t.goneKnowing (some ask) known' ids >>= fun rest => _) = (t.goneAmong (some ask) ids >>= fun rest => _)
          rw [ih known' fun _ heq => Option.some.inj heq ▸ hknown']
          cases t.isIndexed account (ask row.salt) id <;> rfl

/-- **What is remembered does not show** in the answer. -/
theorem goneKnowing_empty (t : Tables) (hash : Option ((salt : String) → Pseudonym)) (ids : List String) :
    t.goneKnowing hash .empty ids = t.goneAmong hash ids :=
  t.goneKnowing_eq hash ids .empty fun ask _ => t.recalls_empty ask

end PseudonymStore.Tables
