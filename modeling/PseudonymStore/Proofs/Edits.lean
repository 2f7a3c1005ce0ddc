import PseudonymStore.Proofs.Session
import PseudonymStore.Proofs.Tables
/-!
# Edits of the tables

All that operations do to the tables, whatever the tables hold, is a row of edits (`Tables.Edits`).  An edit tells the
IDs that are used up by it: a new event has one, and an ID may be discarded with the transaction that issued it.  What
every edit preserves is so preserved by every operation.
-/
namespace PseudonymStore.Tables

variable {σ : Type}

/-! ## Table by table -/

section

variable (t : Tables) (e : EventRow) (account id : String) (user : Option Pseudonym)

@[simp] theorem accounts_dropIndexEntry : (t.dropIndexEntry account user id).accounts = t.accounts := by
  cases user <;> rfl

@[simp] theorem userSecrets_dropIndexEntry : (t.dropIndexEntry account user id).userSecrets = t.userSecrets := by
  cases user <;> rfl

@[simp] theorem events_dropIndexEntry : (t.dropIndexEntry account user id).events = t.events := by
  cases user <;> rfl

theorem mem_userEvents_dropIndexEntry {row : Bytes × Unit} : row ∈ (t.dropIndexEntry account user id).userEvents.rows ↔
    row ∈ t.userEvents.rows ∧ ∀ p, user = some p → row.1 ≠ RowKey.userEvent account p id := by
  cases user with
  | none => simp [dropIndexEntry]
  | some p => simp [dropIndexEntry, and_comm]

@[simp] theorem accounts_dropEvent : (t.dropEvent account id user).accounts = t.accounts :=
  accounts_dropIndexEntry _ account id user

@[simp] theorem userSecrets_dropEvent : (t.dropEvent account id user).userSecrets = t.userSecrets :=
  userSecrets_dropIndexEntry _ account id user

@[simp] theorem events_dropEvent : (t.dropEvent account id user).events = t.events.erase (RowKey.event account id) :=
  events_dropIndexEntry _ account id user

theorem mem_userEvents_dropEvent {row : Bytes × Unit} : row ∈ (t.dropEvent account id user).userEvents.rows ↔
    row ∈ t.userEvents.rows ∧ ∀ p, user = some p → row.1 ≠ RowKey.userEvent account p id :=
  mem_userEvents_dropIndexEntry _ account id user

@[simp] theorem accounts_putEvent : (t.putEvent e).accounts = t.accounts := by
  unfold putEvent putIndexEntry
  cases e.user <;> rfl

@[simp] theorem userSecrets_putEvent : (t.putEvent e).userSecrets = t.userSecrets := by
  unfold putEvent putIndexEntry
  cases e.user <;> rfl

@[simp] theorem events_putEvent :
    (t.putEvent e).events = t.events.insert (RowKey.event e.account e.id) e.bytes := by
  unfold putEvent putIndexEntry
  cases e.user <;> rfl

theorem mem_userEvents_putEvent {row : Bytes × Unit} : row ∈ (t.putEvent e).userEvents.rows ↔
    (∃ p, e.user = some p ∧ row.1 = RowKey.userEvent e.account p e.id) ∨ row ∈ t.userEvents.rows := by
  unfold putEvent putIndexEntry
  cases e.user with
  | none => simp
  | some p =>
    obtain ⟨key, ⟨⟩⟩ := row
    by_cases hkey : key = RowKey.userEvent e.account p e.id <;> simp [hkey]

end

/-! ## Edits -/

inductive Edit (env : Environment σ) (t : Tables) : List EventId → Tables → Prop
  | enter {r : AccountRow} (hname : NulFree r.account) (htime : ∃ world, r.createdAt = (env.now world).1)
    (hnew : t.accounts.contains (RowKey.account r.account) = false) : Edit env t [] (t.putAccount r)
  | bind (account : String) (user : Pseudonym) (secret : String) : Edit env t [] (t.bindSecret account user secret)
  | unbind (account : String) (user : Pseudonym) : Edit env t [] (t.dropSecret account user)
  | put {e : EventRow} {id : EventId} (hid : e.id = id.text) (haccount : ∃ r, t.account e.account = .ok r)
    (huser : ∀ p, e.user = some p → ∃ name salt, p = env.hash name salt) : Edit env t [id] (t.putEvent e)
  | take {account id : String} {e : EventRow} (hevent : t.event? account id = .ok (some e)) :
    Edit env t [] (t.dropEvent account id e.user)
  | move {account id : String} {e : EventRow} (hevent : t.event? account id = .ok (some e)) (next : EventId)
    {target : Pseudonym} (htarget : ∃ name salt, target = env.hash name salt) :
    Edit env t [next] ((t.dropEvent account id e.user).putEvent { e with id := next.text, user := some target })
  | forget {account id : String} (hevent : t.event? account id = .ok none) (user : Pseudonym) :
    Edit env t [] (t.dropIndexEntry account (some user) id)
  | discard (id : EventId) : Edit env t [id] t

/-- **Edits one after the other**, with all IDs that they use up. -/
inductive Edits (env : Environment σ) (t : Tables) : List EventId → Tables → Prop
  | refl : Edits env t [] t
  | step {ids ids' : List EventId} {u v : Tables} (h : Edits env t ids u) (h' : u.Edit env ids' v) :
    Edits env t (ids ++ ids') v

variable {env : Environment σ} {t u v : Tables} {ids ids' : List EventId}

theorem Edit.edits (h : t.Edit env ids u) : t.Edits env ids u :=
  Edits.refl.step h

theorem Edits.trans (h : t.Edits env ids u) (h' : u.Edits env ids' v) : t.Edits env (ids ++ ids') v := by
  induction h' with
  | refl => rwa [List.append_nil]
  | step _ hstep ih =>
    rw [← List.append_assoc]
    exact ih.step hstep

theorem Edits.discard (env : Environment σ) (t : Tables) (ids : List EventId) : t.Edits env ids t := by
  induction ids using List.reverseRecOn with
  | nil => exact .refl
  | append_singleton ids id ih => exact ih.step (.discard id)

theorem takeEvent_eq_ok {account id : String} {row : Option EventRow} (h : t.takeEvent account id = .ok (row, u)) :
    (∃ e, t.event? account id = .ok (some e) ∧ row = some e ∧ u = t.dropEvent account id e.user) ∨
      t.event? account id = .ok none ∧ row = none ∧ u = t := by
  unfold Tables.takeEvent at h
  split at h
  · next e hevent =>
    cases h
    exact Or.inl ⟨e, hevent, rfl, rfl⟩
  · next hevent =>
    cases h
    exact Or.inr ⟨hevent, rfl, rfl⟩
  · cases h

theorem Edits.takeEvent {account id : String} {row : Option EventRow} (h : t.takeEvent account id = .ok (row, u)) :
    t.Edits env [] u := by
  rcases takeEvent_eq_ok h with ⟨e, hevent, -, rfl⟩ | ⟨-, -, rfl⟩
  · exact (Edit.take hevent).edits
  · exact .refl

end PseudonymStore.Tables
