import PseudonymStore.Proofs.Consistency
import PseudonymStore.Proofs.Evolution
/-!
# The life of a store

A store is operated on, and at any time it may be closed and opened again: the tables stay and a new session begins, which
has issued nothing (`Session.life`).  Over a whole life accounts stay as they are, and events bear the IDs that have been
issued (`Session.grows_life`).
-/
namespace PseudonymStore

variable {σ : Type}

inductive Act where
  | operate (op : Operation)
  | reopen

namespace Session

def act (env : Environment σ) (s : Session σ) : Act → Session σ
  | .operate op => (s.after env op).2
  | .reopen => opened s.tables s.world

def life (env : Environment σ) (s : Session σ) (acts : List Act) : Session σ :=
  acts.foldl (act env) s

def issuedOver (env : Environment σ) : Session σ → List Act → List EventId
  | _, [] => []
  | s, .operate op :: acts => s.issuedBy env op ++ (s.after env op).2.issuedOver env acts
  | s, .reopen :: acts => (opened s.tables s.world).issuedOver env acts

@[simp] theorem life_nil (env : Environment σ) (s : Session σ) : s.life env [] = s := rfl

@[simp] theorem life_cons (env : Environment σ) (s : Session σ) (a : Act) (acts : List Act) :
    s.life env (a :: acts) = (s.act env a).life env acts := rfl

theorem life_append (env : Environment σ) (s : Session σ) (acts acts' : List Act) :
    s.life env (acts ++ acts') = (s.life env acts).life env acts' :=
  List.foldl_append

theorem issuedOver_append (env : Environment σ) : ∀ (s : Session σ) (acts acts' : List Act),
    s.issuedOver env (acts ++ acts') = s.issuedOver env acts ++ (s.life env acts).issuedOver env acts'
  | _, [], _ => rfl
  | s, .operate op :: acts, acts' => by
    rw [List.cons_append, issuedOver, issuedOver, issuedOver_append env _ acts acts', List.append_assoc]
    rfl
  | s, .reopen :: acts, acts' => issuedOver_append env (opened s.tables s.world) acts acts'

/-- **A life is a row of edits**, with the IDs that are issued over it. -/
theorem edits_life (env : Environment σ) : ∀ (acts : List Act) (s : Session σ),
    s.tables.Edits env (s.issuedOver env acts) (s.life env acts).tables
  | [], _ => .refl
  | .operate op :: acts, s => (s.evolves_after env op).edits.trans (edits_life env acts _)
  | .reopen :: acts, s => edits_life env acts (opened s.tables s.world)

theorem grows_life (env : Environment σ) (acts : List Act) (s : Session σ) :
    s.tables.Grows (s.issuedOver env acts) (s.life env acts).tables :=
  (edits_life env acts s).grows

theorem stores_of_grows {t u : Tables} {ids : List EventId} (h : t.Grows ids u) {e : EventRow} (he : u.Stores e) :
    t.Stores e ∨ ∃ id ∈ ids, e.id = id.text := by
  obtain ⟨bytes, hrow, hread⟩ := he
  rcases h.event _ hrow with hold | ⟨f, id, hid, hf, heq⟩
  · exact Or.inl ⟨bytes, hold, hread⟩
  · obtain ⟨-, hbytes⟩ := Prod.mk.inj heq
    rw [hbytes, EventRow.ofBytes_bytes] at hread
    exact Or.inr ⟨id, hid, Except.ok.inj hread ▸ hf⟩

theorem exists_id_of_stores {t : Tables} {ids : List EventId} (h : Tables.empty.Grows ids t) {e : EventRow}
    (he : t.Stores e) : ∃ id ∈ ids, e.id = id.text :=
  (stores_of_grows h he).resolve_left fun ⟨_, hrow, _⟩ => by cases hrow

end Session

end PseudonymStore
