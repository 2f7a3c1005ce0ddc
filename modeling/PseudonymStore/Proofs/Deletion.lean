import PseudonymStore.Proofs.Consistency
import PseudonymStore.Proofs.Operation.Answer
/-!
# What a client is told to forget

Of the IDs that a client asks about, it is told to forget all but those of stored events, and where a user asks all but
those of the user's own (`Session.deletedEvents_run`).  The IDs may be any texts.  Whoever asks for a user cannot tell
an event of somebody else from one that never was.
-/
namespace PseudonymStore

variable {σ : Type}

namespace Session

/-- An ID is that of a stored event and, where a user asks, of one that is under the user's pseudonym. -/
def Confirms (env : Environment σ) (s : Session σ) (user : Option String) (id : String) : Prop :=
  ∃ e, s.tables.Stores e ∧ e.id = id ∧
    ∀ u, given user = some u → ∃ r, s.tables.account e.account = .ok r ∧ e.user = some (env.hash u r.salt)

/-- **What a client is told to forget.** -/
structure Disowns (env : Environment σ) (s : Session σ) (user : Option String) (gone : String → Bool) : Prop where
  exact : ∀ id, gone id = true ↔ ¬s.Confirms env user id
  /-- The answer keeps the order of the question and what it repeats; asking cannot fail and changes nothing. -/
  answer : ∀ ids, s.after env (.deletedEvents ids user) = (.ok (.deleted (ids.filter gone)), s)
  foreign : ∀ u, given user = some u → ∀ id, (∀ e r, s.tables.Stores e → e.id = id →
    s.tables.account e.account = .ok r → e.user ≠ some (env.hash u r.salt)) → gone id = true
  /-- Pseudonyms that are remembered from other IDs make no difference. -/
  recalled : ∀ ask known ids, (given user).map env.hash = some ask → s.tables.Recalls ask known →
    s.tables.goneKnowing (some ask) known ids = .ok (ids.filter gone)

end Session

namespace Ledger

theorem isGone_iff {l : Ledger} {hash : Option (String → Pseudonym)} {id : String} :
    l.isGone hash id = true ↔ ¬∃ e ∈ l.events, e.id = id ∧ l.isKnown hash e = true := by
  rw [isGone, Bool.not_eq_true', ← Bool.not_eq_true, List.any_eq_true]
  simp only [decide_eq_true_iff]

theorem isKnown_iff {l : Ledger} (hl : l.Sound) {env : Environment σ} {user : Option String} {e : EventRow} :
    l.isKnown ((given user).map env.hash) e = true ↔
      ∀ u, given user = some u → ∃ r, l.accounts.get? e.account = some r ∧ e.user = some (env.hash u r.salt) := by
  cases given user with
  | none => simp [isKnown]
  | some u =>
    simp only [isKnown, Option.map_some, Option.all_some, Option.any_eq_true, isHeld_values_iff hl, Option.some.injEq,
      forall_eq']
    constructor
    · rintro ⟨_, hp, r, hr, rfl⟩
      exact ⟨r, hr, hp⟩
    · rintro ⟨r, hr, hp⟩
      exact ⟨_, hp, r, hr, rfl⟩

end Ledger

namespace Session

variable {env : Environment σ} {s : Session σ} {l : Ledger}

theorem Keeps.confirms_iff (h : s.Keeps l) {user : Option String} {id : String} :
    s.Confirms env user id ↔ ∃ e ∈ l.events, e.id = id ∧ l.isKnown ((given user).map env.hash) e = true := by
  simp only [Confirms, h.tables.stores_iff, Ledger.isKnown_iff h.sound, h.tables.account_eq h.sound,
    Ledger.account_eq_ok_iff]

theorem Keeps.disowns (henv : env.Proper) (h : s.Keeps l) (user : Option String) :
    s.Disowns env user (l.isGone ((given user).map env.hash)) := by
  have hexact (id : String) : l.isGone ((given user).map env.hash) id = true ↔ ¬s.Confirms env user id := by
    rw [Ledger.isGone_iff, h.confirms_iff]
  refine ⟨hexact, fun ids => h.after_deletedEvents henv ids user, ?_, ?_⟩
  · rintro u hu id hforeign
    rw [hexact]
    rintro ⟨e, he, hid, hown⟩
    obtain ⟨r, hr, hp⟩ := hown u hu
    exact hforeign e r he hid hr hp
  · intro ask known ids hask hknown
    have hhash (f : String → Pseudonym) (hf : some ask = some f) (salt : String) : NulFree (f salt).text := by
      obtain ⟨u, -, rfl⟩ := Option.map_eq_some_iff.1 (hask.trans hf)
      exact henv.nulFree_hash u salt
    rw [hask, s.tables.goneKnowing_eq (some ask) ids known fun f hf => Option.some.inj hf ▸ hknown,
      h.tables.goneAmong_eq h.sound hhash]

/-- **After every run, exactly the IDs that are not confirmed are to be forgotten**, by whomever and for whatever IDs it is
asked. -/
theorem deletedEvents_run (henv : env.Proper) (world : σ) (ops : List Operation) (user : Option String) :
    ∃ gone, ((opened .empty world).run env ops).2.Disowns env user gone := by
  obtain ⟨l, hl⟩ := keeps_run henv world ops
  exact ⟨_, hl.disowns henv user⟩

/-- The rotation parks the event that `u` has inserted. -/
theorem deletedEvents_run_still : ∃ gone, ((opened .empty ()).run .still [.createAccount "a" "A", .associate "a" "u" "s",
    .insert (some "u") "a" "p", .associate "a" "u" "t", .insert (some "u") "a" "q"]).2.Disowns .still (some "u") gone :=
  deletedEvents_run Environment.still_proper () _ _

end Session

end PseudonymStore
