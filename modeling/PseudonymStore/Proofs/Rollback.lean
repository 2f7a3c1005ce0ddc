import PseudonymStore.Proofs.Consistency
import PseudonymStore.Proofs.Evolution
/-!
# Failed operations leave no trace

An operation that fails leaves the tables as they were, wherever in its loops it failed and whatever the tables hold
(`Session.noTrace_of_error`).  The generator of IDs stands outside the transaction: a failed rotation has used up the IDs
of the events that it had moved, and they are not issued again.
-/
namespace PseudonymStore

variable {σ : Type}

namespace Session

/-- Whether an operation rotates a pseudonym: a secret is bound to it already. -/
def Rotates (env : Environment σ) (s : Session σ) (op : Operation) : Prop :=
  ∃ account user secret, op = .associate account user secret ∧ (s.rotated? env account user).isSome = true

/-- **What a failed operation leaves.** -/
structure NoTrace (env : Environment σ) (s : Session σ) (op : Operation) (t : Session σ) : Prop where
  tables : t.tables = s.tables
  /-- Unless the operation has issued IDs, the generator stands where it stood. -/
  still : s.issuedBy env op = [] → t.lastIssued = s.lastIssued
  rotates : s.issuedBy env op ≠ [] → s.Rotates env op
  advanced : s.issuedBy env op ≠ [] →
    ∃ last, t.lastIssued = some last ∧ ∀ before, s.lastIssued = some before → before.text < last.text
  /-- What is issued later, whatever is done, is greater than every ID that has been discarded. -/
  discarded : ∀ id ∈ s.issuedBy env op, ∀ ops, ∀ next ∈ t.issuedAlong env ops, id.text < next.text

/-- **A failed operation leaves no trace** but a generator that has gone ahead, and this only after a rotation. -/
theorem noTrace_of_error {env : Environment σ} (hfits : env.Fits) (s : Session σ) (op : Operation) {e : StoreError}
    (h : (s.after env op).1 = .error e) : s.NoTrace env op (s.after env op).2 := by
  have hstep := s.evolves_after env op
  refine ⟨tables_of_error h, fun hnone => ?_, fun hsome => ?_, fun hsome => ?_, fun id hid ops next hnext => ?_⟩
  · have hlast := hstep.last
    rwa [hnone, List.getLast?_nil, Option.none_or] at hlast
  · cases op with
    | associate account user secret =>
      refine ⟨account, user, secret, rfl, ?_⟩
      rw [← Option.ne_none_iff_isSome]
      intro hnone
      simp [issuedBy, hnone] at hsome
    | insert user account payload =>
      rw [issuedBy] at hsome
      split at hsome
      · next hok =>
        rw [hok] at h
        cases h
      · exact absurd rfl hsome
    | createAccount | viewAccount | privateKey | query | deletedEvents | purge | checkHealth => exact absurd rfl hsome
  · obtain ⟨last, hlast⟩ : ∃ last, (s.issuedBy env op).getLast? = some last :=
      ⟨_, List.getLast?_eq_some_getLast hsome⟩
    refine ⟨last, by rw [hstep.last, hlast, Option.some_or], fun before hbefore => ?_⟩
    exact lt_of_issued_le hbefore ((hstep.ascending hfits).2 last (List.mem_of_getLast? hlast))
  · rw [EventId.text_lt_text_iff]
    have hrun := evolves_run env ops (s.after env op).2
    exact Nat.lt_of_lt_of_le (hstep.lt_issued hfits hid) ((hrun.ascending hfits).2 next hnext)

/-! ## A rotation that fails at its second event -/

/-- A session with two events of a user, where the clock goes on with every request and the third is the last for which a
draw succeeds. -/
def waning : Environment Nat :=
  .told (· < 3) (· % 1000)

def waned : Session Nat where
  tables := (((Tables.empty.putAccount ⟨"a", "A", "", "", "", ⟨946684800, 0⟩⟩).bindSecret "a" ⟨"u"⟩ "s").putEvent
    ⟨"1", "a", some ⟨"u"⟩, "p"⟩).putEvent ⟨"2", "a", some ⟨"u"⟩, "q"⟩
  lastIssued := none
  log := []
  world := 0

theorem waning_fits : waning.Fits :=
  (Environment.told_proper fun count => Nat.lt_trans (Nat.mod_lt count (by decide)) (by decide)).fits

theorem waned_fails : (waned.after waning (.associate "a" "u" "t")).1 =
      .error (.migration "a" (.randomness "error reading random bytes: ring::error::Unspecified")) ∧
    (waned.after waning (.associate "a" "u" "t")).2.lastIssued ≠ none := by
  decide +kernel

/-- The ID of the first event has been issued when the second one fails. -/
theorem noTrace_of_error_waned :
    (waned.after waning (.associate "a" "u" "t")).1 =
        .error (.migration "a" (.randomness "error reading random bytes: ring::error::Unspecified")) ∧
      waned.issuedBy waning (.associate "a" "u" "t") ≠ [] ∧
      waned.NoTrace waning (.associate "a" "u" "t") (waned.after waning (.associate "a" "u" "t")).2 := by
  have h := noTrace_of_error waning_fits waned (.associate "a" "u" "t") waned_fails.1
  exact ⟨waned_fails.1, fun hnone => waned_fails.2 (h.still hnone), h⟩

end Session

end PseudonymStore
