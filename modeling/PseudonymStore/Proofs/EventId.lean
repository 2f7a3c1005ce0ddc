import PseudonymStore.Identifier
import PseudonymStore.Proofs.RowKey
import Mathlib.Algebra.Group.Nat.Defs
/-!
# The order of event IDs

The texts of IDs are ordered as their numbers (`text_lt_text_iff`), so the ID that follows another of its millisecond,
or a fresh one of a later millisecond, is greater as a text.
-/
namespace PseudonymStore.EventId

theorem digits_ascending : ∀ j < 32, ∀ i < j, digits.getD i '0' < digits.getD j '0' := by decide

theorem digit_mem_digits : ∀ i < 32, digits.getD i '0' ∈ digits := by decide

theorem append_singleton_lt : ∀ {xs ys : List Char} {a b : Char}, xs.length = ys.length →
    (xs < ys ∨ xs = ys ∧ a < b) → xs ++ [a] < ys ++ [b]
  | [], [], a, b, _, h => by
    rcases h with h | ⟨-, h⟩
    · exact absurd h (List.not_lt_nil _)
    · exact List.cons_lt_cons_iff.2 (Or.inl h)
  | x :: xs, y :: ys, a, b, hlen, h => by
    have ih : (xs < ys ∨ xs = ys ∧ a < b) → xs ++ [a] < ys ++ [b] := append_singleton_lt (by simpa using hlen)
    rw [List.cons_append, List.cons_append, List.cons_lt_cons_iff]
    rcases h with h | ⟨h, hab⟩
    · rcases List.cons_lt_cons_iff.1 h with hlt | ⟨rfl, hlt⟩
      · exact Or.inl hlt
      · exact Or.inr ⟨rfl, ih (Or.inl hlt)⟩
    · obtain ⟨rfl, rfl⟩ := List.cons.inj h
      exact Or.inr ⟨rfl, ih (Or.inr ⟨rfl, hab⟩)⟩

theorem digitsOf_lt : ∀ (width : Nat) {n m : Nat}, m < 32 ^ width → n < m → digitsOf width n < digitsOf width m
  | 0, n, m, hm, h => by
    rw [Nat.pow_zero] at hm
    omega
  | width + 1, n, m, hm, h => by
    have hq : m / 32 < 32 ^ width := Nat.div_lt_of_lt_mul (by rw [Nat.pow_succ] at hm; omega)
    rw [digitsOf, digitsOf]
    apply append_singleton_lt (by simp)
    rcases Nat.lt_or_eq_of_le (Nat.div_le_div_right (c := 32) (Nat.le_of_lt h)) with hlt | heq
    · exact Or.inl (digitsOf_lt width hq hlt)
    · exact Or.inr ⟨by rw [heq], digits_ascending (m % 32) (Nat.mod_lt _ (by decide)) (n % 32) (by omega)⟩

theorem mem_digits_of_mem_digitsOf : ∀ {width n : Nat} {c : Char}, c ∈ digitsOf width n → c ∈ digits
  | 0, _, _, hc => by cases hc
  | width + 1, n, c, hc => by
    rw [digitsOf, List.mem_append, List.mem_singleton] at hc
    rcases hc with hc | rfl
    · exact mem_digits_of_mem_digitsOf hc
    · exact digit_mem_digits (n % 32) (Nat.mod_lt _ (by decide))

theorem toNat_lt (id : EventId) : id.toNat < 32 ^ 26 := by
  have := id.millis_lt
  have := id.random_lt
  unfold toNat millisSpan randomSpan at *
  omega

theorem toNat_inj {a b : EventId} : a.toNat = b.toNat ↔ a = b := by
  refine ⟨fun h => ?_, fun h => h ▸ rfl⟩
  obtain ⟨m, r, hm, hr⟩ := a
  obtain ⟨m', r', hm', hr'⟩ := b
  simp only [toNat, randomSpan] at h hr hr'
  have : m = m' := by omega
  have : r = r' := by omega
  subst m' r'
  rfl

/-- **IDs are ordered as texts as they are as numbers.** -/
theorem text_lt_text_iff {a b : EventId} : a.text < b.text ↔ a.toNat < b.toNat := by
  have mono {x y : EventId} (h : x.toNat < y.toNat) : x.text < y.text := by
    rw [String.lt_iff, text, text, String.toList_ofList, String.toList_ofList]
    exact digitsOf_lt 26 y.toNat_lt h
  refine ⟨fun h => ?_, mono⟩
  rcases Nat.lt_trichotomy a.toNat b.toNat with hlt | heq | hgt
  · exact hlt
  · rw [toNat_inj.1 heq] at h
    exact absurd h (String.lt_irrefl _)
  · exact absurd h (String.lt_asymm (mono hgt))

theorem text_inj {a b : EventId} : a.text = b.text ↔ a = b := by
  refine ⟨fun h => toNat_inj.1 ?_, fun h => h ▸ rfl⟩
  have hab : ¬ a.toNat < b.toNat := by
    rw [← text_lt_text_iff, h]
    exact String.lt_irrefl _
  have hba : ¬ b.toNat < a.toNat := by
    rw [← text_lt_text_iff, h]
    exact String.lt_irrefl _
  omega

theorem length_text (id : EventId) : id.text.length = 26 := by
  rw [text, String.length_ofList, length_digitsOf]

theorem mem_digits_of_mem_text {id : EventId} {c : Char} (h : c ∈ id.text.toList) : c ∈ digits := by
  rw [text, String.toList_ofList] at h
  exact mem_digits_of_mem_digitsOf h

theorem nulFree_text (id : EventId) : NulFree id.text := fun h =>
  absurd (mem_digits_of_mem_text h) (by decide)

theorem text_ne_empty (id : EventId) : id.text ≠ "" := by
  intro h
  have := congrArg (fun s => s.toList.length) h
  simp [text] at this

theorem toNat_of_successor? {a b : EventId} (h : a.successor? = some b) : b.toNat = a.toNat + 1 := by
  unfold successor? at h
  split at h
  · cases h
    simp only [toNat]
    omega
  · cases h

theorem toNat_lt_of_millis_lt {a b : EventId} (h : a.millis < b.millis) : a.toNat < b.toNat := by
  have := a.random_lt
  unfold toNat randomSpan at *
  omega

/-- **A fresh ID of a later millisecond is greater**, while the clock fits the ID. -/
theorem toNat_lt_fresh {last : EventId} {now : Nat} (drawn : Bytes) (hnow : now < millisSpan) (h : last.millis < now) :
    last.toNat < (fresh now drawn).toNat := by
  apply toNat_lt_of_millis_lt
  have hm : (fresh now drawn).millis = now := Nat.mod_eq_of_lt hnow
  rwa [hm]

end PseudonymStore.EventId
