import PseudonymStore.RowKey
import PseudonymStore.Proofs.Text.Utf8
/-!
# Row keys and the ranges of scans

Where the parts of keys hold no NUL, a key tells its parts (`event_inj`, `userEvent_inj`, `secret_inj`), keys are
ordered part by part, and a range holds the keys of exactly one parent whose last part comes after the cursor
(`contains_events_iff`, `contains_userEvents_iff`).
-/
namespace PseudonymStore

def NulFree (s : String) : Prop :=
  '\x00' ∉ s.toList

theorem NulFree.zero_notMem {s : String} (h : NulFree s) : (0 : UInt8) ∉ utf8 s :=
  fun h0 => h ((Utf8.zero_mem_utf8_iff s).1 h0)

def comesAfter (since : Option String) (id : String) : Bool :=
  since.all (· < id)

@[simp] theorem comesAfter_none (id : String) : comesAfter none id = true := rfl

@[simp] theorem comesAfter_some (cursor id : String) : comesAfter (some cursor) id = decide (cursor < id) := rfl

namespace RowKey

/-! ## Bytes with a zero between them -/

theorem zero_lt_byte {b : UInt8} (h : b ≠ 0) : 0 < b := by
  rw [UInt8.lt_iff_toNat_lt]
  have : b.toNat ≠ 0 := fun hb => h (UInt8.toNat_inj.1 hb)
  simpa using Nat.pos_of_ne_zero this

theorem append_zero_inj : ∀ {xs ys ps qs : Bytes}, 0 ∉ xs → 0 ∉ ys →
    (xs ++ 0 :: ps = ys ++ 0 :: qs ↔ xs = ys ∧ ps = qs)
  | [], [], ps, qs, _, _ => by simp
  | [], y :: ys, ps, qs, _, hy => by
    have : (0 : UInt8) ≠ y := fun h => hy (h ▸ List.mem_cons_self)
    simp [this]
  | x :: xs, [], ps, qs, hx, _ => by
    have : x ≠ 0 := fun h => hx (h ▸ List.mem_cons_self)
    simp [this]
  | x :: xs, y :: ys, ps, qs, hx, hy => by
    have ih : xs ++ 0 :: ps = ys ++ 0 :: qs ↔ _ := append_zero_inj (fun h => hx (List.mem_cons_of_mem _ h))
      (fun h => hy (List.mem_cons_of_mem _ h))
    simp only [List.cons_append, List.cons.injEq, ih, and_assoc]

/-- **Keys are ordered part by part**: zero is the smallest byte and in no part. -/
theorem append_zero_lt : ∀ {xs ys ps qs : Bytes}, 0 ∉ xs → 0 ∉ ys →
    (xs ++ 0 :: ps < ys ++ 0 :: qs ↔ xs < ys ∨ xs = ys ∧ ps < qs)
  | [], [], ps, qs, _, _ => by simp
  -- Where one part ends, its zero is below the byte that the other goes on with.
  | [], y :: ys, ps, qs, _, hy => by
    have : 0 < y := zero_lt_byte (fun h => hy (h ▸ List.mem_cons_self))
    simp [List.cons_lt_cons_iff, this]
  | x :: xs, [], ps, qs, hx, _ => by
    have hne : x ≠ 0 := fun h => hx (h ▸ List.mem_cons_self)
    have : ¬ x < 0 := fun h => absurd (UInt8.lt_trans h (zero_lt_byte hne)) (UInt8.lt_irrefl x)
    simp [List.cons_lt_cons_iff, this, hne]
  | x :: xs, y :: ys, ps, qs, hx, hy => by
    have ih : xs ++ 0 :: ps < ys ++ 0 :: qs ↔ _ := append_zero_lt (fun h => hx (List.mem_cons_of_mem _ h))
      (fun h => hy (List.mem_cons_of_mem _ h))
    simp only [List.cons_append, List.cons_lt_cons_iff, ih, List.cons.injEq]
    grind

theorem append_zero_lt_append_one : ∀ {xs ys ps : Bytes}, 0 ∉ xs → 0 ∉ ys →
    (xs ++ 0 :: ps < ys ++ [1] ↔ xs < ys ∨ xs = ys)
  | [], [], ps, _, _ => by simp [List.cons_lt_cons_iff]
  | [], y :: ys, ps, _, hy => by
    have : 0 < y := zero_lt_byte (fun h => hy (h ▸ List.mem_cons_self))
    simp [List.cons_lt_cons_iff, this]
  | x :: xs, [], ps, hx, _ => by
    have hne : x ≠ 0 := fun h => hx (h ▸ List.mem_cons_self)
    have : ¬ x < 1 := by
      have := UInt8.lt_iff_toNat_lt.1 (zero_lt_byte hne)
      rw [UInt8.lt_iff_toNat_lt]
      simp at *
      omega
    simp [List.cons_lt_cons_iff, this]
  | x :: xs, y :: ys, ps, hx, hy => by
    have ih : xs ++ 0 :: ps < ys ++ [1] ↔ _ := append_zero_lt_append_one (fun h => hx (List.mem_cons_of_mem _ h))
      (fun h => hy (List.mem_cons_of_mem _ h))
    simp only [List.cons_append, List.cons_lt_cons_iff, ih, List.cons.injEq]
    grind

/-- **A byte string followed by zero is the next one after it.** -/
theorem append_zero_le_iff : ∀ {cs xs : Bytes}, cs ++ [0] ≤ xs ↔ cs < xs
  | [], [] => by simp
  | [], x :: xs => by
    have : ¬ x < 0 := by
      rw [UInt8.lt_iff_toNat_lt]
      simp
    rw [List.nil_append, ← List.not_lt, List.cons_lt_cons_iff]
    simp [this]
  | c :: cs, [] => by simp
  | c :: cs, x :: xs => by
    have ih : cs ++ [0] ≤ xs ↔ cs < xs := append_zero_le_iff
    rw [List.cons_append, ← List.not_lt, List.cons_lt_cons_iff, List.cons_lt_cons_iff]
    rw [← List.not_lt] at ih
    have htri : c < x ∨ c = x ∨ x < c := by
      simp only [UInt8.lt_iff_toNat_lt, ← UInt8.toNat_inj]
      omega
    have hasym : c < x → ¬ x < c := fun h => UInt8.lt_asymm h
    have hirr : ¬ x < x := UInt8.lt_irrefl x
    grind

/-! ## Keys tell their parts -/

theorem account_inj {a b : String} : account a = account b ↔ a = b :=
  Utf8.utf8_inj

theorem eventAccount_inj {i j : String} : eventAccount i = eventAccount j ↔ i = j :=
  Utf8.utf8_inj

theorem event_eq (a i : String) : event a i = utf8 a ++ 0 :: utf8 i := rfl

theorem secret_eq (a : String) (p : Pseudonym) : secret a p = utf8 a ++ 0 :: utf8 p.text := rfl

theorem userEvent_eq (a : String) (p : Pseudonym) (i : String) :
    userEvent a p i = utf8 a ++ 0 :: (utf8 p.text ++ 0 :: utf8 i) := rfl

theorem event_inj {a b i j : String} (ha : NulFree a) (hb : NulFree b) : event a i = event b j ↔ a = b ∧ i = j := by
  rw [event_eq, event_eq, append_zero_inj ha.zero_notMem hb.zero_notMem, Utf8.utf8_inj, Utf8.utf8_inj]

theorem secret_inj {a b : String} {p q : Pseudonym} (ha : NulFree a) (hb : NulFree b) :
    secret a p = secret b q ↔ a = b ∧ p = q := by
  rw [secret_eq, secret_eq, append_zero_inj ha.zero_notMem hb.zero_notMem, Utf8.utf8_inj, Utf8.utf8_inj]
  cases p
  cases q
  simp

theorem userEvent_inj {a b i j : String} {p q : Pseudonym} (ha : NulFree a) (hb : NulFree b) (hp : NulFree p.text)
    (hq : NulFree q.text) : userEvent a p i = userEvent b q j ↔ a = b ∧ p = q ∧ i = j := by
  rw [userEvent_eq, userEvent_eq, append_zero_inj ha.zero_notMem hb.zero_notMem,
    append_zero_inj hp.zero_notMem hq.zero_notMem, Utf8.utf8_inj, Utf8.utf8_inj, Utf8.utf8_inj]
  cases p
  cases q
  simp

theorem leaf?_append_zero (bs : Bytes) {i : String} (hi : NulFree i) : leaf? (bs ++ 0 :: utf8 i) = some i := by
  have hmem : (bs ++ 0 :: utf8 i).contains separator = true :=
    List.contains_iff_mem.2 (List.mem_append_right _ List.mem_cons_self)
  have hall : ∀ b ∈ (utf8 i).reverse, decide (b ≠ separator) = true := fun b hb => by
    have : b ≠ separator := fun (h : b = 0) => hi.zero_notMem (h ▸ List.mem_reverse.1 hb)
    simpa using this
  have hrev : (bs ++ 0 :: utf8 i).reverse = (utf8 i).reverse ++ 0 :: bs.reverse := by simp
  rw [leaf?, if_pos hmem, hrev, List.takeWhile_append_of_pos hall, List.takeWhile_cons_of_neg (by simp [separator]),
    List.append_nil, List.reverse_reverse, Utf8.decode?_utf8]

theorem leaf?_userEvent (a : String) (p : Pseudonym) {i : String} (hi : NulFree i) :
    leaf? (userEvent a p i) = some i := by
  have hsplit : userEvent a p i = (utf8 a ++ 0 :: utf8 p.text) ++ 0 :: utf8 i := by simp [userEvent_eq]
  rw [hsplit, leaf?_append_zero _ hi]

theorem id_eq_of_event_eq {a b i j : String} (hi : NulFree i) (hj : NulFree j) (h : event a i = event b j) : i = j := by
  have hleaf := congrArg leaf? h
  rw [event_eq, event_eq, leaf?_append_zero _ hi, leaf?_append_zero _ hj] at hleaf
  exact Option.some.inj hleaf

/-! ## The order of keys -/

theorem event_lt {a b i j : String} (ha : NulFree a) (hb : NulFree b) :
    event a i < event b j ↔ a < b ∨ a = b ∧ i < j := by
  rw [event_eq, event_eq, append_zero_lt ha.zero_notMem hb.zero_notMem, Utf8.utf8_lt_utf8_iff, Utf8.utf8_lt_utf8_iff,
    Utf8.utf8_inj]

theorem userEvent_lt_of_lt {a i j : String} {p : Pseudonym} (ha : NulFree a) (hp : NulFree p.text) :
    userEvent a p i < userEvent a p j ↔ i < j := by
  rw [userEvent_eq, userEvent_eq, append_zero_lt ha.zero_notMem ha.zero_notMem,
    append_zero_lt hp.zero_notMem hp.zero_notMem]
  simp [List.lt_irrefl, Utf8.utf8_lt_utf8_iff]

end RowKey

namespace KeyRange

open RowKey

def offset (since : Option String) : Bytes :=
  match since with
  | none => []
  | some cursor => utf8 cursor ++ [separator]

theorem below_eq (parts : List String) (since : Option String) :
    below parts since = ⟨path parts ++ separator :: offset since, path parts ++ [separator + 1]⟩ := rfl

theorem offset_le_iff (since : Option String) (id : String) : offset since ≤ utf8 id ↔ comesAfter since id = true := by
  cases since with
  | none => simp [offset]
  | some cursor =>
    rw [comesAfter_some, decide_eq_true_iff, ← Utf8.utf8_lt_utf8_iff]
    exact append_zero_le_iff

theorem contains_eq (r : KeyRange) (key : Bytes) : r.contains key = true ↔ ¬ key < r.start ∧ key < r.stop := by
  simp [contains, List.not_lt]

theorem contains_events_iff {a b : String} (since : Option String) (id : String) (ha : NulFree a) (hb : NulFree b) :
    (events a since).contains (event b id) = true ↔ b = a ∧ comesAfter since id = true := by
  rw [contains_eq, events, below_eq]
  dsimp only [path, separator]
  rw [event_eq, append_zero_lt hb.zero_notMem ha.zero_notMem, UInt8.zero_add,
    append_zero_lt_append_one hb.zero_notMem ha.zero_notMem, ← offset_le_iff, ← List.not_lt, Utf8.utf8_inj]
  have hirr : ¬ utf8 a < utf8 a := List.lt_irrefl _
  constructor
  · rintro ⟨h1, h2 | rfl⟩
    · exact absurd (Or.inl h2) h1
    · exact ⟨rfl, fun h => h1 (Or.inr ⟨rfl, h⟩)⟩
  · rintro ⟨rfl, h⟩
    exact ⟨by simp [hirr, h], Or.inr rfl⟩

/-- **The range of a pseudonym in the index holds exactly its events after the cursor.** -/
theorem contains_userEvents_iff {a b : String} {p q : Pseudonym} (since : Option String) (id : String) (ha : NulFree a)
    (hb : NulFree b) (hp : NulFree p.text) (hq : NulFree q.text) :
    (userEvents a p since).contains (userEvent b q id) = true ↔ b = a ∧ q = p ∧ comesAfter since id = true := by
  rw [contains_eq, userEvents, below_eq]
  dsimp only [path, separator]
  rw [List.append_assoc, List.append_assoc, List.cons_append, List.cons_append, userEvent_eq,
    append_zero_lt hb.zero_notMem ha.zero_notMem, append_zero_lt hb.zero_notMem ha.zero_notMem,
    append_zero_lt hq.zero_notMem hp.zero_notMem, UInt8.zero_add,
    append_zero_lt_append_one hq.zero_notMem hp.zero_notMem, ← offset_le_iff, ← List.not_lt, Utf8.utf8_inj, Utf8.utf8_inj]
  have hirr : ¬ utf8 a < utf8 a := List.lt_irrefl _
  have hirr' : ¬ utf8 p.text < utf8 p.text := List.lt_irrefl _
  constructor
  · rintro ⟨h1, h2 | ⟨rfl, h2 | h2⟩⟩
    · exact absurd (Or.inl h2) h1
    · exact absurd (Or.inr ⟨rfl, Or.inl h2⟩) h1
    · refine ⟨rfl, ?_, fun h => h1 (Or.inr ⟨rfl, Or.inr ⟨h2, h⟩⟩)⟩
      cases p
      cases q
      exact congrArg Pseudonym.mk h2
  · rintro ⟨rfl, rfl, h⟩
    exact ⟨by simp [hirr, hirr', h], Or.inr ⟨rfl, Or.inr rfl⟩⟩

end KeyRange

end PseudonymStore
