import PseudonymStore.Bytes
/-!
# Ordered maps

A finite map kept as its rows in ascending order of keys, so that a scan is the list of rows itself and two maps with the
same rows are equal.  The order is part of the type: every operation proves that it keeps it.
-/
namespace PseudonymStore

structure OrderedMap (κ α : Type) [LT κ] where
  rows : List (κ × α)
  ascending : rows.Pairwise fun r s => r.1 < s.1

namespace OrderedMap

variable {κ α : Type} [LT κ]

@[ext] theorem ext {m n : OrderedMap κ α} (h : m.rows = n.rows) : m = n := by
  cases m; cases n; cases h; rfl

instance [DecidableEq κ] [DecidableEq α] : DecidableEq (OrderedMap κ α) := fun m n =>
  decidable_of_iff (m.rows = n.rows) ⟨ext, fun h => h ▸ rfl⟩

def empty : OrderedMap κ α where
  rows := []
  ascending := .nil

def isEmpty (m : OrderedMap κ α) : Bool :=
  m.rows.isEmpty

def values (m : OrderedMap κ α) : List α :=
  m.rows.map (·.2)

variable [DecidableEq κ]

def get? (m : OrderedMap κ α) (k : κ) : Option α :=
  (m.rows.find? (·.1 = k)).map (·.2)

def contains (m : OrderedMap κ α) (k : κ) : Bool :=
  (m.get? k).isSome

def erase (m : OrderedMap κ α) (k : κ) : OrderedMap κ α where
  rows := m.rows.filter (·.1 ≠ k)
  ascending := m.ascending.filter _

@[simp] theorem get?_empty (k : κ) : (empty : OrderedMap κ α).get? k = none := rfl

@[simp] theorem get?_erase_self (m : OrderedMap κ α) (k : κ) : (m.erase k).get? k = none := by
  simp only [get?, erase, Option.map_eq_none_iff, List.find?_eq_none]
  intro r hr
  simpa using (List.mem_filter.1 hr).2

theorem get?_erase_of_ne (m : OrderedMap κ α) {k l : κ} (h : l ≠ k) : (m.erase k).get? l = m.get? l := by
  simp only [get?, erase, List.find?_filter]
  congr 2
  funext r
  by_cases hr : r.1 = l
  · simp [hr, h]
  · simp [hr]

variable [DecidableLT κ] [Trans (α := κ) (· < ·) (· < ·) (· < ·)]

def insert (m : OrderedMap κ α) (k : κ) (a : α) : OrderedMap κ α where
  rows := m.rows.filter (·.1 < k) ++ (k, a) :: m.rows.filter (k < ·.1)
  ascending := by
    refine List.pairwise_append.2 ⟨m.ascending.filter _, List.pairwise_cons.2 ⟨?_, m.ascending.filter _⟩, ?_⟩
    · intro r hr
      exact of_decide_eq_true (List.mem_filter.1 hr).2
    · intro r hr s hs
      have hrk : r.1 < k := of_decide_eq_true (List.mem_filter.1 hr).2
      rcases List.mem_cons.1 hs with rfl | hs
      · exact hrk
      · exact Trans.trans hrk (of_decide_eq_true (List.mem_filter.1 hs).2 : k < s.1)

/-- The map of some rows; of rows with one key the last counts. -/
def ofRows (rows : List (κ × α)) : OrderedMap κ α :=
  rows.foldl (fun m r => m.insert r.1 r.2) empty

@[simp] theorem get?_insert_self [Std.Irrefl (α := κ) (· < ·)] (m : OrderedMap κ α) (k : κ) (a : α) :
    (m.insert k a).get? k = some a := by
  have h : (m.rows.filter (·.1 < k)).find? (·.1 = k) = none := by
    refine List.find?_eq_none.2 fun r hr hk => ?_
    have hlt : r.1 < k := of_decide_eq_true (List.mem_filter.1 hr).2
    exact Std.Irrefl.irrefl (r := (· < · : κ → κ → Prop)) k (of_decide_eq_true hk ▸ hlt)
  simp [get?, insert, List.find?_append, h]

theorem get?_insert_of_ne [Std.Irrefl (α := κ) (· < ·)] [Std.Trichotomous (α := κ) (· < ·)] (m : OrderedMap κ α)
    {k l : κ} (h : l ≠ k) (a : α) : (m.insert k a).get? l = m.get? l := by
  have irr (x : κ) : ¬ x < x := Std.Irrefl.irrefl (r := (· < · : κ → κ → Prop)) x
  have side (p : κ → Bool) (hp : p l = true) : (m.rows.filter (p ·.1)).find? (·.1 = l) = m.rows.find? (·.1 = l) := by
    rw [List.find?_filter]
    congr 1
    funext r
    by_cases hr : r.1 = l
    · simp [hr, hp]
    · simp [hr]
  have other (p : κ → Bool) (hp : p l = false) : (m.rows.filter (p ·.1)).find? (·.1 = l) = none := by
    refine List.find?_eq_none.2 fun r hr hk => ?_
    have := (List.mem_filter.1 hr).2
    rw [of_decide_eq_true hk, hp] at this
    exact absurd this (by simp)
  simp only [get?, insert, List.find?_append, List.find?_cons, decide_eq_false (Ne.symm h)]
  by_cases hlt : l < k
  · have hkl : ¬ k < l := fun hkl => irr l (Trans.trans hlt hkl)
    have h₁ := side (fun x => x < k) (by simpa using hlt)
    have h₂ := other (fun x => k < x) (by simpa using hkl)
    rw [h₁, h₂]
    simp
  · have hkl : k < l := by
      by_cases hkl : k < l
      · exact hkl
      · exact absurd (Std.Trichotomous.trichotomous (r := (· < · : κ → κ → Prop)) l k hlt hkl) h
    have h₁ := other (fun x => x < k) (by simpa using hlt)
    have h₂ := side (fun x => k < x) (by simpa using hkl)
    rw [h₁, h₂]
    simp

end OrderedMap

instance stringLtTrans : Trans (α := String) (· < ·) (· < ·) (· < ·) where
  trans := String.lt_trans

abbrev Table (α : Type) := OrderedMap Bytes α

end PseudonymStore
