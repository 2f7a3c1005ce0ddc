import PseudonymStore.OrderedMap
import Mathlib.Data.List.Induction
import Mathlib.Data.List.Sort
import Mathlib.Data.List.Forall2
/-!
# Ordered maps as sets of rows

A map is the set of its rows: looking up finds the row of a key (`get?_eq_some_iff`), an insertion and an erasure change
the rows of one key (`mem_insert`, `mem_erase`).  Where a map shows the items of a list (`Shows`), it goes on showing
them through insertions and erasures, and a scan is the ascending list of the rows that it is to show
(`filter_rows_eq_map`).
-/
namespace PseudonymStore.OrderedMap

variable {κ α β : Type} [LT κ]

section

variable [Std.Irrefl (α := κ) (· < ·)]

theorem eq_of_mem {m : OrderedMap κ α} {k : κ} {a b : α} (ha : (k, a) ∈ m.rows) (hb : (k, b) ∈ m.rows) : a = b := by
  have hne : m.rows.Pairwise fun r s => r.1 ≠ s.1 := m.ascending.imp fun {r s} h heq => by
    rw [heq] at h
    exact Std.Irrefl.irrefl (r := (· < · : κ → κ → Prop)) _ h
  by_contra h
  rcases List.mem_iff_append.1 ha with ⟨xs, ys, hrows⟩
  rw [hrows] at hb hne
  rw [List.mem_append, List.mem_cons] at hb
  rw [List.pairwise_append, List.pairwise_cons] at hne
  rcases hb with hb | hb | hb
  · exact hne.2.2 _ hb _ List.mem_cons_self rfl
  · exact h (Prod.mk.inj hb).2.symm
  · exact hne.2.1.1 _ hb rfl

variable [DecidableEq κ]

theorem get?_eq_some_iff {m : OrderedMap κ α} {k : κ} {a : α} : m.get? k = some a ↔ (k, a) ∈ m.rows := by
  rw [get?, Option.map_eq_some_iff]
  constructor
  · rintro ⟨⟨l, b⟩, hfind, rfl⟩
    have hl : l = k := by simpa using List.find?_some hfind
    exact hl ▸ List.mem_of_find?_eq_some hfind
  · intro hmem
    have hsome : (m.rows.find? (·.1 = k)).isSome = true := List.find?_isSome.2 ⟨_, hmem, by simp⟩
    obtain ⟨⟨l, b⟩, hfind⟩ := Option.isSome_iff_exists.1 hsome
    have hl : l = k := by simpa using List.find?_some hfind
    subst hl
    exact ⟨_, hfind, eq_of_mem (List.mem_of_find?_eq_some hfind) hmem⟩

theorem get?_eq_none_iff {m : OrderedMap κ α} {k : κ} : m.get? k = none ↔ ∀ a, (k, a) ∉ m.rows := by
  rw [Option.eq_none_iff_forall_ne_some]
  exact forall_congr' fun a => not_congr get?_eq_some_iff

theorem contains_iff {m : OrderedMap κ α} {k : κ} : m.contains k = true ↔ ∃ a, (k, a) ∈ m.rows := by
  rw [contains, Option.isSome_iff_exists]
  exact exists_congr fun a => get?_eq_some_iff

omit [Std.Irrefl (α := κ) (· < ·)] in
@[simp] theorem mem_erase {m : OrderedMap κ α} {k : κ} {r : κ × α} : r ∈ (m.erase k).rows ↔ r.1 ≠ k ∧ r ∈ m.rows := by
  simp [erase, and_comm]

variable [DecidableLT κ] [Trans (α := κ) (· < ·) (· < ·) (· < ·)] [Std.Trichotomous (α := κ) (· < ·)]

@[simp] theorem mem_insert {m : OrderedMap κ α} {k : κ} {a : α} {r : κ × α} :
    r ∈ (m.insert k a).rows ↔ r = (k, a) ∨ r.1 ≠ k ∧ r ∈ m.rows := by
  obtain ⟨l, b⟩ := r
  rw [← get?_eq_some_iff]
  by_cases h : l = k
  · subst h
    simp [eq_comm]
  · rw [get?_insert_of_ne m h, get?_eq_some_iff]
    simp [h]

theorem mem_foldl_insert {m : OrderedMap κ α} {rows : List (κ × α)} (hone : ∀ r ∈ rows, ∀ s ∈ rows, r.1 = s.1 → r = s)
    {r : κ × α} :
    r ∈ (rows.foldl (fun m r => m.insert r.1 r.2) m).rows ↔ r ∈ rows ∨ (∀ s ∈ rows, s.1 ≠ r.1) ∧ r ∈ m.rows := by
  induction rows using List.reverseRecOn with
  | nil => simp
  | append_singleton rows s ih =>
    have ih := ih fun r hr t ht => hone r (List.mem_append_left _ hr) t (List.mem_append_left _ ht)
    have hs : s ∈ rows ++ [s] := List.mem_append_right _ (List.mem_singleton.2 rfl)
    rw [List.foldl_append, List.foldl_cons, List.foldl_nil, mem_insert, ih]
    simp only [List.mem_append, List.mem_singleton]
    constructor
    · rintro (rfl | ⟨hne, hr | ⟨hnew, hr⟩⟩)
      · exact Or.inl (Or.inr rfl)
      · exact Or.inl (Or.inl hr)
      · refine Or.inr ⟨fun t ht => ?_, hr⟩
        rcases ht with ht | rfl
        · exact hnew t ht
        · exact Ne.symm hne
    · rintro ((hr | rfl) | ⟨hnew, hr⟩)
      · by_cases hkey : r.1 = s.1
        · exact Or.inl (hone r (List.mem_append_left _ hr) s hs hkey)
        · exact Or.inr ⟨hkey, Or.inl hr⟩
      · exact Or.inl rfl
      · exact Or.inr ⟨fun heq => hnew s (Or.inr rfl) heq.symm, Or.inr ⟨fun t ht => hnew t (Or.inl ht), hr⟩⟩

theorem mem_ofRows {rows : List (κ × α)} (hone : ∀ r ∈ rows, ∀ s ∈ rows, r.1 = s.1 → r = s) {r : κ × α} :
    r ∈ (ofRows rows).rows ↔ r ∈ rows := by
  rw [ofRows, mem_foldl_insert hone]
  simp [empty]

omit [Std.Irrefl (α := κ) (· < ·)] [DecidableLT κ] [Trans (α := κ) (· < ·) (· < ·) (· < ·)]
  [Std.Trichotomous (α := κ) (· < ·)] in
theorem mem_foldl_erase : ∀ (keys : List κ) {m : OrderedMap κ α} {r : κ × α},
    r ∈ (keys.foldl erase m).rows ↔ r.1 ∉ keys ∧ r ∈ m.rows
  | [], m, r => by simp
  | k :: keys, m, r => by
    rw [List.foldl_cons, mem_foldl_erase keys, mem_erase, List.mem_cons, not_or]
    exact ⟨fun ⟨h, hk, hr⟩ => ⟨⟨hk, h⟩, hr⟩, fun ⟨⟨hk, h⟩, hr⟩ => ⟨h, hk, hr⟩⟩

end

/-- **A map shows some items** when its rows are those of the items. -/
def Shows (m : OrderedMap κ α) (items : List β) (key : β → κ) (value : β → α) : Prop :=
  ∀ r, r ∈ m.rows ↔ ∃ x ∈ items, r = (key x, value x)

theorem shows_empty (key : β → κ) (value : β → α) : (empty : OrderedMap κ α).Shows [] key value := by
  simp [Shows, empty]

namespace Shows

variable [Std.Irrefl (α := κ) (· < ·)] {m : OrderedMap κ α} {items : List β} {key : β → κ} {value : β → α}

theorem get?_of_mem [DecidableEq κ] (h : m.Shows items key value) {x : β} (hx : x ∈ items) :
    m.get? (key x) = some (value x) :=
  get?_eq_some_iff.2 ((h _).2 ⟨x, hx, rfl⟩)

variable [DecidableEq κ]

theorem insert [DecidableLT κ] [Trans (α := κ) (· < ·) (· < ·) (· < ·)] [Std.Trichotomous (α := κ) (· < ·)]
    (h : m.Shows items key value) (y : β) (hnew : ∀ x ∈ items, key x ≠ key y) :
    (m.insert (key y) (value y)).Shows (items ++ [y]) key value := by
  intro r
  rw [mem_insert, h]
  simp only [List.mem_append, List.mem_singleton]
  constructor
  · rintro (rfl | ⟨-, x, hx, rfl⟩)
    · exact ⟨y, Or.inr rfl, rfl⟩
    · exact ⟨x, Or.inl hx, rfl⟩
  · rintro ⟨x, hx | rfl, rfl⟩
    · exact Or.inr ⟨hnew x hx, x, hx, rfl⟩
    · exact Or.inl rfl

omit [Std.Irrefl (α := κ) (· < ·)] in
theorem erase (h : m.Shows items key value) (k : κ) {keep : β → Bool} (hkeep : ∀ x ∈ items, keep x = true ↔ key x ≠ k) :
    (m.erase k).Shows (items.filter keep) key value := by
  intro r
  rw [mem_erase, h]
  simp only [List.mem_filter]
  constructor
  · rintro ⟨hne, x, hx, rfl⟩
    exact ⟨x, ⟨hx, (hkeep x hx).2 hne⟩, rfl⟩
  · rintro ⟨x, ⟨hx, hk⟩, rfl⟩
    exact ⟨(hkeep x hx).1 hk, x, hx, rfl⟩

end Shows

theorem eq_of_ascending [Std.Irrefl (α := κ) (· < ·)] [Trans (α := κ) (· < ·) (· < ·) (· < ·)] {key : β → κ}
    {xs ys : List β} (h : xs.Pairwise fun x y => key x < key y) (h' : ys.Pairwise fun x y => key x < key y)
    (hmem : ∀ x, x ∈ xs ↔ x ∈ ys) : xs = ys := by
  have irr (x : κ) : ¬ x < x := Std.Irrefl.irrefl (r := (· < · : κ → κ → Prop)) x
  have : Std.Irrefl fun x y => key x < key y := ⟨fun x => irr (key x)⟩
  have : Std.Antisymm fun x y => key x < key y := ⟨fun x y hxy hyx => absurd (Trans.trans hxy hyx) (irr (key x))⟩
  exact h.eq_of_mem_iff h' fun {x} => hmem x

theorem ext_mem [Std.Irrefl (α := κ) (· < ·)] [Trans (α := κ) (· < ·) (· < ·) (· < ·)] {m n : OrderedMap κ α}
    (h : ∀ r, r ∈ m.rows ↔ r ∈ n.rows) : m = n :=
  ext (eq_of_ascending m.ascending n.ascending h)

theorem nodup_keys [Std.Irrefl (α := κ) (· < ·)] (m : OrderedMap κ α) : (m.rows.map (·.1)).Nodup := by
  refine List.pairwise_map.2 (m.ascending.imp fun {r s} hlt heq => ?_)
  rw [heq] at hlt
  exact Std.Irrefl.irrefl (r := (· < · : κ → κ → Prop)) s.1 hlt

theorem ofRows_rows [DecidableEq κ] [DecidableLT κ] [Std.Irrefl (α := κ) (· < ·)]
    [Trans (α := κ) (· < ·) (· < ·) (· < ·)] [Std.Trichotomous (α := κ) (· < ·)] (m : OrderedMap κ α) :
    ofRows m.rows = m := by
  refine ext_mem fun r => mem_ofRows fun r hr s hs heq => Prod.ext heq ?_
  obtain ⟨k, a⟩ := r
  obtain ⟨l, b⟩ := s
  obtain rfl : k = l := heq
  exact eq_of_mem hr hs

/-- **A map is told by the items that it shows.** -/
theorem Shows.unique [Std.Irrefl (α := κ) (· < ·)] [Trans (α := κ) (· < ·) (· < ·) (· < ·)] {m n : OrderedMap κ α}
    {items : List β} {key : β → κ} {value : β → α} (h : m.Shows items key value) (h' : n.Shows items key value) :
    n = m :=
  ext_mem fun r => (h' r).trans (h r).symm

/-- The rows under some keys are gone, some rows have come, and all others are as they were. -/
def Replaced (m : OrderedMap κ α) (gone : List κ) (come : List (κ × α)) (n : OrderedMap κ α) : Prop :=
  ∀ r, r ∈ n.rows ↔ r ∈ come ∨ r ∈ m.rows ∧ r.1 ∉ gone

theorem Shows.replaced {m n : OrderedMap κ α} {items new : List β} {keep : β → Bool} {key : β → κ} {value : β → α}
    (h : m.Shows items key value) (h' : n.Shows (items.filter keep ++ new) key value) {gone : List κ}
    (hgone : ∀ x ∈ items, keep x = true ↔ key x ∉ gone) : m.Replaced gone (new.map fun x => (key x, value x)) n := by
  intro r
  rw [h' r, h r, List.mem_map]
  simp only [List.mem_append, List.mem_filter]
  constructor
  · rintro ⟨x, ⟨hx, hkeep⟩ | hx, rfl⟩
    · exact Or.inr ⟨⟨x, hx, rfl⟩, (hgone x hx).1 hkeep⟩
    · exact Or.inl ⟨x, hx, rfl⟩
  · rintro (⟨x, hx, rfl⟩ | ⟨⟨x, hx, rfl⟩, hr⟩)
    · exact ⟨x, Or.inr hx, rfl⟩
    · exact ⟨x, Or.inl ⟨hx, (hgone x hx).2 hr⟩, rfl⟩

theorem filter_rows_eq_map [Std.Irrefl (α := κ) (· < ·)] [Trans (α := κ) (· < ·) (· < ·) (· < ·)] {m : OrderedMap κ α}
    {p : κ × α → Bool} {items : List β} {row : β → κ × α} (hitems : items.Pairwise fun x y => (row x).1 < (row y).1)
    (hmem : ∀ r, (r ∈ m.rows ∧ p r = true) ↔ ∃ x ∈ items, row x = r) : m.rows.filter p = items.map row := by
  refine eq_of_ascending (m.ascending.filter p) (List.pairwise_map.2 hitems) fun r => ?_
  rw [List.mem_filter, List.mem_map]
  exact hmem r

/-! ## Two maps side by side -/

section

variable {m : OrderedMap κ α} {n : OrderedMap κ β} {R : κ × α → κ × β → Prop}
  (hkey : ∀ r s, R r s → s.1 = r.1) (h : List.Forall₂ R m.rows n.rows)

include hkey h

theorem forall₂_insert [DecidableLT κ] [Trans (α := κ) (· < ·) (· < ·) (· < ·)] {k : κ} {a : α} {b : β}
    (hab : R (k, a) (k, b)) : List.Forall₂ R (m.insert k a).rows (n.insert k b).rows := by
  have hfilter (p : κ → Bool) : List.Forall₂ R (m.rows.filter (p ·.1)) (n.rows.filter (p ·.1)) :=
    List.rel_filter (fun r s hrs => iff_of_eq (congrArg (p · = true) (hkey r s hrs).symm)) h
  exact List.rel_append (hfilter (· < k)) (.cons hab (hfilter (k < ·)))

variable [DecidableEq κ]

theorem get?_rel (k : κ) : Option.Rel (fun a b => R (k, a) (k, b)) (m.get? k) (n.get? k) := by
  unfold get?
  generalize m.rows = rows at h
  generalize n.rows = rows' at h
  induction h with
  | nil => exact .none
  | @cons r s rs ss hrs _ ih =>
    obtain ⟨l, a⟩ := r
    obtain ⟨l', b⟩ := s
    obtain rfl : l' = l := hkey _ _ hrs
    by_cases hl : l' = k
    · subst hl
      simpa using Option.Rel.some hrs
    · simpa [hl] using ih

theorem contains_rel (k : κ) : n.contains k = m.contains k := by
  have hget := get?_rel hkey h k
  unfold contains
  generalize m.get? k = a at hget
  generalize n.get? k = b at hget
  cases hget <;> rfl

end

/-! ## Changing values -/

def mapValues (h : α → β) (m : OrderedMap κ α) : OrderedMap κ β where
  rows := m.rows.map fun r => (r.1, h r.2)
  ascending := List.pairwise_map.2 m.ascending

@[simp] theorem mapValues_id (m : OrderedMap κ α) : m.mapValues id = m :=
  ext (List.map_id m.rows)

@[simp] theorem isEmpty_mapValues (h : α → β) (m : OrderedMap κ α) : (m.mapValues h).isEmpty = m.isEmpty := by
  simp [isEmpty, mapValues]

variable [DecidableEq κ]

@[simp] theorem get?_mapValues (h : α → β) (m : OrderedMap κ α) (k : κ) : (m.mapValues h).get? k = (m.get? k).map h := by
  simp only [get?, mapValues, List.find?_map, Option.map_map, Function.comp_def]

theorem mapValues_erase (h : α → β) (m : OrderedMap κ α) (k : κ) :
    (m.erase k).mapValues h = (m.mapValues h).erase k := by
  refine ext ?_
  simp only [mapValues, erase, List.filter_map, Function.comp_def]

variable [DecidableLT κ] [Trans (α := κ) (· < ·) (· < ·) (· < ·)]

omit [DecidableEq κ] in
theorem mapValues_insert (h : α → β) (m : OrderedMap κ α) (k : κ) (a : α) :
    (m.insert k a).mapValues h = (m.mapValues h).insert k (h a) := by
  refine ext ?_
  simp only [mapValues, insert, List.map_append, List.map_cons, List.filter_map, Function.comp_def]

omit [DecidableEq κ] in
theorem mapValues_ofRows (h : α → β) (rows : List (κ × α)) :
    (ofRows rows).mapValues h = ofRows (rows.map fun r => (r.1, h r.2)) := by
  have hfold (m : OrderedMap κ α) : (rows.foldl (fun m r => m.insert r.1 r.2) m).mapValues h =
      (rows.map fun r => (r.1, h r.2)).foldl (fun m r => m.insert r.1 r.2) (m.mapValues h) := by
    induction rows generalizing m with
    | nil => rfl
    | cons r rows ih => rw [List.foldl_cons, ih, mapValues_insert, List.map_cons, List.foldl_cons]
  exact hfold empty

end PseudonymStore.OrderedMap
