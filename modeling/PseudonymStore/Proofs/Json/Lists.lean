import PseudonymStore.Proofs.Json.Reading
/-!
# Lists, maps and members that may be left out

A list is read back from its items and a map from its members, whatever they are read by.  A member that is left out
leaves the draft of its record as it is.
-/
namespace PseudonymStore.Json

variable {α δ : Type}

/-! ## Lists -/

/-- A written value begins with no blank and not with this character. -/
def BeginsApart (c : Char) (cs : List Char) : Prop :=
  ∃ d ds, cs = d :: ds ∧ isBlank (some d) = false ∧ d ≠ c

theorem beginsApart_string {c : Char} (hc : c ≠ '"') (t : String) : BeginsApart c (string t) :=
  ⟨_, _, rfl, rfl, hc.symm⟩

theorem beginsApart_object {c : Char} (hc : c ≠ '\x7b') (members : List (List Char)) : BeginsApart c (object members) :=
  ⟨_, _, rfl, rfl, hc.symm⟩

theorem items_close (r : Reader α) (fuel : Nat) (first : Bool) (rest : Source) :
    items r (fuel + 1) first (some ']' :: rest) = .ok ([], rest) := by
  rw [items, here_bind rfl, if_pos rfl, advance_bind]
  rfl

theorem items_value {r : Reader α} {a : α} {as : List α} {fuel : Nat} {s t : Source} {rest : Source}
    (hvalue : r s = .ok (a, t)) (hothers : items r fuel false t = .ok (as, rest)) :
    (do return (← r) :: (← items r fuel false) : Reader (List α)) s = .ok (a :: as, rest) :=
  (bind_of_ok hvalue).trans (bind_of_ok hothers)

section

variable {r : Reader α} {write : α → List Char} (hread : ∀ a, Reads r (write a) a)
  (hbegins : ∀ a, BeginsApart ']' (write a))

include hread hbegins

theorem items_commas : ∀ (as : List α) {fuel : Nat}, as.length < fuel → ∀ rest : Source,
    items r fuel false (((as.map write).flatMap (',' :: ·)).map some ++ some ']' :: rest) = .ok (as, rest)
  | [], fuel, hf, rest => by
    obtain ⟨fuel, rfl⟩ := Nat.exists_eq_succ_of_ne_zero (Nat.ne_of_gt hf)
    exact items_close r fuel false rest
  | a :: as, fuel, hf, rest => by
    obtain ⟨fuel, rfl⟩ := Nat.exists_eq_succ_of_ne_zero (Nat.ne_of_gt (Nat.lt_of_le_of_lt (Nat.zero_le _) hf))
    have hothers := items_commas as (Nat.lt_of_succ_lt_succ hf) rest
    have hvalue := hread a (((as.map write).flatMap (',' :: ·)).map some ++ some ']' :: rest)
    obtain ⟨d, ds, hcs, hblank, hd⟩ := hbegins a
    rw [List.map_cons, List.flatMap_cons, List.map_append, List.append_assoc, List.map_cons, List.cons_append, items,
      here_bind rfl, if_neg (by decide), if_neg (by decide), if_pos rfl, advance_bind]
    rw [hcs] at hvalue ⊢
    show (here >>= _) (some d :: _) = _
    rw [here_bind hblank]
    dsimp only
    rw [if_neg (by simpa using hd)]
    exact items_value hvalue hothers

/-- **A list is read back** where its items are, and none of them begins as the end of a list does. -/
theorem reads_list (as : List α) : Reads (list r) (array (as.map write)) as := by
  intro rest
  have hsplit : (array (as.map write)).map some ++ rest =
      some '[' :: ((separated (as.map write)).map some ++ some ']' :: rest) := by
    simp [array]
  rw [hsplit]
  show (here >>= _) _ = _
  rw [here_bind rfl, if_pos rfl, advance_bind]
  show items r ((separated (as.map write)).map some ++ some ']' :: rest).length true _ = _
  cases as with
  | nil => exact items_close r _ true rest
  | cons a as =>
    rw [List.map_cons, separated_cons, List.map_append, List.append_assoc]
    have hlength := length_le_length_commas (as.map write)
    generalize hs : ((as.map write).flatMap (',' :: ·)).map some ++ some ']' :: rest = s
    have hfuel : as.length < s.length := by
      rw [← hs]
      simp only [List.length_map, List.length_append, List.length_cons] at hlength ⊢
      omega
    have hvalue := hread a s
    obtain ⟨d, ds, hcs, hblank, hd⟩ := hbegins a
    rw [hcs] at hvalue ⊢
    have hmore : as.length < (ds.map some ++ s).length := by
      rw [List.length_append]
      exact Nat.lt_add_left _ hfuel
    have hothers := items_commas hread hbegins as hmore rest
    rw [hs] at hothers
    show items r ((ds.map some ++ s).length + 1) true (some d :: (ds.map some ++ s)) = _
    rw [items, here_bind hblank, if_neg (by simpa using hd), if_pos rfl]
    exact items_value hvalue hothers

end

/-! ## Maps -/

theorem fills_rows {r : Reader α} {write : α → List Char} (hread : ∀ a, Reads r (write a) a) :
    ∀ (rs acc : List (String × α)), Fills (fun name rows => do
        colon
        return (name, ← r) :: rows) acc (rs.map fun x => (x.1, write x.2)) (.ok (rs.reverse ++ acc))
  | [], acc => .nil acc
  | (name, a) :: rs, acc => by
    rw [List.reverse_cons, List.append_assoc]
    refine .cons (fun rest => ?_) (fills_rows hread rs ((name, a) :: acc))
    rw [colon_bind]
    exact bind_of_ok (hread a rest)

theorem reads_rows {r : Reader α} {write : α → List Char} (hread : ∀ a, Reads r (write a) a) (rs : List (String × α)) :
    Reads (rows r) (object (rs.map fun x => member x.1 (write x.2))) rs := by
  intro rest
  have hfills := fills_rows hread rs []
  have hmembers : (rs.map fun x => member x.1 (write x.2)) =
      (rs.map fun x => (x.1, write x.2)).map fun f => member f.1 f.2 := by
    rw [List.map_map]
    rfl
  rw [hmembers, object_append]
  show (here >>= _) _ = _
  rw [here_bind rfl, if_pos rfl, advance_bind]
  generalize hs : (separated _).map some ++ some '\x7d' :: rest = s
  have hrows := members_length hfills rest hs
  rw [List.append_nil] at hrows
  show (members _ s.length true [] >>= fun reversed => pure reversed.reverse) s = _
  rw [bind_of_ok hrows, List.reverse_reverse]
  rfl

/-! ## Members that may be left out -/

def optionalField (name : String) (write : α → List Char) (o : Option α) : List (String × List Char) :=
  o.toList.map fun a => (name, write a)

theorem optional_eq (name : String) (write : α → List Char) (o : Option α) :
    optional name write o = (optionalField name write o).map fun f => member f.1 f.2 := by
  cases o <;> rfl

theorem Reads.orNull {r : Reader α} {cs : List Char} {a : α} (hread : Reads r cs a) (hbegins : BeginsApart 'n' cs) :
    Reads (orNull r) cs (some a) :=
  @reads_orNull α r (fun _ => cs) (some a) (fun _ hb => Option.some.inj hb ▸ hread) fun _ _ => hbegins

namespace Fills

variable {put : String → δ → Reader δ}

theorem append {d d' : δ} {fields fields' : List (String × List Char)} {result : Except Problem δ}
    (h : Fills put d fields (.ok d')) (h' : Fills put d' fields' result) : Fills put d (fields ++ fields') result := by
  generalize hfirst : (Except.ok d' : Except Problem δ) = first at h
  induction h with
  | nil =>
    cases hfirst
    exact h'
  | cons first _ ih => exact .cons first (ih hfirst)
  | stop => cases hfirst

theorem optional (name : String) (set : Option (Option α) → δ) {r : Reader α} {write : α → List Char}
    (hput : put name (set none) = do return set (← once none (Json.orNull r))) (hread : ∀ a, Reads r (write a) a)
    (hbegins : ∀ a, BeginsApart 'n' (write a)) (o : Option α) :
    Fills put (set none) (optionalField name write o) (.ok (set (o.map some))) := by
  cases o with
  | none => exact .nil _
  | some a =>
    refine .cons (fun rest => ?_) (.nil _)
    rw [hput]
    exact bind_of_ok (once_none ((hread a).orNull (hbegins a)) rest)

end Fills

end PseudonymStore.Json
