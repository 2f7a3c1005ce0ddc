import PseudonymStore.Json.Text
import PseudonymStore.Json.Reader
/-!
# Readers take back what was written

A reader reads a written value when it takes that value, and nothing more, from the front of every source that begins
with it (`Reads`).  Strings, values that may be `null`, and the members of objects are read so.
-/
namespace PseudonymStore.Json

variable {α β δ : Type}

/-- A reader takes a written value from the front of every source that begins with it. -/
def Reads (r : Reader α) (cs : List Char) (a : α) : Prop :=
  ∀ rest : Source, r (cs.map some ++ rest) = .ok (a, rest)

/-! ## Steps of readers -/

theorem bind_of_ok {x : Reader α} {f : α → Reader β} {s t : Source} {a : α} (h : x s = .ok (a, t)) :
    (x >>= f) s = f a t := by
  show (x s >>= fun p => f p.1 p.2) = f a t
  rw [h]
  rfl

theorem bind_of_error {x : Reader α} {f : α → Reader β} {s : Source} {e : Problem} (h : x s = .error e) :
    (x >>= f) s = .error e := by
  show (x s >>= fun p => f p.1 p.2) = _
  rw [h]
  rfl

theorem here_cons {c : Option Char} (hc : isBlank c = false) (s : Source) : here (c :: s) = .ok (c, c :: s) := by
  have hget : (get : Reader Source) (c :: s) = .ok (c :: s, c :: s) := rfl
  rw [here, bind_of_ok hget, List.dropWhile_cons_of_neg (by simp [hc])]
  rfl

theorem advance_cons (c : Option Char) (s : Source) : advance (c :: s) = .ok ((), s) := rfl

theorem here_bind {c : Option Char} (hc : isBlank c = false) (s : Source) (f : Option Char → Reader α) :
    (here >>= f) (c :: s) = f c (c :: s) :=
  bind_of_ok (here_cons hc s)

theorem advance_bind (c : Option Char) (s : Source) (f : Unit → Reader α) : (advance >>= f) (c :: s) = f () s :=
  bind_of_ok (advance_cons c s)

theorem map_of_ok {x : Reader α} {s t : Source} {a : α} (f : α → β) (h : x s = .ok (a, t)) :
    (f <$> x) s = .ok (f a, t) := by
  show (x s >>= fun p => pure (f p.1, p.2)) = _
  rw [h]
  rfl

theorem Reads.map {r : Reader α} {cs : List Char} {a : α} (f : α → β) (h : Reads r cs a) : Reads (f <$> r) cs (f a) :=
  fun rest => map_of_ok f (h rest)

theorem Reads.whole {r : Reader α} {cs : List Char} {a : α} (h : Reads r cs a) : whole r (cs.map some) = .ok a := by
  have hr := h []
  rw [List.append_nil] at hr
  rw [Json.whole, hr]
  rfl

/-! ## Strings -/

theorem hexEscape_control : ∀ n < 32,
    (hexEscape [some '0', some '0', some (Nat.digitChar (n / 16)), some (Nat.digitChar (n % 16))]).toOption = some n := by
  decide

theorem escape_hexEscaped {c : Char} (hc : c < ' ') (s : Source) :
    escape ((hexEscaped c).tail.map some ++ s) = .ok (c, 5) := by
  have hn : c.toNat < 32 := hc
  have hfour : hexEscape (some '0' :: some '0' :: some (Nat.digitChar (c.toNat / 16)) ::
      some (Nat.digitChar (c.toNat % 16)) :: s) = .ok c.toNat := by
    have := hexEscape_control c.toNat hn
    show hexEscape [some '0', some '0', some (Nat.digitChar (c.toNat / 16)), some (Nat.digitChar (c.toNat % 16))] = _
    revert this
    cases hexEscape [some '0', some '0', some (Nat.digitChar (c.toNat / 16)), some (Nat.digitChar (c.toNat % 16))] with
    | error e => intro h; cases h
    | ok n => intro h; cases h; rfl
  have hsplit : (hexEscaped c).tail.map some ++ s = some 'u' :: some '0' :: some '0' ::
      some (Nat.digitChar (c.toNat / 16)) :: some (Nat.digitChar (c.toNat % 16)) :: s := rfl
  rw [hsplit, escape, hfour]
  show ite _ _ _ = _
  rw [if_neg (by omega), if_neg (by omega), Char.ofNat_toNat]
  rfl

theorem stringFrom_escaped (c : Char) (s : Source) :
    stringFrom 0 ((escaped c).map some ++ s) = (do let (cs, rest) ← stringFrom 0 s; return (c :: cs, rest)) := by
  unfold escaped
  split
  iterate 7 rfl
  next hq hb h1 h2 h3 h4 h5 =>
  split
  · next hc =>
    show (escape ((hexEscaped c).tail.map some ++ s) >>= fun p => stringFrom p.2 ((hexEscaped c).tail.map some ++ s) >>= _) = _
    rw [escape_hexEscaped hc]
    rfl
  · next hc =>
    show stringFrom 0 (some c :: s) = _
    rw [stringFrom, if_neg hq, if_neg hb, if_neg hc]

theorem stringFrom_flatMap : ∀ (cs : List Char) (rest : Source),
    stringFrom 0 ((cs.flatMap escaped).map some ++ some '"' :: rest) = .ok (cs, rest)
  | [], rest => rfl
  | c :: cs, rest => by
    rw [List.flatMap_cons, List.map_append, List.append_assoc, stringFrom_escaped, stringFrom_flatMap cs rest]
    rfl

theorem quoted_string (t : String) (rest : Source) : quoted ((string t).tail.map some ++ rest) = .ok (t, rest) := by
  have h : (string t).tail.map some ++ rest = (t.toList.flatMap escaped).map some ++ some '"' :: rest := by
    simp [string]
  rw [h]
  have hs : (stringFrom 0 : Reader (List Char)) ((t.toList.flatMap escaped).map some ++ some '"' :: rest) =
      .ok (t.toList, rest) := stringFrom_flatMap t.toList rest
  have := bind_of_ok (f := fun cs => (pure (String.ofList cs) : Reader String)) hs
  rw [String.ofList_toList] at this
  exact this

theorem reads_text (t : String) : Reads text (string t) t := by
  intro rest
  show (here >>= _) (some '"' :: ((string t).tail.map some ++ rest)) = _
  rw [here_bind rfl, if_pos rfl, advance_bind, quoted_string]

/-! ## Values that may be `null` -/

theorem reads_orNull {r : Reader α} {write : α → List Char} {o : Option α} (h : ∀ a, o = some a → Reads r (write a) a)
    (hfirst : ∀ a, o = some a → ∃ c cs, write a = c :: cs ∧ isBlank (some c) = false ∧ c ≠ 'n') :
    Reads (orNull r) (nullable write o) o := by
  intro rest
  cases o with
  | none => rfl
  | some a =>
    obtain ⟨c, cs, hcs, hblank, hn⟩ := hfirst a rfl
    have hr := h a rfl rest
    rw [nullable]
    rw [hcs] at hr ⊢
    show (here >>= _) (some c :: (cs.map some ++ rest)) = _
    rw [here_bind hblank, if_neg (by simpa using hn)]
    exact map_of_ok some hr

/-! ## Members -/

theorem colon_bind (s : Source) (f : Unit → Reader α) : (colon >>= f) (some ':' :: s) = f () s := by
  have : colon (some ':' :: s) = .ok ((), s) := by
    show (here >>= _) (some ':' :: s) = _
    rw [here_bind rfl, if_pos rfl, advance_cons]
  exact bind_of_ok this

theorem once_none {r : Reader α} {cs : List Char} {a : α} (h : Reads r cs a) (rest : Source) :
    once none r (some ':' :: (cs.map some ++ rest)) = .ok (some a, rest) := by
  show (colon >>= fun _ => some <$> r) _ = _
  rw [colon_bind]
  exact map_of_ok some (h rest)

theorem once_none_of_error {r : Reader α} {cs : List Char} {p : Problem} (h : ∀ rest : Source, r (cs.map some ++ rest) =
    .error p) (rest : Source) : once none r (some ':' :: (cs.map some ++ rest)) = .error p := by
  show (colon >>= fun _ => some <$> r) _ = _
  rw [colon_bind]
  show (r (cs.map some ++ rest) >>= _) = _
  rw [h rest]
  rfl

/-- What members make of a draft: each is put to the draft that those before it have left, up to the first that cannot be
put. -/
inductive Fills (put : String → δ → Reader δ) : δ → List (String × List Char) → Except Problem δ → Prop where
  | nil (d : δ) : Fills put d [] (.ok d)
  | cons {d d' : δ} {result : Except Problem δ} {name : String} {value : List Char} {fields : List (String × List Char)}
      (first : ∀ rest : Source, put name d (some ':' :: (value.map some ++ rest)) = .ok (d', rest))
      (others : Fills put d' fields result) : Fills put d ((name, value) :: fields) result
  | stop {d : δ} {p : Problem} {name : String} {value : List Char} (fields : List (String × List Char))
      (first : ∀ rest : Source, put name d (some ':' :: (value.map some ++ rest)) = .error p) :
      Fills put d ((name, value) :: fields) (.error p)

theorem members_member (put : String → δ → Reader δ) (d : δ) (name : String) (value : List Char) (rest : Source)
    (fuel : Nat) :
    (here >>= fun c => if c = some '"' then (do
        advance
        let name ← quoted
        members put fuel false (← put name d)) else throw .malformed)
      ((member name value).map some ++ rest) =
        (put name d >>= members put fuel false) (some ':' :: (value.map some ++ rest)) := by
  have hsplit : (member name value).map some ++ rest =
      some '"' :: ((string name).tail.map some ++ some ':' :: (value.map some ++ rest)) := by
    simp [member, string]
  rw [hsplit, here_bind rfl, if_pos rfl, advance_bind, bind_of_ok (quoted_string name _)]

def commaMembers (fields : List (String × List Char)) : List Char :=
  fields.flatMap fun f => ',' :: member f.1 f.2

theorem separated_cons (item : List Char) (items : List (List Char)) :
    separated (item :: items) = item ++ items.flatMap (',' :: ·) := by
  induction items generalizing item with
  | nil => simp [separated]
  | cons next items ih => rw [separated, ih, List.flatMap_cons, List.cons_append]

theorem length_le_length_commas : ∀ items : List (List Char), items.length ≤ (items.flatMap (',' :: ·)).length
  | [] => Nat.le_refl _
  | item :: items => by
    have ih := length_le_length_commas items
    simp only [List.flatMap_cons, List.length_cons, List.length_append]
    omega

theorem separated_map_member (f : String × List Char) (fields : List (String × List Char)) :
    separated ((f :: fields).map fun f => member f.1 f.2) = member f.1 f.2 ++ commaMembers fields := by
  rw [List.map_cons, separated_cons, List.flatMap_map]
  rfl

theorem length_le_length_commaMembers (fields : List (String × List Char)) :
    fields.length ≤ (commaMembers fields).length := by
  have h := length_le_length_commas (fields.map fun f => member f.1 f.2)
  rw [List.length_map, List.flatMap_map] at h
  exact h

theorem length_le_length_separated (fields : List (String × List Char)) :
    fields.length ≤ (separated (fields.map fun f => member f.1 f.2)).length := by
  cases fields with
  | nil => exact Nat.zero_le _
  | cons f fields =>
    have := length_le_length_commaMembers fields
    rw [separated_map_member]
    simp only [member, string, List.length_cons, List.length_append]
    omega

theorem members_close (put : String → δ → Reader δ) (fuel : Nat) (first : Bool) (d : δ) (rest : Source) :
    members put (fuel + 1) first d (some '\x7d' :: rest) = .ok (d, rest) := by
  rw [members, here_bind rfl, if_pos rfl, advance_bind]
  rfl

theorem members_commaMembers {put : String → δ → Reader δ} {d : δ} {result : Except Problem δ}
    {fields : List (String × List Char)} (h : Fills put d fields result) : ∀ (fuel : Nat), fields.length < fuel →
      ∀ rest : Source, members put fuel false d ((commaMembers fields).map some ++ some '\x7d' :: rest) =
        result.map (·, rest) := by
  have hopen (fuel : Nat) (d : δ) (name : String) (value : List Char) (fields : List (String × List Char))
      (rest : Source) :
      members put (fuel + 1) false d ((commaMembers ((name, value) :: fields)).map some ++ some '\x7d' :: rest) =
        (put name d >>= members put fuel false)
          (some ':' :: (value.map some ++ ((commaMembers fields).map some ++ some '\x7d' :: rest))) := by
    rw [commaMembers, List.flatMap_cons, ← commaMembers, List.cons_append, List.map_cons, List.cons_append,
      List.map_append, List.append_assoc, members, here_bind rfl, if_neg (by decide)]
    show ((if some ',' = some ',' then advance else throw .malformed) >>= _) _ = _
    rw [if_pos rfl, advance_bind]
    exact members_member put d name value _ fuel
  induction h with
  | nil d =>
    intro fuel hf rest
    obtain ⟨fuel, rfl⟩ := Nat.exists_eq_succ_of_ne_zero (Nat.ne_of_gt hf)
    exact members_close put fuel false d rest
  | cons first others ih =>
    intro fuel hf rest
    obtain ⟨fuel, rfl⟩ := Nat.exists_eq_succ_of_ne_zero (Nat.ne_of_gt (Nat.lt_of_le_of_lt (Nat.zero_le _) hf))
    rw [hopen, bind_of_ok (first _)]
    exact ih fuel (by simpa using hf) rest
  | stop fields first =>
    intro fuel hf rest
    obtain ⟨fuel, rfl⟩ := Nat.exists_eq_succ_of_ne_zero (Nat.ne_of_gt (Nat.lt_of_le_of_lt (Nat.zero_le _) hf))
    rw [hopen, bind_of_error (first _)]
    rfl

theorem members_separated {put : String → δ → Reader δ} {d : δ} {result : Except Problem δ}
    {fields : List (String × List Char)} (h : Fills put d fields result) {fuel : Nat} (hf : fields.length < fuel)
    (rest : Source) :
    members put fuel true d ((separated (fields.map fun f => member f.1 f.2)).map some ++ some '\x7d' :: rest) =
      result.map (·, rest) := by
  obtain ⟨fuel, rfl⟩ := Nat.exists_eq_succ_of_ne_zero (Nat.ne_of_gt (Nat.lt_of_le_of_lt (Nat.zero_le _) hf))
  have hopen (name : String) (value : List Char) (fields : List (String × List Char)) :
      members put (fuel + 1) true d ((separated (((name, value) :: fields).map fun f => member f.1 f.2)).map some ++
        some '\x7d' :: rest) = (put name d >>= members put fuel false)
          (some ':' :: (value.map some ++ ((commaMembers fields).map some ++ some '\x7d' :: rest))) := by
    rw [separated_map_member, List.map_append, List.append_assoc]
    have hquote : ∃ s, (member name value).map some ++ ((commaMembers fields).map some ++ some '\x7d' :: rest) =
        some '"' :: s := ⟨_, rfl⟩
    obtain ⟨s, hs⟩ := hquote
    rw [members, hs, here_bind rfl, if_neg (by decide), ← hs]
    exact members_member put d name value _ fuel
  cases h with
  | nil => exact members_close put fuel true _ rest
  | cons first others =>
    rw [hopen, bind_of_ok (first _)]
    exact members_commaMembers others fuel (by simpa using hf) rest
  | stop fields first =>
    rw [hopen, bind_of_error (first _)]
    rfl

theorem members_length {put : String → δ → Reader δ} {d : δ} {result : Except Problem δ}
    {fields : List (String × List Char)} (h : Fills put d fields result) (rest : Source) {s : Source}
    (hs : (separated (fields.map fun f => member f.1 f.2)).map some ++ some '\x7d' :: rest = s) :
    members put s.length true d s = result.map (·, rest) := by
  have hf : fields.length < s.length := by
    have := length_le_length_separated fields
    rw [← hs]
    simp only [List.length_append, List.length_map, List.length_cons]
    omega
  exact hs ▸ members_separated h (hs ▸ hf) rest

theorem object_append (members : List (List Char)) (rest : Source) :
    (object members).map some ++ rest = some '\x7b' :: ((separated members).map some ++ some '\x7d' :: rest) := by
  simp [object]

theorem record_object {draft : δ} {put : String → δ → Reader δ} {finish : δ → Reader α} {ordered : Reader α}
    {fields : List (String × List Char)} {result : Except Problem δ} (h : Fills put draft fields result) (rest : Source) :
    record draft put finish ordered ((object (fields.map fun f => member f.1 f.2)).map some ++ rest) =
      result.bind fun d => finish d rest := by
  rw [object_append]
  show (here >>= _) _ = _
  rw [here_bind rfl]
  show (advance >>= _) _ = _
  rw [advance_bind]
  generalize hs : (separated (fields.map fun f => member f.1 f.2)).map some ++ some '\x7d' :: rest = s
  have hmembers := members_length h rest hs
  show (members put s.length true draft >>= finish) s = _
  cases result with
  | ok d => exact bind_of_ok hmembers
  | error p => exact bind_of_error hmembers

/-- **A record written as an object is read back**, when its members fill the draft that gives the record. -/
theorem reads_record {draft d : δ} {put : String → δ → Reader δ} {finish : δ → Reader α} {ordered : Reader α} {a : α}
    {fields : List (String × List Char)} (h : Fills put draft fields (.ok d)) (hfin : ∀ s, finish d s = .ok (a, s)) :
    Reads (record draft put finish ordered) (object (fields.map fun f => member f.1 f.2)) a := by
  intro rest
  rw [record_object h]
  exact hfin rest

end PseudonymStore.Json
