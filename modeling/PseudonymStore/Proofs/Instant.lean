import PseudonymStore.Instant
import Mathlib.Algebra.Group.Nat.Defs
/-!
# Instants read back

The date of a day is that day's (`toDay_ofDay`), and the written text of an instant whose year the store can represent
is read as that instant (`read?_write`).  Readings of a clock within the milliseconds that event IDs can tell apart are
such instants (`isValid_of_reading`).
-/
namespace PseudonymStore.Instant

/-! ## The calendar -/

theorem foldl_add (n : Nat) : ∀ lengths : List Nat, lengths.foldl (· + ·) n = n + total lengths
  | [] => rfl
  | length :: lengths => by
    unfold total
    rw [List.foldl_cons, List.foldl_cons, foldl_add (n + length), foldl_add (0 + length)]
    omega

@[simp] theorem total_nil : total [] = 0 := rfl

theorem total_cons (length : Nat) (lengths : List Nat) : total (length :: lengths) = length + total lengths := by
  rw [total, List.foldl_cons, foldl_add, Nat.zero_add]

theorem locate_cons_of_le {length day : Nat} (h : length ≤ day) (lengths : List Nat) :
    locate (length :: lengths) day = ((locate lengths (day - length)).1 + 1, (locate lengths (day - length)).2) := by
  rw [locate, if_neg (Nat.not_lt.2 h)]

/-- **A day is the days before its span and the days into it.** -/
theorem total_take_locate : ∀ (lengths : List Nat) (day : Nat),
    total (lengths.take (locate lengths day).1) + (locate lengths day).2 = day
  | [], day => by simp [locate]
  | length :: lengths, day => by
    by_cases h : day < length
    · simp [locate, h]
    · have ih := total_take_locate lengths (day - length)
      rw [locate_cons_of_le (Nat.not_lt.1 h), List.take_succ_cons, total_cons]
      dsimp only
      omega

theorem locate_lt : ∀ {lengths : List Nat} {day : Nat}, day < total lengths →
    (locate lengths day).1 < lengths.length ∧ (locate lengths day).2 < lengths.getD (locate lengths day).1 0
  | [], day, h => absurd h (Nat.not_lt_zero _)
  | length :: lengths, day, h => by
    rw [total_cons] at h
    by_cases hlt : day < length
    · simp [locate, hlt]
    · have hrest : day - length < total lengths := by omega
      have ih := locate_lt hrest
      rw [locate_cons_of_le (Nat.not_lt.1 hlt)]
      exact ⟨Nat.succ_lt_succ ih.1, ih.2⟩

theorem total_yearLengths : total yearLengths = eraLength := by decide +kernel

theorem isLeap_era (era : Int) (year : Nat) : isLeap (era * 400 + year) = isLeap year := by
  have h4 : (era * 400 + year) % 4 = (year : Int) % 4 := by omega
  have h100 : (era * 400 + year) % 100 = (year : Int) % 100 := by omega
  have h400 : (era * 400 + year) % 400 = (year : Int) % 400 := by omega
  unfold isLeap
  rw [h4, h100, h400]

theorem total_monthLengths (year : Int) : total (monthLengths year) = if isLeap year then 366 else 365 := by
  unfold monthLengths
  cases isLeap year <;> rfl

theorem getD_yearLengths {year : Nat} (h : year < 400) (era : Int) :
    yearLengths.getD year 0 = total (monthLengths (era * 400 + year)) := by
  rw [total_monthLengths, isLeap_era]
  simp [yearLengths, h]

theorem day_mod_era_lt (day : Int) : (day % eraLength).toNat < total yearLengths := by
  rw [total_yearLengths]
  unfold eraLength
  omega

theorem toDay_ofDay (day : Int) : (Date.ofDay day).toDay = day := by
  unfold Date.ofDay
  have hyear := (locate_lt (day_mod_era_lt day)).1
  have hsum := total_take_locate yearLengths (day % eraLength).toNat
  have h400 : yearLengths.length = 400 := by simp [yearLengths]
  generalize locate yearLengths (day % eraLength).toNat = year at hyear hsum ⊢
  obtain ⟨year, rest⟩ := year
  dsimp only at hyear hsum ⊢
  have hmonth := total_take_locate (monthLengths (day / eraLength * 400 + (year : Nat))) rest
  generalize locate (monthLengths (day / eraLength * 400 + (year : Nat))) rest = month at hmonth ⊢
  obtain ⟨month, dayOfMonth⟩ := month
  dsimp only at hmonth ⊢
  have hdiv : (day / eraLength * 400 + (year : Nat)) / 400 = day / eraLength := by omega
  have hmod : ((day / eraLength * 400 + (year : Nat)) % 400).toNat = year := by omega
  simp only [Date.toDay, hdiv, hmod]
  have hera := Int.mul_ediv_add_emod day eraLength
  have hpos : 0 ≤ day % (eraLength : Int) := Int.emod_nonneg _ (by decide)
  rw [Int.mul_comm] at hera
  omega

theorem month_ofDay_lt (day : Int) : (Date.ofDay day).month < 12 ∧
    (Date.ofDay day).day < (monthLengths (Date.ofDay day).year).getD (Date.ofDay day).month 0 := by
  unfold Date.ofDay
  have hyear := locate_lt (day_mod_era_lt day)
  have h400 : yearLengths.length = 400 := by simp [yearLengths]
  generalize locate yearLengths (day % eraLength).toNat = year at hyear ⊢
  obtain ⟨year, rest⟩ := year
  dsimp only at hyear ⊢
  rw [h400] at hyear
  rw [getD_yearLengths hyear.1 (day / eraLength)] at hyear
  have hmonth := locate_lt hyear.2
  generalize locate (monthLengths (day / eraLength * 400 + (year : Nat))) rest = month at hmonth ⊢
  obtain ⟨month, dayOfMonth⟩ := month
  exact hmonth

theorem year_ofDay (day : Int) : day / eraLength * 400 ≤ (Date.ofDay day).year ∧
    (Date.ofDay day).year < day / eraLength * 400 + 400 := by
  unfold Date.ofDay
  have hyear := (locate_lt (day_mod_era_lt day)).1
  have h400 : yearLengths.length = 400 := by simp [yearLengths]
  generalize locate yearLengths (day % eraLength).toNat = year at hyear ⊢
  obtain ⟨year, rest⟩ := year
  dsimp only at hyear ⊢
  omega

theorem isValid_ofDay {day : Int} (hlo : -262143 ≤ (Date.ofDay day).year) (hhi : (Date.ofDay day).year ≤ 262142) :
    (Date.ofDay day).isValid = true := by
  obtain ⟨hmonth, hday⟩ := month_ofDay_lt day
  unfold Date.isValid
  simp only [Bool.and_eq_true, decide_eq_true_eq]
  exact ⟨⟨⟨hlo, hhi⟩, hmonth⟩, hday⟩

theorem getD_monthLengths_le (year : Int) : ∀ month < 12, (monthLengths year).getD month 0 ≤ 31 := by
  unfold monthLengths
  cases isLeap year <;> decide

/-! ## Digits -/

def spell (n : Nat) (ds : List Char) : Nat :=
  ds.foldl (fun n c => n * 10 + (c.toNat - '0'.toNat)) n

theorem digit?_of_isDigit {c : Char} (h : c.isDigit = true) : digit? c = some (c.toNat - '0'.toNat) := by
  rw [digit?, if_pos h]

theorem takeDigits_append :
    ∀ {ds : List Char} {limit : Nat} (count n : Nat) {rest : List Char}, (∀ c ∈ ds, c.isDigit = true) →
    ds.length ≤ limit → (ds.length = limit ∨ ∀ c ∈ rest.head?, c.isDigit = false) →
      takeDigits limit count n (ds ++ rest) = (count + ds.length, spell n ds, rest)
  | [], limit, count, n, rest, _, _, hstop => by
    cases limit with
    | zero => cases rest <;> rfl
    | succ limit =>
      cases rest with
      | nil => rfl
      | cons c rest =>
        have hc : c.isDigit = false := by
          rcases hstop with h | h
          · cases h
          · exact h c rfl
        rw [List.nil_append, takeDigits, digit?, if_neg (by simp [hc])]
        rfl
  | d :: ds, 0, _, _, _, _, hlen, _ => absurd hlen (Nat.not_succ_le_zero _)
  | d :: ds, limit + 1, count, n, rest, hds, hlen, hstop => by
    have ih := takeDigits_append (count + 1) (n * 10 + (d.toNat - '0'.toNat))
      (fun c hc => hds c (List.mem_cons_of_mem _ hc))
      (Nat.le_of_succ_le_succ hlen) (hstop.imp Nat.succ.inj id)
    rw [List.cons_append, takeDigits, digit?_of_isDigit (hds d List.mem_cons_self)]
    dsimp only
    rw [ih, List.length_cons, Nat.add_right_comm, Nat.add_assoc]
    rfl

theorem toNat_digitChar : ∀ d < 10, (Nat.digitChar d).toNat - '0'.toNat = d := by decide

theorem spell_append (n : Nat) (xs ys : List Char) : spell n (xs ++ ys) = spell (spell n xs) ys := by
  simp [spell]

theorem spell_toDigits (n : Nat) : spell 0 (Nat.toDigits 10 n) = n := by
  induction n using Nat.strongRecOn with
  | _ n ih =>
    rw [Nat.toDigits_eq_if (by decide)]
    split
    · next h =>
      have := toNat_digitChar n h
      simpa [spell] using this
    · next h =>
      have hd := toNat_digitChar (n % 10) (Nat.mod_lt _ (by decide))
      rw [spell_append, ih (n / 10) (by omega)]
      simp only [spell, List.foldl_cons, List.foldl_nil, hd]
      omega

theorem spell_replicate_zero (k : Nat) : spell 0 (List.replicate k '0') = 0 := by
  induction k with
  | zero => rfl
  | succ k ih =>
    rw [List.replicate_succ, spell, List.foldl_cons]
    exact ih

theorem spell_padded (width n : Nat) : spell 0 (padded width n) = n := by
  rw [padded, spell_append, spell_replicate_zero, spell_toDigits]

theorem isDigit_padded (width n : Nat) : ∀ c ∈ padded width n, c.isDigit = true := by
  intro c hc
  rw [padded, List.mem_append] at hc
  rcases hc with hc | hc
  · rw [List.eq_of_mem_replicate hc]
    rfl
  · exact Nat.isDigit_of_mem_toDigits (by decide) (by decide) hc

theorem length_padded {width n : Nat} (hw : 0 < width) (hn : n < 10 ^ width) : (padded width n).length = width := by
  have := (Nat.length_toDigits_le_iff (b := 10) (by decide) hw).2 hn
  rw [padded, List.length_append, List.length_replicate]
  omega

theorem padded_ne_nil (width n : Nat) : padded width n ≠ [] := by
  rw [padded]
  exact List.append_ne_nil_of_right_ne_nil _ Nat.toDigits_ne_nil

/-! ## Reading -/

theorem isBlank_of_isDigit {c : Char} (h : c.isDigit = true) : Blank.isBlank c = false := by
  simp only [Char.isDigit, ge_iff_le, Bool.and_eq_true, decide_eq_true_eq, UInt32.le_iff_toNat_le] at h
  change 48 ≤ c.toNat ∧ c.toNat ≤ 57 at h
  unfold Blank.isBlank
  generalize c.toNat = n at h
  simp only [Bool.or_eq_false_iff, Bool.and_eq_false_iff, decide_eq_false_iff_not, beq_eq_false_iff_ne]
  omega

theorem trimLeft_cons {c : Char} (h : Blank.isBlank c = false) (cs : List Char) :
    Blank.trimLeft (c :: cs) = c :: cs := by
  rw [Blank.trimLeft, List.dropWhile_cons_of_neg (by simp [h])]

theorem trimLeft_padded (width n : Nat) (rest : List Char) :
    Blank.trimLeft (padded width n ++ rest) = padded width n ++ rest := by
  obtain ⟨c, cs, hcs⟩ := List.exists_cons_of_ne_nil (padded_ne_nil width n)
  have hdigit := isDigit_padded width n c (by rw [hcs]; exact List.mem_cons_self)
  rw [hcs, List.cons_append, trimLeft_cons (isBlank_of_isDigit hdigit)]

theorem mark?_cons {c : Char} (h : Blank.isBlank c = false) (rest : List Char) : mark? c (c :: rest) = some rest := by
  rw [mark?, trimLeft_cons h]
  simp

theorem number?_padded (width : Nat) {n : Nat} (hw : 0 < width) (hn : n < 10 ^ width) (rest : List Char) :
    number? width (padded width n ++ rest) = some (n, rest) := by
  have hlen := length_padded hw hn
  rw [number?, trimLeft_padded, takeDigits_append 0 0 (isDigit_padded width n) (Nat.le_of_eq hlen) (Or.inl hlen),
    spell_padded, hlen, Nat.zero_add]
  cases width with
  | zero => exact absurd hw (Nat.lt_irrefl 0)
  | succ width => rfl

theorem takeDigits_padded (width n : Nat) {c : Char} (hc : c.isDigit = false) (rest : List Char) :
    takeDigits (padded width n ++ c :: rest).length 0 0 (padded width n ++ c :: rest) =
      ((padded width n).length, n, c :: rest) := by
  rw [takeDigits_append 0 0 (isDigit_padded width n) (by simp) (Or.inr (by simpa using hc)), spell_padded, Nat.zero_add]

theorem year?_writeYear (year : Int) (rest : List Char) :
    year? (writeYear year ++ '-' :: rest) = some (year, '-' :: rest) := by
  have hne (n : Nat) : ∃ k, (padded 4 n).length = k + 1 :=
    Nat.exists_eq_succ_of_ne_zero fun h => padded_ne_nil 4 n (List.length_eq_zero_iff.1 h)
  unfold writeYear
  split
  · next h =>
    have hn : year.toNat < 10 ^ 4 := by omega
    obtain ⟨c, cs, hcs⟩ := List.exists_cons_of_ne_nil (padded_ne_nil 4 year.toNat)
    have hdigit := isDigit_padded 4 year.toNat c (by rw [hcs]; exact List.mem_cons_self)
    have hminus : c ≠ '-' := fun h => by rw [h] at hdigit; cases hdigit
    have hplus : c ≠ '+' := fun h => by rw [h] at hdigit; cases hdigit
    have hnum := number?_padded 4 (by decide) hn ('-' :: rest)
    rw [year?, trimLeft_padded]
    rw [hcs, List.cons_append] at hnum ⊢
    split
    · next heq => exact absurd (List.cons.inj heq).1 hminus
    · next heq => exact absurd (List.cons.inj heq).1 hplus
    · rw [hnum, Option.map_some, Int.toNat_of_nonneg h.1]
  · next h =>
    obtain ⟨k, hk⟩ := hne year.natAbs
    have htake := takeDigits_padded 4 year.natAbs (c := '-') rfl rest
    by_cases hneg : year < 0
    · rw [if_pos hneg, List.cons_append, year?, trimLeft_cons rfl]
      split
      · next heq =>
        obtain ⟨-, rfl⟩ := List.cons.inj heq
        dsimp only
        rw [htake, hk]
        show some (-(year.natAbs : Int), '-' :: rest) = _
        congr 2
        omega
      · next heq => exact absurd (List.cons.inj heq).1 (by decide)
      · next hminus _ => exact absurd rfl (hminus _)
    · rw [if_neg hneg, List.cons_append, year?, trimLeft_cons rfl]
      split
      · next heq => exact absurd (List.cons.inj heq).1 (by decide)
      · next heq =>
        obtain ⟨-, rfl⟩ := List.cons.inj heq
        dsimp only
        rw [htake, hk]
        show some ((year.natAbs : Int), '-' :: rest) = _
        congr 2
        omega
      · next hplus => exact absurd rfl (hplus _)

theorem fraction?_writeFraction {nanos : Nat} (h : nanos < 1000000000) :
    fraction? (writeFraction nanos ++ ['Z']) = some (nanos, ['Z']) := by
  have key {width n : Nat} (hw : 0 < width) (h9 : width ≤ 9) (hn : n < 10 ^ width) :
      fraction? ('.' :: padded width n ++ ['Z']) = some (n * Nat.pow 10 (9 - width), ['Z']) := by
    have hlen := length_padded hw hn
    rw [List.cons_append, fraction?, takeDigits_append 0 0 (isDigit_padded width n) (by omega) (Or.inr (by simp)),
      spell_padded, hlen, Nat.zero_add]
    cases width with
    | zero => exact absurd hw (Nat.lt_irrefl 0)
    | succ width => rfl
  unfold writeFraction
  split
  · next h0 =>
    subst h0
    rfl
  split
  · next h6 =>
    rw [key (by decide) (by decide) (by omega)]
    congr 2
    show nanos / 1000000 * 1000000 = nanos
    omega
  split
  · next h3 =>
    rw [key (by decide) (by decide) (by omega)]
    congr 2
    show nanos / 1000 * 1000 = nanos
    omega
  · rw [key (by decide) (by decide) (by omega)]
    congr 2
    show nanos * 1 = nanos
    omega

/-- **The text of an instant is read as that instant**, if the store can represent its year. -/
theorem read?_write {t : Instant} (hnanos : t.nanos < 1000000000)
    (hvalid : (Date.ofDay (t.seconds / 86400 + epochDay)).isValid = true) : read? t.write = some t := by
  have hday := toDay_ofDay (t.seconds / 86400 + epochDay)
  have hvalid' := hvalid
  unfold write
  generalize Date.ofDay (t.seconds / 86400 + epochDay) = date at hvalid hday ⊢
  obtain ⟨year, month, day⟩ := date
  have hbounds : month < 12 ∧ day < 31 := by
    simp only [Date.isValid, Bool.and_eq_true, decide_eq_true_eq] at hvalid
    have := getD_monthLengths_le year month hvalid.1.2
    omega
  have hsec : (t.seconds % 86400).toNat < 86400 := by omega
  generalize hs : (t.seconds % 86400).toNat = second at hsec ⊢
  have hmod : t.nanos % 1000000000 = t.nanos := Nat.mod_eq_of_lt hnanos
  have hquot : t.nanos / 1000000000 = 0 := Nat.div_eq_of_lt hnanos
  have h59 : ¬ second % 60 = 60 := by omega
  simp only [List.append_assoc, List.cons_append, hmod, hquot, Nat.add_zero]
  rw [read?, year?_writeYear]
  refine Option.bind_eq_some_iff.2 ⟨_, rfl, ?_⟩
  refine Option.bind_eq_some_iff.2 ⟨_, mark?_cons rfl _, ?_⟩
  refine Option.bind_eq_some_iff.2 ⟨_, number?_padded 2 (by decide) (by omega) _, ?_⟩
  refine Option.bind_eq_some_iff.2 ⟨_, mark?_cons rfl _, ?_⟩
  refine Option.bind_eq_some_iff.2 ⟨_, number?_padded 2 (by decide) (by omega) _, ?_⟩
  have hdate : (⟨year, month + 1 - 1, day + 1 - 1⟩ : Date).isValid = true := hvalid
  refine Option.bind_eq_some_iff.2 ⟨(), if_pos ⟨Nat.succ_pos _, Nat.succ_pos _, hdate⟩, ?_⟩
  dsimp only
  refine Option.bind_eq_some_iff.2 ⟨(), if_pos (Or.inl rfl), ?_⟩
  refine Option.bind_eq_some_iff.2 ⟨_, number?_padded 2 (by decide) (by omega) _, ?_⟩
  refine Option.bind_eq_some_iff.2 ⟨_, mark?_cons rfl _, ?_⟩
  refine Option.bind_eq_some_iff.2 ⟨_, number?_padded 2 (by decide) (by omega) _, ?_⟩
  refine Option.bind_eq_some_iff.2 ⟨_, mark?_cons rfl _, ?_⟩
  refine Option.bind_eq_some_iff.2 ⟨_, number?_padded 2 (by decide) (by omega) _, ?_⟩
  refine Option.bind_eq_some_iff.2 ⟨(), if_pos (by omega), ?_⟩
  refine Option.bind_eq_some_iff.2 ⟨_, fraction?_writeFraction hnanos, ?_⟩
  refine Option.bind_eq_some_iff.2 ⟨(0, []), rfl, ?_⟩
  refine Option.bind_eq_some_iff.2 ⟨(), if_pos ⟨by decide, rfl⟩, ?_⟩
  have hseconds : ((⟨year, month + 1 - 1, day + 1 - 1⟩ : Date).toDay - epochDay) * 86400 +
      ((second / 3600 * 3600 + second / 60 % 60 * 60 + min (second % 60) 59 : Nat) : Int) - 0 = t.seconds := by
    rw [show (⟨year, month + 1 - 1, day + 1 - 1⟩ : Date).toDay = t.seconds / 86400 + epochDay from hday]
    omega
  dsimp only
  rw [hseconds, if_neg h59]
  exact Option.bind_eq_some_iff.2 ⟨(), if_pos hvalid', rfl⟩

/-- A reading of a clock: the time since the beginning of 1970, without leap seconds. -/
def IsReading (t : Instant) : Prop :=
  0 ≤ t.seconds ∧ t.nanos < 1000000000

theorem isValid_of_reading {t : Instant} (h : t.IsReading) (hmillis : t.millis ≤ 0x4000000000000) :
    (Date.ofDay (t.seconds / 86400 + epochDay)).isValid = true := by
  obtain ⟨hlo, hnanos⟩ := h
  have hyear := year_ofDay (t.seconds / 86400 + epochDay)
  unfold millis at hmillis
  unfold epochDay eraLength at *
  exact isValid_ofDay (by omega) (by omega)

end PseudonymStore.Instant
