import PseudonymStore.Format.Pem
import PseudonymStore.Proofs.Format.Base64
/-!
# PEM read back

The written form of a block is read as that block (`parse_write`), whatever its contents are, if its label can stand in a
frame.  The lines between the frames are never blank, so that none of them is taken for the end of headers.
-/
namespace PseudonymStore.Pem

/-! ## Cuts -/

theorem cutFrom_append (marker rest : List Char) : ∀ left passed : List Char,
    cutFrom marker (left ++ rest) left passed = some (((left.reverse ++ passed).drop marker.length).reverse, rest)
  | [], passed => by simp [cutFrom]
  | c :: left, passed => by
    rw [List.cons_append, cutFrom, if_pos rfl, cutFrom_append marker rest left]
    simp

theorem cutFrom_pass (m : Char) (left rest : List Char) : ∀ (before passed : List Char), (∀ c ∈ before, c ≠ m) →
    cutFrom (m :: left) (before ++ rest) (m :: left) passed = cutFrom (m :: left) rest (m :: left) (before.reverse ++ passed)
  | [], _, _ => rfl
  | c :: before, passed, h => by
    rw [List.cons_append, cutFrom, if_neg (h c List.mem_cons_self),
      cutFrom_pass m left rest before _ fun d hd => h d (List.mem_cons_of_mem _ hd)]
    simp

theorem cut_append (marker : String) (hmarker : marker.toList.head? = some '-') {before : List Char} (h : '-' ∉ before)
    (rest : List Char) : cut marker (before ++ (marker.toList ++ rest)) = some (before, rest) := by
  obtain ⟨left, hleft⟩ := List.head?_eq_some_iff.1 hmarker
  have hpass (c : Char) (hc : c ∈ before) : c ≠ '-' := fun heq => h (heq ▸ hc)
  rw [cut, hleft, cutFrom_pass '-' left _ before [] hpass, cutFrom_append, List.append_nil, List.drop_left' (by simp),
    List.reverse_reverse]

/-! ## Lines -/

theorem mem_lines {c : Char} : ∀ {count : Nat} {cs : List Char}, c ∈ lines count cs → c ∈ cs ∨ c = '\n'
  | 0, _, h => by cases h
  | count + 1, cs, h => by
    rw [lines] at h
    split at h
    · cases h
    · rcases List.mem_append.1 h with h | h
      · exact Or.inl (List.mem_of_mem_take h)
      · rcases List.mem_cons.1 h with h | h
        · exact Or.inr h
        · exact (mem_lines h).imp_left List.mem_of_mem_drop

theorem filter_lines : ∀ {count : Nat} {cs : List Char}, cs.length ≤ count * 64 → (∀ c ∈ cs, Blank.isBlank c = false) →
    (lines count cs).filter (!Blank.isBlank ·) = cs
  | 0, cs, hlength, _ => by
    have hnil : cs = [] := List.eq_nil_of_length_eq_zero (by omega)
    rw [hnil]
    rfl
  | count + 1, cs, hlength, h => by
    have hrest : (lines count (cs.drop 64)).filter (!Blank.isBlank ·) = cs.drop 64 :=
      filter_lines (by rw [List.length_drop]; omega) fun c hc => h c (List.mem_of_mem_drop hc)
    have hline : (cs.take 64).filter (!Blank.isBlank ·) = cs.take 64 :=
      List.filter_eq_self.2 fun c hc => by simp [h c (List.mem_of_mem_take hc)]
    rw [lines]
    split
    · next hnil => rw [List.isEmpty_iff.1 hnil]; rfl
    · rw [List.filter_append, List.filter_cons_of_neg (by decide), hline, hrest, List.take_append_drop]

theorem cutFrom_lines : ∀ {count : Nat} {cs : List Char}, '\n' ∉ cs → ∀ left passed : List Char,
    cutFrom ['\n', '\n'] (lines count cs) ('\n' :: left) passed = none
  | 0, _, _, _, _ => rfl
  | count + 1, [], _, _, _ => rfl
  | count + 1, c :: cs, h, left, passed => by
    have hc : c ≠ '\n' := fun heq => h (heq ▸ List.mem_cons_self)
    have hline (d : Char) (hd : d ∈ cs.take 63) : d ≠ '\n' :=
      fun heq => h (List.mem_cons_of_mem _ (heq ▸ List.mem_of_mem_take hd))
    have hrest : '\n' ∉ cs.drop 63 := fun hmem => h (List.mem_cons_of_mem _ (List.mem_of_mem_drop hmem))
    show cutFrom _ (c :: (cs.take 63 ++ '\n' :: lines count (cs.drop 63))) _ _ = none
    rw [cutFrom, if_neg hc, cutFrom_pass _ _ _ _ _ hline, cutFrom, if_pos rfl, cutFrom_lines hrest]

/-! ## Blocks -/

open Base64 (IsPlain)

theorem isLineBlank_of_plain {c : Char} (h : IsPlain c) : isLineBlank c = false := by
  rw [← Bool.not_eq_true]
  intro hblank
  have : Blank.isBlank c = true := by
    simp only [isLineBlank, Bool.or_eq_true, beq_iff_eq] at hblank
    rcases hblank with ((rfl | rfl) | rfl) | rfl <;> rfl
  rw [h.not_blank] at this
  cases this

section

variable {count : Nat} {cs : List Char} (h : ∀ c ∈ cs, IsPlain c)

include h

theorem ne_of_mem_lines {d : Char} (hd : ¬IsPlain d) (hne : d ≠ '\n') : ∀ c ∈ lines count cs, c ≠ d := by
  rintro c hc rfl
  exact (mem_lines hc).elim (hd ∘ h c) hne

theorem dropWhile_lines (rest : List Char) :
    ('\n' :: (lines count cs ++ '-' :: rest)).dropWhile isLineBlank = lines count cs ++ '-' :: rest := by
  rw [List.dropWhile_cons_of_pos rfl]
  cases count with
  | zero => rfl
  | succ count =>
    cases cs with
    | nil => rfl
    | cons c cs =>
      have hc := isLineBlank_of_plain (h c List.mem_cons_self)
      exact List.dropWhile_cons_of_neg (by simp [hc])

theorem headersAndData_lines : headersAndData (lines count cs) = ([], lines count cs) := by
  have hfeed : '\n' ∉ cs := fun hmem => absurd (h _ hmem).1 (by decide)
  have hreturn : ∀ c ∈ lines count cs, c ≠ '\r' :=
    ne_of_mem_lines h (fun hplain => absurd hplain.1 (by decide)) (by decide)
  have hfirst : cut "\n\n" (lines count cs) = none := cutFrom_lines hfeed ['\n'] []
  have hsecond : cut "\r\n\r\n" (lines count cs) = none := by
    have hpass := cutFrom_pass '\r' ['\n', '\r', '\n'] [] (lines count cs) [] hreturn
    rw [List.append_nil] at hpass
    exact hpass
  rw [headersAndData, hfirst, hsecond]
  rfl

end

def Block.body (b : Block) : List Char :=
  lines (Base64.encode b.contents).length (Base64.encode b.contents)

theorem Block.write_eq (b : Block) : b.write = "-----BEGIN ".toList ++ (b.label.toList ++ ("-----".toList ++
    '\n' :: (b.body ++ ("-----END ".toList ++ (b.label.toList ++ ("-----".toList ++ ['\n'])))))) := by
  have hend : "-----\n".toList = "-----".toList ++ ['\n'] := by decide
  unfold write body
  simp only [hend, List.append_assoc, List.cons_append, List.nil_append]

theorem Block.plain (b : Block) : ∀ c ∈ Base64.encode b.contents, IsPlain c :=
  fun _ => Base64.isPlain_of_mem_encode

theorem parts?_write {b : Block} (hdash : '-' ∉ b.label.toList) :
    parts? b.write = some ⟨b.label.toList, b.body, b.label.toList⟩ := by
  have hbody : '-' ∉ b.body := fun hmem => ne_of_mem_lines b.plain (fun h => h.2.2 rfl) (by decide) _ hmem rfl
  have hlast := cut_append "-----" rfl hdash ['\n']
  have hmiddle := cut_append "-----END " rfl hbody (b.label.toList ++ ("-----".toList ++ ['\n']))
  have hdrop : ('\n' :: (b.body ++ ("-----END ".toList ++ (b.label.toList ++ ("-----".toList ++ ['\n']))))).dropWhile
      isLineBlank = b.body ++ ("-----END ".toList ++ (b.label.toList ++ ("-----".toList ++ ['\n']))) :=
    dropWhile_lines b.plain _
  have hlabel := cut_append "-----" rfl hdash
    ('\n' :: (b.body ++ ("-----END ".toList ++ (b.label.toList ++ ("-----".toList ++ ['\n'])))))
  have hfirst := cut_append "-----BEGIN " rfl List.not_mem_nil (b.label.toList ++ ("-----".toList ++
    '\n' :: (b.body ++ ("-----END ".toList ++ (b.label.toList ++ ("-----".toList ++ ['\n']))))))
  rw [List.nil_append] at hfirst
  rw [parts?, b.write_eq, hfirst]
  simp only [Option.bind_eq_bind, Option.bind_some]
  rw [hlabel]
  simp only [Option.bind_some]
  rw [hdrop, hmiddle]
  simp only [Option.bind_some]
  rw [hlast]
  rfl

/-- **The written form of a block is read as that block.** -/
theorem parse_write {b : Block} (hlabel : b.label ≠ "") (hdash : '-' ∉ b.label.toList) : parse b.write = .ok b := by
  have hdata : b.body.filter (!Blank.isBlank ·) = Base64.encode b.contents :=
    filter_lines (by omega) fun c hc => (b.plain c hc).not_blank
  have hheaders : headersAndData b.body = ([], b.body) := headersAndData_lines b.plain
  have hnonempty : b.label.toList.isEmpty = false := by simpa using hlabel
  rw [parse, parts?_write hdash]
  dsimp only
  rw [hheaders, hnonempty]
  dsimp only
  rw [hdata, Base64.decode?_encode]
  simp [splitLines]
  rfl

end PseudonymStore.Pem
