import PseudonymStore.Text.Utf8
/-!
# UTF-8 reads back what it writes

The bytes of a text decode to its characters and nothing else (`decode_utf8`), byte strings are ordered as the texts
that they spell (`utf8_lt_utf8_iff`), and a byte of zero stands for the character zero only (`zero_mem_utf8_iff`).
-/
namespace PseudonymStore

namespace Utf8

theorem char_bounds (c : Char) : c.toNat < 0xD800 ∨ 0xDFFF < c.toNat ∧ c.toNat < 0x110000 := by
  have := c.valid
  simpa [UInt32.isValidChar, Nat.isValidChar] using this

theorem toNat_byte {n : Nat} (h : n < 256) : (UInt8.ofNat n).toNat = n := by
  simp [Nat.mod_eq_of_lt h]

theorem continued_cons {lo hi : UInt8} {n : Nat} (hn : n < 256) (hlo : lo.toNat ≤ n) (hhi : n ≤ hi.toNat)
    (count value seen : Nat) (bs : Bytes) :
    continued (count + 1) lo hi value seen (UInt8.ofNat n :: bs) =
      continued count 0x80 0xBF (value * 64 + n % 64) (seen + 1) bs := by
  have h : lo ≤ UInt8.ofNat n ∧ UInt8.ofNat n ≤ hi := by
    rw [UInt8.le_iff_toNat_le, UInt8.le_iff_toNat_le, toNat_byte hn]
    exact ⟨hlo, hhi⟩
  rw [continued, if_pos h, toNat_byte hn]

theorem lt_byte_iff {n : Nat} (hn : n < 256) (b : UInt8) : UInt8.ofNat n < b ↔ n < b.toNat := by
  rw [UInt8.lt_iff_toNat_lt, toNat_byte hn]

theorem byte_eq_iff {n : Nat} (hn : n < 256) (b : UInt8) : UInt8.ofNat n = b ↔ n = b.toNat := by
  rw [← UInt8.toNat_inj, toNat_byte hn]

/-! ## Fronts by the number of bytes -/

theorem front_one {v : Nat} (h : v < 0x80) (bs : Bytes) : front (UInt8.ofNat v) bs = .char (.ofNat v) 0 := by
  rw [front, if_pos ((lt_byte_iff (by omega) _).2 (by simpa using h)), toNat_byte (by omega)]

theorem front_two {v : Nat} (hlo : 0x80 ≤ v) (hhi : v < 0x800) (bs : Bytes) :
    front (UInt8.ofNat (v / 64 % 0x20 + 0xc0)) (UInt8.ofNat (v % 0x40 + 0x80) :: bs) = .char (.ofNat v) 1 := by
  have h256 : v / 64 % 0x20 + 0xc0 < 256 := by omega
  have hvalue : (v / 64 % 32 + 192) % 32 * 64 + (v % 64 + 128) % 64 = v := by omega
  simp only [front, lt_byte_iff h256, toNat_byte h256]
  rw [if_neg (by simp), if_neg (by simp; omega), if_pos (by simp; omega),
    continued_cons (by omega) (by simp) (by simp; omega), continued, hvalue]

theorem front_three {v : Nat} (hlo : 0x800 ≤ v) (hhi : v < 0x10000) (hchar : v < 0xD800 ∨ 0xDFFF < v) (bs : Bytes) :
    front (UInt8.ofNat (v / 4096 % 0x10 + 0xe0))
      (UInt8.ofNat (v / 64 % 0x40 + 0x80) :: UInt8.ofNat (v % 0x40 + 0x80) :: bs) = .char (.ofNat v) 2 := by
  have h256 : v / 4096 % 0x10 + 0xe0 < 256 := by omega
  have hvalue : ((v / 4096 % 16 + 224) % 16 * 64 + (v / 64 % 64 + 128) % 64) * 64 + (v % 64 + 128) % 64 = v := by omega
  simp only [front, lt_byte_iff h256, toNat_byte h256, byte_eq_iff h256]
  rw [if_neg (by simp), if_neg (by simp), if_neg (by simp), if_pos (by simp; omega)]
  -- The second byte has bounds of its own after a lead byte that could begin an overlong form or a surrogate.
  rw [continued_cons (by omega) (by split <;> simp at *; omega) (by split <;> (simp at *; omega)),
    continued_cons (by omega) (by simp) (by simp; omega), continued, hvalue]

theorem front_four {v : Nat} (hlo : 0x10000 ≤ v) (hhi : v < 0x110000) (bs : Bytes) :
    front (UInt8.ofNat (v / 262144 % 0x08 + 0xf0))
      (UInt8.ofNat (v / 4096 % 0x40 + 0x80) :: UInt8.ofNat (v / 64 % 0x40 + 0x80) :: UInt8.ofNat (v % 0x40 + 0x80) ::
        bs) = .char (.ofNat v) 3 := by
  have h256 : v / 262144 % 0x08 + 0xf0 < 256 := by omega
  have hvalue : (((v / 262144 % 8 + 240) % 8 * 64 + (v / 4096 % 64 + 128) % 64) * 64 + (v / 64 % 64 + 128) % 64) * 64 +
      (v % 64 + 128) % 64 = v := by omega
  simp only [front, lt_byte_iff h256, toNat_byte h256, byte_eq_iff h256]
  rw [if_neg (by simp), if_neg (by simp), if_neg (by simp), if_neg (by simp), if_pos (by simp; omega)]
  rw [continued_cons (by omega) (by split <;> simp at *; omega) (by split <;> (simp at *; omega)),
    continued_cons (by omega) (by simp) (by simp; omega), continued_cons (by omega) (by simp) (by simp; omega),
    continued, hvalue]

/-- **A character's bytes decode to it**, whatever follows. -/
theorem decodeFrom_utf8EncodeChar (c : Char) (bs : Bytes) :
    decodeFrom 0 (String.utf8EncodeChar c ++ bs) = some c :: decodeFrom 0 bs := by
  have hc := char_bounds c
  have hback : Char.ofNat c.toNat = c := Char.ofNat_toNat c
  unfold String.utf8EncodeChar
  rw [show c.val.toNat = c.toNat from rfl]
  generalize c.toNat = v at hc hback
  dsimp only
  split
  · have hfront := front_one (v := v) (by omega) bs
    simp only [List.cons_append, List.nil_append, decodeFrom, hfront, hback]
  split
  · have hfront := front_two (v := v) (by omega) (by omega) bs
    simp only [List.cons_append, List.nil_append, decodeFrom, hfront, hback]
  split
  · have hfront := front_three (v := v) (by omega) (by omega) (by omega) bs
    simp only [List.cons_append, List.nil_append, decodeFrom, hfront, hback]
  · have hfront := front_four (v := v) (by omega) (by omega) bs
    simp only [List.cons_append, List.nil_append, decodeFrom, hfront, hback]

theorem decodeFrom_flatMap : ∀ (cs : List Char) (bs : Bytes),
    decodeFrom 0 (cs.flatMap String.utf8EncodeChar ++ bs) = cs.map some ++ decodeFrom 0 bs
  | [], bs => rfl
  | c :: cs, bs => by
    rw [List.flatMap_cons, List.append_assoc, decodeFrom_utf8EncodeChar, decodeFrom_flatMap cs bs]
    rfl

theorem decode_utf8 (s : String) : decode (utf8 s) = s.toList.map some := by
  have := decodeFrom_flatMap s.toList []
  rwa [List.append_nil, decodeFrom, List.append_nil] at this

@[simp] theorem decode?_utf8 (s : String) : decode? (utf8 s) = some s := by
  have hall : (s.toList.map some).all Option.isSome = true := by simp
  have hmap : (s.toList.map some).filterMap id = s.toList := by simp
  rw [decode?, decode_utf8, hall, hmap]
  simp

theorem firstProblemFrom_eq_none_iff : ∀ (index skip : Nat) (bs : Bytes),
    firstProblemFrom index skip bs = none ↔ (decodeFrom skip bs).all Option.isSome = true
  | _, _, [] => by simp [firstProblemFrom, decodeFrom]
  | index, skip + 1, _ :: bs => firstProblemFrom_eq_none_iff (index + 1) skip bs
  | index, 0, b :: bs => by
    rw [firstProblemFrom, decodeFrom]
    cases front b bs with
    | char c following => simpa using firstProblemFrom_eq_none_iff (index + 1) following bs
    | invalid length => simp
    | incomplete => simp

theorem firstProblem_utf8 (s : String) : firstProblem (utf8 s) = none := by
  rw [firstProblem, firstProblemFrom_eq_none_iff, ← decode, decode_utf8]
  simp

theorem utf8_inj {s t : String} : utf8 s = utf8 t ↔ s = t := by
  refine ⟨fun h => ?_, fun h => h ▸ rfl⟩
  have := decode?_utf8 s
  rw [h, decode?_utf8] at this
  exact (Option.some.inj this).symm

/-! ## Order -/

theorem cons_ofNat_lt {n m : Nat} (hn : n < 256) (hm : m < 256) (xs ys : Bytes) :
    UInt8.ofNat n :: xs < UInt8.ofNat m :: ys ↔ n < m ∨ n = m ∧ xs < ys := by
  rw [List.cons_lt_cons_iff, lt_byte_iff hn, byte_eq_iff hn, toNat_byte hm]

theorem cons_ofNat_lt_of_lt {n m : Nat} (h : n < m) (hm : m < 256) (xs ys : Bytes) :
    UInt8.ofNat n :: xs < UInt8.ofNat m :: ys :=
  (cons_ofNat_lt (Nat.lt_trans h hm) hm xs ys).2 (Or.inl h)

theorem two_lt {v w : Nat} (h : v < w) (hw : w < 0x800) (xs ys : Bytes) :
    UInt8.ofNat (v / 64 % 0x20 + 0xc0) :: UInt8.ofNat (v % 0x40 + 0x80) :: xs <
      UInt8.ofNat (w / 64 % 0x20 + 0xc0) :: UInt8.ofNat (w % 0x40 + 0x80) :: ys := by
  rw [cons_ofNat_lt (by omega) (by omega), cons_ofNat_lt (by omega) (by omega)]
  omega

theorem three_lt {v w : Nat} (h : v < w) (hw : w < 0x10000) (xs ys : Bytes) :
    UInt8.ofNat (v / 4096 % 0x10 + 0xe0) :: UInt8.ofNat (v / 64 % 0x40 + 0x80) :: UInt8.ofNat (v % 0x40 + 0x80) :: xs <
      UInt8.ofNat (w / 4096 % 0x10 + 0xe0) :: UInt8.ofNat (w / 64 % 0x40 + 0x80) :: UInt8.ofNat (w % 0x40 + 0x80) ::
        ys := by
  rw [cons_ofNat_lt (by omega) (by omega), cons_ofNat_lt (by omega) (by omega), cons_ofNat_lt (by omega) (by omega)]
  omega

theorem digits_lt {v₁ v₂ v₃ v₄ w₁ w₂ w₃ w₄ : Nat} (hv₂ : v₂ < 64) (hv₃ : v₃ < 64) (hv₄ : v₄ < 64) (hw₂ : w₂ < 64)
    (hw₃ : w₃ < 64) (hw₄ : w₄ < 64) (h : ((v₁ * 64 + v₂) * 64 + v₃) * 64 + v₄ < ((w₁ * 64 + w₂) * 64 + w₃) * 64 + w₄) :
    v₁ < w₁ ∨ v₁ = w₁ ∧ (v₂ < w₂ ∨ v₂ = w₂ ∧ (v₃ < w₃ ∨ v₃ = w₃ ∧ v₄ < w₄)) := by
  omega

theorem four_lt {v w : Nat} (h : v < w) (hw : w < 0x110000) (xs ys : Bytes) :
    UInt8.ofNat (v / 262144 % 0x08 + 0xf0) :: UInt8.ofNat (v / 4096 % 0x40 + 0x80) :: UInt8.ofNat (v / 64 % 0x40 + 0x80) ::
        UInt8.ofNat (v % 0x40 + 0x80) :: xs <
      UInt8.ofNat (w / 262144 % 0x08 + 0xf0) :: UInt8.ofNat (w / 4096 % 0x40 + 0x80) ::
        UInt8.ofNat (w / 64 % 0x40 + 0x80) :: UInt8.ofNat (w % 0x40 + 0x80) :: ys := by
  have hdigits (n : Nat) (hn : n < 0x110000) :
      ((n / 262144 % 8 * 64 + n / 4096 % 64) * 64 + n / 64 % 64) * 64 + n % 64 = n := by omega
  rw [← hdigits v (by omega), ← hdigits w hw] at h
  have hmod (n : Nat) : n % 64 < 64 := Nat.mod_lt n (by decide)
  have hlex := digits_lt (hmod _) (hmod _) (hmod _) (hmod _) (hmod _) (hmod _) h
  rw [cons_ofNat_lt (by omega) (by omega), cons_ofNat_lt (by omega) (by omega), cons_ofNat_lt (by omega) (by omega),
    cons_ofNat_lt (by omega) (by omega)]
  simp only [Nat.add_lt_add_iff_right, Nat.add_right_cancel_iff]
  rcases hlex with h₁ | ⟨h₁, h₂ | ⟨h₂, h₃ | ⟨h₃, h₄⟩⟩⟩
  · exact Or.inl h₁
  · exact Or.inr ⟨h₁, Or.inl h₂⟩
  · exact Or.inr ⟨h₁, Or.inr ⟨h₂, Or.inl h₃⟩⟩
  · exact Or.inr ⟨h₁, Or.inr ⟨h₂, Or.inr ⟨h₃, Or.inl h₄⟩⟩⟩

theorem utf8EncodeChar_append_lt {c d : Char} (h : c < d) (xs ys : Bytes) :
    String.utf8EncodeChar c ++ xs < String.utf8EncodeChar d ++ ys := by
  have hc := char_bounds c
  have hd := char_bounds d
  have hlt : c.toNat < d.toNat := h
  unfold String.utf8EncodeChar
  rw [show c.val.toNat = c.toNat from rfl, show d.val.toNat = d.toNat from rfl]
  generalize c.toNat = v at hc hlt
  generalize d.toNat = w at hd hlt
  dsimp only
  -- Where the numbers of bytes differ, the first bytes decide.
  split
  · split
    · exact cons_ofNat_lt_of_lt (by omega) (by omega) _ _
    split
    · exact cons_ofNat_lt_of_lt (by omega) (by omega) _ _
    split <;> exact cons_ofNat_lt_of_lt (by omega) (by omega) _ _
  split
  · rw [if_neg (by omega)]
    split
    · exact two_lt hlt (by omega) xs ys
    split <;> exact cons_ofNat_lt_of_lt (by omega) (by omega) _ _
  split
  · rw [if_neg (by omega), if_neg (by omega)]
    split
    · exact three_lt hlt (by omega) xs ys
    · exact cons_ofNat_lt_of_lt (by omega) (by omega) _ _
  · rw [if_neg (by omega), if_neg (by omega), if_neg (by omega)]
    exact four_lt hlt (by omega) xs ys

theorem flatMap_lt_of_lt : ∀ {cs ds : List Char}, cs < ds →
    cs.flatMap String.utf8EncodeChar < ds.flatMap String.utf8EncodeChar
  | _, [], h => absurd h (List.not_lt_nil _)
  | [], d :: ds, _ => by
    obtain ⟨b, bs, hb⟩ := List.exists_cons_of_length_pos (l := String.utf8EncodeChar d) (by simp [Char.utf8Size_pos])
    rw [List.flatMap_cons, hb]
    exact List.nil_lt_cons _ _
  | c :: cs, d :: ds, h => by
    rw [List.flatMap_cons, List.flatMap_cons]
    rcases List.cons_lt_cons_iff.1 h with hlt | ⟨rfl, hlt⟩
    · exact utf8EncodeChar_append_lt hlt _ _
    · exact List.append_left_lt (flatMap_lt_of_lt hlt)

/-- **Byte strings of texts are ordered as the texts.** -/
theorem utf8_lt_utf8_iff {s t : String} : utf8 s < utf8 t ↔ s < t := by
  refine ⟨fun h => ?_, fun h => flatMap_lt_of_lt (String.lt_iff.1 h)⟩
  by_cases hts : t < s
  · exact absurd h (List.lt_asymm (flatMap_lt_of_lt (String.lt_iff.1 hts)))
  · by_cases hst : s < t
    · exact hst
    · rw [Std.Trichotomous.trichotomous (r := (· < · : String → String → Prop)) s t hst hts] at h
      exact absurd h (List.lt_irrefl _)

/-! ## The byte of zero -/

theorem zero_mem_utf8EncodeChar_iff (c : Char) : 0 ∈ String.utf8EncodeChar c ↔ c = '\x00' := by
  have hc := char_bounds c
  rw [← Char.toNat_inj]
  unfold String.utf8EncodeChar
  rw [show c.val.toNat = c.toNat from rfl]
  generalize c.toNat = v at hc
  dsimp only
  have zero {n : Nat} (hn : n < 256) : (0 : UInt8) = UInt8.ofNat n ↔ n = 0 := by
    rw [eq_comm, byte_eq_iff hn]
    rfl
  split
  · rw [List.mem_singleton, zero (by omega)]
    rfl
  split
  · simp only [List.mem_cons, List.not_mem_nil, or_false, Char.reduceToNat]
    rw [zero (by omega), zero (by omega)]
    omega
  split
  · simp only [List.mem_cons, List.not_mem_nil, or_false, Char.reduceToNat]
    rw [zero (by omega), zero (by omega), zero (by omega)]
    omega
  · simp only [List.mem_cons, List.not_mem_nil, or_false, Char.reduceToNat]
    rw [zero (by omega), zero (by omega), zero (by omega), zero (by omega)]
    omega

theorem zero_mem_utf8_iff (s : String) : 0 ∈ utf8 s ↔ '\x00' ∈ s.toList := by
  simp only [utf8, List.mem_flatMap, zero_mem_utf8EncodeChar_iff]
  exact ⟨fun ⟨c, hc, h⟩ => h ▸ hc, fun h => ⟨_, h, rfl⟩⟩

end Utf8

end PseudonymStore
