import PseudonymStore.Format.Base64
import PseudonymStore.Text.Pieces
import Mathlib.Data.List.GetD
import Mathlib.Data.Option.Basic
/-!
# Base64 read back

The padded Base64 of bytes is read as those bytes (`decode?_encode`), and is made of digits and padding only, so that no
blank or dash is in it (`isPlain_of_mem_encode`).  The unpadded form has as many digits as the bytes take
(`length_encodeUrl`), all of the alphabet that is safe in addresses.
-/
namespace PseudonymStore.Base64

/-! ## Digits -/

@[simp] theorem value?_digit : ∀ value < 64, value? (digit standard value) = some value := by decide +kernel

@[simp] theorem value?_padding : value? '=' = none := by decide +kernel

theorem digit_ne_padding : ∀ value < 64, digit standard value ≠ '=' := by decide +kernel

theorem lt_of_mem_sextets : ∀ {bs : Bytes}, ∀ value ∈ sextets bs, value < 64
  | [], value, h => by cases h
  | [a], value, h => by
    have := a.toNat_lt
    simp only [sextets, List.mem_cons, List.not_mem_nil, or_false] at h
    omega
  | [a, b], value, h => by
    have := a.toNat_lt
    have := b.toNat_lt
    simp only [sextets, List.mem_cons, List.not_mem_nil, or_false] at h
    omega
  | a :: b :: c :: rest, value, h => by
    have := a.toNat_lt
    have := b.toNat_lt
    have := c.toNat_lt
    simp only [sextets, List.mem_cons] at h
    rcases h with h | h | h | h | h
    · omega
    · omega
    · omega
    · omega
    · exact lt_of_mem_sextets value h

def IsPlain (c : Char) : Prop :=
  0x20 < c.toNat ∧ c.toNat < 0x80 ∧ c ≠ '-'

theorem isPlain_of_mem_encode {bs : Bytes} {c : Char} (h : c ∈ encode bs) : IsPlain c := by
  have hdigit : ∀ value < 64, 0x20 < (digit standard value).toNat ∧ (digit standard value).toNat < 0x80 ∧
      digit standard value ≠ '-' := by
    decide +kernel
  rcases List.mem_append.1 h with h | h
  · obtain ⟨value, hvalue, rfl⟩ := List.mem_map.1 h
    exact hdigit value (lt_of_mem_sextets value hvalue)
  · rw [List.eq_of_mem_replicate h]
    exact ⟨by decide, by decide, by decide⟩

theorem IsPlain.not_blank {c : Char} (h : IsPlain c) : Blank.isBlank c = false := by
  obtain ⟨hlo, hhi, -⟩ := h
  simp only [Blank.isBlank, Bool.or_eq_false_iff, Bool.and_eq_false_iff, decide_eq_false_iff_not, beq_eq_false_iff_ne]
  omega

/-! ## The unpadded form -/

theorem length_sextets : ∀ bs : Bytes, (sextets bs).length = (4 * bs.length + 2) / 3
  | [] => rfl
  | [_] => by simp [sextets]
  | [_, _] => by simp [sextets]
  | a :: b :: c :: rest => by
    have ih := length_sextets rest
    simp only [sextets, List.length_cons]
    omega

theorem length_encodeUrl (bs : Bytes) : (encodeUrl bs).length = (4 * bs.length + 2) / 3 := by
  rw [encodeUrl, List.length_map, length_sextets]

theorem idxOf?_digit_urlSafe : ∀ value < 64, urlSafe.idxOf? (digit urlSafe value) = some value := by decide +kernel

theorem mem_urlSafe_iff {c : Char} : c ∈ urlSafe ↔ ∃ value < 64, digit urlSafe value = c := by
  have hlength : urlSafe.length = 64 := by decide
  rw [List.mem_iff_getElem]
  constructor
  · rintro ⟨i, hi, rfl⟩
    exact ⟨i, hlength ▸ hi, List.getD_eq_getElem urlSafe '=' hi⟩
  · rintro ⟨value, hvalue, rfl⟩
    exact ⟨value, hlength.symm ▸ hvalue, (List.getD_eq_getElem urlSafe '=' _).symm⟩

theorem mem_urlSafe_of_mem_encodeUrl {bs : Bytes} {c : Char} (h : c ∈ encodeUrl bs) : c ∈ urlSafe := by
  obtain ⟨value, hvalue, rfl⟩ := List.mem_map.1 h
  exact mem_urlSafe_iff.2 ⟨value, lt_of_mem_sextets value hvalue, rfl⟩

/-! ## Groups -/

theorem decode?_cons {c₁ c₂ c₃ c₄ : Char} {bytes : Bytes} (h : group? c₁ c₂ c₃ c₄ = some bytes) (rest : List Char) :
    decode? (c₁ :: c₂ :: c₃ :: c₄ :: rest) = (bytes ++ ·) <$> decode? rest := by
  cases rest with
  | nil => simp [decode?, h]
  | cons c cs =>
    rw [decode?, h]
    · cases decode? (c :: cs) <;> rfl
    · exact List.cons_ne_nil c cs

theorem group?_digits (a b c : UInt8) :
    group? (digit standard (a.toNat / 4)) (digit standard (a.toNat % 4 * 16 + b.toNat / 16))
      (digit standard (b.toNat % 16 * 4 + c.toNat / 64)) (digit standard (c.toNat % 64)) = some [a, b, c] := by
  have ha := a.toNat_lt
  have hb := b.toNat_lt
  have hc := c.toNat_lt
  have h₁ : a.toNat / 4 * 4 + (a.toNat % 4 * 16 + b.toNat / 16) / 16 = a.toNat := by omega
  have h₂ : (a.toNat % 4 * 16 + b.toNat / 16) % 16 * 16 + (b.toNat % 16 * 4 + c.toNat / 64) / 4 = b.toNat := by omega
  have h₃ : (b.toNat % 16 * 4 + c.toNat / 64) % 4 * 64 + c.toNat % 64 = c.toNat := by omega
  unfold group?
  rw [value?_digit _ (by omega), value?_digit _ (by omega), value?_digit _ (by omega), value?_digit _ (by omega)]
  show some [UInt8.ofNat _, UInt8.ofNat _, UInt8.ofNat _] = _
  rw [h₁, h₂, h₃, UInt8.ofNat_toNat, UInt8.ofNat_toNat, UInt8.ofNat_toNat]

/-- **The Base64 of bytes is read as those bytes.** -/
theorem decode?_encode : ∀ bs : Bytes, decode? (encode bs) = some bs
  | [] => rfl
  | [a] => by
    have ha := a.toNat_lt
    have hencode : encode [a] = [digit standard (a.toNat / 4), digit standard (a.toNat % 4 * 16), '=', '='] := rfl
    have hleft : a.toNat % 4 * 16 % 16 = 0 := by omega
    have hbyte : a.toNat / 4 * 4 + a.toNat % 4 * 16 / 16 = a.toNat := by omega
    rw [hencode, decode?, group?, lastGroup?, value?_digit _ (by omega), value?_digit _ (by omega)]
    simp only [value?_padding, Option.bind_eq_bind, Option.bind_some, Option.bind_none, Option.none_or, hleft, hbyte,
      UInt8.ofNat_toNat]
    rfl
  | [a, b] => by
    have ha := a.toNat_lt
    have hb := b.toNat_lt
    have hencode : encode [a, b] = [digit standard (a.toNat / 4), digit standard (a.toNat % 4 * 16 + b.toNat / 16),
      digit standard (b.toNat % 16 * 4), '='] := rfl
    have hne := digit_ne_padding (b.toNat % 16 * 4) (by omega)
    have hleft : b.toNat % 16 * 4 % 4 = 0 := by omega
    have h₁ : a.toNat / 4 * 4 + (a.toNat % 4 * 16 + b.toNat / 16) / 16 = a.toNat := by omega
    have h₂ : (a.toNat % 4 * 16 + b.toNat / 16) % 16 * 16 + b.toNat % 16 * 4 / 4 = b.toNat := by omega
    rw [hencode, decode?, group?, lastGroup?, value?_digit _ (by omega), value?_digit _ (by omega),
      value?_digit _ (by omega)]
    simp only [value?_padding, Option.bind_eq_bind, Option.bind_some, Option.bind_none, Option.none_or, if_neg hne, hleft,
      h₁, h₂, UInt8.ofNat_toNat]
    rfl
  | a :: b :: c :: rest => by
    have hpadding : padding (a :: b :: c :: rest) = padding rest := by
      simp only [padding, List.length_cons]
      omega
    have hencode : encode (a :: b :: c :: rest) = digit standard (a.toNat / 4) ::
        digit standard (a.toNat % 4 * 16 + b.toNat / 16) :: digit standard (b.toNat % 16 * 4 + c.toNat / 64) ::
          digit standard (c.toNat % 64) :: encode rest := by
      rw [encode, hpadding]
      rfl
    rw [hencode, decode?_cons (group?_digits a b c), decode?_encode rest]
    rfl

end PseudonymStore.Base64
