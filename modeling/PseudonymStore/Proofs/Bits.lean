import PseudonymStore.Bytes
import Mathlib.Data.Fintype.Vector
import Mathlib.Data.List.Induction
import Mathlib.SetTheory.Cardinal.Finite
import Mathlib.Tactic.Ring
/-!
# Bits

Values of a fixed width spell bits, the most significant of each first, and bits tell the values that spell them
(`Bits.spell_inj`, `Bits.exists_spell_eq`).  So byte strings are counted by their bits: of those with a given beginning
there are as many as ways to go on (`Bytes.card_bits_take`).
-/
namespace PseudonymStore

namespace Bits

def ofNat : (width : Nat) → Nat → List Bool
  | 0, _ => []
  | width + 1, n => ofNat width (n / 2) ++ [n % 2 == 1]

/-- The bits of values of one width, one after the other. -/
def spell (width : Nat) (values : List Nat) : List Bool :=
  values.flatMap (ofNat width)

@[simp] theorem length_ofNat (width n : Nat) : (ofNat width n).length = width := by
  induction width generalizing n with
  | zero => rfl
  | succ width ih => simp [ofNat, ih]

theorem ofNat_inj : ∀ {width n m : Nat}, n < 2 ^ width → m < 2 ^ width → ofNat width n = ofNat width m → n = m
  | 0, n, m, hn, hm, _ => by
    rw [Nat.pow_zero] at hn hm
    omega
  | width + 1, n, m, hn, hm, h => by
    rw [Nat.pow_succ] at hn hm
    obtain ⟨hhigh, hlow⟩ := List.append_inj h (by simp)
    have hhigh : n / 2 = m / 2 := ofNat_inj (by omega) (by omega) hhigh
    have hlow : (n % 2 == 1) = (m % 2 == 1) := (List.cons.inj hlow).1
    rw [Bool.eq_iff_iff, beq_iff_eq, beq_iff_eq] at hlow
    omega

theorem ofNat_append (width n : Nat) : ∀ {low m : Nat}, m < 2 ^ low →
    ofNat width n ++ ofNat low m = ofNat (width + low) (n * 2 ^ low + m)
  | 0, m, hm => by
    rw [Nat.pow_zero] at hm ⊢
    rw [ofNat, List.append_nil, Nat.add_zero, show m = 0 by omega, Nat.mul_one, Nat.add_zero]
  | low + 1, m, hm => by
    -- The last bit is that of `m` on either side; the ones before it are those of half the number.
    rw [Nat.pow_succ] at hm
    have hsplit : n * 2 ^ (low + 1) = 2 * (n * 2 ^ low) := by ring
    have hhigh : (n * 2 ^ (low + 1) + m) / 2 = n * 2 ^ low + m / 2 := by omega
    have hlow : (n * 2 ^ (low + 1) + m) % 2 = m % 2 := by omega
    rw [ofNat, ← List.append_assoc, ofNat_append width n (by omega), ← Nat.add_assoc, ofNat, hhigh, hlow]

theorem exists_ofNat_eq (bits : List Bool) : ∃ n < 2 ^ bits.length, ofNat bits.length n = bits := by
  induction bits using List.reverseRecOn with
  | nil => exact ⟨0, Nat.one_pos, rfl⟩
  | append_singleton bits bit ih =>
    obtain ⟨n, hn, hbits⟩ := ih
    have hhigh : (2 * n + bit.toNat) / 2 = n := by cases bit <;> simp; omega
    have hlow : ((2 * n + bit.toNat) % 2 == 1) = bit := by cases bit <;> simp
    have hbit : bit.toNat < 2 := bit.toNat_lt
    refine ⟨2 * n + bit.toNat, ?_, ?_⟩
    · rw [List.length_append, List.length_singleton, Nat.pow_succ]
      omega
    · rw [List.length_append, List.length_singleton, ofNat, hhigh, hlow, hbits]

theorem spell_cons (width value : Nat) (values : List Nat) :
    spell width (value :: values) = ofNat width value ++ spell width values :=
  List.flatMap_cons

@[simp] theorem length_spell (width : Nat) (values : List Nat) : (spell width values).length = width * values.length := by
  induction values with
  | nil => rfl
  | cons value values ih =>
    rw [spell_cons, List.length_append, length_ofNat, ih, List.length_cons]
    ring

theorem spell_inj {width : Nat} : ∀ {xs ys : List Nat}, xs.length = ys.length → (∀ x ∈ xs, x < 2 ^ width) →
    (∀ y ∈ ys, y < 2 ^ width) → (spell width xs = spell width ys ↔ xs = ys)
  | [], [], _, _, _ => by simp
  | x :: xs, y :: ys, hlength, hx, hy => by
    have ih : spell width xs = spell width ys ↔ xs = ys := spell_inj (Nat.succ.inj hlength)
      (fun v hv => hx v (List.mem_cons_of_mem _ hv)) fun v hv => hy v (List.mem_cons_of_mem _ hv)
    refine ⟨fun h => ?_, fun h => h ▸ rfl⟩
    rw [spell_cons, spell_cons] at h
    obtain ⟨hfirst, hrest⟩ := List.append_inj h (by simp)
    rw [ofNat_inj (hx x List.mem_cons_self) (hy y List.mem_cons_self) hfirst, ih.1 hrest]

theorem exists_spell_eq (width : Nat) : ∀ (count : Nat) {bits : List Bool}, bits.length = width * count →
    ∃ values : List Nat, values.length = count ∧ (∀ v ∈ values, v < 2 ^ width) ∧ spell width values = bits
  | 0, bits, h => ⟨[], rfl, fun _ hv => absurd hv List.not_mem_nil, (List.eq_nil_of_length_eq_zero h).symm⟩
  | count + 1, bits, h => by
    rw [Nat.mul_succ] at h
    have htake : (bits.take width).length = width := by
      rw [List.length_take]
      omega
    obtain ⟨value, hlt, hvalue⟩ := exists_ofNat_eq (bits.take width)
    rw [htake] at hlt hvalue
    have hdrop : (bits.drop width).length = width * count := by
      rw [List.length_drop]
      omega
    obtain ⟨values, hcount, hvalues, hspell⟩ := exists_spell_eq width count hdrop
    refine ⟨value :: values, by rw [List.length_cons, hcount], ?_, ?_⟩
    · rintro v (_ | ⟨_, hv⟩)
      · exact hlt
      · exact hvalues v hv
    · rw [spell_cons, hvalue, hspell, List.take_append_drop]

theorem spell_take (width count : Nat) (values : List Nat) :
    spell width (values.take count) = (spell width values).take (width * count) := by
  induction values generalizing count with
  | nil => simp [spell]
  | cons value values ih =>
    cases count with
    | zero => simp [spell]
    | succ count =>
      have hvalue : (ofNat width value).take (width * count + width) = ofNat width value :=
        List.take_of_length_le (by simp)
      rw [List.take_succ_cons, spell_cons, spell_cons, ih, Nat.mul_succ, List.take_append, hvalue, length_ofNat,
        Nat.add_sub_cancel]

end Bits

namespace Bytes

def bits (bs : Bytes) : List Bool :=
  Bits.spell 8 (bs.map UInt8.toNat)

@[simp] theorem length_bits (bs : Bytes) : bs.bits.length = 8 * bs.length := by
  rw [bits, Bits.length_spell, List.length_map]

theorem lt_of_mem_map_toNat {bs : Bytes} : ∀ v ∈ bs.map UInt8.toNat, v < 2 ^ 8 := by
  intro v hv
  obtain ⟨b, -, rfl⟩ := List.mem_map.1 hv
  exact b.toNat_lt

theorem bits_inj {bs cs : Bytes} (h : bs.length = cs.length) : bs.bits = cs.bits ↔ bs = cs := by
  have hmap : bs.map UInt8.toNat = cs.map UInt8.toNat ↔ bs = cs :=
    List.map_inj_right fun _ _ => UInt8.toNat_inj.1
  rw [bits, bits, Bits.spell_inj (by simpa using h) lt_of_mem_map_toNat lt_of_mem_map_toNat, hmap]

theorem exists_bits_eq {length : Nat} {bits : List Bool} (h : bits.length = 8 * length) :
    ∃ bs : Bytes, bs.length = length ∧ bs.bits = bits := by
  obtain ⟨values, hcount, hvalues, rfl⟩ := Bits.exists_spell_eq 8 length h
  have hback : (values.map UInt8.ofNat).map UInt8.toNat = values := by
    rw [List.map_map]
    exact (List.map_congr_left fun v hv => UInt8.toNat_ofNat_of_lt' (hvalues v hv)).trans (List.map_id' values)
  exact ⟨values.map UInt8.ofNat, by rw [List.length_map, hcount], by rw [Bytes.bits, hback]⟩

def bitsFrom {length : Nat} (count : Nat) (bs : { bs : Bytes // bs.length = length }) :
    List.Vector Bool (8 * length - count) :=
  ⟨bs.val.bits.drop count, by rw [List.length_drop, length_bits, bs.property]⟩

/-- **Byte strings that begin alike are told by how they go on**, and they can go on in any way. -/
theorem bitsFrom_bijective {length : Nat} {first : List Bool} (h : first.length ≤ 8 * length) :
    Function.Bijective fun bs : { bs : { bs : Bytes // bs.length = length } // bs.val.bits.take first.length = first } =>
      bitsFrom first.length bs.val := by
  constructor
  · rintro ⟨⟨bs, hbs⟩, hfirst⟩ ⟨⟨cs, hcs⟩, hfirst'⟩ heq
    have hdrop : bs.bits.drop first.length = cs.bits.drop first.length := congrArg Subtype.val heq
    have hbits : bs.bits = cs.bits := by
      rw [← List.take_append_drop first.length bs.bits, ← List.take_append_drop first.length cs.bits, hdrop]
      exact congrArg (· ++ _) (hfirst.trans hfirst'.symm)
    exact Subtype.ext (Subtype.ext ((bits_inj (hbs.trans hcs.symm)).1 hbits))
  · rintro ⟨left, hleft⟩
    have hall : (first ++ left).length = 8 * length := by
      rw [List.length_append, hleft]
      omega
    obtain ⟨bs, hlength, hbits⟩ := exists_bits_eq hall
    refine ⟨⟨⟨bs, hlength⟩, ?_⟩, Subtype.ext ?_⟩
    · show bs.bits.take first.length = first
      rw [hbits, List.take_left]
    · show bs.bits.drop first.length = left
      rw [hbits, List.drop_left]

/-- **Byte strings are counted by the bits that are left**, of all those whose bits begin in one way. -/
theorem card_bits_take {length : Nat} {first : List Bool} (h : first.length ≤ 8 * length) :
    Nat.card { bs : { bs : Bytes // bs.length = length } // bs.val.bits.take first.length = first } =
      2 ^ (8 * length - first.length) := by
  rw [Nat.card_eq_of_bijective _ (bitsFrom_bijective h), Nat.card_eq_fintype_card, card_vector, Fintype.card_bool]

end Bytes

end PseudonymStore
