import PseudonymStore.Format.Der
import Mathlib.Data.Option.Basic
/-!
# DER read back

The written form of an element whose length fits four bytes is read as that element, before whatever follows
(`read?_element`).  Nothing else is read as it: what is read is the written form of what it is read as (`eq_of_read?`).
-/
namespace PseudonymStore.Der

def Element.bytes (e : Element) : Bytes :=
  element e.tag e.contents

def written (es : List Element) : Bytes :=
  es.flatMap Element.bytes

@[simp] theorem written_nil : written [] = [] := rfl

@[simp] theorem written_cons (e : Element) (es : List Element) : written (e :: es) = e.bytes ++ written es :=
  List.flatMap_cons

@[simp] theorem written_append (es fs : List Element) : written (es ++ fs) = written es ++ written fs :=
  List.flatMap_append

theorem written_eq_nil_iff {es : List Element} : written es = [] ↔ es = [] := by
  cases es with
  | nil => simp
  | cons e es => simp [Element.bytes, element]

/-! ## Lengths -/

theorem readLength?_long {n : Nat} (width : Nat) (hlo : 0 < width) (hhi : width ≤ 4) (hn : n < Nat.pow 256 width)
    (h : lengthBytes n = UInt8.ofNat (0x80 + width) :: Bytes.ofNat width n) (rest : Bytes) :
    readLength? (lengthBytes n ++ rest) = some (n, rest) := by
  have hbyte : (UInt8.ofNat (0x80 + width)).toNat = 0x80 + width := by
    rw [UInt8.toNat_ofNat']
    omega
  have htake : (Bytes.ofNat width n ++ rest).take width = Bytes.ofNat width n := List.take_left' (Bytes.length_ofNat width n)
  have hdrop : (Bytes.ofNat width n ++ rest).drop width = rest := List.drop_left' (Bytes.length_ofNat width n)
  have hsmall : ¬UInt8.ofNat (0x80 + width) < 0x80 := by
    rw [UInt8.lt_iff_toNat_lt, hbyte]
    exact Nat.not_lt.2 (Nat.le_add_right _ _)
  have hlarge : (UInt8.ofNat (0x80 + width) == 0x80 || decide (0x84 < UInt8.ofNat (0x80 + width))) = false := by
    rw [Bool.or_eq_false_iff, beq_eq_false_iff_ne, decide_eq_false_iff_not, UInt8.lt_iff_toNat_lt, Ne, ← UInt8.toNat_inj,
      hbyte]
    constructor
    · show ¬0x80 + width = 0x80
      omega
    · show ¬0x84 < 0x80 + width
      omega
  rw [h, List.cons_append, readLength?, if_neg hsmall, hlarge, hbyte, Nat.add_sub_cancel_left, if_neg Bool.false_ne_true]
  dsimp only
  rw [htake, hdrop, Bytes.toNat_ofNat width n hn, h]
  simp

theorem readLength?_lengthBytes {n : Nat} (h : n < 0x100000000) (rest : Bytes) :
    readLength? (lengthBytes n ++ rest) = some (n, rest) := by
  by_cases h0 : n < 0x80
  · have hbyte : (UInt8.ofNat n).toNat = n := by
      rw [UInt8.toNat_ofNat']
      omega
    have hsmall : UInt8.ofNat n < 0x80 := by
      rw [UInt8.lt_iff_toNat_lt, hbyte]
      exact h0
    rw [lengthBytes, if_pos h0, List.cons_append, readLength?, if_pos hsmall, hbyte, List.nil_append]
  by_cases h1 : n < 0x100
  · exact readLength?_long 1 (by omega) (by omega) h1 (by rw [lengthBytes, if_neg h0, if_pos h1]; rfl) rest
  by_cases h2 : n < 0x10000
  · refine readLength?_long 2 (by omega) (by omega) h2 ?_ rest
    rw [lengthBytes, if_neg h0, if_neg h1, if_pos h2]
    rfl
  by_cases h3 : n < 0x1000000
  · refine readLength?_long 3 (by omega) (by omega) h3 ?_ rest
    rw [lengthBytes, if_neg h0, if_neg h1, if_neg h2, if_pos h3]
    rfl
  · refine readLength?_long 4 (by omega) (by omega) h ?_ rest
    rw [lengthBytes, if_neg h0, if_neg h1, if_neg h2, if_neg h3]
    rfl

theorem length_lengthBytes_le (n : Nat) : (lengthBytes n).length ≤ 5 := by
  unfold lengthBytes
  repeat' split
  all_goals simp

theorem length_element_le (tag : UInt8) (contents : Bytes) : (element tag contents).length ≤ contents.length + 6 := by
  have hlength := length_lengthBytes_le contents.length
  rw [element, List.cons_append, List.length_cons, List.length_append]
  omega

theorem length_le_length_element (tag : UInt8) (contents : Bytes) : contents.length ≤ (element tag contents).length := by
  rw [element, List.length_append]
  omega

section

variable (tag : UInt8) (contents : Bytes) (htag : knownTag tag = true) (h : contents.length < 0x100000000)

include htag h

/-- **An element is read as it is written**, before whatever follows. -/
theorem read?_element (rest : Bytes) : read? (element tag contents ++ rest) = some (⟨tag, contents⟩, rest) := by
  have hlength := readLength?_lengthBytes h (contents ++ rest)
  rw [element, List.cons_append, List.cons_append, List.append_assoc, read?, htag, hlength]
  simp only [Option.bind_eq_bind, Option.bind_some, List.take_left, List.drop_left, List.length_append, Nat.le_add_right]
  rfl

theorem readTagged?_element (rest : Bytes) : readTagged? tag (element tag contents ++ rest) = some (contents, rest) := by
  rw [readTagged?, read?_element tag contents htag h]
  simp only [Option.bind_eq_bind, Option.bind_some]
  rfl

end

theorem only?_element {tag : UInt8} {contents : Bytes} (htag : knownTag tag = true)
    (hsize : (element tag contents).length < sizeLimit) : only? tag (element tag contents) = some contents := by
  have hlt : contents.length < 0x100000000 :=
    Nat.lt_trans (Nat.lt_of_le_of_lt (length_le_length_element tag contents) hsize) (by decide)
  have hread := readTagged?_element tag contents htag hlt []
  rw [List.append_nil] at hread
  rw [only?, guard, if_pos hsize, hread]
  rfl

theorem only?_eq_none {tag : UInt8} {bs : Bytes} (hsize : sizeLimit ≤ bs.length) : only? tag bs = none := by
  rw [only?, guard, if_neg (Nat.not_lt.2 hsize)]
  rfl

theorem context?_succ (number : UInt8) (fuel : Nat) (e : Element) (rest : Bytes) :
    context? number (fuel + 1) (e.bytes ++ rest) =
      if isContext e.tag && tagNumber e.tag ≤ number then do
        let (found, left) ← read? (e.bytes ++ rest)
        if tagNumber e.tag = number then return (some found, left) else context? number fuel left
      else some (none, e.bytes ++ rest) := rfl

theorem context?_bytes {e : Element} {number : UInt8} (hknown : knownTag e.tag = true)
    (hlt : e.contents.length < 0x100000000) (hcontext : isContext e.tag = true) (hnumber : tagNumber e.tag = number)
    (rest : Bytes) : context? number (e.bytes ++ rest).length (e.bytes ++ rest) = some (some e, rest) := by
  have hread : read? (e.bytes ++ rest) = some (e, rest) := read?_element e.tag e.contents hknown hlt rest
  have hfuel : (e.bytes ++ rest).length = (lengthBytes e.contents.length ++ e.contents ++ rest).length + 1 := rfl
  rw [hfuel, context?_succ, hread, hcontext, hnumber]
  simp

theorem context?_of_lt {number tag : UInt8} (hnumber : number < tagNumber tag) (fuel : Nat) (bs : Bytes) :
    context? number fuel (tag :: bs) = some (none, tag :: bs) := by
  cases fuel with
  | zero => rfl
  | succ fuel => rw [context?, if_neg (by simp [UInt8.not_le.2 hnumber])]

theorem length_le_length_written {e : Element} {es : List Element} (h : e ∈ es) :
    e.contents.length ≤ (written es).length := by
  induction es with
  | nil => cases h
  | cons f es ih =>
    rw [written_cons, List.length_append]
    rcases List.mem_cons.1 h with rfl | h
    · exact Nat.le_trans (length_le_length_element e.tag e.contents) (Nat.le_add_right _ _)
    · exact Nat.le_trans (ih h) (Nat.le_add_left _ _)

/-! ## One written form -/

theorem eq_of_readLength? {bs rest : Bytes} {n : Nat} (h : readLength? bs = some (n, rest)) :
    bs = lengthBytes n ++ rest := by
  cases bs with
  | nil => cases h
  | cons b bs =>
    rw [readLength?] at h
    split at h
    · next hsmall =>
      obtain ⟨rfl, rfl⟩ := Prod.mk.inj (Option.some.inj h)
      have hlt : b.toNat < 0x80 := UInt8.lt_iff_toNat_lt.1 hsmall
      rw [lengthBytes, if_pos hlt, UInt8.ofNat_toNat, List.singleton_append]
    split at h
    · cases h
    dsimp only at h
    split at h
    · next hmatch =>
      obtain ⟨-, hbytes⟩ := Bool.and_eq_true_iff.1 hmatch
      obtain ⟨rfl, rfl⟩ := Prod.mk.inj (Option.some.inj h)
      rw [beq_iff_eq.1 hbytes, List.cons_append, List.take_append_drop]
    · cases h

/-- **What is read is the written form of what it is read as**, and what follows it. -/
theorem eq_of_read? {bs rest : Bytes} {e : Element} (h : read? bs = some (e, rest)) : bs = e.bytes ++ rest := by
  cases bs with
  | nil => cases h
  | cons tag bs =>
    simp only [read?, Option.bind_eq_bind, Option.bind_eq_some_iff, Option.guard_eq_some'] at h
    obtain ⟨-, -, ⟨n, body⟩, hlength, -, hfits, h⟩ := h
    dsimp only at hfits h
    obtain ⟨rfl, rfl⟩ := Prod.mk.inj (Option.some.inj h)
    obtain rfl := eq_of_readLength? hlength
    have hcontents : (body.take n).length = n := by
      rw [List.length_take]
      exact Nat.min_eq_left hfits
    dsimp only [Element.bytes, element]
    rw [hcontents, List.cons_append, List.cons_append, List.append_assoc, List.take_append_drop]

theorem read?_of_readTagged? {tag : UInt8} {bs contents rest : Bytes} (h : readTagged? tag bs = some (contents, rest)) :
    read? bs = some (⟨tag, contents⟩, rest) := by
  simp only [readTagged?, Option.bind_eq_bind, Option.bind_eq_some_iff, Option.guard_eq_some'] at h
  obtain ⟨⟨e, left⟩, hread, -, rfl, h⟩ := h
  obtain ⟨rfl, rfl⟩ := Prod.mk.inj (Option.some.inj h)
  exact hread

theorem eq_of_only? {tag : UInt8} {bs contents : Bytes} (h : only? tag bs = some contents) :
    bs = element tag contents := by
  simp only [only?, Option.bind_eq_bind, Option.bind_eq_some_iff, Option.guard_eq_some'] at h
  obtain ⟨-, -, ⟨found, rest⟩, hread, -, hempty, h⟩ := h
  dsimp only at hempty h
  obtain rfl : found = contents := Option.some.inj h
  rw [eq_of_read? (read?_of_readTagged? hread), List.isEmpty_iff.1 hempty, List.append_nil, Element.bytes]

/-! ## Elements in a row -/

theorem eq_of_read?_bytes {e found : Element} {rest left : Bytes} (hlt : e.contents.length < 0x100000000)
    (h : read? (e.bytes ++ rest) = some (found, left)) : found = e ∧ left = rest := by
  cases hknown : knownTag e.tag with
  | true =>
    rw [Element.bytes, read?_element e.tag e.contents hknown hlt] at h
    obtain ⟨rfl, rfl⟩ := Prod.mk.inj (Option.some.inj h)
    exact ⟨rfl, rfl⟩
  | false =>
    rw [Element.bytes, element, List.cons_append, List.cons_append, read?, hknown] at h
    cases h

/-- **What is passed on the way to a number** are elements with lower ones, and the element with this number, if it comes
next: what is left are the other ones. -/
theorem exists_of_context?_written {number : UInt8} : ∀ {fuel : Nat} {es : List Element} {found : Option Element}
    {rest : Bytes}, (∀ e ∈ es, e.contents.length < 0x100000000) → context? number fuel (written es) = some (found, rest) →
    ∃ passed left, es = passed ++ left ∧ rest = written left ∧
      ∀ e ∈ passed, tagNumber e.tag < number ∨ tagNumber e.tag = number ∧ found = some e
  | 0, es, found, rest, _, h => by
    obtain ⟨rfl, rfl⟩ := Prod.mk.inj (Option.some.inj h)
    exact ⟨[], es, rfl, rfl, fun _ he => absurd he List.not_mem_nil⟩
  | fuel + 1, [], found, rest, _, h => by
    obtain ⟨rfl, rfl⟩ := Prod.mk.inj (Option.some.inj h)
    exact ⟨[], [], rfl, rfl, fun _ he => absurd he List.not_mem_nil⟩
  | fuel + 1, e :: es, found, rest, hlt, h => by
    have hread {e' : Element} {left : Bytes} := @eq_of_read?_bytes e e' (written es) left (hlt e List.mem_cons_self)
    rw [written_cons, context?_succ] at h
    split at h
    · next hpass =>
      simp only [Option.bind_eq_bind, Option.bind_eq_some_iff] at h
      obtain ⟨⟨e', left⟩, hfront, h⟩ := h
      obtain ⟨rfl, rfl⟩ := hread hfront
      dsimp only at h
      split at h
      · next hnumber =>
        obtain ⟨rfl, rfl⟩ := Prod.mk.inj (Option.some.inj h)
        refine ⟨[e'], es, rfl, rfl, fun f hf => Or.inr ?_⟩
        rw [List.mem_singleton.1 hf]
        exact ⟨hnumber, rfl⟩
      · next hnumber =>
        obtain ⟨passed, left, rfl, rfl, hpassed⟩ :=
          exists_of_context?_written (fun f hf => hlt f (List.mem_cons_of_mem _ hf)) h
        refine ⟨e' :: passed, left, rfl, rfl, fun f hf => ?_⟩
        rcases List.mem_cons.1 hf with rfl | hf
        · have hle := of_decide_eq_true (Bool.and_eq_true_iff.1 hpass).2
          exact Or.inl (UInt8.lt_of_le_of_ne hle hnumber)
        · exact hpassed f hf
    · obtain ⟨rfl, rfl⟩ := Prod.mk.inj (Option.some.inj h)
      exact ⟨[], e :: es, rfl, (written_cons e es).symm, fun _ he => absurd he List.not_mem_nil⟩

end PseudonymStore.Der
