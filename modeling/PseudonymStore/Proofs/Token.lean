import PseudonymStore.Operation.Provision
import PseudonymStore.Proofs.Bits
import PseudonymStore.Proofs.Format.Base64
import PseudonymStore.Proofs.Session
/-!
# Tokens keep what was drawn

The characters of a token are the values of the first bits of its draw, six bits each, so that a token has the length
that was asked for, two draws give one token just when these bits agree, and every text of the alphabet is given by the
same number of draws (`Action.newToken_of_draw`).
-/
namespace PseudonymStore

namespace Base64

theorem ofNat_group (a b c : UInt8) :
    Bits.ofNat 6 (a.toNat / 4) ++ (Bits.ofNat 6 (a.toNat % 4 * 16 + b.toNat / 16) ++
      (Bits.ofNat 6 (b.toNat % 16 * 4 + c.toNat / 64) ++ Bits.ofNat 6 (c.toNat % 64))) =
    Bits.ofNat 8 a.toNat ++ (Bits.ofNat 8 b.toNat ++ Bits.ofNat 8 c.toNat) := by
  have ha := a.toNat_lt
  have hb := b.toNat_lt
  have hc := c.toNat_lt
  rw [Bits.ofNat_append 6 _ (by omega), Bits.ofNat_append 6 _ (by omega), Bits.ofNat_append 6 _ (by omega),
    Bits.ofNat_append 8 _ (by omega), Bits.ofNat_append 8 _ (by omega)]
  exact congrArg (Bits.ofNat 24) (by omega)

theorem spell_sextets : ∀ {bs : Bytes}, bs.length % 3 = 0 → Bits.spell 6 (sextets bs) = bs.bits
  | [], _ => rfl
  | [_], h => by simp at h
  | [_, _], h => by simp at h
  | a :: b :: c :: rest, h => by
    have ih : Bits.spell 6 (sextets rest) = Bytes.bits rest :=
      spell_sextets (by simp only [List.length_cons] at h; omega)
    have hbits : Bytes.bits (a :: b :: c :: rest) =
        Bits.ofNat 8 a.toNat ++ (Bits.ofNat 8 b.toNat ++ Bits.ofNat 8 c.toNat) ++ Bytes.bits rest := by
      simp only [Bytes.bits, List.map_cons, Bits.spell_cons, List.append_assoc]
    rw [hbits, ← ofNat_group, sextets]
    simp only [Bits.spell_cons, ih, List.append_assoc]

theorem map_digit_inj {xs ys : List Nat} (hx : ∀ x ∈ xs, x < 64) (hy : ∀ y ∈ ys, y < 64) :
    xs.map (digit urlSafe) = ys.map (digit urlSafe) ↔ xs = ys := by
  have hback {vs : List Nat} (hv : ∀ v ∈ vs, v < 64) : (vs.map (digit urlSafe)).map urlSafe.idxOf? = vs.map some := by
    rw [List.map_map]
    exact List.map_congr_left fun v hmem => idxOf?_digit_urlSafe v (hv v hmem)
  refine ⟨fun h => ?_, fun h => h ▸ rfl⟩
  have hmap := congrArg (List.map urlSafe.idxOf?) h
  rw [hback hx, hback hy] at hmap
  exact (List.map_inj_right fun _ _ => Option.some.inj).1 hmap

theorem exists_map_digit_eq : ∀ {cs : List Char}, (∀ c ∈ cs, c ∈ urlSafe) →
    ∃ values : List Nat, (∀ v ∈ values, v < 64) ∧ values.map (digit urlSafe) = cs
  | [], _ => ⟨[], fun _ hv => absurd hv List.not_mem_nil, rfl⟩
  | c :: cs, h => by
    obtain ⟨value, hlt, rfl⟩ := mem_urlSafe_iff.1 (h _ List.mem_cons_self)
    obtain ⟨values, hvalues, rfl⟩ := exists_map_digit_eq fun d hd => h d (List.mem_cons_of_mem _ hd)
    refine ⟨value :: values, ?_, rfl⟩
    rintro v (_ | ⟨_, hv⟩)
    · exact hlt
    · exact hvalues v hv

end Base64

namespace Token

abbrev Draw (length : Nat) :=
  { bytes : Bytes // bytes.length = drawLength length }

variable {length : Nat}

def values (drawn : Draw length) : List Nat :=
  (Base64.sextets drawn.val).take length

theorem ofBytes_eq (drawn : Draw length) :
    ofBytes length drawn.val = String.ofList ((values drawn).map (Base64.digit Base64.urlSafe)) := by
  rw [ofBytes, Base64.encodeUrl, values, List.map_take]

theorem length_values (drawn : Draw length) : (values drawn).length = length := by
  rw [values, List.length_take, Base64.length_sextets, drawn.property, drawLength]
  omega

theorem lt_of_mem_values {drawn : Draw length} : ∀ v ∈ values drawn, v < 64 := fun v hv =>
  Base64.lt_of_mem_sextets v (List.mem_of_mem_take hv)

theorem spell_values (drawn : Draw length) : Bits.spell 6 (values drawn) = drawn.val.bits.take (6 * length) := by
  have hgroups : drawn.val.length % 3 = 0 := by
    rw [drawn.property, drawLength]
    omega
  rw [values, Bits.spell_take, Base64.spell_sextets hgroups]

theorem ofBytes_eq_iff (drawn : Draw length) {vs : List Nat} (hlength : vs.length = length) (hvs : ∀ v ∈ vs, v < 64) :
    ofBytes length drawn.val = String.ofList (vs.map (Base64.digit Base64.urlSafe)) ↔
      drawn.val.bits.take (6 * length) = Bits.spell 6 vs := by
  rw [ofBytes_eq, String.ofList_inj, Base64.map_digit_inj lt_of_mem_values hvs, ← spell_values,
    Bits.spell_inj ((length_values drawn).trans hlength.symm) lt_of_mem_values hvs]

theorem length_ofBytes (drawn : Draw length) : (ofBytes length drawn.val).length = length := by
  rw [ofBytes_eq, String.length_ofList, List.length_map, length_values]

theorem mem_urlSafe_of_mem_ofBytes {drawn : Draw length} {c : Char} (h : c ∈ (ofBytes length drawn.val).toList) :
    c ∈ Base64.urlSafe := by
  rw [ofBytes, String.toList_ofList] at h
  exact Base64.mem_urlSafe_of_mem_encodeUrl (List.mem_of_mem_take h)

theorem ofBytes_eq_ofBytes_iff (drawn drawn' : Draw length) :
    ofBytes length drawn.val = ofBytes length drawn'.val ↔
      drawn.val.bits.take (6 * length) = drawn'.val.bits.take (6 * length) := by
  rw [ofBytes_eq drawn', ofBytes_eq_iff drawn (length_values drawn') lt_of_mem_values, spell_values]

/-- **Every text of the alphabet is given by the same number of draws**: the bits after those of the text are free. -/
theorem card_draws {text : String} (hlength : text.length = length) (htext : ∀ c ∈ text.toList, c ∈ Base64.urlSafe) :
    Nat.card { drawn : Draw length // ofBytes length drawn.val = text } = 2 ^ (8 * drawLength length - 6 * length) := by
  obtain ⟨vs, hvs, hmap⟩ := Base64.exists_map_digit_eq htext
  have hcount : vs.length = length := by
    rw [← hlength, ← String.length_toList, ← hmap, List.length_map]
  have hspell : (Bits.spell 6 vs).length = 6 * length := by rw [Bits.length_spell, hcount]
  have hbits (drawn : Draw length) : ofBytes length drawn.val = text ↔
      drawn.val.bits.take (Bits.spell 6 vs).length = Bits.spell 6 vs := by
    rw [hspell, ← ofBytes_eq_iff drawn hcount hvs, hmap, String.ofList_toList]
  -- A draw has at least as many bits as its token takes; what it has beyond them is free.
  have hroom : (Bits.spell 6 vs).length ≤ 8 * drawLength length := by
    rw [hspell, drawLength]
    omega
  rw [Nat.card_congr (Equiv.subtypeEquivRight hbits), Bytes.card_bits_take hroom, hspell]

end Token

namespace Action

/-- **A new token has the length that was asked for and keeps all that was drawn for it**: a successful draw gives a token
of just this length, in the alphabet that is safe in addresses; two draws give one token just when their first bits
agree, six for each character; and all texts of this length and alphabet are given, each by the same number of draws. -/
theorem newToken_of_draw (length : Nat) :
    (∀ {σ : Type} (env : Environment σ) (s : Session σ) (drawn : Token.Draw length) (world : σ),
      env.draw (Token.drawLength length) s.world = (some drawn, world) →
      newToken env length s = .ok (Token.ofBytes length drawn.val) { s with world }) ∧
    (∀ drawn : Token.Draw length, (Token.ofBytes length drawn.val).length = length ∧
      ∀ c ∈ (Token.ofBytes length drawn.val).toList, c ∈ Base64.urlSafe) ∧
    (∀ drawn drawn' : Token.Draw length, Token.ofBytes length drawn.val = Token.ofBytes length drawn'.val ↔
      drawn.val.bits.take (6 * length) = drawn'.val.bits.take (6 * length)) ∧
    ∀ text : String, text.length = length → (∀ c ∈ text.toList, c ∈ Base64.urlSafe) →
      Nat.card { drawn : Token.Draw length // Token.ofBytes length drawn.val = text } =
        2 ^ (8 * Token.drawLength length - 6 * length) := by
  refine ⟨?_, fun drawn => ⟨Token.length_ofBytes drawn, fun _ => Token.mem_urlSafe_of_mem_ofBytes⟩,
    Token.ofBytes_eq_ofBytes_iff, fun _ => Token.card_draws⟩
  intro σ env s drawn world hdraw
  rw [newToken, map_eq, draw_eq, hdraw]

/-- A salt of bytes that are all one; a token of three characters, for which 64 draws give each text. -/
theorem newToken_of_draw_still : let s : Session Unit := .opened .empty ()
    (newToken .still Token.saltLength s = .ok "AQEBAQEBAQEBAQEB" s) ∧
    ("a-_".length = 3 ∧ ∀ c ∈ "a-_".toList, c ∈ Base64.urlSafe) ∧
    Nat.card { drawn : Token.Draw 3 // Token.ofBytes 3 drawn.val = "a-_" } = 64 := by
  intro s
  have htoken := (newToken_of_draw Token.saltLength).1 .still s _ () rfl
  have hall : "a-_".toList.all Base64.urlSafe.contains = true := by decide
  have htext (c : Char) (hc : c ∈ "a-_".toList) : c ∈ Base64.urlSafe :=
    List.contains_iff_mem.1 (List.all_eq_true.1 hall c hc)
  exact ⟨htoken, ⟨rfl, htext⟩, (newToken_of_draw 3).2.2.2 "a-_" rfl htext⟩

end Action

end PseudonymStore
