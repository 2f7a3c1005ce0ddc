import PseudonymStore.Key.Encoding
import PseudonymStore.Proofs.Format.Der
/-!
# Forms of private keys

A private key on its own may be followed by the name of a curve and by its public point, in either form; around it may
stand its algorithm, and behind that a public key once more.  All these are read as the key
(`Sec1.decode?_encodeWith_extras`, `Pkcs8.decode?_wrap`), and a public point on the key's own level that is another one
keeps it from being read (`Sec1.decode?_encodeWith_of_foreign`).  The two encodings differ in the element after the version,
so no bytes are read as both (`decode?_eq_none_or`).
-/
namespace PseudonymStore

open Secp256k1 (Point)

inductive Secp256k1.PointForm where
  | uncompressed
  | compressed

def Secp256k1.Point.bytes (p : Point) : Secp256k1.PointForm → Bytes
  | .uncompressed => p.uncompressed
  | .compressed => p.compressed

theorem Secp256k1.Point.length_bytes_le (p : Point) (form : Secp256k1.PointForm) : (p.bytes form).length ≤ 65 := by
  cases form <;> simp [bytes]

structure Der.ObjectIdentifier where
  contents : Bytes
  wellFormed : Der.isObjectIdentifier contents = true

theorem Der.ObjectIdentifier.length_le (oid : Der.ObjectIdentifier) : oid.contents.length ≤ 39 := by
  have h := oid.wellFormed
  cases hoid : oid.contents with
  | nil => exact Nat.zero_le _
  | cons root arcs =>
    rw [hoid] at h
    simp only [isObjectIdentifier, Bool.and_eq_true, decide_eq_true_eq] at h
    rw [List.length_cons]
    omega

/-- The bytes of a private key in its encodings; leading zeros may be cut off, or not. -/
structure PrivateKey.Octets (key : PrivateKey) where
  bytes : Bytes
  toNat_bytes : Bytes.toNat bytes = key.scalar
  le_length : 24 ≤ bytes.length
  length_le : bytes.length ≤ 32

theorem PrivateKey.length_bytes (key : PrivateKey) : key.bytes.length = 32 :=
  Bytes.length_ofNat 32 key.scalar

def PrivateKey.octets (key : PrivateKey) : key.Octets where
  bytes := key.bytes
  toNat_bytes := key.toNat_bytes
  le_length := by rw [key.length_bytes]; decide
  length_le := Nat.le_of_eq key.length_bytes

/-! ## A key on its own -/

namespace Sec1

def encodeWith (octets : Bytes) (more : List Der.Element) : Bytes :=
  Der.element Der.sequence
    (Der.element Der.integer [1] ++ (Der.element Der.octetString octets ++ Der.written more))

def publicPoint (key : PrivateKey) (form : Secp256k1.PointForm) : Der.Element :=
  ⟨pointTag, Der.element Der.bitString (0 :: key.point.bytes form)⟩

def curveName (oid : Der.ObjectIdentifier) : Der.Element :=
  ⟨curveTag, Der.element Der.objectIdentifier oid.contents⟩

def extras (key : PrivateKey) (curve : Option Der.ObjectIdentifier) (point : Option Secp256k1.PointForm) :
    List Der.Element :=
  (curve.map curveName).toList ++ (point.map (publicPoint key)).toList

theorem length_publicPoint_le (key : PrivateKey) (form : Secp256k1.PointForm) :
    (publicPoint key form).contents.length ≤ 72 := by
  have hbits := Der.length_element_le Der.bitString (0 :: key.point.bytes form)
  have hpoint := key.point.length_bytes_le form
  rw [List.length_cons] at hbits
  exact Nat.le_trans hbits (by omega)

theorem length_curveName_le (oid : Der.ObjectIdentifier) : (curveName oid).contents.length ≤ 45 :=
  Nat.le_trans (Der.length_element_le Der.objectIdentifier oid.contents) (Nat.add_le_add_right oid.length_le 6)

theorem length_extras_le (key : PrivateKey) (curve : Option Der.ObjectIdentifier) (point : Option Secp256k1.PointForm) :
    (Der.written (extras key curve point)).length ≤ 129 := by
  have hcurve (oid : Der.ObjectIdentifier) : (curveName oid).bytes.length ≤ 51 :=
    Nat.le_trans (Der.length_element_le _ _) (Nat.add_le_add_right (length_curveName_le oid) 6)
  have hpoint (form : Secp256k1.PointForm) : (publicPoint key form).bytes.length ≤ 78 :=
    Nat.le_trans (Der.length_element_le _ _) (Nat.add_le_add_right (length_publicPoint_le key form) 6)
  rw [extras, Der.written_append, List.length_append]
  have hfirst : (Der.written (curve.map curveName).toList).length ≤ 51 := by
    cases curve with
    | none => simp
    | some oid => simpa using hcurve oid
  have hsecond : (Der.written (point.map (publicPoint key)).toList).length ≤ 78 := by
    cases point with
    | none => simp
    | some form => simpa using hpoint form
  omega

theorem holdsPoint_iff {key : PrivateKey} {e : Der.Element} :
    holdsPoint key e = true ↔ ∃ form, e = publicPoint key form := by
  obtain ⟨tag, contents⟩ := e
  simp only [holdsPoint, Bool.and_eq_true, beq_iff_eq, Option.any_eq_true, Bool.or_eq_true, Option.bind_eq_some_iff]
  constructor
  · rintro ⟨rfl, bytes, ⟨bits, hbits, hwhole⟩, hpoint⟩
    obtain rfl := Der.eq_of_only? hbits
    obtain rfl : bits = 0 :: bytes := by
      unfold Der.wholeBits? at hwhole
      split at hwhole
      · rw [Option.some.inj hwhole]
      · cases hwhole
    rcases hpoint with rfl | rfl
    · exact ⟨.uncompressed, rfl⟩
    · exact ⟨.compressed, rfl⟩
  · rintro ⟨form, heq⟩
    obtain ⟨rfl, rfl⟩ := Der.Element.mk.inj heq
    have hsize := Nat.lt_of_le_of_lt (length_publicPoint_le key form) (show 72 < Der.sizeLimit by decide)
    refine ⟨rfl, key.point.bytes form, ⟨_, Der.only?_element rfl hsize, rfl⟩, ?_⟩
    cases form with
    | uncompressed => exact Or.inl rfl
    | compressed => exact Or.inr rfl

theorem namesCurve_curveName (oid : Der.ObjectIdentifier) : namesCurve (curveName oid) = true := by
  have honly : Der.only? Der.objectIdentifier (curveName oid).contents = some oid.contents :=
    Der.only?_element rfl (Nat.lt_of_le_of_lt (length_curveName_le oid) (by decide))
  rw [namesCurve, honly]
  exact oid.wellFormed

theorem length_le_length_encodeWith (octets : Bytes) (more : List Der.Element) :
    octets.length + (Der.written more).length ≤ (encodeWith octets more).length := by
  have hoctets := Der.length_le_length_element Der.octetString octets
  refine Nat.le_trans ?_ (Der.length_le_length_element Der.sequence _)
  rw [List.length_append, List.length_append]
  omega

section

variable {octets : Bytes} {more : List Der.Element}

/-- **What follows a private key decides** whether it is read. -/
theorem decode?_encodeWith (hsize : (encodeWith octets more).length < Der.sizeLimit) :
    decode? (encodeWith octets more) = do
      guard (24 ≤ octets.length ∧ octets.length ≤ 32)
      let key ← PrivateKey.ofNat? (Bytes.toNat octets)
      let (curve, body) ← Der.context? 0 (Der.written more).length (Der.written more)
      guard (curve.all namesCurve)
      let (point, body) ← Der.context? 1 body.length body
      guard (point.all (holdsPoint key))
      guard body.isEmpty
      return key := by
  have hbody := Der.only?_element rfl hsize
  have hversion := Der.readTagged?_element Der.integer [1] rfl (by decide)
    (Der.element Der.octetString octets ++ Der.written more)
  have hlt : octets.length < 0x100000000 := by
    have hle := length_le_length_encodeWith octets more
    rw [Der.sizeLimit] at hsize
    omega
  have hoctets := Der.readTagged?_element Der.octetString octets rfl hlt (Der.written more)
  rw [decode?, encodeWith, hbody]
  simp only [Option.bind_eq_bind, Option.bind_some, hversion, hoctets]
  rfl

theorem decode?_encodeWith_of_foreign {key : PrivateKey} (hoctets : Bytes.toNat octets = key.scalar) {e : Der.Element}
    (he : e ∈ more) (hnumber : Der.tagNumber e.tag = 1) (hforeign : ∀ form, e ≠ publicPoint key form) :
    decode? (encodeWith octets more) = none := by
  rcases Nat.lt_or_ge (encodeWith octets more).length Der.sizeLimit with hsize | hsize
  · rw [decode?_encodeWith hsize, hoctets, PrivateKey.ofNat?_scalar, Option.eq_none_iff_forall_ne_some]
    have hlt (f : Der.Element) (hf : f ∈ more) : f.contents.length < 0x100000000 := by
      have hle := Der.length_le_length_written hf
      have hwritten := length_le_length_encodeWith octets more
      rw [Der.sizeLimit] at hsize
      omega
    intro found h
    simp only [Option.bind_eq_bind, Option.bind_eq_some_iff, Option.guard_eq_some'] at h
    obtain ⟨-, -, _, ⟨rfl⟩, ⟨curve, body⟩, hcurve, -, -, ⟨point, rest⟩, hpoint, -, hholds, -, hempty, -⟩ := h
    obtain ⟨passed, left, rfl, rfl, hpassed⟩ := Der.exists_of_context?_written hlt hcurve
    obtain ⟨passed', left', rfl, rfl, hpassed'⟩ :=
      Der.exists_of_context?_written (fun f hf => hlt f (List.mem_append_right _ hf)) hpoint
    -- Elements numbered one are not passed on the way to the curve, and the point has to be the last element.
    have hfirst : e ∉ passed := fun hmem => by
      rcases hpassed e hmem with h | ⟨h, -⟩ <;> rw [hnumber] at h <;> exact absurd h (by decide)
    have hlast : e ∉ left' := fun hmem => by
      rw [Der.written_eq_nil_iff.1 (List.isEmpty_iff.1 hempty)] at hmem
      cases hmem
    have hsecond : e ∈ passed' := by
      rcases List.mem_append.1 he with hmem | hmem
      · exact absurd hmem hfirst
      · exact (List.mem_append.1 hmem).resolve_right hlast
    rcases hpassed' e hsecond with h | ⟨-, hfound⟩
    · rw [hnumber] at h
      exact absurd h (UInt8.lt_irrefl 1)
    · rw [hfound] at hholds
      obtain ⟨form, heq⟩ := holdsPoint_iff.1 hholds
      exact hforeign form heq
  · rw [decode?, Der.only?_eq_none hsize]
    rfl

end

variable (key : PrivateKey) (octets : key.Octets) (curve : Option Der.ObjectIdentifier)
  (point : Option Secp256k1.PointForm)

theorem context?_extras : Der.context? 0 (Der.written (extras key curve point)).length (Der.written (extras key curve point)) =
    some (curve.map curveName, Der.written (point.map (publicPoint key)).toList) := by
  cases curve with
  | some oid =>
    have hlt := Nat.lt_of_le_of_lt (length_curveName_le oid) (show 45 < 0x100000000 by decide)
    have htag : Der.knownTag curveTag = true ∧ Der.isContext curveTag = true ∧ Der.tagNumber curveTag = 0 := by decide
    have hread := Der.context?_bytes (e := curveName oid) htag.1 hlt htag.2.1 htag.2.2
      (Der.written (point.map (publicPoint key)).toList)
    simpa [extras] using hread
  | none =>
    cases point with
    | none => rfl
    | some form =>
      have htag : 0 < Der.tagNumber pointTag := by decide
      exact Der.context?_of_lt htag _ _

theorem context?_publicPoint : Der.context? 1 (Der.written (point.map (publicPoint key)).toList).length
    (Der.written (point.map (publicPoint key)).toList) = some (point.map (publicPoint key), []) := by
  cases point with
  | none => rfl
  | some form =>
    have hlt := Nat.lt_of_le_of_lt (length_publicPoint_le key form) (show 72 < 0x100000000 by decide)
    have htag : Der.knownTag pointTag = true ∧ Der.isContext pointTag = true ∧ Der.tagNumber pointTag = 1 := by decide
    have hread := Der.context?_bytes (e := publicPoint key form) htag.1 hlt htag.2.1 htag.2.2 []
    simpa using hread

theorem length_encodeWith_extras_le : (encodeWith octets.bytes (extras key curve point)).length ≤ 180 := by
  have hversion := Der.length_element_le Der.integer [1]
  have hoctets := Der.length_element_le Der.octetString octets.bytes
  have hextras := length_extras_le key curve point
  have hle := octets.length_le
  rw [List.length_singleton] at hversion
  refine Nat.le_trans (Der.length_element_le Der.sequence _) ?_
  rw [List.length_append, List.length_append]
  omega

theorem decode?_encodeWith_extras : decode? (encodeWith octets.bytes (extras key curve point)) = some key := by
  have hcurve : (curve.map curveName).all namesCurve = true := by
    cases curve with
    | none => rfl
    | some oid => exact namesCurve_curveName oid
  have hpoint : (point.map (publicPoint key)).all (holdsPoint key) = true := by
    cases point with
    | none => rfl
    | some form => exact holdsPoint_iff.2 ⟨form, rfl⟩
  rw [decode?_encodeWith (Nat.lt_of_le_of_lt (length_encodeWith_extras_le key octets curve point) (by decide)),
    octets.toNat_bytes, PrivateKey.ofNat?_scalar]
  simp only [Option.bind_eq_bind, Option.bind_some, context?_extras, context?_publicPoint, hcurve, hpoint, octets.le_length,
    octets.length_le]
  rfl

end Sec1

/-! ## A key with its algorithm -/

namespace Pkcs8

def publicKeyElement (bits : Bytes) : Der.Element :=
  ⟨publicKeyTag, 0 :: bits⟩

def wrap (sec1 : Bytes) (publicKey : Option Bytes) : Bytes :=
  Der.element Der.sequence (Der.element Der.integer [if publicKey.isSome then 1 else 0] ++
    (Der.element Der.sequence keyAlgorithm ++ (Der.element Der.octetString sec1 ++
      Der.written (publicKey.map publicKeyElement).toList)))

theorem length_wrap_none_le (sec1 : Bytes) : (wrap sec1 none).length ≤ sec1.length + 41 := by
  have halgorithm : keyAlgorithm.length = 16 := by decide
  have hversion := Der.length_element_le Der.integer [0]
  have hnames := Der.length_element_le Der.sequence keyAlgorithm
  have hoctets := Der.length_element_le Der.octetString sec1
  rw [halgorithm] at hnames
  rw [List.length_singleton] at hversion
  refine Nat.le_trans (Der.length_element_le Der.sequence _) ?_
  simp only [Option.isSome_none, Bool.false_eq_true, if_false, Option.map_none, Option.toList_none, Der.written_nil,
    List.append_nil, List.length_append]
  omega

theorem length_le_length_wrap (sec1 : Bytes) (publicKey : Option Bytes) :
    sec1.length + (publicKey.getD []).length ≤ (wrap sec1 publicKey).length := by
  have hoctets := Der.length_le_length_element Der.octetString sec1
  have hkey : (publicKey.getD []).length ≤ (Der.written (publicKey.map publicKeyElement).toList).length := by
    cases publicKey with
    | none => exact Nat.zero_le _
    | some bits => simp [publicKeyElement, Der.Element.bytes, Der.element]; omega
  refine Nat.le_trans ?_ (Der.length_le_length_element Der.sequence _)
  simp only [List.length_append]
  omega

theorem context?_publicKey {publicKey : Option Bytes} (hlt : (publicKey.getD []).length < Der.sizeLimit) :
    Der.context? 1 (Der.written (publicKey.map publicKeyElement).toList).length
      (Der.written (publicKey.map publicKeyElement).toList) = some (publicKey.map publicKeyElement, []) := by
  cases publicKey with
  | none => rfl
  | some bits =>
    have htag : Der.knownTag publicKeyTag = true ∧ Der.isContext publicKeyTag = true ∧ Der.tagNumber publicKeyTag = 1 := by
      decide
    have hcontents : (publicKeyElement bits).contents.length < 0x100000000 := Nat.lt_of_le_of_lt hlt (by decide)
    have hread := Der.context?_bytes (e := publicKeyElement bits) htag.1 hcontents htag.2.1 htag.2.2 []
    simpa using hread

/-- **What is wrapped is read**, and the public key that stands by it is not compared with it. -/
theorem decode?_wrap {sec1 : Bytes} {publicKey : Option Bytes} (hsize : (wrap sec1 publicKey).length < Der.sizeLimit) :
    decode? (wrap sec1 publicKey) = Sec1.decode? sec1 := by
  have hlength := Nat.lt_of_le_of_lt (length_le_length_wrap sec1 publicKey) hsize
  have hlt : sec1.length < 0x100000000 := by
    rw [Der.sizeLimit] at hlength
    omega
  have hbody := Der.only?_element rfl hsize
  have hversion := Der.readTagged?_element Der.integer [if publicKey.isSome then 1 else 0] rfl (by simp)
    (Der.element Der.sequence keyAlgorithm ++ (Der.element Der.octetString sec1 ++
      Der.written (publicKey.map publicKeyElement).toList))
  have hnames := Der.readTagged?_element Der.sequence keyAlgorithm rfl (by decide)
    (Der.element Der.octetString sec1 ++ Der.written (publicKey.map publicKeyElement).toList)
  have hoctets := Der.readTagged?_element Der.octetString sec1 rfl hlt
    (Der.written (publicKey.map publicKeyElement).toList)
  have hkey := context?_publicKey (Nat.lt_of_le_of_lt (Nat.le_add_left _ _) hlength)
  rw [decode?, wrap, hbody]
  simp only [Option.bind_eq_bind, Option.bind_some, hversion, hnames, hoctets, hkey]
  cases publicKey <;> rfl

theorem decode?_wrap_eq_none {sec1 : Bytes} (h : Sec1.decode? sec1 = none) (publicKey : Option Bytes) :
    decode? (wrap sec1 publicKey) = none := by
  rcases Nat.lt_or_ge (wrap sec1 publicKey).length Der.sizeLimit with hsize | hsize
  · rw [decode?_wrap hsize, h]
  · rw [decode?, Der.only?_eq_none hsize]
    rfl

end Pkcs8

/-! ## Neither encoding is the other -/

def Der.secondTag? (bs : Bytes) : Option UInt8 := do
  let body ← only? sequence bs
  let (_, body) ← readTagged? integer body
  let (e, _) ← read? body
  return e.tag

theorem Der.eq_of_secondTag? {version contents rest : Bytes} {tag t : UInt8} (hversion : version.length = 1)
    (h : secondTag? (element sequence (element integer version ++ (element tag contents ++ rest))) = some t) : t = tag := by
  rcases Nat.lt_or_ge
    (element sequence (element integer version ++ (element tag contents ++ rest))).length sizeLimit with hsize | hsize
  · have hlt : contents.length < 0x100000000 := by
      have hbody := Nat.lt_of_le_of_lt (length_le_length_element _ _) hsize
      have hle := length_le_length_element tag contents
      simp only [List.length_append, sizeLimit] at hbody
      omega
    have hfirst := readTagged?_element integer version rfl (by rw [hversion]; decide) (element tag contents ++ rest)
    simp only [secondTag?, only?_element rfl hsize, Option.bind_eq_bind, Option.bind_some, hfirst,
      Option.bind_eq_some_iff] at h
    obtain ⟨⟨e, left⟩, hread, h⟩ := h
    obtain ⟨rfl, -⟩ := eq_of_read?_bytes (e := ⟨tag, contents⟩) hlt hread
    exact (Option.some.inj h).symm
  · rw [secondTag?, only?_eq_none hsize] at h
    cases h

theorem Der.secondTag?_of_readTagged? {bs body rest version contents left : Bytes} {tag : UInt8}
    (hbody : only? sequence bs = some body) (hversion : readTagged? integer body = some (version, rest))
    (h : readTagged? tag rest = some (contents, left)) : secondTag? bs = some tag := by
  rw [secondTag?, hbody]
  simp only [Option.bind_eq_bind, Option.bind_some, hversion, read?_of_readTagged? h]
  rfl

theorem Sec1.secondTag?_of_decode? {bs : Bytes} {key : PrivateKey} (h : decode? bs = some key) :
    Der.secondTag? bs = some Der.octetString := by
  simp only [decode?, Option.bind_eq_bind, Option.bind_eq_some_iff] at h
  obtain ⟨body, hbody, ⟨version, rest⟩, hversion, -, -, ⟨octets, left⟩, hoctets, -⟩ := h
  exact Der.secondTag?_of_readTagged? hbody hversion hoctets

theorem Pkcs8.secondTag?_of_decode? {bs : Bytes} {key : PrivateKey} (h : decode? bs = some key) :
    Der.secondTag? bs = some Der.sequence := by
  simp only [decode?, Option.bind_eq_bind, Option.bind_eq_some_iff] at h
  obtain ⟨body, hbody, ⟨version, rest⟩, hversion, -, -, ⟨algorithm, left⟩, halgorithm, -⟩ := h
  exact Der.secondTag?_of_readTagged? hbody hversion halgorithm

/-- **No bytes are read as both encodings.** -/
theorem decode?_eq_none_or (bs : Bytes) : Pkcs8.decode? bs = none ∨ Sec1.decode? bs = none := by
  by_contra hboth
  obtain ⟨hpkcs8, hsec1⟩ := not_or.1 hboth
  obtain ⟨key, hkey⟩ := Option.ne_none_iff_exists'.1 hpkcs8
  obtain ⟨key', hkey'⟩ := Option.ne_none_iff_exists'.1 hsec1
  have htag := (Pkcs8.secondTag?_of_decode? hkey).symm.trans (Sec1.secondTag?_of_decode? hkey')
  exact absurd htag (by decide)

theorem Pkcs8.decode?_encodeWith (octets : Bytes) (more : List Der.Element) : decode? (Sec1.encodeWith octets more) = none := by
  rw [Option.eq_none_iff_forall_ne_some]
  intro key h
  exact absurd (Der.eq_of_secondTag? rfl (secondTag?_of_decode? h)) (by decide)

theorem Sec1.decode?_wrap (sec1 : Bytes) (publicKey : Option Bytes) : decode? (Pkcs8.wrap sec1 publicKey) = none := by
  rw [Option.eq_none_iff_forall_ne_some]
  intro key h
  exact absurd (Der.eq_of_secondTag? rfl (secondTag?_of_decode? h)) (by decide)

end PseudonymStore
