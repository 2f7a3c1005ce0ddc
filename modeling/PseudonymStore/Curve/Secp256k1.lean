import PseudonymStore.Bytes
/-!
# The curve secp256k1

The group behind account keys: the points of y² = x³ + 7 over a prime field, generated by one base point of prime
order.  Only multiples of the base point are needed.  They are computed in Jacobian coordinates, where (x, y, z) stands
for (x / z², y / z³), so that a single inversion at the end is enough.
-/
namespace PseudonymStore.Secp256k1

abbrev fieldSize : Nat := 0xFFFFFFFFFFFFFFFFFFFFFFFFFFFFFFFFFFFFFFFFFFFFFFFFFFFFFFFEFFFFFC2F

def order : Nat := 0xFFFFFFFFFFFFFFFFFFFFFFFFFFFFFFFEBAAEDCE6AF48A03BBFD25E8CD0364141

abbrev Coordinate := Fin fieldSize

/-- A point in Jacobian coordinates; the neutral point has z = 0. -/
structure Jacobian where
  x : Coordinate
  y : Coordinate
  z : Coordinate

structure Point where
  x : Coordinate
  y : Coordinate
deriving DecidableEq

def neutral : Jacobian := ⟨1, 1, 0⟩

def base : Point :=
  ⟨0x79BE667EF9DCBBAC55A06295CE870B07029BFCDB2DCE28D959F2815B16F81798,
    0x483ADA7726A3C4655DA4FBFC0E1108A8FD17B448A68554199C47D08FFB10D4B8⟩

def Jacobian.double (p : Jacobian) : Jacobian :=
  let yy := p.y * p.y
  let s := 4 * p.x * yy
  let m := 3 * p.x * p.x
  let x := m * m - 2 * s
  ⟨x, m * (s - x) - 8 * yy * yy, 2 * p.y * p.z⟩

def Jacobian.add (p : Jacobian) (q : Point) : Jacobian :=
  if p.z = 0 then ⟨q.x, q.y, 1⟩
  else
    let zz := p.z * p.z
    let h := q.x * zz - p.x
    let r := q.y * zz * p.z - p.y
    if h = 0 then
      if r = 0 then p.double else neutral
    else
      let hh := h * h
      let hhh := h * hh
      let v := p.x * hh
      let x := r * r - hhh - 2 * v
      ⟨x, r * (v - x) - p.y * hhh, p.z * h⟩

def bits (n : Nat) : List Bool :=
  (List.range 256).reverse.map n.testBit

def power (a : Coordinate) (exponent : Nat) : Coordinate :=
  (bits exponent).foldl (fun r bit => if bit then r * r * a else r * r) 1

def Jacobian.affine (p : Jacobian) : Point :=
  let i := power p.z (fieldSize - 2)
  ⟨p.x * (i * i), p.y * (i * i * i)⟩

def multiple (factor : Nat) : Point :=
  ((bits factor).foldl (fun p bit => if bit then p.double.add base else p.double) neutral).affine

def Point.uncompressed (p : Point) : Bytes :=
  0x04 :: Bytes.ofNat 32 p.x.val ++ Bytes.ofNat 32 p.y.val

def Point.compressed (p : Point) : Bytes :=
  (if p.y.val % 2 = 0 then 0x02 else 0x03) :: Bytes.ofNat 32 p.x.val

@[simp] theorem Point.length_uncompressed (p : Point) : p.uncompressed.length = 65 := by
  simp [Point.uncompressed]

@[simp] theorem Point.length_compressed (p : Point) : p.compressed.length = 33 := by
  simp [Point.compressed]

end PseudonymStore.Secp256k1
