import CertScope.Asn1.Strict
import CertScope.Signature.Hash
import CertScope.Signature.Modular

/-!
# ECDSA signatures

Verification over the curves P-256 and P-384, the solutions of
`y² = x³ - 3x + b` modulo a prime. Points are kept in Jacobian coordinates, in
which `(x, y, z)` stands for `(x / z², y / z³)` and a zero `z` for the point at
infinity.
-/

namespace CertScope.Ecdsa

/-- A curve: its prime, its constant, a point that generates its points, and
their number. -/
structure Curve where
  prime : Nat
  constant : Nat
  baseX : Nat
  baseY : Nat
  order : Nat
  length : Nat
  deriving DecidableEq, Repr

def Curve.p256 : Curve where
  prime := 0xffffffff00000001000000000000000000000000ffffffffffffffffffffffff
  constant := 0x5ac635d8aa3a93e7b3ebbd55769886bc651d06b0cc53b0f63bce3c3e27d2604b
  baseX := 0x6b17d1f2e12c4247f8bce6e563a440f277037d812deb33a0f4a13945d898c296
  baseY := 0x4fe342e2fe1a7f9b8ee7eb4a7c0f9e162bce33576b315ececbb6406837bf51f5
  order := 0xffffffff00000000ffffffffffffffffbce6faada7179e84f3b9cac2fc632551
  length := 32

def Curve.p384 : Curve where
  prime :=
    0xfffffffffffffffffffffffffffffffffffffffffffffffffffffffffffffffeffffffff0000000000000000ffffffff
  constant :=
    0xb3312fa7e23ee7e4988e056be3f82d19181d9c6efe8141120314088f5013875ac656398d8a2ed19d2a85c8edd3ec2aef
  baseX :=
    0xaa87ca22be8b05378eb1c71ef320ad746e1d3b628ba79b9859f741e082542a385502f25dbf55296c3a545e3872760ab7
  baseY :=
    0x3617de4a96262c6f5d9e98bf9292dc29f8f41dbd289a147ce9da3113b5f0b8c00a60b1ce1d7e819d7a431d7c90ea0e5f
  order :=
    0xffffffffffffffffffffffffffffffffffffffffffffffffc7634d81f4372ddf581a0db248b0a77aecec196accc52973
  length := 48

/-- A point in Jacobian coordinates. -/
structure Point where
  x : Nat
  y : Nat
  z : Nat
  deriving DecidableEq, Repr

namespace Curve

variable (curve : Curve)

def contains (x y : Nat) : Bool :=
  let prime := curve.prime
  y * y % prime == Modular.minus prime (x * x * x + curve.constant) (3 * x)

def base : Point := ⟨curve.baseX, curve.baseY, 1⟩

def double (point : Point) : Point :=
  let prime := curve.prime
  let squareZ := point.z * point.z % prime
  let squareY := point.y * point.y % prime
  let product := point.x * squareY % prime
  let slope := 3 * Modular.minus prime point.x squareZ * (point.x + squareZ) % prime
  let x := Modular.minus prime (slope * slope) (8 * product)
  let y := Modular.minus prime (slope * Modular.minus prime (4 * product) x)
    (8 * squareY * squareY)
  ⟨x, y, 2 * point.y * point.z % prime⟩

def add (left right : Point) : Point :=
  if left.z = 0 then right
  else if right.z = 0 then left
  else
    let prime := curve.prime
    let squareLeft := left.z * left.z % prime
    let squareRight := right.z * right.z % prime
    let xLeft := left.x * squareRight % prime
    let xRight := right.x * squareLeft % prime
    let yLeft := left.y * squareRight * right.z % prime
    let yRight := right.y * squareLeft * left.z % prime
    if xLeft = xRight then
      if yLeft = yRight then curve.double left else ⟨1, 1, 0⟩
    else
      let width := Modular.minus prime xRight xLeft
      let rise := Modular.minus prime yRight yLeft
      let square := width * width % prime
      let cube := width * square % prime
      let middle := xLeft * square % prime
      let x := Modular.minus prime (rise * rise) (cube + 2 * middle)
      let y := Modular.minus prime (rise * Modular.minus prime middle x) (yLeft * cube)
      ⟨x, y, width * left.z * right.z % prime⟩

/-- The sum of `first` times the point `left` and `second` times the point
`right`, bit by bit. -/
def combine (left right : Point) (first second : Nat) : Point :=
  if first = 0 ∧ second = 0 then ⟨1, 1, 0⟩
  else
    let doubled := curve.double (combine left right (first / 2) (second / 2))
    let withLeft := if first % 2 = 1 then curve.add doubled left else doubled
    if second % 2 = 1 then curve.add withLeft right else withLeft
termination_by first + second

/-- Read a public key: an uncompressed point on the curve. -/
def readKey? : Bytes → Option Point
  | 0x04 :: coordinates =>
      let x := Bytes.value (coordinates.take curve.length)
      let y := Bytes.value (coordinates.drop curve.length)
      if coordinates.length = 2 * curve.length ∧ x < curve.prime ∧ y < curve.prime ∧
          curve.contains x y then
        some ⟨x, y, 1⟩
      else none
  | _ => none

/-- Read a signature: two numbers above zero and below the order. -/
def readSignature? (bytes : Bytes) : Option (Nat × Nat) := do
  let (first, second) ← Strict.positivePair? bytes
  let r := Bytes.value first
  let s := Bytes.value second
  if r < curve.order ∧ s < curve.order then some (r, s) else none

/-- The number that a digest stands for: its leading bytes, as many as the order
has. -/
def digestNumber (digest : Bytes) : Nat :=
  Bytes.value (digest.take curve.length) % curve.order

/-- Whether the affine x-coordinate of a point is `r` to the modulus of the
order. -/
def hasX (point : Point) (r : Nat) : Bool :=
  let square := point.z * point.z % curve.prime
  point.z != 0 &&
    (r * square % curve.prime == point.x ||
      decide (r + curve.order < curve.prime) &&
        (r + curve.order) * square % curve.prime == point.x)

end Curve

def verify (curve : Curve) (hash : Hash) (key message signature : Bytes) : Bool :=
  match curve.readKey? key, curve.readSignature? signature with
  | some point, some (r, s) =>
      let factor := Modular.inverse curve.order s
      let first := curve.digestNumber (hash.digest message) * factor % curve.order
      let second := r * factor % curve.order
      curve.hasX (curve.combine curve.base point first second) r
  | _, _ => false

end CertScope.Ecdsa
