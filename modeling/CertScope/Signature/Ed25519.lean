import CertScope.Digest.Sha512
import CertScope.Signature.Modular

/-!
# Ed25519 signatures

Verification over the twisted Edwards curve `y² - x² = 1 + d x² y²` modulo
`2^255 - 19`. Points are kept in extended coordinates `(x, y, z, t)`, which stand
for `(x / z, y / z)` with `t = x y / z`. Numbers are written with their lowest
byte first.
-/

namespace CertScope.Ed25519

def prime : Nat := (1 <<< 255) - 19
def order : Nat := (1 <<< 252) + 27742317777372353535851937790883648493

def constant : Nat :=
  37095705934669439343138083508754565189542113879843219016388785533085940283555

def rootOfMinusOne : Nat :=
  19681161376707505956807079304988542015446066515923890162744021073123829784752

/-- A point in extended coordinates. -/
structure Point where
  x : Nat
  y : Nat
  z : Nat
  t : Nat
  deriving DecidableEq, Repr

namespace Point

def ofAffine (x y : Nat) : Point := ⟨x, y, 1, x * y % prime⟩

def neutral : Point := ⟨0, 1, 1, 0⟩

/-- The generator, whose y-coordinate is 4/5. -/
def base : Point :=
  ofAffine 15112221349535400772501151409588531511454012693041857206046113283949847762202
    46316835694926478169428394003475163141307993866256225615783033603165251855960

/-- The sum of two points; the formula holds for equal points too. -/
def add (left right : Point) : Point :=
  let a := Modular.minus prime left.y left.x * Modular.minus prime right.y right.x % prime
  let b := (left.y + left.x) * (right.y + right.x) % prime
  let c := 2 * constant * left.t * right.t % prime
  let d := 2 * left.z * right.z % prime
  let e := Modular.minus prime b a
  let f := Modular.minus prime d c
  let g := (d + c) % prime
  let h := (b + a) % prime
  ⟨e * f % prime, g * h % prime, f * g % prime, e * h % prime⟩

def negate (point : Point) : Point :=
  ⟨Modular.minus prime 0 point.x, point.y, point.z, Modular.minus prime 0 point.t⟩

/-- The sum of `first` times the point `left` and `second` times the point
`right`, bit by bit. -/
def combine (left right : Point) (first second : Nat) : Point :=
  if first = 0 ∧ second = 0 then neutral
  else
    let half := combine left right (first / 2) (second / 2)
    let doubled := half.add half
    let withLeft := if first % 2 = 1 then doubled.add left else doubled
    if second % 2 = 1 then withLeft.add right else withLeft
termination_by first + second

/-- The written form: the y-coordinate, with the lowest bit of the x-coordinate
on top. -/
def encode (point : Point) : Bytes :=
  let inverse := Modular.inverse prime point.z
  let x := point.x * inverse % prime
  let y := point.y * inverse % prime
  (Bytes.ofValue 32 (y + ((x % 2) <<< 255))).reverse

/-- Read a written point. The y-coordinate may exceed the prime. -/
def decode? (bytes : Bytes) : Option Point :=
  if bytes.length ≠ 32 then none
  else
    let number := Bytes.value bytes.reverse
    let sign := number >>> 255
    let y := number % (1 <<< 255) % prime
    let numerator := Modular.minus prime (y * y) 1
    let denominator := (constant * y * y + 1) % prime
    let cube := denominator * denominator * denominator % prime
    let seventh := cube * cube * denominator % prime
    let candidate :=
      numerator * cube * Modular.power (numerator * seventh % prime) ((prime - 5) / 8) prime %
        prime
    let square := denominator * candidate * candidate % prime
    let root? :=
      if square = numerator then some candidate
      else if (square + numerator) % prime = 0 then some (candidate * rootOfMinusOne % prime)
      else none
    root?.map fun root =>
      ofAffine (if root % 2 = sign then root else Modular.minus prime 0 root) y

end Point

/-- Verify a signature: the point it starts with has to be written exactly as
the verifier writes the one it computes. -/
def verify (key message signature : Bytes) : Bool :=
  let commitment := signature.take 32
  let scalar := Bytes.value (signature.drop 32).reverse
  match Point.decode? key with
  | none => false
  | some point =>
      let challenge :=
        Bytes.value (Digest.Sha512.digest (commitment ++ key ++ message)).reverse % order
      signature.length == 64 && decide (scalar < order) &&
        (Point.combine Point.base point.negate scalar challenge).encode == commitment

end CertScope.Ed25519
