import CertScope.Asn1.Strict
import CertScope.Signature.Hash
import CertScope.Signature.Modular

/-!
# RSA signatures

Verification of PKCS #1 signatures in both paddings. A key is a modulus of a
bounded size and an odd exponent below 2^33; a signature is as long as the
modulus and denotes a number below it.
-/

namespace CertScope.Rsa

structure Key where
  modulus : Nat
  exponent : Nat
  length : Nat
  deriving DecidableEq, Repr

def bitLength (number : Nat) : Nat := if number = 0 then 0 else Nat.log2 number + 1

/-- Read a key whose modulus has at least `minBits` bits, rounded up to whole
bytes, and at most 8192. -/
def Key.read? (minBits : Nat) (bytes : Bytes) : Option Key := do
  let (modulusOctets, exponentOctets) ← Strict.positivePair? bytes
  let modulus := Bytes.value modulusOctets
  let exponent := Bytes.value exponentOctets
  let length := modulusOctets.length
  if length * 8 < minBits ∨ 8192 < bitLength modulus ∨ modulus % 2 = 0 then none
  if 5 < exponentOctets.length ∨ exponent < 3 ∨ 1 <<< 33 ≤ exponent ∨ exponent % 2 = 0 then none
  return ⟨modulus, exponent, length⟩

/-- The padded digest that a signature hides, as long as the modulus. -/
def recover? (key : Key) (signature : Bytes) : Option Bytes :=
  let number := Bytes.value signature
  if signature.length ≠ key.length ∨ number = 0 ∨ key.modulus ≤ number then none
  else some (Bytes.ofValue key.length (Modular.power number key.exponent key.modulus))

def padded (hash : Hash) (length : Nat) (digest : Bytes) : Bytes :=
  let information := hash.informationHead ++ digest
  [0x00, 0x01] ++ List.replicate (length - information.length - 3) 0xFF ++ [0x00] ++ information

def verifyPkcs1 (hash : Hash) (minBits : Nat) (key message signature : Bytes) : Bool :=
  match Key.read? minBits key with
  | none => false
  | some key =>
      recover? key signature == some (padded hash key.length (hash.digest message))

def mask (hash : Hash) (seed : Bytes) (length : Nat) : Bytes :=
  let rounds := (length + hash.length - 1) / hash.length
  ((List.range rounds).flatMap fun counter =>
    hash.digest (seed ++ Bytes.ofValue 4 counter)).take length

/-- Whether a padded block of so many bits is the probabilistic padding of a
digest, with a salt as long as the digest. -/
def checkPss (hash : Hash) (bits : Nat) (digest block : Bytes) : Bool :=
  let length := (bits + 7) / 8
  let topMask := 0xFF >>> (8 * length - bits)
  let whole := block.drop (block.length - length)
  let maskedLength := length - hash.length - 1
  let masked := whole.take maskedLength
  let seed := (whole.drop maskedLength).take hash.length
  let top := (masked.headD 0).toNat
  let unmasked := (masked.zip (mask hash seed maskedLength)).map fun pair => pair.1 ^^^ pair.2
  let cleared := match unmasked with
    | [] => []
    | first :: rest => UInt8.ofNat (first.toNat &&& topMask) :: rest
  let zeros := maskedLength - hash.length - 1
  let salt := cleared.drop (zeros + 1)
  decide (hash.length + hash.length + 2 ≤ length) &&
    (block.take (block.length - length)).all (· == 0) &&
    whole.getLast? == some 0xBC &&
    top &&& topMask == top &&
    (cleared.take zeros).all (· == 0) &&
    cleared.getD zeros 0 == 1 &&
    seed == hash.digest (List.replicate 8 0 ++ digest ++ salt)

def verifyPss (hash : Hash) (key message signature : Bytes) : Bool :=
  match Key.read? 2048 key with
  | none => false
  | some key =>
      match recover? key signature with
      | none => false
      | some block => checkPss hash (bitLength key.modulus - 1) (hash.digest message) block

end CertScope.Rsa
