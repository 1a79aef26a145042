import CertScope.Asn1.Oid
import CertScope.Asn1.Time

/-!
# Single values

Readers for one value of a known type. A tag is compared by its number, and an
object identifier is recognised by its place alone, so that its tag is not
looked at. Integers, bit strings and booleans have to be in their
distinguished form.
-/

namespace CertScope.Asn1

def refuse {value : Type} (verdict : Except Error value) : Except (Failure Error) value :=
  verdict.mapError .refused

def expectPrimitive (header : Header) : Except Error Unit :=
  if header.constructed then .error .constructUnexpected else .ok ()

def expectTag (tag : Nat) (header : Header) : Except Error Unit :=
  if header.tag = tag then .ok () else .error (.unexpectedTag (some tag) header.tag)

def readOid : Reader Error Oid := fun bytes => do
  let (element, rest) ← readElement bytes
  refuse (expectPrimitive element.header)
  return (⟨element.contents⟩, rest)

/-- The rules for the contents of an integer: not empty, and no leading octet
that could be left out. -/
def checkInteger : Bytes → Except Error Unit
  | [] => .error (.constraint .integerEmpty)
  | [_] => .ok ()
  | first :: second :: _ =>
      if first = 0 ∧ second < 0x80 then .error (.constraint .integerLeadingZeroes)
      else if first = 0xFF ∧ 0x80 ≤ second then .error (.constraint .integerLeadingFF)
      else .ok ()

def unsignedOf (width : Nat) (contents : Bytes) : Except Error Nat :=
  if 0x80 ≤ contents.headD 0 then .error .integerNegative
  else if width < (Bytes.trimZeros contents).length then .error .integerTooLarge
  else .ok (Bytes.value contents)

def readUInt32 : Reader Error Nat := fun bytes => do
  let (element, rest) ← readElement bytes
  refuse do
    expectPrimitive element.header
    checkInteger element.contents
    expectTag Tag.integer element.header
  let number ← refuse (unsignedOf 4 element.contents)
  return (number, rest)

/-- A string of bits in whole octets, with the number of bits at the end that
do not belong to it. -/
structure BitString where
  unused : Nat
  octets : Bytes
  deriving DecidableEq, Repr

def trailingZeros (octet : UInt8) : Nat :=
  ((List.range 8).takeWhile fun bit => !octet.toNat.testBit bit).length

/-- The rules for the contents of a bit string: unused bits are zero, and an
empty string has none. -/
def checkBitString : Bytes → Except Error Unit
  | [] => .error .invalidLength
  | [unused] => if unused = 0 then .ok () else .error .invalidLength
  | unused :: octets =>
      if trailingZeros (octets.getLastD 0) < unused.toNat then
        .error (.constraint .unusedBitsNotZero)
      else .ok ()

def bitStringOf : Bytes → Except Error BitString
  | [] => .error .invalidLength
  | unused :: octets => .ok ⟨unused.toNat, octets⟩

def readBitString : Reader Error BitString := fun bytes => do
  let (element, rest) ← readElement bytes
  refuse do
    expectPrimitive element.header
    checkBitString element.contents
    expectTag Tag.bitString element.header
  let bits ← refuse (bitStringOf element.contents)
  return (bits, rest)

def readOctetString : Reader Error Bytes := fun bytes => do
  let (element, rest) ← readElement bytes
  refuse do
    expectPrimitive element.header
    expectTag Tag.octetString element.header
  return (element.contents, rest)

/-- Read a time of either type as it is written. The longer type has to end in
`Z` and to use no comma. -/
def readCivilTime? (bytes : Bytes) : Option (CivilTime × Bytes) :=
  match readElement bytes with
  | .error _ => none
  | .ok (element, rest) =>
      if element.header.tag = Tag.utcTime then do
        let time ← (timeOf Tag.utcTime element.contents).toOption
        return (time.widenYear, rest)
      else if element.header.tag = Tag.generalizedTime then
        if element.contents.getLast? ≠ some 90 ∨ 44 ∈ element.contents then none
        else do
          let time ← (timeOf Tag.generalizedTime element.contents).toOption
          return (time, rest)
      else none

/-- Read a time of either type as a second; none if it names no moment. -/
def readTime? (bytes : Bytes) : Option (Int × Bytes) := do
  let (time, rest) ← readCivilTime? bytes
  let seconds ← time.seconds?
  return (seconds, rest)

end CertScope.Asn1
