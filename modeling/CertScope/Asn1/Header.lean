import CertScope.Bytes
import CertScope.Asn1.Error

/-!
# Identifier and length octets

Every encoded value starts with its class, form and tag number, followed by the
length of its contents. The basic rules allow an indefinite length on a
constructed value, whose contents then run to a matching end-of-contents mark;
the distinguished rules do not. Lengths need not be minimal under either.
-/

namespace CertScope.Asn1

namespace Tag

/-! The universal tag numbers in use. -/

def endOfContents : Nat := 0
def boolean : Nat := 1
def integer : Nat := 2
def bitString : Nat := 3
def octetString : Nat := 4
def null : Nat := 5
def objectIdentifier : Nat := 6
def objectDescriptor : Nat := 7
def enumerated : Nat := 10
def utf8String : Nat := 12
def sequence : Nat := 16
def set : Nat := 17
def numericString : Nat := 18
def printableString : Nat := 19
def t61String : Nat := 20
def videotexString : Nat := 21
def ia5String : Nat := 22
def utcTime : Nat := 23
def generalizedTime : Nat := 24
def graphicString : Nat := 25
def visibleString : Nat := 26
def generalString : Nat := 27
def universalString : Nat := 28
def bmpString : Nat := 30

end Tag

inductive Length where
  | definite (count : Nat)
  | indefinite
  deriving DecidableEq, Repr

structure Header where
  tagClass : TagClass
  constructed : Bool
  tag : Nat
  length : Length
  deriving DecidableEq, Repr

/-- A value with its contents still encoded. -/
structure Element where
  header : Header
  contents : Bytes
  deriving DecidableEq, Repr

def TagClass.ofOctet (octet : UInt8) : TagClass :=
  match octet.toNat / 64 with
  | 0 => .universal
  | 1 => .application
  | 2 => .contextSpecific
  | _ => .privateUse

def take {cause : Type} (count : Nat) : Reader cause Bytes := fun bytes =>
  if bytes.length < count then .error (.needs (count - bytes.length))
  else .ok (bytes.take count, bytes.drop count)

/-- A tag number of 31 and more: base 128, most significant digit first, in at
most five octets, kept to 32 bits. -/
def readHighTag (budget : Nat) (number : Nat) : Reader Error Nat
  | [] => .error (.refused .invalidTag)
  | octet :: rest =>
      match budget with
      | 0 => .error (.refused .invalidTag)
      | budget + 1 =>
          let number := (number * 128 + octet.toNat % 128) % (1 <<< 32)
          if octet < 0x80 then .ok (number, rest) else readHighTag budget number rest

def readIdentifier : Reader Error (TagClass × Bool × Nat)
  | [] => .error (.needs 1)
  | octet :: rest => do
      let constructed := octet.toNat / 32 % 2 == 1
      let low := octet.toNat % 32
      if low = 31 then
        let (tag, rest) ← readHighTag 5 0 rest
        return ((TagClass.ofOctet octet, constructed, tag), rest)
      else
        return ((TagClass.ofOctet octet, constructed, low), rest)

/-- The length octets. `ifIndefinite` is the verdict on the indefinite form. -/
def readLength (ifIndefinite : Except Error Unit) : Reader Error Length
  | [] => .error (.needs 1)
  | octet :: rest => do
      if octet < 0x80 then return (.definite octet.toNat, rest)
      else if octet = 0x80 then
        match ifIndefinite with
        | .error why => throw (.refused why)
        | .ok () => return (.indefinite, rest)
      else if octet = 0xFF then throw (.refused .invalidLength)
      else
        let (digits, rest) ← take (octet.toNat - 128) rest
        if 1 <<< 64 ≤ Bytes.value digits then throw (.refused .invalidLength)
        else return (.definite (Bytes.value digits), rest)

def readBasicHeader : Reader Error Header := fun bytes => do
  let ((tagClass, constructed, tag), rest) ← readIdentifier bytes
  let verdict := if constructed then .ok () else .error .constructExpected
  let (length, rest) ← readLength verdict rest
  return (⟨tagClass, constructed, tag, length⟩, rest)

def readHeader : Reader Error Header := fun bytes => do
  let ((tagClass, constructed, tag), rest) ← readIdentifier bytes
  let (length, rest) ← readLength (.error (.constraint .indefiniteLength)) rest
  return (⟨tagClass, constructed, tag, length⟩, rest)

/-- The length of a header that was read under the distinguished rules. -/
def Header.count (header : Header) : Nat :=
  match header.length with
  | .definite count => count
  | .indefinite => 0

def readElement : Reader Error Element := fun bytes => do
  let (header, rest) ← readHeader bytes
  let (contents, rest) ← take header.count rest
  return (⟨header, contents⟩, rest)

def maxDepth : Nat := 50

/-- The number of bytes up to the end-of-contents mark that closes indefinite
contents, and the number with the mark. `steps` bounds the values passed. -/
def skipIndefinite (depth steps : Nat) (passed : Nat) (bytes : Bytes) :
    Except (Failure Error) Nat :=
  match depth, steps with
  | 0, _ => .error (.refused .tooDeep)
  | _, 0 => .error (.needs 1)
  | depth + 1, steps + 1 => do
      let (header, rest) ← readBasicHeader bytes
      let headerLength := bytes.length - rest.length
      match header.length with
      | .definite count =>
          if depth = 0 then throw (.refused .tooDeep)
          else if count = 0 ∧ header.tag = Tag.endOfContents then
            return passed + headerLength
          else
            let (_, after) ← take count rest
            skipIndefinite (depth + 1) steps (passed + headerLength + count) after
      | .indefinite =>
          let inner ← skipIndefinite depth steps 0 rest
          skipIndefinite (depth + 1) steps (passed + headerLength + inner) (rest.drop inner)

def takeContents (depth : Nat) (header : Header) : Reader Error Bytes := fun bytes =>
  match header.length with
  | .definite count =>
      if depth = 0 then .error (.refused .tooDeep) else take count bytes
  | .indefinite => do
      let count ← skipIndefinite depth bytes.length 0 bytes
      return (bytes.take (count - 2), bytes.drop count)

def readBasicElement : Reader Error Element := fun bytes => do
  let (header, rest) ← readBasicHeader bytes
  let (contents, rest) ← takeContents maxDepth header rest
  return (⟨header, contents⟩, rest)

end CertScope.Asn1
