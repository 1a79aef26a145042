import CertScope.Bytes

/-!
# Strict reading

Path building and signature checking read encodings more strictly than the
report does: tag numbers stay below 31, and a length takes the fewest octets
and stays below 65535. A value is identified by its whole tag octet.
-/

namespace CertScope.Strict

def take? (count : Nat) (bytes : Bytes) : Option (Bytes × Bytes) :=
  if bytes.length < count then none else some (bytes.take count, bytes.drop count)

def length? : Bytes → Option (Nat × Bytes)
  | [] => none
  | 0x81 :: low :: rest => if low < 0x80 then none else some (low.toNat, rest)
  | 0x82 :: high :: low :: rest =>
      let length := high.toNat * 256 + low.toNat
      if length < 256 ∨ 65535 ≤ length then none else some (length, rest)
  | octet :: rest => if octet < 0x80 then some (octet.toNat, rest) else none

/-- Read one value: its tag octet, its contents, and what stands behind it. -/
def value? : Bytes → Option (UInt8 × Bytes × Bytes)
  | [] => none
  | tag :: rest => do
      if tag.toNat % 32 = 31 then none
      let (length, rest) ← length? rest
      let (contents, rest) ← take? length rest
      return (tag, contents, rest)

def expect? (tag : UInt8) (bytes : Bytes) : Option (Bytes × Bytes) := do
  let (found, contents, rest) ← value? bytes
  if found = tag then some (contents, rest) else none

def booleanTag : UInt8 := 0x01
def integerTag : UInt8 := 0x02
def bitStringTag : UInt8 := 0x03
def octetStringTag : UInt8 := 0x04
def oidTag : UInt8 := 0x06
def utcTimeTag : UInt8 := 0x17
def generalizedTimeTag : UInt8 := 0x18
def sequenceTag : UInt8 := 0x30

def explicitTag (tag : UInt8) : UInt8 := 0xA0 + tag

/-- The octets of an integer that is not negative, without the zero octet that
keeps its sign. -/
def unsignedOctets? : Bytes → Option Bytes
  | [] => none
  | [0] => some [0]
  | 0 :: second :: rest => if second < 0x80 then none else some (second :: rest)
  | first :: rest => if first < 0x80 then some (first :: rest) else none

def positive? (bytes : Bytes) : Option (Bytes × Bytes) := do
  let (contents, rest) ← expect? integerTag bytes
  let octets ← unsignedOctets? contents
  if octets = [0] then none
  return (octets, rest)

/-- The two positive integers of a sequence that holds nothing else. -/
def positivePair? (bytes : Bytes) : Option (Bytes × Bytes) := do
  let (contents, rest) ← expect? sequenceTag bytes
  if !rest.isEmpty then none
  let (first, left) ← positive? contents
  let (second, left) ← positive? left
  if !left.isEmpty then none
  return (first, second)

end CertScope.Strict
