import CertScope.Asn1.Strict
import CertScope.Calendar
import CertScope.Trust.Error

/-!
# Reading for path building

Readers that fail for a reason which path building ranks. A value that is cut
short or carries another tag is malformed; a value that something follows, or
that its readers do not take up whole, is told apart where it matters.
-/

namespace CertScope

abbrev PathReader := StateT Bytes (Except PathError)

namespace PathReader

def whole {value : Type} (trailing : PathError) (reader : PathReader value) (bytes : Bytes) :
    Except PathError value := do
  let (result, rest) ← reader bytes
  if rest.isEmpty then return result else throw trailing

def peek (tag : UInt8) : PathReader Bool := fun bytes =>
  .ok (bytes.head? == some tag, bytes)

def atEnd : PathReader Bool := fun bytes => .ok (bytes.isEmpty, bytes)
def remainder : PathReader Bytes := fun bytes => .ok (bytes, [])

def expect (tag : UInt8) : PathReader Bytes := fun bytes =>
  match Strict.expect? tag bytes with
  | some read => .ok read
  | none => .error .malformed

/-- Read the contents of a value with a tag octet. The same reason is given if
there is no such value and if the contents are not taken up whole. -/
def nested {value : Type} (tag : UInt8) (fault : PathError) (inner : PathReader value) :
    PathReader value := fun bytes =>
  match Strict.expect? tag bytes with
  | some (contents, rest) => do return (← whole fault inner contents, rest)
  | none => .error fault

def sequence : PathReader Bytes := expect Strict.sequenceTag

def byte (fault : PathError) : PathReader UInt8 := fun bytes =>
  match bytes with
  | [] => .error fault
  | first :: rest => .ok (first, rest)

def bits : PathReader Bytes :=
  nested Strict.bitStringTag (.trailing .bitString) do
    if (← byte .malformed) ≠ 0 then throw .malformed
    remainder

/-- A truth value, which is false when it is left out. -/
def boolean : PathReader Bool := do
  if ← peek Strict.booleanTag then
    nested Strict.booleanTag (.trailing .boolean) do
      let octet ← byte .malformed
      if octet = 0xFF then return true
      else if octet = 0 then return false
      else throw .malformed
  else return false

def small : PathReader Nat := do
  match Strict.unsignedOctets? (← expect Strict.integerTag) with
  | some [octet] => return octet.toNat
  | _ => throw .malformed

def digit : PathReader Nat := do
  let octet ← byte .malformedTime
  if 48 ≤ octet ∧ octet ≤ 57 then return octet.toNat - 48 else throw .malformedTime

def pair (low high : Nat) : PathReader Nat := do
  let number := (← digit) * 10 + (← digit)
  if low ≤ number ∧ number ≤ high then return number else throw .malformedTime

/-- The year of a time: two digits stand for a year from 1950 to 2049. -/
def year (short : Bool) : PathReader Nat := do
  if short then
    let low ← pair 0 99
    return if 50 ≤ low then 1900 + low else 2000 + low
  else
    let high ← pair 0 99
    return high * 100 + (← pair 0 99)

/-- The second that a time names: the form is the short one if its tag comes
next, seconds and the zone have to be there, and no year lies before 1970. -/
def time : PathReader Int := do
  let short ← peek Strict.utcTimeTag
  let tag := if short then Strict.utcTimeTag else Strict.generalizedTimeTag
  nested tag (.trailing .time) do
    let year ← year short
    let month ← pair 1 12
    let day ← pair 1 (Date.daysIn year month)
    let hour ← pair 0 23
    let minute ← pair 0 59
    let second ← pair 0 59
    if (← byte .malformedTime) ≠ 90 ∨ year < 1970 then throw .malformedTime
    return Instant.secondsOf ⟨year, month, day⟩ hour minute second

end PathReader

end CertScope
