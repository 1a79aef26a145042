import CertScope.Trust.HostName
import CertScope.Trust.Reading

/-!
# Name constraints

An authority may restrict the names in the certificates below it: names of a
kind that is permitted somewhere have to lie within one of the permitted trees,
and no name may lie within an excluded one.
-/

namespace CertScope

open PathReader

inductive PathName where
  | host (name : Bytes)
  | directory
  | address (octets : Bytes)
  | uri
  /-- A kind that cannot be constrained, by its tag. -/
  | unsupported (tag : Nat)
  deriving DecidableEq, Repr

namespace PathName

def read : PathReader PathName := fun bytes =>
  match Strict.value? bytes with
  | none => .error .malformed
  | some (tag, contents, rest) =>
      match tag.toNat with
      | 0x82 => .ok (.host contents, rest)
      | 0xA4 => .ok (.directory, rest)
      | 0x87 => .ok (.address contents, rest)
      | 0x86 => .ok (.uri, rest)
      | 0xA0 => .ok (.unsupported 0, rest)
      | 0x81 => .ok (.unsupported 1, rest)
      | 0xA3 => .ok (.unsupported 3, rest)
      | 0xA5 => .ok (.unsupported 5, rest)
      | 0x88 => .ok (.unsupported 8, rest)
      | _ => .error .malformed

def isMaskOctet (octet : UInt8) : Bool :=
  [0x00, 0x80, 0xC0, 0xE0, 0xF0, 0xF8, 0xFC, 0xFE, 0xFF].contains octet

/-- Whether an address lies within a network, octet by octet. The mask is looked
at up to the first octet that differs, and has to be a run of ones and then a
run of zeros; `open_` says that no zero was seen yet. -/
def isInNetwork (open_ : Bool) : Bytes → Bytes → Bytes → Except PathError Bool
  | octet :: octets, base :: bases, mask :: masks =>
      if !isMaskOctet mask || (!open_ && mask != 0) then .error .networkMask
      else if (octet ^^^ base) &&& mask != 0 then .ok false
      else isInNetwork (open_ && mask == 0xFF) octets bases masks
  | _, _, _ => .ok true

def isAddressWithin (address constraint : Bytes) : Except PathError Bool :=
  let width := address.length
  if width ≠ 4 ∧ width ≠ 16 then .error .malformed
  else if constraint.length = 2 * width then
    isInNetwork true address (constraint.take width) (constraint.drop width)
  else if constraint.length = 8 ∨ constraint.length = 32 then .ok false
  else .error .networkMask

/-- Whether a name lies within a constraint of its kind; none if the kinds
differ. A directory name lies within no permitted tree and within every
excluded one. -/
def isWithin (excluded : Bool) : PathName → PathName → Option (Except PathError Bool)
  | host name, host base => some (HostName.isWithin name base)
  | directory, directory => some (.ok excluded)
  | address octets, address base => some (isAddressWithin octets base)
  | unsupported tag, unsupported base =>
      if tag = base then some (.error .nameConstraint) else none
  | _, _ => none

end PathName

end CertScope
