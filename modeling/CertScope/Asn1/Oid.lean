import CertScope.Bytes

/-!
# Object identifiers

An identifier is kept in its encoded form, which is what two identifiers are
compared by; the dotted form is for display. The first octet packs two arcs,
and every further arc is written in base 128.
-/

namespace CertScope.Asn1

structure Oid where
  octets : Bytes
  deriving DecidableEq, Repr

namespace Oid

/-- The arcs behind the first octet, with the digits of an arc that has begun.
An arc that the octets end in the middle of counts as it stands. -/
def arcs (begun : Option Nat) : Bytes → List Nat
  | [] => begun.toList
  | octet :: rest =>
      let number := begun.getD 0 * 128 + octet.toNat % 128
      if octet < 0x80 then number :: arcs none rest else arcs (some number) rest

def components (oid : Oid) : List Nat :=
  match oid.octets with
  | [] => []
  | [0] => [0]
  | first :: rest => first.toNat / 40 :: first.toNat % 40 :: arcs none rest

def dotted (oid : Oid) : String := String.intercalate "." (oid.components.map toString)

def encodeArc (number : Nat) : Bytes :=
  let rec high (number : Nat) : Bytes :=
    if number = 0 then [] else high (number / 128) ++ [UInt8.ofNat (number % 128 + 128)]
  high (number / 128) ++ [UInt8.ofNat (number % 128)]

def ofComponents : List Nat → Oid
  | first :: second :: rest =>
      ⟨UInt8.ofNat (first * 40 + second) :: rest.flatMap encodeArc⟩
  | _ => ⟨[]⟩

end Oid

end CertScope.Asn1
