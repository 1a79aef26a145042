import CertScope.Asn1.Oid
import CertScope.Asn1.Header

/-!
# Writing values

The distinguished encoding of a value from its tag octet and its contents. A
length below 128 is one octet; a longer one is written in the fewest octets
behind their number.
-/

namespace CertScope.Asn1

/-- The octets of a number in base 256, most significant first, and none for
zero. -/
def numberOctets (number : Nat) : Bytes :=
  if number = 0 then [] else numberOctets (number / 256) ++ [UInt8.ofNat number]

def encodeLength (length : Nat) : Bytes :=
  if length < 128 then [UInt8.ofNat length]
  else
    let octets := numberOctets length
    UInt8.ofNat (128 + octets.length) :: octets

def encode (tag : UInt8) (contents : Bytes) : Bytes :=
  tag :: (encodeLength contents.length ++ contents)

def encodeSequence (parts : List Bytes) : Bytes := encode 0x30 parts.flatten

/-- An integer of the given octets, which are kept as they are. -/
def encodeInteger (octets : Bytes) : Bytes := encode 0x02 octets

def encodeOctetString (octets : Bytes) : Bytes := encode 0x04 octets

def encodeNull : Bytes := encode 0x05 []

def encodeOid (oid : Oid) : Bytes := encode 0x06 oid.octets

end CertScope.Asn1
