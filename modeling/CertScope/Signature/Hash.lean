import CertScope.Digest.Sha1
import CertScope.Digest.Sha256
import CertScope.Digest.Sha512

/-!
# Digests used in signatures
-/

namespace CertScope

inductive Hash where
  | sha1
  | sha256
  | sha384
  | sha512
  deriving DecidableEq, Repr

namespace Hash

def digest : Hash → Bytes → Bytes
  | sha1 => Digest.Sha1.digest
  | sha256 => Digest.Sha256.digest
  | sha384 => Digest.Sha512.digest384
  | sha512 => Digest.Sha512.digest

def length : Hash → Nat
  | sha1 => 20
  | sha256 => 32
  | sha384 => 48
  | sha512 => 64

/-- What the encoded digest information puts in front of a digest. -/
def informationHead : Hash → Bytes
  | sha1 =>
      [0x30, 0x21, 0x30, 0x09, 0x06, 0x05, 0x2B, 0x0E, 0x03, 0x02, 0x1A, 0x05, 0x00, 0x04, 0x14]
  | sha256 =>
      [0x30, 0x31, 0x30, 0x0D, 0x06, 0x09, 0x60, 0x86, 0x48, 0x01, 0x65, 0x03, 0x04, 0x02, 0x01,
        0x05, 0x00, 0x04, 0x20]
  | sha384 =>
      [0x30, 0x41, 0x30, 0x0D, 0x06, 0x09, 0x60, 0x86, 0x48, 0x01, 0x65, 0x03, 0x04, 0x02, 0x02,
        0x05, 0x00, 0x04, 0x30]
  | sha512 =>
      [0x30, 0x51, 0x30, 0x0D, 0x06, 0x09, 0x60, 0x86, 0x48, 0x01, 0x65, 0x03, 0x04, 0x02, 0x03,
        0x05, 0x00, 0x04, 0x40]

end Hash

end CertScope
