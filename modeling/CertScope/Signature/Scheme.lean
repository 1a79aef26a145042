import CertScope.Signature.Ecdsa
import CertScope.Signature.Ed25519
import CertScope.Signature.Rsa

/-!
# Signature schemes

The ways of signing that a verifier accepts. A key is the contents of the bit
string in which a certificate carries it.
-/

namespace CertScope

inductive SignatureScheme where
  /-- RSA with the deterministic padding and a least size of the modulus. -/
  | rsa (hash : Hash) (minBits : Nat)
  /-- RSA with the probabilistic padding. -/
  | rsaPss (hash : Hash)
  | ecdsa (curve : Ecdsa.Curve) (hash : Hash)
  | ed25519
  deriving DecidableEq, Repr

def SignatureScheme.verify : SignatureScheme → (key message signature : Bytes) → Bool
  | rsa hash minBits => Rsa.verifyPkcs1 hash minBits
  | rsaPss hash => Rsa.verifyPss hash
  | ecdsa curve hash => Ecdsa.verify curve hash
  | ed25519 => Ed25519.verify

end CertScope
