import CertScope.Signature.Scheme
import CertScope.X509.SignedCertificate

/-!
# Signatures on certificates

Which way of signing an algorithm identifier names, given the key that is to
verify. The curve is the one that the key's own parameters name, and the digest
of the probabilistic padding the one that the algorithm's parameters name.
-/

namespace CertScope.X509

open Asn1

/-- The identifier 1.2.840.113549.1.1 followed by `arc`. -/
def pkcs1Id (arc : UInt8) : Oid := ⟨[0x2A, 0x86, 0x48, 0x86, 0xF7, 0x0D, 0x01, 0x01, arc]⟩

/-- The identifier of SHA-1 with RSA that predates the PKCS family. -/
def oldSha1RsaId : Oid := ⟨[0x2B, 0x0E, 0x03, 0x02, 0x1D]⟩

def ecdsaSha256Id : Oid := ⟨[0x2A, 0x86, 0x48, 0xCE, 0x3D, 0x04, 0x03, 0x02]⟩
def ecdsaSha384Id : Oid := ⟨[0x2A, 0x86, 0x48, 0xCE, 0x3D, 0x04, 0x03, 0x03]⟩
def ed25519Id : Oid := ⟨[0x2B, 0x65, 0x70]⟩
def sha1Id : Oid := ⟨[0x2B, 0x0E, 0x03, 0x02, 0x1A]⟩
def sha256Id : Oid := ⟨[0x60, 0x86, 0x48, 0x01, 0x65, 0x03, 0x04, 0x02, 0x01]⟩
def sha384Id : Oid := ⟨[0x60, 0x86, 0x48, 0x01, 0x65, 0x03, 0x04, 0x02, 0x02]⟩
def sha512Id : Oid := ⟨[0x60, 0x86, 0x48, 0x01, 0x65, 0x03, 0x04, 0x02, 0x03]⟩

def curveOf? (key : PublicKey) : Option Ecdsa.Curve := do
  let parameters ← key.algorithm.parameters
  if parameters.contents = [0x2A, 0x86, 0x48, 0xCE, 0x3D, 0x03, 0x01, 0x07] then some .p256
  else if parameters.contents = [0x2B, 0x81, 0x04, 0x00, 0x22] then some .p384
  else none

def readTagged? {value : Type} (tag : Nat) (inner : Reader Fault value) :
    Reader Fault (Option value) := fun bytes =>
  if bytes.isEmpty then .ok (none, bytes)
  else do
    let (element, rest) ← lift (readElement bytes)
    if element.header.tag ≠ tag then return (none, bytes)
    else if element.header.tagClass ≠ .contextSpecific then
      throw (.refused (.encoding (.unexpectedClass .contextSpecific element.header.tagClass)))
    else
      let (value, _) ← inner element.contents
      return (some value, rest)

def readPssDigest (parameters : Element) : Except (Failure Fault) (Option Oid) := do
  lift (refuse (expectTag Tag.sequence parameters.header))
  let (digest, rest) ← readTagged? 0 AlgorithmId.read parameters.contents
  let (_, rest) ← readTagged? 1 AlgorithmId.read rest
  let (_, rest) ← readTagged? 2 (fun bytes => lift (readUInt32 bytes)) rest
  let _ ← readTagged? 3 (fun bytes => lift (readUInt32 bytes)) rest
  return digest.map AlgorithmId.id

def pssScheme? (parameters : Option Element) : Option SignatureScheme := do
  let parameters ← parameters
  let digest ← (readPssDigest parameters).toOption.join
  if digest = sha256Id then some (.rsaPss .sha256)
  else if digest = sha384Id then some (.rsaPss .sha384)
  else if digest = sha512Id then some (.rsaPss .sha512)
  else none

def schemeOf? (key : PublicKey) (algorithm : AlgorithmId) : Option SignatureScheme :=
  let id := algorithm.id
  if id = pkcs1Id 5 ∨ id = oldSha1RsaId then some (.rsa .sha1 1024)
  else if id = pkcs1Id 11 then some (.rsa .sha256 2048)
  else if id = pkcs1Id 12 then some (.rsa .sha384 2048)
  else if id = pkcs1Id 13 then some (.rsa .sha512 2048)
  else if id = pkcs1Id 10 then pssScheme? algorithm.parameters
  else if id = ecdsaSha256Id then (curveOf? key).map (.ecdsa · .sha256)
  else if id = ecdsaSha384Id then (curveOf? key).map (.ecdsa · .sha384)
  else if id = ed25519Id then some .ed25519
  else none

def SignedCertificate.isSignedBy (certificate : SignedCertificate) (key : PublicKey) : Bool :=
  (schemeOf? key certificate.algorithm).any fun scheme =>
    scheme.verify key.bits.octets certificate.signedPart certificate.signature.octets

end CertScope.X509
