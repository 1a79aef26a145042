import CertScope.X509.Extension

/-!
# Certificates as they are signed

The fields of a certificate, read leniently: what the report and the revocation
checks use is decoded, and what cannot be decoded refuses the certificate with
the field at fault. Bytes behind the certificate are left to the caller.
-/

namespace CertScope.X509

open Asn1

structure AlgorithmId where
  id : Oid
  parameters : Option Element
  deriving DecidableEq, Repr

def AlgorithmId.read : Reader Fault AlgorithmId := fun bytes => do
  let (element, rest) ← lift (readElement bytes)
  lift (refuse (expectTag Tag.sequence element.header))
  let (id, left) ← (readOid element.contents).mapError (Failure.map fun _ => .algorithm)
  if left.isEmpty then return (⟨id, none⟩, rest)
  else
    let (parameters, _) ← lift (readElement left)
    return (⟨id, some parameters⟩, rest)

structure PublicKey where
  algorithm : AlgorithmId
  bits : BitString
  deriving DecidableEq, Repr

def PublicKey.read : Reader Fault PublicKey :=
  readContainer Tag.sequence fun bytes => do
    let (algorithm, rest) ← AlgorithmId.read bytes
    let (bits, _) ← orElse .publicKey (readBitString rest)
    return ⟨algorithm, bits⟩

def readDate : Reader Fault Int := fun bytes =>
  match readTime? bytes with
  | some read => .ok read
  | none => .error (.refused .date)

/-- The seconds between which a certificate is valid, both included. -/
structure Validity where
  notBefore : Int
  notAfter : Int
  deriving DecidableEq, Repr

def Validity.read : Reader Fault Validity :=
  readContainer Tag.sequence fun bytes => do
    let (notBefore, rest) ← readDate bytes
    let (notAfter, _) ← readDate rest
    return ⟨notBefore, notAfter⟩

/-- Read a serial number: the octets of an integer, whatever its form. -/
def readSerial : Reader Fault Bytes := fun bytes => do
  let (element, rest) ← orElse .serial (readBasicElement bytes)
  orElse .serial (refuse (expectTag Tag.integer element.header))
  return (element.contents, rest)

def skipVersion (bytes : Bytes) : Except (Failure Fault) Bytes :=
  if bytes.isEmpty then .ok bytes
  else do
    let (element, rest) ← lift (readElement bytes)
    if element.header.tag ≠ 0 then return bytes
    else if element.header.tagClass ≠ .contextSpecific then
      throw (.refused (.encoding (.unexpectedClass .contextSpecific element.header.tagClass)))
    else
      let _ ← orElse .version (readUInt32 element.contents)
      return rest

def skipUniqueId (tag : Nat) (fault : Fault) (bytes : Bytes) :
    Except (Failure Fault) Bytes :=
  if bytes.isEmpty then .ok bytes
  else do
    let (header, _) ← orElse fault (readHeader bytes)
    if header.tag ≠ tag ∨ header.tagClass ≠ .contextSpecific then return bytes
    else
      let (element, rest) ← orElse fault (readElement bytes)
      if element.contents.isEmpty then throw (.refused fault)
      return rest

structure SignedCertificate where
  /-- The octets of the serial number as they are encoded. -/
  serial : Bytes
  issuer : Name
  validity : Validity
  subject : Name
  publicKey : PublicKey
  extensions : List Extension
  signedPart : Bytes
  algorithm : AlgorithmId
  signature : BitString
  deriving DecidableEq, Repr

namespace SignedCertificate

structure Body where
  serial : Bytes
  issuer : Name
  validity : Validity
  subject : Name
  publicKey : PublicKey
  extensions : List Extension

def readFields (bytes : Bytes) : Except (Failure Fault) Body := do
  let rest ← skipVersion bytes
  let (serial, rest) ← readSerial rest
  let (_, rest) ← AlgorithmId.read rest
  let (issuer, rest) ← readName rest
  let (validity, rest) ← Validity.read rest
  let (subject, rest) ← readName rest
  let (publicKey, rest) ← PublicKey.read rest
  let rest ← skipUniqueId 1 .issuerId rest
  let rest ← skipUniqueId 2 .subjectId rest
  let extensions ← Extension.ofExplicit 3 rest
  return ⟨serial, issuer, validity, subject, publicKey, extensions⟩

def read : Reader Fault SignedCertificate :=
  readContainer Tag.sequence fun bytes => do
    let (body, rest) ← readContainer Tag.sequence readFields bytes
    let (algorithm, afterAlgorithm) ← AlgorithmId.read rest
    let (signature, _) ← orElse .signature (readBitString afterAlgorithm)
    return {
      serial := body.serial
      issuer := body.issuer
      validity := body.validity
      subject := body.subject
      publicKey := body.publicKey
      extensions := body.extensions
      signedPart := bytes.take (bytes.length - rest.length)
      algorithm
      signature }

/-- The purposes that extended key usage lists, if it can be told. -/
def purposes? (certificate : SignedCertificate) : Option (List Oid) :=
  match Extension.findUnique Extension.extendedKeyUsageId certificate.extensions with
  | some (.extendedKeyUsage purposes) => some purposes
  | _ => none

end SignedCertificate

end CertScope.X509
