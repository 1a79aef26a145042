import CertScope.Trust.Reading

/-!
# Certificates on a path

A certificate as path building sees it: names, key and validity stay encoded and
are compared octet by octet, and the extensions that bear on a path are
remembered. Critical extensions that are not known refuse the certificate.
-/

namespace CertScope

open Strict PathReader

structure SignedData where
  message : Bytes
  /-- The contents of the algorithm identifier. -/
  algorithm : Bytes
  signature : Bytes
  deriving DecidableEq, Repr

/-- The extensions that path building remembers, by their contents. -/
structure PathExtensions where
  keyUsage : Option Bytes := none
  alternativeNames : Option Bytes := none
  basicConstraints : Option Bytes := none
  nameConstraints : Option Bytes := none
  distributionPoints : Option Bytes := none
  purposes : Option Bytes := none
  deriving DecidableEq, Repr

structure PathCertificate where
  signed : SignedData
  issuer : Bytes
  validity : Bytes
  subject : Bytes
  /-- The algorithm and the key, behind each other. -/
  publicKey : Bytes
  extensions : PathExtensions
  deriving DecidableEq, Repr

namespace PathCertificate

/-- Read the signed part, with the octets that are signed, and the signature. -/
def readSigned : PathReader (Bytes × SignedData) := fun bytes => do
  let (body, rest) ← sequence bytes
  let (algorithm, left) ← sequence rest
  let (signature, left) ← bits left
  return ((body, ⟨bytes.take (bytes.length - rest.length), algorithm, signature⟩), left)

/-- Remember the value of an extension that may occur only once. -/
def once (old : Option Bytes) (reader : PathReader Bytes) (value : Bytes) :
    Except PathError (Option Bytes) :=
  match old with
  | some _ => .error .extensionValue
  | none => (whole .malformed reader value).map some

def remember (known : PathExtensions) (id : Bytes) (critical : Bool) (value : Bytes) :
    Except PathError PathExtensions :=
  match id with
  | [0x55, 0x1D, 15] => do
      return { known with keyUsage := ← once known.keyUsage remainder value }
  | [0x55, 0x1D, 17] => do
      return { known with alternativeNames := ← once known.alternativeNames sequence value }
  | [0x55, 0x1D, 19] => do
      return { known with basicConstraints := ← once known.basicConstraints sequence value }
  | [0x55, 0x1D, 30] => do
      return { known with nameConstraints := ← once known.nameConstraints sequence value }
  | [0x55, 0x1D, 31] => do
      return { known with distributionPoints := ← once known.distributionPoints sequence value }
  | [0x55, 0x1D, 37] => do
      return { known with purposes := ← once known.purposes sequence value }
  | _ => if critical then .error .criticalExtension else .ok known

def readExtension (known : PathExtensions) : PathReader PathExtensions :=
  nested sequenceTag (.trailing .extension) do
    let id ← expect oidTag
    let critical ← boolean
    let value ← expect octetStringTag
    remember known id critical value

/-- Read extensions until the bytes end; there has to be at least one. `steps`
bounds their number. -/
def readExtensions (known : PathExtensions) : Nat → PathReader PathExtensions
  | 0 => throw (.trailing .extension)
  | steps + 1 => do
      let known ← readExtension known
      if ← atEnd then return known else readExtensions known steps

def readOptionalExtensions : PathReader PathExtensions := do
  if ← atEnd then return {}
  else
    nested (explicitTag 3) (.trailing .extensions) <|
      nested sequenceTag (.trailing .extension) fun bytes =>
        readExtensions {} bytes.length bytes

/-- Refuse every version but the third. -/
def readVersion : PathReader Unit :=
  nested (explicitTag 0) .version do
    if (← small) ≠ 2 then throw .version

def readBody (signed : SignedData) : PathReader PathCertificate := do
  readVersion
  let _ ← expect integerTag
  if (← sequence) ≠ signed.algorithm then throw .algorithmMismatch
  let issuer ← sequence
  let validity ← sequence
  let subject ← sequence
  let publicKey ← sequence
  let extensions ← readOptionalExtensions
  return ⟨signed, issuer, validity, subject, publicKey, extensions⟩

def ofBytes (bytes : Bytes) : Except PathError PathCertificate := do
  let (body, signed) ←
    whole (.trailing .certificate)
      (nested sequenceTag (.trailing .signedData) readSigned) bytes
  whole (.trailing .body) (readBody signed) body

end PathCertificate

structure TrustAnchor where
  subject : Bytes
  publicKey : Bytes
  nameConstraints : Option Bytes
  deriving DecidableEq, Repr

namespace TrustAnchor

/-- The name and the key of a certificate of the first version, which has no
extensions. -/
def readFirstVersion : PathReader TrustAnchor :=
  nested sequenceTag .malformed do
    let anchor ← nested sequenceTag .malformed do
      let _ ← expect integerTag
      let _ ← sequence
      let _ ← sequence
      let _ ← sequence
      let subject ← sequence
      return ⟨subject, ← sequence, none⟩
    let _ ← sequence
    let _ ← expect bitStringTag
    return anchor

/-- The anchor that a certificate is, of the third version or else of the
first. -/
def ofBytes (bytes : Bytes) : Except PathError TrustAnchor :=
  match PathCertificate.ofBytes bytes with
  | .ok certificate =>
      .ok ⟨certificate.subject, certificate.publicKey, certificate.extensions.nameConstraints⟩
  | .error .version => whole .malformed readFirstVersion bytes
  | .error error => .error error

end TrustAnchor

end CertScope
