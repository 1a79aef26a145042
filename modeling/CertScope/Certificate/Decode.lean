import CertScope.Certificate
import CertScope.Certificate.Address
import CertScope.Digest.Sha256
import CertScope.Pem.Bundle
import CertScope.X509.SignedCertificate

/-!
# Decoding certificates

A byte string is decoded as one whole certificate, and a bundle as a chain whose
first certificate is the leaf.
-/

namespace CertScope

open Asn1 X509

/-- Why there is no certificate to inspect. -/
inductive InspectError where
  | noCertificateData
  | malformed (failure : Failure Fault)
  | trailing (count : Nat)
  deriving DecidableEq, Repr

def InspectError.message : InspectError → String
  | .noCertificateData => "no PEM certificate data found"
  | .malformed failure => "error when parsing certificate: " ++ failureText failure
  | .trailing count =>
      s!"error when parsing certificate: {count} trailing bytes after certificate"

namespace Certificate

def distinguishedName (name : Name) : DistinguishedName where
  commonName := (name.valuesOf (.ofComponents [2, 5, 4, 3])).head?
  organization := name.valuesOf (.ofComponents [2, 5, 4, 10])
  organizationalUnit := name.valuesOf (.ofComponents [2, 5, 4, 11])
  country := name.valuesOf (.ofComponents [2, 5, 4, 6])
  raw := name.text

def publicKeyName (id : Oid) : String :=
  match id.dotted with
  | "1.2.840.113549.1.1.1" => "RSA"
  | "1.2.840.10045.2.1" => "ECDSA"
  | "1.3.101.112" => "Ed25519"
  | "1.2.840.10040.4.1" => "DSA"
  | other => other

def signatureName (id : Oid) : String :=
  match id.dotted with
  | "1.2.840.113549.1.1.4" => "MD5-RSA"
  | "1.2.840.113549.1.1.5" => "SHA1-RSA"
  | "1.2.840.113549.1.1.11" => "SHA256-RSA"
  | "1.2.840.113549.1.1.12" => "SHA384-RSA"
  | "1.2.840.113549.1.1.13" => "SHA512-RSA"
  | "1.2.840.113549.1.1.10" => "RSASSA-PSS"
  | "1.2.840.10045.4.1" => "ECDSA-SHA1"
  | "1.2.840.10045.4.3.2" => "ECDSA-SHA256"
  | "1.2.840.10045.4.3.3" => "ECDSA-SHA384"
  | "1.2.840.10045.4.3.4" => "ECDSA-SHA512"
  | "1.3.101.112" => "Ed25519"
  | other => other

/-- The basic usages in the order of their flags. -/
def basicUsages : List String :=
  ["digital signature", "content commitment", "key encipherment", "data encipherment",
    "key agreement", "cert sign", "crl sign", "encipher only", "decipher only"]

def basicUsageNames (flags : Nat) : List String :=
  (basicUsages.zipIdx.filter fun usage => flags.testBit usage.2).map Prod.fst

/-- The purposes that have a name, in the order in which they are shown. -/
def purposes : List (Oid × String) :=
  [(⟨[0x55, 0x1D, 0x25, 0x00]⟩, "any"), (purposeId 1, "server auth"),
    (purposeId 2, "client auth"), (purposeId 3, "code signing"),
    (purposeId 4, "email protection"), (purposeId 8, "timestamping"),
    (ocspSigningId, "ocsp signing")]

def purposeNames (listed : List Oid) : List String :=
  (purposes.filter fun purpose => listed.contains purpose.1).map Prod.snd

/-- Basic and extended usages of a certificate. An extension that is repeated or
does not decode adds none. -/
def usagesOf (signed : SignedCertificate) : List String :=
  let basic := match Extension.findUnique Extension.keyUsageId signed.extensions with
    | some (.keyUsage flags) => basicUsageNames flags
    | _ => []
  basic ++ purposeNames (signed.purposes?.getD [])

def marksAuthority (signed : SignedCertificate) : Bool :=
  match Extension.findUnique Extension.basicConstraintsId signed.extensions with
  | some (.basicConstraints isCa) => isCa
  | _ => false

/-- The alternative names of every extension that lists some. -/
def alternativeNames (signed : SignedCertificate) : List GeneralName :=
  signed.extensions.flatMap fun extension =>
    match extension.value with
    | .alternativeNames names => names
    | _ => []

def dnsOf? : GeneralName → Option String
  | .dns host => some host
  | _ => none

def uriOf? : GeneralName → Option String
  | .uri text => some text
  | _ => none

def mailOf? : GeneralName → Option String
  | .mail address => some address
  | _ => none

def addressOf? : GeneralName → Option String
  | .address octets => Address.text? octets
  | _ => none

def distributionUris (signed : SignedCertificate) : List String :=
  signed.extensions.flatMap fun extension =>
    match extension.value with
    | .distributionPoints points => points.flatMap (·.filterMap uriOf?)
    | _ => []

def isOcspAccess (method : Oid) : Bool := method.components == [1, 3, 6, 1, 5, 5, 7, 48, 1]

def responderUris (signed : SignedCertificate) : List String :=
  signed.extensions.flatMap fun extension =>
    match extension.value with
    | .authorityAccess descriptions =>
        descriptions.filterMap fun description =>
          if isOcspAccess description.1 then uriOf? description.2 else none
    | _ => []

/-- The view of a certificate whose whole encoding is `der`. -/
def ofSigned (der : Bytes) (signed : SignedCertificate) : Certificate :=
  let names := alternativeNames signed
  { subject := distinguishedName signed.subject
    issuer := distinguishedName signed.issuer
    serial := signed.serial
    serialDecimal := toString (Bytes.value signed.serial)
    fingerprint := Bytes.hexColons (Digest.Sha256.digest der)
    notBefore := .ofSeconds signed.validity.notBefore
    notAfter := .ofSeconds signed.validity.notAfter
    publicKeyAlgorithm := publicKeyName signed.publicKey.algorithm.id
    signatureAlgorithm := signatureName signed.algorithm.id
    isCa := marksAuthority signed
    keyUsage := usagesOf signed
    dnsNames := names.filterMap dnsOf?
    uris := names.filterMap uriOf?
    ipAddresses := names.filterMap addressOf?
    emailAddresses := names.filterMap mailOf?
    crlDistributionPoints := distributionUris signed
    ocspServers := responderUris signed
    rawDer := der }

def decode (der : Bytes) : Except InspectError Certificate :=
  match SignedCertificate.read der with
  | .error failure => .error (.malformed failure)
  | .ok (signed, []) => .ok (ofSigned der signed)
  | .ok (_, rest) => .error (.trailing rest.length)

end Certificate

def splitBundle (bundle : Bytes) : Except InspectError (List Bytes) :=
  match Pem.certificates bundle with
  | [] => .error .noCertificateData
  | certificates => .ok certificates

/-- The chain of a bundle: its first certificate, which has to decode, and the
others as they are. -/
def CertificateChain.ofBundle (bundle : Bytes) (authority : Option Bytes) :
    Except InspectError CertificateChain := do
  match ← splitBundle bundle with
  | [] => throw .noCertificateData
  | first :: others =>
      let leaf ← Certificate.decode first
      return .ofParts leaf others authority

end CertScope
