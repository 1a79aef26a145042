import CertScope.Bytes
import CertScope.Calendar

/-!
# The certificate under inspection

The decoded view of a certificate that the report shows and the checks start
from, and the chain it comes with.
-/

namespace CertScope

structure DistinguishedName where
  commonName : Option String
  organization : List String
  organizationalUnit : List String
  country : List String
  raw : String
  deriving DecidableEq, Repr, Inhabited

structure Certificate where
  subject : DistinguishedName
  issuer : DistinguishedName
  /-- The octets of the serial number as they are encoded. -/
  serial : Bytes
  serialDecimal : String
  /-- SHA-256 of the whole encoding. -/
  fingerprint : String
  notBefore : Instant
  notAfter : Instant
  publicKeyAlgorithm : String
  signatureAlgorithm : String
  isCa : Bool
  /-- Basic usages, and extended usages behind them. -/
  keyUsage : List String
  dnsNames : List String
  uris : List String
  ipAddresses : List String
  emailAddresses : List String
  crlDistributionPoints : List String
  ocspServers : List String
  rawDer : Bytes
  deriving DecidableEq, Repr, Inhabited

namespace Certificate

def blank : Certificate where
  subject := ⟨none, [], [], [], ""⟩
  issuer := ⟨none, [], [], [], ""⟩
  serial := []
  serialDecimal := ""
  fingerprint := ""
  notBefore := .ofSeconds 0
  notAfter := .ofSeconds 0
  publicKeyAlgorithm := ""
  signatureAlgorithm := ""
  isCa := false
  keyUsage := []
  dnsNames := []
  uris := []
  ipAddresses := []
  emailAddresses := []
  crlDistributionPoints := []
  ocspServers := []
  rawDer := []

/-- Whether an instant lies within the validity, both ends included. -/
def isTimeValid (certificate : Certificate) (now : Instant) : Bool :=
  certificate.notBefore ≤ now && now ≤ certificate.notAfter

def serialTrimmed (certificate : Certificate) : Bytes := Bytes.trimZeros certificate.serial

end Certificate

/-- The last intermediate, or the separately supplied authority if there are no
intermediates; an empty authority counts as none. -/
def selectIssuer (intermediates : List Bytes) (authority : Option Bytes) : Option Bytes :=
  intermediates.getLast? <|> authority.filter (!·.isEmpty)

structure CertificateChain where
  leaf : Certificate
  intermediates : List Bytes
  authority : Option Bytes
  deriving DecidableEq, Repr, Inhabited

namespace CertificateChain

/-- The chain of the given parts; an empty authority counts as none. -/
def ofParts (leaf : Certificate) (intermediates : List Bytes) (authority : Option Bytes) :
    CertificateChain :=
  ⟨leaf, intermediates, authority.filter (!·.isEmpty)⟩

/-- The certificate that status requests are bound to. -/
def issuerCandidate (chain : CertificateChain) : Option Bytes :=
  selectIssuer chain.intermediates chain.authority

end CertificateChain

end CertScope
