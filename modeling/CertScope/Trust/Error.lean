/-!
# Why no path to a root is found

Many ways up may be tried, and each can fail for a reason of its own. The
reasons are ranked, so that the most telling one is reported.
-/

namespace CertScope

/-- The parts of a certificate that nothing may follow, or that have to be
there. -/
inductive CertificatePart where
  | certificate
  | signedData
  | body
  | extensions
  | extension
  | bitString
  | boolean
  | time
  | generalName
  | publicKey
  deriving DecidableEq, Repr

def CertificatePart.name : CertificatePart → String
  | certificate => "Certificate"
  | signedData => "SignedData"
  | body => "CertificateTbsCertificate"
  | extensions => "CertificateExtensions"
  | extension => "Extension"
  | bitString => "BitString"
  | boolean => "Bool"
  | time => "Time"
  | generalName => "GeneralName"
  | publicKey => "SubjectPublicKeyInfo"

inductive PathError where
  | unknownIssuer
  | expired
  | notYetValid
  | signature
  | algorithmMismatch
  | purpose
  | nameConstraint
  | pathLength
  | authorityAsLeaf
  | leafAsAuthority
  | emptyValidity
  | networkMask
  | unsupportedForKey
  | unsupportedAlgorithm
  | criticalExtension
  | version
  | depth
  | malformedHost
  | malformedConstraint
  | trailing (part : CertificatePart)
  | extensionValue
  | malformedTime
  | malformed
  | signatureBudget
  | searchBudget
  | comparisonBudget
  deriving DecidableEq, Repr

namespace PathError

def name : PathError → String
  | unknownIssuer => "UnknownIssuer"
  | expired => "CertExpired"
  | notYetValid => "CertNotValidYet"
  | signature => "InvalidSignatureForPublicKey"
  | algorithmMismatch => "SignatureAlgorithmMismatch"
  | purpose => "RequiredEkuNotFound"
  | nameConstraint => "NameConstraintViolation"
  | pathLength => "PathLenConstraintViolated"
  | authorityAsLeaf => "CaUsedAsEndEntity"
  | leafAsAuthority => "EndEntityUsedAsCa"
  | emptyValidity => "InvalidCertValidity"
  | networkMask => "InvalidNetworkMaskConstraint"
  | unsupportedForKey => "UnsupportedSignatureAlgorithmForPublicKey"
  | unsupportedAlgorithm => "UnsupportedSignatureAlgorithm"
  | criticalExtension => "UnsupportedCriticalExtension"
  | version => "UnsupportedCertVersion"
  | depth => "MaximumPathDepthExceeded"
  | malformedHost => "MalformedDnsIdentifier"
  | malformedConstraint => "MalformedNameConstraint"
  | trailing part => "TrailingData(" ++ part.name ++ ")"
  | extensionValue => "ExtensionValueInvalid"
  | malformedTime => "BadDerTime"
  | malformed => "BadDer"
  | signatureBudget => "MaximumSignatureChecksExceeded"
  | searchBudget => "MaximumPathBuildCallsExceeded"
  | comparisonBudget => "MaximumNameConstraintComparisonsExceeded"

/-- The reason in words, or by name if it has no words. -/
def description : PathError → String
  | expired => "certificate has expired"
  | notYetValid => "certificate is not yet valid"
  | unknownIssuer => "certificate signed by unknown authority"
  | authorityAsLeaf => "CA certificate used as an end-entity certificate"
  | signature => "certificate signature does not verify"
  | pathLength => "path length constraint exceeded"
  | purpose => "certificate is not valid for server authentication"
  | searchBudget | depth | signatureBudget => "certificate chain is too long to verify"
  | other => other.name

/-- Whether the search ends with this failure, whatever is left to try. -/
def isFatal : PathError → Bool
  | signatureBudget | searchBudget | comparisonBudget => true
  | _ => false

/-- How telling a failure is. -/
def rank : PathError → Nat
  | expired | notYetValid => 290
  | signature => 260
  | algorithmMismatch => 250
  | purpose => 240
  | nameConstraint => 230
  | pathLength => 220
  | authorityAsLeaf | leafAsAuthority => 210
  | emptyValidity => 190
  | networkMask => 180
  | unsupportedForKey => 150
  | unsupportedAlgorithm => 140
  | criticalExtension | version => 130
  | depth => 61
  | malformedHost => 60
  | malformedConstraint => 50
  | trailing _ => 40
  | extensionValue => 30
  | malformedTime => 20
  | malformed => 10
  | unknownIssuer | signatureBudget | searchBudget | comparisonBudget => 0

/-- The more telling of two failures, the earlier one of two alike. -/
def mostTelling (earlier later : PathError) : PathError :=
  if later.rank ≤ earlier.rank then earlier else later

end PathError

end CertScope
