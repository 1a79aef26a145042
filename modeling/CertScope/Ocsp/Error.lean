import CertScope.Asn1.Error
import CertScope.Asn1.Time
import CertScope.Transport

/-!
# Why a status response is not accepted
-/

namespace CertScope.Ocsp

open Asn1

inductive ResponseFault where
  | encoding (failure : Failure Asn1.Error)
  | unexpectedType
  | emptyResponse
  | statusNotEnumerated
  | noResponseBytes
  | malformedResponseBytes
  | notBasic
  | notOctets
  | truncatedBasic
  | emptySignatureAlgorithm
  | partialSignature
  | certificatesNotSequence
  | noResponses
  | emptyHashAlgorithm
  | noStatus
  | unknownStatusTag (tag : Nat)
  | noThisUpdate
  | notTime
  | notUtc
  | noSuchTime (time : CivilTime)
  | noAnswer
  deriving DecidableEq, Repr

def ResponseFault.message : ResponseFault → String
  | .encoding failure => failure.message Asn1.Error.name
  | .unexpectedType => "BER object does not have the expected type"
  | .emptyResponse => "empty OCSPResponse"
  | .statusNotEnumerated => "responseStatus is not ENUMERATED"
  | .noResponseBytes => "successful response without responseBytes"
  | .malformedResponseBytes => "malformed ResponseBytes"
  | .notBasic => "response type is not id-pkix-ocsp-basic"
  | .notOctets => "response is not an OCTET STRING"
  | .truncatedBasic => "truncated BasicOCSPResponse"
  | .emptySignatureAlgorithm => "empty signatureAlgorithm"
  | .partialSignature => "signature is not a whole number of bytes"
  | .certificatesNotSequence => "certs is not a SEQUENCE"
  | .noResponses => "ResponseData has no responses"
  | .emptyHashAlgorithm => "empty hashAlgorithm"
  | .noStatus => "SingleResponse has no certStatus"
  | .unknownStatusTag tag => s!"unexpected certStatus tag [{tag}]"
  | .noThisUpdate => "SingleResponse has no thisUpdate"
  | .notTime => "expected a GeneralizedTime"
  | .notUtc => "GeneralizedTime is not in UTC"
  | .noSuchTime time => "invalid GeneralizedTime " ++ time.text
  | .noAnswer => "no response for this certificate"

/-- Why an answer does not hold at the time of asking. -/
inductive Staleness where
  | early (thisUpdate : Instant)
  | late (nextUpdate : Instant)
  deriving DecidableEq, Repr

def Staleness.message : Staleness → String
  | .early thisUpdate => "thisUpdate " ++ thisUpdate.spoken ++ " is in the future"
  | .late nextUpdate => "nextUpdate " ++ nextUpdate.spoken ++ " has passed"

/-- Why a responder gives no status. -/
inductive Error where
  | noSerial
  | fetch (cause : FetchError)
  | response (fault : ResponseFault)
  | responder (code : Nat)
  | signature
  | stale (why : Staleness)
  | unknownStatus
  deriving DecidableEq, Repr

def refusalName : Nat → String
  | 1 => "malformedRequest"
  | 2 => "internalError"
  | 3 => "tryLater"
  | 5 => "sigRequired"
  | 6 => "unauthorized"
  | _ => "unknown response status"

def Error.message : Error → String
  | .noSerial => "failed to build OCSP request: certificate has no serial number"
  | .fetch cause => cause.message
  | .response fault => "failed to parse OCSP response: " ++ fault.message
  | .responder code => "OCSP responder returned: " ++ refusalName code
  | .signature =>
      "OCSP response signature is invalid: not signed by the issuer or an authorized responder"
  | .stale why => "OCSP response is not current: " ++ why.message
  | .unknownStatus => "responder does not know this certificate"

end CertScope.Ocsp
