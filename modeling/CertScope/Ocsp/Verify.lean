import CertScope.Ocsp.Request
import CertScope.Ocsp.Response

/-!
# Accepting a status response

An answer counts if it is about the certificate asked for, if the response is
signed by the issuer or by a responder that the issuer delegated to, and if it
is current.
-/

namespace CertScope.Ocsp

open Asn1 X509

/-- Whether an answer is about the certificate that an issuer gave a serial
number. Serial numbers are compared as unsigned numbers; a name with a digest
that is not supported is of another certificate. -/
def isAbout (certificateId : Node) (serial : Bytes) (issuer : SignedCertificate) :
    Except Error Bool := do
  match ← view certificateId.asSequence with
  | [algorithm, nameDigest, keyDigest, number] =>
      let first ← require .emptyHashAlgorithm (← view algorithm.asSequence).head?
      match issuerDigests? issuer (← view first.asOid) with
      | none => return false
      | some (expectedName, expectedKey) =>
          if (← view nameDigest.asOctets) ≠ expectedName then return false
          if (← view keyDigest.asOctets) ≠ expectedKey then return false
          return Bytes.trimZeros (← view number.asOctets) == Bytes.trimZeros serial
  | _ => return false

def findSingle (serial : Bytes) (issuer : SignedCertificate) :
    List Node → Except Error SingleResponse
  | [] => refuseResponse .noAnswer
  | response :: others => do
      let fields ← view response.asSequence
      match fields.head? with
      | none => findSingle serial issuer others
      | some certificateId =>
          if ← isAbout certificateId serial issuer then SingleResponse.ofFields fields
          else findSingle serial issuer others

/-- The way of signing that the algorithm of a response names. The curve is told
by the length of the key: a point of P-256 takes 65 bytes and one of P-384
takes 97. -/
def schemeOf? (algorithm : Oid) (key : Bytes) : Option SignatureScheme :=
  if algorithm = pkcs1Id 5 then some (.rsa .sha1 1024)
  else if algorithm = pkcs1Id 11 then some (.rsa .sha256 2048)
  else if algorithm = pkcs1Id 12 then some (.rsa .sha384 2048)
  else if algorithm = pkcs1Id 13 then some (.rsa .sha512 2048)
  else if algorithm = ecdsaSha256Id then
    some (.ecdsa (if key.length = 97 then .p384 else .p256) .sha256)
  else if algorithm = ecdsaSha384Id then
    some (.ecdsa (if key.length = 65 then .p256 else .p384) .sha384)
  else if algorithm = ed25519Id then some .ed25519
  else none

def BasicResponse.isSignedBy (response : BasicResponse) (key : PublicKey) : Bool :=
  (schemeOf? response.algorithm key.bits.octets).any fun scheme =>
    scheme.verify key.bits.octets response.signedPart response.signature

/-- Whether the issuer lets a certificate sign responses at a time. -/
def isDelegated (responder issuer : SignedCertificate) (now : Instant) : Bool :=
  (responder.purposes?.any (·.contains ocspSigningId)) &&
    responder.validity.notBefore ≤ now.seconds && now.seconds ≤ responder.validity.notAfter &&
    responder.issuer.raw == issuer.subject.raw && responder.isSignedBy issuer.publicKey

/-- Whether a response is signed by the issuer or by an embedded delegate. -/
def BasicResponse.isAuthorized (response : BasicResponse) (issuer : SignedCertificate)
    (now : Instant) : Bool :=
  response.isSignedBy issuer.publicKey ||
    response.certificates.any fun responder =>
      isDelegated responder issuer now && response.isSignedBy responder.publicKey

/-- The answer about a certificate in the bytes of a response. -/
def verify (bytes serial : Bytes) (issuer : SignedCertificate) (now : Instant) :
    Except Error SingleResponse := do
  let basic ← BasicResponse.ofBytes bytes
  let single ← findSingle serial issuer basic.responses
  if !basic.isAuthorized issuer now then throw .signature
  single.checkCurrent now
  return single

end CertScope.Ocsp
