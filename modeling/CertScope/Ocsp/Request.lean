import CertScope.Asn1.Encode
import CertScope.Ocsp.Error
import CertScope.X509.Verification

/-!
# Status requests

A request asks about one certificate. It names the certificate by digests of
its issuer's name and key, and by its serial number.
-/

namespace CertScope.Ocsp

open Asn1 X509

/-- The digests under which an issuer is named, for a digest algorithm that is
supported. -/
def issuerDigests? (issuer : SignedCertificate) (algorithm : Oid) : Option (Bytes × Bytes) :=
  let under (hash : Hash) :=
    (hash.digest issuer.subject.raw, hash.digest issuer.publicKey.bits.octets)
  if algorithm = sha1Id then some (under .sha1)
  else if algorithm = sha256Id then some (under .sha256)
  else none

/-- The name of a certificate: the serial number is written octet by octet as it
is given. -/
def encodeCertificateId (serial : Bytes) (issuer : SignedCertificate) : Bytes :=
  encodeSequence
    [encodeSequence [encodeOid sha1Id, encodeNull],
      encodeOctetString (Hash.sha1.digest issuer.subject.raw),
      encodeOctetString (Hash.sha1.digest issuer.publicKey.bits.octets),
      encodeInteger serial]

/-- The request for the certificate that an issuer gave a serial number. -/
def request (serial : Bytes) (issuer : SignedCertificate) : Except Error Bytes :=
  if serial.isEmpty then .error .noSerial
  else
    .ok (encodeSequence [encodeSequence [encodeSequence [encodeSequence
      [encodeCertificateId serial issuer]]]])

end CertScope.Ocsp
