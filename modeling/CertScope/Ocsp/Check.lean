import CertScope.Certificate
import CertScope.Ocsp.Verify
import CertScope.Pem.Bundle
import CertScope.Status

/-!
# Asking a responder

The first responder that the leaf names is asked once. The issuer that the
request is bound to may be given in text form or encoded.
-/

namespace CertScope

open Ocsp

def Ocsp.statusOf (url : String) : Except Ocsp.Error SingleResponse → RevocationStatus
  | .ok ⟨.good, _, _⟩ => .valid
  | .ok ⟨.revoked _, _, _⟩ => .revoked url
  | .ok ⟨.unknown, _, _⟩ => .checkFailed Ocsp.Error.unknownStatus.message
  | .error error => .checkFailed error.message

def Ocsp.query (leaf : Certificate) (issuer : X509.SignedCertificate) (url : String)
    (now : Instant) (transport : Transport) (watch : Watch) :
    Timed (Except Ocsp.Error SingleResponse) :=
  match request leaf.serial issuer with
  | .error error => ⟨.error error, [], 0⟩
  | .ok body =>
      let fetched := watch.fetch transport (.ocsp url body) 0
      let verified := match fetched.value with
        | .error cause => .error (.fetch cause)
        | .ok response => verify response leaf.serial issuer now
      ⟨verified, fetched.requests, fetched.time⟩

/-- The status of the leaf according to its responder. -/
def checkOcsp (leaf : Certificate) (intermediates : List Bytes) (authority : Option Bytes)
    (now : Instant) (transport : Transport) (watch : Watch) : Timed RevocationStatus :=
  match selectIssuer intermediates authority with
  | none => ⟨.notApplicable "no CA or intermediate certificate provided", [], 0⟩
  | some candidate =>
      match X509.SignedCertificate.read (Pem.firstCertificate candidate) with
      | .error _ => ⟨.checkFailed "cannot parse issuer certificate", [], 0⟩
      | .ok (issuer, _) =>
          match leaf.ocspServers.head? with
          | none => ⟨.notApplicable "no OCSP responder URL set", [], 0⟩
          | some url =>
              let asked := query leaf issuer url now transport watch
              ⟨statusOf url asked.value, asked.requests, asked.time⟩

end CertScope
