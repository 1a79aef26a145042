import CertScope.Inspection
import CertScope.Trust.SystemRoots

/-!
# Warnings

What is told in the log on the way to an inspection: why roots of the system
could not be loaded, and the error that ended a revocation check. A distribution
point that is no URL, an issuer that cannot be read and an unknown status make a
check fail without a warning.
-/

namespace CertScope

inductive Warning where
  | systemRoots (error : String)
  | crl (error : Crl.Error)
  | ocsp (error : Ocsp.Error)

def Warning.message : Warning → String
  | systemRoots error => "Cannot read system trust store: " ++ error
  | crl error => "CRL check failed: " ++ error.message
  | ocsp error => "OCSP check failed: " ++ error.message

def SystemRoots.warnings (system : SystemRoots) (settings : TrustSettings) : List Warning :=
  if settings.useSystemRoots then system.errors.map .systemRoots else []

/-- The error of the distribution point at which a walk ends, and the time. -/
def Crl.walkError? (serial : Bytes) (now : Instant) (transport : Transport) (watch : Watch)
    (start : Nat) : List String → Option (Error × Nat)
  | [] => none
  | point :: points =>
      match Url.parse point with
      | .error _ => none
      | .ok url =>
          if schemes.contains url.scheme then
            let answer := query serial now transport watch url start
            match answer.value with
            | .error error => some (error, answer.time)
            | .ok true => none
            | .ok false => walkError? serial now transport watch answer.time points
          else walkError? serial now transport watch start points

/-- The error that asking the responder of the leaf ends with, and the time. -/
def Ocsp.queryError? (leaf : Certificate) (intermediates : List Bytes)
    (authority : Option Bytes) (now : Instant) (transport : Transport) (watch : Watch) :
    Option (Error × Nat) := do
  let candidate ← selectIssuer intermediates authority
  let (issuer, _) ← (X509.SignedCertificate.read (Pem.firstCertificate candidate)).toOption
  let url ← leaf.ocspServers.head?
  let asked := query leaf issuer url now transport watch
  match asked.value with
  | .error error => some (error, asked.time)
  | .ok _ => none

namespace CertificateChain

variable (chain : CertificateChain) (settings : RevocationSettings) (transport : Transport)
  (now : Instant) (cancelAt : Option Nat)

def crlError? : Option (Crl.Error × Nat) :=
  if settings.checkCrl then
    Crl.walkError? chain.leaf.serial now transport ⟨millis settings.crlTimeout, cancelAt⟩ 0
      chain.leaf.crlDistributionPoints
  else none

def ocspError? : Option (Ocsp.Error × Nat) :=
  if settings.checkOcsp then
    Ocsp.queryError? chain.leaf chain.intermediates chain.authority now transport
      ⟨millis settings.ocspTimeout, cancelAt⟩
  else none

/-- The warnings of both checks, in the order of their times. `responderFirst`
says which comes first if they are told together. -/
def warnings (responderFirst : Bool) : List Warning :=
  match chain.crlError? settings transport now cancelAt,
    chain.ocspError? settings transport now cancelAt with
  | some (crl, listed), some (ocsp, asked) =>
      if asked < listed || (asked == listed && responderFirst) then [.ocsp ocsp, .crl crl]
      else [.crl crl, .ocsp ocsp]
  | some (crl, _), none => [.crl crl]
  | none, some (ocsp, _) => [.ocsp ocsp]
  | none, none => []

end CertificateChain

end CertScope
