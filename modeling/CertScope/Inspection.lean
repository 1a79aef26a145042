import CertScope.Certificate.Decode
import CertScope.Crl.Check
import CertScope.Ocsp.Check
import CertScope.Settings
import CertScope.Trust.Verify

/-!
# Inspections

Trust and the two revocation channels are evaluated side by side. None of them
sees what becomes of the others, so each outcome is that of its check alone, and
the channels count time from the same start.
-/

namespace CertScope

/-- Everything learned about a bundle. -/
structure Inspection where
  chain : CertificateChain
  trust : TrustResult
  crl : RevocationStatus
  ocsp : RevocationStatus
  deriving DecidableEq, Repr

/-- What the three evaluations of a chain come to. -/
structure Evaluation where
  trust : TrustResult
  crl : Timed RevocationStatus
  ocsp : Timed RevocationStatus
  deriving DecidableEq, Repr

namespace Evaluation

/-- All requests, those for revocation lists first. -/
def requests (evaluation : Evaluation) : List Request :=
  evaluation.crl.requests ++ evaluation.ocsp.requests

def time (evaluation : Evaluation) : Nat := max evaluation.crl.time evaluation.ocsp.time

end Evaluation

def disabled : Timed RevocationStatus := ⟨.notApplicable "check disabled", [], 0⟩

def millis (seconds : Nat) : Nat := 1000 * seconds

/-- Evaluate a chain. `cancelAt` says when the cancellation fires, if it does. -/
def evaluate (chain : CertificateChain) (settings : Settings) (roots : RootStore)
    (transport : Transport) (now : Instant) (cancelAt : Option Nat) : Evaluation :=
  let revocation := settings.revocation
  { trust := verifyTrust chain.leaf chain.intermediates roots now
    crl :=
      if revocation.checkCrl then
        checkCrl chain.leaf now transport ⟨millis revocation.crlTimeout, cancelAt⟩
      else disabled
    ocsp :=
      if revocation.checkOcsp then
        checkOcsp chain.leaf chain.intermediates chain.authority now transport
          ⟨millis revocation.ocspTimeout, cancelAt⟩
      else disabled }

def Inspection.ofEvaluation (chain : CertificateChain) (evaluation : Evaluation) : Inspection :=
  ⟨chain, evaluation.trust, evaluation.crl.value, evaluation.ocsp.value⟩

/-- Inspect a bundle and the authority supplied with it: the inspection, and the
requests that were made for it. Only a bundle without a usable leaf is refused. -/
def inspect (bundle : Bytes) (authority : Option Bytes) (settings : Settings)
    (roots : RootStore) (transport : Transport) (now : Instant) (cancelAt : Option Nat) :
    Except InspectError (Inspection × List Request) := do
  let chain ← CertificateChain.ofBundle bundle authority
  let evaluation := evaluate chain settings roots transport now cancelAt
  return (.ofEvaluation chain evaluation, evaluation.requests)

end CertScope
