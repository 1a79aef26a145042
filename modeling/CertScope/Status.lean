import CertScope.Text.Upper

/-!
# Outcomes of the checks

Trust and the two revocation channels each have an outcome of their own, and
nothing combines them into one verdict. Every outcome has a tone, in which it is
highlighted.
-/

namespace CertScope

inductive Tone where
  | plain
  | good
  | bad
  | warning
  deriving DecidableEq, Repr, Inhabited

inductive TrustResult where
  | trusted
  | untrusted (reason : String)
  deriving DecidableEq, Repr

namespace TrustResult

def isTrusted : TrustResult → Bool
  | trusted => true
  | untrusted _ => false

def tone : TrustResult → Tone
  | trusted => .good
  | untrusted _ => .bad

def display : TrustResult → String
  | trusted => "yes"
  | untrusted reason => "no: " ++ reason

end TrustResult

inductive RevocationChannel where
  | crl
  | ocsp
  deriving DecidableEq, Repr

def RevocationChannel.name : RevocationChannel → String
  | crl => "CRL"
  | ocsp => "OCSP"

/-- The outcome of one channel. -/
inductive RevocationStatus where
  | notApplicable (reason : String)
  | valid
  /-- The certificate is revoked, as the list or the responder at `source` says. -/
  | revoked (source : String)
  | checkFailed (reason : String)
  deriving DecidableEq, Repr

namespace RevocationStatus

def isRevoked : RevocationStatus → Bool
  | revoked _ => true
  | _ => false

def tone : RevocationStatus → Tone
  | notApplicable _ => .plain
  | valid => .good
  | revoked _ => .bad
  | checkFailed _ => .warning

def describe (channel : RevocationChannel) : RevocationStatus → String
  | notApplicable reason => Upper.capitalized reason
  | valid => "Valid"
  | revoked source => "Revoked by " ++ source
  | checkFailed reason => "Cannot check " ++ channel.name ++ ": " ++ reason

end RevocationStatus

end CertScope
