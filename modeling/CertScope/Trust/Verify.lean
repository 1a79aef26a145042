import CertScope.Certificate
import CertScope.Status
import CertScope.Trust.RootStore
import CertScope.Trust.Search

/-!
# Verifying trust

The leaf has to lead to a root of the store or to one of the certificates that
came with it, each of which counts as a root of its own.
-/

namespace CertScope

/-- The certificates among byte strings that can serve as roots. -/
def suppliedAnchors (certificates : List Bytes) : List TrustAnchor :=
  certificates.filterMap fun der => (TrustAnchor.ofBytes der).toOption

/-- Whether the leaf is trusted at a time; times before 1970 count as the start
of 1970. -/
def verifyTrust (leaf : Certificate) (intermediates : List Bytes) (roots : RootStore)
    (now : Instant) : TrustResult :=
  let verdict := do
    let certificate ← PathCertificate.ofBytes leaf.rawDer
    verifyPath certificate (roots.anchors ++ suppliedAnchors intermediates)
      (intermediates.map PathCertificate.ofBytes) (max 0 now.seconds)
  match verdict with
  | .ok () => .trusted
  | .error error => .untrusted error.description

end CertScope
