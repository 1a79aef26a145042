import CertScope.Certificate
import CertScope.Pem
import CertScope.Status
import CertScope.Transport
import CertScope.Url
import CertScope.X509.RevocationList

/-!
# Walking the distribution points

The distribution points of the leaf are asked in order until one of them
decides: a text that is no URL, a list that cannot be had, or a list that names
the leaf. Points of other schemes are passed over.
-/

namespace CertScope

/-- Why a distribution point leaves the check without an outcome. -/
inductive Crl.Error where
  | badUrl (cause : UrlError)
  | fetch (cause : FetchError)
  | unreadable (url : String) (cause : Asn1.Failure X509.Fault)

namespace Crl

def Error.message : Error → String
  | badUrl cause => "invalid CRL URL: " ++ cause.message
  | fetch cause => cause.message
  | unreadable url cause => s!"failed to parse CRL from {url}: " ++ X509.failureText cause

def schemes : List String := ["https", "ldap"]
def label : String := "X509 CRL"

/-- The list that a server sent. Text is taken for blocks if all of them can be
decoded and one bears the label; anything else is taken as it is. -/
def encoded (body : Bytes) : Bytes :=
  if (Pem.dashes ++ Bytes.ofText "BEGIN").isPrefixOf body then
    match Pem.decodeAll body with
    | .ok blocks =>
        match blocks.find? (·.label = label) with
        | some block => block.contents
        | none => body
    | .error _ => body
  else body

def isListed (url : Url) (serial : Bytes) (now : Instant) (body : Bytes) : Except Error Bool :=
  match X509.RevocationList.read (encoded body) with
  | .ok (list, _) => .ok (list.revokes serial now)
  | .error cause => .error (.unreadable url.text cause)

def query (serial : Bytes) (now : Instant) (transport : Transport) (watch : Watch) (url : Url)
    (start : Nat) : Timed (Except Error Bool) :=
  let fetched := watch.fetch transport (.crl url.text) start
  let listed := match fetched.value with
    | .error cause => .error (.fetch cause)
    | .ok body => isListed url serial now body
  ⟨listed, fetched.requests, fetched.time⟩

/-- Walk distribution points from a time on. `asked` says whether one has been
asked before. -/
def walk (serial : Bytes) (now : Instant) (transport : Transport) (watch : Watch)
    (asked : Bool) (start : Nat) : List String → Timed RevocationStatus
  | [] =>
      ⟨if asked then .valid else .notApplicable "no supported CRL endpoints found", [], start⟩
  | point :: points =>
      match Url.parse point with
      | .error cause => ⟨.checkFailed (Error.badUrl cause).message, [], start⟩
      | .ok url =>
          if schemes.contains url.scheme then
            let answer := query serial now transport watch url start
            match answer.value with
            | .error error => ⟨.checkFailed error.message, answer.requests, answer.time⟩
            | .ok true => ⟨.revoked point, answer.requests, answer.time⟩
            | .ok false =>
                let rest := walk serial now transport watch true answer.time points
                { rest with requests := answer.requests ++ rest.requests }
          else walk serial now transport watch asked start points

end Crl

/-- The status of the leaf according to its distribution points. -/
def checkCrl (leaf : Certificate) (now : Instant) (transport : Transport) (watch : Watch) :
    Timed RevocationStatus :=
  match leaf.crlDistributionPoints with
  | [] => ⟨.notApplicable "no CRL endpoints set", [], 0⟩
  | points => Crl.walk leaf.serial now transport watch false 0 points

end CertScope
