import CertScope.Trust.NameConstraint
import CertScope.Trust.PathCertificate
import CertScope.Asn1.Encode
import CertScope.X509.Verification

/-!
# The search for a path

From the leaf upwards, a certificate is either signed by a root or by one of the
certificates at hand, which then has to lead to a root in turn. Each certificate
on the path is checked for itself before its issuers are tried, and the whole
path below a root is verified once the root is reached. What can be spent on
signatures, on steps and on comparisons is bounded.
-/

namespace CertScope

open Asn1 X509 PathReader

structure Budget where
  signatures : Nat := 100
  steps : Nat := 200000
  comparisons : Nat := 250000
  deriving DecidableEq, Repr

/-- A part of the search: it spends from a budget and may fail. -/
abbrev Search := ExceptT PathError (StateM Budget)

namespace Search

def ofVerdict {value : Type} (verdict : Except PathError value) : Search value :=
  fun budget => (verdict, budget)

def spendSignature : Search Unit := fun budget =>
  match budget.signatures with
  | 0 => (.error .signatureBudget, budget)
  | left + 1 => (.ok (), { budget with signatures := left })

def spendStep : Search Unit := fun budget =>
  match budget.steps with
  | 0 => (.error .searchBudget, budget)
  | left + 1 => (.ok (), { budget with steps := left })

def spendComparison : Search Unit := fun budget =>
  match budget.comparisons with
  | 0 => (.error .comparisonBudget, budget)
  | left + 1 => (.ok (), { budget with comparisons := left })

/-- The first success among several attempts; otherwise the most telling
failure, starting from a given one. A fatal failure ends the attempts. -/
def firstSuccess {item value : Type} (attempt : item → Search value) :
    PathError → List item → Search value
  | failure, [] => throw failure
  | failure, first :: others => fun budget =>
      match attempt first budget with
      | (.ok result, budget) => (.ok result, budget)
      | (.error error, budget) =>
          if error.isFatal then (.error error, budget)
          else firstSuccess attempt (failure.mostTelling error) others budget

end Search

/-- The certificates of a path from the one nearest to the root down to the
leaf. -/
structure Path where
  head : PathCertificate
  below : List PathCertificate
  deriving DecidableEq, Repr

namespace Path

def ofLeaf (leaf : PathCertificate) : Path := ⟨leaf, []⟩

def certificates (path : Path) : List PathCertificate := path.head :: path.below

def extend (path : Path) (issuer : PathCertificate) : Path := ⟨issuer, path.certificates⟩

/-- How many authorities stand between the head and the leaf. -/
def authoritiesBelow (path : Path) : Nat := path.below.length - 1

end Path

/-- Refuse a validity that is over, that has not begun, or that is none. -/
def readValidity (now : Int) : PathReader Unit := do
  let notBefore ← time
  let notAfter ← time
  if notAfter < notBefore then throw .emptyValidity
  if now < notBefore then throw .notYetValid
  if notAfter < now then throw .expired

/-- Refuse a certificate for its place on the path: an authority as the leaf,
anything else above it, and an authority with more authorities below it than it
allows. -/
def checkRole (path : Path) (isCa : Bool) (most : Option Nat) : Except PathError Unit :=
  if path.below.isEmpty then
    if isCa then .error .authorityAsLeaf else .ok ()
  else if !isCa then .error .leafAsAuthority
  else if most.any (· < path.authoritiesBelow) then .error .pathLength
  else .ok ()

def readBasicConstraints (path : Path) : PathReader Unit := do
  let isCa ← boolean
  let most ← if ← atEnd then pure none else some <$> small
  checkRole path isCa most

def serverAuthentication : Bytes := (purposeId 1).octets

/-- Look for server authentication among purposes. `steps` bounds their
number. -/
def readPurposes : Nat → PathReader Unit
  | 0 => throw .malformed
  | steps + 1 => do
      if (← expect Strict.oidTag) = serverAuthentication then
        let _ ← remainder
      else if ← atEnd then throw .purpose
      else readPurposes steps

def checkHead (path : Path) (now : Int) : Except PathError Unit := do
  whole .malformed (readValidity now) path.head.validity
  match path.head.extensions.basicConstraints with
  | some value => whole .malformed (readBasicConstraints path) value
  | none => checkRole path false none
  match path.head.extensions.purposes with
  | some value => whole .malformed (readPurposes (value.length + 1)) value
  | none => return ()

/-- A way of signing that paths may use, with the algorithm identifiers of the
signature and of the key. -/
structure PathAlgorithm where
  signatureId : Bytes
  keyId : Bytes
  scheme : SignatureScheme
  deriving DecidableEq, Repr

namespace PathAlgorithm

def curveKeyId (curve : Oid) : Bytes :=
  encodeOid ⟨[0x2A, 0x86, 0x48, 0xCE, 0x3D, 0x02, 0x01]⟩ ++ encodeOid curve

def p256KeyId : Bytes := curveKeyId ⟨[0x2A, 0x86, 0x48, 0xCE, 0x3D, 0x03, 0x01, 0x07]⟩
def p384KeyId : Bytes := curveKeyId ⟨[0x2B, 0x81, 0x04, 0x00, 0x22]⟩
def rsaKeyId : Bytes := encodeOid (pkcs1Id 1) ++ encodeNull

def rsaSignatureId (arc : UInt8) : Bytes := encodeOid (pkcs1Id arc) ++ encodeNull

/-- The signature identifier of RSA without the null parameters. -/
def bareRsaSignatureId (arc : UInt8) : Bytes := encodeOid (pkcs1Id arc)

/-- The signature identifier of RSA with the probabilistic padding: the digest,
its use in the mask, and a salt of its length. -/
def pssSignatureId (digest : Oid) (salt : UInt8) : Bytes :=
  let algorithm := encodeSequence [encodeOid digest, encodeNull]
  encodeOid (pkcs1Id 10) ++
    encodeSequence
      [encode (Strict.explicitTag 0) algorithm,
        encode (Strict.explicitTag 1) (encodeSequence [encodeOid (pkcs1Id 8), algorithm]),
        encode (Strict.explicitTag 2) (encodeInteger [salt])]

/-- The ways of signing that are supported, in order of preference. -/
def supported : List PathAlgorithm :=
  [⟨encodeOid ecdsaSha256Id, p256KeyId, .ecdsa .p256 .sha256⟩,
    ⟨encodeOid ecdsaSha384Id, p256KeyId, .ecdsa .p256 .sha384⟩,
    ⟨encodeOid ecdsaSha256Id, p384KeyId, .ecdsa .p384 .sha256⟩,
    ⟨encodeOid ecdsaSha384Id, p384KeyId, .ecdsa .p384 .sha384⟩,
    ⟨encodeOid ed25519Id, encodeOid ed25519Id, .ed25519⟩,
    ⟨pssSignatureId sha256Id 32, rsaKeyId, .rsaPss .sha256⟩,
    ⟨pssSignatureId sha384Id 48, rsaKeyId, .rsaPss .sha384⟩,
    ⟨pssSignatureId sha512Id 64, rsaKeyId, .rsaPss .sha512⟩,
    ⟨rsaSignatureId 11, rsaKeyId, .rsa .sha256 2048⟩,
    ⟨rsaSignatureId 12, rsaKeyId, .rsa .sha384 2048⟩,
    ⟨rsaSignatureId 13, rsaKeyId, .rsa .sha512 2048⟩,
    ⟨bareRsaSignatureId 11, rsaKeyId, .rsa .sha256 2048⟩,
    ⟨bareRsaSignatureId 12, rsaKeyId, .rsa .sha384 2048⟩,
    ⟨bareRsaSignatureId 13, rsaKeyId, .rsa .sha512 2048⟩]

end PathAlgorithm

def readKey : PathReader (Bytes × Bytes) := do
  let algorithm ← sequence
  return (algorithm, ← bits)

/-- Verify signed data under a key with the first of several algorithms that the
key is for. -/
def verifyWith (key : Bytes) (data : SignedData) : List PathAlgorithm → Except PathError Unit
  | [] => .error .unsupportedForKey
  | algorithm :: others => do
      let (keyId, keyBits) ← whole (.trailing .publicKey) readKey key
      if keyId ≠ algorithm.keyId then verifyWith key data others
      else if algorithm.scheme.verify keyBits data.message data.signature then return ()
      else throw .signature

def verifySigned (key : Bytes) (data : SignedData) : Except PathError Unit :=
  match PathAlgorithm.supported.filter (·.signatureId == data.algorithm) with
  | [] => .error .unsupportedAlgorithm
  | algorithms => verifyWith key data algorithms

/-- Verify the signatures of a path from the top, the first one under a given
key and every other under the key above it. -/
def checkSignatures (key : Bytes) : List PathCertificate → Search Unit
  | [] => pure ()
  | certificate :: below => do
      Search.spendSignature
      Search.ofVerdict (verifySigned key certificate.signed)
      checkSignatures certificate.publicKey below

/-- Compare a name with the trees of one kind. `met` and `missed` tell whether a
tree of the name's kind was found that holds it or that does not. `steps` bounds
the number of trees. -/
def checkTrees (excluded : Bool) (name : PathName) (met missed : Bool) :
    Nat → Bytes → Search Unit
  | 0, _ | _, [] => if missed && !met then throw .nameConstraint else pure ()
  | steps + 1, trees => do
      Search.spendComparison
      let (base, rest) ← Search.ofVerdict do
        let (contents, rest) ← sequence trees
        return (← whole (.trailing .generalName) PathName.read contents, rest)
      match name.isWithin excluded base with
      | none => checkTrees excluded name met missed steps rest
      | some verdict =>
          let holds ← Search.ofVerdict verdict
          if excluded then
            if holds then throw .nameConstraint
            else checkTrees excluded name met missed steps rest
          else checkTrees excluded name (met || holds) (missed || !holds) steps rest

def checkName (permitted excluded : Option Bytes) (name : PathName) : Search Unit := do
  match permitted with
  | some trees => checkTrees false name false false trees.length trees
  | none => pure ()
  match excluded with
  | some trees => checkTrees true name false false trees.length trees
  | none => pure ()

def checkAlternativeNames (permitted excluded : Option Bytes) : Nat → Bytes → Search Unit
  | 0, _ | _, [] => pure ()
  | steps + 1, bytes => do
      let (name, rest) ← Search.ofVerdict (PathName.read bytes)
      checkName permitted excluded name
      checkAlternativeNames permitted excluded steps rest

/-- Check the names of certificates: their alternative names, and then the
subject as a directory name. -/
def checkNames (permitted excluded : Option Bytes) : List PathCertificate → Search Unit
  | [] => pure ()
  | certificate :: below => do
      match certificate.extensions.alternativeNames with
      | some names => checkAlternativeNames permitted excluded names.length names
      | none => pure ()
      checkName permitted excluded .directory
      checkNames permitted excluded below

def readOptional (tag : UInt8) : PathReader (Option Bytes) := do
  if ← peek tag then some <$> expect tag else return none

def checkConstraint (constraints : Bytes) (certificates : List PathCertificate) :
    Search Unit := do
  let (permitted, rest) ← Search.ofVerdict (readOptional (Strict.explicitTag 0) constraints)
  let (excluded, rest) ← Search.ofVerdict (readOptional (Strict.explicitTag 1) rest)
  checkNames permitted excluded certificates
  if !rest.isEmpty then throw .malformed

/-- Check a path from the top against the constraints of the root and against
those of each certificate on it. -/
def checkConstraints (constraints : Option Bytes) : List PathCertificate → Search Unit
  | [] => pure ()
  | certificate :: below => do
      match constraints with
      | some value => checkConstraint value (certificate :: below)
      | none => pure ()
      checkConstraints certificate.extensions.nameConstraints below

def tryAnchor (path : Path) (anchor : TrustAnchor) : Search Unit := do
  if path.head.issuer ≠ anchor.subject then throw .unknownIssuer
  checkSignatures anchor.publicKey path.certificates
  checkConstraints anchor.nameConstraints path.certificates

/-- Try a certificate above a path; `search` goes on from there. A certificate
with the same name and key as one on the path is not tried. -/
def tryIssuer (search : Path → Search Unit) (path : Path)
    (candidate : Except PathError PathCertificate) : Search Unit := do
  let issuer ← Search.ofVerdict candidate
  if issuer.subject ≠ path.head.issuer then throw .unknownIssuer
  let repeats (certificate : PathCertificate) : Bool :=
    certificate.publicKey == issuer.publicKey && certificate.subject == issuer.subject
  if path.certificates.any repeats then throw .unknownIssuer
  Search.spendStep
  search (path.extend issuer)

/-- Look for a root above a path, directly or through further certificates;
`search` goes on from a longer path. -/
def searchStep (anchors : List TrustAnchor) (candidates : List (Except PathError PathCertificate))
    (now : Int) (search : Path → Search Unit) (path : Path) : Search Unit := do
  Search.ofVerdict (checkHead path now)
  fun budget =>
    match Search.firstSuccess (tryAnchor path) .unknownIssuer anchors budget with
    | (.ok (), budget) => (.ok (), budget)
    | (.error error, budget) =>
        if error.isFatal then (.error error, budget)
        else Search.firstSuccess (tryIssuer search path) error candidates budget

/-- Look for a root above a path that may grow by `room` certificates. -/
def searchPath (anchors : List TrustAnchor) (candidates : List (Except PathError PathCertificate))
    (now : Int) : Nat → Path → Search Unit
  | 0 => searchStep anchors candidates now fun _ => throw .depth
  | room + 1 => searchStep anchors candidates now (searchPath anchors candidates now room)

def maxAuthorities : Nat := 6

/-- Verify that a leaf leads to one of the roots at a second since 1970. -/
def verifyPath (leaf : PathCertificate) (anchors : List TrustAnchor)
    (candidates : List (Except PathError PathCertificate)) (now : Int) : Except PathError Unit :=
  (searchPath anchors candidates now maxAuthorities (.ofLeaf leaf) {}).1

end CertScope
