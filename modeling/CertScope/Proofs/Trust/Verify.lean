import CertScope.Certificate.Decode
import CertScope.Proofs.Trust.Certificate
import CertScope.Proofs.Trust.Search
import CertScope.Proofs.Trust.Usage
import Mathlib

/-!
# Trust and the certificate that is shown

The trust in a leaf and the decoded view of it come from two readings of the same
bytes.  A leaf that is trusted has been accepted by the first check of the search, and
what this check found in the bytes is what the decoded view shows.
-/

namespace CertScope

open Asn1 X509 PathReader Strict

variable {now : Int} {certificate : PathCertificate}

theorem Instant.ofSeconds_le_ofSeconds {first second : Int} :
    Instant.ofSeconds first ≤ Instant.ofSeconds second ↔ first ≤ second :=
  Instant.ofSeconds_le_iff

/-! ## What the decoded view shows -/

variable {signed : SignedCertificate} {der : Bytes}

/-- The times of the decoded view are those that path building compared with. -/
theorem validity_of_accepted (accepted : Accepted certificate now)
    (agrees : PathCertificate.ReadsValidity certificate.validity signed.validity) :
    (Certificate.ofSigned der signed).notBefore ≤ .ofSeconds now ∧
      .ofSeconds now ≤ (Certificate.ofSigned der signed).notAfter := by
  obtain ⟨notBefore, notAfter, rest, begins, ends, begun, lasting⟩ :=
    times_of_readValidity accepted.validity
  obtain ⟨rest', left, lenientBegins, lenientEnds⟩ := agrees
  simp only [readDate, readTime?_of_time begins, Except.ok.injEq, Prod.mk.injEq] at lenientBegins
  obtain ⟨sameBegin, rfl⟩ := lenientBegins
  simp only [readDate, readTime?_of_time ends, Except.ok.injEq, Prod.mk.injEq] at lenientEnds
  obtain ⟨sameEnd, -⟩ := lenientEnds
  simp only [Certificate.ofSigned, ← sameBegin, ← sameEnd, Instant.ofSeconds_le_ofSeconds]
  exact ⟨begun, lasting⟩

theorem marksAuthority_of_accepted (accepted : Accepted certificate now)
    (notes : PathCertificate.Notes {} signed.extensions certificate.extensions) :
    Certificate.marksAuthority signed = false := by
  obtain ⟨-, absent⟩ | ⟨value, contents, found, filled, only⟩ := notes.findUnique .basicConstraints
  · have absent : Extension.findUnique Extension.basicConstraintsId signed.extensions = none :=
      absent
    simp [Certificate.marksAuthority, absent]
  · have only : Extension.findUnique Extension.basicConstraintsId signed.extensions =
        some (Extension.decodeValue Extension.basicConstraintsId value) := only
    have differs := decodeValue_ne_authority found (accepted.role contents filled)
    unfold Certificate.marksAuthority
    rw [only]
    cases decoded : Extension.decodeValue Extension.basicConstraintsId value with
    | basicConstraints isCa =>
        cases isCa with
        | false => rfl
        | true => exact (differs decoded).elim
    | _ => rfl

/-- If the decoded view has purposes, server authentication is among them. -/
theorem mem_purposes_of_accepted {purposes : List Oid} (accepted : Accepted certificate now)
    (notes : PathCertificate.Notes {} signed.extensions certificate.extensions)
    (listed : signed.purposes? = some purposes) : purposeId 1 ∈ purposes := by
  unfold SignedCertificate.purposes? at listed
  obtain ⟨-, absent⟩ | ⟨value, contents, found, filled, only⟩ := notes.findUnique .purposes
  · have absent : Extension.findUnique Extension.extendedKeyUsageId signed.extensions = none :=
      absent
    simp [absent] at listed
  · have only : Extension.findUnique Extension.extendedKeyUsageId signed.extensions =
        some (Extension.decodeValue Extension.extendedKeyUsageId value) := only
    rw [only] at listed
    split at listed
    · rename_i decodedPurposes decoded
      obtain rfl := Option.some.inj listed
      exact mem_of_decodeValue found (accepted.purposes contents filled)
        (Option.some.inj decoded)
    · cases listed

/-- The names of extended usages. -/
def extendedUsages : List String :=
  ["any", "client auth", "code signing", "email protection", "timestamping", "ocsp signing",
    "server auth"]

theorem notMem_basicUsageNames {name : String} (extended : name ∈ extendedUsages) (flags : Nat) :
    name ∉ Certificate.basicUsageNames flags := by
  have disjoint : ∀ name ∈ extendedUsages, name ∉ Certificate.basicUsages := by decide
  intro basic
  simp only [Certificate.basicUsageNames, List.mem_map, List.mem_filter] at basic
  obtain ⟨usage, ⟨among, -⟩, rfl⟩ := basic
  exact disjoint _ extended (List.fst_mem_of_mem_zipIdx among)

/-- A purpose that is listed is shown under its name. -/
theorem serverAuth_mem_purposeNames {purposes : List Oid} (member : purposeId 1 ∈ purposes) :
    "server auth" ∈ Certificate.purposeNames purposes := by
  simp only [Certificate.purposeNames, List.mem_map, List.mem_filter]
  refine ⟨(purposeId 1, "server auth"), ⟨?_, by simpa using member⟩, rfl⟩
  simp [Certificate.purposes]

theorem serverAuth_mem_of_accepted {name : String} (accepted : Accepted certificate now)
    (notes : PathCertificate.Notes {} signed.extensions certificate.extensions)
    (extended : name ∈ extendedUsages) (shown : name ∈ Certificate.usagesOf signed) :
    "server auth" ∈ Certificate.usagesOf signed := by
  simp only [Certificate.usagesOf, List.mem_append] at shown ⊢
  right
  cases listed : signed.purposes? with
  | none =>
      rw [listed] at shown
      obtain basic | purpose := shown
      · split at basic
        · exact (notMem_basicUsageNames extended _ basic).elim
        · cases basic
      · simp [Certificate.purposeNames] at purpose
  | some purposes =>
      exact serverAuth_mem_purposeNames (mem_purposes_of_accepted accepted notes listed)

/-- The trust answer never contradicts the certificate that is shown: a trusted leaf is no
authority, it is valid at the second that was looked at, and extended usages include
server authentication if there are any. -/
theorem trusted_agrees_with_decoded {leaf : Certificate} {intermediates : List Bytes}
    {roots : RootStore} {now : Instant} (decoded : Certificate.decode der = .ok leaf)
    (trusted : verifyTrust leaf intermediates roots now = .trusted) :
    leaf.isCa = false ∧
      (leaf.notBefore ≤ .ofSeconds (max 0 now.seconds) ∧
        .ofSeconds (max 0 now.seconds) ≤ leaf.notAfter) ∧
      ∀ name ∈ extendedUsages, name ∈ leaf.keyUsage → "server auth" ∈ leaf.keyUsage := by
  unfold Certificate.decode at decoded
  split at decoded
  · cases decoded
  · rename_i signed read
    obtain rfl := Except.ok.inj decoded
    obtain ⟨certificate, strict, checked⟩ := checkHead_of_verifyTrust trusted
    have accepted := accepted_of_checkHead checked
    obtain ⟨validity, notes⟩ := PathCertificate.agrees_of_ofBytes strict read
    exact ⟨marksAuthority_of_accepted accepted notes, validity_of_accepted accepted validity,
      fun name extended shown => serverAuth_mem_of_accepted accepted notes extended shown⟩
  · cases decoded

/-! ## A leaf that is trusted -/

namespace TrustedSample

def algorithm : Bytes := PathAlgorithm.rsaSignatureId 11

/-- A leaf for server authentication whose issuer has no name. -/
def signedPart : Bytes :=
  encodeSequence
    [encode (explicitTag 0) (encodeInteger [2]), encodeInteger [7],
      encodeSequence [algorithm], encodeSequence [],
      encodeSequence
        [encode 0x17 (Bytes.ofText "250101000000Z"),
          encode 0x17 (Bytes.ofText "350101000000Z")],
      encodeSequence [],
      encodeSequence [encodeSequence [encodeOid (pkcs1Id 1)], encode 0x03 [0]],
      encode (explicitTag 3)
        (encodeSequence
          [encodeSequence
              [encodeOid Extension.basicConstraintsId, encodeOctetString (encodeSequence [])],
            encodeSequence
              [encodeOid Extension.extendedKeyUsageId,
                encodeOctetString (encodeSequence [encodeOid (purposeId 1)])]])]

def digest : Bytes :=
  Bytes.ofValue 32 0xc5935bb8aef79b0d57632f47e8e8e39b89d3810fb6a5d3a828dd291466afac6a

def signature : Bytes :=
  [0x2db1074fc31a75889645bb58173dff3dbfd2b6af8ba4bad4af525ad02f4ac4a3,
    0xa42c121d491db24aa33bde8de2d3744f16906e17fa3f27979ab3bb979389cb36,
    0xcbbeb4ab9e95a789a4d2d3a6ce0a421ab58d1402de07ae32b0a21c732c42f2c8,
    0xb9dd1fddd3aad78e1cf04e666ce5221f7597d4329546ae89dbb1057b5efc2a7d,
    0xde4463a6f8cdfb39cbcf51d814c10b6abd983dea0c65213d1b364c92da818fff,
    0x54d4bd80bb9c0139e9fe952270104ccc03e185e0a4adc0fdfdf7cca60d43c325,
    0xdbfee506c4d7ac2871f69644481c89bc4ea86f1559099f2f236e0d8fef9ed2ff,
    0x11aa15bb28755044e7123366976913898cf1ce345d4fddb0e8f8d35566a317c4].flatMap
    (Bytes.ofValue 32)

def encoding : Bytes :=
  encodeSequence [signedPart, encodeSequence [algorithm], encode 0x03 (0 :: signature)]

def key : Bytes :=
  encodeSequence
    [encodeInteger (0 :: Bytes.ofValue 256 (((1 <<< 1024) + 643) * ((1 <<< 1023) + 1155))),
      encodeInteger [3]]

/-- A root without a name. -/
def root : TrustAnchor where
  subject := []
  publicKey := encodeSequence [PathAlgorithm.rsaKeyId] ++ encode 0x03 (0 :: key)
  nameConstraints := none

theorem digest_signedPart : Hash.sha256.digest signedPart = digest := by
  cbv

theorem verify_signature :
    (SignatureScheme.rsa .sha256 2048).verify key signedPart signature = true := by
  have read : Rsa.Key.read? 2048 key =
      some ⟨((1 <<< 1024) + 643) * ((1 <<< 1023) + 1155), 3, 256⟩ := by decide +kernel
  simp only [SignatureScheme.verify, Rsa.verifyPkcs1, read, digest_signedPart]
  decide +kernel

theorem verifySigned_root :
    verifySigned root.publicKey ⟨signedPart, algorithm, signature⟩ = .ok () := by
  have only : PathAlgorithm.supported.filter (·.signatureId == algorithm) =
      [⟨algorithm, PathAlgorithm.rsaKeyId, .rsa .sha256 2048⟩] := by decide +kernel
  have read : whole (.trailing .publicKey) readKey root.publicKey =
      .ok (PathAlgorithm.rsaKeyId, key) := Outcome.toOption_eq_some.1 (by decide +kernel)
  exact verifySigned_of_verify only read verify_signature

theorem ofBytes_encoding :
    ∃ certificate, PathCertificate.ofBytes encoding = .ok certificate ∧
      checkHead (.ofLeaf certificate) 1767225600 = .ok () ∧ certificate.issuer = [] ∧
      certificate.signed = ⟨signedPart, algorithm, signature⟩ := by
  obtain ⟨certificate, read, passes⟩ := Outcome.exists_of_any_toOption
    (fun certificate : PathCertificate =>
      (checkHead (.ofLeaf certificate) 1767225600).toOption == some () &&
        certificate.issuer == [] && certificate.signed == ⟨signedPart, algorithm, signature⟩)
    (show (PathCertificate.ofBytes encoding).toOption.any _ = true by decide +kernel)
  simp only [Bool.and_eq_true, beq_iff_eq, Outcome.toOption_eq_some] at passes
  obtain ⟨⟨checked, named⟩, same⟩ := passes
  exact ⟨certificate, read, checked, named, same⟩

end TrustedSample

/-- The sample is trusted in 2026, when it is valid; it is no authority, and server
authentication is the only usage that it lists. -/
theorem sample_trusted :
    ∃ leaf, Certificate.decode TrustedSample.encoding = .ok leaf ∧
      verifyTrust leaf [] ⟨[TrustedSample.root]⟩ (.ofSeconds 1767225600) = .trusted ∧
      leaf.keyUsage = ["server auth"] ∧ leaf.isCa = false ∧
      (leaf.notBefore ≤ .ofSeconds 1767225600 ∧ .ofSeconds 1767225600 ≤ leaf.notAfter) ∧
      ∀ name ∈ extendedUsages, name ∈ leaf.keyUsage → "server auth" ∈ leaf.keyUsage := by
  obtain ⟨⟨signed, rest⟩, decoded, passes⟩ := Outcome.exists_of_any_toOption
    (fun step : SignedCertificate × Bytes =>
      step.2 == [] && Certificate.usagesOf step.1 == ["server auth"])
    (show (SignedCertificate.read TrustedSample.encoding).toOption.any _ = true by
      decide +kernel)
  simp only [Bool.and_eq_true, beq_iff_eq] at passes
  obtain ⟨rfl, usages⟩ := passes
  have decoded : Certificate.decode TrustedSample.encoding =
      .ok (.ofSigned TrustedSample.encoding signed) := by
    simp only [Certificate.decode, decoded]
  obtain ⟨certificate, read, checked, named, same⟩ := TrustedSample.ofBytes_encoding
  have trusted : verifyTrust (.ofSigned TrustedSample.encoding signed) []
      ⟨[TrustedSample.root]⟩ (.ofSeconds 1767225600) = .trusted :=
    verifyTrust_of_verifySigned read checked named rfl (same ▸ TrustedSample.verifySigned_root)
  exact ⟨_, decoded, trusted, usages, trusted_agrees_with_decoded decoded trusted⟩

end CertScope
