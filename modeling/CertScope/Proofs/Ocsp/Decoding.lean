import CertScope.Proofs.Ocsp.Check
import CertScope.Proofs.Ocsp.Encoding

/-!
# Written responses read back

From a response that is written in the way of RFC 6960 the reader takes the answer that
was written into it.  The parts of the response stand in one another as octets that are
read on their own, so that each layer is read back by itself: the octets of the basic
response, its signed part, the certificates that it brings, and the answers.
-/

namespace CertScope.Ocsp.Encoding

open Asn1 X509
open Strict (headerOf)

variable {serial : Bytes} {issuer : SignedCertificate} {now : Instant}

/-- Answers about other certificates are passed over, and the first about the certificate is
taken, whatever follows it. -/
theorem findSingle_of_isTaken {before after : List Answer} {answer : Answer} {nodes : List Node}
    (taken : List.Forall₂ Answer.IsTaken (before ++ answer :: after) nodes)
    (others : ∀ other ∈ before, ¬ other.certificateId.IsOf serial issuer)
    (named : answer.certificateId.IsOf serial issuer) :
    findSingle serial issuer nodes = .ok answer.meaning := by
  induction before generalizing nodes with
  | nil =>
      obtain ⟨node, nodes, ⟨certificateId, fields, sequence, judged, read⟩, -, rfl⟩ :=
        List.forall₂_cons_left_iff.1 taken
      obtain ⟨about, compared, told⟩ := judged serial issuer
      simp [findSingle, sequence, compared, told.2 named, read]
  | cons other before ih =>
      obtain ⟨node, nodes, ⟨certificateId, fields, sequence, judged, -⟩, rest, rfl⟩ :=
        List.forall₂_cons_left_iff.1 taken
      obtain ⟨about, compared, told⟩ := judged serial issuer
      have foreign : about = false := by
        rw [← Bool.not_eq_true, told]
        exact others other List.mem_cons_self
      have found := ih rest fun one member => others one (List.mem_cons_of_mem _ member)
      simp [findSingle, sequence, compared, foreign, found]

namespace Response

variable {response : Response}

/-- The parameters of every algorithm can be read, at the depth that the reader has left
where they stand. -/
structure IsReadable (response : Response) : Prop where
  signedPart : response.signedPart.IsReadable 44
  algorithm : response.algorithm.IsReadable 48

/-- A response brings a certificate behind others that can be read. -/
def Brings (response : Response) (responder : SignedCertificate) : Prop :=
  ∃ earlier encoded later, response.certificates = some (earlier ++ encoded :: later) ∧
    (∀ other ∈ earlier, ∃ found, SignedCertificate.read other = .ok (found, [])) ∧
    SignedCertificate.read encoded = .ok (responder, [])

/-- The signature verifies over the encoded signed part under a key, in the way that the
algorithm names for the key. -/
def SignedUnder (response : Response) (key : PublicKey) : Prop :=
  ∃ scheme, schemeOf? response.algorithm.id key.bits.octets = some scheme ∧
    scheme.verify key.bits.octets response.signedPart.encode response.signature = true

/-- The response is signed by the issuer, or by a certificate that it brings and that the
issuer delegated to. -/
def IsAuthorized (response : Response) (issuer : SignedCertificate) (now : Instant) : Prop :=
  response.SignedUnder issuer.publicKey ∨
    ∃ responder, response.Brings responder ∧ Delegated responder issuer now ∧
      response.SignedUnder responder.publicKey

/-! ## Layers -/

theorem fits_wrapped (fits : Fits response.encode) :
    Fits (encodeSequence [encodeOid basicResponseId, encodeOctetString response.basic]) := by
  have wrapped : Fits (Asn1.encode 0xA0 _) := fits.part (List.mem_cons_of_mem _ List.mem_cons_self)
  exact wrapped.inside

theorem fits_basic (fits : Fits response.encode) : Fits response.basic := by
  have octets : Fits (encodeOctetString response.basic) :=
    (fits_wrapped fits).part (List.mem_cons_of_mem _ List.mem_cons_self)
  exact octets.inside

theorem octetsOf_encode (fits : Fits response.encode) (trailing : Bytes) :
    BasicResponse.octetsOf (response.encode ++ trailing) = .ok response.basic := by
  have status : Writes 49 (Asn1.encode 0x0A [0]) (.mk (headerOf 0x0A [0]) (.enumerated 0)) :=
    writes_primitive (by decide) rfl rfl rfl
  have wrapper : Writes 49 (Asn1.encode 0xA0 _) (rawNode 0xA0 (encodeSequence
      [encodeOid basicResponseId, encodeOctetString response.basic])) :=
    writes_raw (by decide) (by decide)
  have read := readNode_encodeSequence (.cons status (.cons wrapper .nil)) fits trailing
  have readInner := readNode_encodeSequence_self
    (.cons (writes_oid basicResponseId) (.cons (writes_octetString response.basic) .nil))
    (fits_wrapped fits)
  simp only [BasicResponse.octetsOf, Outcome.bind_eq_ok, view_eq_ok, require_eq_ok,
    readTree_eq_ok, ite_eq_iff, refuseResponse_eq_ok, Outcome.throw_eq_ok, false_and,
    exists_false, and_false, false_or, not_not, ne_eq]
  refine ⟨_, ⟨_, read⟩, _, rfl, _, rfl, rfl, 0, rfl, rfl, _, rfl, _, rfl, _, ⟨_, readInner⟩, _,
    rfl, ?_⟩
  simp only [Outcome.bind_eq_ok, view_eq_ok, ite_eq_iff, refuseResponse_eq_ok, false_and,
    exists_false, and_false, false_or, not_not]
  exact ⟨_, rfl, rfl, rfl, rfl⟩

/-- What stands behind the signed part. -/
def behindSignedPart (response : Response) : Bytes :=
  ([response.algorithm.encode, Asn1.encode 0x03 (0 :: response.signature)] ++
    tagged 0xA0 (response.certificates.map encodeSequence)).flatten

/-- The signed part is cut out of the basic response as it was written. -/
theorem signedSpan_basic (readable : response.IsReadable) (fits : Fits response.basic) :
    BasicResponse.signedSpan response.basic = .ok response.signedPart.encode := by
  obtain ⟨node, _, writes, -⟩ := SignedPart.exists_writes readable.signedPart
  have fitsSigned : Fits response.signedPart.encode := fits.part (by simp)
  have headed := readHeader_encodeSequence fits
  have read := readNode_encode (by decide) writes.succ fitsSigned rfl response.behindSignedPart
  simp only [BasicResponse.signedSpan, Outcome.bind_eq_ok, readOrRefuse_eq_ok, Outcome.pure_eq_ok]
  refine ⟨_, headed, _, read, ?_⟩
  change (response.signedPart.encode ++ response.behindSignedPart).take
    ((response.signedPart.encode ++ response.behindSignedPart).length -
      response.behindSignedPart.length) = response.signedPart.encode
  simp

/-- The certificates in a list are read up to the first that cannot be. -/
theorem exists_embeddedCertificates {certificates : List Bytes}
    (fits : Fits (encodeSequence certificates)) :
    ∃ found, BasicResponse.embeddedCertificates (encodeSequence certificates) = .ok found ∧
      ∀ earlier encoded later responder, certificates = earlier ++ encoded :: later →
        (∀ other ∈ earlier, ∃ certificate, SignedCertificate.read other = .ok (certificate, [])) →
        SignedCertificate.read encoded = .ok (responder, []) → responder ∈ found := by
  have headed := readHeader_encodeSequence fits
  refine ⟨(readMany SignedCertificate.read certificates.flatten.length certificates.flatten).1,
    ?_, ?_⟩
  · simp only [BasicResponse.embeddedCertificates, Outcome.bind_eq_ok, readOrRefuse_eq_ok]
    exact ⟨_, headed, rfl⟩
  · rintro earlier encoded later responder rfl before read
    rw [List.flatten_append, List.flatten_cons]
    exact mem_readMany_flatten SignedCertificate.read_takesFront SignedCertificate.read_nil before
      read (Nat.le_refl _)

/-- The certificates behind the signature, if any follow it. -/
def certificatesIn (others : List Node) : Except Error (List SignedCertificate) :=
  match others.head?.filter (·.isContext 0) with
  | some explicit => do BasicResponse.embeddedCertificates (← view explicit.asOctets)
  | none => pure []

theorem certificatesIn_tagged (inside : Bytes) :
    certificatesIn (taggedNodes 0xA0 (some inside)) =
      BasicResponse.embeddedCertificates inside := by
  change (do BasicResponse.embeddedCertificates (← view (.ok inside))) = _
  generalize BasicResponse.embeddedCertificates = embedded
  rfl

/-- A basic response is read from its parts, each of which is read by itself. -/
theorem ofOctets_of_parts {octets rest span bits : Bytes} {whole signed algorithm signature : Node}
    {others responses : List Node} {algorithmId : Oid} {certificates : List SignedCertificate}
    (readWhole : readNode octets = .ok (whole, rest))
    (sequence : whole.asSequence = .ok (signed :: algorithm :: signature :: others))
    (named : BasicResponse.algorithmOf algorithm = .ok algorithmId)
    (signs : BasicResponse.signatureOf signature = .ok bits)
    (embedded : certificatesIn others = .ok certificates)
    (answered : BasicResponse.responsesOf signed = .ok responses)
    (cut : BasicResponse.signedSpan octets = .ok span) :
    BasicResponse.ofOctets octets = .ok ⟨span, responses, algorithmId, bits, certificates⟩ := by
  simp only [BasicResponse.ofOctets, Outcome.bind_eq_ok, view_eq_ok, readTree_eq_ok]
  refine ⟨whole, ⟨rest, readWhole⟩, _, sequence, ?_⟩
  unfold certificatesIn at embedded
  simp only [Outcome.bind_eq_ok]
  refine ⟨_, named, _, signs, ?_⟩
  generalize others.head?.filter (·.isContext 0) = leading at embedded ⊢
  cases leading with
  | none =>
      simp only [Outcome.bind_eq_ok]
      exact ⟨_, embedded, _, answered, _, cut, rfl⟩
  | some explicit =>
      obtain ⟨inside, opened, embedded⟩ := Outcome.bind_eq_ok.1 embedded
      simp only [Outcome.bind_eq_ok]
      exact ⟨inside, opened, _, embedded, _, answered, _, cut, rfl⟩

/-- The certificates that are read, among which are those that the response brings. -/
theorem exists_certificatesIn (fits : Fits response.basic) :
    ∃ found,
      certificatesIn (taggedNodes 0xA0 (response.certificates.map encodeSequence)) = .ok found ∧
      ∀ responder, response.Brings responder → responder ∈ found := by
  cases brought : response.certificates with
  | none =>
      refine ⟨[], rfl, ?_⟩
      rintro responder ⟨earlier, encoded, later, given, -⟩
      rw [brought] at given
      cases given
  | some list =>
      have fitsList : Fits (encodeSequence list) := by
        have wrapped : Fits (Asn1.encode 0xA0 (encodeSequence list)) := by
          apply fits.part
          simp [brought, tagged]
        exact wrapped.inside
      obtain ⟨found, embedded, among⟩ := exists_embeddedCertificates fitsList
      refine ⟨found, (certificatesIn_tagged _).trans embedded, ?_⟩
      rintro responder ⟨earlier, encoded, later, given, before, whole⟩
      rw [brought] at given
      exact among earlier encoded later responder (Option.some.inj given) before whole

/-- The basic response is read with the parts that it was written with. -/
theorem exists_ofOctets_basic (readable : response.IsReadable) (fits : Fits response.basic) :
    ∃ nodes certificates,
      BasicResponse.ofOctets response.basic =
        .ok ⟨response.signedPart.encode, nodes, response.algorithm.id, response.signature,
          certificates⟩ ∧
      List.Forall₂ Answer.IsTaken response.signedPart.answers nodes ∧
      ∀ responder, response.Brings responder → responder ∈ certificates := by
  have span := signedSpan_basic readable fits
  obtain ⟨signed, nodes, writesSigned, answers, taken⟩ :=
    SignedPart.exists_writes readable.signedPart
  obtain ⟨algorithm, identifier, parameters, writesAlgorithm, sequence, identified⟩ :=
    Algorithm.exists_writes readable.algorithm
  obtain ⟨found, embedded, among⟩ := exists_certificatesIn fits
  have signature : Writes 49 (Asn1.encode 0x03 (0 :: response.signature))
      (.mk (headerOf 0x03 (0 :: response.signature)) (.bitString 0 response.signature)) :=
    writes_primitive (by decide) rfl rfl rfl
  have certificates : List.Forall₂ (Writes 49)
      (tagged 0xA0 (response.certificates.map encodeSequence)) _ :=
    writes_tagged 48 _ (by decide) (by decide)
  generalize taggedNodes 0xA0 (response.certificates.map encodeSequence) = others at *
  have parts := List.rel_append (.cons writesSigned (.cons writesAlgorithm
    (.cons signature .nil))) certificates
  have read := readNode_encodeSequence_self parts fits
  have named : BasicResponse.algorithmOf algorithm = .ok response.algorithm.id :=
    BasicResponse.algorithmOf_eq_ok.2 ⟨_, _, sequence, identified⟩
  exact ⟨nodes, found, ofOctets_of_parts read rfl named rfl embedded answers span, taken, among⟩

/-- The response is authorized as it was written. -/
theorem IsAuthorized.authorized (authorized : response.IsAuthorized issuer now)
    (nodes : List Node) {certificates : List SignedCertificate}
    (among : ∀ responder, response.Brings responder → responder ∈ certificates) :
    BasicResponse.Authorized ⟨response.signedPart.encode, nodes, response.algorithm.id,
      response.signature, certificates⟩ issuer now := by
  obtain signed | ⟨responder, brings, delegated, signed⟩ := authorized
  · exact Or.inl signed
  · exact Or.inr ⟨responder, among responder brings, delegated, signed⟩

end Response

/-- A response that is written in the way of RFC 6960, with any bytes behind it, is read back:
the answer about a certificate is the one that the first answer under the name of the
certificate was written with, if the response is authorized and the answer current.  The
parameters of the algorithms, which the format leaves open, have to be values that the
reader takes in where they stand. -/
theorem verify_encode {response : Response} {before after : List Answer} {answer : Answer}
    (answers : response.signedPart.answers = before ++ answer :: after)
    (readable : response.IsReadable) (fits : response.encode.length < 2 ^ 64)
    (others : ∀ other ∈ before, ¬ other.certificateId.IsOf serial issuer)
    (named : answer.certificateId.IsOf serial issuer)
    (authorized : response.IsAuthorized issuer now) (current : answer.meaning.IsCurrent now)
    (trailing : Bytes) :
    verify (response.encode ++ trailing) serial issuer now = .ok answer.meaning := by
  obtain ⟨nodes, certificates, read, taken, among⟩ :=
    Response.exists_ofOctets_basic readable (Response.fits_basic fits)
  rw [answers] at taken
  have found := findSingle_of_isTaken taken others named
  have accepted := BasicResponse.isAuthorized_iff.2 (authorized.authorized nodes among)
  have checked := SingleResponse.checkCurrent_eq_ok.2 current
  have octets := Response.octetsOf_encode fits trailing
  simp [verify, BasicResponse.ofBytes, octets, read, found, accepted, checked]

/-! ## Two responses -/

namespace Sample

/-- The first second of 2026. -/
def issued : Moment := ⟨1767225600, by decide, by decide⟩

/-- The first second of the day after. -/
def due : Moment := ⟨1767312000, by decide, by decide⟩

/-- An answer about another certificate, under a digest of an algorithm of its own. -/
def neighbour (parameters : Bytes) : Answer where
  certificateId := ⟨⟨⟨[0x2A, 0x03]⟩, some parameters⟩, [1], [2], [8]⟩
  status := .good
  thisUpdate := issued
  nextUpdate := none
  extensions := none

/-- The answer that the certificate with the serial number 7 is revoked. -/
def answer : Answer where
  certificateId :=
    ⟨⟨sha1Id, some encodeNull⟩, Hash.sha1.digest (encodeSequence []),
      Hash.sha1.digest Ocsp.Sample.key, [7]⟩
  status := .revoked issued (some 1)
  thisUpdate := issued
  nextUpdate := some due
  extensions := none

/-- A response with both answers, in which the parameters of the first are left open. -/
def response (parameters signature : Bytes) : Response where
  signedPart :=
    { version := none
      responder := .byKey (Hash.sha1.digest Ocsp.Sample.key)
      producedAt := issued
      answers := [neighbour parameters, answer]
      extensions := none }
  algorithm := ⟨pkcs1Id 5, some encodeNull⟩
  signature
  certificates := none

/-- The signature of the sample issuer if the first parameters are null. -/
def signature : Bytes :=
  [0x0ec2064cee59a20eec7b7fc1a263b9e2024d19bc0fa8c986aeec19c323bf33ce,
    0x410567a45baa9797565e434822543dcfbcabe8a1d4fae24b88e5bf0d47d159b0,
    0xb1dc548a92401bb245eb06608d7b391d1044e4f04ac021eb15fb5e61c5ad3fc4,
    0x9c5b4c6b44aae1918c8a8852ce90b06b661ebfdf96fa8c9eece812a39b8479e8].flatMap
    (Bytes.ofValue 32)

/-- Whether a certificate is the issuer that the answer names and that signed a response. -/
def isIssuer (response : Response) (read : SignedCertificate × Bytes) : Bool :=
  issuerDigests? read.1 sha1Id ==
      some (answer.certificateId.nameDigest, answer.certificateId.keyDigest) &&
    (schemeOf? response.algorithm.id read.1.publicKey.bits.octets).any fun scheme =>
      scheme.verify read.1.publicKey.bits.octets response.signedPart.encode response.signature

theorem isIssuer_iff {response : Response} {rest : Bytes}
    (passes : isIssuer response (issuer, rest) = true) :
    answer.certificateId.IsOf [7] issuer ∧ response.IsAuthorized issuer now := by
  simp only [isIssuer, Bool.and_eq_true, beq_iff_eq, Option.any_eq_true] at passes
  obtain ⟨digests, signed⟩ := passes
  exact ⟨CertificateId.isOf_iff.2 ⟨digests, by decide⟩, Or.inl signed⟩

theorem not_isOf_neighbour (parameters : Bytes) (issuer : SignedCertificate) :
    ¬ (neighbour parameters).certificateId.IsOf [7] issuer := by
  have differs : Bytes.trimZeros [8] ≠ Bytes.trimZeros [7] := by decide
  rintro named
  exact differs (CertificateId.isOf_iff.1 named).2

theorem isCurrent_answer : answer.meaning.IsCurrent (.ofSeconds 1767312300) := by
  constructor
  · decide
  · rintro nextUpdate ⟨⟩
    decide

end Sample

/-- A revoked certificate, five minutes after a newer answer was due. -/
theorem verify_encode_revoked :
    let response := Sample.response encodeNull Sample.signature
    let now := Instant.ofSeconds 1767312300
    ∃ issuer rest, SignedCertificate.read Ocsp.Sample.issuer = .ok (issuer, rest) ∧
      response.IsReadable ∧ response.encode.length < 2 ^ 64 ∧
      ¬ (Sample.neighbour encodeNull).certificateId.IsOf [7] issuer ∧
      Sample.answer.certificateId.IsOf [7] issuer ∧ response.IsAuthorized issuer now ∧
      Sample.answer.meaning.IsCurrent now ∧
      verify (response.encode ++ [0]) [7] issuer now =
        .ok ⟨.revoked (some (.ofSeconds 1767225600)), .ofSeconds 1767225600,
          some (.ofSeconds 1767312000)⟩ := by
  intro response now
  obtain ⟨⟨issuer, rest⟩, read, passes⟩ := Outcome.exists_of_any_toOption
    (Sample.isIssuer response)
    (show (SignedCertificate.read Ocsp.Sample.issuer).toOption.any _ = true by decide +kernel)
  obtain ⟨named, authorized⟩ := Sample.isIssuer_iff passes
  have null (depth : Nat) (id : Oid) : Algorithm.IsReadable (depth + 1) ⟨id, some encodeNull⟩ := by
    apply Algorithm.isReadable_of_isNested
    rintro parameters ⟨⟩
    exact .null
  have readable : response.IsReadable := by
    refine ⟨fun answer member => ?_, null 47 _⟩
    obtain rfl | rfl : answer = Sample.neighbour encodeNull ∨ answer = Sample.answer := by
      simpa [response, Sample.response] using member
    · exact null 43 _
    · exact null 43 _
  have fits : response.encode.length < 2 ^ 64 := by decide +kernel
  have other := Sample.not_isOf_neighbour encodeNull issuer
  have answers : response.signedPart.answers =
      [Sample.neighbour encodeNull] ++ Sample.answer :: [] := rfl
  have verified := verify_encode answers readable fits (by simpa using other) named authorized
    Sample.isCurrent_answer [0]
  exact ⟨issuer, rest, read, readable, fits, other, named, authorized, Sample.isCurrent_answer,
    verified⟩

namespace Sample

/-- Sequences in one another, with nothing in the innermost. -/
def nested : Nat → Bytes
  | 0 => encodeSequence []
  | depth + 1 => encodeSequence [nested depth]

theorem isNested_nested (depth : Nat) : IsNested (depth + 1) (nested depth) := by
  induction depth with
  | zero => exact .sequence (by simp)
  | succ depth ih =>
      refine .sequence fun part member => ?_
      rw [List.mem_singleton.1 member]
      exact ih

def nestedSignature : Bytes :=
  [0x3fdf61fe504c033f0b0a9e1f430cbfb7a990662c0df7f835f3c14914372fe9c8,
    0xbded04ec8a62939724ff9fdd462e976991f2729c130d8a8780644f390ed5e4e5,
    0xb3c9da94c1df526affa6e3efed4e034f6417725bc3bb865404a003a210c3cbcc,
    0x0ce530992d3c90efe8e4d5bcabeceff9c6debe5683d1fbf8353c1f535ba66620].flatMap
    (Bytes.ofValue 32)

end Sample

/-- The reader goes into a response no deeper than fifty values, so that parameters of another
answer which are nested deeper than that hide an answer behind them. -/
theorem not_verify_encode_nested :
    ¬ ∀ (response : Response) (before after : List Answer) (answer : Answer) (serial : Bytes)
        (issuer : SignedCertificate) (now : Instant) (trailing : Bytes),
      response.signedPart.answers = before ++ answer :: after →
      (∀ algorithm ∈ response.algorithms, ∀ parameters ∈ algorithm.parameters,
        ∃ depth, IsNested depth parameters) →
      response.encode.length < 2 ^ 64 →
      (∀ other ∈ before ++ after, ¬ other.certificateId.IsOf serial issuer) →
      answer.certificateId.IsOf serial issuer → response.IsAuthorized issuer now →
      answer.meaning.IsCurrent now →
      verify (response.encode ++ trailing) serial issuer now = .ok answer.meaning := by
  intro accepts
  let response := Sample.response (Sample.nested 59) Sample.nestedSignature
  obtain ⟨⟨issuer, rest⟩, -, passes⟩ := Outcome.exists_of_any_toOption
    (fun read : SignedCertificate × Bytes => Sample.isIssuer response read &&
      (verify (response.encode ++ []) [7] read.1 (.ofSeconds 1767312300)).toOption.isNone)
    (show (SignedCertificate.read Ocsp.Sample.issuer).toOption.any _ = true by decide +kernel)
  obtain ⟨isIssuer, refused⟩ := Bool.and_eq_true_iff.1 passes
  obtain ⟨named, authorized⟩ := Sample.isIssuer_iff isIssuer
  have verified := accepts response [Sample.neighbour (Sample.nested 59)] [] Sample.answer [7]
    issuer (.ofSeconds 1767312300) [] rfl ?_ (by decide +kernel) ?_ named authorized
    Sample.isCurrent_answer
  · simp only [verified] at refused
    cases refused
  · intro algorithm member parameters given
    obtain rfl | rfl | rfl : algorithm = ⟨pkcs1Id 5, some encodeNull⟩ ∨
        algorithm = ⟨⟨[0x2A, 0x03]⟩, some (Sample.nested 59)⟩ ∨
        algorithm = ⟨sha1Id, some encodeNull⟩ := by
      simpa [response, Sample.response, Sample.neighbour, Sample.answer,
        Response.algorithms] using member
    · obtain rfl := Option.some.inj given
      exact ⟨0, .null⟩
    · obtain rfl := Option.some.inj given
      exact ⟨60, Sample.isNested_nested 59⟩
    · obtain rfl := Option.some.inj given
      exact ⟨0, .null⟩
  · intro other member
    rw [List.mem_singleton.1 member]
    exact Sample.not_isOf_neighbour _ _

end CertScope.Ocsp.Encoding
