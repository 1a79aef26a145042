import CertScope.Ocsp.Verify
import CertScope.Proofs.Bytes
import CertScope.Proofs.Ocsp.Response

/-!
# What an accepted response attests

A response is accepted for a certificate when one of the answers in its signed
part is about the certificate and current, and when the signed part is signed by
the issuer or by a delegate of the issuer.  Every check on the way is restated here
as a relation, and an accepted response is shown to have passed all of them.
-/

namespace CertScope.Ocsp

open Asn1 X509

variable {serial : Bytes} {issuer : SignedCertificate} {now : Instant}

/-! ## Answers -/

/-- A value writes a moment in UTC, told to the second. -/
def WritesInstant (node : Node) (instant : Instant) : Prop :=
  ∃ time seconds, node.content = .generalizedTime time ∧ time.zone = .utc ∧
    time.seconds? = some seconds ∧ instant = .ofSeconds seconds

theorem instantOf_eq_ok {node : Node} {instant : Instant} :
    instantOf node = .ok instant ↔ WritesInstant node instant := by
  unfold instantOf WritesInstant
  cases node.content with
  | generalizedTime time =>
      by_cases utc : time.zone = .utc
      · cases second : time.seconds? with
        | none => simp [utc, second]
        | some seconds => simp [utc, second, eq_comm]
      · simp [utc]
  | _ => simp

/-- The tag behind which a status is written. -/
def CertificateStatus.tag : CertificateStatus → Nat
  | good => 0
  | revoked _ => 1
  | unknown => 2

theorem tag_of_statusOf {node : Node} {status : CertificateStatus}
    (read : SingleResponse.statusOf node = .ok status) : node.header.tag = status.tag := by
  simp only [SingleResponse.statusOf] at read
  split at read
  · rename_i good
    obtain rfl := Outcome.pure_eq_ok.1 read
    exact good
  · rename_i revoked
    simp only [Outcome.bind_eq_ok, ite_eq_iff, Outcome.pure_eq_ok] at read
    obtain ⟨information, -, ⟨-, rfl⟩ | ⟨-, node, -, since, -, rfl⟩⟩ := read
    · exact revoked
    · exact revoked
  · rename_i unknown
    obtain rfl := Outcome.pure_eq_ok.1 read
    exact unknown
  · simp at read

/-- Fields report a status that holds from one moment to another.  The second one may
be left out. -/
def Reports (fields : List Node) (single : SingleResponse) : Prop :=
  ∃ certificateId status issued others,
    fields = certificateId :: status :: issued :: others ∧
    status.header.tagClass = .contextSpecific ∧ status.header.tag = single.status.tag ∧
    WritesInstant issued single.thisUpdate ∧
    ∀ explicit ∈ others.head?, explicit.isContext 0 = true →
      ∃ inside time left nextUpdate, explicit.asOctets = .ok inside ∧
        readNode inside = .ok (time, left) ∧ WritesInstant time nextUpdate ∧
        single.nextUpdate = some nextUpdate

theorem reports_of_ofFields {fields : List Node} {single : SingleResponse}
    (read : SingleResponse.ofFields fields = .ok single) : Reports fields single := by
  rcases fields with _ | ⟨certificateId, _ | ⟨status, _ | ⟨issued, others⟩⟩⟩
  · simp [SingleResponse.ofFields] at read
  · simp [SingleResponse.ofFields] at read
  · simp [SingleResponse.ofFields] at read
  have fourth : (certificateId :: status :: issued :: others)[3]? = others.head? := by
    cases others <;> rfl
  simp only [SingleResponse.ofFields, Outcome.bind_eq_ok, require_eq_ok, fourth] at read
  obtain ⟨_, second, told, reads, _, third, thisUpdate, written, read⟩ := read
  obtain ⟨found, contextual⟩ := Option.filter_eq_some_iff.1 second
  obtain rfl : issued = _ := Option.some.inj third
  obtain rfl : status = _ := Option.some.inj found
  refine ⟨certificateId, status, issued, others, rfl, by simpa using contextual, ?_⟩
  have tagged := tag_of_statusOf reads
  have begins := instantOf_eq_ok.1 written
  cases tail : others.head?.filter (·.isContext 0) with
  | none =>
      simp only [tail, Outcome.bind_eq_ok, Outcome.pure_eq_ok] at read
      obtain ⟨_, rfl, rfl⟩ := read
      refine ⟨tagged, begins, fun explicit leading context => ?_⟩
      exact absurd context (Option.filter_eq_none_iff.1 tail explicit leading)
  | some explicit =>
      simp only [tail, Outcome.bind_eq_ok, Outcome.pure_eq_ok, view_eq_ok,
        readTree_eq_ok] at read
      obtain ⟨inside, opened, time, ⟨left, readTime⟩, nextUpdate, ends, _, rfl, rfl⟩ := read
      refine ⟨tagged, begins, fun same leading context => ?_⟩
      obtain rfl : same = explicit :=
        Option.mem_unique leading (Option.filter_eq_some_iff.1 tail).1
      exact ⟨inside, time, left, nextUpdate, opened, readTime, instantOf_eq_ok.1 ends, rfl⟩

/-- An answer is current as long as it was not issued more than five minutes in the
future and a newer one is not more than five minutes late. -/
structure SingleResponse.IsCurrent (response : SingleResponse) (now : Instant) : Prop where
  issued : response.thisUpdate ≤ now.addSeconds 300
  due : ∀ nextUpdate ∈ response.nextUpdate, now ≤ nextUpdate.addSeconds 300

theorem SingleResponse.checkCurrent_eq_ok {response : SingleResponse} :
    response.checkCurrent now = .ok () ↔ response.IsCurrent now := by
  unfold SingleResponse.checkCurrent SingleResponse.clockSkew
  constructor
  · intro checked
    split at checked
    · simp at checked
    · rename_i issued
      refine ⟨issued, fun nextUpdate told => ?_⟩
      rw [Option.mem_def.1 told] at checked
      dsimp only at checked
      split at checked
      · simp at checked
      · assumption
  · intro current
    rw [if_neg current.issued]
    cases told : response.nextUpdate with
    | none => rfl
    | some nextUpdate => exact if_neg (current.due nextUpdate told)

/-! ## The certificate asked about -/

/-- A name is that of the certificate that an issuer gave a serial number: the
digests are those of the issuer's name and key under one of two algorithms, and the
serial numbers are the same number. -/
def Names (certificateId : Node) (serial : Bytes) (issuer : SignedCertificate) : Prop :=
  ∃ algorithm nameDigest keyDigest number identifier parameters hash octets,
    certificateId.asSequence = .ok [algorithm, nameDigest, keyDigest, number] ∧
    algorithm.asSequence = .ok (identifier :: parameters) ∧
    (identifier.asOid = .ok sha1Id ∧ hash = .sha1 ∨
      identifier.asOid = .ok sha256Id ∧ hash = .sha256) ∧
    nameDigest.asOctets = .ok (Hash.digest hash issuer.subject.raw) ∧
    keyDigest.asOctets = .ok (Hash.digest hash issuer.publicKey.bits.octets) ∧
    number.asOctets = .ok octets ∧ Bytes.value octets = Bytes.value serial

theorem issuerDigests?_eq_some {algorithm : Oid} {name key : Bytes} :
    issuerDigests? issuer algorithm = some (name, key) ↔
      ∃ hash, (algorithm = sha1Id ∧ hash = Hash.sha1 ∨ algorithm = sha256Id ∧ hash = .sha256) ∧
        name = hash.digest issuer.subject.raw ∧
        key = hash.digest issuer.publicKey.bits.octets := by
  have distinct : sha256Id ≠ sha1Id := by decide
  unfold issuerDigests?
  by_cases first : algorithm = sha1Id
  · subst algorithm
    simp [distinct.symm, eq_comm]
  · by_cases second : algorithm = sha256Id
    · subst algorithm
      simp [distinct, eq_comm]
    · simp [first, second]

theorem names_of_isAbout {certificateId : Node}
    (about : isAbout certificateId serial issuer = .ok true) :
    Names certificateId serial issuer := by
  simp only [isAbout, Outcome.bind_eq_ok, view_eq_ok] at about
  obtain ⟨parts, sequence, about⟩ := about
  rcases parts with
    _ | ⟨algorithm, _ | ⟨nameDigest, _ | ⟨keyDigest, _ | ⟨number, _ | ⟨_, _⟩⟩⟩⟩⟩
  · simp at about
  · simp at about
  · simp at about
  · simp at about
  · simp only [Outcome.bind_eq_ok, view_eq_ok, require_eq_ok,
      List.head?_eq_some_iff] at about
    obtain ⟨_, algorithmSequence, identifier, ⟨parameters, rfl⟩, oid, identified, about⟩ :=
      about
    cases digests : issuerDigests? issuer oid with
    | none => simp [digests] at about
    | some expected =>
        simp only [digests, Outcome.bind_eq_ok, view_eq_ok, ite_eq_iff, Outcome.pure_eq_ok,
          Bool.false_eq_true, and_false, false_or, not_not, ne_eq, beq_iff_eq] at about
        obtain ⟨_, named, rfl, _, keyed, rfl, octets, numbered, same⟩ := about
        obtain ⟨hash, chosen, nameDigested, keyDigested⟩ := issuerDigests?_eq_some.1 digests
        refine ⟨algorithm, nameDigest, keyDigest, number, identifier, parameters, hash, octets,
          sequence, algorithmSequence, ?_, nameDigested ▸ named, keyDigested ▸ keyed, numbered,
          Bytes.trimZeros_eq_iff.1 same⟩
        simpa only [identified, Except.ok.injEq] using chosen
  · simp at about

/-- The answer that is found is one of the answers given, is about the certificate, and is
read from its own fields. -/
theorem exists_of_findSingle {responses : List Node} {single : SingleResponse}
    (found : findSingle serial issuer responses = .ok single) :
    ∃ answer ∈ responses, ∃ certificateId others,
      answer.asSequence = .ok (certificateId :: others) ∧
      Names certificateId serial issuer ∧ Reports (certificateId :: others) single := by
  induction responses with
  | nil => simp [findSingle] at found
  | cons response responses ih =>
      have later (skipped : findSingle serial issuer responses = .ok single) :
          ∃ answer ∈ response :: responses, ∃ certificateId others,
            answer.asSequence = .ok (certificateId :: others) ∧
            Names certificateId serial issuer ∧ Reports (certificateId :: others) single := by
        obtain ⟨answer, member, rest⟩ := ih skipped
        exact ⟨answer, List.mem_cons_of_mem _ member, rest⟩
      simp only [findSingle, Outcome.bind_eq_ok, view_eq_ok] at found
      obtain ⟨fields, sequence, found⟩ := found
      cases fields with
      | nil => exact later found
      | cons certificateId others =>
          simp only [List.head?_cons, Outcome.bind_eq_ok] at found
          obtain ⟨about, judged, found⟩ := found
          cases about with
          | false => exact later found
          | true =>
              exact ⟨response, List.mem_cons_self, certificateId, others, sequence,
                names_of_isAbout judged, reports_of_ofFields found⟩

/-! ## Signatures -/

/-- A response is signed under a key, in the way that its algorithm names for the
key. -/
def BasicResponse.SignedUnder (response : BasicResponse) (key : PublicKey) : Prop :=
  ∃ scheme, schemeOf? response.algorithm key.bits.octets = some scheme ∧
    scheme.verify key.bits.octets response.signedPart response.signature = true

theorem BasicResponse.isSignedBy_iff {response : BasicResponse} {key : PublicKey} :
    response.isSignedBy key = true ↔ response.SignedUnder key := by
  simp [isSignedBy, SignedUnder, Option.any_eq_true]

/-- An issuer lets a certificate sign responses: it issued and signed the certificate
for that purpose, and the certificate is valid at the second of asking. -/
structure Delegated (responder issuer : SignedCertificate) (now : Instant) : Prop where
  purpose : ∃ purposes, responder.purposes? = some purposes ∧ ocspSigningId ∈ purposes
  begun : responder.validity.notBefore ≤ now.seconds
  lasting : now.seconds ≤ responder.validity.notAfter
  named : responder.issuer.raw = issuer.subject.raw
  signed : ∃ scheme, X509.schemeOf? issuer.publicKey responder.algorithm = some scheme ∧
    scheme.verify issuer.publicKey.bits.octets responder.signedPart
      responder.signature.octets = true

theorem isDelegated_iff {responder : SignedCertificate} :
    isDelegated responder issuer now = true ↔ Delegated responder issuer now := by
  simp only [isDelegated, SignedCertificate.isSignedBy, Bool.and_eq_true, Option.any_eq_true,
    List.contains_iff_mem, decide_eq_true_eq, beq_iff_eq]
  constructor
  · rintro ⟨⟨⟨⟨purpose, begun⟩, lasting⟩, named⟩, signed⟩
    exact ⟨purpose, begun, lasting, named, signed⟩
  · rintro ⟨purpose, begun, lasting, named, signed⟩
    exact ⟨⟨⟨⟨purpose, begun⟩, lasting⟩, named⟩, signed⟩

/-- A response is signed by the issuer or by a certificate that it brings and that the
issuer delegated to. -/
def BasicResponse.Authorized (response : BasicResponse) (issuer : SignedCertificate)
    (now : Instant) : Prop :=
  response.SignedUnder issuer.publicKey ∨
    ∃ responder ∈ response.certificates,
      Delegated responder issuer now ∧ response.SignedUnder responder.publicKey

theorem BasicResponse.isAuthorized_iff {response : BasicResponse} :
    response.isAuthorized issuer now = true ↔ response.Authorized issuer now := by
  simp only [isAuthorized, Authorized, Bool.or_eq_true, List.any_eq_true, Bool.and_eq_true,
    isSignedBy_iff, isDelegated_iff]

/-! ## Accepted responses -/

/-- An answer gives a certificate the status behind a tag, and is current. -/
def States (answer : Node) (serial : Bytes) (issuer : SignedCertificate) (now : Instant)
    (tag : Nat) : Prop :=
  ∃ certificateId others single,
    answer.asSequence = .ok (certificateId :: others) ∧
    Names certificateId serial issuer ∧ Reports (certificateId :: others) single ∧
    single.status.tag = tag ∧ single.IsCurrent now

/-- The bytes of a response attest the status behind a tag of the certificate that an
issuer gave a serial number. -/
def Attests (bytes serial : Bytes) (issuer : SignedCertificate) (now : Instant) (tag : Nat) :
    Prop :=
  ∃ octets response, Carries bytes octets ∧ BasicResponse.StandsIn response octets ∧
    response.Authorized issuer now ∧
    ∃ answer ∈ response.responses, States answer serial issuer now tag

theorem attests_of_verify {bytes : Bytes} {single : SingleResponse}
    (accepted : verify bytes serial issuer now = .ok single) :
    Attests bytes serial issuer now single.status.tag := by
  simp only [verify, BasicResponse.ofBytes, Outcome.bind_eq_ok, ite_eq_iff, Outcome.throw_eq_ok,
    Outcome.pure_eq_ok, false_and, exists_false, and_false, false_or, Bool.not_eq_true',
    Bool.not_eq_false] at accepted
  obtain ⟨response, ⟨octets, carried, read⟩, found, single', authorized, ⟨⟩, checked, rfl⟩ :=
    accepted
  obtain ⟨answer, member, certificateId, others, sequence, names, reports⟩ :=
    exists_of_findSingle single'
  exact ⟨octets, response, carries_of_octetsOf carried,
    BasicResponse.standsIn_of_ofOctets read, BasicResponse.isAuthorized_iff.1 authorized,
    answer, member, certificateId, others, found, sequence, names, reports, rfl,
    SingleResponse.checkCurrent_eq_ok.1 checked⟩

end CertScope.Ocsp
