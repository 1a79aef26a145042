import CertScope.Ocsp.Response
import CertScope.Proofs.Asn1.Tree
import CertScope.Proofs.X509.Reading

/-!
# What a response holds

The reader of responses walks nested trees and cuts the signed part out of the
encoding.  Here its results are described by relations between the bytes of the
response and their parts: which octets a response carries, which parts a basic
response has in its octets, and which statement an answer makes.
-/

namespace CertScope.Ocsp

open Asn1 X509

variable {value : Type}

/-! ## Steps of the reader -/

@[simp]
theorem refuseResponse_eq_ok {fault : ResponseFault} {result : value} :
    refuseResponse fault = .ok result ↔ False := by
  simp [refuseResponse]

@[simp]
theorem require_eq_ok {fault : ResponseFault} {part : Option value} {result : value} :
    require fault part = .ok result ↔ part = some result := by
  cases part <;> simp [require]

@[simp]
theorem view_eq_ok {outcome : Except Asn1.Error value} {result : value} :
    view outcome = .ok result ↔ outcome = .ok result :=
  Outcome.mapError_eq_ok

@[simp]
theorem readOrRefuse_eq_ok {outcome : Except (Failure Asn1.Error) value} {result : value} :
    readOrRefuse outcome = .ok result ↔ outcome = .ok result :=
  Outcome.mapError_eq_ok

@[simp]
theorem readTree_eq_ok {bytes : Bytes} {node : Node} :
    readTree bytes = .ok node ↔ ∃ rest, readNode bytes = .ok (node, rest) := by
  simp [readTree]

/-! ## The basic response in a response -/

/-- The bytes of a response that succeeded carry some octets as a basic response. -/
def Carries (bytes octets : Bytes) : Prop :=
  ∃ whole behind status wrapper others wrapped inner left kind response,
    readNode bytes = .ok (whole, behind) ∧
    whole.asSequence = .ok (status :: wrapper :: others) ∧
    status.header.tag = Tag.enumerated ∧ status.asUInt32 = .ok 0 ∧
    wrapper.isContext 0 = true ∧ wrapper.asOctets = .ok wrapped ∧
    readNode wrapped = .ok (inner, left) ∧
    inner.asSequence = .ok [kind, response] ∧
    kind.asOid = .ok basicResponseId ∧
    response.header.tag = Tag.octetString ∧ response.asOctets = .ok octets

/-- What a list has in its first two places. -/
private theorem eq_cons_cons {parts : List value} {first second : value}
    (head : parts.head? = some first) (next : parts[1]? = some second) :
    ∃ others, parts = first :: second :: others := by
  obtain ⟨tail, rfl⟩ := List.head?_eq_some_iff.1 head
  cases tail with
  | nil => simp at next
  | cons found others =>
      obtain rfl : found = second := by simpa using next
      exact ⟨others, rfl⟩

theorem carries_of_octetsOf {bytes octets : Bytes}
    (read : BasicResponse.octetsOf bytes = .ok octets) : Carries bytes octets := by
  simp only [BasicResponse.octetsOf, Outcome.bind_eq_ok, view_eq_ok, require_eq_ok,
    readTree_eq_ok, ite_eq_iff, refuseResponse_eq_ok, Outcome.throw_eq_ok, false_and,
    exists_false, and_false, false_or, not_not, ne_eq] at read
  obtain ⟨whole, ⟨behind, readWhole⟩, parts, sequence, status, first, enumerated, code, coded,
    rfl, wrapper, second, wrapped, unwrapped, inner, ⟨left, readInner⟩, pair, innerSequence,
    read⟩ := read
  obtain ⟨others, rfl⟩ := eq_cons_cons first (Option.filter_eq_some_iff.1 second).1
  have context := (Option.filter_eq_some_iff.1 second).2
  rcases pair with _ | ⟨kind, _ | ⟨response, _ | ⟨_, _⟩⟩⟩
  · simp at read
  · simp at read
  · simp only [Outcome.bind_eq_ok, view_eq_ok, ite_eq_iff, refuseResponse_eq_ok, false_and,
      exists_false, and_false, false_or, not_not] at read
    obtain ⟨_, identified, rfl, octetString, given⟩ := read
    exact ⟨whole, behind, status, wrapper, others, wrapped, inner, left, kind, response,
      readWhole, sequence, enumerated, coded, context, unwrapped, readInner, innerSequence,
      identified, octetString, given⟩
  · simp at read

/-! ## The parts of a basic response -/

namespace BasicResponse

/-- A basic response has its parts in some octets: the signed part with the answers, the
algorithm, the signature, and the certificates of which each is read from a place
inside the tagged value that follows. -/
def StandsIn (response : BasicResponse) (octets : Bytes) : Prop :=
  ∃ header behind whole rest signed algorithm signature others identifier parameters parts
      answers,
    readHeader octets = .ok (header, response.signedPart ++ behind) ∧
    readNode response.signedPart = .ok (signed, []) ∧
    readNode octets = .ok (whole, rest) ∧
    whole.asSequence = .ok (signed :: algorithm :: signature :: others) ∧
    algorithm.asSequence = .ok (identifier :: parameters) ∧
    identifier.asOid = .ok response.algorithm ∧
    signature.content = .bitString 0 response.signature ∧
    signed.asSequence = .ok parts ∧ answers ∈ parts ∧
    answers.asSequence = .ok response.responses ∧
    ∀ certificate ∈ response.certificates, ∃ explicit ∈ others.head?, ∃ inside place left,
      explicit.isContext 0 = true ∧ explicit.asOctets = .ok inside ∧ place <:+ inside ∧
      SignedCertificate.read place = .ok (certificate, left)

/-- The span is cut off the contents in front of what the reading behind the header leaves. -/
theorem cut_of_signedSpan {octets span : Bytes} (cut : signedSpan octets = .ok span) :
    ∃ header contents node rest, readHeader octets = .ok (header, contents) ∧
      readNode contents = .ok (node, rest) ∧ rest.length ≤ contents.length ∧
      span = contents.take (contents.length - rest.length) := by
  simp only [signedSpan, Outcome.bind_eq_ok, readOrRefuse_eq_ok, Outcome.pure_eq_ok] at cut
  obtain ⟨⟨header, contents⟩, headed, ⟨node, rest⟩, read, rfl⟩ := cut
  obtain ⟨part, shape, -⟩ := readNode_takesFront read
  have shorter : rest.length ≤ contents.length := List.IsSuffix.length_le ⟨part, shape.symm⟩
  exact ⟨header, contents, node, rest, headed, read, shorter, rfl⟩

/-- The span that is cut out is a whole value behind the header, and the first one
of the sequence. -/
theorem signedSpan_eq_ok {octets span rest : Bytes} {whole signed : Node} {others : List Node}
    (readWhole : readNode octets = .ok (whole, rest))
    (sequence : whole.asSequence = .ok (signed :: others))
    (cut : signedSpan octets = .ok span) :
    ∃ header behind, readHeader octets = .ok (header, span ++ behind) ∧
      readNode span = .ok (signed, []) := by
  obtain ⟨header, contents, first, behind, headed, readFirst, -, rfl⟩ := cut_of_signedSpan cut
  obtain rfl := readNode_first readWhole sequence headed readFirst
  obtain ⟨taken, rfl, again⟩ := readNode_takesFront readFirst
  have spanned : (taken ++ behind).take ((taken ++ behind).length - behind.length) = taken := by
    simp
  rw [spanned]
  exact ⟨header, behind, headed, by simpa using again []⟩

theorem mem_embeddedCertificates {inside : Bytes} {certificates : List SignedCertificate}
    (read : embeddedCertificates inside = .ok certificates) {certificate : SignedCertificate}
    (member : certificate ∈ certificates) :
    ∃ place left, place <:+ inside ∧ SignedCertificate.read place = .ok (certificate, left) := by
  simp only [embeddedCertificates, Outcome.bind_eq_ok, readOrRefuse_eq_ok, ite_eq_iff,
    refuseResponse_eq_ok, Outcome.pure_eq_ok, false_and, exists_false, and_false,
    false_or] at read
  obtain ⟨⟨header, contents⟩, headed, -, rfl⟩ := read
  obtain ⟨taken, rfl, -⟩ := readHeader_takesFront headed
  obtain ⟨place, left, within, readPlace⟩ := mem_readMany readContainer_suffix member
  exact ⟨place, left, within.trans (List.suffix_append _ _), readPlace⟩

theorem algorithmOf_eq_ok {node : Node} {algorithm : Oid} :
    algorithmOf node = .ok algorithm ↔
      ∃ identifier parameters, node.asSequence = .ok (identifier :: parameters) ∧
        identifier.asOid = .ok algorithm := by
  simp only [algorithmOf, Outcome.bind_eq_ok, view_eq_ok, require_eq_ok, List.head?_eq_some_iff]
  constructor
  · rintro ⟨_, sequence, identifier, ⟨parameters, rfl⟩, identified⟩
    exact ⟨identifier, parameters, sequence, identified⟩
  · rintro ⟨identifier, parameters, sequence, identified⟩
    exact ⟨_, sequence, identifier, ⟨parameters, rfl⟩, identified⟩

theorem signatureOf_eq_ok {node : Node} {octets : Bytes} :
    signatureOf node = .ok octets ↔ node.content = .bitString 0 octets := by
  unfold signatureOf
  split
  · rename_i found same
    simp [same]
  · rename_i other
    simpa using other octets

theorem responsesOf_eq_ok {node : Node} {responses : List Node}
    (read : responsesOf node = .ok responses) :
    ∃ parts answers, node.asSequence = .ok parts ∧ answers ∈ parts ∧
      answers.asSequence = .ok responses := by
  simp only [responsesOf, Outcome.bind_eq_ok, view_eq_ok, require_eq_ok] at read
  obtain ⟨parts, sequence, answers, found, given⟩ := read
  exact ⟨parts, answers, sequence, List.mem_of_find?_eq_some found, given⟩

/-- What is read on the way to a basic response: the tree and its parts, from which the
answers and the signature are taken, the signed part, and the certificates of the tagged value. -/
theorem readings_of_ofOctets {octets : Bytes} {response : BasicResponse}
    (read : ofOctets octets = .ok response) :
    ∃ whole rest signed algorithm signature others,
      readNode octets = .ok (whole, rest) ∧
      whole.asSequence = .ok (signed :: algorithm :: signature :: others) ∧
      algorithmOf algorithm = .ok response.algorithm ∧
      signatureOf signature = .ok response.signature ∧
      responsesOf signed = .ok response.responses ∧
      signedSpan octets = .ok response.signedPart ∧
      ∀ certificate ∈ response.certificates, ∃ explicit ∈ others.head?, ∃ inside place left,
        explicit.isContext 0 = true ∧ explicit.asOctets = .ok inside ∧ place <:+ inside ∧
        SignedCertificate.read place = .ok (certificate, left) := by
  simp only [ofOctets, Outcome.bind_eq_ok, view_eq_ok, readTree_eq_ok] at read
  obtain ⟨whole, ⟨rest, readWhole⟩, parts, sequence, read⟩ := read
  rcases parts with _ | ⟨signed, _ | ⟨algorithm, _ | ⟨signature, others⟩⟩⟩
  · simp at read
  · simp at read
  · simp at read
  simp only [Outcome.bind_eq_ok] at read
  obtain ⟨algorithmId, named, bits, signs, read⟩ := read
  refine ⟨whole, rest, signed, algorithm, signature, others, readWhole, sequence, ?_⟩
  cases leading : others.head?.filter (·.isContext 0) with
  | none =>
      simp only [leading, Outcome.bind_eq_ok, Outcome.pure_eq_ok] at read
      obtain ⟨_, rfl, responses, answered, span, cut, rfl⟩ := read
      exact ⟨named, signs, answered, cut, by simp⟩
  | some explicit =>
      simp only [leading, Outcome.bind_eq_ok, Outcome.pure_eq_ok, view_eq_ok] at read
      obtain ⟨inside, opened, certificates, readInside, responses, answered, span, cut,
        rfl⟩ := read
      refine ⟨named, signs, answered, cut, fun certificate member => ?_⟩
      obtain ⟨place, left, within, readPlace⟩ := mem_embeddedCertificates readInside member
      obtain ⟨first, context⟩ := Option.filter_eq_some_iff.1 leading
      exact ⟨explicit, first, inside, place, left, context, opened, within, readPlace⟩

theorem standsIn_of_ofOctets {octets : Bytes} {response : BasicResponse}
    (read : ofOctets octets = .ok response) : response.StandsIn octets := by
  obtain ⟨whole, rest, signed, algorithm, signature, others, readWhole, sequence, named, signs,
    answered, cut, embedded⟩ := readings_of_ofOctets read
  obtain ⟨header, behind, headed, readSpan⟩ := signedSpan_eq_ok readWhole sequence cut
  obtain ⟨identifier, parameters, algorithmSequence, identified⟩ := algorithmOf_eq_ok.1 named
  obtain ⟨parts, answers, signedSequence, member, given⟩ := responsesOf_eq_ok answered
  exact ⟨header, behind, whole, rest, signed, algorithm, signature, others, identifier,
    parameters, parts, answers, headed, readSpan, readWhole, sequence, algorithmSequence,
    identified, signatureOf_eq_ok.1 signs, signedSequence, member, given, embedded⟩

end BasicResponse

end CertScope.Ocsp
