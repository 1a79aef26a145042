import CertScope.Proofs.Ocsp.Check

/-!
# The signed part of a response

A basic response is read twice: once as a tree, from which its answers are taken, and once
from behind its header on, where the part that the signature covers is cut out.  The first
reading is bounded by the length in the header and the second by nothing but the end of the
bytes.  Both find the same first value in the same place, and so the answers are those that
the signed part by itself holds.
-/

namespace CertScope.Asn1

variable {bytes rest behind contents : Bytes} {whole first node : Node} {others : List Node}
  {header : Header}

/-- A header is read alike with anything behind the bytes that it is read from. -/
theorem readHeader_append (read : readHeader bytes = .ok (header, contents)) (behind : Bytes) :
    readHeader (bytes ++ behind) = .ok (header, contents ++ behind) := by
  obtain ⟨opening, rfl, again⟩ := readHeader_takesFront read
  rw [List.append_assoc]
  exact again (contents ++ behind)

/-- The sequence in front of some bytes begins with a part.  The part stands directly behind the
header of the sequence and within its length; it is the whole encoding of one value, and the
sequence, read under the bound of its length, gives this value for its first one. -/
def BeginsWith (bytes part : Bytes) (first : Node) : Prop :=
  ∃ opening header after behind whole others element,
    bytes = opening ++ part ++ after ++ behind ∧
      readHeader bytes = .ok (header, part ++ after ++ behind) ∧
      (part ++ after).length = header.count ∧
      readNode bytes = .ok (whole, behind) ∧ whole.asSequence = .ok (first :: others) ∧
      readBasicElement (part ++ after) = .ok (element, after) ∧
      readElement part = .ok (element, [])

/-- What is read from behind the header of a sequence, without a bound, is the first value of
the sequence and ends within it. -/
theorem beginsWith_of_readNode (read : readNode bytes = .ok (whole, behind))
    (sequence : whole.asSequence = .ok (first :: others))
    (headed : readHeader bytes = .ok (header, contents))
    (readFirst : readNode contents = .ok (node, rest)) :
    ∃ part, contents = part ++ rest ∧ readNode part = .ok (first, []) ∧
      BeginsWith bytes part first := by
  obtain rfl := readNode_first read sequence headed readFirst
  obtain ⟨part, rfl, again⟩ := readNode_takesFront readFirst
  have alone : readNode part = .ok (node, []) := by simpa using again []
  refine ⟨part, rfl, alone, ?_⟩
  obtain ⟨own, inside, headedPart, counted, -, -⟩ := readNode_eq_ok.1 alone
  rw [List.append_nil] at headedPart
  -- the reading under the bound takes the same value off the same place
  obtain ⟨sameHeader, inner, sameHeaded, total, -, interpreted⟩ := readNode_eq_ok.1 read
  obtain ⟨rfl, split⟩ := Prod.mk.inj (Except.ok.inj (sameHeaded.symm.trans headed))
  obtain ⟨⟨found, octets⟩, after, taken, -⟩ :=
    readAll_cons (readAll_of_asSequence interpreted sequence)
  have longer := readHeader_append headedPart rest
  rw [← split] at longer
  obtain ⟨rfl, joined, alsoCounted⟩ := readBasicElement_append taken longer
  obtain ⟨rfl, rfl⟩ := List.append_inj joined (counted.trans alsoCounted.symm)
  rw [← List.append_assoc] at split
  obtain rfl := List.append_cancel_right split
  obtain ⟨opening, shape, -⟩ := readHeader_takesFront headed
  refine ⟨opening, sameHeader, after, behind, whole, others, ⟨found, inside⟩, ?_, ?_, total,
    read, sequence, taken, ?_⟩
  · rw [shape]
    simp only [List.append_assoc]
  · rw [headed, List.append_assoc]
  · simp only [readElement, Outcome.bind_eq_ok, Outcome.pure_eq_ok]
    exact ⟨_, headedPart, (inside, []), take_eq_ok.2 ⟨by simp, counted⟩, rfl⟩

end CertScope.Asn1

namespace CertScope.Ocsp

open Asn1 X509

namespace BasicResponse

variable {bytes octets : Bytes} {response other : BasicResponse}

/-- The answers of a response are those that its signed part holds by itself. -/
theorem responses_of_signedPart (read : ofOctets octets = .ok response) :
    ∃ signed, readNode response.signedPart = .ok (signed, []) ∧
      responsesOf signed = .ok response.responses := by
  obtain ⟨whole, behind, signed, algorithm, signature, others, readWhole, sequence, -, -,
    answered, cut, -⟩ := readings_of_ofOctets read
  obtain ⟨header, left, headed, alone⟩ := signedSpan_eq_ok readWhole sequence cut
  exact ⟨signed, alone, answered⟩

/-- Two responses with one signed part have the same answers, so that a signature never counts
for answers other than those it was made for. -/
theorem responses_eq_of_signedPart_eq {others : Bytes} (read : ofOctets octets = .ok response)
    (readOther : ofOctets others = .ok other) (same : response.signedPart = other.signedPart) :
    response.responses = other.responses := by
  obtain ⟨signed, alone, answered⟩ := responses_of_signedPart read
  obtain ⟨otherSigned, otherAlone, otherAnswered⟩ := responses_of_signedPart readOther
  rw [same, otherAlone] at alone
  obtain ⟨rfl, -⟩ := Prod.mk.inj (Except.ok.inj alone)
  exact Except.ok.inj (answered.symm.trans otherAnswered)

/-- The signed part of a response that can be read is the encoding of the first value in the
octets of the basic response, no more and no less.  It is cut out by lengths of which the
one that is taken away is not the larger, and reading it by itself leaves nothing and gives
the answers of the response. -/
theorem signedPart_reads_back (read : ofBytes bytes = .ok response) :
    ∃ octets signed, octetsOf bytes = .ok octets ∧
      BeginsWith octets response.signedPart signed ∧
      (∃ header contents rest, readHeader octets = .ok (header, contents) ∧
        readNode contents = .ok (signed, rest) ∧ rest.length ≤ contents.length ∧
        response.signedPart = contents.take (contents.length - rest.length) ∧
        contents = response.signedPart ++ rest) ∧
      readNode response.signedPart = .ok (signed, []) ∧
      responsesOf signed = .ok response.responses := by
  simp only [ofBytes, Outcome.bind_eq_ok] at read
  obtain ⟨octets, carried, read⟩ := read
  obtain ⟨whole, behind, signed, algorithm, signature, others, readWhole, sequence, -, -,
    answered, cut, -⟩ := readings_of_ofOctets read
  obtain ⟨header, contents, node, rest, headed, readFirst, shorter, spanned⟩ :=
    cut_of_signedSpan cut
  obtain ⟨part, shape, alone, begins⟩ :=
    beginsWith_of_readNode readWhole sequence headed readFirst
  obtain rfl : node = signed := readNode_first readWhole sequence headed readFirst
  have same : response.signedPart = part := by simp [spanned, shape]
  rw [← same] at shape alone begins
  exact ⟨octets, node, carried, begins,
    ⟨header, contents, rest, headed, readFirst, shorter, spanned, shape⟩, alone, answered⟩

/-- The sample holds one answer in its signed part, with the algorithm and the signature behind
it. -/
theorem signedPart_reads_back_sample :
    ∃ response, ofBytes Sample.response = .ok response ∧
      response.signedPart = Sample.signedPart ∧ response.responses.length = 1 ∧
      ∃ octets signed, octetsOf Sample.response = .ok octets ∧
        BeginsWith octets response.signedPart signed ∧
        (∃ header contents rest, readHeader octets = .ok (header, contents) ∧
          readNode contents = .ok (signed, rest) ∧ rest.length ≤ contents.length ∧
          response.signedPart = contents.take (contents.length - rest.length) ∧
          contents = response.signedPart ++ rest) ∧
        readNode response.signedPart = .ok (signed, []) ∧
        responsesOf signed = .ok response.responses := by
  obtain ⟨response, read, passes⟩ := @Outcome.exists_of_any_toOption _ _
    (ofBytes Sample.response)
    (fun response => response.signedPart == Sample.signedPart && response.responses.length == 1)
    (by decide +kernel)
  rw [Bool.and_eq_true, beq_iff_eq, beq_iff_eq] at passes
  exact ⟨response, read, passes.1, passes.2, signedPart_reads_back read⟩

end BasicResponse

end CertScope.Ocsp
