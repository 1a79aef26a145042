import CertScope.Proofs.Ocsp.Check
import CertScope.Proofs.Pem.First
import CertScope.Proofs.Pem.Neighbour
import CertScope.Proofs.Report.Inspection
import CertScope.Proofs.SerialNumber

/-!
# The forms of an issuer

The issuer that a responder is asked about comes encoded, as an intermediate or as the
authority, or as the text of a certificate.  A text always stands for the certificate that is
written in it.  An encoded certificate stands for itself as long as no certificate is written
inside of it, say in a name; otherwise it is passed over for the one that is.
-/

namespace CertScope

open Pem X509 Inspection

namespace Ocsp

variable {der : Bytes} {issuer : SignedCertificate}

/-- Ask the first responder of a leaf on behalf of an issuer that has been read. -/
def ask (leaf : Certificate) (issuer : SignedCertificate) (now : Instant) (transport : Transport)
    (watch : Watch) : Timed RevocationStatus :=
  match leaf.ocspServers.head? with
  | none => ⟨.notApplicable "no OCSP responder URL set", [], 0⟩
  | some url =>
      let asked := query leaf issuer url now transport watch
      ⟨statusOf url asked.value, asked.requests, asked.time⟩

section Forms

variable {intermediates others : List Bytes} {authority : Option Bytes} {candidate other : Bytes}
  (leaf : Certificate) (now : Instant) (transport : Transport) (watch : Watch)

theorem checkOcsp_eq_ask (selected : selectIssuer intermediates authority = some candidate)
    (read : SignedCertificate.read (firstCertificate candidate) = .ok (issuer, [])) :
    checkOcsp leaf intermediates authority now transport watch =
      ask leaf issuer now transport watch := by
  simp only [checkOcsp, selected, read]
  rfl

/-- Candidates in which the same certificate is found are asked about alike. -/
theorem checkOcsp_congr {otherAuthority : Option Bytes} {otherIntermediates : List Bytes}
    (first : selectIssuer intermediates authority = some candidate)
    (second : selectIssuer otherIntermediates otherAuthority = some other)
    (same : firstCertificate candidate = firstCertificate other) :
    checkOcsp leaf intermediates authority now transport watch =
      checkOcsp leaf otherIntermediates otherAuthority now transport watch := by
  simp only [checkOcsp, first, second, same]

theorem selectIssuer_concat (others : List Bytes) (candidate : Bytes) (authority : Option Bytes) :
    selectIssuer (others ++ [candidate]) authority = some candidate := by
  rw [selectIssuer, List.getLast?_concat]
  rfl

theorem selectIssuer_authority (filled : candidate ≠ []) :
    selectIssuer [] (some candidate) = some candidate := by
  rw [selectIssuer, List.getLast?_nil, Option.filter_some, if_pos]
  · rfl
  · simpa using filled

end Forms

theorem ne_nil_of_read {rest : Bytes} (read : SignedCertificate.read der = .ok (issuer, rest)) :
    der ≠ [] := by
  rintro rfl
  exact SignedCertificate.read_nil issuer rest read

/-- The forms of an issuer: each text of it stands for it, and the encoded certificate does
exactly if no certificate is written inside.  All forms that stand for the issuer lead to the
same question and the same status, and an encoded certificate with another one inside leads
to those of the other. -/
theorem forms_of_issuer (accepted : SignedCertificate.read der = .ok (issuer, [])) :
    (∀ text, IsTextOf der text → firstCertificate text = der) ∧
      IsTextOf der (Block.encode ⟨certificateLabel, der⟩) ∧
      (firstCertificate der = der ↔ certificates der = []) ∧
      (¬ beginMarker <:+: der → certificates der = []) ∧
      ∀ (leaf : Certificate) (others : List Bytes) (authority : Option Bytes) (now : Instant)
        (transport : Transport) (watch : Watch),
        (∀ text, IsTextOf der text →
          checkOcsp leaf [] (some text) now transport watch =
            ask leaf issuer now transport watch) ∧
        checkOcsp leaf (others ++ [der]) authority now transport watch =
          checkOcsp leaf [] (some der) now transport watch ∧
        (certificates der = [] →
          checkOcsp leaf [] (some der) now transport watch =
            ask leaf issuer now transport watch) ∧
        ∀ inner ∈ (certificates der).head?, ∀ text, IsTextOf inner text →
          checkOcsp leaf [] (some der) now transport watch =
            checkOcsp leaf [] (some text) now transport watch := by
  have filled := ne_nil_of_read accepted
  refine ⟨fun text isText => isText.firstCertificate, isTextOf_encode der,
    firstCertificate_eq_self, certificates_of_unopened, ?_⟩
  intro leaf others authority now transport watch
  refine ⟨?_, ?_, ?_, ?_⟩
  · intro text isText
    apply checkOcsp_eq_ask leaf now transport watch (selectIssuer_authority isText.ne_nil)
    rw [isText.firstCertificate, accepted]
  · exact checkOcsp_congr leaf now transport watch (selectIssuer_concat others der authority)
      (selectIssuer_authority filled) rfl
  · intro plain
    apply checkOcsp_eq_ask leaf now transport watch (selectIssuer_authority filled)
    rw [firstCertificate_eq_self.2 plain, accepted]
  · intro inner written text isText
    apply checkOcsp_congr leaf now transport watch (selectIssuer_authority filled)
      (selectIssuer_authority isText.ne_nil)
    rw [isText.firstCertificate, firstCertificate, List.headD_eq_head?_getD, written,
      Option.getD_some]

/-- What is reported of a leaf whose responder gives an empty answer. -/
def Sample.unanswered (intermediates : List Bytes) (authority : Option Bytes) : RevocationStatus :=
  (checkOcsp certificate intermediates authority (.ofSeconds 1767225600)
    (fun _ => .after 0 (.ok [])) ⟨5000, none⟩).value

theorem forms_of_sample :
    (SignedCertificate.read (SerialSample.encoding [7])).toOption.any
        (fun read => read.2 == []) = true ∧
      firstCertificate (SerialSample.encoding [7]) = SerialSample.encoding [7] ∧
      Sample.unanswered [SerialSample.encoding [7]] none =
        .checkFailed "failed to parse OCSP response: Parsing requires 1 bytes/chars" ∧
      Sample.unanswered [] (some (SerialSample.encoding [7])) =
        .checkFailed "failed to parse OCSP response: Parsing requires 1 bytes/chars" ∧
      Sample.unanswered []
          (some (Block.encode ⟨certificateLabel, SerialSample.encoding [7]⟩)) =
        .checkFailed "failed to parse OCSP response: Parsing requires 1 bytes/chars" := by
  have reads : (SignedCertificate.read (SerialSample.encoding [7])).toOption.any
      (fun read => read.2 == []) = true := by decide +kernel
  obtain ⟨⟨issuer, rest⟩, accepted, ended⟩ := Outcome.exists_of_any_toOption _ reads
  obtain rfl : rest = [] := beq_iff_eq.1 ended
  obtain ⟨-, isText, same, plain, forms⟩ := forms_of_issuer accepted
  have unwritten : certificates (SerialSample.encoding [7]) = [] := plain (by decide +kernel)
  obtain ⟨ofText, ofIntermediate, ofAuthority, -⟩ := forms Sample.certificate [] none
    (.ofSeconds 1767225600) (fun _ => .after 0 (.ok [])) ⟨5000, none⟩
  have intermediate : Sample.unanswered [SerialSample.encoding [7]] none =
      .checkFailed "failed to parse OCSP response: Parsing requires 1 bytes/chars" := by
    decide +kernel
  have authority := (congrArg Timed.value ofIntermediate).symm.trans intermediate
  have text := congrArg Timed.value ((ofText _ isText).trans (ofAuthority unwritten).symm)
  exact ⟨reads, same.2 unwritten, intermediate, authority, text.trans authority⟩

/-- A host name that is the text of a certificate. -/
def writtenHost : String := "-----BEGIN CERTIFICATE-----\nAQID\n-----END CERTIFICATE-----"

theorem isTextOf_writtenHost : IsTextOf [1, 2, 3] (ReportSample.encoding writtenHost) :=
  ⟨(ReportSample.encoding writtenHost).take 98, threeOctets,
    (ReportSample.encoding writtenHost).drop 156, by decide +kernel, rfl, by decide +kernel⟩

/-- A certificate for such a host is accepted and yet not taken for itself, so that its encoded
form and its text lead to different statuses. -/
theorem not_firstCertificate_writtenHost :
    (SignedCertificate.read (ReportSample.encoding writtenHost)).toOption.any
        (fun read => read.2 == []) = true ∧
      firstCertificate (ReportSample.encoding writtenHost) = [1, 2, 3] ∧
      ReportSample.encoding writtenHost ≠ [1, 2, 3] ∧
      checkOcsp .blank [ReportSample.encoding writtenHost] none (.ofSeconds 0)
          (fun _ => .after 0 (.ok [])) ⟨5000, none⟩ =
        ⟨.checkFailed "cannot parse issuer certificate", [], 0⟩ ∧
      checkOcsp .blank []
          (some (Block.encode ⟨certificateLabel, ReportSample.encoding writtenHost⟩))
          (.ofSeconds 0) (fun _ => .after 0 (.ok [])) ⟨5000, none⟩ =
        ⟨.notApplicable "no OCSP responder URL set", [], 0⟩ := by
  have accepted : (SignedCertificate.read (ReportSample.encoding writtenHost)).toOption.any
      (fun read => read.2 == []) = true := by decide +kernel
  have taken := isTextOf_writtenHost.firstCertificate
  have differs : ReportSample.encoding writtenHost ≠ [1, 2, 3] := by decide +kernel
  refine ⟨accepted, taken, differs, ?_, ?_⟩
  · have refused : (SignedCertificate.read [1, 2, 3]).toOption = none := by decide +kernel
    have selected := selectIssuer_concat [] (ReportSample.encoding writtenHost) none
    rw [List.nil_append] at selected
    simp only [checkOcsp, selected, taken]
    cases read : SignedCertificate.read [1, 2, 3] with
    | ok issuer =>
        rw [Outcome.toOption_eq_some.2 read] at refused
        cases refused
    | error failure => rfl
  · obtain ⟨⟨issuer, rest⟩, read, ended⟩ := Outcome.exists_of_any_toOption _ accepted
    obtain rfl : rest = [] := beq_iff_eq.1 ended
    have isText := isTextOf_encode (ReportSample.encoding writtenHost)
    have selected := selectIssuer_authority isText.ne_nil
    rw [checkOcsp_eq_ask _ _ _ _ selected (by rw [isText.firstCertificate, read])]
    rfl

end Ocsp

end CertScope
