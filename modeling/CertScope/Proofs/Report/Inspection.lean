import CertScope.Asn1.Encode
import CertScope.Asn1.Strict
import CertScope.Inspection.Report
import CertScope.Proofs.Certificate
import CertScope.Proofs.Report.Rows

/-!
# The rows of an inspection

The report of an inspection has six sections of 25 fields in all.  Their values are numerals
and constants, or texts that are taken over as they are: names, locations and mail addresses
from the certificate, and the reasons from the three outcomes.  Where none of these holds a
line feed the report has 36 rows, and nothing else looks like the row of an outcome; where
one does, what stands behind it is a row of its own.
-/

namespace CertScope

open Text

/-! ## Values -/

theorem isRow_showText {value : String} : IsRow (showText value) ↔ IsRow value := by
  unfold showText
  split
  · rename_i empty
    rw [String.isEmpty_iff.1 empty]
    decide
  · rfl

theorem isRow_showTexts {values : List String} :
    IsRow (showTexts values) ↔ ∀ value ∈ values, IsRow value := by
  unfold showTexts
  split
  · rename_i empty
    rw [List.isEmpty_iff.1 empty]
    simp [noneText]
    decide
  · exact isRow_intercalate (by decide)

theorem isRow_showFlag (value : Bool) : IsRow (showFlag value) := by
  cases value <;> decide

def DistinguishedName.texts (name : DistinguishedName) : List String :=
  name.commonName.toList ++ name.organization ++ name.organizationalUnit ++ name.country

def Certificate.foreignTexts (leaf : Certificate) : List String :=
  leaf.dnsNames ++ leaf.uris ++ leaf.emailAddresses ++ leaf.issuer.texts ++ leaf.subject.texts ++
    leaf.crlDistributionPoints ++ leaf.ocspServers

def TrustResult.reasons : TrustResult → List String
  | trusted => []
  | untrusted reason => [reason]

def RevocationStatus.reasons : RevocationStatus → List String
  | valid => []
  | notApplicable text | revoked text | checkFailed text => [text]

namespace Inspection

variable {inspection : Inspection} {der : Bytes}

/-- The texts of a report that are taken over as they are. -/
def foreignTexts (inspection : Inspection) : List String :=
  inspection.chain.leaf.foreignTexts ++ inspection.trust.reasons ++ inspection.crl.reasons ++
    inspection.ocsp.reasons

theorem isRow_display {trust : TrustResult} :
    IsRow trust.display ↔ ∀ reason ∈ trust.reasons, IsRow reason := by
  have no : IsRow "no: " := by decide
  cases trust with
  | trusted =>
      have yes : IsRow "yes" := by decide
      simp [TrustResult.display, TrustResult.reasons, yes]
  | untrusted reason => simp [TrustResult.display, TrustResult.reasons, no]

theorem isRow_describe {channel : RevocationChannel} {status : RevocationStatus} :
    IsRow (status.describe channel) ↔ ∀ reason ∈ status.reasons, IsRow reason := by
  cases status with
  | notApplicable reason =>
      change IsRow (Upper.capitalized reason) ↔ ∀ text ∈ [reason], IsRow text
      rw [isRow_capitalized, List.forall_mem_singleton]
  | valid =>
      have valid : IsRow "Valid" := by decide
      exact iff_of_true valid fun text member => by cases member
  | revoked source =>
      have revoker : IsRow "Revoked by " := by decide
      change IsRow ("Revoked by " ++ source) ↔ ∀ text ∈ [source], IsRow text
      simp [revoker]
  | checkFailed reason =>
      have failure : IsRow ("Cannot check " ++ channel.name ++ ": ") := by
        cases channel <;> decide
      change IsRow ("Cannot check " ++ channel.name ++ ": " ++ reason) ↔
        ∀ text ∈ [reason], IsRow text
      rw [isRow_append, List.forall_mem_singleton]
      exact and_iff_right failure

theorem isRow_commonName {name : Option String} :
    IsRow (name.getD "") ↔ ∀ text ∈ name.toList, IsRow text := by
  cases name with
  | none => simp; decide
  | some text => simp

theorem isRow_name {name : DistinguishedName} {title : String} :
    (∀ field ∈ (name.section title).fields, IsRow field.value) ↔
      ∀ text ∈ name.texts, IsRow text := by
  change (∀ field ∈ [(⟨_, _, _⟩ : Field), ⟨_, _, _⟩, ⟨_, _, _⟩, ⟨_, _, _⟩], _) ↔ _
  simp only [List.forall_mem_cons, List.not_mem_nil, false_implies, implies_true, and_true,
    isRow_showText, isRow_showTexts, isRow_commonName, DistinguishedName.texts, List.mem_append,
    or_imp, forall_and, and_assoc]

theorem isRow_usages {leaf : Certificate} (own : leaf.HasRows) :
    (∀ field ∈ leaf.usageSection.fields, IsRow field.value) ↔
      (∀ text ∈ leaf.dnsNames, IsRow text) ∧ (∀ text ∈ leaf.uris, IsRow text) ∧
        ∀ text ∈ leaf.emailAddresses, IsRow text := by
  change (∀ field ∈ [(⟨_, _, _⟩ : Field), ⟨_, _, _⟩, ⟨_, _, _⟩, ⟨_, _, _⟩, ⟨_, _, _⟩], _) ↔ _
  simp only [List.forall_mem_cons, List.not_mem_nil, false_implies, implies_true, and_true,
    isRow_showTexts, iff_true_intro own.addresses, iff_true_intro own.usages, true_and]

theorem isRow_validity (leaf : Certificate) :
    ∀ field ∈ leaf.validitySection.fields, IsRow field.value := by
  change ∀ field ∈ [(⟨_, _, _⟩ : Field), ⟨_, _, _⟩], _
  simp only [List.forall_mem_cons, List.not_mem_nil, false_implies, implies_true, and_true,
    Instant.isRow_display]

theorem isRow_technical {leaf : Certificate} (own : leaf.HasRows) :
    (∀ field ∈ leaf.technicalSection.fields, IsRow field.value) ↔
      (∀ text ∈ leaf.crlDistributionPoints, IsRow text) ∧
        ∀ text ∈ leaf.ocspServers, IsRow text := by
  change (∀ field ∈ [(⟨_, _, _⟩ : Field), ⟨_, _, _⟩, ⟨_, _, _⟩, ⟨_, _, _⟩, ⟨_, _, _⟩, ⟨_, _, _⟩,
    ⟨_, _, _⟩], _) ↔ _
  simp only [List.forall_mem_cons, List.not_mem_nil, false_implies, implies_true, and_true,
    isRow_showTexts, isRow_showText, isRow_showFlag, own.signature, own.publicKey, own.serial,
    own.fingerprint, true_and]

theorem isRow_outcomes :
    (∀ field ∈ inspection.outcomeSection.fields, IsRow field.value) ↔
      (∀ text ∈ inspection.trust.reasons, IsRow text) ∧
        (∀ text ∈ inspection.crl.reasons, IsRow text) ∧
        ∀ text ∈ inspection.ocsp.reasons, IsRow text := by
  change (∀ field ∈ [(⟨_, _, _⟩ : Field), ⟨_, _, _⟩, ⟨_, _, _⟩], _) ↔ _
  simp only [List.forall_mem_cons, List.not_mem_nil, false_implies, implies_true, and_true,
    isRow_display, isRow_describe]

/-- The values are rows exactly if the foreign texts are. -/
theorem isRow_values_iff (own : inspection.chain.leaf.HasRows) :
    (∀ field ∈ inspection.report.fields, IsRow field.value) ↔
      ∀ text ∈ inspection.foreignTexts, IsRow text := by
  have validity := isRow_validity inspection.chain.leaf
  simp only [Report.fields, report, List.flatMap_cons, List.flatMap_nil, List.append_nil,
    List.mem_append, or_imp, forall_and, isRow_usages own, isRow_technical own, isRow_outcomes,
    isRow_name, foreignTexts, Certificate.foreignTexts]
  tauto

/-- The titles of the sections, each with the labels of its fields. -/
def outline : List (String × List String) :=
  [("Valid for", ["DNS Names", "URIs", "IP Addresses", "Email Addresses", "Usages"]),
    ("Validity period", ["Not Before", "Not After"]),
    ("Issued By", ["Common Name", "Organization", "OrganizationalUnit", "Country"]),
    ("Issued For", ["Common Name", "Organization", "OrganizationalUnit", "Country"]),
    ("Certificate",
      ["Signing Algorithm", "Public Key Algorithm", "Serial Number", "Fingerprints",
        "Is a CA certificate", "CRL", "OCSP"]),
    ("Debugging", ["Trusted by this computer", "CRL Status", "OCSP Status"])]

theorem outline_report (inspection : Inspection) :
    inspection.report.sections.map (fun part => (part.title, part.fields.map Field.label)) =
      outline := rfl

theorem isPlain_report (inspection : Inspection) : inspection.report.IsPlain where
  filled := by
    simp [report]
  titled := by
    intro part member
    have listed : ∀ entry ∈ outline, IsRow entry.1 ∧ '\t' ∉ entry.1.toList := by decide
    apply listed (part.title, part.fields.map Field.label)
    rw [← outline_report inspection]
    exact List.mem_map.2 ⟨part, member, rfl⟩
  labelled := by
    intro field member
    obtain ⟨part, among, inside⟩ := List.mem_flatMap.1 member
    have listed : ∀ entry ∈ outline, ∀ label ∈ entry.2, IsRow label ∧ ':' ∉ label.toList := by
      decide
    apply listed (part.title, part.fields.map Field.label)
    · rw [← outline_report inspection]
      exact List.mem_map.2 ⟨part, among, rfl⟩
    · exact List.mem_map.2 ⟨field, inside, rfl⟩

theorem length_rows_report (inspection : Inspection) :
    (Text.rows inspection.report.render).length =
      36 + (inspection.report.fields.map fun field => feeds field.value).sum := by
  have counted := Report.length_rows (isPlain_report inspection)
  have sections : inspection.report.sections.length = 6 := rfl
  have fields : inspection.report.fields.length = 25 := rfl
  omega

/-- The report of a decoded certificate consists of six sections with an empty row between
each two.  It has 36 rows exactly if none of the texts that it takes over holds a line feed;
then each field is one row, and each outcome is shown in the only row that begins with its
label. -/
theorem rows_report (decoded : Certificate.decode der = .ok inspection.chain.leaf) :
    inspection.report.sections.map (fun part => (part.title, part.fields.map Field.label)) =
        outline ∧
      Text.rows inspection.report.render =
        [""].intercalate (inspection.report.sections.map Section.rows) ∧
      ((Text.rows inspection.report.render).length = 36 ↔
        ∀ text ∈ inspection.foreignTexts, IsRow text) ∧
      ((∀ text ∈ inspection.foreignTexts, IsRow text) →
        Text.rows inspection.report.render =
            [""].intercalate (inspection.report.sections.map fun part =>
              (part.title ++ ":") :: part.fields.map Field.line) ∧
          (Text.rows inspection.report.render).filter
              (Report.begins "\tTrusted by this computer: ") =
            ["\tTrusted by this computer: " ++ inspection.trust.display] ∧
          (Text.rows inspection.report.render).filter (Report.begins "\tCRL Status: ") =
            ["\tCRL Status: " ++ inspection.crl.describe .crl] ∧
          (Text.rows inspection.report.render).filter (Report.begins "\tOCSP Status: ") =
            ["\tOCSP Status: " ++ inspection.ocsp.describe .ocsp]) := by
  have plain := isPlain_report inspection
  have values := isRow_values_iff (Certificate.hasRows_of_decode decoded)
  refine ⟨outline_report inspection, ?_, ?_, ?_⟩
  · exact Report.rows_render plain.filled fun part member => (plain.titled part member).1
  · rw [length_rows_report, ← values, ← Report.sum_feeds_eq_zero]
    omega
  · intro foreign
    have single := values.2 foreign
    refine ⟨Report.rows_of_isRow_values plain single, ?_, ?_, ?_⟩
    · exact Report.filter_rows "Trusted by this computer" (by decide) plain single
    · exact Report.filter_rows "CRL Status" (by decide) plain single
    · exact Report.filter_rows "OCSP Status" (by decide) plain single

/-! ## A name with a line feed -/

namespace ReportSample

open Asn1 Strict X509

/-- A certificate whose only name is an alternative one for a host. -/
def encoding (host : String) : Bytes :=
  encodeSequence
    [encodeSequence
      [encode (explicitTag 0) (encodeInteger [2]), encodeInteger [7],
        encodeSequence [encodeOid (pkcs1Id 11)], encodeSequence [],
        encodeSequence
          [encode 0x17 (Bytes.ofText "250101000000Z"),
            encode 0x17 (Bytes.ofText "350101000000Z")],
        encodeSequence [],
        encodeSequence [encodeSequence [encodeOid (pkcs1Id 1)], encode 0x03 [0]],
        encode (explicitTag 3)
          (encodeSequence
            [encodeSequence
              [encodeOid Extension.alternativeNamesId,
                encodeOctetString (encodeSequence [encode 0x82 (Bytes.ofText host)])]])],
      encodeSequence [encodeOid (pkcs1Id 11)], encode 0x03 [0]]

/-- The host is the only text that is shown as it is. -/
theorem exists_decode_encoding (host : String)
    (reads : (SignedCertificate.read (encoding host)).toOption.any
      (fun read => read.2 == [] &&
        ((Certificate.ofSigned (encoding host) read.1).dnsNames == [host] &&
          (Certificate.ofSigned (encoding host) read.1).foreignTexts == [host])) = true) :
    ∃ leaf, Certificate.decode (encoding host) = .ok leaf ∧ leaf.dnsNames = [host] ∧
      leaf.foreignTexts = [host] := by
  obtain ⟨signed, decoded, passes⟩ := Certificate.exists_decode_of_any (fun signed =>
    (Certificate.ofSigned (encoding host) signed).dnsNames == [host] &&
      (Certificate.ofSigned (encoding host) signed).foreignTexts == [host]) reads
  rw [Bool.and_eq_true, beq_iff_eq, beq_iff_eq] at passes
  exact ⟨_, decoded, passes⟩

/-- A host name that continues with what looks like a row of the report. -/
def forgedHost : String := "x\n\tTrusted by this computer: yes"

def untrusted (leaf : Certificate) : Inspection :=
  ⟨.ofParts leaf [] none, .untrusted "UnknownIssuer", .valid, .valid⟩

end ReportSample

theorem rows_report_example :
    ∃ leaf, Certificate.decode (ReportSample.encoding "example.org") = .ok leaf ∧
      (∀ text ∈ (ReportSample.untrusted leaf).foreignTexts, IsRow text) ∧
      (Text.rows (ReportSample.untrusted leaf).report.render).length = 36 ∧
      (Text.rows (ReportSample.untrusted leaf).report.render).filter
          (Report.begins "\tTrusted by this computer: ") =
        ["\tTrusted by this computer: no: UnknownIssuer"] := by
  obtain ⟨leaf, decoded, -, shown⟩ :=
    ReportSample.exists_decode_encoding "example.org" (by decide +kernel)
  have foreign : ∀ text ∈ (ReportSample.untrusted leaf).foreignTexts, IsRow text := by
    have texts : (ReportSample.untrusted leaf).foreignTexts = ["example.org", "UnknownIssuer"] := by
      change leaf.foreignTexts ++ ["UnknownIssuer"] ++ [] ++ [] = _
      rw [shown]
      rfl
    rw [texts]
    decide
  obtain ⟨-, -, counted, single⟩ := @rows_report (ReportSample.untrusted leaf) _ decoded
  obtain ⟨-, trusted, -⟩ := single foreign
  exact ⟨leaf, decoded, foreign, counted.2 foreign, trusted⟩

/-- A name with a line feed puts a second row for the trust into the report of a leaf that
is not trusted. -/
theorem forged_row :
    ∃ leaf, Certificate.decode (ReportSample.encoding ReportSample.forgedHost) = .ok leaf ∧
      (ReportSample.untrusted leaf).trust = .untrusted "UnknownIssuer" ∧
      (Text.rows (ReportSample.untrusted leaf).report.render).length ≠ 36 ∧
      "\tTrusted by this computer: yes" ∈
        Text.rows (ReportSample.untrusted leaf).report.render ∧
      "\tTrusted by this computer: no: UnknownIssuer" ∈
        Text.rows (ReportSample.untrusted leaf).report.render := by
  obtain ⟨leaf, decoded, named, -⟩ :=
    ReportSample.exists_decode_encoding ReportSample.forgedHost (by decide +kernel)
  have plain := isPlain_report (ReportSample.untrusted leaf)
  let field : Field := ⟨"DNS Names", showTexts leaf.dnsNames, none⟩
  have member : field ∈ (ReportSample.untrusted leaf).report.fields := List.mem_cons_self
  have value : field.value = ReportSample.forgedHost := by
    change showTexts leaf.dnsNames = _
    rw [named]
    rfl
  refine ⟨leaf, decoded, rfl, ?_, ?_, ?_⟩
  · rw [length_rows_report]
    intro same
    have zero : ((ReportSample.untrusted leaf).report.fields.map fun field =>
        feeds field.value).sum = 0 := by omega
    have isRow := Report.sum_feeds_eq_zero.1 zero field member
    rw [value] at isRow
    exact absurd isRow (by decide)
  · apply Report.mem_rows_of_field plain member
    change _ ∈ Text.rows ("\t" ++ "DNS Names" ++ ": " ++ field.value)
    rw [value]
    decide
  · have outcome : (ReportSample.untrusted leaf).outcomeSection ∈
        (ReportSample.untrusted leaf).report.sections := by
      simp [report]
    apply Report.mem_rows_of_field plain
      (List.mem_flatMap.2 ⟨_, outcome, List.mem_cons_self⟩)
    change _ ∈ Text.rows ("\t" ++ "Trusted by this computer" ++ ": " ++ ("no: " ++ "UnknownIssuer"))
    decide

end Inspection

end CertScope
