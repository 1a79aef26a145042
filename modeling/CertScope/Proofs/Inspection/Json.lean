import CertScope.Inspection.Json
import CertScope.Proofs.Calendar.Reader
import CertScope.Proofs.Certificate
import CertScope.Proofs.Json.Reader

/-!
# Inspections read back from JSON

What an inspection says is read back from its text: the leaf without its encoding, the number
of intermediates, the three outcomes, and the titles, labels and values of the report.  Each
type has a reader that takes its fields by name and gives back what was written.
-/

namespace CertScope

/-! ## Parts of a value -/

namespace Json.Value

def field? (name : String) : Value → Option Value
  | .object fields => (fields.find? (·.1 == name)).map Prod.snd
  | _ => none

def text? : Value → Option String
  | .text value => some value
  | _ => none

def number? : Value → Option Nat
  | .number value => some value
  | _ => none

def boolean? : Value → Option Bool
  | .boolean value => some value
  | _ => none

/-- The items of an array, each of which has to be readable. -/
def items? {item : Type} (read : Value → Option item) : Value → Option (List item)
  | .array items => items.mapM read
  | _ => none

/-- A text, or nothing in its place. -/
def optional? : Value → Option (Option String)
  | .null => some none
  | .text value => some (some value)
  | _ => none

def octet? : Value → Option UInt8
  | .number value => if value < 256 then some (UInt8.ofNat value) else none
  | _ => none

def pair? : Value → Option (String × String)
  | .array [.text first, .text second] => some (first, second)
  | _ => none

theorem items?_map {item result : Type} {write : item → Value} {read : Value → Option result}
    {view : item → result} (readsBack : ∀ value, read (write value) = some (view value))
    (values : List item) : items? read (.array (values.map write)) = some (values.map view) := by
  rw [items?]
  induction values with
  | nil => rfl
  | cons value values ih =>
      rw [List.map_cons, List.mapM_cons, readsBack, ih]
      rfl

theorem items?_texts (values : List String) : items? text? (texts values) = some values := by
  rw [texts, @items?_map String String _ _ id (fun _ => rfl), List.map_id]

theorem optional?_optional (value : Option String) : optional? (optional value) = some value := by
  cases value <;> rfl

theorem items?_octets (bytes : Bytes) :
    items? octet? (.array (bytes.map fun byte => .number byte.toNat)) = some bytes := by
  have octet (byte : UInt8) : octet? (.number byte.toNat) = some (id byte) := by
    rw [octet?, if_pos byte.toNat_lt, UInt8.ofNat_toNat, id]
  rw [items?_map octet, List.map_id]

/-- No object in the value has two fields of one name. -/
inductive HasDistinctNames : Value → Prop
  | null : HasDistinctNames .null
  | boolean (value : Bool) : HasDistinctNames (.boolean value)
  | number (value : Nat) : HasDistinctNames (.number value)
  | text (value : String) : HasDistinctNames (.text value)
  | array {items : List Value} (inside : ∀ item ∈ items, HasDistinctNames item) :
      HasDistinctNames (.array items)
  | object {fields : List (String × Value)} (differ : (fields.map Prod.fst).Nodup)
      (inside : ∀ field ∈ fields, HasDistinctNames field.2) : HasDistinctNames (.object fields)

attribute [simp] HasDistinctNames.boolean HasDistinctNames.number HasDistinctNames.text

@[simp] theorem hasDistinctNames_array {items : List Value} :
    HasDistinctNames (.array items) ↔ ∀ item ∈ items, item.HasDistinctNames := by
  constructor
  · rintro ⟨⟩
    assumption
  · exact .array

@[simp] theorem hasDistinctNames_object {fields : List (String × Value)} :
    HasDistinctNames (.object fields) ↔
      (fields.map Prod.fst).Nodup ∧ ∀ field ∈ fields, field.2.HasDistinctNames := by
  constructor
  · rintro ⟨⟩
    constructor
    all_goals assumption
  · rintro ⟨differ, inside⟩
    exact .object differ inside

@[simp] theorem hasDistinctNames_texts (values : List String) :
    (texts values).HasDistinctNames := by
  simp [texts]

@[simp] theorem hasDistinctNames_optional (value : Option String) :
    (optional value).HasDistinctNames := by
  cases value with
  | none => exact .null
  | some value => exact .text value

end Json.Value

open Json (Value)

/-! ## Names and certificates -/

def DistinguishedName.ofJson? (value : Value) : Option DistinguishedName := do
  let commonName ← (← value.field? "common_name").optional?
  let organization ← (← value.field? "organization").items? Value.text?
  let organizationalUnit ← (← value.field? "organizational_unit").items? Value.text?
  let country ← (← value.field? "country").items? Value.text?
  let raw ← (← value.field? "raw").text?
  return { commonName, organization, organizationalUnit, country, raw }

theorem DistinguishedName.ofJson?_toJson (name : DistinguishedName) :
    ofJson? name.toJson = some name := by
  simp [ofJson?, toJson, Value.field?, Value.items?_texts, Value.optional?_optional, Value.text?]

theorem DistinguishedName.hasDistinctNames_toJson (name : DistinguishedName) :
    name.toJson.HasDistinctNames := by
  simp [toJson]

namespace Certificate

/-- The certificate that a value shows, which is one without its encoding. -/
def ofJson? (value : Value) : Option Certificate := do
  let subject ← DistinguishedName.ofJson? (← value.field? "subject")
  let issuer ← DistinguishedName.ofJson? (← value.field? "issuer")
  let serial ← (← value.field? "serial").items? Value.octet?
  let serialDecimal ← (← value.field? "serial_decimal").text?
  let fingerprint ← (← value.field? "fingerprint").text?
  let notBefore ← Instant.ofIso? (← (← value.field? "not_before").text?)
  let notAfter ← Instant.ofIso? (← (← value.field? "not_after").text?)
  let publicKeyAlgorithm ← (← value.field? "public_key_algorithm").text?
  let signatureAlgorithm ← (← value.field? "signature_algorithm").text?
  let isCa ← (← value.field? "is_ca").boolean?
  let keyUsage ← (← value.field? "key_usage").items? Value.text?
  let dnsNames ← (← value.field? "dns_names").items? Value.text?
  let uris ← (← value.field? "uris").items? Value.text?
  let ipAddresses ← (← value.field? "ip_addresses").items? Value.text?
  let emailAddresses ← (← value.field? "email_addresses").items? Value.text?
  let crlDistributionPoints ← (← value.field? "crl_distribution_points").items? Value.text?
  let ocspServers ← (← value.field? "ocsp_servers").items? Value.text?
  return {
    subject, issuer, serial, serialDecimal, fingerprint, notBefore, notAfter, publicKeyAlgorithm,
    signatureAlgorithm, isCa, keyUsage, dnsNames, uris, ipAddresses, emailAddresses,
    crlDistributionPoints, ocspServers, rawDer := [] }

/-- The times of a certificate name seconds that exist. -/
def HasProperTimes (certificate : Certificate) : Prop :=
  certificate.notBefore.IsProper ∧ certificate.notAfter.IsProper

def withoutDer (certificate : Certificate) : Certificate := { certificate with rawDer := [] }

theorem ofJson?_toJson {certificate : Certificate} (proper : certificate.HasProperTimes) :
    ofJson? certificate.toJson = some certificate.withoutDer := by
  have notBefore := Instant.ofIso?_iso proper.1
  have notAfter := Instant.ofIso?_iso proper.2
  simp [ofJson?, toJson, Value.field?, Value.items?_texts, Value.text?, Value.boolean?,
    DistinguishedName.ofJson?_toJson, Value.items?_octets, notBefore, notAfter, withoutDer]

theorem hasDistinctNames_toJson (certificate : Certificate) :
    certificate.toJson.HasDistinctNames := by
  simp [toJson, DistinguishedName.hasDistinctNames_toJson]

end Certificate

/-! ## Outcomes -/

def TrustResult.ofJson? : Value → Option TrustResult
  | .text name => if name = "Trusted" then some .trusted else none
  | value => do
      let untrusted ← value.field? "Untrusted"
      return .untrusted (← (← untrusted.field? "reason").text?)

theorem TrustResult.ofJson?_toJson (trust : TrustResult) : ofJson? trust.toJson = some trust := by
  cases trust <;> rfl

def RevocationStatus.ofJson? : Value → Option RevocationStatus
  | .text name => if name = "Valid" then some .valid else none
  | .object [("NotApplicable", detail)] => detail.text?.map .notApplicable
  | .object [("CheckFailed", detail)] => detail.text?.map .checkFailed
  | .object [("Revoked", detail)] => do
      return .revoked (← (← detail.field? "source").text?)
  | _ => none

theorem RevocationStatus.ofJson?_toJson (status : RevocationStatus) :
    ofJson? status.toJson = some status := by
  cases status <;> rfl

theorem TrustResult.hasDistinctNames_toJson (trust : TrustResult) :
    trust.toJson.HasDistinctNames := by
  cases trust with
  | trusted => exact .text _
  | untrusted reason => simp [toJson]

theorem RevocationStatus.hasDistinctNames_toJson (status : RevocationStatus) :
    status.toJson.HasDistinctNames := by
  cases status with
  | valid => exact .text _
  | notApplicable reason | revoked source | checkFailed reason => simp [toJson]

/-! ## Reports -/

namespace Section

def contents (part : Section) : String × List (String × String) :=
  (part.title, part.fields.map fun field => (field.label, field.value))

def ofJson? (value : Value) : Option (String × List (String × String)) := do
  let title ← (← value.field? "title").text?
  let fields ← (← value.field? "fields").items? Value.pair?
  return (title, fields)

theorem ofJson?_toJson (part : Section) : ofJson? part.toJson = some part.contents := by
  have fields := @Value.items?_map Field _ (fun field => .texts [field.label, field.value])
    Value.pair? (fun field => (field.label, field.value)) (fun _ => rfl) part.fields
  simp [ofJson?, toJson, contents, Value.field?, Value.text?, fields]

theorem hasDistinctNames_toJson (part : Section) : part.toJson.HasDistinctNames := by
  simp [toJson]

end Section

namespace Report

def contents (report : Report) : List (String × List (String × String)) :=
  report.sections.map Section.contents

def ofJson? (value : Value) : Option (List (String × List (String × String))) := do
  (← value.field? "sections").items? Section.ofJson?

theorem ofJson?_toJson (report : Report) : ofJson? report.toJson = some report.contents := by
  have sections := Value.items?_map Section.ofJson?_toJson report.sections
  simp [ofJson?, toJson, contents, Value.field?, sections]

theorem hasDistinctNames_toJson (report : Report) : report.toJson.HasDistinctNames := by
  simp [toJson, Section.hasDistinctNames_toJson]

end Report

/-! ## Inspections -/

namespace Inspection

/-- What an inspection says in JSON. -/
structure Summary where
  leaf : Certificate
  intermediates : Nat
  trust : TrustResult
  crl : RevocationStatus
  ocsp : RevocationStatus
  report : List (String × List (String × String))
  deriving DecidableEq

def Summary.ofJson? (value : Value) : Option Summary := do
  let leaf ← Certificate.ofJson? (← value.field? "certificate")
  let intermediates ← (← value.field? "intermediates").number?
  let trust ← TrustResult.ofJson? (← value.field? "trust")
  let crl ← RevocationStatus.ofJson? (← value.field? "crl")
  let ocsp ← RevocationStatus.ofJson? (← value.field? "ocsp")
  let report ← Report.ofJson? (← value.field? "report")
  return { leaf, intermediates, trust, crl, ocsp, report }

def summary (inspection : Inspection) : Summary where
  leaf := inspection.chain.leaf.withoutDer
  intermediates := inspection.chain.intermediates.length
  trust := inspection.trust
  crl := inspection.crl
  ocsp := inspection.ocsp
  report := inspection.report.contents

theorem ofJson?_toJson {inspection : Inspection}
    (proper : inspection.chain.leaf.HasProperTimes) :
    Summary.ofJson? inspection.toJson = some inspection.summary := by
  simp [Summary.ofJson?, toJson, summary, Value.field?, Value.number?,
    Certificate.ofJson?_toJson proper, TrustResult.ofJson?_toJson,
    RevocationStatus.ofJson?_toJson, Report.ofJson?_toJson]

theorem hasDistinctNames_toJson (inspection : Inspection) :
    inspection.toJson.HasDistinctNames := by
  simp [toJson, Certificate.hasDistinctNames_toJson, TrustResult.hasDistinctNames_toJson,
    RevocationStatus.hasDistinctNames_toJson, Report.hasDistinctNames_toJson]

variable {first second : Inspection}

namespace JsonSample

/-- A leaf with a name to be escaped, one leap second and one fraction of a second. -/
def leaf : Certificate :=
  { Certificate.blank with
    subject := ⟨some "\x22quoted\\\x22", ["\u00e9\u20ac", ""], [], ["\x01\t\n"], "a, b"⟩
    serial := [0, 255]
    notBefore := ⟨1483228799, 1500000000⟩
    notAfter := ⟨-1, 1000⟩ }

def inspection (status : RevocationStatus) : Inspection :=
  ⟨.ofParts leaf [[1], [2]] none, .untrusted "\x22Trusted\x22", status, .valid⟩

end JsonSample

end Inspection

end CertScope
