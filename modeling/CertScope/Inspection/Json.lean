import CertScope.Inspection.Report
import CertScope.Json.Value

/-!
# Inspections in JSON

The decoded leaf, the number of intermediates, the three outcomes, and the
report with its titles, labels and values. The encoding of the leaf is left out.
-/

namespace CertScope

open Json (Value)

def DistinguishedName.toJson (name : DistinguishedName) : Value :=
  .object [
    ("common_name", .optional name.commonName),
    ("organization", .texts name.organization),
    ("organizational_unit", .texts name.organizationalUnit),
    ("country", .texts name.country),
    ("raw", .text name.raw)]

def Certificate.toJson (certificate : Certificate) : Value :=
  .object [
    ("subject", certificate.subject.toJson),
    ("issuer", certificate.issuer.toJson),
    ("serial", .array (certificate.serial.map fun byte => .number byte.toNat)),
    ("serial_decimal", .text certificate.serialDecimal),
    ("fingerprint", .text certificate.fingerprint),
    ("not_before", .text certificate.notBefore.iso),
    ("not_after", .text certificate.notAfter.iso),
    ("public_key_algorithm", .text certificate.publicKeyAlgorithm),
    ("signature_algorithm", .text certificate.signatureAlgorithm),
    ("is_ca", .boolean certificate.isCa),
    ("key_usage", .texts certificate.keyUsage),
    ("dns_names", .texts certificate.dnsNames),
    ("uris", .texts certificate.uris),
    ("ip_addresses", .texts certificate.ipAddresses),
    ("email_addresses", .texts certificate.emailAddresses),
    ("crl_distribution_points", .texts certificate.crlDistributionPoints),
    ("ocsp_servers", .texts certificate.ocspServers)]

def TrustResult.toJson : TrustResult → Value
  | trusted => .text "Trusted"
  | untrusted reason => .object [("Untrusted", .object [("reason", .text reason)])]

def RevocationStatus.toJson : RevocationStatus → Value
  | notApplicable reason => .object [("NotApplicable", .text reason)]
  | valid => .text "Valid"
  | revoked source => .object [("Revoked", .object [("source", .text source)])]
  | checkFailed reason => .object [("CheckFailed", .text reason)]

def Section.toJson (part : Section) : Value :=
  .object [
    ("title", .text part.title),
    ("fields", .array (part.fields.map fun field => .texts [field.label, field.value]))]

def Report.toJson (report : Report) : Value :=
  .object [("sections", .array (report.sections.map Section.toJson))]

namespace Inspection

def toJson (inspection : Inspection) : Value :=
  .object [
    ("certificate", inspection.chain.leaf.toJson),
    ("intermediates", .number inspection.chain.intermediates.length),
    ("trust", inspection.trust.toJson),
    ("crl", inspection.crl.toJson),
    ("ocsp", inspection.ocsp.toJson),
    ("report", inspection.report.toJson)]

def jsonText (inspection : Inspection) : String := inspection.toJson.pretty

end Inspection

end CertScope
