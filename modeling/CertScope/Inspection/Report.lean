import CertScope.Inspection
import CertScope.Report

/-!
# The report of an inspection

Six sections: what the certificate is valid for and when, who issued it to whom,
its technical data, and the three outcomes. Only the outcomes carry a tone.
-/

namespace CertScope

def noneText : String := "<none>"

def showText (value : String) : String := if value.isEmpty then noneText else value

/-- Values with commas between them, or what stands for none; a single value is
shown even if it is empty. -/
def showTexts (values : List String) : String :=
  if values.isEmpty then noneText else String.intercalate ", " values

def showFlag (value : Bool) : String := if value then "yes" else "no"

namespace Certificate

def usageSection (leaf : Certificate) : Section :=
  Section.titled "Valid for"
    |>.field "DNS Names" (showTexts leaf.dnsNames)
    |>.field "URIs" (showTexts leaf.uris)
    |>.field "IP Addresses" (showTexts leaf.ipAddresses)
    |>.field "Email Addresses" (showTexts leaf.emailAddresses)
    |>.field "Usages" (showTexts leaf.keyUsage)

def validitySection (leaf : Certificate) : Section :=
  Section.titled "Validity period"
    |>.field "Not Before" leaf.notBefore.display
    |>.field "Not After" leaf.notAfter.display

def technicalSection (leaf : Certificate) : Section :=
  Section.titled "Certificate"
    |>.field "Signing Algorithm" (showText leaf.signatureAlgorithm)
    |>.field "Public Key Algorithm" (showText leaf.publicKeyAlgorithm)
    |>.field "Serial Number" (showText leaf.serialDecimal)
    |>.field "Fingerprints" (showText leaf.fingerprint)
    |>.field "Is a CA certificate" (showFlag leaf.isCa)
    |>.field "CRL" (showTexts leaf.crlDistributionPoints)
    |>.field "OCSP" (showTexts leaf.ocspServers)

end Certificate

def DistinguishedName.section (title : String) (name : DistinguishedName) : Section :=
  Section.titled title
    |>.field "Common Name" (showText (name.commonName.getD ""))
    |>.field "Organization" (showTexts name.organization)
    |>.field "OrganizationalUnit" (showTexts name.organizationalUnit)
    |>.field "Country" (showTexts name.country)

namespace Inspection

def outcomeSection (inspection : Inspection) : Section :=
  Section.titled "Debugging"
    |>.tonedField "Trusted by this computer" inspection.trust.display inspection.trust.tone
    |>.tonedField "CRL Status" (inspection.crl.describe .crl) inspection.crl.tone
    |>.tonedField "OCSP Status" (inspection.ocsp.describe .ocsp) inspection.ocsp.tone

def report (inspection : Inspection) : Report :=
  let leaf := inspection.chain.leaf
  ⟨[leaf.usageSection, leaf.validitySection,
    leaf.issuer.section "Issued By", leaf.subject.section "Issued For",
    leaf.technicalSection, inspection.outcomeSection]⟩

end Inspection

end CertScope
