import CertScope.Proofs.Certificate
import CertScope.Proofs.X509.Certificate
import CertScope.Proofs.X509.Endpoints

/-!
# Endpoints and names of a certificate

The report shows the alternative names of a certificate by their kinds, the URIs of its
distribution points and those of its status responders.  Each of these lists has an entry
for every one that was written, in the order in which they were written and as often, and
no others; an address counts if it is of one of the two known lengths.
-/

namespace CertScope

open Asn1 X509
open X509.Encoding

/-! ## Addresses -/

namespace Address

/-- The octets are an address of one of the two versions. -/
def IsKnown (octets : Bytes) : Prop := octets.length = 4 ∨ octets.length = 16

instance : DecidablePred IsKnown := fun octets =>
  inferInstanceAs (Decidable (octets.length = 4 ∨ octets.length = 16))

def text (octets : Bytes) : String := if octets.length = 4 then dotted octets else grouped octets

theorem text?_eq (octets : Bytes) :
    text? octets = if IsKnown octets then some (text octets) else none := by
  by_cases four : octets.length = 4
  · simp [text?, text, IsKnown, four]
  · simp [text?, text, IsKnown, four]

theorem filterMap_text? (addresses : List Bytes) :
    addresses.filterMap text? =
      (addresses.filter fun octets => decide (IsKnown octets)).map text := by
  rw [← List.filterMap_eq_map, List.filterMap_filter]
  apply List.filterMap_congr
  intro octets _
  simp only [text?_eq, decide_eq_true_eq, Function.comp_apply]

end Address

namespace Certificate

/-! ## Kinds of names -/

theorem dnsOf?_meaning (name : WrittenName) : dnsOf? name.meaning = name.dns? := by
  cases name <;> rfl

theorem uriOf?_meaning (name : WrittenName) : uriOf? name.meaning = name.uri? := by
  cases name <;> rfl

theorem mailOf?_meaning (name : WrittenName) : mailOf? name.meaning = name.mail? := by
  cases name <;> rfl

theorem addressOf?_meaning (name : WrittenName) :
    addressOf? name.meaning = name.address?.bind Address.text? := by
  cases name <;> rfl

/-- The names of one kind are those that were written as such. -/
theorem filterMap_meaning {kind : GeneralName → Option String}
    {written : WrittenName → Option String} (same : ∀ name, kind name.meaning = written name)
    (names : List WrittenName) :
    (names.map WrittenName.meaning).filterMap kind = names.filterMap written := by
  rw [List.filterMap_map]
  exact List.filterMap_congr fun name _ => same name

def ocspArcs : List Nat := [1, 3, 6, 1, 5, 5, 7, 48, 1]

theorem isOcspAccess_oid (method : Arcs) :
    isOcspAccess method.oid = true ↔ method.toList = ocspArcs := by
  rw [isOcspAccess, beq_iff_eq, ocspArcs, Arcs.components_oid_iff]

/-! ## Lists -/

section Lists

variable {signed : SignedCertificate} {listings : List Listing}

/-- What extensions have of one kind is what the listings have of it, one by one. -/
theorem flatMap_value {item : Type} {listed : Listing → List item}
    (kind : ExtensionValue → List item)
    (values : signed.extensions.map Extension.value = listings.map Listing.meaning)
    (same : ∀ listing : Listing, kind listing.meaning = listed listing) :
    (signed.extensions.flatMap fun extension => kind extension.value) =
      listings.flatMap listed := by
  have byValue := List.flatMap_map Extension.value kind signed.extensions
  rw [← byValue, values, List.flatMap_map]
  exact List.flatMap_congr fun listing _ => same listing

theorem alternativeNames_of_listings
    (values : signed.extensions.map Extension.value = listings.map Listing.meaning) :
    alternativeNames signed = (listings.flatMap Listing.names).map WrittenName.meaning := by
  rw [List.map_flatMap]
  exact flatMap_value namesOf values Listing.namesOf_meaning

theorem distributionUris_of_listings
    (values : signed.extensions.map Extension.value = listings.map Listing.meaning) :
    distributionUris signed =
      ((listings.flatMap Listing.points).flatMap WrittenPoint.names).filterMap
        WrittenName.uri? := by
  have byPoints : distributionUris signed = signed.extensions.flatMap fun extension =>
      (pointsOf extension.value).flatMap (·.filterMap uriOf?) := by
    refine List.flatMap_congr fun extension _ => ?_
    obtain ⟨id, critical, value⟩ := extension
    cases value <;> rfl
  rw [byPoints, List.flatMap_assoc, List.filterMap_flatMap]
  refine flatMap_value (fun value => (pointsOf value).flatMap (·.filterMap uriOf?)) values
    fun listing => ?_
  rw [listing.pointsOf_meaning, List.flatMap_map, List.filterMap_flatMap]
  exact List.flatMap_congr fun point _ => filterMap_meaning uriOf?_meaning point.names

/-- The URI of an access description of a status responder. -/
def responderUri? (description : Oid × GeneralName) : Option String :=
  if isOcspAccess description.1 then uriOf? description.2 else none

theorem responderUri?_meaning (access : WrittenAccess) :
    responderUri? access.meaning =
      if access.method.toList = ocspArcs then access.location.uri? else none := by
  simp only [responderUri?, WrittenAccess.meaning, isOcspAccess_oid, uriOf?_meaning]

theorem responderUris_of_listings
    (values : signed.extensions.map Extension.value = listings.map Listing.meaning) :
    responderUris signed =
      ((listings.flatMap Listing.descriptions).filter fun access =>
        decide (access.method.toList = ocspArcs)).filterMap
          fun access => access.location.uri? := by
  have byDescriptions : responderUris signed = signed.extensions.flatMap fun extension =>
      (descriptionsOf extension.value).filterMap responderUri? := by
    refine List.flatMap_congr fun extension _ => ?_
    obtain ⟨id, critical, value⟩ := extension
    cases value <;> rfl
  rw [byDescriptions, List.filter_flatMap, List.filterMap_flatMap]
  refine flatMap_value (fun value => (descriptionsOf value).filterMap responderUri?) values
    fun listing => ?_
  rw [listing.descriptionsOf_meaning, List.filterMap_map, List.filterMap_filter]
  refine List.filterMap_congr fun access _ => ?_
  simp only [Function.comp_apply, responderUri?_meaning, decide_eq_true_eq]

/-- A certificate shows what its extensions list: every entry of a kind in its place and as
often as it is listed, and no others. -/
structure Shows (certificate : Certificate) (listings : List Listing) : Prop where
  dnsNames : certificate.dnsNames =
    (listings.flatMap Listing.names).filterMap WrittenName.dns?
  uris : certificate.uris = (listings.flatMap Listing.names).filterMap WrittenName.uri?
  emailAddresses : certificate.emailAddresses =
    (listings.flatMap Listing.names).filterMap WrittenName.mail?
  /-- An address counts if it is of one of the two versions. -/
  ipAddresses : certificate.ipAddresses =
    (((listings.flatMap Listing.names).filterMap WrittenName.address?).filter fun octets =>
      decide (Address.IsKnown octets)).map Address.text
  /-- Of a distribution point the URIs among its full names count. -/
  crlDistributionPoints : certificate.crlDistributionPoints =
    ((listings.flatMap Listing.points).flatMap WrittenPoint.names).filterMap WrittenName.uri?
  /-- Of the access descriptions those of status responders count. -/
  ocspServers : certificate.ocspServers =
    ((listings.flatMap Listing.descriptions).filter fun access =>
      decide (access.method.toList = ocspArcs)).filterMap fun access => access.location.uri?

theorem shows_ofSigned (der : Bytes)
    (values : signed.extensions.map Extension.value = listings.map Listing.meaning) :
    (ofSigned der signed).Shows listings where
  dnsNames := by
    change (alternativeNames signed).filterMap dnsOf? = _
    rw [alternativeNames_of_listings values, filterMap_meaning dnsOf?_meaning]
  uris := by
    change (alternativeNames signed).filterMap uriOf? = _
    rw [alternativeNames_of_listings values, filterMap_meaning uriOf?_meaning]
  emailAddresses := by
    change (alternativeNames signed).filterMap mailOf? = _
    rw [alternativeNames_of_listings values, filterMap_meaning mailOf?_meaning]
  ipAddresses := by
    change (alternativeNames signed).filterMap addressOf? = _
    rw [alternativeNames_of_listings values, filterMap_meaning addressOf?_meaning,
      ← List.filterMap_filterMap, Address.filterMap_text?]
  crlDistributionPoints := distributionUris_of_listings values
  ocspServers := responderUris_of_listings values

end Lists

end Certificate

/-! ## Written certificates -/

/-- A certificate decodes with every endpoint and every name that is written in it.  The
extensions that list them may stand in any order among others. -/
theorem endpoints_of_written {certificate : WrittenCertificate} {listed : List ListedExtension}
    (fits : Fits certificate.encode) (readable : certificate.IsReadable)
    (lists : certificate.body.extensions.getD [] = listed.map ListedExtension.written) :
    ∃ decoded, Certificate.decode certificate.encode = .ok decoded ∧
      decoded.Shows (listed.map ListedExtension.listing) := by
  obtain ⟨signed, read, extensions⟩ := WrittenCertificate.exists_read fits readable []
  rw [List.append_nil] at read
  have values : signed.extensions.map Extension.value =
      (listed.map ListedExtension.listing).map Listing.meaning := by
    rw [extensions, WrittenBody.meaning, lists, List.map_map, List.map_map, List.map_map]
    refine List.map_congr_left fun one member => ?_
    have fitsBody : Fits certificate.body.encode := fits.part List.mem_cons_self
    exact ListedExtension.value_meaning
      (WrittenBody.fits_extension fitsBody (lists ▸ List.mem_map_of_mem member))
  refine ⟨_, ?_, Certificate.shows_ofSigned certificate.encode values⟩
  rw [Certificate.decode, read]

namespace EndpointSample

/-- A host, a mail address and the places of lists and responders. -/
def host : AsciiText := ⟨"a.example", by decide⟩

def mailbox : AsciiText := ⟨"a@example.org", by decide⟩

def place (text : String) (ascii : Utf8.IsAscii text) : WrittenName := .uri ⟨text, ascii⟩

/-- The first list may be had at two places, the second at a place relative to its issuer,
and the third is not named. -/
def points : List WrittenPoint :=
  [⟨some (.full [place "http://a.example/1.crl" (by decide), .directory [],
      place "ldap:a" (by decide)]), none, none⟩,
    ⟨some (.relative []), some [0], none⟩,
    ⟨none, none, some (encode 0xA4 (encode 0x30 []))⟩,
    ⟨some (.full [place "http://a.example/1.crl" (by decide)]), none, none⟩]

def authorities : Arcs := ⟨1, 3, [6, 1, 5, 5, 7, 48, 2], by decide⟩

def responders : Arcs := ⟨1, 3, [6, 1, 5, 5, 7, 48, 1], by decide⟩

def listed : List ListedExtension :=
  [⟨none, .authorityAccess
      [⟨authorities, place "http://a.example/ca" (by decide)⟩,
        ⟨responders, .dns host⟩, ⟨responders, place "http://a.example/ocsp" (by decide)⟩]⟩,
    ⟨some 0xFF, .other Extension.keyUsageId (encode 0x03 [7, 0x80]) (by decide)⟩,
    ⟨none, .alternativeNames
      [.dns host, .address [127, 0, 0, 1], .mail mailbox, .dns host, .address [127],
        .other ⟨[0x2A, 0x03]⟩ encodeNull, .registered ⟨[0x2A, 0x03]⟩,
        .address [0, 0, 0, 0, 0, 0, 0, 0, 0, 0, 0, 0, 0, 0, 0, 1],
        place "urn:a" (by decide)]⟩,
    ⟨none, .distributionPoints points⟩]

def certificate : WrittenCertificate where
  body :=
    { version := .third
      serial := [7]
      algorithm := ⟨⟨[0x2A, 0x03]⟩, some encodeNull⟩
      issuer := []
      validity := ⟨.short ⟨1735689600, by decide, by decide⟩ ⟨by decide, by decide⟩,
        .long ⟨2524608000, by decide, by decide⟩⟩
      subject := []
      key := ⟨⟨⟨[0x2A, 0x03]⟩, none⟩, ⟨1, [0x02], by decide, by decide, by decide⟩⟩
      issuerId := none
      subjectId := some ⟨4, [0x10], by decide, by decide, by decide⟩
      extensions := some (listed.map ListedExtension.written) }
  algorithm := ⟨⟨[0x2A, 0x03]⟩, some encodeNull⟩
  signature := ⟨1, [0x02], by decide, by decide, by decide⟩

theorem isReadable_certificate : certificate.IsReadable where
  body := ⟨hasValue_encode _ (by decide) (by simp [Fits]), hasValue_none _⟩
  algorithm := hasValue_encode _ (by decide) (by simp [Fits])

end EndpointSample

/-- Entries of every kind in every list, some of them twice. -/
theorem endpoints_of_sample :
    ∃ decoded, Certificate.decode EndpointSample.certificate.encode = .ok decoded ∧
      decoded.dnsNames = ["a.example", "a.example"] ∧ decoded.uris = ["urn:a"] ∧
      decoded.emailAddresses = ["a@example.org"] ∧
      decoded.ipAddresses = ["127.0.0.1", "::1"] ∧
      decoded.crlDistributionPoints =
        ["http://a.example/1.crl", "ldap:a", "http://a.example/1.crl"] ∧
      decoded.ocspServers = ["http://a.example/ocsp"] := by
  have fits : Fits EndpointSample.certificate.encode := by decide +kernel
  obtain ⟨decoded, read, shows⟩ :=
    endpoints_of_written fits EndpointSample.isReadable_certificate rfl
  exact ⟨decoded, read, shows.dnsNames, shows.uris, shows.emailAddresses,
    shows.ipAddresses.trans (by decide +kernel), shows.crlDistributionPoints,
    shows.ocspServers.trans (by decide +kernel)⟩

end CertScope
