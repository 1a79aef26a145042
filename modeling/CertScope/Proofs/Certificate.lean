import CertScope.Certificate.Decode
import CertScope.Proofs.Outcome
import CertScope.Proofs.Text.Row

/-!
# Decoded certificates

A certificate is decoded from its whole encoding, and every field of the decoded view is a
function of the fields of the signed one.  Names, locations and mail addresses are taken
over as they are; all other texts are made up of numerals and of constants, so that they
are rows.
-/

namespace CertScope

open Text

/-! ## Dates -/

namespace Instant

theorem isRow_padded (width number : Nat) : IsRow (padded width number) := by
  rw [padded, isRow_append]
  exact ⟨isRow_pushn (by decide) (by decide) _, isRow_toString number⟩

theorem isRow_yearText (year : Int) : IsRow (yearText year) := by
  have padded := isRow_padded 4 year.natAbs
  unfold yearText
  split
  · rw [isRow_append]
    exact ⟨by decide, padded⟩
  · split
    · rw [isRow_append]
      exact ⟨by decide, padded⟩
    · exact padded

theorem isRow_weekdayText (weekday : Nat) : IsRow (weekdayText weekday) := by
  unfold weekdayText
  split <;> decide

theorem isRow_monthText (month : Nat) : IsRow (monthText month) := by
  unfold monthText
  split <;> decide

theorem isRow_timeText (instant : Instant) : IsRow instant.timeText := by
  have colon : IsRow ":" := by decide
  simp [timeText, toString, isRow_padded, colon]

theorem isRow_display (instant : Instant) : IsRow instant.display := by
  have comma : IsRow ", " := by decide
  have space : IsRow " " := by decide
  have zone : IsRow " UTC" := by decide
  simp [display, toString, isRow_padded, isRow_weekdayText, isRow_monthText, isRow_yearText,
    isRow_timeText, comma, space, zone]

end Instant

/-! ## Numerals with separators -/

theorem Asn1.Oid.isRow_dotted (oid : Asn1.Oid) : IsRow oid.dotted := by
  rw [dotted, isRow_intercalate (by decide)]
  intro arc member
  obtain ⟨number, -, rfl⟩ := List.mem_map.1 member
  exact isRow_toString number

theorem Bytes.isRow_hexColons (bytes : Bytes) : IsRow (hexColons bytes) := by
  rw [hexColons, isRow_intercalate (by decide)]
  intro pair member
  obtain ⟨byte, -, rfl⟩ := List.mem_map.1 member
  have digits : ∀ digit < 16, '\n' ≠ hexDigit false digit := by decide
  have small := byte.toNat_lt
  have high := digits (byte.toNat / 16) (by omega)
  have low := digits (byte.toNat % 16) (by omega)
  rw [isRow_ofList, hexPair]
  simp [high, low]

namespace Address

theorem isRow_dotted (octets : Bytes) : IsRow (dotted octets) := by
  rw [dotted, isRow_intercalate (by decide)]
  intro part member
  obtain ⟨octet, -, rfl⟩ := List.mem_map.1 member
  exact isRow_toString octet.toNat

theorem isRow_colons (groups : List Nat) : IsRow (colons groups) := by
  rw [colons, isRow_intercalate (by decide)]
  intro part member
  obtain ⟨group, -, rfl⟩ := List.mem_map.1 member
  rw [groupText, isRow_ofList]
  exact isRow_toDigits (by decide) (by decide) group

theorem isRow_contracted (groups : List Nat) : IsRow (contracted groups) := by
  have twice : IsRow "::" := by decide
  unfold contracted
  dsimp only
  split
  · simp only [isRow_append, isRow_colons, twice, and_self]
  · exact isRow_colons groups

theorem isRow_of_text? {octets : Bytes} {text : String} (written : text? octets = some text) :
    IsRow text := by
  unfold text? at written
  split at written
  · obtain rfl := Option.some.inj written
    exact isRow_dotted octets
  · split at written
    · obtain rfl := Option.some.inj written
      unfold grouped
      dsimp only
      split
      · rw [isRow_append]
        exact ⟨by decide, isRow_dotted _⟩
      · exact isRow_contracted _
    · cases written

end Address

/-! ## The fields of a certificate -/

namespace Certificate

open X509

variable {der : Bytes} {certificate : Certificate}

/-- What is decoded is the view of a certificate that takes up the whole encoding. -/
theorem exists_of_decode (decoded : decode der = .ok certificate) :
    ∃ signed, SignedCertificate.read der = .ok (signed, []) ∧
      certificate = ofSigned der signed := by
  unfold decode at decoded
  split at decoded
  · cases decoded
  · rename_i signed read
    exact ⟨signed, read, (Except.ok.inj decoded).symm⟩
  · cases decoded

/-- An encoding that reads with nothing left decodes, and what was tested of it holds of the
certificate that the view is of. -/
theorem exists_decode_of_any (test : SignedCertificate → Bool)
    (reads : (SignedCertificate.read der).toOption.any
      (fun read => read.2 == [] && test read.1) = true) :
    ∃ signed, decode der = .ok (ofSigned der signed) ∧ test signed = true := by
  obtain ⟨⟨signed, rest⟩, read, passes⟩ := Outcome.exists_of_any_toOption _ reads
  rw [Bool.and_eq_true, beq_iff_eq] at passes
  obtain ⟨rfl, passed⟩ := passes
  refine ⟨signed, ?_, passed⟩
  rw [decode, read]

theorem rawDer_of_decode (decoded : decode der = .ok certificate) : certificate.rawDer = der := by
  obtain ⟨signed, -, rfl⟩ := exists_of_decode decoded
  rfl

theorem isRow_publicKeyName (id : Asn1.Oid) : IsRow (publicKeyName id) := by
  have other := id.isRow_dotted
  unfold publicKeyName
  split
  all_goals first | decide | exact other

theorem isRow_signatureName (id : Asn1.Oid) : IsRow (signatureName id) := by
  have other := id.isRow_dotted
  unfold signatureName
  split
  all_goals first | decide | exact other

theorem isRow_usagesOf (signed : SignedCertificate) : ∀ usage ∈ usagesOf signed, IsRow usage := by
  have basic (flags : Nat) : ∀ usage ∈ basicUsageNames flags, IsRow usage := by
    intro usage member
    obtain ⟨⟨name, position⟩, kept, rfl⟩ := List.mem_map.1 member
    have listed : ∀ entry ∈ basicUsages.zipIdx, IsRow entry.1 := by decide
    exact listed _ (List.mem_filter.1 kept).1
  have extended (purposes : List Asn1.Oid) : ∀ usage ∈ purposeNames purposes, IsRow usage := by
    intro usage member
    obtain ⟨entry, kept, rfl⟩ := List.mem_map.1 member
    have listed : ∀ entry ∈ Certificate.purposes, IsRow entry.2 := by decide
    exact listed _ (List.mem_filter.1 kept).1
  intro usage member
  rcases List.mem_append.1 member with flagged | listed
  · split at flagged
    · exact basic _ usage flagged
    · cases flagged
  · exact extended _ usage listed

/-- The texts of a decoded certificate that are made up of numerals and constants. -/
structure HasRows (certificate : Certificate) : Prop where
  addresses : ∀ address ∈ certificate.ipAddresses, IsRow address
  usages : ∀ usage ∈ certificate.keyUsage, IsRow usage
  publicKey : IsRow certificate.publicKeyAlgorithm
  signature : IsRow certificate.signatureAlgorithm
  serial : IsRow certificate.serialDecimal
  fingerprint : IsRow certificate.fingerprint

theorem hasRows_of_decode (decoded : decode der = .ok certificate) : HasRows certificate := by
  obtain ⟨signed, -, rfl⟩ := exists_of_decode decoded
  exact {
    addresses := by
      intro address member
      obtain ⟨name, -, written⟩ := List.mem_filterMap.1 member
      cases name with
      | address octets => exact Address.isRow_of_text? written
      | _ => cases written
    usages := isRow_usagesOf signed
    publicKey := isRow_publicKeyName signed.publicKey.algorithm.id
    signature := isRow_signatureName signed.algorithm.id
    serial := isRow_toString (Bytes.value signed.serial)
    fingerprint := Bytes.isRow_hexColons (Digest.Sha256.digest der) }

end Certificate

end CertScope
