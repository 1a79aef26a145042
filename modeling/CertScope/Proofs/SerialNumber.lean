import CertScope.Proofs.Certificate
import CertScope.Proofs.Crl.Walk
import CertScope.Proofs.Ocsp.Request
import Mathlib

/-!
# One serial number in three places

The report shows a serial number in decimal, revocation lists and status responses carry
its octets, and each place brings the octets into a form of its own before it compares
or shows them.  All of them go by the unsigned number that the octets denote, so that
what the operator reads is what the two channels compare.
-/

namespace CertScope

open Asn1 X509

variable {serial number first second : Bytes} {issuer : SignedCertificate}

/-! ## The decoded view -/

theorem Certificate.serialDecimal_of_decode {der : Bytes} {certificate : Certificate}
    (decoded : Certificate.decode der = .ok certificate) :
    certificate.serialDecimal = toString (Bytes.value certificate.serial) := by
  obtain ⟨signed, -, rfl⟩ := exists_of_decode decoded
  rfl

theorem toString_value_eq_iff :
    toString (Bytes.value first) = toString (Bytes.value second) ↔
      Bytes.value first = Bytes.value second :=
  Nat.repr_inj

/-! ## The two channels -/

/-- Revocation lists tell serial numbers apart exactly when they denote different
numbers. -/
theorem RevocationList.forall_revokes_eq_iff :
    (∀ (list : RevocationList) (now : Instant), list.revokes first now = list.revokes second now) ↔
      Bytes.value first = Bytes.value second := by
  constructor
  · intro alike
    -- a list that names `first` alone has to revoke `second` as well
    have revoked :
        RevocationList.revokes ⟨⟨[], []⟩, [⟨first, 0⟩]⟩ second (.ofSeconds 0) = true := by
      rw [← alike, Crl.revokes_iff]
      exact ⟨⟨first, 0⟩, List.mem_singleton_self _, rfl, Int.le_refl 0⟩
    obtain ⟨entry, member, same, -⟩ := Crl.revokes_iff.1 revoked
    obtain rfl := List.mem_singleton.1 member
    exact same
  · intro same list now
    rw [Bool.eq_iff_iff, Crl.revokes_iff, Crl.revokes_iff, same]

namespace Ocsp

/-- A name carries the digests of an issuer under one of two algorithms and, as its serial
number, some octets. -/
def CarriesNumber (certificateId : Node) (number : Bytes) (issuer : SignedCertificate) : Prop :=
  ∃ algorithm nameDigest keyDigest serialNumber identifier parameters oid hash,
    certificateId.asSequence = .ok [algorithm, nameDigest, keyDigest, serialNumber] ∧
    algorithm.asSequence = .ok (identifier :: parameters) ∧ identifier.asOid = .ok oid ∧
    (oid = sha1Id ∧ hash = Hash.sha1 ∨ oid = sha256Id ∧ hash = .sha256) ∧
    nameDigest.asOctets = .ok (hash.digest issuer.subject.raw) ∧
    keyDigest.asOctets = .ok (hash.digest issuer.publicKey.bits.octets) ∧
    serialNumber.asOctets = .ok number

variable {certificateId : Node}

/-- A name of the issuer is about the serial numbers that denote the number it carries. -/
theorem isAbout_of_carries (carries : CarriesNumber certificateId number issuer) (serial : Bytes) :
    isAbout certificateId serial issuer =
      .ok (decide (Bytes.value number = Bytes.value serial)) := by
  obtain ⟨algorithm, nameDigest, keyDigest, serialNumber, identifier, parameters, oid, hash,
    sequence, algorithmSequence, identified, chosen, named, keyed, numbered⟩ := carries
  have digests : issuerDigests? issuer oid = some (hash.digest issuer.subject.raw,
      hash.digest issuer.publicKey.bits.octets) :=
    issuerDigests?_eq_some.2 ⟨hash, chosen, rfl, rfl⟩
  have compared : (Bytes.trimZeros number == Bytes.trimZeros serial) =
      decide (Bytes.value number = Bytes.value serial) := by
    rw [Bool.eq_iff_iff, beq_iff_eq, decide_eq_true_iff, Bytes.trimZeros_eq_iff]
  simp [isAbout, sequence, algorithmSequence, identified, digests, named, keyed, numbered,
    compared]

theorem isAbout_iff :
    isAbout certificateId serial issuer = .ok true ↔
      ∃ number, CarriesNumber certificateId number issuer ∧
        Bytes.value number = Bytes.value serial := by
  constructor
  · intro about
    obtain ⟨algorithm, nameDigest, keyDigest, serialNumber, identifier, parameters, hash, number,
      sequence, algorithmSequence, chosen, named, keyed, numbered, same⟩ := names_of_isAbout about
    refine ⟨number, ?_, same⟩
    obtain ⟨identified, rfl⟩ | ⟨identified, rfl⟩ := chosen
    · exact ⟨algorithm, nameDigest, keyDigest, serialNumber, identifier, parameters, sha1Id, .sha1,
        sequence, algorithmSequence, identified, Or.inl ⟨rfl, rfl⟩, named, keyed, numbered⟩
    · exact ⟨algorithm, nameDigest, keyDigest, serialNumber, identifier, parameters, sha256Id,
        .sha256, sequence, algorithmSequence, identified, Or.inr ⟨rfl, rfl⟩, named, keyed,
        numbered⟩
  · rintro ⟨number, carries, same⟩
    rw [isAbout_of_carries carries, decide_eq_true same]

theorem isAbout_congr (same : Bytes.value first = Bytes.value second) :
    isAbout certificateId first issuer = isAbout certificateId second issuer := by
  rw [isAbout, isAbout, Bytes.trimZeros_eq_iff.2 same]

/-- The names of an issuer's certificates tell serial numbers apart exactly when they denote
different numbers. -/
theorem forall_isAbout_eq_iff :
    (∀ certificateId, isAbout certificateId first issuer = isAbout certificateId second issuer) ↔
      Bytes.value first = Bytes.value second := by
  constructor
  · intro alike
    -- the name that a request about `first` is written with has to be about `second` too
    obtain ⟨certificateId, -, spells⟩ := exists_writes_encodeCertificateId 0 first issuer
    have about := alike certificateId
    rw [isAbout_of_spells spells, isAbout_of_spells spells] at about
    simpa using about
  · intro same certificateId
    exact isAbout_congr same

end Ocsp

/-! ## All three -/

/-- The serial number that is shown is the one that the channels compare.  It is shown as
the decimal numeral of the number that its octets denote; two certificates show the same
numeral exactly when their trimmed octets are equal; and both channels take two byte
strings for the same serial number exactly when they denote the same number. -/
theorem serial_number_in_all_places {firstDer secondDer : Bytes} {one other : Certificate}
    (firstDecoded : Certificate.decode firstDer = .ok one)
    (secondDecoded : Certificate.decode secondDer = .ok other) :
    one.serialDecimal = toString (Bytes.value one.serial) ∧
      (one.serialTrimmed = other.serialTrimmed ↔ one.serialDecimal = other.serialDecimal) ∧
      (∀ (list : RevocationList) (serial : Bytes) (now : Instant),
        list.revokes serial now = true ↔
          ∃ entry ∈ list.entries, Bytes.value entry.serial = Bytes.value serial ∧
            entry.since ≤ now.seconds) ∧
      (∀ certificateId serial issuer, Ocsp.isAbout certificateId serial issuer = .ok true ↔
        ∃ number, Ocsp.CarriesNumber certificateId number issuer ∧
          Bytes.value number = Bytes.value serial) ∧
      ∀ first second : Bytes,
        ((∀ (list : RevocationList) (now : Instant),
            list.revokes first now = list.revokes second now) ↔
          Bytes.value first = Bytes.value second) ∧
        ∀ issuer, (∀ certificateId,
            Ocsp.isAbout certificateId first issuer = Ocsp.isAbout certificateId second issuer) ↔
          Bytes.value first = Bytes.value second := by
  have shown := Certificate.serialDecimal_of_decode firstDecoded
  have trimmed : one.serialTrimmed = other.serialTrimmed ↔
      one.serialDecimal = other.serialDecimal := by
    rw [shown, Certificate.serialDecimal_of_decode secondDecoded, toString_value_eq_iff]
    exact Bytes.trimZeros_eq_iff
  exact ⟨shown, trimmed, fun _ _ _ => Crl.revokes_iff, fun _ _ _ => Ocsp.isAbout_iff,
    fun _ _ => ⟨RevocationList.forall_revokes_eq_iff, fun _ => Ocsp.forall_isAbout_eq_iff⟩⟩

namespace SerialSample

/-- A certificate without names that bears the given octets as its serial number. -/
def encoding (serial : Bytes) : Bytes :=
  encodeSequence
    [encodeSequence
      [encodeInteger serial, Ocsp.Sample.algorithm, encodeSequence [],
        encodeSequence
          [encode 0x17 (Bytes.ofText "250101000000Z"),
            encode 0x17 (Bytes.ofText "350101000000Z")],
        encodeSequence [],
        encodeSequence [encodeSequence [encodeOid (pkcs1Id 1), encodeNull], encode 0x03 [0]]],
      Ocsp.Sample.algorithm, encode 0x03 [0]]

theorem exists_decode_encoding (serial : Bytes)
    (reads : (SignedCertificate.read (encoding serial)).toOption.any
      (fun read => read.2 == [] && read.1.serial == serial) = true) :
    ∃ certificate, Certificate.decode (encoding serial) = .ok certificate ∧
      certificate.serial = serial := by
  obtain ⟨signed, decoded, same⟩ :=
    Certificate.exists_decode_of_any (fun signed => signed.serial == serial) reads
  exact ⟨_, decoded, beq_iff_eq.1 same⟩

end SerialSample

/-- Two certificates that write one number in different octets show one numeral, and their
trimmed octets are equal. -/
theorem padded_serial_number :
    ∃ one other, Certificate.decode (SerialSample.encoding [0, 0x9A, 0x01]) = .ok one ∧
      Certificate.decode (SerialSample.encoding [0x9A, 0x01]) = .ok other ∧
      one.serial ≠ other.serial ∧ one.serialDecimal = "39425" ∧
      one.serialTrimmed = other.serialTrimmed := by
  obtain ⟨one, firstDecoded, padded⟩ :=
    SerialSample.exists_decode_encoding [0, 0x9A, 0x01] (by decide +kernel)
  obtain ⟨other, secondDecoded, short⟩ :=
    SerialSample.exists_decode_encoding [0x9A, 0x01] (by decide +kernel)
  obtain ⟨shown, trimmed, -⟩ := serial_number_in_all_places firstDecoded secondDecoded
  obtain ⟨shownOther, -⟩ := serial_number_in_all_places secondDecoded firstDecoded
  rw [padded] at shown
  rw [short] at shownOther
  have numeral : one.serialDecimal = "39425" := shown.trans (by decide +kernel)
  have numeralOther : other.serialDecimal = "39425" := shownOther.trans (by decide +kernel)
  refine ⟨one, other, firstDecoded, secondDecoded, ?_, numeral, ?_⟩
  · rw [padded, short]
    decide
  · exact trimmed.2 (numeral.trans numeralOther.symm)

end CertScope
