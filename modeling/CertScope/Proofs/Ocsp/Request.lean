import CertScope.Ocsp.Verify
import CertScope.Proofs.Asn1.Encoding
import CertScope.Proofs.Ocsp.Check

/-!
# What a request asks about

The name that a request is written with is read back from it as it was put in, serial
number and all.  Held against the name of an answer, the serial number counts as a
number, so that the name which a request was written with matches the serial numbers
that denote the same number, and no others.
-/

namespace CertScope.Ocsp

open Asn1 X509

variable {serial : Bytes} {issuer : SignedCertificate} {certificateId : Node}

/-- Some bytes are a request about one certificate, and nothing else. -/
def AsksAbout (bytes : Bytes) (certificateId : Node) : Prop :=
  ∃ whole asked requests single,
    readNode bytes = .ok (whole, []) ∧ whole.asSequence = .ok [asked] ∧
    asked.asSequence = .ok [requests] ∧ requests.asSequence = .ok [single] ∧
    single.asSequence = .ok [certificateId]

/-- A name consists of the digests under SHA-1 of an issuer's name and key and of the octets
of a serial number. -/
def Spells (certificateId : Node) (serial : Bytes) (issuer : SignedCertificate) : Prop :=
  ∃ algorithm nameDigest keyDigest number identifier parameters,
    certificateId.asSequence = .ok [algorithm, nameDigest, keyDigest, number] ∧
    algorithm.asSequence = .ok [identifier, parameters] ∧
    identifier.asOid = .ok sha1Id ∧ parameters.content = .null ∧
    nameDigest.content = .octetString (Hash.sha1.digest issuer.subject.raw) ∧
    keyDigest.content = .octetString (Hash.sha1.digest issuer.publicKey.bits.octets) ∧
    number.content = .integer serial

theorem exists_writes_encodeCertificateId (depth : Nat) (serial : Bytes)
    (issuer : SignedCertificate) :
    ∃ certificateId, Writes (depth + 3) (encodeCertificateId serial issuer) certificateId ∧
      Spells certificateId serial issuer := by
  have algorithm : Writes (depth + 2) (encodeSequence [encodeOid sha1Id, encodeNull]) _ :=
    writes_sequence (.cons (writes_oid sha1Id) (.cons writes_null .nil))
  have nameDigest : Writes (depth + 2)
      (encodeOctetString (Hash.sha1.digest issuer.subject.raw)) _ := writes_octetString _
  have keyDigest : Writes (depth + 2)
      (encodeOctetString (Hash.sha1.digest issuer.publicKey.bits.octets)) _ :=
    writes_octetString _
  have number : Writes (depth + 2) (encodeInteger serial) _ := writes_integer serial
  have whole := writes_sequence (.cons algorithm (.cons nameDigest (.cons keyDigest
    (.cons number .nil))))
  exact ⟨_, whole, _, _, _, _, _, _, rfl, rfl, rfl, rfl, rfl, rfl, rfl⟩

/-- A request is read back as the name that it was written with. -/
theorem asksAbout_of_request {body : Bytes} (made : request serial issuer = .ok body)
    (fits : Fits body) :
    ∃ certificateId, AsksAbout body certificateId ∧ Spells certificateId serial issuer := by
  unfold request at made
  split at made
  · cases made
  · obtain rfl := Except.ok.inj made
    obtain ⟨certificateId, writes, spells⟩ := exists_writes_encodeCertificateId 43 serial issuer
    have single := writes_sequence (.cons writes .nil)
    have requests := writes_sequence (.cons single .nil)
    have asked := writes_sequence (.cons requests .nil)
    have read := readNode_encodeSequence_self (.cons asked .nil) fits
    exact ⟨certificateId, ⟨_, _, _, _, read, rfl, rfl, rfl, rfl⟩, spells⟩

/-- A name is about the serial numbers that denote the number of its own. -/
theorem isAbout_of_spells (spells : Spells certificateId serial issuer) (other : Bytes) :
    isAbout certificateId other issuer =
      .ok (decide (Bytes.value serial = Bytes.value other)) := by
  obtain ⟨algorithm, nameDigest, keyDigest, number, identifier, parameters, sequence,
    algorithmSequence, identified, -, named, keyed, numbered⟩ := spells
  have digests : issuerDigests? issuer sha1Id = some (Hash.sha1.digest issuer.subject.raw,
      Hash.sha1.digest issuer.publicKey.bits.octets) := by
    simp [issuerDigests?]
  have nameOctets : nameDigest.asOctets = .ok (Hash.sha1.digest issuer.subject.raw) := by
    simp [Node.asOctets, named]
  have keyOctets :
      keyDigest.asOctets = .ok (Hash.sha1.digest issuer.publicKey.bits.octets) := by
    simp [Node.asOctets, keyed]
  have serialOctets : number.asOctets = .ok serial := by
    simp [Node.asOctets, numbered]
  have compared : (Bytes.trimZeros serial == Bytes.trimZeros other) =
      decide (Bytes.value serial = Bytes.value other) := by
    rw [Bool.eq_iff_iff, beq_iff_eq, decide_eq_true_iff, Bytes.trimZeros_eq_iff]
  simp [isAbout, sequence, algorithmSequence, identified, digests, nameOctets, keyOctets,
    serialOctets, compared]

/-- There is a request about every serial number, and it is read back, with nothing left
over, as one name: the digests under SHA-1 of the issuer's name and key, and the serial
number octet by octet.  That name is about another serial number exactly when both
denote the same number.  A length is kept in 64 bits, which every byte string in a memory
keeps to. -/
theorem request_reads_back (serial : Bytes) (issuer : SignedCertificate)
    (nonempty : serial ≠ []) :
    ∃ body, request serial issuer = .ok body ∧
      (body.length < 2 ^ 64 → ∃ certificateId,
        AsksAbout body certificateId ∧ Spells certificateId serial issuer ∧
        ∀ other, isAbout certificateId other issuer =
          .ok (decide (Bytes.value serial = Bytes.value other))) := by
  obtain ⟨body, made⟩ : ∃ body, request serial issuer = .ok body := by
    rw [request, if_neg (by simpa using nonempty)]
    exact ⟨_, rfl⟩
  refine ⟨body, made, fun fits => ?_⟩
  obtain ⟨certificateId, asks, spells⟩ := asksAbout_of_request made fits
  exact ⟨certificateId, asks, spells, isAbout_of_spells spells⟩

/-- A serial number with a zero octet in front, which the request keeps and the comparison
passes over. -/
theorem request_reads_back_padded :
    ∃ issuer rest body certificateId,
      SignedCertificate.read Sample.issuer = .ok (issuer, rest) ∧
      request [0, 7] issuer = .ok body ∧ body.length < 2 ^ 64 ∧
      AsksAbout body certificateId ∧ Spells certificateId [0, 7] issuer ∧
      isAbout certificateId [7] issuer = .ok true ∧
      isAbout certificateId [7, 0] issuer = .ok false := by
  obtain ⟨⟨issuer, rest⟩, read, short⟩ := Outcome.exists_of_any_toOption
    (fun read : SignedCertificate × Bytes =>
      (request [0, 7] read.1).toOption.any fun body : Bytes => decide (body.length < 2 ^ 64))
    (show (SignedCertificate.read Sample.issuer).toOption.any _ = true by decide +kernel)
  obtain ⟨body, made, readsBack⟩ := request_reads_back [0, 7] issuer (by decide)
  have fits : body.length < 2 ^ 64 := by
    simp only [made] at short
    exact of_decide_eq_true short
  obtain ⟨certificateId, asks, spells, about⟩ := readsBack fits
  have same : Bytes.value [0, 7] = Bytes.value [7] := by decide
  have other : Bytes.value [0, 7] ≠ Bytes.value [7, 0] := by decide
  refine ⟨issuer, rest, body, certificateId, read, made, fits, asks, spells, ?_, ?_⟩
  · rw [about, decide_eq_true same]
  · rw [about, decide_eq_false other]

end CertScope.Ocsp
