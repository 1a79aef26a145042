import CertScope.Proofs.X509.Encoding
import CertScope.X509.SignedCertificate

/-!
# Written certificates

A certificate, as RFC 5280 has it written: the fields of the signed part in their order, of
which the version, the two unique identifiers and the extensions may be left out, and the
signature behind them.  Names consist of any bytes here, as the reader passes over what it
cannot decode of them.  The certificate is read back with the extensions that it was
written with.
-/

namespace CertScope.X509.Encoding

open Asn1
open Ocsp.Encoding (Algorithm tagged)
open Strict (headerOf)

variable {tag : UInt8} {number : Nat} {contents rest behind : Bytes}

/-! ## Fields -/

/-- The first version is not written. -/
inductive CertificateVersion where
  | first
  | second
  | third

def CertificateVersion.parts : CertificateVersion → List Bytes
  | first => []
  | second => [Asn1.encode 0xA0 (encodeInteger [1])]
  | third => [Asn1.encode 0xA0 (encodeInteger [2])]

theorem skipVersion_parts (version : CertificateVersion) {serial : Bytes}
    (fits : Fits (encodeInteger serial)) (rest : Bytes) :
    skipVersion (version.parts.flatten ++ (encodeInteger serial ++ rest)) =
      .ok (encodeInteger serial ++ rest) := by
  have versioned {octet : UInt8} (small : octet = 1 ∨ octet = 2) :
      skipVersion (Asn1.encode 0xA0 (encodeInteger [octet]) ++ (encodeInteger serial ++ rest)) =
        .ok (encodeInteger serial ++ rest) := by
    obtain rfl | rfl := small <;> rfl
  cases version with
  | first =>
      have read : readElement (encodeInteger serial ++ rest) = _ :=
        readElement_encode (by decide) fits.inside rest
      have filled : (encodeInteger serial ++ rest).isEmpty = false := rfl
      change skipVersion (encodeInteger serial ++ rest) = _
      simp only [skipVersion, filled, Bool.false_eq_true, if_false, Outcome.bind_eq_ok, lift_eq_ok]
      exact ⟨_, read, rfl⟩
  | second => exact versioned (.inl rfl)
  | third => exact versioned (.inr rfl)

/-- A public key, the bits of which are written as those of a signature are. -/
structure WrittenKey where
  algorithm : Algorithm
  bits : Signature

namespace WrittenKey

def encode (key : WrittenKey) : Bytes := encodeSequence [key.algorithm.encode, key.bits.encode]

theorem exists_read {key : WrittenKey} (fits : Fits key.encode)
    (readable : HasValue key.algorithm) (rest : Bytes) :
    ∃ result, PublicKey.read (key.encode ++ rest) = .ok (result, rest) := by
  obtain ⟨algorithm, readAlgorithm⟩ :=
    exists_readAlgorithm (fits.part List.mem_cons_self) readable key.bits.encode
  have fitsBits : Fits key.bits.encode := fits.part (by simp)
  have readBits := Signature.readBitString_encode fitsBits []
  rw [List.append_nil] at readBits
  refine ⟨⟨algorithm, ⟨key.bits.unused.toNat, key.bits.octets⟩⟩,
    (readSequence_encode fits).2 ⟨?_, rfl⟩⟩
  simp only [List.flatten_cons, List.flatten_nil, List.append_nil, Outcome.bind_eq_ok,
    orElse_eq_ok]
  exact ⟨_, readAlgorithm, _, readBits, rfl⟩

end WrittenKey

/-- The seconds between which a certificate is valid. -/
structure WrittenValidity where
  notBefore : Time
  notAfter : Time

namespace WrittenValidity

def encode (validity : WrittenValidity) : Bytes :=
  encodeSequence [validity.notBefore.encode, validity.notAfter.encode]

theorem read_encode {validity : WrittenValidity} (fits : Fits validity.encode) (rest : Bytes) :
    Validity.read (validity.encode ++ rest) =
      .ok (⟨validity.notBefore.moment.seconds, validity.notAfter.moment.seconds⟩, rest) := by
  have readAfter := validity.notAfter.readDate_encode []
  rw [List.append_nil] at readAfter
  refine (readSequence_encode fits).2 ⟨?_, rfl⟩
  simp only [List.flatten_cons, List.flatten_nil, List.append_nil, Outcome.bind_eq_ok]
  exact ⟨_, validity.notBefore.readDate_encode _, _, readAfter, rfl⟩

end WrittenValidity

/-! ## Unique identifiers -/

/-- There is nothing, or a value of another tag. -/
def StandsApart (number : Nat) (behind : Bytes) : Prop :=
  behind = [] ∨ ∃ header rest, readHeader behind = .ok (header, rest) ∧ header.tag ≠ number

theorem standsApart_encode (low : tag.toNat % 32 ≠ 31) (other : tag.toNat % 32 ≠ number)
    (fits : Fits contents) (rest : Bytes) : StandsApart number (encode tag contents ++ rest) :=
  .inr ⟨_, _, readHeader_encode low fits rest, other⟩

theorem standsApart_tagged {part : Option Bytes} (low : tag.toNat % 32 ≠ 31)
    (other : tag.toNat % 32 ≠ number) (fits : ∀ given ∈ tagged tag part, Fits given)
    (apart : StandsApart number behind) :
    StandsApart number ((tagged tag part).flatten ++ behind) := by
  cases part with
  | none => exact apart
  | some contents =>
      have fitsPart := (fits (Asn1.encode tag contents) List.mem_cons_self).inside
      simpa [tagged] using standsApart_encode low other fitsPart behind

theorem skipUniqueId_of_standsApart (apart : StandsApart number behind) (fault : Fault) :
    skipUniqueId number fault behind = .ok behind := by
  obtain rfl | ⟨header, rest, headed, other⟩ := apart
  · rfl
  · unfold skipUniqueId
    split
    · rfl
    · rw [Outcome.bind_eq_ok]
      exact ⟨_, orElse_eq_ok.2 headed, if_pos (.inl other)⟩

theorem skipUniqueId_encode (low : tag.toNat % 32 ≠ 31)
    (contextual : TagClass.ofOctet tag = .contextSpecific) (filled : contents ≠ [])
    (fits : Fits contents) (fault : Fault) (rest : Bytes) :
    skipUniqueId (tag.toNat % 32) fault (encode tag contents ++ rest) = .ok rest := by
  have given : (encode tag contents ++ rest).isEmpty = false := rfl
  have own : ¬ ((headerOf tag contents).tag ≠ tag.toNat % 32 ∨
      (headerOf tag contents).tagClass ≠ .contextSpecific) := by
    simp [headerOf, contextual]
  have some : contents.isEmpty = false := by simpa using filled
  simp only [skipUniqueId, given, Bool.false_eq_true, if_false, Outcome.bind_eq_ok, orElse_eq_ok]
  refine ⟨_, readHeader_encode low fits rest, ?_⟩
  simp only [own, if_false, Outcome.bind_eq_ok, orElse_eq_ok]
  refine ⟨_, readElement_encode low fits rest, ?_⟩
  simp only [some, Bool.false_eq_true, if_false]
  rfl

/-! ## Signed parts -/

/-- The part of a certificate that is signed. -/
structure WrittenBody where
  version : CertificateVersion
  serial : Bytes
  algorithm : Algorithm
  issuer : Bytes
  validity : WrittenValidity
  subject : Bytes
  key : WrittenKey
  /-- The unique identifiers are bits as well. -/
  issuerId : Option Signature
  subjectId : Option Signature
  extensions : Option (List WrittenExtension)

namespace WrittenBody

def idParts (tag : UInt8) (bits : Option Signature) : List Bytes :=
  tagged tag (bits.map fun bits => bits.unused :: bits.octets)

def extensionParts (body : WrittenBody) : List Bytes :=
  tagged 0xA3 (body.extensions.map fun extensions =>
    encodeSequence (extensions.map WrittenExtension.encode))

def lastParts (body : WrittenBody) : List Bytes :=
  idParts 0x81 body.issuerId ++ idParts 0x82 body.subjectId ++ body.extensionParts

def parts (body : WrittenBody) : List Bytes :=
  body.version.parts ++
    [encodeInteger body.serial, body.algorithm.encode, Asn1.encode 0x30 body.issuer,
      body.validity.encode, Asn1.encode 0x30 body.subject, body.key.encode] ++ body.lastParts

def encode (body : WrittenBody) : Bytes := encodeSequence body.parts

structure IsReadable (body : WrittenBody) : Prop where
  algorithm : HasValue body.algorithm
  key : HasValue body.key.algorithm

def meaning (body : WrittenBody) : List Extension :=
  (body.extensions.getD []).map WrittenExtension.meaning

variable {body : WrittenBody}

theorem skipUniqueId_idParts {bits : Option Signature} (low : tag.toNat % 32 ≠ 31)
    (contextual : TagClass.ofOctet tag = .contextSpecific)
    (fits : ∀ part ∈ idParts tag bits, Fits part)
    (apart : StandsApart (tag.toNat % 32) behind) (fault : Fault) :
    skipUniqueId (tag.toNat % 32) fault ((idParts tag bits).flatten ++ behind) = .ok behind := by
  cases bits with
  | none => exact skipUniqueId_of_standsApart apart fault
  | some bits =>
      have fitsPart := (fits (Asn1.encode tag (bits.unused :: bits.octets))
        List.mem_cons_self).inside
      have read := skipUniqueId_encode low contextual (List.cons_ne_nil _ _) fitsPart fault behind
      simpa [idParts, tagged] using read

theorem ofExplicit_extensionParts (fits : ∀ part ∈ body.extensionParts, Fits part) :
    Extension.ofExplicit 3 body.extensionParts.flatten = .ok body.meaning := by
  obtain ⟨version, serial, algorithm, issuer, validity, subject, key, issuerId, subjectId,
    extensions⟩ := body
  cases extensions with
  | none => rfl
  | some extensions =>
      have fitsExtensions : Fits (Asn1.encode 0xA3
          (encodeSequence (extensions.map WrittenExtension.encode))) :=
        fits _ List.mem_cons_self
      have explicit : Extension.ofExplicit 3 _ = _ :=
        WrittenExtension.ofExplicit_encode (by decide) fitsExtensions
      simpa [extensionParts, tagged, meaning] using explicit

theorem fits_extension (fits : Fits body.encode) {extension : WrittenExtension}
    (member : extension ∈ body.extensions.getD []) : Fits extension.encode := by
  cases given : body.extensions with
  | none =>
      rw [given] at member
      cases member
  | some extensions =>
      rw [given] at member
      have fitsExtensions : Fits (Asn1.encode 0xA3
          (encodeSequence (extensions.map WrittenExtension.encode))) :=
        fits.part (by simp [parts, lastParts, extensionParts, tagged, given])
      exact fitsExtensions.inside.part (List.mem_map_of_mem member)

/-- None of the last fields is taken for another one that is missing. -/
theorem exists_readLast (fits : ∀ part ∈ body.lastParts, Fits part) :
    ∃ behindIssuer behindSubject,
      skipUniqueId 1 .issuerId body.lastParts.flatten = .ok behindIssuer ∧
        skipUniqueId 2 .subjectId behindIssuer = .ok behindSubject ∧
        Extension.ofExplicit 3 behindSubject = .ok body.meaning := by
  have fitsIssuer : ∀ bytes ∈ idParts 0x81 body.issuerId, Fits bytes := fun bytes member =>
    fits bytes (by simp [lastParts, member])
  have fitsSubject : ∀ bytes ∈ idParts 0x82 body.subjectId, Fits bytes := fun bytes member =>
    fits bytes (by simp [lastParts, member])
  have fitsExtensions : ∀ bytes ∈ body.extensionParts, Fits bytes := fun bytes member =>
    fits bytes (by simp [lastParts, member])
  have extensionsApart (number : Nat) (other : 3 ≠ number) :
      StandsApart number (body.extensionParts.flatten ++ []) :=
    standsApart_tagged (by decide) other fitsExtensions (.inl rfl)
  simp only [List.append_nil] at extensionsApart
  have subjectApart : StandsApart 1 ((idParts 0x82 body.subjectId).flatten ++ _) :=
    standsApart_tagged (by decide) (by decide) fitsSubject (extensionsApart 1 (by decide))
  have readIssuer : skipUniqueId 1 .issuerId _ = _ :=
    skipUniqueId_idParts (by decide) (by decide) fitsIssuer subjectApart .issuerId
  have readSubject : skipUniqueId 2 .subjectId _ = _ :=
    skipUniqueId_idParts (by decide) (by decide) fitsSubject (extensionsApart 2 (by decide))
      .subjectId
  rw [lastParts, List.append_assoc, List.flatten_append, List.flatten_append]
  exact ⟨_, _, readIssuer, readSubject, ofExplicit_extensionParts fitsExtensions⟩

/-- The fields are read, with the extensions that were written. -/
theorem exists_readFields (fits : Fits body.encode) (readable : body.IsReadable) :
    ∃ result, SignedCertificate.readFields body.parts.flatten = .ok result ∧
      result.extensions = body.meaning := by
  have part (bytes : Bytes) (member : bytes ∈ body.parts) : Fits bytes := fits.part member
  have fitsSerial : Fits (encodeInteger body.serial) := part _ (by simp [parts])
  have fitsAlgorithm : Fits body.algorithm.encode := part _ (by simp [parts])
  have fitsIssuer : Fits (Asn1.encode 0x30 body.issuer) := part _ (by simp [parts])
  have fitsValidity : Fits body.validity.encode := part _ (by simp [parts])
  have fitsSubject : Fits (Asn1.encode 0x30 body.subject) := part _ (by simp [parts])
  have fitsKey : Fits body.key.encode := part _ (by simp [parts])
  -- every field leaves what was written behind it, so that the next begins there
  obtain ⟨behindIssuer, behindSubject, skipIssuer, skipSubject, readExtensions⟩ :=
    exists_readLast fun bytes member => part bytes (List.mem_append_right _ member)
  obtain ⟨key, readKey⟩ := WrittenKey.exists_read fitsKey readable.key body.lastParts.flatten
  obtain ⟨subject, readSubject⟩ :=
    readName_encode fitsSubject.inside (body.key.encode ++ body.lastParts.flatten)
  obtain ⟨issuer, readIssuer⟩ := readName_encode fitsIssuer.inside (body.validity.encode ++ _)
  obtain ⟨algorithm, readAlgorithm⟩ :=
    exists_readAlgorithm fitsAlgorithm readable.algorithm (Asn1.encode 0x30 body.issuer ++ _)
  have split : body.parts.flatten =
      body.version.parts.flatten ++ (encodeInteger body.serial ++ (body.algorithm.encode ++
        (Asn1.encode 0x30 body.issuer ++ (body.validity.encode ++
          (Asn1.encode 0x30 body.subject ++ (body.key.encode ++ body.lastParts.flatten)))))) := by
    simp [parts]
  rw [split]
  simp only [SignedCertificate.readFields, Outcome.bind_eq_ok]
  exact ⟨_, ⟨_, skipVersion_parts body.version fitsSerial _, _, readSerial_encode fitsSerial _, _,
    readAlgorithm, _, readIssuer, _, WrittenValidity.read_encode fitsValidity _, _, readSubject, _,
    readKey, _, skipIssuer, _, skipSubject, _, readExtensions, rfl⟩, rfl⟩

end WrittenBody

/-! ## Certificates -/

/-- A certificate with its signature. -/
structure WrittenCertificate where
  body : WrittenBody
  algorithm : Algorithm
  signature : Signature

namespace WrittenCertificate

def encode (certificate : WrittenCertificate) : Bytes :=
  encodeSequence
    [certificate.body.encode, certificate.algorithm.encode, certificate.signature.encode]

structure IsReadable (certificate : WrittenCertificate) : Prop where
  body : certificate.body.IsReadable
  algorithm : HasValue certificate.algorithm

/-- A certificate is read off the front of whatever begins with it, with the extensions that
were written. -/
theorem exists_read {certificate : WrittenCertificate} (fits : Fits certificate.encode)
    (readable : certificate.IsReadable) (behind : Bytes) :
    ∃ signed, SignedCertificate.read (certificate.encode ++ behind) = .ok (signed, behind) ∧
      signed.extensions = certificate.body.meaning := by
  have fitsBody : Fits certificate.body.encode := fits.part List.mem_cons_self
  have fitsAlgorithm : Fits certificate.algorithm.encode := fits.part (by simp)
  have fitsSignature : Fits certificate.signature.encode := fits.part (by simp)
  obtain ⟨body, readFields, extensions⟩ :=
    WrittenBody.exists_readFields fitsBody readable.body
  obtain ⟨algorithm, readAlgorithm⟩ :=
    exists_readAlgorithm fitsAlgorithm readable.algorithm certificate.signature.encode
  have readBody (rest : Bytes) :
      readContainer Tag.sequence SignedCertificate.readFields (certificate.body.encode ++ rest) =
        .ok (body, rest) :=
    (readSequence_encode fitsBody).2 ⟨readFields, rfl⟩
  have readSignature := Signature.readBitString_encode fitsSignature []
  rw [List.append_nil] at readSignature
  simp only [SignedCertificate.read, encode, readSequence_encode fits, List.flatten_cons,
    List.flatten_nil, List.append_nil, Outcome.bind_eq_ok, orElse_eq_ok]
  exact ⟨_, ⟨⟨_, readBody _, _, readAlgorithm, _, readSignature, rfl⟩, trivial⟩, extensions⟩

end WrittenCertificate

end CertScope.X509.Encoding
