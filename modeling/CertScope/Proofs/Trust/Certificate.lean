import CertScope.X509.SignedCertificate
import CertScope.Proofs.Trust.Extensions
import CertScope.Proofs.Trust.Time

/-!
# One certificate in two readings

The fields of a certificate stand in the same places for path building and for the
lenient reader.  Field by field, what the one leaves behind is what the other goes on
with, so that both come to the same validity and to the same extensions.
-/

namespace CertScope.PathCertificate

open Asn1 X509 PathReader Strict

variable {bytes rest left contents : Bytes}

/-! ## What a field leaves -/

theorem skipVersion_rest (strict : readVersion bytes = .ok ((), rest))
    (lenient : skipVersion bytes = .ok left) : left = rest := by
  obtain ⟨inside, found, -⟩ := nested_eq_ok.1 strict
  have nonempty := isEmpty_of_expect? found
  have tagged : (headerOf (explicitTag 0) inside).tag = 0 := rfl
  have context : (headerOf (explicitTag 0) inside).tagClass = .contextSpecific := rfl
  simp only [skipVersion, nonempty, Bool.false_eq_true, if_false, Outcome.bind_eq_ok,
    lift_eq_ok, readElement_of_expect? found, Except.ok.injEq, exists_eq_left', tagged, context,
    ne_eq, not_true, orElse_eq_ok] at lenient
  obtain ⟨_, -, given⟩ := lenient
  exact (Outcome.pure_eq_ok.1 given).symm

theorem readSerial_rest {serial number : Bytes}
    (strict : expect? integerTag bytes = some (number, rest))
    (lenient : readSerial bytes = .ok (serial, left)) : left = rest := by
  have element := readBasicElement_of_readElement (readElement_of_expect? strict)
  simp only [readSerial, Outcome.bind_eq_ok, orElse_eq_ok, element, Except.ok.injEq,
    exists_eq_left', Outcome.pure_eq_ok, Prod.mk.injEq] at lenient
  obtain ⟨_, -, -, rfl⟩ := lenient
  rfl

theorem readAlgorithm_rest {algorithm : AlgorithmId}
    (strict : expect? sequenceTag bytes = some (contents, rest))
    (lenient : AlgorithmId.read bytes = .ok (algorithm, left)) : left = rest := by
  simp only [AlgorithmId.read, Outcome.bind_eq_ok, lift_eq_ok, readElement_of_expect? strict,
    Except.ok.injEq, exists_eq_left'] at lenient
  obtain ⟨_, -, step, -, given⟩ := lenient
  split at given
  · simpa using (congrArg Prod.snd (Outcome.pure_eq_ok.1 given)).symm
  · simp only [Outcome.bind_eq_ok, Outcome.pure_eq_ok, Prod.mk.injEq] at given
    obtain ⟨_, -, -, rfl⟩ := given
    rfl

theorem readName_rest {name : Name} (strict : expect? sequenceTag bytes = some (contents, rest))
    (lenient : readName bytes = .ok (name, left)) : left = rest := by
  simp only [readName, Outcome.bind_eq_ok, Outcome.pure_eq_ok, Prod.mk.injEq] at lenient
  obtain ⟨⟨_, behind⟩, readParts, -, rfl⟩ := lenient
  exact (readContainer_of_expect? strict readParts).2

theorem readKey_rest {key : PublicKey} (strict : expect? sequenceTag bytes = some (contents, rest))
    (lenient : PublicKey.read bytes = .ok (key, left)) : left = rest :=
  (readContainer_of_expect? strict lenient).2

/-- Behind the key stand the extensions or nothing. -/
def EndsWithExtensions (bytes : Bytes) (noted : PathExtensions) : Prop :=
  (bytes = [] ∧ noted = {}) ∨
    ∃ inside list, expect? (explicitTag 3) bytes = some (inside, []) ∧
      expect? sequenceTag inside = some (list, []) ∧
      readExtensions {} list.length list = .ok (noted, [])

theorem endsWithExtensions_of_readOptionalExtensions {noted : PathExtensions}
    (strict : readOptionalExtensions bytes = .ok (noted, [])) :
    EndsWithExtensions bytes noted := by
  simp only [readOptionalExtensions, bind_eq_ok, atEnd_eq_ok] at strict
  obtain ⟨ended, _, same, strict⟩ := strict
  obtain ⟨told, rfl⟩ := Prod.mk.inj same
  cases ended with
  | true =>
      obtain ⟨rfl, -⟩ := Prod.mk.inj (pure_eq_ok.1 strict)
      exact Or.inl ⟨List.isEmpty_iff.1 told, rfl⟩
  | false =>
      simp only [Bool.false_eq_true, if_false, nested_eq_ok] at strict
      obtain ⟨inside, found, list, foundList, read⟩ := strict
      exact Or.inr ⟨inside, list, found, foundList, read⟩

theorem skipUniqueId_rest {tag : Nat} {fault : Fault} {noted : PathExtensions}
    (ends : EndsWithExtensions bytes noted) (other : tag ≠ 3)
    (lenient : skipUniqueId tag fault bytes = .ok left) : left = bytes := by
  unfold skipUniqueId at lenient
  obtain ⟨rfl, -⟩ | ⟨inside, -, found, -, -⟩ := ends
  · exact (Except.ok.inj lenient).symm
  · split at lenient
    · exact (Except.ok.inj lenient).symm
    · have tagged : (headerOf (explicitTag 3) inside).tag ≠ tag := other.symm
      simp only [Outcome.bind_eq_ok, orElse_eq_ok, readHeader_of_expect? found, Except.ok.injEq,
        exists_eq_left', tagged, ne_eq, not_false_eq_true, true_or, if_true,
        Outcome.pure_eq_ok] at lenient
      exact lenient.symm

theorem notes_of_ofExplicit {noted : PathExtensions} {extensions : List Extension}
    (ends : EndsWithExtensions bytes noted)
    (lenient : Extension.ofExplicit 3 bytes = .ok extensions) : Notes {} extensions noted := by
  unfold Extension.ofExplicit at lenient
  obtain ⟨rfl, rfl⟩ | ⟨inside, list, found, foundList, read⟩ := ends
  · obtain rfl := Except.ok.inj lenient
    exact .nil _
  · have nonempty := isEmpty_of_expect? found
    have tagged : (headerOf (explicitTag 3) inside).tag = 3 := rfl
    simp only [nonempty, Bool.false_eq_true, if_false, Outcome.bind_eq_ok, orElse_eq_ok,
      readHeader_of_expect? found, Except.ok.injEq, exists_eq_left', tagged, ne_eq, not_true,
      List.append_nil] at lenient
    obtain ⟨⟨listed, behind⟩, readListed, given⟩ := lenient
    obtain ⟨readWhole, rfl⟩ := readContainer_of_expect? foundList readListed
    obtain rfl := Outcome.pure_eq_ok.1 given
    obtain ⟨same, many, notes⟩ := notes_of_readExtensions read (Nat.le_refl _)
    simp only [readList, many] at readWhole
    obtain rfl := Except.ok.inj readWhole
    exact notes

/-! ## The certificate -/

/-- A validity is read leniently from the contents that path building keeps. -/
def ReadsValidity (contents : Bytes) (validity : Validity) : Prop :=
  ∃ rest left, readDate contents = .ok (validity.notBefore, rest) ∧
    readDate rest = .ok (validity.notAfter, left)

theorem readsValidity_of_read {validity : Validity}
    (strict : expect? sequenceTag bytes = some (contents, rest))
    (lenient : Validity.read bytes = .ok (validity, left)) :
    ReadsValidity contents validity ∧ left = rest := by
  obtain ⟨readInner, rfl⟩ := readContainer_of_expect? strict lenient
  simp only [Outcome.bind_eq_ok, Outcome.pure_eq_ok] at readInner
  obtain ⟨⟨notBefore, behind⟩, begins, ⟨notAfter, last⟩, ends, rfl⟩ := readInner
  exact ⟨⟨behind, last, begins, ends⟩, rfl⟩

theorem agrees_of_readBody {signed : SignedData} {certificate : PathCertificate}
    {body : SignedCertificate.Body} (strict : readBody signed bytes = .ok (certificate, []))
    (lenient : SignedCertificate.readFields bytes = .ok body) :
    ReadsValidity certificate.validity body.validity ∧
      Notes {} body.extensions certificate.extensions := by
  simp only [readBody, bind_eq_ok, sequence_eq_ok, expect_eq_ok] at strict
  obtain ⟨_, r1, version, number, r2, serial, algorithm, r3, foundAlgorithm, strict⟩ := strict
  simp only [guarded_eq_ok, bind_eq_ok, sequence_eq_ok, pure_eq_ok] at strict
  obtain ⟨-, issuer, r4, foundIssuer, validity, r5, foundValidity, subject, r6, foundSubject, key,
    r7, foundKey, noted, _, optional, given⟩ := strict
  obtain ⟨rfl, rfl⟩ := Prod.mk.inj given
  simp only [SignedCertificate.readFields, Outcome.bind_eq_ok, Outcome.pure_eq_ok,
    Prod.exists] at lenient
  obtain ⟨_, skipped, _, _, readNumber, _, _, readAlgorithm, _, _, readIssuer, _, _, readTimes, _,
    _, readSubject, _, _, readKey, _, issuerId, _, subjectId, extensions, explicit, rfl⟩ := lenient
  -- Each field leaves the two readers at the same place.
  obtain rfl := skipVersion_rest version skipped
  obtain rfl := readSerial_rest serial readNumber
  obtain rfl := readAlgorithm_rest foundAlgorithm readAlgorithm
  obtain rfl := readName_rest foundIssuer readIssuer
  obtain ⟨valid, rfl⟩ := readsValidity_of_read foundValidity readTimes
  obtain rfl := readName_rest foundSubject readSubject
  obtain rfl := readKey_rest foundKey readKey
  have ends := endsWithExtensions_of_readOptionalExtensions optional
  obtain rfl := skipUniqueId_rest ends (by decide) issuerId
  obtain rfl := skipUniqueId_rest ends (by decide) subjectId
  exact ⟨valid, notes_of_ofExplicit ends explicit⟩

/-- A certificate that both readers accept has the same validity and the same extensions
in both. -/
theorem agrees_of_ofBytes {certificate : PathCertificate} {signed : SignedCertificate}
    (strict : ofBytes bytes = .ok certificate)
    (lenient : SignedCertificate.read bytes = .ok (signed, left)) :
    ReadsValidity certificate.validity signed.validity ∧
      Notes {} signed.extensions certificate.extensions := by
  simp only [ofBytes, Outcome.bind_eq_ok, whole_eq_ok, nested_eq_ok, readSigned,
    Prod.exists] at strict
  obtain ⟨body, data, ⟨contents, found, body', rest, foundBody, algorithm, _, -, signature, _, -,
    given⟩, readBody⟩ := strict
  obtain ⟨same, -⟩ := Prod.mk.inj (Outcome.pure_eq_ok.1 given)
  obtain ⟨rfl, -⟩ := Prod.mk.inj same
  obtain ⟨readInner, -⟩ := readContainer_of_expect? found lenient
  simp only [Outcome.bind_eq_ok, Outcome.pure_eq_ok, Prod.exists] at readInner
  obtain ⟨fields, behind, readFields, _, _, -, _, _, -, rfl⟩ := readInner
  obtain ⟨readBodyFields, -⟩ :=
    readContainer_of_expect? (sequence_eq_ok.1 foundBody) readFields
  exact agrees_of_readBody readBody readBodyFields

end CertScope.PathCertificate
