import CertScope.Trust.Search
import CertScope.Proofs.Trust.Extensions

/-!
# Role and purposes of a leaf

A leaf that path building accepts is no authority, and if it lists purposes then
server authentication is among them.  The lenient decoding of the same contents
comes to no other result, although it takes more encodings for a truth value and
reads the list of purposes to its end.
-/

namespace CertScope

open Asn1 X509 PathReader Strict

variable {bytes rest value contents : Bytes}

/-! ## Purposes -/

theorem mem_of_readPurposes {steps count : Nat} {purposes : List Oid}
    (read : readPurposes steps bytes = .ok ((), rest))
    (listed : readMany readOid count bytes = (purposes, [])) : purposeId 1 ∈ purposes := by
  induction steps generalizing bytes count purposes with
  | zero => exact (throw_eq_ok.1 read).elim
  | succ steps ih =>
      simp only [readPurposes, bind_eq_ok, expect_eq_ok] at read
      obtain ⟨octets, left, found, read⟩ := read
      have shorter := length_of_expect? found
      cases count with
      | zero =>
          obtain ⟨-, rfl⟩ := Prod.mk.inj listed
          simp at shorter
      | succ count =>
          simp only [readMany, PathCertificate.readOid_of_expect? found, shorter, if_true,
            Prod.mk.injEq] at listed
          obtain ⟨rfl, ended⟩ := listed
          split at read
          · rename_i server
            rw [server]
            exact List.mem_cons_self
          · simp only [bind_eq_ok, atEnd_eq_ok] at read
            obtain ⟨last, _, same, read⟩ := read
            obtain ⟨-, rfl⟩ := Prod.mk.inj same
            cases last with
            | true => exact (throw_eq_ok.1 read).elim
            | false => exact List.mem_cons_of_mem _ (ih read (Prod.ext rfl ended))

/-- A value that is readable comes from the decoder for its identifier. -/
theorem eq_ok_of_decodeValue {id : Oid} {decode : Bytes → Except (Failure Fault) ExtensionValue}
    {decoded : ExtensionValue} (chosen : Extension.decoder? id = some decode)
    (found : Extension.decodeValue id value = decoded) (readable : decoded ≠ .unreadable) :
    decode value = .ok decoded := by
  simp only [Extension.decodeValue, chosen] at found
  cases outcome : decode value with
  | error failure =>
      rw [outcome] at found
      exact (readable found.symm).elim
  | ok result =>
      rw [outcome] at found
      exact congrArg Except.ok found

/-- Purposes among which path building finds server authentication contain it. -/
theorem mem_of_decodeValue {steps : Nat} {purposes : List Oid}
    (found : expect? sequenceTag value = some (contents, []))
    (read : whole .malformed (readPurposes steps) contents = .ok ())
    (decoded : Extension.decodeValue Extension.extendedKeyUsageId value =
      .extendedKeyUsage purposes) : purposeId 1 ∈ purposes := by
  have chosen : Extension.decoder? Extension.extendedKeyUsageId =
      some Extension.extendedKeyUsage := rfl
  have lenient := eq_ok_of_decodeValue chosen decoded nofun
  simp only [Extension.extendedKeyUsage, Outcome.bind_eq_ok, lift_eq_ok, Outcome.pure_eq_ok,
    readElement_of_expect? found] at lenient
  obtain ⟨_, same, _, -, listed, readListed, given⟩ := lenient
  cases same
  obtain rfl := ExtensionValue.extendedKeyUsage.inj given
  simp only [readList] at readListed
  split at readListed
  · rename_i purposes whole
    obtain rfl := Except.ok.inj readListed
    exact mem_of_readPurposes (whole_eq_ok.1 read) whole
  · simp at readListed

/-! ## Basic constraints -/

theorem interpret_integer {depth : Nat} :
    interpret (depth + 1) ⟨headerOf integerTag contents, contents⟩ =
      .ok (.mk (headerOf integerTag contents) (.integer contents)) := by
  rfl

theorem interpret_false {depth : Nat} :
    interpret (depth + 1) ⟨headerOf booleanTag [0], [0]⟩ =
      .ok (.mk (headerOf booleanTag [0]) (.boolean false)) := by
  rfl

/-- Basic constraints that a leaf may have: no truth value but a false one, and no value at
all or a number behind it. -/
theorem boolean_of_readBasicConstraints {certificate : PathCertificate}
    (read : whole .malformed (readBasicConstraints (.ofLeaf certificate)) contents = .ok ()) :
    ∃ left, boolean contents = .ok (false, left) ∧
      (left = [] ∨ ∃ number behind, expect? integerTag left = some (number, behind)) := by
  have read := whole_eq_ok.1 read
  simp only [readBasicConstraints, bind_eq_ok, atEnd_eq_ok] at read
  obtain ⟨isCa, left, readBoolean, ended, _, same, read⟩ := read
  obtain ⟨told, rfl⟩ := Prod.mk.inj same
  have leafOnly {most : Option Nat}
      (accepted : checkRole (.ofLeaf certificate) isCa most = .ok ()) : isCa = false := by
    cases isCa with
    | false => rfl
    | true => simp [checkRole, Path.ofLeaf] at accepted
  cases ended with
  | true =>
      simp only [if_true, bind_eq_ok, liftM_eq_ok] at read
      obtain ⟨most, _, -, _, accepted, -⟩ := read
      obtain rfl := leafOnly accepted
      exact ⟨left, readBoolean, Or.inl (List.isEmpty_iff.1 told)⟩
  | false =>
      simp only [Bool.false_eq_true, if_false, bind_eq_ok, map_eq_ok, small, expect_eq_ok,
        liftM_eq_ok] at read
      obtain ⟨most, _, ⟨_, _, ⟨number, rest, found, -⟩, -⟩, _, accepted, -⟩ := read
      obtain rfl := leafOnly accepted
      exact ⟨left, readBoolean, Or.inr ⟨number, rest, found⟩⟩

theorem asBool_ne_true {certificate : PathCertificate} {element : Element} {left : Bytes}
    {depth : Nat} {first : Node}
    (read : whole .malformed (readBasicConstraints (.ofLeaf certificate)) contents = .ok ())
    (taken : readBasicElement contents = .ok (element, left))
    (interpreted : interpret (depth + 1) element = .ok first) : first.asBool ≠ .ok true := by
  obtain ⟨behind, readBoolean, last⟩ := boolean_of_readBasicConstraints read
  obtain ⟨-, -, rfl⟩ | ⟨octet, found, told⟩ := boolean_eq_ok readBoolean
  · obtain rfl | ⟨number, rest, found⟩ := last
    · simp [readBasicElement, readBasicHeader, readIdentifier, bind, Except.bind] at taken
    · have same := readBasicElement_of_readElement (readElement_of_expect? found)
      rw [same] at taken
      obtain ⟨rfl, rfl⟩ := Prod.mk.inj (Except.ok.inj taken)
      obtain rfl := Except.ok.inj (interpret_integer.symm.trans interpreted)
      simp [Node.asBool, Node.content]
  · have zero : octet = 0 := by simpa using told
    subst zero
    have same := readBasicElement_of_readElement (readElement_of_expect? found)
    rw [same] at taken
    obtain ⟨rfl, rfl⟩ := Prod.mk.inj (Except.ok.inj taken)
    obtain rfl := Except.ok.inj (interpret_false.symm.trans interpreted)
    simp [Node.asBool, Node.content]

/-- Basic constraints with which path building accepts a leaf are not decoded as those of
an authority. -/
theorem decodeValue_ne_authority {certificate : PathCertificate}
    (found : expect? sequenceTag value = some (contents, []))
    (read : whole .malformed (readBasicConstraints (.ofLeaf certificate)) contents = .ok ()) :
    Extension.decodeValue Extension.basicConstraintsId value ≠ .basicConstraints true := by
  intro decoded
  have chosen : Extension.decoder? Extension.basicConstraintsId =
      some Extension.basicConstraints := rfl
  have lenient := eq_ok_of_decodeValue chosen decoded nofun
  simp only [Extension.basicConstraints, Outcome.bind_eq_ok, lift_eq_ok, refuse_eq_ok,
    Prod.exists] at lenient
  obtain ⟨node, rest, readWhole, elements, sequence, lenient⟩ := lenient
  obtain ⟨header, inside, headed, counted, -, interpreted⟩ := readNode_eq_ok.1 readWhole
  rw [readHeader_of_expect? found] at headed
  obtain ⟨rfl, split⟩ := Prod.mk.inj (Except.ok.inj headed)
  obtain ⟨rfl, -⟩ := List.append_inj split counted.symm
  have readElements := readAll_of_asSequence interpreted sequence
  have firstFalse {first : Node} {others : List Node} (begins : elements = first :: others) :
      first.asBool ≠ .ok true := by
    subst begins
    obtain ⟨element, left, taken, interpretedFirst⟩ := readAll_cons readElements
    exact asBool_ne_true read taken interpretedFirst
  rcases elements with _ | ⟨first, _ | ⟨second, _ | ⟨_, _⟩⟩⟩
  · simp at lenient
  · cases truth : first.asBool with
    | error failure => simp [truth] at lenient
    | ok isCa =>
        obtain rfl : isCa = true := by simpa [truth] using lenient
        exact firstFalse rfl truth
  · simp only [Outcome.bind_eq_ok, lift_eq_ok, refuse_eq_ok, Outcome.pure_eq_ok] at lenient
    obtain ⟨isCa, truth, _, -, given⟩ := lenient
    obtain rfl := ExtensionValue.basicConstraints.inj given
    exact firstFalse rfl truth
  · simp at lenient

end CertScope
