import CertScope.Trust.PathCertificate
import CertScope.X509.Extension
import CertScope.Proofs.Asn1.Tree
import CertScope.Proofs.Trust.Reading

/-!
# The same extensions in two lists

Path building remembers the contents of some extensions and refuses a repetition.  The
lenient reader keeps every extension with its decoded value and ignores those that
are repeated.  On the extensions that path building accepts, the two agree: what a
slot remembers are the contents of the only extension with its identifier.
-/

namespace CertScope.PathCertificate

open Asn1 X509 PathReader Strict

variable {known noted : PathExtensions} {bytes rest : Bytes}

/-! ## One extension -/

theorem readOid_of_expect? {contents : Bytes}
    (read : expect? oidTag bytes = some (contents, rest)) :
    readOid bytes = .ok (⟨contents⟩, rest) := by
  simp only [readOid, Outcome.bind_eq_ok]
  exact ⟨_, readElement_of_expect? read, (), rfl, rfl⟩

theorem readOctetString_of_expect? {contents : Bytes}
    (read : expect? octetStringTag bytes = some (contents, rest)) :
    readOctetString bytes = .ok (contents, rest) := by
  simp only [readOctetString, Outcome.bind_eq_ok]
  exact ⟨_, readElement_of_expect? read, (), rfl, rfl⟩

theorem readCritical_of_boolean {critical : Bool} {value left : Bytes}
    (read : boolean bytes = .ok (critical, rest))
    (readValue : expect? octetStringTag rest = some (value, left)) :
    Extension.readCritical bytes = (critical, rest) := by
  obtain ⟨-, rfl, rfl⟩ | ⟨octet, found, told⟩ := boolean_eq_ok read
  · have element := readBasicElement_of_readElement (readElement_of_expect? readValue)
    simp [Extension.readCritical, element, headerOf, octetStringTag]
  · have element := readBasicElement_of_readElement (readElement_of_expect? found)
    obtain ⟨rfl, rfl⟩ | ⟨rfl, rfl⟩ := told
    · simp [Extension.readCritical, element, headerOf, booleanTag]
    · simp [Extension.readCritical, element, headerOf, booleanTag]

/-- The extension that the lenient reader makes of the parts of one. -/
def decoded (id : Bytes) (critical : Bool) (value : Bytes) : Extension :=
  ⟨⟨id⟩, critical, Extension.decodeValue ⟨id⟩ value⟩

/-- An extension of which path building takes note is one to the lenient reader. -/
theorem read_of_readExtension (read : readExtension known bytes = .ok (noted, rest)) :
    ∃ id critical value, remember known id critical value = .ok noted ∧
      Extension.read bytes = .ok (decoded id critical value, rest) ∧
      rest.length < bytes.length := by
  simp only [readExtension, nested_eq_ok, bind_eq_ok, expect_eq_ok, liftM_eq_ok] at read
  obtain ⟨contents, found, id, _, foundId, critical, _, readCritical, value, left, foundValue,
    accepted, remembered, same⟩ := read
  obtain ⟨rfl, rfl⟩ := Prod.mk.inj same
  refine ⟨id, critical, value, remembered, ?_, length_of_expect? found⟩
  simp only [Extension.read, orElse_eq_ok]
  apply readContainer_eq_ok_of_expect? found
  simp only [Outcome.bind_eq_ok, lift_eq_ok]
  refine ⟨_, readOid_of_expect? foundId, ?_⟩
  dsimp only
  rw [readCritical_of_boolean readCritical foundValue]
  exact ⟨_, readOctetString_of_expect? foundValue, rfl⟩

/-! ## All extensions -/

/-- Taking note of extensions one after the other. -/
inductive Notes : PathExtensions → List Extension → PathExtensions → Prop
  | nil (known : PathExtensions) : Notes known [] known
  | cons {known next noted : PathExtensions} {id value : Bytes} {critical : Bool}
      {others : List Extension} (remembered : remember known id critical value = .ok next)
      (rest : Notes next others noted) :
      Notes known (decoded id critical value :: others) noted

/-- The extensions that path building takes note of are those that the lenient reader
lists. -/
theorem notes_of_readExtensions {steps count : Nat}
    (read : readExtensions known steps bytes = .ok (noted, []))
    (enough : bytes.length ≤ count) :
    ∃ extensions, readMany Extension.read count bytes = (extensions, []) ∧
      Notes known extensions noted := by
  induction steps generalizing known bytes count with
  | zero => exact (throw_eq_ok.1 read).elim
  | succ steps ih =>
      simp only [readExtensions, bind_eq_ok, atEnd_eq_ok] at read
      obtain ⟨next, left, readFirst, ended, _, same, read⟩ := read
      obtain ⟨told, rfl⟩ := Prod.mk.inj same
      obtain ⟨id, critical, value, remembered, lenient, shorter⟩ :=
        read_of_readExtension readFirst
      cases count with
      | zero => omega
      | succ count =>
          cases ended with
          | true =>
              obtain ⟨rfl, rfl⟩ := Prod.mk.inj (pure_eq_ok.1 read)
              refine ⟨[decoded id critical value], ?_, .cons remembered (.nil _)⟩
              simp only [readMany, lenient, shorter, if_true, readMany_nil]
          | false =>
              have fits : left.length ≤ count := by omega
              obtain ⟨extensions, listed, notes⟩ := ih read fits
              refine ⟨decoded id critical value :: extensions, ?_, .cons remembered notes⟩
              simp only [readMany, lenient, shorter, if_true, listed]

/-! ## Slots -/

/-- The extensions that bear on the leaf by itself. -/
inductive Slot where
  | basicConstraints
  | purposes

namespace Slot

def get : Slot → PathExtensions → Option Bytes
  | basicConstraints => PathExtensions.basicConstraints
  | purposes => PathExtensions.purposes

def id : Slot → Oid
  | basicConstraints => Extension.basicConstraintsId
  | purposes => Extension.extendedKeyUsageId

end Slot

theorem once_eq_ok {old result : Option Bytes} {reader : PathReader Bytes} {value : Bytes} :
    once old reader value = .ok result ↔
      old = none ∧ ∃ contents, reader value = .ok (contents, []) ∧ result = some contents := by
  cases old with
  | some contents => simp [once]
  | none =>
      change (some <$> whole .malformed reader value) = .ok result ↔ _
      simp only [Outcome.map_eq_ok, whole_eq_ok, true_and, @eq_comm _ result]

/-- Taking note of an extension fills the slot of its identifier, which has been empty,
and no other slot. -/
theorem remember_slot (slot : Slot) {id value : Bytes} {critical : Bool}
    (remembered : remember known id critical value = .ok noted) :
    (id = slot.id.octets ∧ slot.get known = none ∧
        ∃ contents, expect? sequenceTag value = some (contents, []) ∧
          slot.get noted = some contents) ∨
      (id ≠ slot.id.octets ∧ slot.get noted = slot.get known) := by
  unfold remember at remembered
  split at remembered
  case h_7 constraints _ _ usage =>
      split at remembered
      · simp at remembered
      · obtain rfl := Except.ok.inj remembered
        right
        cases slot with
        | basicConstraints => exact ⟨constraints, rfl⟩
        | purposes => exact ⟨usage, rfl⟩
  -- An identifier that is known fills its own slot, be it one of the two or another.
  all_goals
    simp only [Outcome.bind_eq_ok, Outcome.pure_eq_ok, once_eq_ok, sequence_eq_ok] at remembered
    obtain ⟨_, ⟨empty, contents, read, rfl⟩, rfl⟩ := remembered
    cases slot
  case h_3.basicConstraints => exact Or.inl ⟨rfl, empty, contents, read, rfl⟩
  case h_6.purposes => exact Or.inl ⟨rfl, empty, contents, read, rfl⟩
  all_goals exact Or.inr ⟨by decide, rfl⟩

/-- What the slot of an identifier tells of the extensions with that identifier. -/
theorem Notes.slot {extensions : List Extension} (notes : Notes known extensions noted)
    (slot : Slot) :
    (slot.get noted = slot.get known ∧
        extensions.filter (·.id == slot.id) = []) ∨
      (slot.get known = none ∧ ∃ critical value contents,
        expect? sequenceTag value = some (contents, []) ∧ slot.get noted = some contents ∧
        extensions.filter (·.id == slot.id) = [decoded slot.id.octets critical value]) := by
  induction notes with
  | nil known => exact Or.inl ⟨rfl, rfl⟩
  | @cons known next noted id value critical others remembered rest ih =>
      obtain ⟨rfl, empty, contents, found, filled⟩ | ⟨other, same⟩ := remember_slot slot remembered
      · right
        obtain ⟨kept, noOther⟩ | ⟨stillEmpty, -⟩ := ih
        · refine ⟨empty, critical, value, contents, found, kept.trans filled, ?_⟩
          have matching : ((decoded slot.id.octets critical value).id == slot.id) = true := by
            simp [decoded]
          simp only [List.filter_cons, matching, if_true, noOther]
        · rw [filled] at stillEmpty
          cases stillEmpty
      · have differing : ¬ ((decoded id critical value).id == slot.id) = true := by
          rw [beq_iff_eq]
          intro equal
          exact other (congrArg Oid.octets equal)
        simp only [List.filter_cons, differing, Bool.false_eq_true, if_false, ← same]
        exact ih

/-- An empty slot means that the lenient reader finds no such extension, and a full one
that it finds exactly the one whose contents the slot holds. -/
theorem Notes.findUnique {extensions : List Extension} (notes : Notes {} extensions noted)
    (slot : Slot) :
    (slot.get noted = none ∧ Extension.findUnique slot.id extensions = none) ∨
      ∃ value contents, expect? sequenceTag value = some (contents, []) ∧
        slot.get noted = some contents ∧
        Extension.findUnique slot.id extensions = some (Extension.decodeValue slot.id value) := by
  have empty : slot.get {} = none := by cases slot <;> rfl
  obtain ⟨same, absent⟩ | ⟨-, critical, value, contents, found, filled, only⟩ := notes.slot slot
  · left
    exact ⟨same.trans empty, by simp [Extension.findUnique, absent]⟩
  · right
    exact ⟨value, contents, found, filled, by simp [Extension.findUnique, only, decoded]⟩

end CertScope.PathCertificate
