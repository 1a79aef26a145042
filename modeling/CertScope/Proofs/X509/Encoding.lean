import CertScope.Proofs.Ocsp.Encoding
import CertScope.Proofs.X509.Reading
import CertScope.X509.RevocationList

/-!
# Written fields read back

The fields that certificates and revocation lists are made of, as they are written, are
read off the front of any bytes that begin with them.  A container is read from the
contents that it was written with; what stands behind the fields that its reader looks
at is passed over.
-/

namespace CertScope.X509.Encoding

open Asn1
open Strict (headerOf)

variable {value : Type} {tag : UInt8} {contents rest : Bytes}

/-! ## Containers -/

/-- A written container is read exactly when its contents are. -/
theorem readContainer_encode {inner : Bytes → Except (Failure Fault) value} {result : value}
    {left : Bytes} (low : tag.toNat % 32 ≠ 31) (fits : Fits contents) :
    readContainer (tag.toNat % 32) inner (encode tag contents ++ rest) = .ok (result, left) ↔
      inner contents = .ok result ∧ left = rest := by
  have headed := readHeader_encode low fits rest
  rw [readContainer_eq_ok]
  constructor
  · rintro ⟨header, inside, alsoHeaded, counted, -, read⟩
    obtain ⟨rfl, split⟩ := Prod.mk.inj (Except.ok.inj (alsoHeaded.symm.trans headed))
    obtain ⟨rfl, rfl⟩ := List.append_inj split counted
    exact ⟨read, rfl⟩
  · rintro ⟨read, rfl⟩
    exact ⟨_, contents, headed, rfl, rfl, read⟩

theorem readSequence_encode {inner : Bytes → Except (Failure Fault) value} {result : value}
    {left : Bytes} {parts : List Bytes} (fits : Fits (encodeSequence parts)) :
    readContainer Tag.sequence inner (encodeSequence parts ++ rest) = .ok (result, left) ↔
      inner parts.flatten = .ok result ∧ left = rest :=
  readContainer_encode (by decide) fits.inside

/-- A container of another type is not read. -/
theorem readContainer_foreign {expected : Nat}
    {inner : Bytes → Except (Failure Fault) value} (low : tag.toNat % 32 ≠ 31)
    (foreign : tag.toNat % 32 ≠ expected) (fits : Fits contents) :
    ∃ failure, readContainer expected inner (encode tag contents ++ rest) = .error failure := by
  cases read : readContainer expected inner (encode tag contents ++ rest) with
  | error failure => exact ⟨failure, rfl⟩
  | ok step =>
      obtain ⟨header, inside, headed, -, typed, -⟩ := readContainer_eq_ok.1 read
      rw [readHeader_encode low fits rest] at headed
      obtain ⟨rfl, -⟩ := Prod.mk.inj (Except.ok.inj headed)
      exact (foreign typed).elim

/-! ## Lists -/

/-- A value is read off the front of whatever begins with some bytes. -/
def ReadsOff (item : Reader Fault value) (bytes : Bytes) (result : value) : Prop :=
  bytes ≠ [] ∧ ∀ behind, item (bytes ++ behind) = .ok (result, behind)

/-- Values that were written one behind the other are all read. -/
theorem readMany_flatten {written : Type} {item : Reader Fault value} {encode : written → Bytes}
    {meaning : written → value} {items : List written}
    (readsOff : ∀ one ∈ items, ReadsOff item (encode one) (meaning one)) {steps : Nat}
    (enough : (items.map encode).flatten.length ≤ steps) :
    readMany item steps (items.map encode).flatten = (items.map meaning, []) := by
  -- every value takes at least one byte, and so no more than its share of the steps
  induction items generalizing steps with
  | nil => exact readMany_nil item steps
  | cons one items ih =>
      obtain ⟨filled, read⟩ := readsOff one List.mem_cons_self
      have positive := List.length_pos_iff.2 filled
      simp only [List.map_cons, List.flatten_cons, List.length_append] at enough
      obtain ⟨fewer, rfl⟩ : ∃ fewer, steps = fewer + 1 := ⟨steps - 1, by omega⟩
      have shorter : (items.map encode).flatten.length <
          (encode one ++ (items.map encode).flatten).length := by
        rw [List.length_append]
        omega
      have others := ih (fun other member => readsOff other (List.mem_cons_of_mem _ member))
        (show (items.map encode).flatten.length ≤ fewer by omega)
      simp only [List.map_cons, List.flatten_cons, readMany, read, shorter, if_true, others]

/-- A list is read as the values that were written. -/
theorem readList_flatten {written : Type} {item : Reader Fault value} {encode : written → Bytes}
    {meaning : written → value} {items : List written}
    (readsOff : ∀ one ∈ items, ReadsOff item (encode one) (meaning one)) :
    readList item (items.map encode).flatten = .ok (items.map meaning) := by
  rw [readList, readMany_flatten readsOff (Nat.le_refl _)]

/-- A sequence of values is read as the values that were written. -/
theorem readListOf_encode {written : Type} {item : Reader Fault value} {encode : written → Bytes}
    {meaning : written → value} {items : List written}
    (fits : Fits (encodeSequence (items.map encode)))
    (readsOff : ∀ one, Fits (encode one) → ReadsOff item (encode one) (meaning one))
    (rest : Bytes) :
    readContainer Tag.sequence (readList item) (encodeSequence (items.map encode) ++ rest) =
      .ok (items.map meaning, rest) :=
  (readSequence_encode fits).2 ⟨readList_flatten fun one member =>
    readsOff one (fits.part (List.mem_map_of_mem member)), rfl⟩

/-! ## Values that hold no others -/

theorem readOid_encode {oid : Oid} (fits : Fits (encodeOid oid)) (rest : Bytes) :
    readOid (encodeOid oid ++ rest) = .ok (oid, rest) := by
  have read : readElement (encodeOid oid ++ rest) = _ :=
    readElement_encode (by decide) fits.inside rest
  simp only [readOid, Outcome.bind_eq_ok]
  exact ⟨_, read, (), rfl, rfl⟩

theorem readOctetString_encode {octets : Bytes} (fits : Fits (encodeOctetString octets))
    (rest : Bytes) :
    readOctetString (encodeOctetString octets ++ rest) = .ok (octets, rest) := by
  have read : readElement (encodeOctetString octets ++ rest) = _ :=
    readElement_encode (by decide) fits.inside rest
  simp only [readOctetString, Outcome.bind_eq_ok]
  exact ⟨_, read, (), rfl, rfl⟩

theorem readSerial_encode {octets : Bytes} (fits : Fits (encodeInteger octets)) (rest : Bytes) :
    readSerial (encodeInteger octets ++ rest) = .ok (octets, rest) := by
  have read : readBasicElement (encodeInteger octets ++ rest) = _ :=
    readBasicElement_encode (by decide) fits.inside rest
  simp only [readSerial, Outcome.bind_eq_ok, orElse_eq_ok]
  exact ⟨_, read, (), rfl, rfl⟩

/-- Any sequence is read as a name, which ends at the first part that cannot be read. -/
theorem readName_encode {parts : Bytes} (fits : Fits parts) (rest : Bytes) :
    ∃ name, readName (encode 0x30 parts ++ rest) = .ok (name, rest) := by
  have low : (0x30 : UInt8).toNat % 32 ≠ 31 := by decide
  have read : readContainer Tag.sequence
      (fun contents => .ok (readMany readNamePart contents.length contents))
      (encode 0x30 parts ++ rest) = .ok (readMany readNamePart parts.length parts, rest) :=
    (readContainer_encode low fits).2 ⟨rfl, rfl⟩
  simp only [readName, Outcome.bind_eq_ok]
  exact ⟨_, _, read, rfl⟩

/-! ## Times -/

/-- A second as it is written, in one of the two types. -/
inductive Time where
  | long (moment : Moment)
  | short (moment : Moment) (recent : moment.HasShortYear)

namespace Time

def encode : Time → Bytes
  | long moment => moment.encode
  | short moment _ => moment.encodeShort

def moment : Time → Moment
  | long moment => moment
  | short moment _ => moment

variable (time : Time)

theorem readCivilTime?_encode (rest : Bytes) :
    readCivilTime? (time.encode ++ rest) = some (time.moment.civil, rest) := by
  cases time with
  | long moment => exact moment.readCivilTime?_encode rest
  | short moment recent => exact moment.readCivilTime?_encodeShort recent rest

theorem readDate_encode (rest : Bytes) :
    readDate (time.encode ++ rest) = .ok (time.moment.seconds, rest) := by
  have read := time.moment.readTime?_of_civil (time.readCivilTime?_encode rest)
  simp only [readDate, read]

theorem isEmpty_encode (rest : Bytes) : (time.encode ++ rest).isEmpty = false := by
  cases time <;> rfl

end Time

/-! ## Algorithms -/

section Algorithm

open Ocsp.Encoding (Algorithm)

variable {algorithm : Algorithm}

/-- There are no parameters, or they begin with a value. -/
def HasValue (algorithm : Algorithm) : Prop :=
  ∀ parameters ∈ algorithm.parameters, parameters ≠ [] →
    ∃ element rest, readElement parameters = .ok (element, rest)

theorem hasValue_none (id : Oid) : HasValue ⟨id, none⟩ := by
  rintro parameters ⟨⟩

theorem hasValue_encode (id : Oid) (low : tag.toNat % 32 ≠ 31) (fits : Fits contents) :
    HasValue ⟨id, some (encode tag contents)⟩ := by
  rintro parameters ⟨⟩ -
  have read := readElement_encode low fits []
  rw [List.append_nil] at read
  exact ⟨_, _, read⟩

/-- An algorithm is read exactly if its parameters are. -/
theorem readAlgorithm_encode {left : Bytes} (fits : Fits algorithm.encode) :
    (∃ result, AlgorithmId.read (algorithm.encode ++ rest) = .ok (result, left)) ↔
      HasValue algorithm ∧ left = rest := by
  have element : readElement (algorithm.encode ++ rest) = _ :=
    readElement_encode (by decide) fits.inside rest
  have tagged (contents : Bytes) : expectTag Tag.sequence (headerOf 0x30 contents) = .ok () := rfl
  have oid := readOid_encode (fits.part List.mem_cons_self) algorithm.parameters.toList.flatten
  rw [← List.flatten_cons] at oid
  simp only [AlgorithmId.read, element, Outcome.bind_eq_ok, lift_eq_ok, refuse_eq_ok,
    Outcome.mapError_eq_ok, Except.ok.injEq, exists_eq_left', tagged, oid, exists_const,
    ite_eq_iff, Outcome.pure_eq_ok, Prod.mk.injEq, HasValue]
  cases algorithm.parameters with
  | none => simp [eq_comm]
  | some parameters =>
      cases parameters with
      | nil => simp [eq_comm]
      | cons octet parameters => simp [eq_comm]

theorem exists_readAlgorithm (fits : Fits algorithm.encode) (readable : HasValue algorithm)
    (rest : Bytes) : ∃ result, AlgorithmId.read (algorithm.encode ++ rest) = .ok (result, rest) :=
  (readAlgorithm_encode fits).2 ⟨readable, rfl⟩

end Algorithm

/-! ## Extensions -/

/-- An extension as it is written. -/
structure WrittenExtension where
  id : Oid
  /-- The octet of the criticality, which may be left out. -/
  critical : Option UInt8
  value : Bytes

namespace WrittenExtension

def criticality (extension : WrittenExtension) : List Bytes :=
  (extension.critical.map fun octet => Asn1.encode 0x01 [octet]).toList

def encode (extension : WrittenExtension) : Bytes :=
  encodeSequence
    (encodeOid extension.id :: extension.criticality ++ [encodeOctetString extension.value])

def meaning (extension : WrittenExtension) : Extension where
  id := extension.id
  critical := extension.critical.any (· != 0)
  value := Extension.decodeValue extension.id extension.value

variable {extension : WrittenExtension}

/-- The criticality is read if it is there, and the value is not taken for it. -/
theorem readCritical_encode (fits : Fits (encodeOctetString extension.value)) :
    Extension.readCritical
        (extension.criticality.flatten ++ encodeOctetString extension.value) =
      (extension.critical.any (· != 0), encodeOctetString extension.value) := by
  obtain ⟨id, critical, octets⟩ := extension
  cases critical with
  | none =>
      have read : readBasicElement (Asn1.encode 0x04 octets ++ []) = _ :=
        readBasicElement_encode (by decide) fits.inside []
      rw [List.append_nil] at read
      change Extension.readCritical (Asn1.encode 0x04 octets) = _
      rw [Extension.readCritical, read]
      rfl
  | some octet =>
      have single : Fits [octet] := by simp [Fits]
      have read :
          readBasicElement (Asn1.encode 0x01 [octet] ++ encodeOctetString octets) = _ :=
        readBasicElement_encode (by decide) single (encodeOctetString octets)
      change Extension.readCritical (Asn1.encode 0x01 [octet] ++ encodeOctetString octets) = _
      rw [Extension.readCritical, read]
      rfl

theorem readsOff_encode (fits : Fits extension.encode) :
    ReadsOff Extension.read extension.encode extension.meaning := by
  refine ⟨List.cons_ne_nil _ _, fun behind => ?_⟩
  have fitsValue : Fits (encodeOctetString extension.value) := fits.part (by simp)
  have id := readOid_encode (fits.part List.mem_cons_self)
    (extension.criticality.flatten ++ encodeOctetString extension.value)
  have value := readOctetString_encode fitsValue []
  rw [List.append_nil] at value
  simp only [Extension.read, orElse_eq_ok]
  refine (readSequence_encode fits).2 ⟨?_, rfl⟩
  simp only [List.cons_append, List.flatten_cons, List.flatten_append, List.flatten_nil,
    List.append_nil, Outcome.bind_eq_ok, lift_eq_ok]
  refine ⟨_, id, ?_⟩
  rw [readCritical_encode fitsValue]
  exact ⟨_, value, rfl⟩

/-- The extensions behind an explicit tag, of which the number is looked at. -/
theorem ofExplicit_encode (low : tag.toNat % 32 ≠ 31) {extensions : List WrittenExtension}
    (fits : Fits (Asn1.encode tag (encodeSequence (extensions.map encode)))) :
    Extension.ofExplicit (tag.toNat % 32)
        (Asn1.encode tag (encodeSequence (extensions.map encode))) =
      .ok (extensions.map meaning) := by
  have headed : readHeader (Asn1.encode tag (encodeSequence (extensions.map encode)) ++ []) = _ :=
    readHeader_encode low fits.inside []
  have read : Extension.readSequence (encodeSequence (extensions.map encode) ++ []) =
      .ok (extensions.map meaning, []) :=
    readListOf_encode fits.inside (fun _ => readsOff_encode) []
  simp only [List.append_nil] at headed read
  have numbered : (headerOf tag (encodeSequence (extensions.map encode))).tag =
      tag.toNat % 32 := rfl
  have filled : (Asn1.encode tag (encodeSequence (extensions.map encode))).isEmpty = false := rfl
  simp only [Extension.ofExplicit, filled, Bool.false_eq_true, if_false, Outcome.bind_eq_ok,
    orElse_eq_ok]
  refine ⟨_, headed, ?_⟩
  simp only [numbered, ne_eq, not_true_eq_false, if_false, Outcome.bind_eq_ok]
  exact ⟨_, read, rfl⟩

end WrittenExtension

/-! ## Signatures -/

/-- A signature as it is written: the bits that do not belong to it are zero, and there are
fewer than eight of them. -/
structure Signature where
  unused : UInt8
  octets : Bytes
  few : unused < 8
  padded : (octets.getLastD 0).toNat % 2 ^ unused.toNat = 0
  whole : octets = [] → unused = 0

namespace Signature

def encode (signature : Signature) : Bytes :=
  Asn1.encode 0x03 (signature.unused :: signature.octets)

/-- A multiple of a power of two ends in that many zero bits. -/
theorem le_trailingZeros {octet unused : UInt8} (few : unused < 8)
    (padded : octet.toNat % 2 ^ unused.toNat = 0) : unused.toNat ≤ trailingZeros octet := by
  have table : ∀ number < 256, ∀ bits < 8, number % 2 ^ bits = 0 →
      bits ≤ trailingZeros (UInt8.ofNat number) := by
    decide +kernel
  have known := table octet.toNat octet.toNat_lt unused.toNat (UInt8.lt_iff_toNat_lt.1 few) padded
  rwa [UInt8.ofNat_toNat] at known

theorem checkBitString_contents (signature : Signature) :
    checkBitString (signature.unused :: signature.octets) = .ok () := by
  obtain ⟨unused, octets, few, padded, whole⟩ := signature
  cases octets with
  | nil => simp [checkBitString, whole rfl]
  | cons octet octets =>
      have enough := le_trailingZeros few padded
      simp only [checkBitString, Nat.not_lt.2 enough, if_false]

theorem readBitString_encode {signature : Signature} (fits : Fits signature.encode)
    (rest : Bytes) :
    readBitString (signature.encode ++ rest) =
      .ok (⟨signature.unused.toNat, signature.octets⟩, rest) := by
  have read : readElement (signature.encode ++ rest) = _ :=
    readElement_encode (by decide) fits.inside rest
  simp only [readBitString, Outcome.bind_eq_ok, refuse_eq_ok]
  exact ⟨_, read, (), ⟨(), rfl, (), signature.checkBitString_contents, rfl⟩, _, rfl, rfl⟩

end Signature

end CertScope.X509.Encoding
