import CertScope.Proofs.Asn1.Arcs
import CertScope.Proofs.Text.Ascii
import CertScope.Proofs.X509.Encoding

/-!
# Written names, distribution points and access descriptions

The entries of the extensions that tell what a certificate stands for and where to ask about
it.  A name is written behind the tag of its kind; a distribution point names places, or one
place relative to the issuer, or none; an access description is a method and a place.  Each
entry is read off the front of whatever begins with it.
-/

namespace CertScope.X509.Encoding

open Asn1
open Strict (headerOf)
open Ocsp.Encoding (tagged)

/-! ## Names -/

/-- A text of ASCII characters. -/
structure AsciiText where
  text : String
  ascii : Utf8.IsAscii text

theorem AsciiText.nameText_octets (given : AsciiText) :
    nameText (Bytes.ofText given.text) = .ok given.text := by
  rw [nameText, Utf8.decode?, Utf8.decode_ofText given.ascii]
  rfl

/-- A name, of any of the nine kinds. -/
inductive WrittenName where
  | other (id : Oid) (value : Bytes)
  | mail (address : AsciiText)
  | dns (host : AsciiText)
  | x400 (contents : Bytes)
  | directory (parts : Bytes)
  | ediParty (contents : Bytes)
  | uri (text : AsciiText)
  | address (octets : Bytes)
  | registered (id : Oid)

namespace WrittenName

def tag : WrittenName → UInt8
  | other _ _ => 0xA0
  | mail _ => 0x81
  | dns _ => 0x82
  | x400 _ => 0xA3
  | directory _ => 0xA4
  | ediParty _ => 0xA5
  | uri _ => 0x86
  | address _ => 0x87
  | registered _ => 0x88

def contents : WrittenName → Bytes
  | other id value => encodeOid id ++ Asn1.encode 0xA0 value
  | mail given | dns given | uri given => Bytes.ofText given.text
  | x400 contents | ediParty contents => contents
  | directory parts => Asn1.encode 0x30 parts
  | address octets => octets
  | registered id => id.octets

def encode (name : WrittenName) : Bytes := Asn1.encode name.tag name.contents

def meaning : WrittenName → GeneralName
  | mail given => .mail given.text
  | dns given => .dns given.text
  | uri given => .uri given.text
  | address octets => .address octets
  | other _ _ | x400 _ | directory _ | ediParty _ | registered _ => .other

def dns? : WrittenName → Option String
  | dns given => some given.text
  | _ => none

def uri? : WrittenName → Option String
  | uri given => some given.text
  | _ => none

def mail? : WrittenName → Option String
  | mail given => some given.text
  | _ => none

def address? : WrittenName → Option Bytes
  | address octets => some octets
  | _ => none

theorem generalName_encode {name : WrittenName} (fits : Fits name.contents) :
    generalName ⟨headerOf name.tag name.contents, name.contents⟩ = .ok name.meaning := by
  cases name with
  | mail given | dns given | uri given =>
      simp only [generalName, headerOf, tag, contents, meaning, UInt8.reduceToNat, Nat.reduceMod,
        given.nameText_octets]
      rfl
  | x400 _ | ediParty _ | address _ | registered _ =>
      simp only [generalName, headerOf, tag, contents, meaning, UInt8.reduceToNat, Nat.reduceMod]
      rfl
  | other id value =>
      have within : (encodeOid id).length ≤ (encodeOid id ++ Asn1.encode 0xA0 value).length := by
        simp
      have read := readOid_encode (Nat.lt_of_le_of_lt within fits) (Asn1.encode 0xA0 value)
      simp only [generalName, headerOf, tag, contents, meaning, UInt8.reduceToNat, Nat.reduceMod,
        read]
      rfl
  | directory parts =>
      obtain ⟨name, read⟩ := readName_encode fits.inside []
      rw [List.append_nil] at read
      simp only [generalName, headerOf, tag, contents, meaning, UInt8.reduceToNat, Nat.reduceMod,
        read]
      rfl

theorem readsOff_encode {name : WrittenName} (fits : Fits name.encode) :
    ReadsOff readGeneralName name.encode name.meaning := by
  have low : name.tag.toNat % 32 ≠ 31 := by
    cases name <;> simp [tag]
  refine ⟨List.cons_ne_nil _ _, fun behind => ?_⟩
  have read := readElement_encode low fits.inside behind
  simp only [readGeneralName, Outcome.bind_eq_ok, lift_eq_ok, Outcome.mapError_eq_ok]
  exact ⟨_, read, _, generalName_encode fits.inside, rfl⟩

end WrittenName

/-! ## Distribution points -/

/-- How a distribution point is named: in full, or relative to the issuer of the list. -/
inductive PointName where
  | full (names : List WrittenName)
  | relative (attributes : Bytes)

namespace PointName

def encode : PointName → Bytes
  | full names => Asn1.encode 0xA0 (names.map WrittenName.encode).flatten
  | relative attributes => Asn1.encode 0xA1 attributes

def names : PointName → List WrittenName
  | full names => names
  | relative _ => []

variable {name : PointName}

/-- Names in full are read, and a relative name adds none, be it readable or not. -/
theorem pointName_encode (fits : Fits name.encode) :
    (Extension.pointName name.encode).toOption.getD [] = name.names.map WrittenName.meaning := by
  cases name with
  | full names =>
      have fits : Fits (names.map WrittenName.encode).flatten := fits.inside
      have each (one : WrittenName) (member : one ∈ names) :
          ReadsOff readGeneralName one.encode one.meaning :=
        WrittenName.readsOff_encode (fits.of_flatten (List.mem_map_of_mem member))
      have headed :
          readHeader (Asn1.encode 0xA0 (names.map WrittenName.encode).flatten ++ []) = _ :=
        readHeader_encode (by decide) fits []
      have listed := readMany_flatten each (Nat.le_refl _)
      rw [List.append_nil, List.append_nil] at headed
      have numbered : (headerOf 0xA0 (names.map WrittenName.encode).flatten).tag = 0 := rfl
      simp only [Extension.pointName, encode, headed, lift, Except.mapError, bind, Except.bind,
        numbered, listed]
      cases names <;> rfl
  | relative attributes =>
      have headed : readHeader (Asn1.encode 0xA1 attributes ++ []) = _ :=
        readHeader_encode (by decide) fits.inside []
      rw [List.append_nil, List.append_nil] at headed
      have numbered : (headerOf 0xA1 attributes).tag = 1 := rfl
      simp only [Extension.pointName, encode, headed, lift, Except.mapError, bind, Except.bind,
        numbered]
      cases readNamePart attributes <;> rfl

end PointName

/-- Of the first part of a point, the tag tells whether it is the name. -/
theorem readPoint_cons {tag : UInt8} {contents : Bytes} {others : List Bytes}
    (low : tag.toNat % 32 ≠ 31) (contextual : TagClass.ofOctet tag = .contextSpecific)
    (fits : Fits (encodeSequence (Asn1.encode tag contents :: others))) (behind : Bytes) :
    Extension.readPoint (encodeSequence (Asn1.encode tag contents :: others) ++ behind) =
      .ok (if tag.toNat % 32 = 0 then (Extension.pointName contents).toOption.getD [] else [],
        behind) := by
  have fitsPart : Fits (Asn1.encode tag contents) := fits.part List.mem_cons_self
  have headed := readHeader_encode low fitsPart.inside others.flatten
  have classed : (headerOf tag contents).tagClass = .contextSpecific := contextual
  have enough : ¬ (contents ++ others.flatten).length < (headerOf tag contents).count :=
    Nat.not_lt.2 (List.length_append ▸ Nat.le_add_right _ _)
  have taken : (contents ++ others.flatten).take (headerOf tag contents).count = contents :=
    List.take_left
  rw [Extension.readPoint, readSequence_encode fits, List.flatten_cons]
  refine ⟨?_, rfl⟩
  by_cases named : tag.toNat % 32 = 0
  · have expected : expectTag 0 (headerOf tag contents) = .ok () := if_pos named
    simp only [headed, lift, refuse, Except.mapError, bind, Except.bind, enough, if_false, classed,
      ne_eq, not_true_eq_false, expected, taken, named, if_true]
    cases Extension.pointName contents <;> rfl
  · have refused : expectTag 0 (headerOf tag contents) =
        .error (.unexpectedTag (some 0) (tag.toNat % 32)) :=
      if_neg named
    simp only [headed, lift, refuse, Except.mapError, bind, Except.bind, enough, if_false, classed,
      ne_eq, not_true_eq_false, refused, named]

/-- A distribution point: its name, the reasons that its list is for, and who issues the
list.  Each of them may be left out. -/
structure WrittenPoint where
  name : Option PointName
  reasons : Option Bytes
  issuer : Option Bytes

namespace WrittenPoint

def parts (point : WrittenPoint) : List Bytes :=
  tagged 0xA0 (point.name.map PointName.encode) ++ tagged 0x81 point.reasons ++
    tagged 0xA2 point.issuer

def encode (point : WrittenPoint) : Bytes := encodeSequence point.parts

def names (point : WrittenPoint) : List WrittenName := (point.name.map PointName.names).getD []

def meaning (point : WrittenPoint) : List GeneralName := point.names.map WrittenName.meaning

theorem readsOff_encode {point : WrittenPoint} (fits : Fits point.encode) :
    ReadsOff Extension.readPoint point.encode point.meaning := by
  refine ⟨List.cons_ne_nil _ _, fun behind => ?_⟩
  obtain ⟨name, reasons, issuer⟩ := point
  cases name with
  | some name =>
      have fitsName : Fits (Asn1.encode 0xA0 name.encode) := fits.part List.mem_cons_self
      have numbered : (0xA0 : UInt8).toNat % 32 = 0 := by decide
      have read := readPoint_cons (by decide) (by decide) fits behind
      rw [if_pos numbered, name.pointName_encode fitsName.inside] at read
      exact read
  | none =>
      -- neither the reasons nor the issuer is taken for the name
      cases reasons with
      | some reasons => exact readPoint_cons (by decide) (by decide) fits behind
      | none =>
          cases issuer with
          | some issuer => exact readPoint_cons (by decide) (by decide) fits behind
          | none => exact (readSequence_encode fits).2 ⟨rfl, rfl⟩

end WrittenPoint

/-! ## Access descriptions -/

/-- An access description: a method and the place where it is offered. -/
structure WrittenAccess where
  method : Arcs
  location : WrittenName

namespace WrittenAccess

def encode (access : WrittenAccess) : Bytes :=
  encodeSequence [encodeOid access.method.oid, access.location.encode]

def meaning (access : WrittenAccess) : Oid × GeneralName :=
  (access.method.oid, access.location.meaning)

theorem readsOff_encode {access : WrittenAccess} (fits : Fits access.encode) :
    ReadsOff Extension.readAccess access.encode access.meaning := by
  refine ⟨List.cons_ne_nil _ _, fun behind => ?_⟩
  have method := readOid_encode (fits.part List.mem_cons_self) access.location.encode
  obtain ⟨-, location⟩ := access.location.readsOff_encode (fits.part (by simp))
  have location := location []
  rw [List.append_nil] at location
  refine (readSequence_encode fits).2 ⟨?_, rfl⟩
  simp only [List.flatten_cons, List.flatten_nil, List.append_nil, Outcome.bind_eq_ok, lift_eq_ok]
  exact ⟨_, method, _, location, rfl⟩

end WrittenAccess

/-! ## Values of other types -/

/-- The types of the three extensions that are lists of such entries. -/
def listTypes : List Oid :=
  [Extension.alternativeNamesId, Extension.distributionPointsId, Extension.authorityAccessId]

def namesOf : ExtensionValue → List GeneralName
  | .alternativeNames names => names
  | _ => []

def pointsOf : ExtensionValue → List (List GeneralName)
  | .distributionPoints points => points
  | _ => []

def descriptionsOf : ExtensionValue → List (Oid × GeneralName)
  | .authorityAccess descriptions => descriptions
  | _ => []

/-- A value that lists nothing. -/
structure IsPlain (value : ExtensionValue) : Prop where
  names : namesOf value = []
  points : pointsOf value = []
  descriptions : descriptionsOf value = []

theorem isPlain_getD {outcome : Except (Failure Fault) ExtensionValue}
    (plain : ∀ result, outcome = .ok result → IsPlain result) :
    IsPlain (outcome.toOption.getD .unreadable) := by
  cases outcome with
  | error failure => exact ⟨rfl, rfl, rfl⟩
  | ok result => exact plain result rfl

theorem isPlain_of_keyUsage {bytes : Bytes} {result : ExtensionValue}
    (decoded : Extension.keyUsage bytes = .ok result) : IsPlain result := by
  simp only [Extension.keyUsage, Outcome.bind_eq_ok] at decoded
  obtain ⟨⟨node, rest⟩, -, decoded⟩ := decoded
  split at decoded
  · obtain rfl := Except.ok.inj decoded
    exact ⟨rfl, rfl, rfl⟩
  · cases decoded

theorem isPlain_of_extendedKeyUsage {bytes : Bytes} {result : ExtensionValue}
    (decoded : Extension.extendedKeyUsage bytes = .ok result) : IsPlain result := by
  simp only [Extension.extendedKeyUsage, Outcome.bind_eq_ok, Outcome.pure_eq_ok] at decoded
  obtain ⟨_, -, _, -, purposes, -, rfl⟩ := decoded
  exact ⟨rfl, rfl, rfl⟩

theorem isPlain_of_basicConstraints {bytes : Bytes} {result : ExtensionValue}
    (decoded : Extension.basicConstraints bytes = .ok result) : IsPlain result := by
  simp only [Extension.basicConstraints, Outcome.bind_eq_ok] at decoded
  obtain ⟨_, -, parts, -, decoded⟩ := decoded
  split at decoded
  · obtain rfl := Except.ok.inj decoded
    exact ⟨rfl, rfl, rfl⟩
  · split at decoded
    · obtain rfl := Except.ok.inj decoded
      exact ⟨rfl, rfl, rfl⟩
    · simp only [Outcome.bind_eq_ok, Outcome.pure_eq_ok] at decoded
      obtain ⟨_, -, rfl⟩ := decoded
      exact ⟨rfl, rfl, rfl⟩
  · simp only [Outcome.bind_eq_ok, Outcome.pure_eq_ok] at decoded
    obtain ⟨_, -, _, -, rfl⟩ := decoded
    exact ⟨rfl, rfl, rfl⟩
  · cases decoded

/-- An extension of another type decodes to none of the three lists. -/
theorem isPlain_decodeValue {id : Oid} (foreign : id ∉ listTypes) (octets : Bytes) :
    IsPlain (Extension.decodeValue id octets) := by
  simp only [listTypes, List.mem_cons, List.not_mem_nil, or_false, not_or] at foreign
  obtain ⟨names, points, access⟩ := foreign
  simp only [Extension.decodeValue, Extension.decoder?, names, points, access, if_false]
  split
  · exact ⟨rfl, rfl, rfl⟩
  · rename_i decode chosen
    apply isPlain_getD
    intro result decoded
    split at chosen
    · cases chosen
      exact isPlain_of_keyUsage decoded
    · split at chosen
      · cases chosen
        exact isPlain_of_extendedKeyUsage decoded
      · split at chosen
        · cases chosen
          exact isPlain_of_basicConstraints decoded
        · cases chosen

/-! ## Extensions -/

/-- What an extension lists, if it is of one of the three types, and otherwise its
identifier and its value. -/
inductive Listing where
  | alternativeNames (names : List WrittenName)
  | distributionPoints (points : List WrittenPoint)
  | authorityAccess (descriptions : List WrittenAccess)
  | other (id : Oid) (value : Bytes) (foreign : id ∉ listTypes)

namespace Listing

def id : Listing → Oid
  | alternativeNames _ => Extension.alternativeNamesId
  | distributionPoints _ => Extension.distributionPointsId
  | authorityAccess _ => Extension.authorityAccessId
  | other id _ _ => id

def value : Listing → Bytes
  | alternativeNames names => encodeSequence (names.map WrittenName.encode)
  | distributionPoints points => encodeSequence (points.map WrittenPoint.encode)
  | authorityAccess descriptions => encodeSequence (descriptions.map WrittenAccess.encode)
  | other _ value _ => value

def names : Listing → List WrittenName
  | alternativeNames names => names
  | _ => []

def points : Listing → List WrittenPoint
  | distributionPoints points => points
  | _ => []

def descriptions : Listing → List WrittenAccess
  | authorityAccess descriptions => descriptions
  | _ => []

def meaning : Listing → ExtensionValue
  | alternativeNames names => .alternativeNames (names.map WrittenName.meaning)
  | distributionPoints points => .distributionPoints (points.map WrittenPoint.meaning)
  | authorityAccess descriptions => .authorityAccess (descriptions.map WrittenAccess.meaning)
  | other id value _ => Extension.decodeValue id value

/-- The value of an extension is decoded to what it lists. -/
theorem decodeValue_value {listing : Listing} (fits : Fits listing.value) :
    Extension.decodeValue listing.id listing.value = listing.meaning := by
  cases listing with
  | alternativeNames names =>
      have read := readListOf_encode fits (fun _ => WrittenName.readsOff_encode) []
      rw [List.append_nil] at read
      change (Extension.alternativeNames (encodeSequence _)).toOption.getD _ = _
      rw [Extension.alternativeNames, read]
      rfl
  | distributionPoints points =>
      have read := readListOf_encode fits (fun _ => WrittenPoint.readsOff_encode) []
      rw [List.append_nil] at read
      change (Extension.distributionPoints (encodeSequence _)).toOption.getD _ = _
      rw [Extension.distributionPoints, read]
      rfl
  | authorityAccess descriptions =>
      have read := readListOf_encode fits (fun _ => WrittenAccess.readsOff_encode) []
      rw [List.append_nil] at read
      change (Extension.authorityAccess (encodeSequence _)).toOption.getD _ = _
      rw [Extension.authorityAccess, read]
      rfl
  | other id value foreign => rfl

theorem namesOf_meaning (listing : Listing) :
    namesOf listing.meaning = listing.names.map WrittenName.meaning := by
  cases listing with
  | other id value foreign => exact (isPlain_decodeValue foreign value).names
  | _ => rfl

theorem pointsOf_meaning (listing : Listing) :
    pointsOf listing.meaning = listing.points.map WrittenPoint.meaning := by
  cases listing with
  | other id value foreign => exact (isPlain_decodeValue foreign value).points
  | _ => rfl

theorem descriptionsOf_meaning (listing : Listing) :
    descriptionsOf listing.meaning = listing.descriptions.map WrittenAccess.meaning := by
  cases listing with
  | other id value foreign => exact (isPlain_decodeValue foreign value).descriptions
  | _ => rfl

end Listing

/-- An extension with what it lists, critical or not. -/
structure ListedExtension where
  critical : Option UInt8
  listing : Listing

namespace ListedExtension

def written (listed : ListedExtension) : WrittenExtension :=
  ⟨listed.listing.id, listed.critical, listed.listing.value⟩

theorem value_meaning {listed : ListedExtension} (fits : Fits listed.written.encode) :
    listed.written.meaning.value = listed.listing.meaning := by
  have fitsValue : Fits (encodeOctetString listed.listing.value) := fits.part (by simp [written])
  exact Listing.decodeValue_value fitsValue.inside

end ListedExtension

end CertScope.X509.Encoding
