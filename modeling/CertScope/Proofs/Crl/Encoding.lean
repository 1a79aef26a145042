import CertScope.Proofs.Crl.Walk
import CertScope.Proofs.X509.Encoding

/-!
# Written revocation lists

A revocation list, as RFC 5280 has it written: any entries in any order, in the first or the
second version.  What may be left out is optional here, and what the reader passes over,
such as the name of the issuer and the extensions of an entry, consists of any bytes.
The list is read back with the entries that it was written with.
-/

namespace CertScope.Crl.Encoding

open Asn1 X509
open X509.Encoding
open Ocsp.Encoding (Algorithm tagged)
open Strict (headerOf)

variable {rest : Bytes}

/-! ## Entries -/

/-- An entry: a serial number, the second from which it is revoked, and the extensions of the
entry, if it has any. -/
structure Entry where
  serial : Bytes
  since : Time
  extensions : Bytes

namespace Entry

def encode (entry : Entry) : Bytes :=
  encodeSequence [encodeInteger entry.serial, entry.since.encode, entry.extensions]

def meaning (entry : Entry) : RevokedEntry := ⟨entry.serial, entry.since.moment.seconds⟩

theorem readsOff_encode {entry : Entry} (fits : Fits entry.encode) :
    ReadsOff RevocationList.readEntry entry.encode entry.meaning := by
  refine ⟨List.cons_ne_nil _ _, fun behind => ?_⟩
  have serial := readSerial_encode (fits.part List.mem_cons_self)
    (entry.since.encode ++ entry.extensions)
  refine (readSequence_encode fits).2 ⟨?_, rfl⟩
  simp only [List.flatten_cons, List.flatten_nil, List.append_nil, Outcome.bind_eq_ok]
  exact ⟨_, serial, _, entry.since.readDate_encode _, rfl⟩

end Entry

/-! ## Signed parts -/

/-- The first version is not written. -/
inductive Version where
  | first
  | second

def Version.parts : Version → List Bytes
  | first => []
  | second => [encodeInteger [1]]

/-- The part of a list that is signed. -/
structure SignedPart where
  version : Version
  algorithm : Algorithm
  issuer : Bytes
  thisUpdate : Time
  nextUpdate : Option Time
  entries : Option (List Entry)
  extensions : Option (List WrittenExtension)

namespace SignedPart

def extensionParts (signed : SignedPart) : List Bytes :=
  tagged 0xA0 (signed.extensions.map fun extensions =>
    encodeSequence (extensions.map WrittenExtension.encode))

def lastParts (signed : SignedPart) : List Bytes :=
  (signed.entries.map fun entries => encodeSequence (entries.map Entry.encode)).toList ++
    signed.extensionParts

def parts (signed : SignedPart) : List Bytes :=
  signed.version.parts ++
    [signed.algorithm.encode, Asn1.encode 0x30 signed.issuer, signed.thisUpdate.encode] ++
    (signed.nextUpdate.map Time.encode).toList ++ signed.lastParts

def encode (signed : SignedPart) : Bytes := encodeSequence signed.parts

/-- The contents of the first of the last parts, if there is any. -/
def nextContents (signed : SignedPart) : Option Bytes :=
  match signed.entries with
  | some entries => some (entries.map Entry.encode).flatten
  | none => signed.extensions.map fun extensions =>
      encodeSequence (extensions.map WrittenExtension.encode)

/-- The parameters of the algorithm can be read, and what stands in the place of the time of
the next list is not too long to be looked at. -/
structure IsReadable (signed : SignedPart) : Prop where
  algorithm : HasValue signed.algorithm
  nextContents : signed.nextUpdate = none →
    ∀ contents ∈ signed.nextContents, contents.length ≤ RevocationList.maxLength

def meaning (signed : SignedPart) : List RevokedEntry :=
  (signed.entries.getD []).map Entry.meaning

end SignedPart

/-! ## Fields -/

theorem skipVersion_parts (version : Version) {algorithm : Algorithm}
    (fits : Fits algorithm.encode) :
    RevocationList.skipVersion (version.parts.flatten ++ (algorithm.encode ++ rest)) =
      .ok (algorithm.encode ++ rest) := by
  cases version with
  | first =>
      have read : readElement (algorithm.encode ++ rest) = _ :=
        readElement_encode (by decide) fits.inside rest
      have refused : ∃ why, readUInt32 (algorithm.encode ++ rest) = .error (.refused why) := by
        rw [readUInt32, read]
        exact ⟨_, rfl⟩
      obtain ⟨why, refused⟩ := refused
      change RevocationList.skipVersion (algorithm.encode ++ rest) = _
      rw [RevocationList.skipVersion, refused]
  | second =>
      have single : Fits [1] := by simp [Fits]
      have read : readElement (encodeInteger [1] ++ (algorithm.encode ++ rest)) = _ :=
        readElement_encode (by decide) single (algorithm.encode ++ rest)
      have number : readUInt32 (encodeInteger [1] ++ (algorithm.encode ++ rest)) =
          .ok (1, algorithm.encode ++ rest) := by
        rw [readUInt32, read]
        rfl
      change RevocationList.skipVersion (encodeInteger [1] ++ (algorithm.encode ++ rest)) = _
      rw [RevocationList.skipVersion, number]

/-- A value that is no time is left for the next field, unless it is too long. -/
theorem skipNextUpdate_encode {tag : UInt8} {contents left : Bytes}
    (low : tag.toNat % 32 ≠ 31) (short : tag.toNat % 32 ≠ Tag.utcTime)
    (long : tag.toNat % 32 ≠ Tag.generalizedTime) (fits : Fits contents) :
    RevocationList.skipNextUpdate (encode tag contents ++ rest) = .ok left ↔
      contents.length ≤ RevocationList.maxLength ∧ left = encode tag contents ++ rest := by
  have element := readElement_encode low fits rest
  have headed := readHeader_encode low fits rest
  have untimed : readCivilTime? (encode tag contents ++ rest) = none := by
    simp only [readCivilTime?, element, headerOf, short, long, if_false]
  have filled : (encode tag contents ++ rest).isEmpty = false := rfl
  have tagged : (headerOf tag contents).tag ≠ Tag.utcTime := short
  have counted : (headerOf tag contents).count = contents.length := rfl
  simp only [RevocationList.skipNextUpdate, filled, Bool.false_eq_true, if_false, untimed, headed,
    counted, tagged, or_false, ite_eq_iff, reduceCtorEq, and_false, false_or, Except.ok.injEq,
    Nat.not_lt]
  exact and_congr_right fun _ => eq_comm

theorem skipNextUpdate_time (time : Time) (rest : Bytes) :
    RevocationList.skipNextUpdate (time.encode ++ rest) = .ok rest := by
  simp only [RevocationList.skipNextUpdate, time.isEmpty_encode, Bool.false_eq_true, if_false,
    time.readCivilTime?_encode, time.moment.seconds?_civil, Option.isSome_some, if_true]

namespace SignedPart

variable {signed : SignedPart}

/-- The last parts begin with the entries or with the extensions, if there are any. -/
theorem lastParts_eq (signed : SignedPart) :
    (signed.nextContents = none ∧ signed.lastParts = []) ∨
      ∃ tag ∈ [0x30, 0xA0], ∃ contents others, signed.nextContents = some contents ∧
        signed.lastParts = Asn1.encode tag contents :: others := by
  obtain ⟨version, algorithm, issuer, thisUpdate, nextUpdate, entries, extensions⟩ := signed
  cases entries with
  | some entries => exact .inr ⟨0x30, by simp, _, _, rfl, rfl⟩
  | none =>
      cases extensions with
      | some extensions => exact .inr ⟨0xA0, by simp, _, _, rfl, rfl⟩
      | none => exact .inl ⟨rfl, rfl⟩

/-- The time of the next list is passed over if it is there. -/
theorem skipNextUpdate_lastParts {left : Bytes} (fits : ∀ part ∈ signed.lastParts, Fits part) :
    RevocationList.skipNextUpdate
        ((signed.nextUpdate.map Time.encode).toList.flatten ++ signed.lastParts.flatten) =
      .ok left ↔
      (signed.nextUpdate = none →
        ∀ contents ∈ signed.nextContents, contents.length ≤ RevocationList.maxLength) ∧
      left = signed.lastParts.flatten := by
  cases signed.nextUpdate with
  | some time =>
      simp only [Option.map_some, Option.toList_some, List.flatten_cons, List.flatten_nil,
        List.append_nil, reduceCtorEq, false_implies, true_and, skipNextUpdate_time,
        Except.ok.injEq]
      exact eq_comm
  | none =>
      simp only [Option.map_none, Option.toList_none, List.flatten_nil, List.nil_append,
        forall_const]
      obtain ⟨missing, nothing⟩ | ⟨tag, known, contents, others, next, parts⟩ :=
        signed.lastParts_eq
      · simp [missing, nothing, RevocationList.skipNextUpdate, eq_comm]
      · have fitsNext : Fits contents :=
          (fits (Asn1.encode tag contents) (by simp [parts])).inside
        rw [parts, List.flatten_cons, next]
        simp only [Option.mem_some_iff, forall_eq']
        obtain rfl | rfl : tag = 0x30 ∨ tag = 0xA0 := by simpa using known
        · exact skipNextUpdate_encode (by decide) (by decide) (by decide) fitsNext
        · exact skipNextUpdate_encode (by decide) (by decide) (by decide) fitsNext

/-- The entries are read if they are there, and the extensions are not taken for them. -/
theorem readEntries_lastParts (fits : ∀ part ∈ signed.lastParts, Fits part) :
    RevocationList.readEntries signed.lastParts.flatten =
      (signed.meaning, signed.extensionParts.flatten) := by
  obtain ⟨version, algorithm, issuer, thisUpdate, nextUpdate, entries, extensions⟩ := signed
  cases entries with
  | some entries =>
      have fitsEntries : Fits (encodeSequence (entries.map Entry.encode)) :=
        fits _ List.mem_cons_self
      have read := readListOf_encode fitsEntries (fun _ => Entry.readsOff_encode)
      change RevocationList.readEntries (encodeSequence (entries.map Entry.encode) ++ _) = _
      rw [RevocationList.readEntries, read]
      rfl
  | none =>
      cases extensions with
      | none => rfl
      | some extensions =>
          have fitsExtensions : Fits (Asn1.encode 0xA0
              (encodeSequence (extensions.map WrittenExtension.encode))) :=
            fits _ List.mem_cons_self
          obtain ⟨failure, refused⟩ : ∃ failure,
              readContainer Tag.sequence (readList RevocationList.readEntry)
                (Asn1.encode 0xA0 (encodeSequence (extensions.map WrittenExtension.encode)) ++
                  []) = .error failure :=
            readContainer_foreign (by decide) (by decide) fitsExtensions.inside
          change RevocationList.readEntries (Asn1.encode 0xA0 _ ++ []) = _
          rw [RevocationList.readEntries, refused]
          rfl

theorem exists_ofExplicit (fits : ∀ part ∈ signed.lastParts, Fits part) :
    ∃ extensions, Extension.ofExplicit 0 signed.extensionParts.flatten = .ok extensions := by
  obtain ⟨version, algorithm, issuer, thisUpdate, nextUpdate, entries, extensions⟩ := signed
  cases extensions with
  | none => exact ⟨[], rfl⟩
  | some extensions =>
      have fitsExtensions : Fits (Asn1.encode 0xA0
          (encodeSequence (extensions.map WrittenExtension.encode))) :=
        fits _ (by simp [lastParts, extensionParts, tagged])
      refine ⟨extensions.map WrittenExtension.meaning, ?_⟩
      have explicit : Extension.ofExplicit 0 _ = _ :=
        WrittenExtension.ofExplicit_encode (by decide) fitsExtensions
      simpa [extensionParts, tagged] using explicit

/-- The fields are read exactly if they are readable, and the entries are those written. -/
theorem readFields_parts (fits : Fits signed.encode) :
    ∃ issuer, ∀ list, RevocationList.readFields signed.parts.flatten = .ok list ↔
      signed.IsReadable ∧ list = ⟨issuer, signed.meaning⟩ := by
  have part (bytes : Bytes) (member : bytes ∈ signed.parts) : Fits bytes := fits.part member
  have fitsAlgorithm : Fits signed.algorithm.encode := part _ (by simp [parts])
  have fitsIssuer : Fits (Asn1.encode 0x30 signed.issuer) := part _ (by simp [parts])
  have fitsLast : ∀ bytes ∈ signed.lastParts, Fits bytes := fun bytes member =>
    part bytes (by simp [parts, member])
  obtain ⟨issuer, named⟩ := readName_encode fitsIssuer.inside
    (signed.thisUpdate.encode ++
      ((signed.nextUpdate.map Time.encode).toList.flatten ++ signed.lastParts.flatten))
  have dated := signed.thisUpdate.readDate_encode
    ((signed.nextUpdate.map Time.encode).toList.flatten ++ signed.lastParts.flatten)
  have entries := readEntries_lastParts fitsLast
  obtain ⟨extensions, explicit⟩ := exists_ofExplicit fitsLast
  -- every field leaves what was written behind it, so that the next begins there
  have split : signed.parts.flatten =
      signed.version.parts.flatten ++ (signed.algorithm.encode ++
        (Asn1.encode 0x30 signed.issuer ++ (signed.thisUpdate.encode ++
          ((signed.nextUpdate.map Time.encode).toList.flatten ++
            signed.lastParts.flatten)))) := by
    simp [parts]
  refine ⟨issuer, fun list => ?_⟩
  rw [split]
  simp only [RevocationList.readFields, skipVersion_parts _ fitsAlgorithm, Outcome.bind_eq_ok,
    Except.ok.injEq, exists_eq_left', Outcome.pure_eq_ok]
  constructor
  · rintro ⟨⟨algorithm, behindAlgorithm⟩, readAlgorithm, ⟨name, behindName⟩, readName,
      ⟨date, behindDate⟩, readDate, behindUpdate, skipped, _, -, rfl⟩
    obtain ⟨hasValue, rfl⟩ := (readAlgorithm_encode fitsAlgorithm).1 ⟨_, readAlgorithm⟩
    obtain ⟨rfl, rfl⟩ := Prod.mk.inj (Except.ok.inj (named.symm.trans readName))
    obtain ⟨rfl, rfl⟩ := Prod.mk.inj (Except.ok.inj (dated.symm.trans readDate))
    obtain ⟨short, rfl⟩ := (skipNextUpdate_lastParts fitsLast).1 skipped
    exact ⟨⟨hasValue, short⟩, by rw [entries]⟩
  · rintro ⟨⟨hasValue, short⟩, rfl⟩
    obtain ⟨algorithm, readAlgorithm⟩ := (readAlgorithm_encode fitsAlgorithm).2 ⟨hasValue, rfl⟩
    refine ⟨_, readAlgorithm, _, named, _, dated, _,
      (skipNextUpdate_lastParts fitsLast).2 ⟨short, rfl⟩, extensions, ?_, ?_⟩
    · rw [entries]
      exact explicit
    · rw [entries]

end SignedPart

/-! ## Lists -/

/-- A list with its signature. -/
structure SignedList where
  signed : SignedPart
  algorithm : Algorithm
  signature : Signature

namespace SignedList

variable {crl : SignedList}

def encode (crl : SignedList) : Bytes :=
  encodeSequence [crl.signed.encode, crl.algorithm.encode, crl.signature.encode]

/-- The signed part can be read, and so can the parameters of the algorithm. -/
structure IsReadable (crl : SignedList) : Prop where
  signed : crl.signed.IsReadable
  algorithm : HasValue crl.algorithm

/-- A list is read exactly if it is readable, whatever stands behind it. -/
theorem read_encode (fits : Fits crl.encode) :
    ∃ issuer, ∀ behind list left,
      RevocationList.read (crl.encode ++ behind) = .ok (list, left) ↔
        crl.IsReadable ∧ list = ⟨issuer, crl.signed.meaning⟩ ∧ left = behind := by
  have fitsSigned : Fits crl.signed.encode := fits.part (by simp)
  have fitsAlgorithm : Fits crl.algorithm.encode := fits.part (by simp)
  have fitsSignature : Fits crl.signature.encode := fits.part (by simp)
  obtain ⟨issuer, fields⟩ := SignedPart.readFields_parts fitsSigned
  have signed := Signature.readBitString_encode fitsSignature []
  rw [List.append_nil] at signed
  refine ⟨issuer, fun behind list left => ?_⟩
  rw [RevocationList.read, encode, readSequence_encode fits]
  simp only [List.flatten_cons, List.flatten_nil, List.append_nil, Outcome.bind_eq_ok,
    orElse_eq_ok, Outcome.pure_eq_ok]
  constructor
  · rintro ⟨⟨⟨found, behindSigned⟩, readSigned, ⟨algorithm, behindAlgorithm⟩, readAlgorithm,
      _, -, rfl⟩, rfl⟩
    obtain ⟨inner, rfl⟩ := (readSequence_encode fitsSigned).1 readSigned
    obtain ⟨readable, rfl⟩ := (fields found).1 inner
    obtain ⟨hasValue, rfl⟩ := (readAlgorithm_encode fitsAlgorithm).1 ⟨_, readAlgorithm⟩
    exact ⟨⟨readable, hasValue⟩, rfl, rfl⟩
  · rintro ⟨⟨readable, hasValue⟩, rfl, rfl⟩
    obtain ⟨algorithm, readAlgorithm⟩ := (readAlgorithm_encode fitsAlgorithm).2 ⟨hasValue, rfl⟩
    have readSigned (rest : Bytes) :
        readContainer Tag.sequence RevocationList.readFields (crl.signed.encode ++ rest) =
          .ok (⟨issuer, crl.signed.meaning⟩, rest) :=
      (readSequence_encode fitsSigned).2 ⟨(fields _).2 ⟨readable, rfl⟩, rfl⟩
    exact ⟨⟨_, readSigned _, _, readAlgorithm, _, signed, rfl⟩, rfl⟩

/-- Some entry has a serial number of that value and counts from that instant on. -/
def Names (crl : SignedList) (number : Nat) (since : Instant) : Prop :=
  ∃ entries ∈ crl.signed.entries, ∃ entry ∈ entries,
    Bytes.value entry.serial = number ∧ entry.since.moment.instant = since

/-- The list that is read revokes what the written list names by that time. -/
theorem revokes_iff_names {list : RevocationList} {serial : Bytes} {now : Instant}
    (entries : list.entries = crl.signed.meaning) :
    list.revokes serial now = true ↔ ∃ since ≤ now, crl.Names (Bytes.value serial) since := by
  rw [revokes_iff, entries, SignedPart.meaning]
  constructor
  · rintro ⟨_, member, same, begun⟩
    obtain ⟨entry, among, rfl⟩ := List.mem_map.1 member
    obtain ⟨entries, given, within⟩ : ∃ entries ∈ crl.signed.entries, entry ∈ entries := by
      cases given : crl.signed.entries with
      | none => simp [given] at among
      | some entries => exact ⟨entries, rfl, by simpa [given] using among⟩
    exact ⟨_, Instant.ofSeconds_le_iff.2 begun, entries, given, entry, within, same, rfl⟩
  · rintro ⟨_, begun, entries, given, entry, within, same, rfl⟩
    refine ⟨entry.meaning, List.mem_map_of_mem ?_, same, Instant.ofSeconds_le_iff.1 begun⟩
    rw [Option.mem_def.1 given]
    exact within

end SignedList

/-- A written list is read exactly if it is readable, and what was read revokes a serial
number at a time if and only if some entry has that number and counts from no later time.
Lists that name the same numbers from the same times give the same answers, and so do
serial numbers of the same value. -/
theorem revokes_written {crl : SignedList} (fits : Fits crl.encode) (behind : Bytes) :
    ((∃ list, RevocationList.read (crl.encode ++ behind) = .ok (list, behind)) ↔
      crl.IsReadable) ∧
    ∀ list left, RevocationList.read (crl.encode ++ behind) = .ok (list, left) →
      (∀ serial now, list.revokes serial now = true ↔
        ∃ since ≤ now, crl.Names (Bytes.value serial) since) ∧
      ∀ (other : SignedList) (otherBehind otherLeft : Bytes) (otherList : RevocationList),
        Fits other.encode →
        RevocationList.read (other.encode ++ otherBehind) = .ok (otherList, otherLeft) →
        (∀ number since, other.Names number since ↔ crl.Names number since) →
        ∀ serial otherSerial now, Bytes.value otherSerial = Bytes.value serial →
          otherList.revokes otherSerial now = list.revokes serial now := by
  obtain ⟨issuer, reads⟩ := SignedList.read_encode fits
  refine ⟨⟨fun ⟨list, read⟩ => ((reads _ _ _).1 read).1,
    fun readable => ⟨_, (reads _ _ _).2 ⟨readable, rfl, rfl⟩⟩⟩, fun list left read => ?_⟩
  obtain ⟨-, rfl, -⟩ := (reads _ _ _).1 read
  refine ⟨fun serial now => SignedList.revokes_iff_names rfl, ?_⟩
  intro other otherBehind otherLeft otherList otherFits otherRead names serial otherSerial now same
  obtain ⟨otherIssuer, otherReads⟩ := SignedList.read_encode otherFits
  obtain ⟨-, rfl, -⟩ := (otherReads _ _ _).1 otherRead
  rw [Bool.eq_iff_iff, SignedList.revokes_iff_names rfl, SignedList.revokes_iff_names rfl, same]
  simp only [names]

/-- A list with some entries and without extensions. -/
def listOf (entries : List Entry) : SignedList where
  signed :=
    { version := .second
      algorithm := ⟨⟨[0x2A, 0x03]⟩, some encodeNull⟩
      issuer := []
      thisUpdate := .long ⟨1577836800, by decide, by decide⟩
      nextUpdate := none
      entries := some entries
      extensions := none }
  algorithm := ⟨⟨[0x2A, 0x03]⟩, none⟩
  signature := ⟨0, [0x01], by decide, by decide, by decide⟩

def later : Entry :=
  ⟨[0x10, 0x01], .short ⟨1893456000, by decide, by decide⟩ ⟨by decide, by decide⟩, []⟩

/-- An entry for the same number that counts from 2020 on. -/
def sooner : Entry := ⟨[0x00, 0x10, 0x01], .long ⟨1577836800, by decide, by decide⟩, []⟩

theorem isReadable_listOf {entries : List Entry}
    (short : (entries.map Entry.encode).flatten.length ≤ RevocationList.maxLength) :
    (listOf entries).IsReadable := by
  refine ⟨⟨hasValue_encode _ (by decide) (by simp [Fits]), ?_⟩, hasValue_none _⟩
  rintro - contents ⟨⟩
  exact short

theorem names_listOf {first second : List Entry}
    (same : ∀ entry, entry ∈ first ↔ entry ∈ second) (number : Nat) (since : Instant) :
    (listOf first).Names number since ↔ (listOf second).Names number since := by
  simp only [SignedList.Names, listOf, Option.mem_some_iff, exists_eq_left', same]

/-- The entry in force is found behind one that is not yet.  A list with the entries the
other way round, and one of them twice, gives the same answer. -/
theorem revokes_written_twice :
    Fits (listOf [later, sooner]).encode ∧ Fits (listOf [sooner, later, sooner]).encode ∧
      ∃ list otherList,
        RevocationList.read ((listOf [later, sooner]).encode ++ [0xFF]) =
          .ok (list, [0xFF]) ∧
        RevocationList.read ((listOf [sooner, later, sooner]).encode ++ []) =
          .ok (otherList, []) ∧
        list.revokes [0x10, 0x01] (.ofSeconds 1577836800) = true ∧
        otherList.revokes [0x00, 0x10, 0x01] (.ofSeconds 1577836800) = true := by
  have fits : Fits (listOf [later, sooner]).encode := by decide +kernel
  have otherFits : Fits (listOf [sooner, later, sooner]).encode := by decide +kernel
  obtain ⟨accepted, answers⟩ := revokes_written fits [0xFF]
  obtain ⟨otherAccepted, -⟩ := revokes_written otherFits []
  obtain ⟨list, read⟩ := accepted.2 (isReadable_listOf (by decide +kernel))
  obtain ⟨otherList, otherRead⟩ := otherAccepted.2 (isReadable_listOf (by decide +kernel))
  obtain ⟨revokes, same⟩ := answers list _ read
  have named : (listOf [later, sooner]).Names 0x1001 (.ofSeconds 1577836800) :=
    ⟨_, rfl, sooner, by simp, rfl, rfl⟩
  have members (entry : Entry) :
      entry ∈ [sooner, later, sooner] ↔ entry ∈ [later, sooner] := by
    simp only [List.mem_cons, List.not_mem_nil, or_false]
    exact ⟨Or.rec .inr id, .inr⟩
  have revoked : list.revokes [0x10, 0x01] (.ofSeconds 1577836800) = true :=
    (revokes _ _).2 ⟨_, by decide, named⟩
  refine ⟨fits, otherFits, list, otherList, read, otherRead, revoked, ?_⟩
  exact (same _ _ _ _ otherFits otherRead (names_listOf members) _ _ _ (by decide)).trans revoked

end CertScope.Crl.Encoding
