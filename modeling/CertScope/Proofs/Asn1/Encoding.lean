import CertScope.Asn1.Encode
import CertScope.Proofs.Asn1.Strict
import CertScope.Proofs.Asn1.Tree
import CertScope.Proofs.Bytes
import Mathlib.Data.List.Forall2

/-!
# Written values read back

What the writer makes of a tag octet and contents is read off the front of any bytes that
begin with it, be its length in the short or in the long form.  A length is kept in 64
bits, so that this holds of every value that fits in a memory.  The trees of
sequences are put together from those of their elements: the reader takes the elements
one by one, and none of them looks at those behind it.
-/

namespace CertScope.Asn1

open Strict (headerOf)

variable {tag : UInt8} {contents bytes rest : Bytes} {parts : List Bytes} {depth : Nat}

/-! ## Length octets -/

theorem value_numberOctets (number : Nat) : Bytes.value (numberOctets number) = number := by
  induction number using Nat.strongRecOn with
  | ind number ih =>
      unfold numberOctets
      by_cases zero : number = 0
      · subst number
        rfl
      · have before := ih (number / 256) (by omega)
        rw [if_neg zero, Bytes.value, List.foldl_append, ← Bytes.value, before]
        simp only [List.foldl_cons, List.foldl_nil, UInt8.toNat_ofNat']
        omega

theorem length_numberOctets_le {number count : Nat} (below : number < 256 ^ count) :
    (numberOctets number).length ≤ count := by
  induction count generalizing number with
  | zero =>
      obtain rfl : number = 0 := by simpa using below
      simp [numberOctets]
  | succ count ih =>
      unfold numberOctets
      by_cases zero : number = 0
      · simp [zero]
      · have shorter : (numberOctets (number / 256)).length ≤ count := by
          apply ih
          rw [Nat.pow_succ] at below
          omega
        rw [if_neg zero, List.length_append, List.length_singleton]
        omega

theorem readLength_encodeLength {length : Nat} (verdict : Except Error Unit)
    (fits : length < 2 ^ 64) :
    readLength verdict (encodeLength length ++ rest) = .ok (.definite length, rest) := by
  unfold encodeLength
  by_cases short : length < 128
  · have octet : (UInt8.ofNat length).toNat = length := by
      rw [UInt8.toNat_ofNat']
      omega
    have small : UInt8.ofNat length < 0x80 := UInt8.lt_iff_toNat_lt.2 (by rw [octet]; exact short)
    simp only [short, if_true, List.singleton_append, readLength, small, octet]
    rfl
  · have value := value_numberOctets length
    have atMost : (numberOctets length).length ≤ 8 := length_numberOctets_le (by omega)
    have atLeast : (numberOctets length).length ≠ 0 := by
      intro empty
      rw [List.length_eq_zero_iff.1 empty] at value
      simp [Bytes.value] at value
      omega
    have octet : (UInt8.ofNat (128 + (numberOctets length).length)).toNat =
        128 + (numberOctets length).length := by
      rw [UInt8.toNat_ofNat']
      omega
    simp only [short, if_false, List.cons_append]
    nth_rewrite 3 [← value]
    apply Strict.readLength_long
    · rw [UInt8.lt_iff_toNat_lt, octet]
      simp only [UInt8.reduceToNat]
      omega
    · intro reserved
      have same := congrArg UInt8.toNat reserved
      rw [octet] at same
      simp only [UInt8.reduceToNat] at same
      omega
    · rw [octet]
      omega
    · rw [value]
      omega

/-! ## Whole values -/

/-- As many bytes as a length can count. -/
def Fits (bytes : Bytes) : Prop := bytes.length < 2 ^ 64

instance (bytes : Bytes) : Decidable (Fits bytes) :=
  inferInstanceAs (Decidable (_ < _))

theorem length_lt_encode (tag : UInt8) (contents : Bytes) :
    contents.length < (encode tag contents).length := by
  simp only [encode, List.length_cons, List.length_append]
  omega

theorem Fits.inside (fits : Fits (encode tag contents)) : Fits contents :=
  Nat.lt_trans (length_lt_encode tag contents) fits

theorem Fits.of_flatten (fits : Fits parts.flatten) {part : Bytes} (member : part ∈ parts) :
    Fits part := by
  have within : part.length ≤ parts.flatten.length :=
    (List.sublist_flatten_of_mem member).length_le
  exact Nat.lt_of_le_of_lt within fits

theorem Fits.part (fits : Fits (encodeSequence parts)) {part : Bytes} (member : part ∈ parts) :
    Fits part :=
  fits.inside.of_flatten member

theorem readHeader_encode (low : tag.toNat % 32 ≠ 31) (fits : Fits contents) (rest : Bytes) :
    readHeader (encode tag contents ++ rest) = .ok (headerOf tag contents, contents ++ rest) := by
  simp only [readHeader, encode, List.cons_append, List.append_assoc, readIdentifier, low, if_false,
    Outcome.bind_eq_ok]
  exact ⟨_, rfl, _, readLength_encodeLength _ fits, rfl⟩

theorem readElement_encode (low : tag.toNat % 32 ≠ 31) (fits : Fits contents) (rest : Bytes) :
    readElement (encode tag contents ++ rest) =
      .ok (⟨headerOf tag contents, contents⟩, rest) := by
  simp only [readElement, Outcome.bind_eq_ok]
  exact ⟨_, readHeader_encode low fits rest, _, take_eq_ok.2 ⟨rfl, rfl⟩, rfl⟩

theorem readBasicElement_encode (low : tag.toNat % 32 ≠ 31) (fits : Fits contents)
    (rest : Bytes) :
    readBasicElement (encode tag contents ++ rest) =
      .ok (⟨headerOf tag contents, contents⟩, rest) :=
  readBasicElement_of_readElement (readElement_encode low fits rest)

/-! ## Trees -/

/-- Bytes write a tree that is no deeper than `depth`, so that the tree is read off the
front of whatever begins with them. -/
def Writes (depth : Nat) (bytes : Bytes) (node : Node) : Prop :=
  Fits bytes → ∃ element, interpret depth element = .ok node ∧
    ∀ behind, readBasicElement (bytes ++ behind) = .ok (element, behind)

theorem Writes.succ {node : Node} (writes : Writes depth bytes node) :
    Writes (depth + 1) bytes node := by
  intro fits
  obtain ⟨element, interpreted, read⟩ := writes fits
  exact ⟨element, interpret_succ depth interpreted, read⟩

theorem writes_primitive {content : Content} (low : tag.toNat % 32 ≠ 31)
    (universal : TagClass.ofOctet tag = .universal)
    (single : Element.isCollection ⟨headerOf tag contents, contents⟩ = false)
    (given : primitiveContent ⟨headerOf tag contents, contents⟩ = .ok content) :
    Writes (depth + 1) (encode tag contents) (.mk (headerOf tag contents) content) := by
  intro fits
  refine ⟨⟨headerOf tag contents, contents⟩, ?_, readBasicElement_encode low fits.inside⟩
  exact interpret_eq_ok.2 (Or.inr (Or.inr ⟨universal, single, content, given, rfl⟩))

theorem writes_raw (low : tag.toNat % 32 ≠ 31) (foreign : TagClass.ofOctet tag ≠ .universal) :
    Writes (depth + 1) (encode tag contents) (.mk (headerOf tag contents) (.raw contents)) := by
  intro fits
  refine ⟨⟨headerOf tag contents, contents⟩, ?_, readBasicElement_encode low fits.inside⟩
  exact interpret_eq_ok.2 (Or.inl ⟨foreign, rfl⟩)

/-- The elements of a sequence are read one behind the other. -/
theorem readAll_flatten {nodes : List Node} {steps : Nat}
    (written : List.Forall₂ (Writes depth) parts nodes) (fits : ∀ part ∈ parts, Fits part)
    (enough : parts.flatten.length ≤ steps) :
    readAll (interpret depth) steps parts.flatten = .ok nodes := by
  induction written generalizing steps with
  | nil => cases steps <;> rfl
  | @cons part node parts nodes writes _ ih =>
      obtain ⟨element, interpreted, read⟩ := writes (fits part List.mem_cons_self)
      cases part with
      | nil => cases read []
      | cons octet part =>
          simp only [List.flatten_cons, List.length_append, List.length_cons] at enough
          obtain ⟨steps, rfl⟩ : ∃ fewer, steps = fewer + 1 := ⟨steps - 1, by omega⟩
          have others : readAll (interpret depth) steps parts.flatten = .ok nodes :=
            ih (fun other member => fits other (List.mem_cons_of_mem _ member)) (by omega)
          have first := read parts.flatten
          simp only [List.flatten_cons, List.cons_append] at first ⊢
          simp only [readAll, first, Outcome.bind_eq_ok]
          exact ⟨node, interpreted, nodes, others, rfl⟩

def Node.ofParts (parts : List Bytes) (nodes : List Node) : Node :=
  .mk (headerOf 0x30 parts.flatten) (.sequence nodes)

@[simp]
theorem Node.asSequence_ofParts (nodes : List Node) :
    (Node.ofParts parts nodes).asSequence = .ok nodes :=
  rfl

theorem writes_sequence {nodes : List Node} (written : List.Forall₂ (Writes depth) parts nodes) :
    Writes (depth + 1) (encodeSequence parts) (.ofParts parts nodes) := by
  intro fits
  refine ⟨⟨headerOf 0x30 parts.flatten, parts.flatten⟩, ?_,
    readBasicElement_encode (by decide) fits.inside⟩
  have elements := readAll_flatten written (fun part member => fits.part member) (Nat.le_refl _)
  exact interpret_eq_ok.2 (Or.inr (Or.inl ⟨rfl, rfl, rfl, nodes, elements, rfl⟩))

/-- What is written as a tree is read as one, if it stands by itself. -/
theorem readNode_encode {node : Node} (low : tag.toNat % 32 ≠ 31)
    (written : Writes maxDepth (encode tag contents) node) (fits : Fits (encode tag contents))
    (obeys : checkDistinguished (headerOf tag contents) contents = .ok ()) (rest : Bytes) :
    readNode (encode tag contents ++ rest) = .ok (node, rest) := by
  obtain ⟨element, interpreted, read⟩ := written fits
  have again := readBasicElement_encode low fits.inside rest
  rw [read rest] at again
  obtain ⟨rfl, -⟩ := Prod.mk.inj (Except.ok.inj again)
  exact readNode_eq_ok.2
    ⟨_, contents, readHeader_encode low fits.inside rest, rfl, obeys, interpreted⟩

theorem readNode_encodeSequence {nodes : List Node}
    (written : List.Forall₂ (Writes 49) parts nodes) (fits : Fits (encodeSequence parts))
    (rest : Bytes) :
    readNode (encodeSequence parts ++ rest) = .ok (.ofParts parts nodes, rest) :=
  readNode_encode (by decide) (writes_sequence written) fits rfl rest

/-- A sequence that stands by itself, up to its end. -/
theorem readNode_encodeSequence_self {nodes : List Node}
    (written : List.Forall₂ (Writes 49) parts nodes) (fits : Fits (encodeSequence parts)) :
    readNode (encodeSequence parts) = .ok (.ofParts parts nodes, []) := by
  simpa using readNode_encodeSequence written fits []

/-- What stands behind the header of a sequence that stands by itself. -/
theorem readHeader_encodeSequence (fits : Fits (encodeSequence parts)) :
    readHeader (encodeSequence parts) = .ok (headerOf 0x30 parts.flatten, parts.flatten) := by
  have low : (0x30 : UInt8).toNat % 32 ≠ 31 := by decide
  simpa [encodeSequence] using readHeader_encode low fits.inside []

/-- What is written for each of several things is read as one tree for each of them. -/
theorem exists_forall₂_writes {source : Type} {encodeOne : source → Bytes}
    {holds : source → Node → Prop} {sources : List source}
    (each : ∀ one ∈ sources, ∃ node, Writes depth (encodeOne one) node ∧ holds one node) :
    ∃ nodes, List.Forall₂ (Writes depth) (sources.map encodeOne) nodes ∧
      List.Forall₂ holds sources nodes := by
  induction sources with
  | nil => exact ⟨[], .nil, .nil⟩
  | cons one others ih =>
      obtain ⟨node, writes, held⟩ := each one List.mem_cons_self
      obtain ⟨nodes, rest, restHeld⟩ :=
        ih fun other member => each other (List.mem_cons_of_mem _ member)
      exact ⟨node :: nodes, .cons writes rest, .cons held restHeld⟩

/-! ## The values in use -/

theorem writes_oid (oid : Oid) :
    Writes (depth + 1) (encodeOid oid) (.mk (headerOf 0x06 oid.octets) (.oid oid)) :=
  writes_primitive (by decide) rfl rfl rfl

theorem writes_null : Writes (depth + 1) encodeNull (.mk (headerOf 0x05 []) .null) :=
  writes_primitive (by decide) rfl rfl rfl

theorem writes_octetString (octets : Bytes) :
    Writes (depth + 1) (encodeOctetString octets)
      (.mk (headerOf 0x04 octets) (.octetString octets)) :=
  writes_primitive (by decide) rfl rfl rfl

theorem writes_integer (octets : Bytes) :
    Writes (depth + 1) (encodeInteger octets) (.mk (headerOf 0x02 octets) (.integer octets)) :=
  writes_primitive (by decide) rfl rfl rfl

/-- Values of some types that hold no others, and sequences of such values, nested at most so
deep. -/
inductive IsNested : Nat → Bytes → Prop
  | null {depth : Nat} : IsNested depth encodeNull
  | oid {depth : Nat} (oid : Oid) : IsNested depth (encodeOid oid)
  | integer {depth : Nat} (octets : Bytes) : IsNested depth (encodeInteger octets)
  | octetString {depth : Nat} (octets : Bytes) : IsNested depth (encodeOctetString octets)
  | sequence {depth : Nat} {parts : List Bytes} (within : ∀ part ∈ parts, IsNested depth part) :
      IsNested (depth + 1) (encodeSequence parts)

/-- A value that is not nested too deep can be read. -/
theorem IsNested.exists_writes (nested : IsNested depth bytes) :
    ∃ node, Writes (depth + 1) bytes node := by
  induction nested with
  | null => exact ⟨_, writes_null⟩
  | oid oid => exact ⟨_, writes_oid oid⟩
  | integer octets => exact ⟨_, writes_integer octets⟩
  | octetString octets => exact ⟨_, writes_octetString octets⟩
  | @sequence depth parts within ih =>
      have each : ∀ part ∈ parts, ∃ node, Writes (depth + 1) (id part) node ∧ True := by
        simpa using ih
      obtain ⟨nodes, written, -⟩ := exists_forall₂_writes each
      rw [List.map_id] at written
      exact ⟨_, writes_sequence written⟩

end CertScope.Asn1
