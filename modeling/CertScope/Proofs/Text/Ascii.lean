import CertScope.Proofs.Outcome
import CertScope.Text.Utf8
import Mathlib.Data.List.Basic

/-!
# Texts of ASCII characters

A byte below 128 is the encoding of one character, and no other byte takes part in the
encoding of such a character.  The bytes of an ASCII text and the text itself therefore
determine each other.
-/

namespace CertScope

namespace Bytes

private theorem toList_loop (bytes : ByteArray) (position : Nat) (reversed : Bytes) :
    ByteArray.toList.loop bytes position reversed =
      reversed.reverse ++ bytes.data.toList.drop position := by
  fun_induction ByteArray.toList.loop bytes position reversed with
  | case1 position reversed inside ih =>
      have bound : position < bytes.data.toList.length := by simpa using inside
      have get : bytes.get! position = bytes.data.toList[position] := by
        change bytes.data[position]! = _
        rw [getElem!_pos bytes.data position inside, Array.getElem_toList]
      rw [ih, get, List.reverse_cons, List.append_assoc, List.singleton_append,
        ← List.drop_eq_getElem_cons bound]
  | case2 position reversed outside =>
      have bound : bytes.data.toList.length ≤ position := by
        simpa using Nat.le_of_not_lt outside
      rw [List.drop_of_length_le bound, List.append_nil]

theorem ofText_ofList (chars : List Char) :
    ofText (String.ofList chars) = chars.flatMap String.utf8EncodeChar := by
  rw [ofText, String.toUTF8, String.toByteArray_ofList, List.utf8Encode, ByteArray.toList,
    toList_loop, List.data_toByteArray]
  simp

def IsAscii (bytes : Bytes) : Prop := ∀ byte ∈ bytes, byte < 0x80

instance (bytes : Bytes) : Decidable (IsAscii bytes) :=
  List.decidableBAll (· < 0x80) bytes

def asciiChars (bytes : Bytes) : List Char := bytes.map fun byte => Char.ofNat byte.toNat

variable {bytes : Bytes}

theorem toNat_ofNat {number : Nat} (valid : number.isValidChar) :
    (Char.ofNat number).toNat = number := by
  rw [Char.ofNat, dif_pos valid]
  rfl

theorem toNat_ofNat_of_lt {number : Nat} (small : number < 0xD800) :
    (Char.ofNat number).toNat = number :=
  toNat_ofNat (Or.inl small)

theorem utf8EncodeChar_of_lt {char : Char} (ascii : char.toNat < 0x80) :
    String.utf8EncodeChar char = [UInt8.ofNat char.toNat] := by
  have single : char.utf8Size = 1 := Char.utf8Size_eq_one_iff.2 (by
    rw [UInt32.le_iff_toNat_le]
    exact Nat.le_of_lt_succ ascii)
  rw [String.utf8EncodeChar_eq_singleton single]
  rfl

theorem ofText_of_lt {chars : List Char} (ascii : ∀ char ∈ chars, char.toNat < 0x80) :
    ofText (String.ofList chars) = chars.map fun char => UInt8.ofNat char.toNat := by
  rw [ofText_ofList]
  induction chars with
  | nil => rfl
  | cons char chars ih =>
      rw [List.flatMap_cons, utf8EncodeChar_of_lt (ascii char List.mem_cons_self),
        ih fun other member => ascii other (List.mem_cons_of_mem char member)]
      rfl

theorem toNat_of_mem_asciiChars (ascii : IsAscii bytes) {char : Char}
    (member : char ∈ asciiChars bytes) : char.toNat < 0x80 := by
  obtain ⟨byte, among, rfl⟩ := List.mem_map.1 member
  have small : byte.toNat < 0x80 := ascii byte among
  rwa [toNat_ofNat_of_lt (Nat.lt_trans small (by decide))]

theorem ofText_asciiChars (ascii : IsAscii bytes) :
    ofText (String.ofList (asciiChars bytes)) = bytes := by
  rw [ofText_of_lt fun _ member => toNat_of_mem_asciiChars ascii member, asciiChars, List.map_map]
  conv_rhs => rw [← List.map_id bytes]
  apply List.map_congr_left
  intro byte member
  have small : byte.toNat < 0x80 := ascii byte member
  simp [toNat_ofNat_of_lt (Nat.lt_trans small (by decide))]

end Bytes

namespace Utf8

variable {bytes rest after : Bytes} {lead : UInt8} {char : Char}

theorem next_of_lt (ascii : lead < 0x80) :
    next lead rest = .ok (Char.ofNat lead.toNat, rest) := by
  simp [next, ascii]

/-- No sequence of several bytes encodes an ASCII character. -/
theorem lead_of_next (read : next lead rest = .ok (char, after)) (ascii : char.toNat < 0x80) :
    lead < 0x80 := by
  by_contra high
  -- the forms of several bytes are those of the numbers from 0x80 on
  have large : 0x80 ≤ char.toNat := by
    simp only [next, if_neg high, isTail, secondOfThree, secondOfFour, Bool.and_eq_true,
      decide_eq_true_eq, beq_iff_eq, UInt8.le_iff_toNat_le, ← UInt8.toNat_inj] at read
    repeat' split at read
    all_goals cases read
    all_goals
      rw [Bytes.toNat_ofNat] <;>
        simp only [tailBits, Nat.isValidChar, UInt8.reduceToNat] at * <;> grind
  exact absurd ascii (Nat.not_lt.2 large)

theorem decodeFrom_ascii (ascii : Bytes.IsAscii bytes) (offset : Nat) :
    decodeFrom offset bytes = .ok (Bytes.asciiChars bytes) := by
  induction bytes generalizing offset with
  | nil => simp [decodeFrom, Bytes.asciiChars]
  | cons lead rest ih =>
      have later := ih fun byte member => ascii byte (List.mem_cons_of_mem lead member)
      rw [decodeFrom]
      split
      · rename_i read
        rw [next_of_lt (ascii lead List.mem_cons_self)] at read
        cases read
      · rename_i read
        rw [next_of_lt (ascii lead List.mem_cons_self)] at read
        obtain ⟨rfl, rfl⟩ := Prod.mk.inj (Except.ok.inj read)
        rw [later]
        rfl

theorem decode_ascii (ascii : Bytes.IsAscii bytes) :
    decode bytes = .ok (String.ofList (Bytes.asciiChars bytes)) := by
  rw [decode, decodeFrom_ascii ascii]
  rfl

theorem decodeFrom_cons {offset : Nat} {chars : List Char}
    (decoded : decodeFrom offset (lead :: rest) = .ok chars) :
    ∃ char after others, next lead rest = .ok (char, after) ∧
      decodeFrom (offset + char.utf8Size) after = .ok others ∧ chars = char :: others := by
  rw [decodeFrom] at decoded
  split at decoded
  · cases decoded
  · rename_i char after read
    cases later : decodeFrom (offset + char.utf8Size) after with
    | error fault =>
        rw [later] at decoded
        cases decoded
    | ok others =>
        rw [later] at decoded
        obtain rfl := Except.ok.inj decoded
        exact ⟨char, after, others, read, later, rfl⟩

theorem eq_of_decodeFrom {offset : Nat} {chars : List Char}
    (decoded : decodeFrom offset bytes = .ok chars)
    (ascii : ∀ char ∈ chars, char.toNat < 0x80) :
    bytes = chars.map fun char => UInt8.ofNat char.toNat := by
  induction chars generalizing offset bytes with
  | nil =>
      cases bytes with
      | nil => rfl
      | cons lead rest =>
          obtain ⟨_, _, _, _, _, filled⟩ := decodeFrom_cons decoded
          cases filled
  | cons char chars ih =>
      cases bytes with
      | nil =>
          rw [decodeFrom] at decoded
          cases decoded
      | cons lead rest =>
          obtain ⟨found, after, others, read, later, same⟩ := decodeFrom_cons decoded
          obtain ⟨rfl, rfl⟩ := List.cons.inj same
          have small := lead_of_next read (ascii char List.mem_cons_self)
          rw [next_of_lt small] at read
          obtain ⟨rfl, rfl⟩ := Prod.mk.inj (Except.ok.inj read)
          have code : (Char.ofNat lead.toNat).toNat = lead.toNat :=
            Bytes.toNat_ofNat_of_lt (Nat.lt_trans (UInt8.lt_iff_toNat_lt.1 small) (by decide))
          rw [List.map_cons, code, UInt8.ofNat_toNat]
          exact congrArg (lead :: ·)
            (ih later fun other member => ascii other (List.mem_cons_of_mem _ member))

/-- An ASCII text is the text of its own bytes only. -/
theorem eq_ofText_of_decode {text : String} (decoded : decode bytes = .ok text)
    (ascii : ∀ char ∈ text.toList, char.toNat < 0x80) : bytes = Bytes.ofText text := by
  unfold decode at decoded
  cases whole : decodeFrom 0 bytes with
  | error fault =>
      rw [whole] at decoded
      cases decoded
  | ok chars =>
      rw [whole] at decoded
      obtain rfl := Except.ok.inj decoded
      rw [String.toList_ofList] at ascii
      rw [eq_of_decodeFrom whole ascii, Bytes.ofText_of_lt ascii]

def IsAscii (text : String) : Prop := ∀ char ∈ text.toList, char.toNat < 0x80

instance (text : String) : Decidable (IsAscii text) :=
  List.decidableBAll (fun char : Char => char.toNat < 0x80) text.toList

/-- An ASCII text is read back from its bytes. -/
theorem decode_ofText {text : String} (ascii : IsAscii text) :
    decode (Bytes.ofText text) = .ok text := by
  obtain ⟨chars, rfl⟩ : ∃ chars, text = String.ofList chars := ⟨_, String.ofList_toList.symm⟩
  rw [IsAscii, String.toList_ofList] at ascii
  have octet (char : Char) (member : char ∈ chars) :
      (UInt8.ofNat char.toNat).toNat = char.toNat :=
    UInt8.toNat_ofNat_of_lt' (Nat.lt_trans (ascii char member) (by decide))
  have small : Bytes.IsAscii (chars.map fun char => UInt8.ofNat char.toNat) := by
    intro byte member
    obtain ⟨char, among, rfl⟩ := List.mem_map.1 member
    rw [UInt8.lt_iff_toNat_lt, octet char among]
    exact ascii char among
  rw [Bytes.ofText_of_lt ascii, decode_ascii small, Bytes.asciiChars, List.map_map]
  have same : chars.map ((fun byte => Char.ofNat byte.toNat) ∘ fun char =>
      UInt8.ofNat char.toNat) = chars.map id := by
    apply List.map_congr_left
    intro char member
    rw [Function.comp_apply, octet char member, Char.ofNat_toNat, id]
  rw [same, List.map_id]

end Utf8

end CertScope
