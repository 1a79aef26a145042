import CertScope.Proofs.Pem.Step
import Mathlib.Algebra.GroupWithZero.Nat

/-!
# The size of what a block holds

Base64 never shortens a byte string, and a block has its markers around the symbols.  What a
text holds is therefore shorter than the text, so that no byte string holds itself.
-/

namespace CertScope

open Outcome

namespace Base64

variable {start : Nat} {group text decoded : Bytes}

theorem length_readTail {position : Nat} {tail result : Tail}
    (read : readTail start position tail group = .ok result) :
    result.digits.length ≤ tail.digits.length + group.length := by
  induction group generalizing position tail with
  | nil =>
      obtain rfl := Except.ok.inj read
      simp
  | cons byte group ih =>
      rw [readTail] at read
      split at read
      · split at read
        · cases read
        · have bound := ih read
          rw [List.length_cons]
          dsimp only at bound
          omega
      · split at read
        · cases read
        · split at read
          · cases read
          · have bound := ih read
            rw [List.length_append, List.length_singleton] at bound
            rw [List.length_cons]
            omega

theorem length_decodeTail (read : decodeTail start group = .ok decoded) :
    decoded.length ≤ group.length := by
  simp only [decodeTail, bind_eq_ok] at read
  obtain ⟨tail, taken, read⟩ := read
  have bound := length_readTail taken
  rw [List.length_nil, Nat.zero_add] at bound
  split at read
  · split at read
    · obtain rfl := Except.ok.inj read
      simp
    · cases read
  · cases read
  · rename_i a b digits
    rw [digits] at bound
    split at read
    · cases read
    · split at read
      · cases read
      · obtain rfl := Except.ok.inj read
        simp only [tripleOf, List.length_take, List.length_cons, List.length_nil] at bound ⊢
        omega
  · rename_i a b c digits
    rw [digits] at bound
    split at read
    · cases read
    · split at read
      · cases read
      · obtain rfl := Except.ok.inj read
        simp only [tripleOf, List.length_take, List.length_cons, List.length_nil] at bound ⊢
        omega
  · rename_i a b c d others digits
    rw [digits] at bound
    obtain rfl := Except.ok.inj read
    simp only [tripleOf, List.length_cons, List.length_nil] at bound ⊢
    omega

theorem length_decodeGroups (read : decodeGroups start text = .ok decoded) :
    decoded.length ≤ text.length := by
  fun_induction decodeGroups start text generalizing decoded with
  | case1 start first second third fourth next rest a b c d _ _ _ _ ih =>
      cases later : decodeGroups (start + 4) (next :: rest) with
      | error fault =>
          rw [later] at read
          cases read
      | ok behind =>
          rw [later] at read
          obtain rfl := Except.ok.inj read
          have bound := ih later
          simp only [tripleOf, List.length_append, List.length_cons, List.length_nil] at bound ⊢
          omega
  | case2 => cases read
  | case3 start group => exact length_decodeTail read

theorem length_decode (read : decode text = .ok decoded) : decoded.length ≤ text.length := by
  unfold decode at read
  split at read
  · obtain rfl := Except.ok.inj read
    simp
  · split at read
    · cases read
    · exact length_decodeGroups read

end Base64

namespace Utf8

open Bytes

variable {lead : UInt8} {rest after bytes : Bytes} {char : Char}

theorem utf8Size_le_one (small : char.toNat < 0x80) : char.utf8Size ≤ 1 :=
  (Char.utf8Size_eq_one_iff.2 (UInt32.le_iff_toNat_le.2 (Nat.le_of_lt_succ small))).le

theorem utf8Size_ofNat (number : Nat) :
    (number < 0x800 → (Char.ofNat number).utf8Size ≤ 2) ∧
      (number < 0x10000 → (Char.ofNat number).utf8Size ≤ 3) := by
  have small : (Char.ofNat number).val.toNat ≤ number := by
    by_cases valid : number.isValidChar
    · exact (Bytes.toNat_ofNat valid).le
    · rw [Char.ofNat, dif_neg valid]
      exact Nat.zero_le number
  have limits : (0x7FF : UInt32).toNat = 0x7FF ∧ (0xFFFF : UInt32).toNat = 0xFFFF := by decide
  unfold Char.utf8Size
  simp only [UInt32.le_iff_toNat_le, UInt32.toNat_ofNatLT]
  constructor
  · intro bound
    split_ifs
    all_goals omega
  · intro bound
    split_ifs
    all_goals omega

/-- No character is longer in the encoding than the bytes that it was read from. -/
theorem utf8Size_of_next (read : next lead rest = .ok (char, after)) :
    char.utf8Size + after.length ≤ rest.length + 1 := by
  have tail (byte : UInt8) : tailBits byte < 64 := Nat.mod_lt _ (by decide)
  have four := char.utf8Size_le_four
  unfold next at read
  repeat' split at read
  all_goals cases read
  · rename_i ascii
    have small : (Char.ofNat lead.toNat).toNat < 0x80 := by
      rw [Bytes.toNat_ofNat_of_lt (Nat.lt_trans (UInt8.lt_iff_toNat_lt.1 ascii) (by decide))]
      exact UInt8.lt_iff_toNat_lt.1 ascii
    have single := utf8Size_le_one small
    omega
  · rename_i second _
    have number := tail second
    have double := (utf8Size_ofNat (lead.toNat % 32 * 64 + tailBits second)).1 (by omega)
    simp only [List.length_cons]
    omega
  · rename_i second _ _ third _
    have number := tail second
    have number := tail third
    have triple := (utf8Size_ofNat
      ((lead.toNat % 16 * 64 + tailBits second) * 64 + tailBits third)).2 (by omega)
    simp only [List.length_cons]
    omega
  · simp only [List.length_cons]
    omega

theorem length_of_decodeFrom {offset : Nat} {chars : List Char}
    (decoded : decodeFrom offset bytes = .ok chars) :
    (chars.map Char.utf8Size).sum ≤ bytes.length := by
  induction chars generalizing offset bytes with
  | nil => exact Nat.zero_le bytes.length
  | cons char chars ih =>
      cases bytes with
      | nil =>
          rw [decodeFrom] at decoded
          cases decoded
      | cons lead rest =>
          obtain ⟨found, after, others, read, later, same⟩ := decodeFrom_cons decoded
          obtain ⟨rfl, rfl⟩ := List.cons.inj same
          have front := utf8Size_of_next read
          have back := ih later
          rw [List.map_cons, List.sum_cons, List.length_cons]
          omega

theorem length_of_decode {text : String} (decoded : decode bytes = .ok text) :
    (text.toList.map Char.utf8Size).sum ≤ bytes.length := by
  unfold decode at decoded
  cases whole : decodeFrom 0 bytes with
  | error fault =>
      rw [whole] at decoded
      cases decoded
  | ok chars =>
      rw [whole] at decoded
      obtain rfl := Except.ok.inj decoded
      rw [String.toList_ofList]
      exact length_of_decodeFrom whole

end Utf8

namespace Pem

open Bytes

variable {bytes rest span contents : Bytes} {frame : Frame} {block : Block}

theorem length_ofText_ofList (chars : List Char) :
    (ofText (String.ofList chars)).length = (chars.map Char.utf8Size).sum := by
  rw [ofText_ofList, List.length_flatMap]
  simp only [String.length_utf8EncodeChar]

theorem length_dropBlanks (chars : List Char) :
    ((Text.dropBlanks chars).map Char.utf8Size).sum ≤ (chars.map Char.utf8Size).sum := by
  induction chars with
  | nil => exact le_refl 0
  | cons char chars ih =>
      unfold Text.dropBlanks at ih ⊢
      rw [List.filter_cons, List.map_cons, List.sum_cons]
      split
      · rw [List.map_cons, List.sum_cons]
        omega
      · omega

theorem Frame.length_of_decode (decoded : frame.decode = .ok block) :
    block.contents.length ≤ frame.body.length := by
  obtain ⟨-, -, -, held⟩ := Frame.decode_eq_ok_iff.1 decoded
  obtain ⟨symbols, read, based, -⟩ := Frame.contents?_eq_some.1 held
  have fewer := length_dropBlanks symbols.toList
  have contents := Base64.length_decode based
  have body := Utf8.length_of_decode read
  rw [length_ofText_ofList] at contents
  omega

theorem length_splitHeaders (body : Bytes) : (splitHeaders body).2.length ≤ body.length := by
  have behind {marker before after : Bytes} (cut : cutAt? marker body = some (before, after)) :
      after.length ≤ body.length := by
    rw [append_of_cutAt? cut, List.length_append, List.length_append]
    omega
  unfold splitHeaders
  split
  · rename_i cut found
    exact behind found
  · cases found : cutAt? [13, 10, 13, 10] body with
    | none => exact le_refl body.length
    | some cut => exact behind found

theorem Frame.length_of_read? (found : Frame.read? bytes = some (frame, rest)) :
    frame.body.length < bytes.length := by
  simp only [Frame.read?, Option.bind_eq_bind, Option.bind_eq_some_iff, Prod.exists,
    Option.pure_def, Option.some.injEq, Prod.mk.injEq] at found
  obtain ⟨before, block, opened, opening, inside, dashed, inner, fromEnd, ended, closing, behind,
    closed, rfl, -⟩ := found
  have headed := length_splitHeaders inner
  have skipped : (skipBlank inside).length ≤ inside.length :=
    (List.dropWhile_sublist _).length_le
  have parts := congrArg List.length (append_of_cutAt? ended)
  rw [append_of_cutAt? opened, append_of_cutAt? dashed]
  simp only [List.length_append] at parts ⊢
  have five : dashes.length = 5 := rfl
  omega

theorem infix_of_nextSpan? (found : nextSpan? bytes = some (some span, rest)) :
    span <:+: bytes := by
  obtain ⟨before, split, -⟩ := split_of_nextSpan? found
  exact ⟨before, rest, by rw [split, Option.getD_some, List.append_assoc]⟩

theorem length_of_mem_spans (member : span ∈ spans bytes) : span.length ≤ bytes.length := by
  induction size : bytes.length using Nat.strong_induction_on generalizing bytes with
  | h size ih =>
      subst size
      cases found : nextSpan? bytes with
      | none =>
          rw [spans_of_none found] at member
          cases member
      | some step =>
          obtain ⟨cut, rest⟩ := step
          have shorter := length_nextSpan? found
          rw [spans_of_some found, List.mem_append, Option.mem_toList] at member
          rcases member with rfl | later
          · exact (infix_of_nextSpan? found).length_le
          · exact (ih rest.length shorter later rfl).trans shorter.le

/-- What a block of a text holds is shorter than the text. -/
theorem length_of_mem_certificates (member : contents ∈ certificates bytes) :
    contents.length < bytes.length := by
  obtain ⟨span, among, held⟩ := List.mem_filterMap.1 member
  have inside := length_of_mem_spans among
  unfold certificateOf? decodeFirst at held
  cases read : Frame.read? span with
  | none =>
      rw [read] at held
      cases held
  | some found =>
      obtain ⟨frame, behind⟩ := found
      simp only [read] at held
      split at held
      · rename_i block decoded
        have symbols := Frame.length_of_decode decoded
        have framed := Frame.length_of_read? read
        rw [Option.ite_none_right_eq_some, Option.some.injEq] at held
        rw [← held.2]
        omega
      · cases held

end Pem

end CertScope
