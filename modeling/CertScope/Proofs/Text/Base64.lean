import CertScope.Text.Base64
import Mathlib.Data.Nat.Basic

/-!
# Base64 reads back

Every byte string is read back from its Base64 form.  The form consists of symbols of the
alphabet and of padding, each of which is an ASCII character other than a hyphen or a
blank.
-/

namespace CertScope.Base64

variable {first second third byte : UInt8} {rest : Bytes}

/-! ## Symbols -/

theorem digit?_symbol {digit : Nat} (small : digit < 64) : digit? (symbol digit) = some digit := by
  have listed : ∀ digit < 64, digit? (symbol digit) = some digit := by decide
  exact listed digit small

theorem digit?_pad : digit? pad = none := rfl

theorem symbol_ne_pad {digit : Nat} (small : digit < 64) : symbol digit ≠ pad := by
  intro padding
  have read := digit?_symbol small
  rw [padding, digit?_pad] at read
  cases read

def IsSymbol (byte : UInt8) : Prop := (digit? byte).isSome ∨ byte = pad

theorem isSymbol_symbol {digit : Nat} (small : digit < 64) : IsSymbol (symbol digit) := by
  left
  rw [digit?_symbol small]
  rfl

/-- Symbols lie between the blanks and the end of ASCII, and the hyphen is none. -/
theorem IsSymbol.bounds (isSymbol : IsSymbol byte) :
    32 < byte.toNat ∧ byte.toNat < 128 ∧ byte.toNat ≠ 45 := by
  rcases isSymbol with known | rfl
  · unfold digit? at known
    grind
  · decide

/-! ## Whole groups -/

/-- Four digits and three bytes that denote the same number. -/
theorem tripleOf_eq {a b c d : Nat}
    (same : ((a * 64 + b) * 64 + c) * 64 + d =
      (first.toNat * 256 + second.toNat) * 256 + third.toNat) :
    tripleOf a b c d = [first, second, third] := by
  have firstSmall := first.toNat_lt
  have secondSmall := second.toNat_lt
  have thirdSmall := third.toNat_lt
  simp only [tripleOf, same, List.cons.injEq, and_true, ← UInt8.toNat_inj, UInt8.toNat_ofNat']
  refine ⟨?_, ?_, ?_⟩ <;> omega

theorem decodeGroups_cons (start : Nat) {a b c d : Nat} (smallA : a < 64) (smallB : b < 64)
    (smallC : c < 64) (smallD : d < 64) (filled : rest ≠ []) :
    decodeGroups start (symbol a :: symbol b :: symbol c :: symbol d :: rest) =
      (decodeGroups (start + 4) rest).map (tripleOf a b c d ++ ·) := by
  cases rest with
  | nil => exact absurd rfl filled
  | cons next rest =>
      rw [decodeGroups, digit?_symbol smallA, digit?_symbol smallB, digit?_symbol smallC,
        digit?_symbol smallD]

/-! ## The last group -/

theorem readTail_symbol (start position : Nat) (tail : Tail) {digit : Nat} (small : digit < 64)
    (unpadded : tail.pads = 0) (rest : Bytes) :
    readTail start position tail (symbol digit :: rest) =
      readTail start (position + 1)
        { tail with digits := tail.digits ++ [digit], last := symbol digit } rest := by
  simp [readTail, symbol_ne_pad small, unpadded, digit?_symbol small]

theorem decodeGroups_four (start : Nat) {a b c d : Nat} (smallA : a < 64) (smallB : b < 64)
    (smallC : c < 64) (smallD : d < 64) :
    decodeGroups start [symbol a, symbol b, symbol c, symbol d] = .ok (tripleOf a b c d) := by
  rw [decodeGroups, decodeTail, readTail_symbol _ _ _ smallA rfl, readTail_symbol _ _ _ smallB rfl,
    readTail_symbol _ _ _ smallC rfl, readTail_symbol _ _ _ smallD rfl]
  · rfl
  · simp

theorem decodeGroups_three (start : Nat) {a b c : Nat} (smallA : a < 64) (smallB : b < 64)
    (smallC : c < 64) (unused : c % 4 = 0) :
    decodeGroups start [symbol a, symbol b, symbol c, pad] = .ok ((tripleOf a b c 0).take 2) := by
  rw [decodeGroups, decodeTail, readTail_symbol _ _ _ smallA rfl, readTail_symbol _ _ _ smallB rfl,
    readTail_symbol _ _ _ smallC rfl]
  · simp [readTail, bind, Except.bind, unused]
  · simp

theorem decodeGroups_two (start : Nat) {a b : Nat} (smallA : a < 64) (smallB : b < 64)
    (unused : b % 16 = 0) :
    decodeGroups start [symbol a, symbol b, pad, pad] = .ok ((tripleOf a b 0 0).take 1) := by
  rw [decodeGroups, decodeTail, readTail_symbol _ _ _ smallA rfl, readTail_symbol _ _ _ smallB rfl]
  · simp [readTail, bind, Except.bind, unused]
  · simp

/-! ## Whole texts -/

theorem encode_ne_nil (filled : rest ≠ []) : encode rest ≠ [] := by
  fun_cases encode rest with
  | case1 => exact absurd rfl filled
  | case2 => simp
  | case3 => simp
  | case4 => simp

theorem decodeGroups_encode (bytes : Bytes) (filled : bytes ≠ []) (start : Nat) :
    decodeGroups start (encode bytes) = .ok bytes := by
  fun_induction encode bytes generalizing start with
  | case1 => exact absurd rfl filled
  | case2 first bits =>
      have small := first.toNat_lt
      have whole : tripleOf (bits / 64) (bits % 64) 0 0 = [first, 0, 0] :=
        tripleOf_eq (by rw [UInt8.toNat_zero]; omega)
      rw [decodeGroups_two start (by omega) (by omega) (by omega), whole]
      rfl
  | case3 first second bits =>
      have firstSmall := first.toNat_lt
      have secondSmall := second.toNat_lt
      have whole : tripleOf (bits / 4096) (bits / 64 % 64) (bits % 64) 0 = [first, second, 0] :=
        tripleOf_eq (by rw [UInt8.toNat_zero]; omega)
      rw [decodeGroups_three start (by omega) (by omega) (by omega) (by omega), whole]
      rfl
  | case4 first second third rest bits ih =>
      have firstSmall := first.toNat_lt
      have secondSmall := second.toNat_lt
      have thirdSmall := third.toNat_lt
      have whole : tripleOf (bits / 262144) (bits / 4096 % 64) (bits / 64 % 64) (bits % 64) =
          [first, second, third] :=
        tripleOf_eq (by omega)
      by_cases more : rest = []
      · subst more
        rw [encode, decodeGroups_four start (by omega) (by omega) (by omega) (by omega), whole]
      · rw [decodeGroups_cons start (by omega) (by omega) (by omega) (by omega)
          (encode_ne_nil more), ih more, whole]
        rfl

theorem length_encode (bytes : Bytes) : (encode bytes).length % 4 = 0 := by
  fun_induction encode bytes with
  | case1 => rfl
  | case2 => simp
  | case3 => simp
  | case4 first second third rest bits ih =>
      simp only [List.length_cons]
      omega

theorem decode_encode (bytes : Bytes) : decode (encode bytes) = .ok bytes := by
  by_cases filled : bytes = []
  · subst filled
    rfl
  · have whole := length_encode bytes
    rw [decode]
    split
    · rename_i empty
      exact absurd (List.getLast?_eq_none_iff.1 empty) (encode_ne_nil filled)
    · rw [if_neg (by omega), decodeGroups_encode bytes filled]

theorem isSymbol_of_mem_encode {bytes : Bytes} (member : byte ∈ encode bytes) : IsSymbol byte := by
  fun_induction encode bytes with
  | case1 => cases member
  | case2 first bits =>
      have small := first.toNat_lt
      simp only [List.mem_cons, List.not_mem_nil, or_false] at member
      rcases member with rfl | rfl | rfl | rfl
      · exact isSymbol_symbol (by omega)
      · exact isSymbol_symbol (by omega)
      · exact Or.inr rfl
      · exact Or.inr rfl
  | case3 first second bits =>
      have firstSmall := first.toNat_lt
      have secondSmall := second.toNat_lt
      simp only [List.mem_cons, List.not_mem_nil, or_false] at member
      rcases member with rfl | rfl | rfl | rfl
      · exact isSymbol_symbol (by omega)
      · exact isSymbol_symbol (by omega)
      · exact isSymbol_symbol (by omega)
      · exact Or.inr rfl
  | case4 first second third rest bits ih =>
      have firstSmall := first.toNat_lt
      have secondSmall := second.toNat_lt
      have thirdSmall := third.toNat_lt
      simp only [List.mem_cons] at member
      rcases member with rfl | rfl | rfl | rfl | later
      · exact isSymbol_symbol (by omega)
      · exact isSymbol_symbol (by omega)
      · exact isSymbol_symbol (by omega)
      · exact isSymbol_symbol (by omega)
      · exact ih later

end CertScope.Base64
