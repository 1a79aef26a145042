import CertScope.Bytes
import Mathlib.Data.Nat.Digits.Defs

/-!
# Byte strings as numbers

Without the zero bytes in front, a byte string is the digits in base 256 of the
number that it denotes.  Two byte strings therefore have the same trimmed form
exactly when they denote the same number.
-/

namespace CertScope.Bytes

theorem value_eq_ofDigits (bytes : Bytes) :
    value bytes = Nat.ofDigits 256 (bytes.map UInt8.toNat).reverse := by
  rw [Nat.ofDigits_eq_foldr, List.foldr_reverse, List.foldl_map]
  simp only [value, Nat.cast_id, Nat.add_comm, Nat.mul_comm]

@[simp]
theorem length_ofValue (width number : Nat) : (ofValue width number).length = width := by
  induction width with
  | zero => rfl
  | succ width ih => rw [ofValue, List.length_cons, ih]

@[simp]
theorem value_zero_cons (bytes : Bytes) : value (0 :: bytes) = value bytes := by
  simp [value]

@[simp]
theorem value_trimZeros (bytes : Bytes) : value (trimZeros bytes) = value bytes := by
  induction bytes with
  | nil => rfl
  | cons byte rest ih =>
      by_cases zero : byte = 0
      · subst byte
        simpa [trimZeros] using ih
      · simp [trimZeros, zero]

theorem head_trimZeros_ne_zero (bytes : Bytes) (nonempty : trimZeros bytes ≠ []) :
    (trimZeros bytes).head nonempty ≠ 0 := by
  have stopped := List.head_dropWhile_not (fun byte : UInt8 => byte == 0) nonempty
  exact beq_eq_false_iff_ne.1 stopped

/-- A trimmed string spells the digits of its number, the first one last. -/
theorem digits_value (bytes : Bytes) :
    Nat.digits 256 (value bytes) = ((trimZeros bytes).map UInt8.toNat).reverse := by
  rw [← value_trimZeros, value_eq_ofDigits]
  apply Nat.digits_ofDigits 256 (by norm_num)
  · intro digit member
    obtain ⟨byte, -, rfl⟩ := List.mem_map.1 (List.mem_reverse.1 member)
    exact byte.toNat_lt
  · intro nonempty
    have trimmed : trimZeros bytes ≠ [] := by
      intro empty
      simp [empty] at nonempty
    have leading := head_trimZeros_ne_zero bytes trimmed
    rw [List.getLast_reverse, List.head_map]
    intro zero
    exact leading (UInt8.toNat_inj.1 zero)

/-- Trimmed strings are compared as the numbers that they denote. -/
theorem trimZeros_eq_iff {first second : Bytes} :
    trimZeros first = trimZeros second ↔ value first = value second := by
  constructor
  · intro equal
    rw [← value_trimZeros first, equal, value_trimZeros]
  · intro equal
    have digits := digits_value first
    rw [equal, digits_value second] at digits
    have spelled := List.reverse_inj.1 digits
    exact ((List.map_inj_right fun _ _ => UInt8.toNat_inj.1).1 spelled).symm

end CertScope.Bytes
