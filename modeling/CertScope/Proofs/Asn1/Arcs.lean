import CertScope.Asn1.Oid
import Mathlib.Data.List.Basic

/-!
# Identifiers by their arcs

An object identifier is written from its arcs in base 128, the first two of them as one
number.  Every further arc is read back as it was written.  The reader takes the first octet
for the first two arcs, which is right as long as their number is small; an identifier that
begins with arc 1 is therefore read as such, and no other is taken for one.
-/

namespace CertScope.Asn1

/-- The arcs of an identifier, of which there are at least two.  The first is at most 2, and
below 2 the second is less than 40, so that one number tells both. -/
structure Arcs where
  first : Nat
  second : Nat
  others : List Nat
  bounded : first < 2 ∧ second < 40 ∨ first = 2

namespace Oid

variable {number : Nat} {rest : Bytes}

theorem toNat_continued (number : Nat) :
    (UInt8.ofNat (number % 128 + 128)).toNat = number % 128 + 128 :=
  UInt8.toNat_ofNat_of_lt' (show number % 128 + 128 < 256 by omega)

/-- The digits in front of the last one are kept for it. -/
theorem arcs_high (number : Nat) (rest : Bytes) :
    arcs none (encodeArc.high number ++ rest) =
      arcs (if number = 0 then none else some number) rest := by
  induction number using Nat.strongRecOn generalizing rest with
  | ind number ih =>
      unfold encodeArc.high
      by_cases zero : number = 0
      · simp [zero]
      · have octet := toNat_continued number
        have continued : ¬ UInt8.ofNat (number % 128 + 128) < 0x80 := by
          rw [UInt8.lt_iff_toNat_lt, octet]
          simp
        have value : (if number / 128 = 0 then none else some (number / 128)).getD 0 * 128 +
            (number % 128 + 128) % 128 = number := by
          split <;> simp only [Option.getD_none, Option.getD_some] <;> omega
        rw [if_neg zero, if_neg zero, List.append_assoc, ih (number / 128) (by omega),
          List.singleton_append, arcs]
        simp only [continued, if_false, octet, value]

/-- An arc is read back in front of any others. -/
theorem arcs_encodeArc (number : Nat) (rest : Bytes) :
    arcs none (encodeArc number ++ rest) = number :: arcs none rest := by
  have octet : (UInt8.ofNat (number % 128)).toNat = number % 128 :=
    UInt8.toNat_ofNat_of_lt' (show number % 128 < 256 by omega)
  have last : UInt8.ofNat (number % 128) < 0x80 := by
    rw [UInt8.lt_iff_toNat_lt, octet]
    exact Nat.mod_lt _ (by decide)
  have value : (if number / 128 = 0 then none else some (number / 128)).getD 0 * 128 +
      number % 128 % 128 = number := by
    split <;> simp only [Option.getD_none, Option.getD_some] <;> omega
  rw [encodeArc, List.append_assoc, arcs_high, List.singleton_append, arcs]
  simp only [last, if_true, octet, value]

theorem arcs_flatMap_encodeArc (numbers : List Nat) :
    arcs none (numbers.flatMap encodeArc) = numbers := by
  induction numbers with
  | nil => rfl
  | cons number numbers ih => rw [List.flatMap_cons, arcs_encodeArc, ih]

/-- A number of several digits begins with an octet that says so. -/
theorem exists_high (filled : number ≠ 0) :
    ∃ octet others, encodeArc.high number = octet :: others ∧ 128 ≤ octet.toNat := by
  induction number using Nat.strongRecOn with
  | ind number ih =>
      unfold encodeArc.high
      rw [if_neg filled]
      by_cases single : number / 128 = 0
      · refine ⟨_, [], by rw [single, encodeArc.high, if_pos rfl, List.nil_append], ?_⟩
        rw [toNat_continued]
        omega
      · obtain ⟨octet, others, split, large⟩ := ih (number / 128) (by omega) single
        exact ⟨octet, others ++ [_], by rw [split, List.cons_append], large⟩

theorem encodeArc_of_lt (small : number < 128) : encodeArc number = [UInt8.ofNat number] := by
  have none : number / 128 = 0 := by omega
  have same : number % 128 = number := by omega
  rw [encodeArc, none, encodeArc.high, if_pos rfl, List.nil_append, same]

/-- When the first octet is taken for arc 1. -/
theorem components_cons_iff {octet : UInt8} {numbers : List Nat} :
    components ⟨octet :: rest⟩ = 1 :: numbers ↔
      octet.toNat / 40 = 1 ∧ octet.toNat % 40 :: arcs none rest = numbers := by
  by_cases zero : octet :: rest = [0]
  · obtain ⟨rfl, rfl⟩ := List.cons.inj zero
    simp [components]
  · have shown : components ⟨octet :: rest⟩ =
        octet.toNat / 40 :: octet.toNat % 40 :: arcs none rest := by
      simp only [components]
      split
      · contradiction
      · contradiction
      · rename_i same
        obtain ⟨rfl, rfl⟩ := List.cons.inj same
        rfl
    rw [shown, List.cons.injEq]

end Oid

namespace Arcs

variable {arcs : Arcs}

def toList (arcs : Arcs) : List Nat := arcs.first :: arcs.second :: arcs.others

def oid (arcs : Arcs) : Oid :=
  ⟨Oid.encodeArc (arcs.first * 40 + arcs.second) ++ arcs.others.flatMap Oid.encodeArc⟩

/-- The identifiers that begin with arc 1 are shown by their arcs, and no others look like
them. -/
theorem components_oid_iff {numbers : List Nat} :
    arcs.oid.components = 1 :: numbers ↔ arcs.toList = 1 :: numbers := by
  obtain ⟨first, second, others, bounded⟩ := arcs
  rw [oid, toList, List.cons.injEq]
  by_cases small : first * 40 + second < 128
  · have octet : (UInt8.ofNat (first * 40 + second)).toNat = first * 40 + second :=
      UInt8.toNat_ofNat_of_lt' (show first * 40 + second < 256 by omega)
    rw [Oid.encodeArc_of_lt small, List.singleton_append, Oid.components_cons_iff, octet,
      Oid.arcs_flatMap_encodeArc]
    have begins : (first * 40 + second) / 40 = 1 ↔ first = 1 := by omega
    rw [begins]
    refine and_congr_right fun one => ?_
    have same : (first * 40 + second) % 40 = second := by omega
    rw [same]
  · -- the first arc is 2, and the first octet looks like a larger one
    obtain ⟨octet, behind, split, large⟩ :=
      Oid.exists_high (show (first * 40 + second) / 128 ≠ 0 by omega)
    rw [Oid.encodeArc, split, List.cons_append, List.cons_append, Oid.components_cons_iff]
    have read : octet.toNat / 40 ≠ 1 := by omega
    have written : first ≠ 1 := by omega
    simp only [read, written, false_and]

end Arcs

end CertScope.Asn1
