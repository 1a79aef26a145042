import CertScope.Proofs.Text.Ascii
import CertScope.Text.Upper
import Mathlib.Data.List.Count

/-!
# Rows of a text

A text is cut into rows at its line feeds.  There is one row more than there are line
feeds, and a text without a line feed is a row.  Numerals are rows, and so is what rows are
put together to.
-/

namespace CertScope.Text

/-- What stands between the line feeds of a text. -/
def rows (text : String) : List String := (text.toList.splitOn '\n').map String.ofList

def feeds (text : String) : Nat := text.toList.count '\n'

def IsRow (text : String) : Prop := '\n' ∉ text.toList

instance (text : String) : Decidable (IsRow text) := inferInstanceAs (Decidable (_ ∉ _))

variable {first second text separator : String} {texts : List String} {chars : List Char}

/-! ## Cutting -/

theorem rows_of_isRow (isRow : IsRow text) : rows text = [text] := by
  rw [rows, List.splitOn_eq_singleton isRow, List.map_singleton, String.ofList_toList]

/-- A line feed ends a row. -/
theorem rows_append_feed (first second : String) :
    rows (first ++ "\n" ++ second) = rows first ++ rows second := by
  have split : (first ++ "\n" ++ second).toList = first.toList ++ '\n' :: second.toList := by
    simp
  rw [rows, split, List.splitOn_append_cons_self, List.map_append]
  rfl

theorem join_cons (text : String) (texts : List String) :
    String.join (text :: texts) = text ++ String.join texts := by
  apply String.toList_inj.1
  simp

theorem intercalate_cons (separator first second : String) (others : List String) :
    separator.intercalate (first :: second :: others) =
      first ++ separator ++ separator.intercalate (second :: others) := by
  apply String.toList_inj.1
  simp [String.toList_intercalate]

/-- Two line feeds between texts are an empty row between their rows. -/
theorem rows_intercalate (filled : texts ≠ []) :
    rows ("\n\n".intercalate texts) = [""].intercalate (texts.map rows) := by
  induction texts with
  | nil => exact absurd rfl filled
  | cons text texts ih =>
      cases texts with
      | nil =>
          have alone : "\n\n".intercalate [text] = text := by
            apply String.toList_inj.1
            simp
          rw [alone]
          simp
      | cons next others =>
          have split : text ++ "\n\n" ++ "\n\n".intercalate (next :: others) =
              text ++ "\n" ++ ("" ++ "\n" ++ "\n\n".intercalate (next :: others)) := by
            apply String.toList_inj.1
            simp
          have empty : rows "" = [""] := rows_of_isRow (by decide)
          rw [intercalate_cons, split, rows_append_feed, rows_append_feed, ih (by simp), empty]
          simp [List.intercalate_cons_cons]

theorem length_rows (text : String) : (rows text).length = feeds text + 1 := by
  rw [rows, feeds, List.length_map]
  induction text.toList with
  | nil => rfl
  | cons char chars ih =>
      rw [List.splitOn_cons_eq_if_modifyHead]
      by_cases feed : char = '\n'
      · simp [feed, ih]
      · simp [feed, ih]

/-! ## Counting -/

@[simp]
theorem feeds_append (first second : String) :
    feeds (first ++ second) = feeds first + feeds second := by
  simp [feeds]

theorem feeds_eq_zero : feeds text = 0 ↔ IsRow text := List.count_eq_zero

/-! ## Rows -/

@[simp]
theorem isRow_append : IsRow (first ++ second) ↔ IsRow first ∧ IsRow second := by
  simp [IsRow]

@[simp]
theorem isRow_ofList : IsRow (String.ofList chars) ↔ '\n' ∉ chars := by
  simp [IsRow]

theorem isRow_intercalate (isRow : IsRow separator) :
    IsRow (separator.intercalate texts) ↔ ∀ text ∈ texts, IsRow text := by
  simp only [IsRow, String.toList_intercalate] at isRow ⊢
  induction texts with
  | nil => simp
  | cons text texts ih =>
      cases texts with
      | nil => simp
      | cons next others =>
          simp only [List.map_cons, List.intercalate_cons_cons] at ih ⊢
          simp only [List.mem_append, not_or, ih, isRow, not_false_eq_true, and_true,
            List.forall_mem_cons]

/-- A numeral of any base up to sixteen is a row. -/
theorem isRow_toDigits {base : Nat} (large : 1 < base) (small : base ≤ 16) (number : Nat) :
    '\n' ∉ Nat.toDigits base number := by
  induction number using Nat.strongRecOn with
  | _ number ih =>
      have digit (value : Nat) : value.digitChar ≠ '\n' := by
        apply Nat.digitChar_ne
        decide
      rw [Nat.toDigits_eq_if large]
      split
      · simp [(digit number).symm]
      · rename_i long
        have shorter : number / base < number := Nat.div_lt_self (by omega) large
        simp [ih _ shorter, (digit (number % base)).symm]

theorem isRow_toString (number : Nat) : IsRow (toString number) := by
  rw [Nat.toString_eq_ofList_toDigits, isRow_ofList]
  exact isRow_toDigits (by decide) (by decide) number

theorem isRow_pushn {char : Char} (other : char ≠ '\n') (isRow : IsRow text) (count : Nat) :
    IsRow (text.pushn char count) := by
  rw [String.pushn_eq_repeat_push]
  induction count with
  | zero => exact isRow
  | succ count ih =>
      rw [IsRow] at ih
      rw [Nat.repeat, IsRow, String.toList_push]
      simp [ih, other.symm]

/-! ## Upper case -/

theorem ofNat_ne_feed {code : Nat} (other : code ≠ 10) : '\n' ≠ Char.ofNat code := by
  intro same
  by_cases valid : code.isValidChar
  · have known := Bytes.toNat_ofNat valid
    rw [← same] at known
    exact other known.symm
  · have null : Char.ofNat code = '\x00' := by
      rw [Char.ofNat, dif_neg valid]
      rfl
    rw [null] at same
    exact absurd same (by decide)

/-- Only the line feed has a line feed in its upper-case form. -/
theorem feed_mem_ofChar {char : Char} : '\n' ∈ Upper.ofChar char ↔ char = '\n' := by
  constructor
  · intro member
    unfold Upper.ofChar at member
    split at member
    · rename_i codes found
      obtain ⟨code, listed, same⟩ := List.mem_map.1 member
      obtain ⟨before, after, table, -⟩ := List.lookup_eq_some_iff.1 found
      have expands : ∀ pair ∈ Upper.expansions, 10 ∉ pair.2 := by decide +kernel
      have entry := expands (char.toNat, codes) (by rw [table]; simp)
      refine absurd same.symm (ofNat_ne_feed ?_)
      rintro rfl
      exact entry listed
    · split at member
      · rename_i run found
        have shifted : ∀ run ∈ Upper.runs, (10 : Int) < run.first + run.shift := by
          decide +kernel
        have far := shifted run (List.mem_of_find?_eq_some found)
        have inside := List.find?_some found
        simp only [Upper.Run.contains, Bool.and_eq_true, decide_eq_true_eq] at inside
        refine absurd (List.mem_singleton.1 member) (ofNat_ne_feed ?_)
        omega
      · exact (List.mem_singleton.1 member).symm
  · rintro rfl
    decide +kernel

theorem isRow_capitalized : IsRow (Upper.capitalized text) ↔ IsRow text := by
  rw [Upper.capitalized, IsRow, IsRow]
  cases shape : text.toList with
  | nil => simp
  | cons char chars => simp [feed_mem_ofChar, eq_comm]

end CertScope.Text
