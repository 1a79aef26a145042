import CertScope.Json.Value
import Mathlib.Data.List.Basic
import Mathlib.Data.Nat.Notation

/-!
# Reading JSON

A reader for the whole grammar of JSON texts except for numbers that are not natural: blanks
may stand around every token, and a character between quotes may be written in any of its
escaped forms.  Every value is read back from its text, so that the text of a value is JSON
and no other value has it.
-/

namespace CertScope.Json

/-! ## Blanks -/

def isBlank (char : Char) : Bool := char == ' ' || char == '\t' || char == '\n' || char == '\x0d'

def skipBlank (text : List Char) : List Char := text.dropWhile isBlank

theorem skipBlank_cons {char : Char} (solid : isBlank char = false) (rest : List Char) :
    skipBlank (char :: rest) = char :: rest := by
  rw [skipBlank, List.dropWhile_cons, solid]
  rfl

theorem skipBlank_newline (level : Nat) (rest : List Char) :
    skipBlank (newline level ++ rest) = skipBlank rest := by
  have spaces (count : Nat) : skipBlank (List.replicate count ' ' ++ rest) = skipBlank rest := by
    induction count with
    | zero => rfl
    | succ count ih => exact ih
  exact spaces (2 * level)

/-! ## Characters between quotes -/

def codeUnit? : List Char → Option (Nat × List Char)
  | first :: second :: third :: fourth :: rest => do
      let first ← Bytes.hexValue? first
      let second ← Bytes.hexValue? second
      let third ← Bytes.hexValue? third
      let fourth ← Bytes.hexValue? fourth
      return (((first * 16 + second) * 16 + third) * 16 + fourth, rest)
  | _ => none

/-- The character of a code unit, or of a pair of surrogates. -/
def readUnit (text : List Char) : Option (Char × List Char) := do
  let (unit, rest) ← codeUnit? text
  if unit < 0xD800 ∨ 0xE000 ≤ unit then return (Char.ofNat unit, rest)
  match rest with
  | '\\' :: 'u' :: rest =>
      let (low, rest) ← codeUnit? rest
      if unit < 0xDC00 ∧ 0xDC00 ≤ low ∧ low < 0xE000 then
        return (Char.ofNat (0x10000 + (unit - 0xD800) * 0x400 + (low - 0xDC00)), rest)
      none
  | _ => none

def readEscape : List Char → Option (Char × List Char)
  | '\x22' :: rest => some ('\x22', rest)
  | '\\' :: rest => some ('\\', rest)
  | '/' :: rest => some ('/', rest)
  | 'b' :: rest => some ('\x08', rest)
  | 'f' :: rest => some ('\x0c', rest)
  | 'n' :: rest => some ('\n', rest)
  | 'r' :: rest => some ('\x0d', rest)
  | 't' :: rest => some ('\t', rest)
  | 'u' :: rest => readUnit rest
  | _ => none

def prepend (char : Char) (read : List Char × List Char) : List Char × List Char :=
  (char :: read.1, read.2)

/-- The characters up to the closing quote, if it is among so many. -/
def readText : (limit : Nat) → List Char → Option (List Char × List Char)
  | 0, _ => none
  | _ + 1, [] => none
  | limit + 1, char :: rest =>
      if char = '\x22' then some ([], rest)
      else if char = '\\' then
        (readEscape rest).bind fun escaped => (readText limit escaped.2).map (prepend escaped.1)
      else if char.toNat < 0x20 then none
      else (readText limit rest).map (prepend char)

theorem hexValue?_hexDigit (digit : Nat) (small : digit < 16) :
    Bytes.hexValue? (Bytes.hexDigit true digit) = some digit := by
  revert digit
  decide

theorem readEscape_control {char : Char} (control : char.toNat < 0x20) (rest : List Char) :
    readEscape ('u' :: '0' :: '0' :: Bytes.hexDigit true (char.toNat / 16) ::
      Bytes.hexDigit true (char.toNat % 16) :: rest) = some (char, rest) := by
  have high := hexValue?_hexDigit (char.toNat / 16) (by omega)
  have low := hexValue?_hexDigit (char.toNat % 16) (by omega)
  have zero : Bytes.hexValue? '0' = some 0 := by decide
  have number : ((0 * 16 + 0) * 16 + char.toNat / 16) * 16 + char.toNat % 16 = char.toNat := by
    omega
  have plain : char.toNat < 0xD800 := by omega
  simp only [readEscape, readUnit, codeUnit?, high, low, zero, Option.bind_eq_bind,
    Option.bind_some, Option.pure_def, number, plain, true_or, if_true, Char.ofNat_toNat]

/-- A character is read back from the form in which it stands between quotes. -/
theorem readText_escape (limit : Nat) (char : Char) (rest : List Char) :
    readText (limit + 1) (escape char ++ rest) = (readText limit rest).map (prepend char) := by
  have escaped (form : List Char) (read : readEscape (form ++ rest) = some (char, rest)) :
      readText (limit + 1) ('\\' :: (form ++ rest)) = (readText limit rest).map (prepend char) := by
    rw [readText, if_neg (by decide), if_pos rfl, read, Option.bind_some]
  unfold escape
  split_ifs with quote backslash back tab feed page carriage control
  · exact escaped ['\x22'] (by rw [quote]; rfl)
  · exact escaped ['\\'] (by rw [backslash]; rfl)
  · exact escaped ['b'] (by rw [back]; rfl)
  · exact escaped ['t'] (by rw [tab]; rfl)
  · exact escaped ['n'] (by rw [feed]; rfl)
  · exact escaped ['f'] (by rw [page]; rfl)
  · exact escaped ['r'] (by rw [carriage]; rfl)
  · exact escaped _ (readEscape_control control rest)
  · rw [List.singleton_append, readText, if_neg quote, if_neg backslash, if_neg control]

/-- A text is read back from its form in quotes, of which the first has been read. -/
theorem readText_quoted (limit : Nat) (chars : List Char) (enough : chars.length < limit)
    (rest : List Char) :
    readText limit (chars.flatMap escape ++ '\x22' :: rest) = some (chars, rest) := by
  induction chars generalizing limit with
  | nil =>
      obtain ⟨limit, rfl⟩ := Nat.exists_eq_add_one_of_ne_zero (Nat.ne_zero_of_lt enough)
      rfl
  | cons char chars ih =>
      obtain ⟨limit, rfl⟩ := Nat.exists_eq_add_one_of_ne_zero (Nat.ne_zero_of_lt enough)
      rw [List.flatMap_cons, List.append_assoc, readText_escape,
        ih limit (Nat.lt_of_succ_lt_succ enough)]
      rfl

theorem length_flatMap_escape (chars : List Char) :
    chars.length ≤ (chars.flatMap escape).length := by
  induction chars with
  | nil => exact Nat.le_refl 0
  | cons char chars ih =>
      have filled : 1 ≤ (escape char).length := by
        unfold escape
        split_ifs
        all_goals simp only [List.length_cons, Nat.le_add_left]
      rw [List.flatMap_cons, List.length_cons, List.length_append]
      omega

/-! ## Numbers -/

/-- A natural number, without zeros in front. -/
def readNumber (text : List Char) : Option (Nat × List Char) :=
  let digits := text.takeWhile Char.isDigit
  if digits = [] ∨ (digits.head? = some '0' ∧ digits ≠ ['0']) then none
  else some (Nat.ofDigitChars 10 digits 0, text.drop digits.length)

/-- What follows a number does not go on with it. -/
def EndsNumber (rest : List Char) : Prop := ∀ char ∈ rest.head?, char.isDigit = false

theorem head?_toDigits {number : Nat} (positive : 0 < number) :
    (Nat.toDigits 10 number).head? ≠ some '0' := by
  induction number using Nat.strongRecOn with
  | ind number ih =>
      by_cases single : number < 10
      · rw [Nat.toDigits_of_lt_base single, List.head?_cons, ne_eq, Option.some.injEq,
          Nat.digitChar_eq_zero]
        omega
      · rw [Nat.toDigits_of_base_le (by decide) (Nat.le_of_not_lt single),
          List.head?_append_of_ne_nil _ Nat.toDigits_ne_nil]
        exact ih (number / 10) (by omega) (by omega)

theorem readNumber_toDigits (number : Nat) {rest : List Char} (ends : EndsNumber rest) :
    readNumber (Nat.toDigits 10 number ++ rest) = some (number, rest) := by
  have digits : ∀ char ∈ Nat.toDigits 10 number, char.isDigit = true := by
    intro char member
    exact Nat.isDigit_of_mem_toDigits (by decide) (by decide) member
  have stops : rest.takeWhile Char.isDigit = [] := by
    cases rest with
    | nil => rfl
    | cons char rest => exact List.takeWhile_cons_of_neg (by simp [ends char rfl])
  have taken :
      (Nat.toDigits 10 number ++ rest).takeWhile Char.isDigit = Nat.toDigits 10 number := by
    rw [List.takeWhile_append_of_pos digits, stops, List.append_nil]
  have filled : Nat.toDigits 10 number ≠ [] := Nat.toDigits_ne_nil
  have leading :
      ¬ ((Nat.toDigits 10 number).head? = some '0' ∧ Nat.toDigits 10 number ≠ ['0']) := by
    rintro ⟨zero, longer⟩
    cases number with
    | zero => exact longer rfl
    | succ number => exact head?_toDigits (Nat.succ_pos number) zero
  unfold readNumber
  simp only [taken, filled, leading, or_self, if_false, List.drop_left,
    Nat.ofDigitChars_ten_toDigits]

/-! ## Values -/

mutual

/-- The value that a text begins with, found in at most so many steps. -/
def readValue : (limit : Nat) → List Char → Option (Value × List Char)
  | 0, _ => none
  | limit + 1, text =>
      match text with
      | 'n' :: 'u' :: 'l' :: 'l' :: rest => some (.null, rest)
      | 't' :: 'r' :: 'u' :: 'e' :: rest => some (.boolean true, rest)
      | 'f' :: 'a' :: 'l' :: 's' :: 'e' :: rest => some (.boolean false, rest)
      | '\x22' :: rest => (readText limit rest).map fun read => (.text (.ofList read.1), read.2)
      | '[' :: rest =>
          match skipBlank rest with
          | ']' :: rest => some (.array [], rest)
          | start => do
              let (item, rest) ← readValue limit start
              let (items, rest) ← readItems limit (skipBlank rest)
              return (.array (item :: items), rest)
      | '\x7b' :: rest =>
          match skipBlank rest with
          | '\x7d' :: rest => some (.object [], rest)
          | start => do
              let (field, rest) ← readField limit start
              let (fields, rest) ← readFields limit (skipBlank rest)
              return (.object (field :: fields), rest)
      | _ => (readNumber text).map fun read => (.number read.1, read.2)

/-- The items behind the first of an array, and its closing bracket. -/
def readItems : (limit : Nat) → List Char → Option (List Value × List Char)
  | 0, _ => none
  | _ + 1, ']' :: rest => some ([], rest)
  | limit + 1, ',' :: rest => do
      let (item, rest) ← readValue limit (skipBlank rest)
      let (items, rest) ← readItems limit (skipBlank rest)
      return (item :: items, rest)
  | _ + 1, _ => none

/-- A name in quotes, a colon and a value. -/
def readField : (limit : Nat) → List Char → Option ((String × Value) × List Char)
  | 0, _ => none
  | limit + 1, '\x22' :: rest => do
      let (name, rest) ← readText limit rest
      match skipBlank rest with
      | ':' :: rest => do
          let (value, rest) ← readValue limit (skipBlank rest)
          return ((.ofList name, value), rest)
      | _ => none
  | _ + 1, _ => none

/-- The fields behind the first of an object, and its closing brace. -/
def readFields : (limit : Nat) → List Char → Option (List (String × Value) × List Char)
  | 0, _ => none
  | _ + 1, '\x7d' :: rest => some ([], rest)
  | limit + 1, ',' :: rest => do
      let (field, rest) ← readField limit (skipBlank rest)
      let (fields, rest) ← readFields limit (skipBlank rest)
      return (field :: fields, rest)
  | _ + 1, _ => none

end

/-- The value of a text.  Every step takes at least one character, so that their number bounds
that of the steps. -/
def parse? (text : String) : Option Value := do
  let (value, rest) ← readValue text.length (skipBlank text.toList)
  if (skipBlank rest).isEmpty then return value
  none

/-! ## The text of a value -/

/-- The text does not start with a blank or a closing bracket. -/
def Starts (text : List Char) : Prop :=
  ∃ char rest, text = char :: rest ∧ isBlank char = false ∧ char ≠ ']' ∧ char ≠ '\x7d'

theorem Starts.append {text : List Char} (starts : Starts text) (rest : List Char) :
    Starts (text ++ rest) := by
  obtain ⟨char, others, rfl, solid, other⟩ := starts
  exact ⟨char, others ++ rest, rfl, solid, other⟩

theorem Starts.skipBlank {text : List Char} (starts : Starts text) :
    Json.skipBlank text = text := by
  obtain ⟨char, rest, rfl, solid, -⟩ := starts
  exact skipBlank_cons solid rest

theorem Starts.skipBlank_newline {text : List Char} (starts : Starts text) (level : Nat) :
    Json.skipBlank (newline level ++ text) = text := by
  rw [Json.skipBlank_newline, starts.skipBlank]

theorem Starts.ne {text rest : List Char} {char : Char} (starts : Starts text)
    (shape : text = char :: rest) : char ≠ ']' ∧ char ≠ '\x7d' := by
  obtain ⟨first, others, same, -, other⟩ := starts
  rw [shape] at same
  obtain ⟨rfl, -⟩ := List.cons.inj same
  exact other

theorem starts_quote (text : String) : Starts (quote text) :=
  ⟨'\x22', _, rfl, by decide, by decide, by decide⟩

/-- The first digit of a number is one. -/
theorem exists_digit (number : Nat) :
    ∃ char rest, Nat.toDigits 10 number = char :: rest ∧ char.isDigit = true := by
  obtain ⟨char, rest, shape⟩ := List.exists_cons_of_ne_nil (@Nat.toDigits_ne_nil number 10)
  have member : char ∈ Nat.toDigits 10 number := by
    rw [shape]
    exact List.mem_cons_self
  exact ⟨char, rest, shape, Nat.isDigit_of_mem_toDigits (by decide) (by decide) member⟩

theorem starts_write (level : Nat) (value : Value) : Starts (write level value) := by
  cases value with
  | null => exact ⟨'n', _, rfl, by decide, by decide, by decide⟩
  | boolean value =>
      cases value with
      | true => exact ⟨'t', _, rfl, by decide, by decide, by decide⟩
      | false => exact ⟨'f', _, rfl, by decide, by decide, by decide⟩
  | number value =>
      obtain ⟨char, rest, shape, digit⟩ := exists_digit value
      have other (foreign : Char) (known : foreign.isDigit = false) : char ≠ foreign := by
        rintro rfl
        rw [digit] at known
        cases known
      refine ⟨char, rest, shape, ?_, other ']' rfl, other '\x7d' rfl⟩
      simp only [isBlank, Bool.or_eq_false_iff, beq_eq_false_iff_ne]
      exact ⟨⟨⟨other ' ' rfl, other '\t' rfl⟩, other '\n' rfl⟩, other '\x0d' rfl⟩
  | text value => exact starts_quote value
  | array items => cases items <;> exact ⟨'[', _, rfl, by decide, by decide, by decide⟩
  | object fields => cases fields <;> exact ⟨'\x7b', _, rfl, by decide, by decide, by decide⟩

/-! ## Steps of the reader -/

variable {limit : Nat} {text rest behind : List Char}

theorem readValue_number (number : Nat) (ends : EndsNumber rest) :
    readValue (limit + 1) (Nat.toDigits 10 number ++ rest) = some (.number number, rest) := by
  have read := readNumber_toDigits number ends
  obtain ⟨char, others, shape, digit⟩ := exists_digit number
  rw [shape, List.cons_append] at read ⊢
  rw [readValue, read]
  · rfl
  -- no other form of a value starts with a digit
  all_goals
    intro _ begun
    obtain ⟨rfl, -⟩ := List.cons.inj begun
    cases digit

theorem readValue_quote (value : String) (enough : (quote value).length ≤ limit + 1)
    (rest : List Char) :
    readValue (limit + 1) (quote value ++ rest) = some (.text value, rest) := by
  have short := length_flatMap_escape value.toList
  have read := readText_quoted limit value.toList (by
    simp only [quote, List.length_cons, List.length_append, List.length_nil] at enough
    omega) rest
  simp [quote, readValue, read]

theorem readValue_array {start after : List Char} {item : Value} {items : List Value}
    (starts : Starts start) (first : readValue limit start = some (item, behind))
    (others : readItems limit (skipBlank behind) = some (items, after)) (level : Nat) :
    readValue (limit + 1) ('[' :: (newline level ++ start)) =
      some (.array (item :: items), after) := by
  have begins := starts.skipBlank_newline level
  rw [readValue, begins]
  split
  · exact absurd rfl (starts.ne rfl).1
  · simp only [first, others, Option.bind_eq_bind, Option.bind_some, Option.pure_def]

theorem readItems_cons {start after : List Char} {item : Value} {items : List Value}
    (starts : Starts start) (first : readValue limit start = some (item, behind))
    (others : readItems limit (skipBlank behind) = some (items, after)) (level : Nat) :
    readItems (limit + 1) (',' :: (newline level ++ start)) = some (item :: items, after) := by
  simp only [readItems, starts.skipBlank_newline, first, others, Option.bind_eq_bind,
    Option.bind_some, Option.pure_def]

theorem readField_quote {start : List Char} {value : Value} (name : String)
    (enough : (quote name).length ≤ limit + 1) (starts : Starts start)
    (read : readValue limit start = some (value, behind)) :
    readField (limit + 1) (quote name ++ ([':', ' '] ++ start)) = some ((name, value), behind) := by
  have colon : skipBlank (':' :: ' ' :: start) = ':' :: ' ' :: start := rfl
  have begins : skipBlank (' ' :: start) = start := starts.skipBlank
  have short := length_flatMap_escape name.toList
  have named := readText_quoted limit name.toList (by
    simp only [quote, List.length_cons, List.length_append, List.length_nil] at enough
    omega) (':' :: ' ' :: start)
  simp only [quote, List.cons_append, List.append_assoc, List.nil_append, readField, named, colon,
    begins, read, Option.bind_eq_bind, Option.bind_some, Option.pure_def, String.ofList_toList]

theorem readValue_object {start after : List Char} {field : String × Value}
    {fields : List (String × Value)} (starts : Starts start)
    (first : readField limit start = some (field, behind))
    (others : readFields limit (skipBlank behind) = some (fields, after)) (level : Nat) :
    readValue (limit + 1) ('\x7b' :: (newline level ++ start)) =
      some (.object (field :: fields), after) := by
  have begins := starts.skipBlank_newline level
  rw [readValue, begins]
  split
  · exact absurd rfl (starts.ne rfl).2
  · simp only [first, others, Option.bind_eq_bind, Option.bind_some, Option.pure_def]

theorem readFields_cons {start after : List Char} {field : String × Value}
    {fields : List (String × Value)} (starts : Starts start)
    (first : readField limit start = some (field, behind))
    (others : readFields limit (skipBlank behind) = some (fields, after)) (level : Nat) :
    readFields (limit + 1) (',' :: (newline level ++ start)) = some (field :: fields, after) := by
  simp only [readFields, starts.skipBlank_newline, first, others, Option.bind_eq_bind,
    Option.bind_some, Option.pure_def]

/-! ## Values are read back -/

theorem endsNumber_items (level outer : Nat) (items : List Value) (rest : List Char) :
    EndsNumber (writeItems level items ++ (newline outer ++ rest)) := by
  intro char leading
  cases items with
  | nil =>
      obtain rfl := Option.some.inj leading
      rfl
  | cons item items =>
      obtain rfl := Option.some.inj leading
      rfl

theorem endsNumber_fields (level outer : Nat) (fields : List (String × Value))
    (rest : List Char) : EndsNumber (writeFields level fields ++ (newline outer ++ rest)) := by
  intro char leading
  cases fields with
  | nil =>
      obtain rfl := Option.some.inj leading
      rfl
  | cons field fields =>
      obtain rfl := Option.some.inj leading
      rfl

/-- What is read back in so many steps: everything whose text is no longer than that. -/
structure ReadsBack (limit : Nat) : Prop where
  value : ∀ value level rest, (write level value).length ≤ limit → EndsNumber rest →
    readValue limit (write level value ++ rest) = some (value, rest)
  items : ∀ items level outer rest, (writeItems level items).length + 1 ≤ limit →
    readItems limit (skipBlank (writeItems level items ++ (newline outer ++ ']' :: rest))) =
      some (items, rest)
  field : ∀ name value level rest, (quote name ++ write level value).length + 2 ≤ limit →
    EndsNumber rest →
    readField limit (quote name ++ ([':', ' '] ++ (write level value ++ rest))) =
      some ((name, value), rest)
  fields : ∀ fields level outer rest, (writeFields level fields).length + 1 ≤ limit →
    readFields limit (skipBlank (writeFields level fields ++ (newline outer ++ '\x7d' :: rest))) =
      some (fields, rest)

namespace ReadsBack

variable (readsBack : ReadsBack limit)

include readsBack

theorem value_succ (value : Value) (level : Nat)
    (enough : (write level value).length ≤ limit + 1) (ends : EndsNumber rest) :
    readValue (limit + 1) (write level value ++ rest) = some (value, rest) := by
  match value with
  | .null => rfl
  | .boolean true => rfl
  | .boolean false => rfl
  | .number number => exact readValue_number number ends
  | .text text => exact readValue_quote text enough rest
  | .array [] => rfl
  | .array (item :: items) =>
      simp only [write, newline, List.length_cons, List.length_append, List.length_nil] at enough
      have first := readsBack.value item (level + 1)
        (writeItems (level + 1) items ++ (newline level ++ ']' :: rest)) (by omega)
        (endsNumber_items (level + 1) level items (']' :: rest))
      have others := readsBack.items items (level + 1) level rest (by omega)
      have read :=
        readValue_array ((starts_write (level + 1) item).append _) first others (level + 1)
      simpa only [write, List.cons_append, List.append_assoc, List.nil_append] using read
  | .object [] => rfl
  | .object ((name, value) :: fields) =>
      simp only [write, newline, List.length_cons, List.length_append, List.length_nil] at enough
      have first := readsBack.field name value (level + 1)
        (writeFields (level + 1) fields ++ (newline level ++ '\x7d' :: rest))
        (by rw [List.length_append]; omega)
        (endsNumber_fields (level + 1) level fields ('\x7d' :: rest))
      have others := readsBack.fields fields (level + 1) level rest (by omega)
      have read := readValue_object ((starts_quote name).append _) first others (level + 1)
      simpa only [write, List.cons_append, List.append_assoc, List.nil_append] using read

theorem items_succ (items : List Value) (level outer : Nat)
    (enough : (writeItems level items).length + 1 ≤ limit + 1) :
    readItems (limit + 1) (skipBlank (writeItems level items ++ (newline outer ++ ']' :: rest))) =
      some (items, rest) := by
  cases items with
  | nil =>
      rw [writeItems, List.nil_append, skipBlank_newline]
      rfl
  | cons item items =>
      simp only [writeItems, newline, List.length_cons, List.length_append] at enough
      have first := readsBack.value item level
        (writeItems level items ++ (newline outer ++ ']' :: rest)) (by omega)
        (endsNumber_items level outer items (']' :: rest))
      have others := readsBack.items items level outer rest (by omega)
      have read := readItems_cons ((starts_write level item).append _) first others level
      rw [writeItems, List.cons_append, skipBlank_cons (by decide)]
      simpa only [List.append_assoc] using read

theorem field_succ (name : String) (value : Value) (level : Nat)
    (enough : (quote name ++ write level value).length + 2 ≤ limit + 1) (ends : EndsNumber rest) :
    readField (limit + 1) (quote name ++ ([':', ' '] ++ (write level value ++ rest))) =
      some ((name, value), rest) := by
  rw [List.length_append] at enough
  have read := readsBack.value value level rest (by omega) ends
  exact readField_quote name (by omega) ((starts_write level value).append rest) read

theorem fields_succ (fields : List (String × Value)) (level outer : Nat)
    (enough : (writeFields level fields).length + 1 ≤ limit + 1) :
    readFields (limit + 1)
        (skipBlank (writeFields level fields ++ (newline outer ++ '\x7d' :: rest))) =
      some (fields, rest) := by
  cases fields with
  | nil =>
      rw [writeFields, List.nil_append, skipBlank_newline]
      rfl
  | cons field fields =>
      obtain ⟨name, value⟩ := field
      simp only [writeFields, newline, List.length_cons, List.length_append, List.length_nil]
        at enough
      have first := readsBack.field name value level
        (writeFields level fields ++ (newline outer ++ '\x7d' :: rest))
        (by rw [List.length_append]; omega)
        (endsNumber_fields level outer fields ('\x7d' :: rest))
      have others := readsBack.fields fields level outer rest (by omega)
      have read := readFields_cons ((starts_quote name).append _) first others level
      rw [writeFields, List.cons_append, skipBlank_cons (by decide)]
      simpa only [List.cons_append, List.append_assoc, List.nil_append] using read

end ReadsBack

theorem readsBack (limit : Nat) : ReadsBack limit := by
  induction limit with
  | zero =>
      refine ⟨?_, ?_, ?_, ?_⟩
      · intro value level rest enough
        obtain ⟨_, _, shape, -⟩ := starts_write level value
        rw [shape] at enough
        exact absurd enough (Nat.not_succ_le_zero _)
      all_goals
        intros
        omega
  | succ limit ih =>
      exact ⟨fun value level _ => ih.value_succ value level,
        fun items level outer _ => ih.items_succ items level outer,
        fun name value level _ => ih.field_succ name value level,
        fun fields level outer _ => ih.fields_succ fields level outer⟩

-- Other texts of a value than the one that is written are read as well.
example : parse? " [0,\t\x22\\u20ac\\ud83d\\ude00\\/\x22 , null]\n" =
    some (.array [.number 0, .text "€😀/", .null]) := by
  rfl

end CertScope.Json
