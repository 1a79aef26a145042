/-!
# Punycode

RFC 3492: a label with characters beyond ASCII is written with its ASCII
characters first and then the places and values of all others, as differences
in a mixed radix that adapts to what was written so far.
-/

namespace CertScope.Idna.Punycode

def digit (value : Nat) : Char :=
  if value < 26 then Char.ofNat (97 + value) else Char.ofNat (22 + value)

def digitValue? (char : Char) : Option Nat :=
  if 'a' ≤ char ∧ char ≤ 'z' then some (char.toNat - 97)
  else if 'A' ≤ char ∧ char ≤ 'Z' then some (char.toNat - 65)
  else if '0' ≤ char ∧ char ≤ '9' then some (char.toNat - 22)
  else none

/-- A digit below the threshold ends a number. -/
def threshold (position bias : Nat) : Nat := max 1 (min 26 (position - bias))

theorem threshold_pos (position bias : Nat) : 1 ≤ threshold position bias := by
  unfold threshold; omega

/-- Bring a difference into range, counting the positions that it takes. -/
def settle (delta position : Nat) : Nat :=
  if 455 < delta then settle (delta / 35) (position + 36)
  else position + 36 * delta / (delta + 38)
termination_by delta
decreasing_by omega

/-- The bias after a difference has been written among `count` characters. -/
def adapt (delta count : Nat) (first : Bool) : Nat :=
  let damped := if first then delta / 700 else delta / 2
  settle (damped + damped / count) 0

/-! ## Writing -/

/-- A number in digits, the least first. -/
def writeNumber (bias position number : Nat) : List Char :=
  let limit := threshold position bias
  if number < limit then [digit number]
  else
    digit (limit + (number - limit) % (36 - limit)) ::
      writeNumber bias (position + 36) ((number - limit) / (36 - limit))
termination_by number
decreasing_by
  have := threshold_pos position bias
  have := Nat.div_le_self (number - threshold position bias) (36 - threshold position bias)
  omega

structure Writing where
  /-- What is written, the last character first. -/
  output : List Char
  delta : Nat
  bias : Nat
  count : Nat

/-- Pass over a character of the text while those with code `code` are written.
`plain` is the number of ASCII characters. -/
def Writing.pass (plain code : Nat) (state : Writing) (char : Char) : Writing :=
  if char.toNat < code then { state with delta := state.delta + 1 }
  else if char.toNat = code then
    ⟨(writeNumber state.bias 36 state.delta).reverse ++ state.output, 0,
      adapt state.delta (state.count + 1) (state.count == plain), state.count + 1⟩
  else state

/-- Write the characters with the given codes, which ascend from `next` on. -/
def writeCodes (text : List Char) (plain : Nat) (state : Writing) (next : Nat) :
    List Nat → Writing
  | [] => state
  | code :: codes =>
      let ready := { state with delta := state.delta + (code - next) * (state.count + 1) }
      let passed := text.foldl (Writing.pass plain code) ready
      writeCodes text plain { passed with delta := passed.delta + 1 } (code + 1) codes

def encode (text : List Char) : List Char :=
  let plain := text.filter (·.toNat < 128)
  let codes := ((text.filter (128 ≤ ·.toNat)).map Char.toNat).mergeSort.eraseDups
  let written := writeCodes text plain.length ⟨[], 0, 72, plain.length⟩ 128 codes
  plain ++ (if plain.isEmpty then [] else ['-']) ++ written.output.reverse

/-! ## Reading -/

def limit : Nat := 1 <<< 32

def readNumber (bias position weight total : Nat) : List Char → Option (Nat × List Char)
  | [] => none
  | char :: rest => do
      let value ← digitValue? char
      let total := total + value * weight
      if limit ≤ total then none
      else if value < threshold position bias then some (total, rest)
      else
        let weight := weight * (36 - threshold position bias)
        if limit ≤ weight then none
        else readNumber bias (position + 36) weight total rest

theorem length_of_readNumber {bias position weight total : Nat} {text rest : List Char}
    {value : Nat} (read : readNumber bias position weight total text = some (value, rest)) :
    rest.length < text.length := by
  induction text generalizing position weight total with
  | nil => simp [readNumber] at read
  | cons char tail ih =>
      simp only [readNumber, Option.bind_eq_bind, Option.bind_eq_some_iff] at read
      obtain ⟨value, _, read⟩ := read
      split at read
      · simp at read
      · split at read
        · simp_all
        · split at read
          · simp at read
          · have := ih read
            simp only [List.length_cons]
            omega

def readCodes (output : List Char) (code place bias : Nat) (text : List Char) :
    Option (List Char) :=
  if text.isEmpty then some output
  else
    match _read : readNumber bias 36 1 place text with
    | none => none
    | some (total, rest) =>
        let count := output.length + 1
        let code := code + total / count
        if code.isValidChar then
          let here := total % count
          readCodes (output.insertIdx here (Char.ofNat code)) code (here + 1)
            (adapt (total - place) count (place == 0)) rest
        else none
termination_by text.length
decreasing_by exact length_of_readNumber _read

/-- Read a text in Punycode. The last hyphen that has something in front of it
ends the ASCII characters. -/
def decode? (text : List Char) : Option (List Char) :=
  let (codes, plain) := (text.reverse.takeWhile (· != '-'), text.reverse.dropWhile (· != '-'))
  match plain with
  | _ :: first :: plain => readCodes (first :: plain).reverse 128 0 72 codes.reverse
  | _ => readCodes [] 128 0 72 text

end CertScope.Idna.Punycode
