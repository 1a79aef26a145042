import CertScope.Text.Composition

/-!
# Composed text

Normalization form C: text is taken apart, the marks on each base are ordered
by their classes, and what can be composed is composed.
-/

namespace CertScope.Normal

/-! ## Hangul syllables -/

def syllableBase : Nat := 0xAC00

/-- The two characters that a syllable stands for, or its first two parts. -/
def splitSyllable? (code : Nat) : Option (Nat × Nat) :=
  if syllableBase ≤ code ∧ code < syllableBase + 19 * 588 then
    let index := code - syllableBase
    if index % 28 = 0 then some (0x1100 + index / 588, 0x1161 + index / 28 % 21)
    else some (code - index % 28, 0x11A7 + index % 28)
  else none

def joinSyllable? (first second : Nat) : Option Nat :=
  if 0x1100 ≤ first ∧ first < 0x1113 ∧ 0x1161 ≤ second ∧ second < 0x1176 then
    some (syllableBase + ((first - 0x1100) * 21 + (second - 0x1161)) * 28)
  else if syllableBase ≤ first ∧ first < syllableBase + 19 * 588 ∧
      (first - syllableBase) % 28 = 0 ∧ 0x11A8 ≤ second ∧ second < 0x11C3 then
    some (first + (second - 0x11A7))
  else none

/-- A syllable that was taken apart is made again. -/
example : (splitSyllable? 0xD55C).bind (fun parts => joinSyllable? parts.1 parts.2)
    = some 0xD55C := by decide

/-! ## Pairs -/

def split? (char : Char) : Option (Char × Char) :=
  match splitSyllable? char.toNat with
  | some (first, second) => some (Char.ofNat first, Char.ofNat second)
  | none =>
      match (CharTable.find? composites char).map (·.codes char) with
      | some [first, second] => some (Char.ofNat first, Char.ofNat second)
      | _ => none

def join? (first second : Char) : Option Char :=
  match joinSyllable? first.toNat second.toNat with
  | some code => some (Char.ofNat code)
  | none =>
      (composites.find? (·.entry = .constant [first.toNat, second.toNat])).map
        (Char.ofNat ·.first)

/-! ## The three passes -/

/-- What a character stands for, taken apart at most `depth` times. -/
def decompose : Nat → Char → List Char
  | 0, char => [char]
  | depth + 1, char =>
      match split? char with
      | some (first, second) => decompose depth first ++ [second]
      | none => [char]

/-- Put a character in front of ordered text: a mark goes behind marks of
smaller classes. -/
def place (char : Char) : List Char → List Char
  | [] => [char]
  | next :: rest =>
      if combiningClass next ≠ 0 ∧ combiningClass next < combiningClass char then
        next :: place char rest
      else char :: next :: rest

def order (text : List Char) : List Char := text.foldr place []

structure Composing where
  /-- What is done, the last character first. -/
  done : List Char
  base : Option Char
  /-- The marks that stay apart from the base, the last first. -/
  marks : List Char

def Composing.finish (state : Composing) : List Char :=
  state.marks ++ state.base.toList ++ state.done

/-- Take one more character. A mark of the same class, or of a greater one,
keeps it from the base. -/
def Composing.take (state : Composing) (char : Char) : Composing :=
  let free := match state.marks.head? with
    | some mark => decide (combiningClass mark < combiningClass char)
    | none => true
  let joined := if free then state.base.bind (join? · char) else none
  match joined with
  | some base => { state with base := some base }
  | none =>
      if combiningClass char = 0 then ⟨state.finish, some char, []⟩
      else { state with marks := char :: state.marks }

def compose (text : List Char) : List Char :=
  (text.foldl Composing.take ⟨[], none, []⟩).finish.reverse

/-- The composed form of a text. No character has to be taken apart more than
four times. -/
def composed (text : List Char) : List Char := compose (order (text.flatMap (decompose 4)))

end CertScope.Normal
