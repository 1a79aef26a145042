import CertScope.Idna.Property
import CertScope.Text.Composition

/-!
# Labels

What a label of an internationalized host name may look like: it begins with no
mark, joiners stand only where they change how letters look, and in a name with
letters written from right to left every label keeps one direction.
-/

namespace CertScope.Idna

/-! ## Joiners -/

def viramaClass : Nat := 9

/-- Whether the nearest letter that joining does not pass over joins in one of
the given ways. -/
def joinsNearest (ways : List Joining) (text : List Char) : Bool :=
  match (text.map joining).dropWhile (· == .transparent) with
  | way :: _ => ways.contains way
  | [] => false

/-- Whether a joiner may stand between two parts of a label, the first given
from its end. After a sign that suppresses a vowel either joiner may; the one
that keeps letters apart may also stand between letters that would join. -/
def mayJoin (joiner : Char) (before after : List Char) : Bool :=
  match before with
  | [] => false
  | last :: _ =>
      combiningClassIs last viramaClass ||
        (joiner == Char.ofNat 0x200C && joinsNearest [.following, .both] before &&
          joinsNearest [.preceding, .both] after)
where
  combiningClassIs (char : Char) (value : Nat) : Bool := Normal.combiningClass char == value

/-- Whether all joiners of a label stand where they may. `before` is what has
been passed, from its end. -/
def joinersAllowed (before : List Char) : List Char → Bool
  | [] => true
  | char :: after =>
      (if char == Char.ofNat 0x200C || char == Char.ofNat 0x200D then mayJoin char before after
        else true) &&
        joinersAllowed (char :: before) after

def isLabel (label : List Char) : Bool :=
  !(label.head?.any isMark) && joinersAllowed [] label

/-! ## Directions -/

/-- Whether a character makes a name one that is written in both directions. -/
def turnsAround (char : Char) : Bool :=
  match direction char with
  | .rightToLeft | .arabicNumber => true
  | _ => false

def fitsLeftToRight : Direction → Bool
  | .leftToRight | .europeanNumber | .neutral | .nonspacing => true
  | _ => false

def fitsRightToLeft : Direction → Bool
  | .rightToLeft | .arabicNumber | .europeanNumber | .neutral | .nonspacing => true
  | _ => false

/-- The rule of RFC 5893 for a label: its first character is a letter and sets
the direction, all others fit it, the last that takes room is a letter or a
digit, and one from right to left has digits of one kind. -/
def keepsDirection (label : List Char) : Bool :=
  match label.map direction with
  | [] => true
  | first :: others =>
      let inside := (others.reverse.dropWhile (· == .nonspacing)).reverse
      match first with
      | .leftToRight =>
          inside.all fitsLeftToRight && inside.getLast?.all fun last =>
            last == .leftToRight || last == .europeanNumber
      | .rightToLeft =>
          inside.all fitsRightToLeft &&
            (inside.getLast?.all fun last =>
              last == .rightToLeft || last == .europeanNumber || last == .arabicNumber) &&
            !(inside.contains .europeanNumber && inside.contains .arabicNumber)
      | _ => false

end CertScope.Idna
