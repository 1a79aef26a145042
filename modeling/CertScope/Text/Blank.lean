/-!
# Blank characters and lines

The Unicode property `White_Space`, and the lines of a text.
-/

namespace CertScope.Text

/-- The characters with the Unicode property `White_Space`. -/
def isBlank (char : Char) : Bool :=
  let code := char.toNat
  (9 ≤ code && code ≤ 13) || code == 0x20 || code == 0x85 || code == 0xA0 ||
    code == 0x1680 || (0x2000 ≤ code && code ≤ 0x200A) || code == 0x2028 ||
    code == 0x2029 || code == 0x202F || code == 0x205F || code == 0x3000

def dropBlanks (chars : List Char) : List Char := chars.filter (!isBlank ·)

/-- The lines of a text. A line feed ends a line together with a carriage
return in front of it, and an empty last line is none. -/
def lines (chars : List Char) : List (List Char) :=
  let finish (reversed : List Char) : List Char :=
    match reversed with
    | '\r' :: before => before.reverse
    | all => all.reverse
  let rec go (current : List Char) : List Char → List (List Char)
    | [] => if current.isEmpty then [] else [current.reverse]
    | '\n' :: rest => finish current :: go [] rest
    | char :: rest => go (char :: current) rest
  go [] chars

end CertScope.Text
