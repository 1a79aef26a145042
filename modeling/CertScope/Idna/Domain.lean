import CertScope.Idna.Label
import CertScope.Idna.Mapping
import CertScope.Idna.Punycode
import CertScope.Text.Normal

/-!
# Host names in ASCII

A host name is mapped and composed, cut into labels, and every label beyond
ASCII is written in Punycode behind `xn--`. A label that begins so already has
to be what this writes. Hyphens may stand anywhere and labels be of any length.
-/

namespace CertScope.Idna

def punycodeMark : List Char := ['x', 'n', '-', '-']

def isBeyondAscii (char : Char) : Bool := 128 ≤ char.toNat

def isForbidden (char : Char) : Bool :=
  char.toNat ≤ 0x20 || char == '\x7F' ||
    ['%', '#', '/', ':', '<', '>', '?', '@', '[', '\\', ']', '^', '|'].contains char

def prepare? (text : List Char) : Option (List Char) := (mapText? text).map Normal.composed

structure Label where
  unicode : List Char
  ascii : List Char

/-- The most characters of a label that are written in Punycode. -/
def maxWritten : Nat := 1000

/-- The most characters of a label in Punycode that are read. -/
def maxRead : Nat := 2000

/-- Read a prepared label. One in Punycode is ASCII and holds a prepared text that
is not. -/
def Label.read? (text : List Char) : Option Label :=
  let isPlain := !text.any isBeyondAscii
  if punycodeMark.isPrefixOf text then
    let written := text.drop punycodeMark.length
    if isPlain && written.length ≤ maxRead then do
      let unicode ← Punycode.decode? written
      if unicode.any isBeyondAscii && !unicode.contains '.' && prepare? unicode == some unicode
      then some ⟨unicode, text⟩
      else none
    else none
  else if isPlain then some ⟨text, text⟩
  else if text.length ≤ maxWritten then some ⟨text, punycodeMark ++ Punycode.encode text⟩
  else none

def areLabels (labels : List (List Char)) : Bool :=
  labels.all (fun label => isLabel label && !label.any isForbidden) &&
    (!labels.any (·.any turnsAround) || labels.all keepsDirection)

def toAscii? (name : List Char) : Option String := do
  let prepared ← prepare? name
  let labels ← (prepared.splitOn '.').mapM Label.read?
  if areLabels (labels.map (·.unicode)) then
    some (String.intercalate "." (labels.map fun label => String.ofList label.ascii))
  else none

end CertScope.Idna
