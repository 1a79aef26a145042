import CertScope.Asn1.Node
import CertScope.X509.Fault

/-!
# Distinguished names

A name is a sequence of sets of attributes. It is compared and hashed in its
encoded form, and shown as text with the usual abbreviations for the attribute
types. A set that cannot be decoded ends the name.
-/

namespace CertScope.X509

open Asn1

structure Attribute where
  kind : Oid
  value : Element
  deriving DecidableEq, Repr

/-- A name: its sets of attributes, and its encoded form as far as it could be
decoded. -/
structure Name where
  parts : List (List Attribute)
  raw : Bytes
  deriving DecidableEq, Repr

def readAttribute : Reader Fault Attribute :=
  readContainer Tag.sequence fun bytes => do
    let (kind, rest) ← orElse .name (readOid bytes)
    let (value, _) ← orElse .name (readElement rest)
    return ⟨kind, value⟩

def readNamePart : Reader Fault (List Attribute) :=
  readContainer Tag.set fun bytes =>
    match readMany readAttribute bytes.length bytes with
    | ([], _) => .error (.refused .endOfInput)
    | (attributes, _) => .ok attributes

def readName : Reader Fault Name := fun bytes => do
  let ((parts, left), rest) ←
    readContainer Tag.sequence
      (fun contents => .ok (readMany readNamePart contents.length contents)) bytes
  return (⟨parts, bytes.take (bytes.length - rest.length - left.length)⟩, rest)

namespace Name

def attributes (name : Name) : List Attribute := name.parts.flatten

/-- Attribute types of the X.500 family, by the last arc of 2.5.4. -/
def x500Label? (arc : Nat) : Option String :=
  [(0, "objectClass"), (1, "aliasedEntryName"), (2, "knowledgeInformation"), (3, "CN"),
    (4, "surname"), (5, "serialNumber"), (6, "C"), (7, "L"), (8, "ST"),
    (9, "streetAddress"), (10, "O"), (11, "OU"), (12, "title"), (13, "description"),
    (14, "searchGuide"), (15, "businessCategory"), (16, "postalAddress"),
    (17, "postalCode"), (41, "name"), (42, "givenName"), (43, "initials"),
    (44, "generationQualifier"), (45, "uniqueIdentifier"), (46, "dnQualifier")].lookup arc

/-- How an attribute type is abbreviated; one without a known name is shown by
its number. -/
def label (kind : Oid) : String :=
  let known := match kind.components with
    | [2, 5, 4, arc] => x500Label? arc
    | [0, 9, 2342, 19200300, 100, 1, 1] => some "uid"
    | [0, 9, 2342, 19200300, 100, 1, 25] => some "DC"
    | [1, 2, 840, 113549, 1, 9, 1] => some "Email"
    | [1, 2, 840, 113549, 1, 9, 2] => some "unstructuredName"
    | [1, 2, 840, 113549, 1, 9, 3] => some "contentType"
    | [1, 2, 840, 113549, 1, 9, 4] => some "id-messageDigest"
    | [1, 2, 840, 113549, 1, 9, 5] => some "signing-time"
    | [1, 2, 840, 113549, 1, 9, 7] => some "challengePassword"
    | [1, 2, 840, 113549, 1, 9, 14] => some "extensionRequest"
    | [1, 2, 840, 113549, 1, 9, 15] => some "smimeCapabilities"
    | [1, 2, 840, 113549, 1, 9, 20] => some "friendlyName"
    | [1, 3, 6, 1, 4, 1, 311, 60, 2, 1, 1] => some "msJurisdictionLocality"
    | [1, 3, 6, 1, 4, 1, 311, 60, 2, 1, 2] => some "msJurisdictionStateOrProvince"
    | [1, 3, 6, 1, 4, 1, 311, 60, 2, 1, 3] => some "msJurisdictionCountry"
    | _ => none
  known.getD ("OID(" ++ kind.dotted ++ ")")

/-- Pairs of octets as 16-bit units; a last single octet is a unit of its own. -/
def units16 : Bytes → List Nat
  | [] => []
  | [low] => [low.toNat]
  | high :: low :: rest => (high.toNat * 256 + low.toNat) :: units16 rest

/-- The characters that 16-bit units encode; unpaired surrogates are refused. -/
def charsOfUnits16? : List Nat → Option (List Char)
  | [] => some []
  | unit :: rest =>
      if unit < 0xD800 ∨ 0xE000 ≤ unit then
        (charsOfUnits16? rest).map (Char.ofNat unit :: ·)
      else
        match rest with
        | low :: rest =>
            if unit < 0xDC00 ∧ 0xDC00 ≤ low ∧ low < 0xE000 then
              (charsOfUnits16? rest).map
                (Char.ofNat ((unit - 0xD800) * 1024 + (low - 0xDC00) + 0x10000) :: ·)
            else none
        | [] => none

def charsOfUnits32? : Bytes → Option (List Char)
  | [] => some []
  | a :: b :: c :: d :: rest =>
      let code := Bytes.value [a, b, c, d]
      if code.isValidChar then (charsOfUnits32? rest).map (Char.ofNat code :: ·) else none
  | _ => none

def isShownAsText (tag : Nat) : Bool :=
  isTextTag tag && tag != Tag.bmpString && tag != Tag.universalString

/-- The value of an attribute as text: a string type in its characters, any
other in hexadecimal. -/
def valueText? (value : Element) : Option String :=
  let tag := value.header.tag
  if isShownAsText tag then Utf8.decode? value.contents
  else if tag = Tag.bmpString then
    (charsOfUnits16? (units16 value.contents)).map String.ofList
  else if tag = Tag.universalString then
    (charsOfUnits32? value.contents).map String.ofList
  else some (Bytes.hexUpper value.contents)

def attributeText? (entry : Attribute) : Option String := do
  let value ← valueText? entry.value
  return label entry.kind ++ "=" ++ value

/-- The name as text: sets separated by commas, the attributes of a set by plus
signs. -/
def text (name : Name) : String :=
  let parts? := name.parts.mapM fun part => do
    let attributes ← part.mapM attributeText?
    return String.intercalate " + " attributes
  match parts? with
  | some parts => String.intercalate ", " parts
  | none => "<X509Error: Invalid X.509 name>"

def plainValue? (value : Element) : Option String :=
  if [Tag.numericString, Tag.printableString, Tag.utf8String, Tag.ia5String].contains
      value.header.tag then
    Utf8.decode? value.contents
  else none

def valuesOf (kind : Oid) (name : Name) : List String :=
  (name.attributes.filter (·.kind == kind)).filterMap (plainValue? ·.value)

end Name

end CertScope.X509
