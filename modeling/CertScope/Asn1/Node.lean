import CertScope.Text.Utf8
import CertScope.Asn1.Primitive

/-!
# Values as trees

A whole encoded value is read into a tree. The outermost value obeys the
distinguished rules; the values inside it need only obey the basic rules. Values
of a class other than the universal one keep their contents as they are, since
only their place says what they mean.
-/

namespace CertScope.Asn1

mutual

inductive Content where
  | endOfContents
  | boolean (value : Bool)
  | integer (octets : Bytes)
  | bitString (unused : Nat) (octets : Bytes)
  | octetString (octets : Bytes)
  | null
  | oid (value : Oid)
  | enumerated (number : Nat)
  | text (octets : Bytes)
  | utcTime (time : CivilTime)
  | generalizedTime (time : CivilTime)
  | sequence (elements : List Node)
  | set (elements : List Node)
  | raw (octets : Bytes)

inductive Node where
  | mk (header : Header) (content : Content)

end

namespace Node

def header : Node → Header
  | mk header _ => header

def content : Node → Content
  | mk _ content => content

def asSequence (node : Node) : Except Error (List Node) :=
  match node.content with
  | .sequence elements => .ok elements
  | _ => .error .typeMismatch

def asOctets (node : Node) : Except Error Bytes :=
  match node.content with
  | .integer octets | .bitString _ octets | .octetString octets | .text octets
  | .raw octets => .ok octets
  | _ => .error .typeMismatch

def asOid (node : Node) : Except Error Oid :=
  match node.content with
  | .oid value => .ok value
  | _ => .error .typeMismatch

def asBool (node : Node) : Except Error Bool :=
  match node.content with
  | .boolean value => .ok value
  | _ => .error .typeMismatch

/-- A number below 2^32, be it an integer or an enumerated value. -/
def asUInt32 (node : Node) : Except Error Nat :=
  match node.content with
  | .integer octets => unsignedOf 4 octets
  | .enumerated number => .ok number
  | _ => .error .typeMismatch

def isContext (tag : Nat) (node : Node) : Bool :=
  node.header.tagClass == .contextSpecific && node.header.tag == tag

end Node

def charsetHolds (tag : Nat) (octets : Bytes) : Bool :=
  if tag = Tag.utf8String then (Utf8.decode? octets).isSome
  else if tag = Tag.numericString then
    octets.all fun octet => octet == 32 || (48 ≤ octet && octet ≤ 57)
  else if tag = Tag.printableString then
    octets.all fun octet =>
      (65 ≤ octet && octet ≤ 90) || (97 ≤ octet && octet ≤ 122) ||
        (48 ≤ octet && octet ≤ 57) ||
        [32, 39, 40, 41, 43, 44, 45, 46, 47, 58, 61, 63].contains octet
  else if tag = Tag.visibleString ∨ tag = Tag.t61String ∨ tag = Tag.videotexString then
    octets.all isVisible
  else if tag = Tag.ia5String ∨ tag = Tag.generalString ∨ tag = Tag.graphicString ∨
      tag = Tag.objectDescriptor then
    octets.all (· < 0x80)
  else true

def isTextTag (tag : Nat) : Bool :=
  [Tag.utf8String, Tag.numericString, Tag.printableString, Tag.t61String,
    Tag.videotexString, Tag.ia5String, Tag.graphicString, Tag.visibleString,
    Tag.generalString, Tag.objectDescriptor, Tag.bmpString,
    Tag.universalString].contains tag

/-- Interpret the contents of a value that holds no others. -/
def primitiveContent (element : Element) : Except Error Content :=
  let octets := element.contents
  let tag := element.header.tag
  if tag = Tag.bitString then
    match octets with
    | [] => .error .badValue
    | unused :: bits => .ok (.bitString unused.toNat bits)
  else if tag = Tag.boolean then
    match element.header.length, octets with
    | .definite 1, octet :: _ => .ok (.boolean (octet != 0))
    | _, _ => .error .invalidLength
  else if tag = Tag.endOfContents then .ok .endOfContents
  else if tag = Tag.enumerated then do
    expectPrimitive element.header
    if 1 <<< 32 ≤ Bytes.value octets then throw .integerTooLarge
    return .enumerated (Bytes.value octets)
  else if tag = Tag.generalizedTime then do
    let time ← timeOf tag octets
    return .generalizedTime time
  else if tag = Tag.utcTime then do
    let time ← timeOf tag octets
    return .utcTime time
  else if tag = Tag.integer then .ok (.integer octets)
  else if tag = Tag.null then .ok .null
  else if tag = Tag.octetString then .ok (.octetString octets)
  else if tag = Tag.objectIdentifier then .ok (.oid ⟨octets⟩)
  else if isTextTag tag then
    if charsetHolds tag octets then .ok (.text octets) else .error .charset
  else .ok (.raw octets)

def Element.isCollection (element : Element) : Bool :=
  element.header.tagClass == .universal &&
    (element.header.tag == Tag.sequence || element.header.tag == Tag.set)

/-- Read values until the bytes end, interpreting each with `interpret`.
`steps` bounds their number. -/
def readAll {value : Type} (interpret : Element → Except Error value) :
    Nat → Bytes → Except Error (List value)
  | _, [] => .ok []
  | 0, _ => .ok []
  | steps + 1, bytes =>
      match readBasicElement bytes with
      | .error (.needs count) => .error (.incomplete count)
      | .error (.refused why) => .error why
      | .ok (element, rest) => do
          let first ← interpret element
          let others ← readAll interpret steps rest
          return first :: others

/-- Interpret a value and, to a depth of `depth`, the values in it. -/
def interpret (depth : Nat) (element : Element) : Except Error Node :=
  match depth with
  | 0 => .error .tooDeep
  | depth + 1 => do
      if element.header.tagClass ≠ .universal then
        return .mk element.header (.raw element.contents)
      else if element.isCollection then
        if !element.header.constructed then throw .constructExpected
        let elements ← readAll (interpret depth) element.contents.length element.contents
        return .mk element.header
          (if element.header.tag = Tag.sequence then .sequence elements else .set elements)
      else
        let content ← primitiveContent element
        return .mk element.header content

/-- What the distinguished rules demand of the contents of an outermost value. -/
def checkDistinguished (header : Header) (contents : Bytes) : Except Error Unit := do
  if header.tagClass ≠ .universal then return
  if header.tag = Tag.boolean then
    match contents with
    | [octet] => if octet ≠ 0 ∧ octet ≠ 0xFF then throw (.constraint .invalidBoolean)
    | _ => throw .invalidLength
  else if header.tag = Tag.bitString then
    if header.constructed then throw (.constraint .constructed)
    match contents with
    | [] => throw .invalidLength
    | unused :: octets =>
        if 7 < unused then throw (.invalidValue Tag.bitString "More than 7 unused bits")
        if !octets.isEmpty && trailingZeros (octets.getLastD 0) < unused.toNat then
          throw (.constraint .unusedBitsNotZero)
  else if header.tag = Tag.integer then checkInteger contents
  else if isTextTag header.tag then
    if header.constructed then throw (.constraint .constructed)
  else if header.tag = Tag.utcTime ∨ header.tag = Tag.generalizedTime then
    if header.constructed then throw (.constraint .constructed)
    if contents.getLast? ≠ some 90 then throw (.constraint .missingTimeZone)

/-- Read one value as a tree. A universal value that is cut short asks for its
whole length, any other for what is missing. -/
def readNode : Reader Error Node := fun bytes => do
  let (header, rest) ← readHeader bytes
  let count := header.count
  if header.tagClass = .universal ∧ rest.length < count then throw (.needs count)
  let (contents, rest) ← take count rest
  refuse (checkDistinguished header contents)
  let node ← refuse (interpret maxDepth ⟨header, contents⟩)
  return (node, rest)

end CertScope.Asn1
