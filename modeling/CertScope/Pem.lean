import CertScope.Text.Utf8
import CertScope.Text.Blank
import CertScope.Text.Base64

/-!
# Textual encoding of binary objects

A block is framed by a `BEGIN` line and an `END` line that carry the same
label, and its body is the Base64 form of the contents, possibly below header
lines that a blank line ends. Framing is found first, byte by byte; a frame is
then decoded or refused with the first cause that applies.
-/

namespace CertScope.Pem

def dashes : Bytes := [45, 45, 45, 45, 45]
def beginMarker : Bytes := dashes ++ [66, 69, 71, 73, 78, 32]
def endMarker : Bytes := dashes ++ [69, 78, 68, 32]

structure Block where
  label : String
  contents : Bytes
  deriving DecidableEq, Repr

structure Frame where
  opening : Bytes
  headers : Bytes
  body : Bytes
  closing : Bytes
  deriving DecidableEq, Repr

inductive Fault where
  | unframed
  | notUtf8 (fault : Utf8.Fault)
  | noOpeningLabel
  | noClosingLabel
  | labelsDiffer (opening closing : String)
  | badBody (fault : Base64.Fault)
  | badHeader (line : String)
  deriving DecidableEq, Repr

def Fault.message : Fault → String
  | .unframed => "malformedframing"
  | .notUtf8 fault => s!"invalid utf-8 value: {fault.message}"
  | .noOpeningLabel => "missing BEGIN tag"
  | .noClosingLabel => "missing END tag"
  | .labelsDiffer opening closing =>
      s!"mismatching BEGIN (\"{opening}\") and END (\"{closing}\") tags"
  | .badBody fault => s!"invalid data: {fault.message}"
  | .badHeader line => s!"invalid header: {line}"

def skipBlank (bytes : Bytes) : Bytes :=
  bytes.dropWhile fun byte => byte == 32 || byte == 9 || byte == 10 || byte == 13

/-- What stands behind `marker` when only `pending` of it is still missing. The
text is passed once: a byte at which a marker breaks off is not looked at again
as the start of another, so that a marker right behind a hyphen goes unseen. -/
def seek? (marker : Bytes) : (pending : Bytes) → Bytes → Option Bytes
  | [], rest => some rest
  | _ :: _, [] => none
  | next :: pending, byte :: rest =>
      seek? marker (if byte = next then pending else marker) rest

def cutAt? (marker bytes : Bytes) : Option (Bytes × Bytes) :=
  (seek? marker marker bytes).map fun rest =>
    (bytes.take (bytes.length - rest.length - marker.length), rest)

/-- Headers end at the first empty line; a body without one has no headers. -/
def splitHeaders (body : Bytes) : Bytes × Bytes :=
  match cutAt? [10, 10] body with
  | some cut => cut
  | none => (cutAt? [13, 10, 13, 10] body).getD ([], body)

def Frame.read? (bytes : Bytes) : Option (Frame × Bytes) := do
  let (_, rest) ← cutAt? beginMarker bytes
  let (opening, rest) ← cutAt? dashes rest
  let (inner, rest) ← cutAt? endMarker (skipBlank rest)
  let (headers, body) := splitHeaders inner
  let (closing, rest) ← cutAt? dashes rest
  return (⟨opening, headers, body, closing⟩, skipBlank rest)

def textOf (bytes : Bytes) : Except Fault String :=
  (Utf8.decode bytes).mapError .notUtf8

def badHeader? (headers : String) : Option String :=
  ((Text.lines headers.toList).find? (!·.contains ':')).map String.ofList

/-- Decode a frame: labels first, then the body, then the headers. -/
def Frame.decode (frame : Frame) : Except Fault Block := do
  let opening ← textOf frame.opening
  if opening.isEmpty then throw .noOpeningLabel
  let closing ← textOf frame.closing
  if closing.isEmpty then throw .noClosingLabel
  if opening ≠ closing then throw (.labelsDiffer opening closing)
  let body ← textOf frame.body
  let symbols := Bytes.ofText (String.ofList (Text.dropBlanks body.toList))
  let contents ← (Base64.decode symbols).mapError .badBody
  let headers ← textOf frame.headers
  match badHeader? headers with
  | some line => throw (.badHeader line)
  | none => return ⟨opening, contents⟩

def decodeFirst (bytes : Bytes) : Except Fault Block :=
  match Frame.read? bytes with
  | none => .error .unframed
  | some (frame, _) => frame.decode

/-- Decode at most `limit` blocks, stopping at the first that is refused. -/
def decodeUpTo (limit : Nat) (bytes : Bytes) : Except Fault (List Block) :=
  match limit with
  | 0 => .ok []
  | limit + 1 =>
      match Frame.read? bytes with
      | none => .ok []
      | some (frame, rest) => do
          let block ← frame.decode
          let blocks ← decodeUpTo limit rest
          return block :: blocks

/-- Decode every block of a text; one refused block refuses the text. Each
frame takes at least one byte, so the length of the text bounds their number. -/
def decodeAll (bytes : Bytes) : Except Fault (List Block) := decodeUpTo bytes.length bytes

def bodyLines (symbols : Bytes) : List Bytes :=
  if symbols.length ≤ 64 then if symbols.isEmpty then [] else [symbols]
  else symbols.take 64 :: bodyLines (symbols.drop 64)
termination_by symbols.length
decreasing_by simp; omega

def Block.encode (block : Block) : Bytes :=
  let label := Bytes.ofText block.label
  beginMarker ++ label ++ dashes ++ [10] ++
    (bodyLines (Base64.encode block.contents)).flatMap (· ++ [10]) ++
    endMarker ++ label ++ dashes ++ [10]

end CertScope.Pem
