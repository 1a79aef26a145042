import CertScope.Bytes

/-!
# Percent encoding

A byte that may not stand in a part of a URL is written as a percent sign and
two hexadecimal digits. Each part has its own set of characters that are so
written; characters beyond ASCII always are.
-/

namespace CertScope.Percent

def inControl (char : Char) : Bool := char.toNat < 0x20 || 0x7F ≤ char.toNat

def inFragment (char : Char) : Bool :=
  inControl char || [' ', '"', '<', '>', '\x60'].contains char

def inPath (char : Char) : Bool := inFragment char || ['#', '?', '\x7b', '\x7d'].contains char

def inUser (char : Char) : Bool :=
  inPath char || ['/', ':', ';', '=', '@', '[', '\\', ']', '^', '|'].contains char

/-- What is encoded in a query; `special` says that the scheme has a host. -/
def inQuery (special : Bool) (char : Char) : Bool :=
  inControl char || [' ', '"', '#', '<', '>'].contains char || (special && char == '\x27')

def byte (byte : UInt8) : List Char := '%' :: Bytes.hexPair false byte

def encode (set : Char → Bool) (text : List Char) : String :=
  String.ofList (text.flatMap fun char =>
    if set char then (Bytes.ofText (String.singleton char)).flatMap byte else [char])

/-- The bytes that an encoded text stands for. A percent sign without two
hexadecimal digits stands for itself. -/
def decode : Bytes → Bytes
  | [] => []
  | 37 :: high :: low :: rest =>
      match Bytes.ofHexChars? [Char.ofNat high.toNat, Char.ofNat low.toNat] with
      | some [value] => value :: decode rest
      | _ => 37 :: decode (high :: low :: rest)
  | byte :: rest => byte :: decode rest

end CertScope.Percent
