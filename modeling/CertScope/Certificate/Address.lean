import CertScope.Bytes

/-!
# Network addresses as text

Four octets are written in decimal. Sixteen octets are written as eight groups
in hexadecimal with the longest run of zero groups, the first of several,
contracted; an embedded address of four octets is written in decimal.
-/

namespace CertScope.Address

def dotted (octets : Bytes) : String :=
  String.intercalate "." (octets.map fun octet => toString octet.toNat)

def groups : Bytes → List Nat
  | high :: low :: rest => (high.toNat * 256 + low.toNat) :: groups rest
  | _ => []

def groupText (group : Nat) : String := String.ofList (Nat.toDigits 16 group)

def colons (groups : List Nat) : String := String.intercalate ":" (groups.map groupText)

/-- The start and the length of the longest run of zero groups, given the run
that is open and the best so far, each as start and length. -/
def longestRun (position : Nat) (current best : Nat × Nat) : List Nat → Nat × Nat
  | [] => best
  | 0 :: rest =>
      let current := if current.2 = 0 then (position, 1) else (current.1, current.2 + 1)
      longestRun (position + 1) current (if best.2 < current.2 then current else best) rest
  | _ :: rest => longestRun (position + 1) (0, 0) best rest

/-- Groups with the longest run of zero groups contracted. -/
def contracted (groups : List Nat) : String :=
  let (start, length) := longestRun 0 (0, 0) (0, 0) groups
  if 1 < length then
    colons (groups.take start) ++ "::" ++ colons (groups.drop (start + length))
  else colons groups

def grouped (octets : Bytes) : String :=
  let all := groups octets
  if all.take 6 = [0, 0, 0, 0, 0, 0xFFFF] then "::ffff:" ++ dotted (octets.drop 12)
  else contracted all

/-- The text of an address; octets of any other number are no address. -/
def text? (octets : Bytes) : Option String :=
  if octets.length = 4 then some (dotted octets)
  else if octets.length = 16 then some (grouped octets)
  else none

end CertScope.Address
