import CertScope.Bytes

/-!
# UTF-8

Decoding accepts the well-formed sequences of RFC 3629 only. A refusal says
where the first ill-formed sequence starts and how many of its bytes are wrong
for sure; the width is absent when the text ends inside a sequence.
-/

namespace CertScope.Utf8

structure Fault where
  /-- The number of bytes in front of the ill-formed sequence. -/
  offset : Nat
  /-- The bytes that no continuation can repair; absent at the end of the text. -/
  width : Option Nat
  deriving DecidableEq, Repr

def Fault.message (fault : Fault) : String :=
  match fault.width with
  | some width =>
      s!"invalid utf-8 sequence of {width} bytes from index {fault.offset}"
  | none => s!"incomplete utf-8 byte sequence from index {fault.offset}"

def isTail (byte : UInt8) : Bool := 0x80 ≤ byte && byte ≤ 0xBF

def tailBits (byte : UInt8) : Nat := byte.toNat % 64

/-- The second bytes that may follow a lead byte of a three-byte sequence. -/
def secondOfThree (lead second : UInt8) : Bool :=
  if lead == 0xE0 then 0xA0 ≤ second && second ≤ 0xBF
  else if lead == 0xED then 0x80 ≤ second && second ≤ 0x9F
  else isTail second

def secondOfFour (lead second : UInt8) : Bool :=
  if lead == 0xF0 then 0x90 ≤ second && second ≤ 0xBF
  else if lead == 0xF4 then 0x80 ≤ second && second ≤ 0x8F
  else isTail second

/-- The first character of a nonempty string and the bytes after it, or the
width of the fault it starts with. -/
def next (lead : UInt8) (rest : Bytes) : Except (Option Nat) (Char × Bytes) :=
  if lead < 0x80 then .ok (Char.ofNat lead.toNat, rest)
  else if 0xC2 ≤ lead && lead ≤ 0xDF then
    match rest with
    | [] => .error none
    | second :: rest =>
        if isTail second then
          .ok (Char.ofNat (lead.toNat % 32 * 64 + tailBits second), rest)
        else .error (some 1)
  else if 0xE0 ≤ lead && lead ≤ 0xEF then
    match rest with
    | [] => .error none
    | second :: rest =>
        if secondOfThree lead second then
          match rest with
          | [] => .error none
          | third :: rest =>
              if isTail third then
                .ok (Char.ofNat
                  ((lead.toNat % 16 * 64 + tailBits second) * 64 + tailBits third), rest)
              else .error (some 2)
        else .error (some 1)
  else if 0xF0 ≤ lead && lead ≤ 0xF4 then
    match rest with
    | [] => .error none
    | second :: rest =>
        if secondOfFour lead second then
          match rest with
          | [] => .error none
          | third :: rest =>
              if isTail third then
                match rest with
                | [] => .error none
                | fourth :: rest =>
                    if isTail fourth then
                      .ok (Char.ofNat
                        (((lead.toNat % 8 * 64 + tailBits second) * 64 + tailBits third) * 64
                          + tailBits fourth), rest)
                    else .error (some 3)
              else .error (some 2)
        else .error (some 1)
  else .error (some 1)

theorem length_of_next {lead : UInt8} {rest after : Bytes} {char : Char}
    (read : next lead rest = .ok (char, after)) : after.length ≤ rest.length := by
  unfold next at read
  repeat' split at read
  all_goals cases read
  all_goals grind

def decodeFrom (offset : Nat) : Bytes → Except Fault (List Char)
  | [] => .ok []
  | lead :: rest =>
      match _read : next lead rest with
      | .error width => .error ⟨offset, width⟩
      | .ok (char, after) =>
          (decodeFrom (offset + char.utf8Size) after).map (char :: ·)
termination_by bytes => bytes.length
decreasing_by
  have := length_of_next _read
  simp
  omega

def decode (bytes : Bytes) : Except Fault String := (decodeFrom 0 bytes).map String.ofList

def decode? (bytes : Bytes) : Option String := (decode bytes).toOption

end CertScope.Utf8
