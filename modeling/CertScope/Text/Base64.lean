import CertScope.Bytes

/-!
# Base64

The standard alphabet of RFC 4648 with mandatory padding. Decoding is strict:
the padding has to be complete and the unused bits of the last symbol have to
be zero, so that a byte string has exactly one accepted form.
-/

namespace CertScope.Base64

/-- Why a text is not the Base64 form of any byte string. -/
inductive Fault where
  /-- A symbol outside the alphabet, or padding where none may stand. -/
  | symbol (byte : UInt8) (offset : Nat)
  /-- No byte string has a form of this length. -/
  | length (count : Nat)
  /-- The last symbol carries bits that belong to no byte. -/
  | lastSymbol (byte : UInt8) (offset : Nat)
  | padding
  deriving DecidableEq, Repr

def Fault.message : Fault → String
  | .symbol byte offset => s!"Invalid symbol {byte}, offset {offset}."
  | .length count => s!"Invalid input length: {count}"
  | .lastSymbol byte offset => s!"Invalid last symbol {byte}, offset {offset}."
  | .padding => "Invalid padding"

def pad : UInt8 := 61

def digit? (byte : UInt8) : Option Nat :=
  let code := byte.toNat
  if 65 ≤ code ∧ code ≤ 90 then some (code - 65)
  else if 97 ≤ code ∧ code ≤ 122 then some (code - 71)
  else if 48 ≤ code ∧ code ≤ 57 then some (code + 4)
  else if code = 43 then some 62
  else if code = 47 then some 63
  else none

def symbol (digit : Nat) : UInt8 :=
  if digit < 26 then UInt8.ofNat (65 + digit)
  else if digit < 52 then UInt8.ofNat (71 + digit)
  else if digit < 62 then UInt8.ofNat (digit - 4)
  else if digit = 62 then 43
  else 47

def encode : Bytes → Bytes
  | [] => []
  | [first] =>
      let bits := first.toNat * 16
      [symbol (bits / 64), symbol (bits % 64), pad, pad]
  | [first, second] =>
      let bits := (first.toNat * 256 + second.toNat) * 4
      [symbol (bits / 4096), symbol (bits / 64 % 64), symbol (bits % 64), pad]
  | first :: second :: third :: rest =>
      let bits := (first.toNat * 256 + second.toNat) * 256 + third.toNat
      symbol (bits / 262144) :: symbol (bits / 4096 % 64) :: symbol (bits / 64 % 64) ::
        symbol (bits % 64) :: encode rest

def tripleOf (a b c d : Nat) : Bytes :=
  let bits := ((a * 64 + b) * 64 + c) * 64 + d
  [UInt8.ofNat (bits / 65536), UInt8.ofNat (bits / 256), UInt8.ofNat bits]

/-- The symbols of the last group, at most four, found `start` symbols into the
text: their values, the last symbol seen, and the padding behind them. -/
structure Tail where
  digits : List Nat
  last : UInt8
  pads : Nat
  /-- Where the first padding symbol stands within the group. -/
  firstPad : Nat

def readTail (start : Nat) (position : Nat) (tail : Tail) : Bytes → Except Fault Tail
  | [] => .ok tail
  | byte :: rest =>
      if byte == pad then
        if position < 2 then .error (.symbol byte (start + position))
        else
          readTail start (position + 1)
            { tail with
              firstPad := if tail.pads = 0 then position else tail.firstPad
              pads := tail.pads + 1 } rest
      else if 0 < tail.pads then .error (.symbol pad (start + tail.firstPad))
      else
        match digit? byte with
        | none => .error (.symbol byte (start + position))
        | some digit =>
            readTail start (position + 1)
              { tail with digits := tail.digits ++ [digit], last := byte } rest

def decodeTail (start : Nat) (group : Bytes) : Except Fault Bytes := do
  let tail ← readTail start 0 ⟨[], 0, 0, 0⟩ group
  match tail.digits with
  | [] => if start = 0 ∧ group.isEmpty then .ok [] else .error (.length start)
  | [_] => .error (.length (start + 1))
  | [a, b] =>
      if tail.pads ≠ 2 then .error .padding
      else if b % 16 ≠ 0 then .error (.lastSymbol tail.last (start + 1))
      else .ok ((tripleOf a b 0 0).take 1)
  | [a, b, c] =>
      if tail.pads ≠ 1 then .error .padding
      else if c % 4 ≠ 0 then .error (.lastSymbol tail.last (start + 2))
      else .ok ((tripleOf a b c 0).take 2)
  | a :: b :: c :: d :: _ => .ok (tripleOf a b c d)

def firstBad (start : Nat) : Bytes → Option Fault
  | [] => none
  | byte :: rest =>
      if (digit? byte).isNone then some (.symbol byte start) else firstBad (start + 1) rest

/-- Decode group by group; only the last group may hold padding. -/
def decodeGroups (start : Nat) : Bytes → Except Fault Bytes
  | first :: second :: third :: fourth :: next :: rest =>
      match digit? first, digit? second, digit? third, digit? fourth with
      | some a, some b, some c, some d =>
          (decodeGroups (start + 4) (next :: rest)).map (tripleOf a b c d ++ ·)
      | _, _, _, _ =>
          .error ((firstBad start [first, second, third, fourth]).getD .padding)
  | group => decodeTail start group

/-- The byte string of a Base64 text. A foreign symbol that stands alone behind
the last whole group is reported before all else. -/
def decode (text : Bytes) : Except Fault Bytes :=
  match text.getLast? with
  | none => .ok []
  | some last =>
      if text.length % 4 = 1 ∧ last ≠ pad ∧ (digit? last).isNone then
        .error (.symbol last (text.length - 1))
      else decodeGroups 0 text

end CertScope.Base64
