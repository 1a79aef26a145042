/-!
# Byte strings

Everything read from outside is a finite list of bytes. This module holds the
operations on such lists that belong to no format: reading a list as an
unsigned number, dropping leading zero bytes, finding a marker, and the
hexadecimal form.
-/

namespace CertScope

abbrev Bytes := List UInt8

namespace Bytes

def ofText (text : String) : Bytes := text.toUTF8.toList

/-- The unsigned big-endian number that the bytes denote. -/
def value (bytes : Bytes) : Nat :=
  bytes.foldl (fun total byte => total * 256 + byte.toNat) 0

def trimZeros (bytes : Bytes) : Bytes := bytes.dropWhile (· == 0)

/-- The big-endian form of a number in exactly `width` bytes, keeping the low
end of a number that is too large. -/
def ofValue (width : Nat) (number : Nat) : Bytes :=
  match width with
  | 0 => []
  | width + 1 => UInt8.ofNat (number >>> (8 * width)) :: ofValue width number

/-- Cut a string in front of the first occurrence of `marker`. -/
def breakOn? (marker : Bytes) : Bytes → Option (Bytes × Bytes)
  | [] => if marker.isEmpty then some ([], []) else none
  | byte :: rest =>
      if marker.isPrefixOf (byte :: rest) then some ([], byte :: rest)
      else (breakOn? marker rest).map fun cut => (byte :: cut.1, cut.2)

theorem breakOn?_append {marker bytes before after : Bytes}
    (cut : breakOn? marker bytes = some (before, after)) : before ++ after = bytes := by
  induction bytes generalizing before with
  | nil =>
      simp only [breakOn?] at cut
      split at cut <;> simp_all
  | cons byte rest ih =>
      simp only [breakOn?] at cut
      split at cut
      · simp_all
      · obtain ⟨inner, found, equal⟩ := Option.map_eq_some_iff.1 cut
        obtain ⟨rfl, rfl⟩ := Prod.mk.inj equal
        simpa using ih found

theorem breakOn?_isPrefixOf {marker bytes before after : Bytes}
    (cut : breakOn? marker bytes = some (before, after)) : marker.isPrefixOf after := by
  induction bytes generalizing before with
  | nil =>
      simp only [breakOn?] at cut
      split at cut <;> simp_all
  | cons byte rest ih =>
      simp only [breakOn?] at cut
      split at cut
      · simp_all
      · obtain ⟨inner, found, equal⟩ := Option.map_eq_some_iff.1 cut
        obtain ⟨rfl, rfl⟩ := Prod.mk.inj equal
        exact ih found

def hexDigit (lower : Bool) (digit : Nat) : Char :=
  if digit < 10 then Char.ofNat (48 + digit)
  else Char.ofNat ((if lower then 87 else 55) + digit)

def hexPair (lower : Bool) (byte : UInt8) : List Char :=
  [hexDigit lower (byte.toNat / 16), hexDigit lower (byte.toNat % 16)]

def hex (bytes : Bytes) : String := String.ofList (bytes.flatMap (hexPair true))

def hexUpper (bytes : Bytes) : String := String.ofList (bytes.flatMap (hexPair false))

def hexColons (bytes : Bytes) : String :=
  String.intercalate ":" (bytes.map fun byte => String.ofList (hexPair false byte))

def hexValue? (digit : Char) : Option Nat :=
  if '0' ≤ digit ∧ digit ≤ '9' then some (digit.toNat - 48)
  else if 'a' ≤ digit ∧ digit ≤ 'f' then some (digit.toNat - 87)
  else if 'A' ≤ digit ∧ digit ≤ 'F' then some (digit.toNat - 55)
  else none

def ofHexChars? : List Char → Option Bytes
  | [] => some []
  | [_] => none
  | high :: low :: rest => do
      let high ← hexValue? high
      let low ← hexValue? low
      let rest ← ofHexChars? rest
      return UInt8.ofNat (high * 16 + low) :: rest

def ofHex? (text : String) : Option Bytes := ofHexChars? text.toList

end Bytes

end CertScope
