import CertScope.Digest.Block

/-!
# SHA-256

The 256-bit digest of FIPS 180-4.
-/

namespace CertScope.Digest.Sha256

structure State where
  a : UInt32
  b : UInt32
  c : UInt32
  d : UInt32
  e : UInt32
  f : UInt32
  g : UInt32
  h : UInt32
  deriving DecidableEq, Repr

/-- The round constants: the first bits of the fractions of the cube roots of
the first primes. -/
def constants : List UInt32 :=
  [0x428A2F98, 0x71374491, 0xB5C0FBCF, 0xE9B5DBA5, 0x3956C25B, 0x59F111F1,
    0x923F82A4, 0xAB1C5ED5, 0xD807AA98, 0x12835B01, 0x243185BE, 0x550C7DC3,
    0x72BE5D74, 0x80DEB1FE, 0x9BDC06A7, 0xC19BF174, 0xE49B69C1, 0xEFBE4786,
    0x0FC19DC6, 0x240CA1CC, 0x2DE92C6F, 0x4A7484AA, 0x5CB0A9DC, 0x76F988DA,
    0x983E5152, 0xA831C66D, 0xB00327C8, 0xBF597FC7, 0xC6E00BF3, 0xD5A79147,
    0x06CA6351, 0x14292967, 0x27B70A85, 0x2E1B2138, 0x4D2C6DFC, 0x53380D13,
    0x650A7354, 0x766A0ABB, 0x81C2C92E, 0x92722C85, 0xA2BFE8A1, 0xA81A664B,
    0xC24B8B70, 0xC76C51A3, 0xD192E819, 0xD6990624, 0xF40E3585, 0x106AA070,
    0x19A4C116, 0x1E376C08, 0x2748774C, 0x34B0BCB5, 0x391C0CB3, 0x4ED8AA4A,
    0x5B9CCA4F, 0x682E6FF3, 0x748F82EE, 0x78A5636F, 0x84C87814, 0x8CC70208,
    0x90BEFFFA, 0xA4506CEB, 0xBEF9A3F7, 0xC67178F2]

def initial : State :=
  ⟨0x6A09E667, 0xBB67AE85, 0x3C6EF372, 0xA54FF53A,
    0x510E527F, 0x9B05688C, 0x1F83D9AB, 0x5BE0CD19⟩

def spreadLow (word : UInt32) : UInt32 :=
  rotateRight32 word 7 ^^^ rotateRight32 word 18 ^^^ (word >>> 3)

def spreadHigh (word : UInt32) : UInt32 :=
  rotateRight32 word 17 ^^^ rotateRight32 word 19 ^^^ (word >>> 10)

/-- Extend sixteen words to one for each round. The window holds the last
sixteen words, oldest first. -/
def schedule : Nat → List UInt32 → List UInt32
  | 0, _ => []
  | count + 1, window =>
      let word := spreadHigh (window.getD 14 0) + window.getD 9 0 +
        spreadLow (window.getD 1 0) + window.getD 0 0
      window.headD 0 :: schedule count (window.drop 1 ++ [word])

def step (state : State) (input : UInt32 × UInt32) : State :=
  let turnHigh := rotateRight32 state.e 6 ^^^ rotateRight32 state.e 11 ^^^ rotateRight32 state.e 25
  let turnLow := rotateRight32 state.a 2 ^^^ rotateRight32 state.a 13 ^^^ rotateRight32 state.a 22
  let first := state.h + turnHigh + choose state.e state.f state.g + input.2 + input.1
  let second := turnLow + majority state.a state.b state.c
  ⟨first + second, state.a, state.b, state.c, state.d + first, state.e, state.f, state.g⟩

def compress (state : State) (block : Bytes) : State :=
  let final := ((schedule 64 (words32 block)).zip constants).foldl step state
  ⟨state.a + final.a, state.b + final.b, state.c + final.c, state.d + final.d,
    state.e + final.e, state.f + final.f, state.g + final.g, state.h + final.h⟩

/-- The eight words after the whole message, from a given start. -/
def run (start : State) (message : Bytes) : Bytes :=
  let final := (blocks 64 8 message).foldl compress start
  [final.a, final.b, final.c, final.d, final.e, final.f, final.g, final.h].flatMap
    fun word => Bytes.ofValue 4 word.toNat

def digest (message : Bytes) : Bytes := run initial message

end CertScope.Digest.Sha256
