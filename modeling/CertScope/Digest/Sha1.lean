import CertScope.Digest.Block

/-!
# SHA-1

The 160-bit digest of FIPS 180-4. It identifies issuers in status requests and
verifies legacy signatures.
-/

namespace CertScope.Digest.Sha1

structure State where
  a : UInt32
  b : UInt32
  c : UInt32
  d : UInt32
  e : UInt32
  deriving DecidableEq, Repr

def initial : State := ⟨0x67452301, 0xEFCDAB89, 0x98BADCFE, 0x10325476, 0xC3D2E1F0⟩

/-- Extend sixteen words to eighty. The window holds the last sixteen words,
oldest first. -/
def schedule : Nat → List UInt32 → List UInt32
  | 0, _ => []
  | count + 1, window =>
      let word := rotateLeft32
        (window.getD 13 0 ^^^ window.getD 8 0 ^^^ window.getD 2 0 ^^^ window.getD 0 0) 1
      window.headD 0 :: schedule count (window.drop 1 ++ [word])

def mix (round : Nat) (state : State) : UInt32 × UInt32 :=
  if round < 20 then (choose state.b state.c state.d, 0x5A827999)
  else if round < 40 then (state.b ^^^ state.c ^^^ state.d, 0x6ED9EBA1)
  else if round < 60 then (majority state.b state.c state.d, 0x8F1BBCDC)
  else (state.b ^^^ state.c ^^^ state.d, 0xCA62C1D6)

def step (state : State) (word : UInt32 × Nat) : State :=
  let (mixed, constant) := mix word.2 state
  ⟨rotateLeft32 state.a 5 + mixed + state.e + constant + word.1,
    state.a, rotateLeft32 state.b 30, state.c, state.d⟩

def compress (state : State) (block : Bytes) : State :=
  let final := (schedule 80 (words32 block)).zipIdx.foldl step state
  ⟨state.a + final.a, state.b + final.b, state.c + final.c, state.d + final.d,
    state.e + final.e⟩

/-- The digest of a message, twenty bytes. -/
def digest (message : Bytes) : Bytes :=
  let final := (blocks 64 8 message).foldl compress initial
  [final.a, final.b, final.c, final.d, final.e].flatMap fun word =>
    Bytes.ofValue 4 word.toNat

end CertScope.Digest.Sha1
