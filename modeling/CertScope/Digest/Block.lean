import CertScope.Bytes

/-!
# Messages in blocks

The digests of the SHA family read a message in blocks of one length. The
message is padded with a one bit, zero bits, and its length in bits, and cut
into words of the digest's width.
-/

namespace CertScope.Digest

/-- Pad a message to whole blocks; the last `lengthWidth` bytes of the last
block hold the number of bits. -/
def pad (blockLength lengthWidth : Nat) (message : Bytes) : Bytes :=
  let used := message.length + 1 + lengthWidth
  let zeros := (blockLength - used % blockLength) % blockLength
  message ++ 0x80 :: List.replicate zeros 0 ++ Bytes.ofValue lengthWidth (message.length * 8)

/-- Cut bytes into pieces of `size`, the last of which may be shorter. -/
def pieces (size : Nat) : Nat → Bytes → List Bytes
  | 0, _ => []
  | _, [] => []
  | steps + 1, bytes => bytes.take size :: pieces size steps (bytes.drop size)

def blocks (blockLength lengthWidth : Nat) (message : Bytes) : List Bytes :=
  let padded := pad blockLength lengthWidth message
  pieces blockLength (padded.length / blockLength) padded

def words32 (block : Bytes) : List UInt32 :=
  (pieces 4 (block.length / 4) block).map fun piece => UInt32.ofNat (Bytes.value piece)

def words64 (block : Bytes) : List UInt64 :=
  (pieces 8 (block.length / 8) block).map fun piece => UInt64.ofNat (Bytes.value piece)

def rotateLeft32 (word : UInt32) (count : UInt32) : UInt32 :=
  (word <<< count) ||| (word >>> (32 - count))

def rotateRight32 (word : UInt32) (count : UInt32) : UInt32 :=
  (word >>> count) ||| (word <<< (32 - count))

def rotateRight64 (word : UInt64) (count : UInt64) : UInt64 :=
  (word >>> count) ||| (word <<< (64 - count))

/-- Where two words agree with the choice of a third: bits of `yes` where
`choice` is set and of `no` where it is not. -/
def choose {word : Type} [AndOp word] [XorOp word] [Complement word]
    (choice yes no : word) : word :=
  (choice &&& yes) ^^^ (~~~choice &&& no)

def majority {word : Type} [AndOp word] [XorOp word] (first second third : word) : word :=
  (first &&& second) ^^^ (first &&& third) ^^^ (second &&& third)

end CertScope.Digest
