/-
# SHA-1

`sha1.c` of the bundled libtomcrypt: the hash of `sha1_init`, one `sha1_process` of the whole
message and `sha1_done`.  The counters of the source follow from the length of the message,
which for a buffer is far below the overflow that `sha1_process` checks for.
-/

import Dropbear.Program.BigEndian

namespace Dropbear.Crypto

open Program

/-- The chaining state, and the working variables of a compression. -/
structure Sha1State where
  a : UInt32
  b : UInt32
  c : UInt32
  d : UInt32
  e : UInt32
  deriving DecidableEq, Repr

def sha1Init : Sha1State where
  a := 0x67452301
  b := 0xefcdab89
  c := 0x98badcfe
  d := 0x10325476
  e := 0xc3d2e1f0

def rol (x n : UInt32) : UInt32 := (x <<< n) ||| (x >>> (32 - n))

/-- `LOAD32H`, word by word. -/
def loadWords : Bytes → List UInt32
  | b₀ :: b₁ :: b₂ :: b₃ :: rest => (ofBe [b₀, b₁, b₂, b₃]).toUInt32 :: loadWords rest
  | _ => []

/-- One more word of the expansion, which is kept with the newest word in front. -/
def expandWord (w : List UInt32) : List UInt32 :=
  rol (w.getD 2 0 ^^^ w.getD 7 0 ^^^ w.getD 13 0 ^^^ w.getD 15 0) 1 :: w

/-- The eighty words of a block. -/
def schedule (block : Bytes) : List UInt32 := (expandWord^[64] (loadWords block).reverse).reverse

/-- The function and the constant of the round with a number. -/
def sha1Mix (i : Nat) (x y z : UInt32) : UInt32 :=
  if i < 20 then (z ^^^ (x &&& (y ^^^ z))) + 0x5a827999
  else if i < 40 then (x ^^^ y ^^^ z) + 0x6ed9eba1
  else if i < 60 then ((x &&& y) ||| (z &&& (x ||| y))) + 0x8f1bbcdc
  else (x ^^^ y ^^^ z) + 0xca62c1d6

def sha1Round (md : Sha1State) (word : UInt32 × Nat) : Sha1State where
  a := rol md.a 5 + sha1Mix word.2 md.b md.c md.d + md.e + word.1
  b := md.a
  c := rol md.b 30
  d := md.c
  e := md.d

def sha1Compress (md : Sha1State) (block : Bytes) : Sha1State :=
  let out := (schedule block).zipIdx.foldl sha1Round md
  { a := md.a + out.a
    b := md.b + out.b
    c := md.c + out.c
    d := md.d + out.d
    e := md.e + out.e }

/-- Compress so many whole blocks; what is behind them stays in the buffer of the state. -/
def sha1Process : Nat → Sha1State → Bytes → Sha1State × Bytes
  | 0, md, input => (md, input)
  | blocks + 1, md, input => sha1Process blocks (sha1Compress md (input.take 64)) (input.drop 64)

def padZeros (len : Nat) (buf : Bytes) : Bytes := buf ++ List.replicate (len - buf.length) 0

/-- The digest, when `curlen` bytes of a message of this length are in the buffer. -/
def sha1Done (length : Nat) (md : Sha1State) (buf : Bytes) : Bytes :=
  let buf := buf ++ [0x80]
  let (md, buf) := if buf.length > 56 then (sha1Compress md (padZeros 64 buf), []) else (md, buf)
  let md := sha1Compress md (padZeros 56 buf ++ toBe 8 (8 * length))
  [md.a, md.b, md.c, md.d, md.e].flatMap fun word => be32 word.toNat

def sha1 (message : Bytes) : Bytes :=
  let (md, buf) := sha1Process (message.length / 64) sha1Init message
  sha1Done message.length md buf

def sha1HashSize : Nat := 20

theorem length_sha1 (message : Bytes) : (sha1 message).length = sha1HashSize := rfl

/-- The first vector of the self-test. -/
example : sha1 (ascii "abc") =
    [0xa9, 0x99, 0x3e, 0x36, 0x47, 0x06, 0x81, 0x6a, 0xba, 0x3e, 0x25, 0x71, 0x78, 0x50, 0xc2,
      0x6c, 0x9c, 0xd0, 0xd8, 0x9d] := by
  decide +kernel

end Dropbear.Crypto
