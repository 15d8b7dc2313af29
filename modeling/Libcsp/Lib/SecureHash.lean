/-
This file states the SHA-1 hash and the keyed hash over it as the standards define them.
-/
import Libcsp.Lib.BitField
import Libcsp.Lib.BlockHash

namespace Libcsp.SecureHash

open BitField BlockHash

def rotl (count word : UInt32) : UInt32 := word <<< count ||| word >>> (32 - count)

def choose (x y z : UInt32) : UInt32 := (x &&& y) ^^^ (~~~x &&& z)

def parity (x y z : UInt32) : UInt32 := x ^^^ y ^^^ z

def majority (x y z : UInt32) : UInt32 := (x &&& y) ^^^ (x &&& z) ^^^ (y &&& z)

/-- The function of a round. -/
def mix (time : Nat) : UInt32 → UInt32 → UInt32 → UInt32 :=
  if time < 20 then choose else if time < 40 then parity else if time < 60 then majority else parity

/-- The constant of a round. -/
def roundConstant (time : Nat) : UInt32 :=
  if time < 20 then 0x5a827999 else if time < 40 then 0x6ed9eba1 else if time < 60 then 0x8f1bbcdc else 0xca62c1d6

/-- The five words of the hash value and of the working variables. -/
@[ext]
structure Words where
  a : UInt32
  b : UInt32
  c : UInt32
  d : UInt32
  e : UInt32
  deriving DecidableEq, Repr

def Words.add (first second : Words) : Words where
  a := first.a + second.a
  b := first.b + second.b
  c := first.c + second.c
  d := first.d + second.d
  e := first.e + second.e

def Words.bytes (words : Words) : List UInt8 :=
  [words.a, words.b, words.c, words.d, words.e].flatMap fun word => beBytes 4 word.toNat

theorem Words.bytes_length (words : Words) : words.bytes.length = 20 := by
  simp [Words.bytes, List.flatMap_cons]

def initialWords : Words := ⟨0x67452301, 0xefcdab89, 0x98badcfe, 0x10325476, 0xc3d2e1f0⟩

/-- The message schedule. The block is the first part, and each further word depends on four earlier ones. -/
def schedule (block : List UInt8) (time : Nat) : UInt32 :=
  if time < 16 then UInt32.ofNat (beValue ((block.drop (4 * time)).take 4))
  else rotl 1 (schedule block (time - 3) ^^^ schedule block (time - 8) ^^^ schedule block (time - 14) ^^^
    schedule block (time - 16))

def roundStep (block : List UInt8) (words : Words) (time : Nat) : Words where
  a := rotl 5 words.a + mix time words.b words.c words.d + words.e + roundConstant time + schedule block time
  b := words.a
  c := rotl 30 words.b
  d := words.c
  e := words.d

def compressBlock (words : Words) (block : List UInt8) : Words :=
  words.add ((List.range 80).foldl (roundStep block) words)

def compression : Compression Words UInt8 where
  size := 64
  positive := by decide
  compress := compressBlock

/-- The message has a one bit, the least number of zero bits, and its 64-bit length in bits behind it. -/
def messagePadding (length : Nat) : List UInt8 :=
  0x80 :: List.replicate ((119 - length % 64) % 64) 0 ++ beBytes 8 (8 * length)

/-- The hash of a message. -/
def digest (message : List UInt8) : List UInt8 :=
  (absorb compression initialWords (message ++ messagePadding message.length)).bytes

theorem digest_length (message : List UInt8) : (digest message).length = 20 := Words.bytes_length _

/-! ## The keyed hash -/

/-- A long key is replaced by its hash, and a short key gets zeros behind it. -/
def blockKey (key : List UInt8) : List UInt8 :=
  let short := if 64 < key.length then digest key else key
  short ++ List.replicate (64 - short.length) 0

/-- The keyed hash of a message. -/
def keyedDigest (key message : List UInt8) : List UInt8 :=
  digest ((blockKey key).map (· ^^^ 0x5c) ++ digest ((blockKey key).map (· ^^^ 0x36) ++ message))

end Libcsp.SecureHash
