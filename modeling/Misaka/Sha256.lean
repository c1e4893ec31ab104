import Misaka.Bincode

/-!
SHA-256 as FIPS 180-4 defines it, over lists of bytes. Results about hashed
content take the hash as a parameter; this is the function they are run with.
-/

namespace Misaka.Sha256
open Bincode

/-- The eight working words. -/
structure Words where
  a : UInt32
  b : UInt32
  c : UInt32
  d : UInt32
  e : UInt32
  f : UInt32
  g : UInt32
  h : UInt32

def initial : Words :=
  ⟨0x6a09e667, 0xbb67ae85, 0x3c6ef372, 0xa54ff53a, 0x510e527f, 0x9b05688c, 0x1f83d9ab, 0x5be0cd19⟩

def roundConstants : List UInt32 := [
  0x428a2f98, 0x71374491, 0xb5c0fbcf, 0xe9b5dba5, 0x3956c25b, 0x59f111f1, 0x923f82a4, 0xab1c5ed5,
  0xd807aa98, 0x12835b01, 0x243185be, 0x550c7dc3, 0x72be5d74, 0x80deb1fe, 0x9bdc06a7, 0xc19bf174,
  0xe49b69c1, 0xefbe4786, 0x0fc19dc6, 0x240ca1cc, 0x2de92c6f, 0x4a7484aa, 0x5cb0a9dc, 0x76f988da,
  0x983e5152, 0xa831c66d, 0xb00327c8, 0xbf597fc7, 0xc6e00bf3, 0xd5a79147, 0x06ca6351, 0x14292967,
  0x27b70a85, 0x2e1b2138, 0x4d2c6dfc, 0x53380d13, 0x650a7354, 0x766a0abb, 0x81c2c92e, 0x92722c85,
  0xa2bfe8a1, 0xa81a664b, 0xc24b8b70, 0xc76c51a3, 0xd192e819, 0xd6990624, 0xf40e3585, 0x106aa070,
  0x19a4c116, 0x1e376c08, 0x2748774c, 0x34b0bcb5, 0x391c0cb3, 0x4ed8aa4a, 0x5b9cca4f, 0x682e6ff3,
  0x748f82ee, 0x78a5636f, 0x84c87814, 0x8cc70208, 0x90befffa, 0xa4506ceb, 0xbef9a3f7, 0xc67178f2]

def rotateRight (word count : UInt32) : UInt32 := (word >>> count) ||| (word <<< (32 - count))

-- One bit, zeros, and the length in bits, up to whole blocks.
def pad (message : List UInt8) : List UInt8 :=
  message ++ 0x80 :: List.replicate ((119 - message.length % 64) % 64) 0 ++
    bigEndian 8 (8 * message.length)

def toWords : List UInt8 → List UInt32
  | a :: b :: c :: d :: rest => UInt32.ofNat (ofBigEndian [a, b, c, d]) :: toWords rest
  | _ => []

def expand (words : List UInt32) : UInt32 :=
  let word (back : Nat) := words.getD (back - 1) 0
  let small (x : UInt32) (first second shift : UInt32) :=
    rotateRight x first ^^^ rotateRight x second ^^^ (x >>> shift)
  word 16 + small (word 15) 7 18 3 + word 7 + small (word 2) 17 19 10

-- The message schedule, newest word first.
def schedule (block : List UInt32) : List UInt32 :=
  (List.range 48).foldl (fun words _ => expand words :: words) block.reverse

def round (words : Words) (input : UInt32 × UInt32) : Words :=
  let large (x first second third : UInt32) :=
    rotateRight x first ^^^ rotateRight x second ^^^ rotateRight x third
  let choice := (words.e &&& words.f) ^^^ (~~~words.e &&& words.g)
  let majority := (words.a &&& words.b) ^^^ (words.a &&& words.c) ^^^ (words.b &&& words.c)
  let first := words.h + large words.e 6 11 25 + choice + input.1 + input.2
  let second := large words.a 2 13 22 + majority
  ⟨first + second, words.a, words.b, words.c, words.d + first, words.e, words.f, words.g⟩

def compress (words : Words) (block : List UInt32) : Words :=
  let mixed := (roundConstants.zip (schedule block).reverse).foldl round words
  ⟨words.a + mixed.a, words.b + mixed.b, words.c + mixed.c, words.d + mixed.d, words.e + mixed.e,
    words.f + mixed.f, words.g + mixed.g, words.h + mixed.h⟩

def blocks : Nat → List UInt32 → List (List UInt32)
  | 0, _ => []
  | count + 1, words => words.take 16 :: blocks count (words.drop 16)

def Words.toBytes (words : Words) : Bytes 32 :=
  ⟨[words.a, words.b, words.c, words.d, words.e, words.f, words.g, words.h].flatMap
      fun word => bigEndian 4 word.toNat, by
    simp [bigEndian, little_endian_length]⟩

def sha256 (message : List UInt8) : Bytes 32 :=
  let words := toWords (pad message)
  ((blocks (words.length / 16) words).foldl compress initial).toBytes

example : String.ofList (hex (sha256 (utf8 "abc")).toList) =
    "ba7816bf8f01cfea414140de5dae2223b00361a396177a9cb410ff61f20015ad" := by decide +kernel
end Misaka.Sha256
