/-
This file models `CSHA256`, the FIPS 180-4 SHA-256 the PoL layer derives tags with.
-/

import MultiflexPol.Hex
import Mathlib.Algebra.Group.Nat.Basic

namespace Multiflex.Sha256

open Multiflex.Pol (Bytes)

/-- The round constants `K₀ … K₆₃`. -/
def roundConstants : List UInt32 :=
  [0x428a2f98, 0x71374491, 0xb5c0fbcf, 0xe9b5dba5, 0x3956c25b, 0x59f111f1, 0x923f82a4, 0xab1c5ed5,
   0xd807aa98, 0x12835b01, 0x243185be, 0x550c7dc3, 0x72be5d74, 0x80deb1fe, 0x9bdc06a7, 0xc19bf174,
   0xe49b69c1, 0xefbe4786, 0x0fc19dc6, 0x240ca1cc, 0x2de92c6f, 0x4a7484aa, 0x5cb0a9dc, 0x76f988da,
   0x983e5152, 0xa831c66d, 0xb00327c8, 0xbf597fc7, 0xc6e00bf3, 0xd5a79147, 0x06ca6351, 0x14292967,
   0x27b70a85, 0x2e1b2138, 0x4d2c6dfc, 0x53380d13, 0x650a7354, 0x766a0abb, 0x81c2c92e, 0x92722c85,
   0xa2bfe8a1, 0xa81a664b, 0xc24b8b70, 0xc76c51a3, 0xd192e819, 0xd6990624, 0xf40e3585, 0x106aa070,
   0x19a4c116, 0x1e376c08, 0x2748774c, 0x34b0bcb5, 0x391c0cb3, 0x4ed8aa4a, 0x5b9cca4f, 0x682e6ff3,
   0x748f82ee, 0x78a5636f, 0x84c87814, 0x8cc70208, 0x90befffa, 0xa4506ceb, 0xbef9a3f7, 0xc67178f2]

/-- The eight chaining words, which are also the working variables of a round. -/
structure HashState where
  a : UInt32
  b : UInt32
  c : UInt32
  d : UInt32
  e : UInt32
  f : UInt32
  g : UInt32
  h : UInt32

def initial : HashState :=
  ⟨0x6a09e667, 0xbb67ae85, 0x3c6ef372, 0xa54ff53a, 0x510e527f, 0x9b05688c, 0x1f83d9ab, 0x5be0cd19⟩

def rotr (x n : UInt32) : UInt32 := (x >>> n) ||| (x <<< (32 - n))

def bigSigma0 (x : UInt32) : UInt32 := rotr x 2 ^^^ rotr x 13 ^^^ rotr x 22

def bigSigma1 (x : UInt32) : UInt32 := rotr x 6 ^^^ rotr x 11 ^^^ rotr x 25

def smallSigma0 (x : UInt32) : UInt32 := rotr x 7 ^^^ rotr x 18 ^^^ (x >>> 3)

def smallSigma1 (x : UInt32) : UInt32 := rotr x 17 ^^^ rotr x 19 ^^^ (x >>> 10)

/-- One round, with its constant and its schedule word. -/
def round (s : HashState) (constantWord : UInt32 × UInt32) : HashState :=
  let t1 := s.h + bigSigma1 s.e + ((s.e &&& s.f) ^^^ (~~~s.e &&& s.g)) +
    constantWord.1 + constantWord.2
  let t2 := bigSigma0 s.a + ((s.a &&& s.b) ^^^ (s.a &&& s.c) ^^^ (s.b &&& s.c))
  ⟨t1 + t2, s.a, s.b, s.c, s.d + t1, s.e, s.f, s.g⟩

/-- The big-endian word at byte `i`. -/
def wordAt (bytes : Bytes) (i : Nat) : UInt32 :=
  (bytes.getD i 0).toUInt32 <<< 24 ||| (bytes.getD (i + 1) 0).toUInt32 <<< 16 |||
    (bytes.getD (i + 2) 0).toUInt32 <<< 8 ||| (bytes.getD (i + 3) 0).toUInt32

/-- The 64 schedule words of a 64-byte block. -/
def schedule (block : Bytes) : List UInt32 :=
  (List.range 48).foldl
    (fun w t => w ++ [smallSigma1 (w.getD (t + 14) 0) + w.getD (t + 9) 0 +
      smallSigma0 (w.getD (t + 1) 0) + w.getD t 0])
    ((List.range 16).map fun i => wordAt block (4 * i))

def HashState.add (s t : HashState) : HashState :=
  ⟨s.a + t.a, s.b + t.b, s.c + t.c, s.d + t.d, s.e + t.e, s.f + t.f, s.g + t.g, s.h + t.h⟩

def compress (s : HashState) (block : Bytes) : HashState :=
  s.add ((roundConstants.zip (schedule block)).foldl round s)

/-- The message, `0x80`, zeros to 56 modulo 64, and the big-endian bit length. -/
def pad (message : Bytes) : Bytes :=
  message ++ [0x80] ++ List.replicate ((119 - message.length % 64) % 64) 0 ++
    (List.range 8).reverse.map fun i => UInt8.ofNat (8 * message.length / 2 ^ (8 * i))

def wordBytes (x : UInt32) : Bytes :=
  [(x >>> 24).toUInt8, (x >>> 16).toUInt8, (x >>> 8).toUInt8, x.toUInt8]

def HashState.bytes (s : HashState) : Bytes :=
  [s.a, s.b, s.c, s.d, s.e, s.f, s.g, s.h].flatMap wordBytes

/-- Modelled from the spec: `CSHA256().Write(message).Finalize(hash)`, the standard SHA-256. -/
def hash (message : Bytes) : Bytes :=
  let padded := pad message
  ((List.range (padded.length / 64)).foldl
    (fun s i => compress s ((padded.drop (64 * i)).take 64)) initial).bytes

/-- Every digest is `CSHA256::OUTPUT_SIZE = 32` bytes. -/
theorem length_hash (message : Bytes) : (hash message).length = 32 := by
  simp [hash, HashState.bytes, wordBytes]

set_option maxRecDepth 100000 in
example : hash [97, 98, 99] =
    [0xba, 0x78, 0x16, 0xbf, 0x8f, 0x01, 0xcf, 0xea, 0x41, 0x41, 0x40, 0xde, 0x5d, 0xae, 0x22, 0x23,
     0xb0, 0x03, 0x61, 0xa3, 0x96, 0x17, 0x7a, 0x9c, 0xb4, 0x10, 0xff, 0x61, 0xf2, 0x00, 0x15, 0xad] :=
  rfl

end Multiflex.Sha256
