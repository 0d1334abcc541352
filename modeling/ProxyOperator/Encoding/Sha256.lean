import ProxyOperator.Encoding.Hex
/-!
The SHA-256 digest. The message is padded to blocks of 64 bytes; each block is stretched to 64 words,
and 64 rounds mix the words into the eight words of the state.
-/
namespace ProxyOperator

namespace Sha256

/-- The words mixed in by the rounds: fractional parts of the cube roots of the first 64 primes. -/
def constants : List UInt32 :=
  [0x428a2f98, 0x71374491, 0xb5c0fbcf, 0xe9b5dba5, 0x3956c25b, 0x59f111f1, 0x923f82a4, 0xab1c5ed5,
    0xd807aa98, 0x12835b01, 0x243185be, 0x550c7dc3, 0x72be5d74, 0x80deb1fe, 0x9bdc06a7, 0xc19bf174,
    0xe49b69c1, 0xefbe4786, 0x0fc19dc6, 0x240ca1cc, 0x2de92c6f, 0x4a7484aa, 0x5cb0a9dc, 0x76f988da,
    0x983e5152, 0xa831c66d, 0xb00327c8, 0xbf597fc7, 0xc6e00bf3, 0xd5a79147, 0x06ca6351, 0x14292967,
    0x27b70a85, 0x2e1b2138, 0x4d2c6dfc, 0x53380d13, 0x650a7354, 0x766a0abb, 0x81c2c92e, 0x92722c85,
    0xa2bfe8a1, 0xa81a664b, 0xc24b8b70, 0xc76c51a3, 0xd192e819, 0xd6990624, 0xf40e3585, 0x106aa070,
    0x19a4c116, 0x1e376c08, 0x2748774c, 0x34b0bcb5, 0x391c0cb3, 0x4ed8aa4a, 0x5b9cca4f, 0x682e6ff3,
    0x748f82ee, 0x78a5636f, 0x84c87814, 0x8cc70208, 0x90befffa, 0xa4506ceb, 0xbef9a3f7, 0xc67178f2]

structure State where
  a : UInt32
  b : UInt32
  c : UInt32
  d : UInt32
  e : UInt32
  f : UInt32
  g : UInt32
  h : UInt32
  deriving DecidableEq, Repr

def initial : State :=
  ⟨0x6a09e667, 0xbb67ae85, 0x3c6ef372, 0xa54ff53a, 0x510e527f, 0x9b05688c, 0x1f83d9ab, 0x5be0cd19⟩

def rotate (word : UInt32) (places : UInt32) : UInt32 :=
  (word >>> places) ||| (word <<< (32 - places))

def round (state : State) (input : UInt32 × UInt32) : State :=
  let (constant, word) := input
  let sum1 := rotate state.e 6 ^^^ rotate state.e 11 ^^^ rotate state.e 25
  let choose := (state.e &&& state.f) ^^^ ((~~~ state.e) &&& state.g)
  let first := state.h + sum1 + choose + constant + word
  let sum0 := rotate state.a 2 ^^^ rotate state.a 13 ^^^ rotate state.a 22
  let majority := (state.a &&& state.b) ^^^ (state.a &&& state.c) ^^^ (state.b &&& state.c)
  ⟨first + sum0 + majority, state.a, state.b, state.c, state.d + first, state.e, state.f, state.g⟩

/-- Stretch words, the last one first, by a number of further words. -/
def stretch : Nat → List UInt32 → List UInt32
  | 0, words => words
  | count + 1, words =>
      let word (back : Nat) : UInt32 := words[back - 1]?.getD 0
      let small0 := rotate (word 15) 7 ^^^ rotate (word 15) 18 ^^^ (word 15 >>> 3)
      let small1 := rotate (word 2) 17 ^^^ rotate (word 2) 19 ^^^ (word 2 >>> 10)
      stretch count ((word 16 + small0 + word 7 + small1) :: words)

def wordsOf : List UInt8 → List UInt32
  | first :: second :: third :: fourth :: rest =>
      ((first.toUInt32 <<< 24) ||| (second.toUInt32 <<< 16) ||| (third.toUInt32 <<< 8) |||
        fourth.toUInt32) :: wordsOf rest
  | _ => []

def compress (state : State) (block : List UInt8) : State :=
  let words := (stretch 48 (wordsOf block).reverse).reverse
  let mixed := (constants.zip words).foldl round state
  ⟨state.a + mixed.a, state.b + mixed.b, state.c + mixed.c, state.d + mixed.d,
    state.e + mixed.e, state.f + mixed.f, state.g + mixed.g, state.h + mixed.h⟩

def bigEndian (count value : Nat) : List UInt8 :=
  (List.range count).map fun index => UInt8.ofNat (value / Nat.pow 256 (count - 1 - index) % 256)

/-- The message with a one bit, zeros and its length in bits, up to a full block. -/
def pad (message : List UInt8) : List UInt8 :=
  let zeros := (119 - message.length % 64) % 64
  message ++ 0x80 :: List.replicate zeros 0 ++ bigEndian 8 (message.length * 8)

def absorb (state : State) (bytes : List UInt8) : State :=
  if bytes.length < 64 then state else absorb (compress state (bytes.take 64)) (bytes.drop 64)
termination_by bytes.length
decreasing_by simp; omega

def digest (message : List UInt8) : List UInt8 :=
  let state := absorb initial (pad message)
  [state.a, state.b, state.c, state.d, state.e, state.f, state.g, state.h].flatMap fun word =>
    bigEndian 4 word.toNat

def hexDigest (message : List UInt8) : String := Hex.ofBytes (digest message)

end Sha256

end ProxyOperator
