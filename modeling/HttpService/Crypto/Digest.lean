import HttpService.Bytes
/-! # The 256-bit digest

The secure hash of a byte string: padding to blocks of 64 bytes, a schedule of 64 words for each
block, and 64 rounds over eight words. -/
set_option autoImplicit false

namespace HttpService.Digest

/-- The first 32 bits of the fractional parts of the cube roots of the first 64 primes. -/
def roundConstants : List UInt32 := [
  0x428a2f98, 0x71374491, 0xb5c0fbcf, 0xe9b5dba5, 0x3956c25b, 0x59f111f1, 0x923f82a4, 0xab1c5ed5,
  0xd807aa98, 0x12835b01, 0x243185be, 0x550c7dc3, 0x72be5d74, 0x80deb1fe, 0x9bdc06a7, 0xc19bf174,
  0xe49b69c1, 0xefbe4786, 0x0fc19dc6, 0x240ca1cc, 0x2de92c6f, 0x4a7484aa, 0x5cb0a9dc, 0x76f988da,
  0x983e5152, 0xa831c66d, 0xb00327c8, 0xbf597fc7, 0xc6e00bf3, 0xd5a79147, 0x06ca6351, 0x14292967,
  0x27b70a85, 0x2e1b2138, 0x4d2c6dfc, 0x53380d13, 0x650a7354, 0x766a0abb, 0x81c2c92e, 0x92722c85,
  0xa2bfe8a1, 0xa81a664b, 0xc24b8b70, 0xc76c51a3, 0xd192e819, 0xd6990624, 0xf40e3585, 0x106aa070,
  0x19a4c116, 0x1e376c08, 0x2748774c, 0x34b0bcb5, 0x391c0cb3, 0x4ed8aa4a, 0x5b9cca4f, 0x682e6ff3,
  0x748f82ee, 0x78a5636f, 0x84c87814, 0x8cc70208, 0x90befffa, 0xa4506ceb, 0xbef9a3f7, 0xc67178f2]

/-- The eight working words. -/
structure State where
  a : UInt32
  b : UInt32
  c : UInt32
  d : UInt32
  e : UInt32
  f : UInt32
  g : UInt32
  h : UInt32

/-- The first 32 bits of the fractional parts of the square roots of the first eight primes. -/
def initial : State :=
  ⟨0x6a09e667, 0xbb67ae85, 0x3c6ef372, 0xa54ff53a, 0x510e527f, 0x9b05688c, 0x1f83d9ab, 0x5be0cd19⟩

def rotateRight (word amount : UInt32) : UInt32 := (word >>> amount) ||| (word <<< (32 - amount))

/-- The message, a one bit, zeros, and the message's length in bits as eight bytes. -/
def pad (message : Bytes) : Bytes :=
  message ++ 0x80 :: List.replicate ((119 - message.length % 64) % 64) 0
    ++ Bytes.ofNat 8 (8 * message.length)

def words : Bytes -> List UInt32
  | a :: b :: c :: d :: rest => UInt32.ofNat (Bytes.toNat [a, b, c, d]) :: words rest
  | _ => []

/-- The schedule's next `count` words, from the words so far in reverse. -/
def extend : Nat -> List UInt32 -> List UInt32
  | 0, done => done
  | count + 1, done =>
      let two := done.getD 1 0
      let fifteen := done.getD 14 0
      let small0 := rotateRight fifteen 7 ^^^ rotateRight fifteen 18 ^^^ (fifteen >>> 3)
      let small1 := rotateRight two 17 ^^^ rotateRight two 19 ^^^ (two >>> 10)
      extend count ((done.getD 15 0 + small0 + done.getD 6 0 + small1) :: done)

/-- The 64 words of a block. -/
def schedule (block : Bytes) : List UInt32 := (extend 48 (words block).reverse).reverse

def round (state : State) (constant word : UInt32) : State :=
  let ⟨a, b, c, d, e, f, g, h⟩ := state
  let big1 := rotateRight e 6 ^^^ rotateRight e 11 ^^^ rotateRight e 25
  let choice := (e &&& f) ^^^ ((~~~e) &&& g)
  let first := h + big1 + choice + constant + word
  let big0 := rotateRight a 2 ^^^ rotateRight a 13 ^^^ rotateRight a 22
  let majority := (a &&& b) ^^^ (a &&& c) ^^^ (b &&& c)
  ⟨first + (big0 + majority), a, b, c, d + first, e, f, g⟩

def compress (state : State) (block : Bytes) : State :=
  let final := (roundConstants.zip (schedule block)).foldl
    (fun working step => round working step.1 step.2) state
  ⟨state.a + final.a, state.b + final.b, state.c + final.c, state.d + final.d,
    state.e + final.e, state.f + final.f, state.g + final.g, state.h + final.h⟩

/-- Takes in `count` blocks. -/
def absorb : Nat -> State -> Bytes -> State
  | 0, state, _ => state
  | count + 1, state, message => absorb count (compress state (message.take 64)) (message.drop 64)

/-- The 32 bytes of a message's digest. -/
def hash (message : Bytes) : Bytes :=
  let padded := pad message
  let ⟨a, b, c, d, e, f, g, h⟩ := absorb (padded.length / 64) initial padded
  [a, b, c, d, e, f, g, h].flatMap fun word => Bytes.ofNat 4 word.toNat

end HttpService.Digest
