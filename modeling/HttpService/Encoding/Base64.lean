import HttpService.Bytes
/-! # Base 64

Bytes as digits of six bits. A text has one written form: bits that no byte is made of must be zero,
and padding is either written in full (`decodePadded?`) or not at all (`decode?`). -/
set_option autoImplicit false

namespace HttpService.Base64

structure Alphabet where
  digit62 : Char
  digit63 : Char
deriving DecidableEq

def standard : Alphabet := ⟨'+', '/'⟩

def url : Alphabet := ⟨'-', '_'⟩

/-- The digit of a value below 64. -/
def digit (alphabet : Alphabet) (value : Nat) : UInt8 :=
  if value < 26 then UInt8.ofNat (value + 65)
  else if value < 52 then UInt8.ofNat (value + 71)
  else if value < 62 then UInt8.ofNat (value - 4)
  else if value = 62 then Bytes.code alphabet.digit62
  else Bytes.code alphabet.digit63

def value? (alphabet : Alphabet) (byte : UInt8) : Option Nat :=
  if 65 ≤ byte && byte ≤ 90 then some (byte.toNat - 65)
  else if 97 ≤ byte && byte ≤ 122 then some (byte.toNat - 71)
  else if 48 ≤ byte && byte ≤ 57 then some (byte.toNat + 4)
  else if byte = Bytes.code alphabet.digit62 then some 62
  else if byte = Bytes.code alphabet.digit63 then some 63
  else none

/-- The digits of a byte string, without padding. -/
def encode (alphabet : Alphabet) : Bytes -> Bytes
  | a :: b :: c :: rest =>
      let group := a.toNat * 65536 + b.toNat * 256 + c.toNat
      digit alphabet (group / 262144) :: digit alphabet (group / 4096 % 64)
        :: digit alphabet (group / 64 % 64) :: digit alphabet (group % 64)
        :: encode alphabet rest
  | [a, b] =>
      let group := a.toNat * 1024 + b.toNat * 4
      [digit alphabet (group / 4096), digit alphabet (group / 64 % 64),
        digit alphabet (group % 64)]
  | [a] =>
      let group := a.toNat * 16
      [digit alphabet (group / 64), digit alphabet (group % 64)]
  | [] => []

/-- The byte string of digits without padding. -/
def decode? (alphabet : Alphabet) : Bytes -> Option Bytes
  | a :: b :: c :: d :: rest => do
      let group := (← value? alphabet a) * 262144 + (← value? alphabet b) * 4096
        + (← value? alphabet c) * 64 + (← value? alphabet d)
      let more ← decode? alphabet rest
      return UInt8.ofNat (group / 65536) :: UInt8.ofNat (group / 256 % 256)
        :: UInt8.ofNat (group % 256) :: more
  | [a, b, c] => do
      let group := (← value? alphabet a) * 4096 + (← value? alphabet b) * 64
        + (← value? alphabet c)
      if group % 4 = 0 then
        return [UInt8.ofNat (group / 1024), UInt8.ofNat (group / 4 % 256)]
      else none
  | [a, b] => do
      let group := (← value? alphabet a) * 64 + (← value? alphabet b)
      if group % 16 = 0 then return [UInt8.ofNat (group / 16)] else none
  | [_] => none
  | [] => some []

/-- The byte string of digits padded to a multiple of four. -/
def decodePadded? (alphabet : Alphabet) (digits : Bytes) : Option Bytes :=
  let plain := digits.reverse.dropWhile (· == 61) |>.reverse
  let padding := digits.length - plain.length
  if digits.length % 4 = 0 && padding ≤ 2 then decode? alphabet plain else none

end HttpService.Base64
