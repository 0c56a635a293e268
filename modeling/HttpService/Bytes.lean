/-! # Byte strings

Every format of this library (JSON text, tokens, keys, addresses) is read from a list of bytes.
`Bytes.ofText` is the UTF-8 encoding of a text and `Bytes.toText?` its partial inverse:
`toText?_ofText` says that decoding gives back every encoded text, and `ofText_of_toText?` that
nothing else is decoded to it. -/
set_option autoImplicit false

namespace HttpService

abbrev Bytes := List UInt8

namespace Bytes

/-- The UTF-8 encoding of a text. -/
def ofText (text : String) : Bytes := text.toByteArray.data.toList

/-- The text a byte string encodes, when it is well-formed UTF-8. -/
def toText? (bytes : Bytes) : Option String := String.fromUTF8? ⟨bytes.toArray⟩

theorem toText?_ofText (text : String) : toText? (ofText text) = some text := by
  have same : (⟨text.toByteArray.data.toList.toArray⟩ : ByteArray) = text.toByteArray := rfl
  simp [toText?, ofText, String.fromUTF8?, same, text.isValidUTF8, String.fromUTF8]

theorem ofText_of_toText? {bytes : Bytes} {text : String} (decoded : toText? bytes = some text) :
    ofText text = bytes := by
  simp only [toText?, String.fromUTF8?] at decoded
  split at decoded
  next valid =>
    rw [← Option.some.inj decoded]
    rfl
  next => cases decoded

theorem isValidUTF8_of_append (letters : List Char) (bytes : ByteArray)
    (valid : (letters.utf8Encode ++ bytes).IsValidUTF8) : bytes.IsValidUTF8 := by
  induction letters with
  | nil => simpa using valid
  | cons letter letters ih =>
      rw [List.utf8Encode_cons, ByteArray.append_assoc,
        ByteArray.isValidUTF8_utf8Encode_singleton_append_iff] at valid
      exact ih valid

/-- What follows one text's encoding in the encoding of another encodes a text itself. -/
theorem append_ofText (start : String) {whole : String} {rest : Bytes}
    (parts : ofText whole = ofText start ++ rest) :
    ∃ more, whole = start ++ more ∧ ofText more = rest := by
  have joined : whole.toByteArray = start.toByteArray ++ ⟨rest.toArray⟩ := by
    apply ByteArray.ext
    apply Array.ext'
    simpa [ofText] using parts
  have valid : (⟨rest.toArray⟩ : ByteArray).IsValidUTF8 := by
    apply isValidUTF8_of_append start.toList
    rw [String.utf8Encode_toList, ← joined]
    exact whole.isValidUTF8
  refine ⟨.ofByteArray ⟨rest.toArray⟩ valid, ?_, rfl⟩
  rw [← String.toByteArray_inj, String.toByteArray_append, joined]

theorem ofText_eq_flatMap (text : String) :
    ofText text = text.toList.flatMap String.utf8EncodeChar := by
  rw [ofText, ← String.utf8Encode_toList]
  simp [List.utf8Encode]

def code (character : Char) : UInt8 := UInt8.ofNat character.toNat

theorem code_mem_ofText {text : String} {letter : Char} (ascii : letter.utf8Size = 1)
    (present : letter ∈ text.toList) : code letter ∈ ofText text := by
  rw [ofText_eq_flatMap, List.mem_flatMap]
  refine ⟨letter, present, ?_⟩
  rw [String.utf8EncodeChar_eq_singleton ascii, List.mem_singleton]
  rfl

def isDigit (byte : UInt8) : Bool := code '0' ≤ byte && byte ≤ code '9'

def digitValue (byte : UInt8) : Nat := byte.toNat - 48

/-- The value of an ASCII hexadecimal digit of either case. -/
def hexValue? (byte : UInt8) : Option Nat :=
  if isDigit byte then some (byte.toNat - 48)
  else if code 'a' ≤ byte && byte ≤ code 'f' then some (byte.toNat - 87)
  else if code 'A' ≤ byte && byte ≤ code 'F' then some (byte.toNat - 55)
  else none

/-- The number whose big-endian base-256 digits are the bytes. -/
def toNat (bytes : Bytes) : Nat := bytes.foldl (fun total byte => total * 256 + byte.toNat) 0

/-- The last `width` base-256 digits of a number, most significant first. -/
def ofNat (width : Nat) (number : Nat) : Bytes :=
  match width with
  | 0 => []
  | width + 1 => ofNat width (number / 256) ++ [UInt8.ofNat (number % 256)]

/-- What follows the first occurrence of `marker`, with what came before it. -/
def splitAt? (marker : Bytes) : Bytes -> Option (Bytes × Bytes)
  | [] => if marker.isEmpty then some ([], []) else none
  | byte :: rest =>
      if marker.isPrefixOf (byte :: rest) then some ([], (byte :: rest).drop marker.length)
      else (splitAt? marker rest).map fun (before, after) => (byte :: before, after)

end Bytes

/-- Lower-case hexadecimal digits of a number, without leading zeros. -/
def hexDigits (number : Nat) : List Char := Nat.toDigits 16 number

def repeated (count : Nat) (text : List Char) : List Char := (List.replicate count text).flatten

/-- Pads on the left with zeros up to a width. -/
def zeroPadded (width : Nat) (digits : List Char) : List Char :=
  List.replicate (width - digits.length) '0' ++ digits

end HttpService
