import HttpService.Encoding.Base64
/-! # Armoured texts

Binary data between two boundary lines that carry the same tag. Text before the first boundary is
ignored, as is everything behind the end boundary. Headers may stand before an empty line. -/
set_option autoImplicit false

namespace HttpService.Armour

structure Block where
  tag : Bytes
  data : Bytes

def beginMark : Bytes := Bytes.ofText "-----BEGIN "

def endMark : Bytes := Bytes.ofText "-----END "

def dashes : Bytes := Bytes.ofText "-----"

/-- What follows the first place where `marker` was matched byte by byte, with what came before.
After a mismatch the matching starts anew behind the mismatching byte. -/
def readUntil (marker : Bytes) : Bytes -> Bytes -> Bytes -> Option (Bytes × Bytes)
  | [], seen, rest => some ((seen.drop marker.length).reverse, rest)
  | _ :: _, _, [] => none
  | expected :: left, seen, byte :: rest =>
      readUntil marker (if byte = expected then left else marker) (byte :: seen) rest

/-- The two sides of the first `marker`. -/
def cut (marker input : Bytes) : Option (Bytes × Bytes) := readUntil marker marker [] input

def isBlank (byte : UInt8) : Bool := byte == 32 || byte == 9 || byte == 10 || byte == 13

/-- The lines of a text, each ended by a line feed, a carriage return before it dropped. -/
def lines (text : Bytes) : List Bytes :=
  let feed := Bytes.code '\n'
  let pieces := text.foldr
    (fun byte pieces =>
      if byte = feed then [] :: pieces
      else match pieces with
        | piece :: rest => (byte :: piece) :: rest
        | [] => [[byte]])
    [[]]
  let pieces := if pieces.getLast? = some [] then pieces.dropLast else pieces
  pieces.map fun line => if line.getLast? = some (Bytes.code '\r') then line.dropLast else line

def headersAndData (body : Bytes) : Bytes × Bytes :=
  match Bytes.splitAt? (Bytes.ofText "\n\n") body with
  | some parts => parts
  | none => (Bytes.splitAt? (Bytes.ofText "\r\n\r\n") body).getD ([], body)

def parse? (input : Bytes) : Option Block := do
  let (_, input) ← cut beginMark input
  let (tag, input) ← cut dashes input
  let (body, input) ← cut endMark (input.dropWhile isBlank)
  let (endTag, _) ← cut dashes input
  if tag.isEmpty || tag != endTag || (Bytes.toText? tag).isNone then none
  else
    let (headers, data) := headersAndData body
    if (Bytes.toText? headers).isSome
        && (lines headers).all fun line => line.contains (Bytes.code ':') then
      let data ← Base64.decodePadded? Base64.standard
        (data.filter fun byte => !isBlank byte)
      return ⟨tag, data⟩
    else none

end HttpService.Armour
