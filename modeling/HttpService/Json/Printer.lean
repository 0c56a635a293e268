import HttpService.Bytes
import HttpService.Json.Value
import HttpService.Number.Shortest
/-! # Printing JSON

The compact form: no blanks, members in their stored order, and in a text an escape for the quote,
the backslash and the control characters only. -/
set_option autoImplicit false

namespace HttpService.Json

/-- The written form of one character of a text. -/
def escaped (character : Char) : List Char :=
  match character with
  | '"' => ['\\', '"']
  | '\\' => ['\\', '\\']
  | '\x08' => ['\\', 'b']
  | '\x0c' => ['\\', 'f']
  | '\n' => ['\\', 'n']
  | '\r' => ['\\', 'r']
  | '\t' => ['\\', 't']
  | other =>
      if other.toNat < 32 then '\\' :: 'u' :: zeroPadded 4 (hexDigits other.toNat) else [other]

def quoted (value : String) : List Char := '"' :: (value.toList.flatMap escaped ++ ['"'])

def writeNumber : JsonNumber -> List Char
  | .natural value => Nat.toDigits 10 value
  | .negative magnitude => '-' :: Nat.toDigits 10 magnitude
  | .binary value => value.scientific

mutual
def write : Json -> List Char
  | .null => ['n', 'u', 'l', 'l']
  | .bool true => ['t', 'r', 'u', 'e']
  | .bool false => ['f', 'a', 'l', 's', 'e']
  | .number value => writeNumber value
  | .text value => quoted value
  | .array items => '[' :: (writeItems true items ++ [']'])
  | .object members => '{' :: (writeMembers true members ++ ['}'])

/-- The items with a comma before each but the first. -/
def writeItems : Bool -> List Json -> List Char
  | _, [] => []
  | first, item :: rest => (if first then [] else [',']) ++ write item ++ writeItems false rest

def writeMembers : Bool -> List (String × Json) -> List Char
  | _, [] => []
  | first, (key, value) :: rest =>
      (if first then [] else [',']) ++ quoted key ++ ':' :: write value ++ writeMembers false rest
end

def render (value : Json) : String := String.ofList (write value)

def encode (value : Json) : Bytes := Bytes.ofText (render value)

end HttpService.Json
