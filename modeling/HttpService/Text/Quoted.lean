import HttpService.Bytes
import HttpService.Text.Shown
/-! # Quoted texts

The form in which a message shows a text it was given: between double quotes, with an escape for
the quote, the backslash, the usual controls and every character that is not shown as it is. -/
set_option autoImplicit false

namespace HttpService.Text

def quotedCharacter (character : Char) : List Char :=
  match character with
  | '"' => ['\\', '"']
  | '\\' => ['\\', '\\']
  | '\n' => ['\\', 'n']
  | '\r' => ['\\', 'r']
  | '\t' => ['\\', 't']
  | '\x00' => ['\\', '0']
  | other =>
      if isShown other then [other]
      else ['\\', 'u', '{'] ++ hexDigits other.toNat ++ ['}']

def quoted (text : String) : String :=
  String.ofList ('"' :: (text.toList.flatMap quotedCharacter ++ ['"']))

end HttpService.Text
