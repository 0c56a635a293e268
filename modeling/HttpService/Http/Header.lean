import HttpService.Bytes
/-! # Methods and headers

The token characters of methods and header names, the bytes a header value may hold, and a header
list that keeps every value added under a name. Names are stored in lower case. -/
set_option autoImplicit false

namespace HttpService

def tokenPunctuation : List Char :=
  ['!', '#', '$', '%', '&', '\'', '*', '+', '-', '.', '^', '_', '`', '|', '~']

/-- May the character stand in a method or a header name? -/
def isTokenCharacter (character : Char) : Bool :=
  character.isAlphanum || tokenPunctuation.contains character

/-- A request method: a non-empty token, its case significant. -/
structure Method where
  name : String
deriving DecidableEq

namespace Method

def get : Method := ⟨"GET"⟩

instance : Inhabited Method := ⟨get⟩

def parse? (name : String) : Option Method :=
  if name.isEmpty || !name.toList.all isTokenCharacter then none else some ⟨name⟩

end Method

/-- The stored form of a header name: a non-empty token in lower case. -/
def headerName? (name : String) : Option String :=
  if name.isEmpty || 65535 < name.utf8ByteSize || !name.toList.all isTokenCharacter then none
  else some (String.ofList (name.toList.map Char.toLower))

/-- A header value may hold tabs and every byte from the blank on except delete. -/
def isHeaderValue (value : Bytes) : Bool :=
  value.all fun byte => byte == 9 || (32 ≤ byte && byte != 127)

/-- The text of a value of visible ASCII, blanks and tabs. -/
def visibleText? (value : Bytes) : Option String :=
  if value.all fun byte => byte == 9 || (32 ≤ byte && byte < 127) then Bytes.toText? value
  else none

/-- Header fields in the order they were added. -/
structure Headers where
  fields : List (String × Bytes)
deriving DecidableEq, Inhabited

namespace Headers

def empty : Headers := ⟨[]⟩

def append (headers : Headers) (name : String) (value : Bytes) : Headers :=
  ⟨headers.fields ++ [(name, value)]⟩

def size (headers : Headers) : Nat := headers.fields.length

/-- The first value under a name given in any case. -/
def get? (headers : Headers) (name : String) : Option Bytes :=
  match headerName? name with
  | none => none
  | some stored => (headers.fields.find? fun field => field.1 == stored).map Prod.snd

/-- The first value under a name, when it is visible text. -/
def getText? (headers : Headers) (name : String) : Option String :=
  (headers.get? name).bind visibleText?

end Headers

end HttpService
