import HttpService.Bytes
/-! # Request targets

A target is an absolute path with an optional query, a bare authority, a full URI with scheme and
authority, or the single character of a server-wide request. A fragment is cut off. -/
set_option autoImplicit false

namespace HttpService

/-- Why a target is refused. -/
inductive UriError where
  | invalidCharacter | invalidFormat | invalidAuthority | empty | tooLong | schemeTooLong
deriving DecidableEq

def UriError.message : UriError -> String
  | .invalidCharacter => "invalid uri character"
  | .invalidFormat => "invalid format"
  | .invalidAuthority => "invalid authority"
  | .empty => "empty string"
  | .tooLong => "uri too long"
  | .schemeTooLong => "scheme too long"

/-- A parsed target. The stored path may be empty. -/
structure Uri where
  hasScheme : Bool
  storedPath : Bytes
  storedQuery : Option Bytes
deriving DecidableEq, Inhabited

namespace Uri

def isPathByte (byte : UInt8) : Bool :=
  byte == 0x21 || byte == 0x22 || (0x24 ≤ byte && byte ≤ 0x3B) || byte == 0x3D
    || (0x40 ≤ byte && byte ≤ 0x5F) || (0x61 ≤ byte && byte ≤ 0x7A)
    || 0x7B ≤ byte

def isQueryByte (byte : UInt8) : Bool :=
  byte == 0x21 || (0x24 ≤ byte && byte ≤ 0x3B) || byte == 0x3D || 0x3F ≤ byte

def isAuthorityByte (byte : UInt8) : Bool :=
  let character := Char.ofNat byte.toNat
  byte < 128 && (character.isAlphanum
    || ['!', '$', '&', '\'', '(', ')', '*', '+', ',', '-', '.', ':', ';', '=', '@', '[', ']', '_',
        '~'].contains character)

def isSchemeByte (byte : UInt8) : Bool :=
  let character := Char.ofNat byte.toNat
  byte < 128 && (character.isAlphanum || ['+', '-', '.'].contains character)

/-- Reads a path with an optional query, up to a fragment. -/
def parsePath (input : Bytes) : Except UriError (Bytes × Option Bytes) := do
  let path := input.takeWhile fun byte => byte != 63 && byte != 35
  unless path.all isPathByte do throw .invalidCharacter
  let query ← match input.drop path.length with
    | 63 :: rest =>
        let query := rest.takeWhile fun byte => byte != 35
        unless query.all isQueryByte do throw .invalidCharacter
        pure (some query)
    | _ => pure none
  if (Bytes.toText? (path ++ query.getD [])).isNone then throw .invalidCharacter
  return (path, query)

/-- What the scan of an authority has seen. -/
structure AuthorityScan where
  length : Nat := 0
  colons : Nat := 0
  opened : Bool := false
  closed : Bool := false
  percent : Bool := false
  atSign : Option Nat := none

/-- Scans an authority byte by byte, up to the path, query or fragment. -/
def scanAuthority (scan : AuthorityScan) : Bytes -> Except UriError AuthorityScan
  | [] => pure scan
  | byte :: rest =>
      if byte == 47 || byte == 63 || byte == 35 then pure scan
      else
        let further := { scan with length := scan.length + 1 }
        if byte == 58 then
          if 8 ≤ scan.colons then throw .invalidAuthority
          else scanAuthority { further with colons := scan.colons + 1 } rest
        else if byte == 91 then
          if scan.percent || scan.opened then throw .invalidAuthority
          else scanAuthority { further with opened := true } rest
        else if byte == 93 then
          if !scan.opened || scan.closed then throw .invalidAuthority
          else scanAuthority { further with closed := true, colons := 0, percent := false } rest
        else if byte == 64 then
          scanAuthority
            { further with atSign := some scan.length, colons := 0, percent := false } rest
        else if byte == 37 then scanAuthority { further with percent := true } rest
        else if isAuthorityByte byte then scanAuthority further rest
        else throw .invalidCharacter

/-- The length of the authority at the front. It must close what it opens, hold at most one port
colon, not end in an at sign, and escape nothing outside its user part. -/
def authorityLength (input : Bytes) : Except UriError Nat := do
  let scan ← scanAuthority {} input
  if scan.opened != scan.closed || 1 < scan.colons
      || (scan.length != 0 && scan.atSign == some (scan.length - 1)) || scan.percent then
    throw .invalidAuthority
  return scan.length

/-- Reads a bare authority, which must not be empty and must span the input. -/
def parseAuthority (input : Bytes) : Except UriError Uri := do
  if input.isEmpty then throw .empty
  let length ← authorityLength input
  unless length = input.length do throw .invalidCharacter
  return ⟨false, [], none⟩

def lowered (byte : UInt8) : UInt8 := if 65 ≤ byte && byte ≤ 90 then byte + 32 else byte

def schemeEnd : Bytes := [58, 47, 47]

/-- The length of the scheme at the front, when there is one. -/
def schemeLength (input : Bytes) : Except UriError (Option Nat) :=
  let lower := (input.take 8).map lowered
  if (Bytes.ofText "http://").isPrefixOf lower then pure (some 4)
  else if (Bytes.ofText "https://").isPrefixOf lower then pure (some 5)
  else if input.length ≤ 3 then pure none
  else
    let name := input.takeWhile isSchemeByte
    if schemeEnd.isPrefixOf (input.drop name.length) then
      if 64 < name.length then throw .schemeTooLong else pure (some name.length)
    else pure none

def maxLength : Nat := 65534

def parse (text : String) : Except UriError Uri := do
  let input := Bytes.ofText text
  if maxLength < input.length then throw .tooLong
  match input with
  | [] => throw .empty
  | [47] => return ⟨false, [47], none⟩
  | [42] => return ⟨false, [42], none⟩
  | [_] => parseAuthority input
  | 47 :: _ =>
      let (path, query) ← parsePath input
      return ⟨false, path, query⟩
  | _ =>
      match (← schemeLength input) with
      | none =>
          let length ← authorityLength input
          unless length = input.length do throw .invalidFormat
          return ⟨false, [], none⟩
      | some scheme =>
          let rest := input.drop (scheme + schemeEnd.length)
          if rest.isEmpty then throw .empty
          let length ← authorityLength rest
          if length = 0 then throw .invalidFormat
          let (path, query) ← parsePath (rest.drop length)
          return ⟨true, path, query⟩

/-- The path: `/` where a path may stand but none is written. -/
def path (uri : Uri) : Bytes :=
  if uri.storedPath.isEmpty && (uri.hasScheme || uri.storedQuery.isSome) then [47]
  else uri.storedPath

def query (uri : Uri) : Option Bytes := uri.storedQuery

/-- Path and query as they are written. -/
def pathAndQuery (uri : Uri) : Bytes :=
  match uri.storedQuery with
  | some query => uri.storedPath ++ 63 :: query
  | none => uri.path

end Uri

end HttpService
