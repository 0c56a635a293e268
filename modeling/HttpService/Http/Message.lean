import HttpService.Http.Request
import HttpService.Http.Response
/-! # Messages on a connection

The bytes of requests as they arrive on a connection, and of responses as they are sent. What has
arrived may be incomplete at any point: a reader then asks for more. The head of a request says how
its body is delimited, and a body is read piece by piece, as far as it is there. -/
set_option autoImplicit false

namespace HttpService

/-- The versions of the format. Connections are closed after a response in the old one, unless the
client asks for more. -/
inductive Version where
  | old
  | current
deriving DecidableEq, Inhabited

def Version.text : Version -> String
  | .old => "HTTP/1.0"
  | .current => "HTTP/1.1"

/-- How a body is delimited. -/
inductive Framing where
  | sized (length : Nat)
  | chunked
deriving DecidableEq, Inhabited

/-- The head of a request. The body of `request` is still empty. -/
structure MessageHead where
  request : Request
  version : Version
  framing : Framing
  /-- Does the client want to send further requests? -/
  persists : Bool
  /-- Does the client wait for leave to send the body? -/
  expectsLeave : Bool

/-- Why a head is refused. -/
inductive HeadFault where
  | malformed
  | tooLarge
  | targetTooLong
deriving DecidableEq, Inhabited

def HeadFault.status : HeadFault -> Status
  | .malformed => .badRequest
  | .tooLarge => .fieldsTooLarge
  | .targetTooLong => .targetTooLong

/-- Why reading stops short. -/
inductive Stall where
  | more
  | fault (reason : HeadFault)
deriving DecidableEq, Inhabited

namespace MessageHead

abbrev Scan := StateT Bytes (Except Stall)

def refuse {α : Type} (reason : HeadFault) : Scan α := throw (.fault reason)

/-- Takes the end of a line, with or without a carriage return. -/
def lineEnd : Scan Unit := do
  match (← get) with
  | 10 :: rest => set rest
  | 13 :: 10 :: rest => set rest
  | [] | [13] => throw .more
  | _ => refuse .malformed

/-- Takes bytes that pass a test up to one that does not, which is left. -/
def run (accept : UInt8 -> Bool) : Scan Bytes := do
  let input ← get
  let taken := input.takeWhile accept
  let rest := input.drop taken.length
  if rest.isEmpty then throw .more
  set rest
  return taken

def exactly (expected : UInt8) : Scan Unit := do
  match (← get) with
  | [] => throw .more
  | byte :: rest => if byte = expected then set rest else refuse .malformed

def isTokenByte (byte : UInt8) : Bool := byte < 128 && isTokenCharacter (Char.ofNat byte.toNat)

def isTargetByte (byte : UInt8) : Bool := 32 < byte && byte != 127

def isBlankByte (byte : UInt8) : Bool := byte == 32 || byte == 9

def isValueByte (byte : UInt8) : Bool := byte == 9 || (32 ≤ byte && byte != 127)

def withoutEmptyLines : Bytes -> Bytes
  | 13 :: 10 :: rest => withoutEmptyLines rest
  | 10 :: rest => withoutEmptyLines rest
  | input => input

def scanMethod : Scan Method := do
  let name ← run isTokenByte
  exactly 32
  match (Bytes.toText? name).bind Method.parse? with
  | some method => return method
  | none => refuse .malformed

def scanTarget : Scan Uri := do
  let written ← run isTargetByte
  exactly 32
  match (Bytes.toText? written).map Uri.parse with
  | some (.ok uri) => return uri
  | some (.error .tooLong) => refuse .targetTooLong
  | _ => refuse .malformed

/-- Takes given bytes; says whether they are there. -/
def given : Bytes -> Scan Unit
  | [] => pure ()
  | byte :: rest => do
      exactly byte
      given rest

def scanVersion : Scan Version := do
  given (Bytes.ofText "HTTP/1.")
  match (← get) with
  | 48 :: rest => do
      set rest
      lineEnd
      return .old
  | 49 :: rest => do
      set rest
      lineEnd
      return .current
  | [] => throw .more
  | _ => refuse .malformed

def maxFields : Nat := 100

/-- Takes header fields up to the empty line after them. -/
def scanFields : Nat -> Headers -> Scan Headers
  | 0, _ => refuse .tooLarge
  | left + 1, headers => do
      match (← get) with
      | 10 :: _ | 13 :: _ => do
          lineEnd
          return headers
      | _ => do
          let written ← run isTokenByte
          exactly 58
          let _ ← run isBlankByte
          let value ← run isValueByte
          lineEnd
          match (Bytes.toText? written).bind headerName? with
          | some name =>
              let trimmed := (value.reverse.dropWhile isBlankByte).reverse
              scanFields left (headers.append name trimmed)
          | none => refuse .malformed

/-- What the header fields say about the message, as far as they were seen. -/
structure Summary where
  persists : Bool
  length : Option Nat := none
  /-- Is the last coding of the transfer in chunks? -/
  chunked : Option Bool := none
  expectsLeave : Bool := false

def lowerText (value : Bytes) : String :=
  String.ofList (((visibleText? value).getD "").toList.map Char.toLower)

def words (value : Bytes) : List String :=
  ((lowerText value).splitOn ",").map fun word => word.trimAscii.toString

def lengthOf? (value : Bytes) : Option Nat :=
  if value.isEmpty || !value.all Bytes.isDigit then none
  else
    let length := value.foldl (fun total byte => total * 10 + Bytes.digitValue byte) 0
    if length < wordCount then some length else none

/-- Takes one field into account. A length beside a transfer coding does not count. -/
def Summary.see (version : Version) (summary : Summary) (field : String × Bytes) :
    Except HeadFault Summary :=
  let (name, value) := field
  if name == "transfer-encoding" then
    if version = .old then throw .malformed
    else pure { summary with chunked := some ((words value).getLast? == some "chunked") }
  else if name == "content-length" then
    if summary.chunked.isSome then pure summary
    else match lengthOf? value, summary.length with
      | none, _ => throw .malformed
      | some length, none => pure { summary with length := some length }
      | some length, some before => if length = before then pure summary else throw .malformed
  else if name == "connection" then
    let persists :=
      if summary.persists then !(words value).contains "close"
      else (words value).contains "keep-alive"
    pure { summary with persists }
  else if name == "expect" then
    pure { summary with expectsLeave := lowerText value == "100-continue" }
  else pure summary

/-- How the body is delimited. -/
def Summary.framing (summary : Summary) : Except HeadFault Framing :=
  match summary.chunked with
  | some true => pure .chunked
  | some false => throw .malformed
  | none => pure (.sized (summary.length.getD 0))

def scan : Scan MessageHead := do
  modify withoutEmptyLines
  let method ← scanMethod
  let uri ← scanTarget
  let version ← scanVersion
  let headers ← scanFields (maxFields + 1) .empty
  let found : Except HeadFault (Summary × Framing) := do
    let start : Summary := { persists := version = .current }
    let summary ← headers.fields.foldlM (Summary.see version) start
    return (summary, ← summary.framing)
  match found with
  | .error reason => refuse reason
  | .ok (summary, framing) =>
      let request : Request := { method, uri, headers, body := [] }
      let expectsLeave := summary.expectsLeave && version = .current
      return ⟨request, version, framing, summary.persists, expectsLeave⟩

/-- Reads a head from what has arrived. Returns what follows it too. -/
def read (arrived : Bytes) : Except Stall (MessageHead × Bytes) := scan.run arrived

end MessageHead

/-! ## Bodies -/

/-- What is expected next of a body. -/
inductive BodyState where
  | sized (left : Nat)
  | chunkSize
  | chunk (left : Nat)
  | chunkEnd
  | trailer
deriving DecidableEq, Inhabited

def Framing.start : Framing -> BodyState
  | .sized length => .sized length
  | .chunked => .chunkSize

inductive BodyPiece where
  | more
  | broken
  | frame (bytes : Bytes) (state : BodyState) (rest : Bytes)
  | finish (rest : Bytes)
deriving DecidableEq, Inhabited

namespace BodyState

/-- The line at the front without its end, and what follows it. -/
def line? (arrived : Bytes) : Option (Bytes × Bytes) := Bytes.splitAt? [13, 10] arrived

/-- The size that the line before a chunk gives. An extension may follow it. -/
def sizeOf? (line : Bytes) : Option Nat :=
  let digits := line.takeWhile fun byte => (Bytes.hexValue? byte).isSome
  let size := digits.foldl (fun total byte => total * 16 + (Bytes.hexValue? byte).getD 0) 0
  let rest := (line.drop digits.length).dropWhile MessageHead.isBlankByte
  if digits.isEmpty || wordCount ≤ size || rest.contains 10 then none
  else if rest.isEmpty || rest.head? == some 59 then some size
  else none

/-- Takes the bytes of a chunk or a body of which `left` are still to come. -/
def takeUpTo (left : Nat) (state : Nat -> BodyState) (arrived : Bytes) : BodyPiece :=
  if arrived.isEmpty then .more
  else .frame (arrived.take left) (state (left - arrived.length)) (arrived.drop left)

def next : BodyState -> Bytes -> BodyPiece
  | .sized 0, arrived => .finish arrived
  | .sized left, arrived => takeUpTo left .sized arrived
  | .chunkSize, arrived =>
      match line? arrived with
      | none => if (arrived.takeWhile (· != 10)).length < arrived.length then .broken else .more
      | some (line, rest) =>
          match sizeOf? line with
          | none => .broken
          | some 0 => .frame [] .trailer rest
          | some size => .frame [] (.chunk size) rest
  | .chunk left, arrived =>
      takeUpTo left (fun left => if left = 0 then .chunkEnd else .chunk left) arrived
  | .chunkEnd, arrived =>
      match arrived with
      | [] | [13] => .more
      | 13 :: 10 :: rest => .frame [] .chunkSize rest
      | _ => .broken
  | .trailer, arrived =>
      match line? arrived with
      | none => .more
      | some ([], rest) => .finish rest
      | some (_, rest) => .frame [] .trailer rest

end BodyState

/-! ## Responses -/

namespace Response

/-- What tells a client to go on and send the body. -/
def leave : Bytes := Bytes.ofText "HTTP/1.1 100 Continue\r\n\r\n"

/-- May a response with this status have a body? -/
def mayHaveBody (status : Status) : Bool := status.code ≠ 204 && status.code ≠ 304

/-- The field that says what becomes of the connection, where the version does not say it. -/
def connectionField : Version -> Bool -> List (String × Bytes)
  | .current, false => [("connection", Bytes.ofText "close")]
  | .old, true => [("connection", Bytes.ofText "keep-alive")]
  | _, _ => []

def fieldLine (field : String × Bytes) : Bytes :=
  Bytes.ofText (field.1 ++ ": ") ++ field.2 ++ Bytes.ofText "\r\n"

/-- The response as it is sent. Without a body it still says how long the body would be. -/
def encode (response : Response) (version : Version) (withBody persists : Bool) (date : String) :
    Bytes :=
  let status := toString response.status.code ++ " " ++ (response.status.reason?.getD "<none>")
  let length :=
    if !mayHaveBody response.status || (!withBody && response.body.isEmpty) then []
    else [("content-length", Bytes.ofText (toString response.body.length))]
  let fields := response.headers.fields ++ connectionField version persists ++ length
    ++ [("date", Bytes.ofText date)]
  Bytes.ofText (version.text ++ " " ++ status ++ "\r\n") ++ fields.flatMap fieldLine
    ++ Bytes.ofText "\r\n"
    ++ (if withBody && mayHaveBody response.status then response.body else [])

end Response

end HttpService
