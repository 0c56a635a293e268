import HttpService.Bytes
import HttpService.Toml.Value
/-! # Reading TOML

A reader takes characters from the front or fails. Failing says nothing but that the text is not a
document. -/
set_option autoImplicit false

namespace HttpService.Toml

abbrev Scan := StateT (List Char) Option

namespace Scan

variable {α σ : Type}

def peek : Scan (Option Char) := do return (← get).head?

def startsWith (expected : List Char) : Scan Bool := do return expected.isPrefixOf (← get)

def skip (count : Nat) : Scan Unit := modify fun rest => rest.drop count

def exactly (expected : List Char) : Scan Unit := do
  if (← startsWith expected) then skip expected.length else failure

def one (test : Char -> Bool) : Scan Char := do
  match (← get) with
  | character :: rest => if test character then do set rest; return character else failure
  | [] => failure

/-- Takes all characters at the front that pass a test. -/
def many (test : Char -> Bool) : Scan (List Char) := do
  let rest ← get
  set (rest.dropWhile test)
  return rest.takeWhile test

def many1 (test : Char -> Bool) : Scan (List Char) := do
  let taken ← many test
  if taken.isEmpty then failure else return taken

/-- Tries a reader; when it fails nothing is taken. -/
def attempt? (reader : Scan α) : Scan (Option α) := fun rest =>
  match reader rest with
  | some (value, rest) => some (some value, rest)
  | none => some (none, rest)

/-- Repeats a step until it says that it is done; every round but the last takes a character. -/
def repeating (step : σ -> Scan (σ × Bool)) : Nat -> σ -> Scan σ
  | 0, state => pure state
  | fuel + 1, state => do
      let (state, more) ← step state
      if more then repeating step fuel state else pure state

/-- Repeats a step as often as there may be characters for it. -/
def loop (step : σ -> Scan (σ × Bool)) (state : σ) : Scan σ := do
  repeating step ((← get).length + 1) state

def isBlank (character : Char) : Bool := character == ' ' || character == '\t'

def blanks : Scan Unit := do let _ ← many isBlank

/-- The characters of comments and, but for quotes and backslashes, of texts. -/
def isPlain (character : Char) : Bool :=
  character == '\t' || (' ' ≤ character && character != '\x7f')

/-- Takes the end of a line if one is there. -/
def newline? : Scan Bool := do
  if (← startsWith ['\n']) then do skip 1; return true
  else if (← startsWith ['\r', '\n']) then do skip 2; return true
  else return false

def comment? : Scan Unit := do
  if (← peek) = some '#' then let _ ← many isPlain

/-- Takes the rest of a line after a value or a header. -/
def lineEnd : Scan Unit := do
  blanks
  comment?
  if !(← newline?) then
    if (← peek).isSome then failure

/-- Takes blanks, comments and ends of lines. -/
def gap : Scan Unit :=
  loop (fun () => do
    blanks
    if (← peek) = some '#' then do
      comment?
      if (← newline?) then return ((), true) else failure
    else return ((), ← newline?)) ()

/-! ## Texts -/

def hexNumber? (digits : List Char) : Option Nat :=
  digits.foldl
    (fun total digit => do
      return (← total) * 16 + (← if digit.toNat < 128 then
        Bytes.hexValue? (Bytes.code digit) else none))
    (some 0)

/-- The character that `count` digits number. -/
def numbered (count : Nat) : Scan Char := do
  let digits := (← get).take count
  if digits.length < count then failure
  let point ← (hexNumber? digits : Option Nat)
  skip count
  if point.isValidChar then return Char.ofNat point else failure

/-- Takes what an escape stands for, after its backslash. -/
def escape : Scan Char := do
  match (← one fun _ => true) with
  | 'b' => return '\x08'
  | 't' => return '\t'
  | 'n' => return '\n'
  | 'f' => return '\x0c'
  | 'r' => return '\r'
  | '"' => return '"'
  | '\\' => return '\\'
  | 'u' => numbered 4
  | 'U' => numbered 8
  | _ => failure

def isBasic (character : Char) : Bool :=
  isPlain character && character != '"' && character != '\\'

def basicText : Scan String := do
  exactly ['"']
  let body ← loop
    (fun done => do
      match (← one fun _ => true) with
      | '"' => return (done, false)
      | '\\' => do return ((← escape) :: done, true)
      | other => if isBasic other then return (other :: done, true) else failure)
    []
  return String.ofList body.reverse

def literalText : Scan String := do
  exactly ['\'']
  let body ← many fun character => isPlain character && character != '\''
  exactly ['\'']
  return String.ofList body

/-- Takes the quotes that close a long text; up to two more belong to the text. -/
def closingQuotes (quote : Char) : Scan (List Char × Bool) := do
  let count := ((← get).takeWhile (· == quote)).length
  if count < 3 then do skip count; return (List.replicate count quote, true)
  else if count ≤ 5 then do skip count; return (List.replicate (count - 3) quote, false)
  else failure

/-- Takes a text in three double quotes on each side. -/
def longBasicText : Scan String := do
  exactly ['"', '"', '"']
  let _ ← newline?
  let body ← loop
    (fun done => do
      if (← newline?) then return ('\n' :: done, true)
      else match (← peek) with
        | some '"' => do
            let (quotes, more) ← closingQuotes '"'
            return (quotes ++ done, more)
        | some '\\' => do
            skip 1
            let folded ← attempt? (do
              blanks
              if !(← newline?) then failure
              loop (fun () => do blanks; return ((), ← newline?)) ())
            if folded.isSome then return (done, true)
            else return ((← escape) :: done, true)
        | _ => do return ((← one isBasic) :: done, true))
    []
  return String.ofList body.reverse

/-- Takes a text in three single quotes on each side. -/
def longLiteralText : Scan String := do
  exactly ['\'', '\'', '\'']
  let _ ← newline?
  let body ← loop
    (fun done => do
      if (← newline?) then return ('\n' :: done, true)
      else if (← peek) = some '\'' then do
        let (quotes, more) ← closingQuotes '\''
        return (quotes ++ done, more)
      else do return ((← one isPlain) :: done, true))
    []
  return String.ofList body.reverse

def anyText : Scan String := do
  if (← startsWith ['"', '"', '"']) then longBasicText
  else if (← startsWith ['\'', '\'', '\'']) then longLiteralText
  else if (← peek) = some '"' then basicText
  else literalText

/-! ## Keys -/

def isBare (character : Char) : Bool :=
  character.isAlphanum || character == '_' || character == '-'

def simpleKey : Scan String := do
  match (← peek) with
  | some '"' => basicText
  | some '\'' => literalText
  | _ => return String.ofList (← many1 isBare)

/-- The deepest nesting of values, and the number of parts a key may have, plus one. -/
def depthLimit : Nat := 80

/-- Takes a key with dots between its parts: the way to it and its last part. -/
def key : Scan (List String × String) := do
  let part : Scan String := do
    blanks
    let part ← simpleKey
    blanks
    return part
  let first ← part
  let parts ← loop
    (fun parts => do
      if (← peek) = some '.' then do
        skip 1
        return ((← part) :: parts, true)
      else return (parts, false))
    [first]
  match parts with
  | last :: before => if parts.length < depthLimit then return (before.reverse, last) else failure
  | [] => failure

/-! ## Dates and times -/

def number (digits : List Char) : Nat :=
  digits.foldl (fun total digit => total * 10 + (digit.toNat - 48)) 0

/-- Takes a number of so many digits within bounds. -/
def fixed (count low high : Nat) : Scan Nat := do
  let digits := (← get).take count
  if digits.length = count && digits.all Char.isDigit && low ≤ number digits
      && number digits ≤ high then do
    skip count
    return number digits
  else failure

def padded (width value : Nat) : List Char := zeroPadded width (Nat.toDigits 10 value)

def daysIn (year month : Nat) : Nat :=
  if month = 2 then
    if year % 4 = 0 && (year % 100 != 0 || year % 400 = 0) then 29 else 28
  else if [4, 6, 9, 11].contains month then 30 else 31

def date : Scan (List Char) := do
  let year ← fixed 4 0 9999
  exactly ['-']
  let month ← fixed 2 1 12
  exactly ['-']
  let day ← fixed 2 1 31
  if daysIn year month < day then failure
  return padded 4 year ++ '-' :: padded 2 month ++ '-' :: padded 2 day

/-- Takes a time of day; of the places of a second nine are kept, and zeros at their end are not. -/
def time : Scan (List Char) := do
  let hour ← fixed 2 0 23
  exactly [':']
  let minute ← fixed 2 0 59
  exactly [':']
  let second ← fixed 2 0 60
  let places ← attempt? (do exactly ['.']; many1 Char.isDigit)
  let kept := ((places.getD []).take 9).reverse.dropWhile (· == '0') |>.reverse
  return padded 2 hour ++ ':' :: padded 2 minute ++ ':' :: padded 2 second
    ++ (if kept.isEmpty then [] else '.' :: kept)

def zone : Scan (List Char) := do
  let sign ← one fun character => "Zz+-".toList.contains character
  if sign == 'Z' || sign == 'z' then return ['Z']
  else do
    let hour ← fixed 2 0 23
    exactly [':']
    let minute ← fixed 2 0 59
    let shown := if hour = 0 && minute = 0 then '+' else sign
    return shown :: padded 2 hour ++ ':' :: padded 2 minute

/-- Takes a date, a time of day, or both with or without a zone. -/
def moment : Scan String := do
  match (← attempt? date) with
  | none => return String.ofList (← time)
  | some day => do
      let rest ← attempt? (do
        let _ ← one fun character => "Tt ".toList.contains character
        time)
      match rest with
      | none => return String.ofList day
      | some clock => do
          let zone ← attempt? zone
          return String.ofList (day ++ 'T' :: clock ++ zone.getD [])

/-! ## Numbers -/

def digits (test : Char -> Bool) : Scan (List Char) := do
  let first ← one test
  let more ← loop
    (fun done => do
      match (← attempt? (do
        if (← peek) = some '_' then skip 1
        one test)) with
      | some digit => return (digit :: done, true)
      | none => return (done, false))
    []
  if (← peek) = some '_' then failure
  return first :: more.reverse

/-- Takes a decimal number without needless zeros: whether it is negative, and its digits. -/
def decimal : Scan (Bool × List Char) := do
  let sign ← attempt? (one fun character => character == '+' || character == '-')
  let negative := sign == some '-'
  if (← peek) = some '0' then do skip 1; return (negative, ['0'])
  else return (negative, ← digits Char.isDigit)

/-- Is this a 64-bit integer? -/
def fits (value : Int) : Bool :=
  -9223372036854775808 ≤ value && value ≤ 9223372036854775807

def digitBelow (radix : Nat) (character : Char) : Bool :=
  character.toNat < 128 && (Bytes.hexValue? (Bytes.code character)).any (· < radix)

/-- Takes the digits of a number in another base. -/
def inBase (radix : Nat) : Scan Toml := do
  skip 2
  let written ← digits (digitBelow radix)
  let value := written.foldl
    (fun total digit => total * radix + (Bytes.hexValue? (Bytes.code digit)).getD 0) 0
  if fits value then return .integer value else failure

/-- Takes the exponent of a number, if it has one. -/
def exponent? : Scan (Option Int) := do
  let isMark (character : Char) : Bool := character == 'e' || character == 'E'
  match (← peek) with
  | some mark =>
      if isMark mark then do
        skip 1
        let sign ← attempt? (one fun character => character == '+' || character == '-')
        let size := number (← digits Char.isDigit)
        return some (if sign == some '-' then -(size : Int) else size)
      else return none
  | none => return none

def special : Scan Toml := do
  let sign ← attempt? (one fun character => character == '+' || character == '-')
  if (← startsWith "inf".toList) then do skip 3; return .float (.infinite (sign == some '-'))
  else if (← startsWith "nan".toList) then do skip 3; return .float .notANumber
  else failure

/-- Takes an integer or a float. A positive float must be finite. -/
def decimalValue : Scan Toml := do
  let (negative, whole) ← decimal
  let places ← if (← peek) = some '.' then do skip 1; digits Char.isDigit else pure []
  match places, (← exponent?) with
  | [], none =>
      let size : Int := number whole
      let value := if negative then -size else size
      if fits value then return .integer value else failure
  | _, exponent =>
      let value := Binary64.ofDecimal negative (number (whole ++ places))
        (exponent.getD 0 - places.length)
      if value.isInfinite && !negative then failure else return .float value

def numeric : Scan Toml := do
  match (← attempt? moment) with
  | some written => return .moment written
  | none =>
      if (← startsWith ['0', 'x']) then inBase 16
      else if (← startsWith ['0', 'o']) then inBase 8
      else if (← startsWith ['0', 'b']) then inBase 2
      else match (← attempt? special) with
        | some value => return value
        | none => decimalValue

/-! ## Values and documents -/

/-- Takes the members of a table in braces after the opening one, each value with `value`. -/
def closedMembers (value : Scan Toml) : Scan Members := do
  blanks
  if (← peek) = some '}' then do
    skip 1
    return []
  loop
    (fun members => do
      let (path, last) ← key
      exactly ['=']
      blanks
      let given ← value
      blanks
      let members ← (Toml.define path last given .headed members : Option Members)
      match (← one fun character => character == ',' || character == '}') with
      | ',' => return (members, true)
      | _ => return (members, false))
    []

/-- Takes the items of a list after the opening bracket, each with `value`. -/
def listItems (value : Scan Toml) : Scan (List Toml) := do
  let items ← loop
    (fun items => do
      gap
      if (← peek) = some ']' then do skip 1; return (items, false)
      else do
        let item ← value
        gap
        match (← one fun character => character == ',' || character == ']') with
        | ',' => return (item :: items, true)
        | _ => return (item :: items, false))
    []
  return items.reverse

/-- Takes a value that may be nested so many levels deep. -/
def value : Nat -> Scan Toml
  | 0 => failure
  | depth + 1 => do
      match (← peek) with
      | some '"' | some '\'' => return .text (← anyText)
      | some '[' => do
          skip 1
          return .array (← listItems (value depth))
      | some '{' => do
          skip 1
          return .table .closed (← closedMembers (value depth))
      | some 't' => do exactly "true".toList; return .boolean true
      | some 'f' => do exactly "false".toList; return .boolean false
      | some 'i' | some 'n' => special
      | some _ => numeric
      | none => failure

/-- Takes one header, one key with its value, or one empty line. -/
def statement (draft : Draft) : Scan Draft := do
  match (← peek) with
  | some '#' | some '\n' | some '\r' => do lineEnd; return draft
  | some '[' =>
      if (← startsWith ['[', '[']) then do
        skip 2
        let (path, last) ← key
        exactly [']', ']']
        lineEnd
        (draft.openRow (path ++ [last]) : Option Draft)
      else do
        skip 1
        let (path, last) ← key
        exactly [']']
        lineEnd
        (draft.openTable (path ++ [last]) : Option Draft)
  | _ => do
      let (path, last) ← key
      exactly ['=']
      blanks
      let given ← value depthLimit
      lineEnd
      (draft.define path last given : Option Draft)

def document : Scan Members := do
  let _ ← attempt? (exactly ['\ufeff'])
  let draft ← loop
    (fun draft => do
      blanks
      if (← peek).isNone then return (draft, false)
      else return (← statement draft, true))
    ({} : Draft)
  (draft.close : Option Members)

end Scan

def read? (text : String) : Option Members := (Scan.document text.toList).map Prod.fst

end HttpService.Toml
