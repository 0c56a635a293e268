import HttpService.Bytes
import HttpService.Json.Value
/-! # Reading JSON bytes

A `Reader` consumes bytes from the front and keeps its place also when it fails, so that a caller
may catch a fault and go on from there. A fault carries its reason and how many bytes were still
unread at the place it reports; `Fault.position` turns that into a line and a column.

Main definitions: `Reader.string`, `Reader.number`, `Reader.value` (a whole value, to a nesting
depth of 127) and `Reader.skip` (a value read past without being kept, to any depth). -/
set_option autoImplicit false

namespace HttpService.Json

/-- Why reading stopped. -/
inductive Reason where
  | eofList | eofObject | eofString | eofValue
  | expectedColon | expectedListCommaOrEnd | expectedObjectCommaOrEnd
  | expectedIdent | expectedValue
  | invalidEscape | invalidNumber | numberOutOfRange | invalidCodePoint
  | controlCharacter | keyMustBeText | loneSurrogate
  | trailingComma | trailingCharacters | unexpectedEndOfEscape | tooDeep
  /-- The text is well formed so far but not of the wanted shape. -/
  | mismatch
deriving DecidableEq

inductive Category where
  | malformed | truncated | misshapen
deriving DecidableEq

def Reason.category : Reason -> Category
  | .eofList | .eofObject | .eofString | .eofValue => .truncated
  | .mismatch => .misshapen
  | _ => .malformed

def Reason.message : Reason -> String
  | .eofList => "EOF while parsing a list"
  | .eofObject => "EOF while parsing an object"
  | .eofString => "EOF while parsing a string"
  | .eofValue => "EOF while parsing a value"
  | .expectedColon => "expected `:`"
  | .expectedListCommaOrEnd => "expected `,` or `]`"
  | .expectedObjectCommaOrEnd => "expected `,` or `\x7d`"
  | .expectedIdent => "expected ident"
  | .expectedValue => "expected value"
  | .invalidEscape => "invalid escape"
  | .invalidNumber => "invalid number"
  | .numberOutOfRange => "number out of range"
  | .invalidCodePoint => "invalid unicode code point"
  | .controlCharacter => "control character (\\u0000-\\u001F) found while parsing a string"
  | .keyMustBeText => "key must be a string"
  | .loneSurrogate => "lone leading surrogate in hex escape"
  | .trailingComma => "trailing comma"
  | .trailingCharacters => "trailing characters"
  | .unexpectedEndOfEscape => "unexpected end of hex escape"
  | .tooDeep => "recursion limit exceeded"
  | .mismatch => "unexpected shape"

/-- A failure to read, with the number of bytes left unread at the place it reports. -/
structure Fault where
  reason : Reason
  remaining : Nat
deriving DecidableEq

/-- Line and column of a fault in the whole text: lines count from 1, columns are bytes since the
last line feed. -/
def Fault.position (fault : Fault) (whole : Bytes) : Nat × Nat :=
  let seen := whole.take (whole.length - fault.remaining)
  let column := (seen.reverse.takeWhile (· != Bytes.code '\n')).length
  (1 + seen.count (Bytes.code '\n'), column)

def Fault.describe (fault : Fault) (whole : Bytes) : String :=
  let (line, column) := fault.position whole
  fault.reason.message ++ " at line " ++ toString line ++ " column " ++ toString column

structure Reader (α : Type) where
  run : Bytes -> Except Fault α × Bytes

namespace Reader

variable {α β σ : Type}

instance : Monad Reader where
  pure a := ⟨fun input => (.ok a, input)⟩
  bind reader next := ⟨fun input =>
    match reader.run input with
    | (.ok a, rest) => (next a).run rest
    | (.error fault, rest) => (.error fault, rest)⟩

def fail (reason : Reason) : Reader α := ⟨fun input => (.error ⟨reason, input.length⟩, input)⟩

/-- Fails one byte further on, at the byte that was looked at. -/
def failPeeked (reason : Reason) : Reader α :=
  ⟨fun input => (.error ⟨reason, input.length - 1⟩, input)⟩

def peek : Reader (Option UInt8) := ⟨fun input => (.ok input.head?, input)⟩

def advance : Reader Unit := ⟨fun input => (.ok (), input.tail)⟩

def next : Reader (Option UInt8) := ⟨fun input => (.ok input.head?, input.tail)⟩

/-- Catches a fault, going on from where it left the input. -/
def attempt (reader : Reader α) : Reader (Except Fault α) :=
  ⟨fun input => let (outcome, rest) := reader.run input; (.ok outcome, rest)⟩

/-- Runs `last` after `body` also when `body` failed; the first fault is the one reported. -/
def closing (body : Reader α) (last : Reader Unit) : Reader α := ⟨fun input =>
  match body.run input with
  | (.ok a, rest) =>
      match last.run rest with
      | (.ok (), rest) => (.ok a, rest)
      | (.error fault, rest) => (.error fault, rest)
  | (.error fault, rest) => (.error fault, (last.run rest).2)⟩

/-- Runs a reader that is given a bound on the number of bytes left. -/
def bounded (reader : Nat -> Reader α) : Reader α :=
  ⟨fun input => (reader (input.length + 1)).run input⟩

def isBlank (byte : UInt8) : Bool :=
  byte == 32 || byte == 9 || byte == 10 || byte == 13

def peekPastBlanks : Reader (Option UInt8) := ⟨fun input =>
  let rest := input.dropWhile isBlank
  (.ok rest.head?, rest)⟩

def digits : Reader Bytes := ⟨fun input =>
  (.ok (input.takeWhile Bytes.isDigit), input.dropWhile Bytes.isDigit)⟩

/-! ## Texts -/

/-- Where the reader of a text stands: among plain characters, after a backslash, inside a
hexadecimal escape, or between the two halves of a surrogate pair. -/
inductive TextState where
  | plain
  | escape
  | hex (seen : Bytes) (lead : Option Nat)
  | wantBackslash (lead : Nat)
  | wantU (lead : Nat)

/-- The UTF-8 bytes of a code point that is not a surrogate. -/
def codePointBytes (point : Nat) : Bytes := Bytes.ofText (String.singleton (Char.ofNat point))

def simpleEscape? (byte : UInt8) : Option UInt8 :=
  if byte == 34 || byte == 92 || byte == 47 then some byte
  else if byte == Bytes.code 'b' then some 8
  else if byte == Bytes.code 'f' then some 12
  else if byte == Bytes.code 'n' then some 10
  else if byte == Bytes.code 'r' then some 13
  else if byte == Bytes.code 't' then some 9
  else none

def hexValue? (digits : Bytes) : Option Nat :=
  digits.foldl (fun total byte => do return (← total) * 16 + (← Bytes.hexValue? byte)) (some 0)

inductive HexOutcome where
  | character (bytes : Bytes)
  | needsTrail (lead : Nat)
  | refused (reason : Reason)

/-- Judges a completed escape: alone it must not be a trailing half, and after a leading half it
must be one. -/
def completeHex (lead : Option Nat) (digits : Bytes) : HexOutcome :=
  match hexValue? digits, lead with
  | none, _ => .refused .invalidEscape
  | some unit, none =>
      if 0xDC00 ≤ unit && unit ≤ 0xDFFF then .refused .loneSurrogate
      else if 0xD800 ≤ unit && unit ≤ 0xDBFF then .needsTrail unit
      else .character (codePointBytes unit)
  | some unit, some lead =>
      if 0xDC00 ≤ unit && unit ≤ 0xDFFF then
        .character (codePointBytes ((lead - 0xD800) * 0x400 + (unit - 0xDC00) + 0x10000))
      else .refused .loneSurrogate

/-- Reads the rest of a text, up to and with its closing quote, gathering its bytes in reverse. -/
def textBody : TextState -> Bytes -> Bytes -> Except Fault Bytes × Bytes
  | _, _, [] => (.error ⟨.eofString, 0⟩, [])
  | .plain, done, byte :: rest =>
      if byte == 34 then (.ok done.reverse, rest)
      else if byte == 92 then textBody .escape done rest
      else if byte < 32 then (.error ⟨.controlCharacter, rest.length⟩, rest)
      else textBody .plain (byte :: done) rest
  | .escape, done, byte :: rest =>
      if byte == Bytes.code 'u' then textBody (.hex [] none) done rest
      else match simpleEscape? byte with
        | some meant => textBody .plain (meant :: done) rest
        | none => (.error ⟨.invalidEscape, rest.length⟩, rest)
  | .hex seen lead, done, byte :: rest =>
      if seen.length < 3 then textBody (.hex (seen ++ [byte]) lead) done rest
      else match completeHex lead (seen ++ [byte]) with
        | .character bytes => textBody .plain (bytes.reverse ++ done) rest
        | .needsTrail unit => textBody (.wantBackslash unit) done rest
        | .refused reason => (.error ⟨reason, rest.length⟩, rest)
  | .wantBackslash lead, done, byte :: rest =>
      if byte == 92 then textBody (.wantU lead) done rest
      else (.error ⟨.unexpectedEndOfEscape, rest.length⟩, rest)
  | .wantU lead, done, byte :: rest =>
      if byte == Bytes.code 'u' then textBody (.hex [] (some lead)) done rest
      else (.error ⟨.unexpectedEndOfEscape, rest.length⟩, rest)

/-- Reads the rest of a text whose opening quote is consumed. Its bytes must be well-formed UTF-8;
if they are not, the closing quote is consumed all the same. -/
def string : Reader String := ⟨fun input =>
  match textBody .plain [] input with
  | (.error fault, rest) => (.error fault, rest)
  | (.ok bytes, rest) =>
      match Bytes.toText? bytes with
      | some decoded => (.ok decoded, rest)
      | none => (.error ⟨.invalidCodePoint, rest.length⟩, rest)⟩

/-- Reads past the rest of a text. Its escapes must be well formed; its code points are not
judged. -/
def skipTextBody : TextState -> Bytes -> Except Fault Unit × Bytes
  | _, [] => (.error ⟨.eofString, 0⟩, [])
  | .plain, byte :: rest =>
      if byte == 34 then (.ok (), rest)
      else if byte == 92 then skipTextBody .escape rest
      else if byte < 32 then (.error ⟨.controlCharacter, rest.length⟩, rest)
      else skipTextBody .plain rest
  | .escape, byte :: rest =>
      if byte == Bytes.code 'u' then skipTextBody (.hex [] none) rest
      else match simpleEscape? byte with
        | some _ => skipTextBody .plain rest
        | none => (.error ⟨.invalidEscape, rest.length⟩, rest)
  | .hex seen lead, byte :: rest =>
      if seen.length < 3 then skipTextBody (.hex (seen ++ [byte]) lead) rest
      else match hexValue? (seen ++ [byte]) with
        | some _ => skipTextBody .plain rest
        | none => (.error ⟨.invalidEscape, rest.length⟩, rest)
  | .wantBackslash _, _ :: rest => (.error ⟨.unexpectedEndOfEscape, rest.length⟩, rest)
  | .wantU _, _ :: rest => (.error ⟨.unexpectedEndOfEscape, rest.length⟩, rest)

def skipString : Reader Unit := ⟨skipTextBody .plain⟩

/-! ## Numbers -/

def wordMax : Nat := wordCount - 1

/-- Gathers digits into a significand while it fits a word; the number of digits that no longer fit
is returned beside it. -/
def gather : Nat -> Bytes -> Nat × Nat
  | significand, [] => (significand, 0)
  | significand, byte :: rest =>
      let longer := significand * 10 + Bytes.digitValue byte
      if wordMax < longer then (significand, rest.length + 1) else gather longer rest

/-- `significand * 10 ^ exponent` in steps that each round once, refusing what overflows. -/
def scaled (significand : Nat) (exponent : Int) : Option Binary64 :=
  let power (n : Nat) : Binary64 := .ofRatio false (tenTo n) 1
  let start := Binary64.ofNat significand
  if exponent ≥ 0 then
    if exponent ≤ 308 then
      let product := start.multiply (power exponent.toNat)
      if product.isInfinite then none else some product
    else if start.isZero then some start
    else none
  else
    let rec shrink (fuel : Nat) (value : Binary64) (left : Nat) : Binary64 :=
      if left ≤ 308 then value.divide (power left)
      else match fuel with
        | 0 => value
        | fuel + 1 =>
            if value.isZero then value else shrink fuel (value.divide (power 308)) (left - 308)
    some (shrink 16 start (-exponent).toNat)

def finish (positive : Bool) (significand : Nat) (exponent : Int) : Reader JsonNumber :=
  match scaled significand exponent with
  | none => fail .numberOutOfRange
  | some value => pure (.binary (if positive then value else value.negate))

/-- Goes on with the digits of an exponent, up to and with the one that no longer fits 31 bits. -/
def takeExponent : Nat -> Bytes -> Nat × Bytes
  | size, [] => (size, [])
  | size, byte :: rest =>
      if Bytes.isDigit byte then
        let longer := size * 10 + Bytes.digitValue byte
        if longer < twoTo 31 then takeExponent longer rest else (longer, rest)
      else (size, byte :: rest)

def exponentDigits (first : Nat) : Reader Nat := ⟨fun input =>
  let (size, rest) := takeExponent first input
  (.ok size, rest)⟩

/-- Reads the digits of an exponent whose sign is consumed. -/
def exponentPower (positive : Bool) (significand : Nat) (start : Int) (upward : Bool) :
    Reader JsonNumber := do
  match (← next) with
  | none => fail .eofValue
  | some first =>
      if Bytes.isDigit first then do
        let size ← exponentDigits (Bytes.digitValue first)
        if size < twoTo 31 then
          finish positive significand (if upward then start + size else start - size)
        else if significand != 0 && upward then fail .numberOutOfRange
        else do
          let _ ← digits
          pure (.binary (.zero (!positive)))
      else fail .invalidNumber

/-- Reads the exponent part, standing at its letter. -/
def exponentPart (positive : Bool) (significand : Nat) (start : Int) : Reader JsonNumber := do
  advance
  match (← peek) with
  | some 43 => do advance; exponentPower positive significand start true
  | some 45 => do advance; exponentPower positive significand start false
  | _ => exponentPower positive significand start true

def atExponent : Option UInt8 -> Bool
  | some byte => byte == Bytes.code 'e' || byte == Bytes.code 'E'
  | none => false

/-- Reads the fraction part, standing at its point. -/
def fractionPart (positive : Bool) (significand : Nat) (before : Int) : Reader JsonNumber := do
  advance
  let places ← digits
  if places.isEmpty then
    match (← peek) with
    | some _ => failPeeked .invalidNumber
    | none => failPeeked .eofValue
  else
    let (longer, dropped) := gather significand places
    let exponent := before - ((places.length - dropped : Nat) : Int)
    if atExponent (← peek) then exponentPart positive longer exponent
    else finish positive longer exponent

/-- Reads a number whose sign is consumed. -/
def number (positive : Bool) : Reader JsonNumber := do
  match (← next) with
  | none => fail .eofValue
  | some first =>
      if first == 48 then
        match (← peek) with
        | some byte => if Bytes.isDigit byte then failPeeked .invalidNumber else wholeDone 0
        | none => wholeDone 0
      else if Bytes.isDigit first then do
        let more ← digits
        let (significand, dropped) := gather (Bytes.digitValue first) more
        if dropped = 0 then wholeDone significand
        else
          match (← peek) with
          | some 46 => fractionPart positive significand dropped
          | other =>
              if atExponent other then exponentPart positive significand dropped
              else finish positive significand dropped
      else fail .invalidNumber
where
  wholeDone (significand : Nat) : Reader JsonNumber := do
    match (← peek) with
    | some 46 => fractionPart positive significand 0
    | other =>
        if atExponent other then exponentPart positive significand 0
        else if positive then pure (.natural significand)
        else if significand = 0 || twoTo 63 < significand then
          pure (.binary (.negate (.ofNat significand)))
        else pure (.negative significand)

/-- Reads past a number whose sign is consumed. -/
def skipNumber : Reader Unit := do
  match (← next) with
  | none => fail .invalidNumber
  | some first =>
      if first == 48 then
        match (← peek) with
        | some byte => if Bytes.isDigit byte then failPeeked .invalidNumber else skipTail
        | none => pure ()
      else if Bytes.isDigit first then do
        let _ ← digits
        skipTail
      else fail .invalidNumber
where
  skipPower : Reader Unit := do
    match (← next) with
    | some byte => if Bytes.isDigit byte then do let _ ← digits else fail .invalidNumber
    | none => fail .invalidNumber
  skipExponent : Reader Unit := do
    advance
    match (← peek) with
    | some 43 => do advance; skipPower
    | some 45 => do advance; skipPower
    | _ => skipPower
  skipTail : Reader Unit := do
    match (← peek) with
    | some 46 => do
        advance
        let places ← digits
        if places.isEmpty then failPeeked .invalidNumber
        else if atExponent (← peek) then skipExponent
    | other => if atExponent other then skipExponent else pure ()

/-! ## Structure -/

def ident : List Char -> Reader Unit
  | [] => pure ()
  | expected :: rest => do
      match (← next) with
      | none => fail .eofValue
      | some byte => if byte == Bytes.code expected then ident rest else fail .expectedIdent

/-- Is there another item? Stands before it if so, and before the closing bracket if not. -/
def hasItem (first : Bool) : Reader Bool := do
  match (← peekPastBlanks) with
  | none => failPeeked .eofList
  | some 93 => pure false
  | some byte =>
      if first then pure true
      else if byte == 44 then do
        advance
        match (← peekPastBlanks) with
        | some 93 => failPeeked .trailingComma
        | some _ => pure true
        | none => failPeeked .eofValue
      else failPeeked .expectedListCommaOrEnd

/-- Is there another member? Stands before its key if so. -/
def hasMember (first : Bool) : Reader Bool := do
  match (← peekPastBlanks) with
  | none => failPeeked .eofObject
  | some 125 => pure false
  | some byte =>
      if first then
        if byte == 34 then pure true else failPeeked .keyMustBeText
      else if byte == 44 then do
        advance
        match (← peekPastBlanks) with
        | some 34 => pure true
        | some 125 => failPeeked .trailingComma
        | some _ => failPeeked .keyMustBeText
        | none => failPeeked .eofValue
      else failPeeked .expectedObjectCommaOrEnd

def endItems : Reader Unit := do
  match (← peekPastBlanks) with
  | some 93 => advance
  | some 44 => do
      advance
      match (← peekPastBlanks) with
      | some 93 => failPeeked .trailingComma
      | _ => failPeeked .trailingCharacters
  | some _ => failPeeked .trailingCharacters
  | none => failPeeked .eofList

def endMembers : Reader Unit := do
  match (← peekPastBlanks) with
  | some 125 => advance
  | some 44 => failPeeked .trailingComma
  | some _ => failPeeked .trailingCharacters
  | none => failPeeked .eofObject

def colon : Reader Unit := do
  match (← peekPastBlanks) with
  | some 58 => advance
  | some _ => failPeeked .expectedColon
  | none => failPeeked .eofObject

/-- Folds `step` over the items between brackets, the opening one consumed. -/
def foldItems (step : σ -> Reader σ) : Nat -> Bool -> σ -> Reader σ
  | 0, _, _ => fail .eofList
  | fuel + 1, first, state => do
      if (← hasItem first) then foldItems step fuel false (← step state) else pure state

/-- Folds `step` over the members between braces, the opening one consumed. `step` is given each
key and stands before its colon. -/
def foldMembers (step : σ -> String -> Reader σ) : Nat -> Bool -> σ -> Reader σ
  | 0, _, _ => fail .eofObject
  | fuel + 1, first, state => do
      if (← hasMember first) then do
        advance
        let key ← string
        foldMembers step fuel false (← step state key)
      else pure state

/-- The deepest nesting a kept value may have, plus one. -/
def depthLimit : Nat := 128

/-- Reads a value. `depth` is how many more levels may be opened, plus one. -/
def valueWithin : Nat -> Nat -> Reader Json
  | 0, _ => fail .eofValue
  | fuel + 1, depth => do
      match (← peekPastBlanks) with
      | none => failPeeked .eofValue
      | some byte =>
          if byte == Bytes.code 'n' then do advance; ident ['u', 'l', 'l']; pure .null
          else if byte == Bytes.code 't' then do
            advance; ident ['r', 'u', 'e']; pure (.bool true)
          else if byte == Bytes.code 'f' then do
            advance; ident ['a', 'l', 's', 'e']; pure (.bool false)
          else if byte == 45 then do advance; return .number (← number false)
          else if Bytes.isDigit byte then do return .number (← number true)
          else if byte == 34 then do advance; return .text (← string)
          else if byte == 91 then
            if depth ≤ 1 then failPeeked .tooDeep
            else do
              advance
              closing
                (do
                  let items ← foldItems
                    (fun items => do return (← valueWithin fuel (depth - 1)) :: items)
                    (fuel + 1) true []
                  return .array items.reverse)
                endItems
          else if byte == 123 then
            if depth ≤ 1 then failPeeked .tooDeep
            else do
              advance
              closing
                (do
                  let members ← foldMembers
                    (fun members key => do
                      colon
                      return (key, ← valueWithin fuel (depth - 1)) :: members)
                    (fuel + 1) true []
                  return .object members.reverse)
                endMembers
          else failPeeked .expectedValue

def value : Reader Json := bounded fun bound => valueWithin bound depthLimit

/-- Reads past the items of a list and its closing bracket. -/
def skipItems (item : Reader Unit) : Nat -> Bool -> Reader Unit
  | 0, _ => fail .eofList
  | fuel + 1, first => do
      match (← peekPastBlanks) with
      | none => failPeeked .eofList
      | some 93 => advance
      | some byte =>
          if first then do item; skipItems item fuel false
          else if byte == 44 then do advance; item; skipItems item fuel false
          else failPeeked .expectedListCommaOrEnd

/-- Reads past a key, its colon and its value. -/
def skipMember (item : Reader Unit) : Reader Unit := do
  match (← peekPastBlanks) with
  | some 34 => do
      advance
      skipString
      colon
      item
  | some _ => failPeeked .keyMustBeText
  | none => failPeeked .eofObject

/-- Reads past the members of an object and its closing brace. -/
def skipMembers (item : Reader Unit) : Nat -> Bool -> Reader Unit
  | 0, _ => fail .eofObject
  | fuel + 1, first => do
      match (← peekPastBlanks) with
      | none => failPeeked .eofObject
      | some 125 => advance
      | some byte =>
          if first then do skipMember item; skipMembers item fuel false
          else if byte == 44 then do advance; skipMember item; skipMembers item fuel false
          else failPeeked .expectedObjectCommaOrEnd

/-- Reads past a value, to any depth. -/
def skipWithin : Nat -> Reader Unit
  | 0 => fail .eofValue
  | fuel + 1 => do
      match (← peekPastBlanks) with
      | none => failPeeked .eofValue
      | some byte =>
          if byte == Bytes.code 'n' then do advance; ident ['u', 'l', 'l']
          else if byte == Bytes.code 't' then do advance; ident ['r', 'u', 'e']
          else if byte == Bytes.code 'f' then do advance; ident ['a', 'l', 's', 'e']
          else if byte == 45 then do advance; skipNumber
          else if Bytes.isDigit byte then skipNumber
          else if byte == 34 then do advance; skipString
          else if byte == 91 then do advance; skipItems (skipWithin fuel) (fuel + 1) true
          else if byte == 123 then do advance; skipMembers (skipWithin fuel) (fuel + 1) true
          else failPeeked .expectedValue

/-- Reads past a value without keeping it. -/
def skip : Reader Unit := bounded skipWithin

/-- Nothing but blanks may follow. -/
def finished : Reader Unit := do
  match (← peekPastBlanks) with
  | some _ => failPeeked .trailingCharacters
  | none => pure ()

def all (reader : Reader α) (input : Bytes) : Except Fault α :=
  (do let a ← reader; finished; pure a : Reader α).run input |>.1

end Reader

def read (input : Bytes) : Except Fault Json := Reader.value.all input

end HttpService.Json
