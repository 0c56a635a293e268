import HttpService.Bytes
import HttpService.Number.Power
/-! # Tagged values

Keys are trees of tagged, length-prefixed values. `Encoded.read?` is a tolerant reader that accepts
long forms of lengths and finds out what a key is for; `Encoded.Strict` reads the one canonical form
of a few kinds of values and refuses all others. -/
set_option autoImplicit false

namespace HttpService.Encoded

/-- A tagged value, as far as keys need it told apart. -/
inductive Node where
  | sequence (nodes : List Node)
  | identifier (arcs : List Nat)
  /-- The bytes of a bit or octet string. -/
  | octets (bytes : Bytes)
  | other
deriving Inhabited

/-- Reads a number in base 128, every byte but its last with the high bit set. -/
def readBase128 (total : Nat) : Bytes -> Option (Nat × Bytes)
  | [] => none
  | byte :: rest =>
      let total := total * 128 + byte.toNat % 128
      if byte < 128 then some (total, rest) else readBase128 total rest

/-- Reads a class, whether the value is made of values, and a tag number. -/
def readTag : Bytes -> Option (Nat × Bool × Nat × Bytes)
  | [] => none
  | byte :: rest =>
      let value := byte.toNat
      if value % 32 = 31 then
        (readBase128 0 rest).map fun (tag, rest) => (value / 64, value / 32 % 2 = 1, tag, rest)
      else some (value / 64, value / 32 % 2 = 1, value % 32, rest)

/-- Reads a length: one byte, or the number of bytes, at most eight, and these. -/
def readLength : Bytes -> Option (Nat × Bytes)
  | [] => none
  | byte :: rest =>
      if byte < 128 then some (byte.toNat, rest)
      else
        let count := byte.toNat - 128
        if 8 < count || rest.length < count then none
        else some (Bytes.toNat (rest.take count), rest.drop count)

/-- Reads the arcs of an identifier after its first byte. -/
def readArcs : Nat -> Bytes -> Option (List Nat)
  | _, [] => some []
  | 0, _ => none
  | fuel + 1, input => do
      let (arc, rest) ← readBase128 0 input
      return arc :: (← readArcs fuel rest)

def identifierArcs : Bytes -> Option (List Nat)
  | [] => none
  | first :: rest => do
      let more ← readArcs rest.length rest
      let value := first.toNat
      return if value < 40 then 0 :: value :: more
        else if value < 80 then 1 :: (value - 40) :: more
        else 2 :: (value - 80) :: more

def isPrintable (byte : UInt8) : Bool :=
  let character := Char.ofNat byte.toNat
  character.isAlphanum || " '()+,-./:=?".toList.contains character

def isLeap (year : Nat) : Bool := year % 4 = 0 && (year % 100 != 0 || year % 400 = 0)

def daysInMonth (year month : Nat) : Nat :=
  if month = 2 then (if isLeap year then 29 else 28)
  else if [4, 6, 9, 11].contains month then 30 else 31

/-- Are the fourteen digits a date and a time of day? -/
def isDateTime (digits : Bytes) : Bool :=
  let number (start length : Nat) :=
    ((digits.drop start).take length).foldl (fun total byte => total * 10 + Bytes.digitValue byte) 0
  let month := number 4 2
  let day := number 6 2
  digits.length = 14 && digits.all Bytes.isDigit && 1 ≤ month && month ≤ 12 && 1 ≤ day
    && day ≤ daysInMonth (number 0 4) month && number 8 2 < 24 && number 10 2 < 60
    && number 12 2 < 60

/-- A date with a two-digit year, closed by a `Z`. -/
def isShortTime (body : Bytes) : Bool :=
  let century := if (body.headD 0) < Bytes.code '5' then Bytes.ofText "20" else Bytes.ofText "19"
  body.length = 13 && body.getLast? = some (Bytes.code 'Z')
    && isDateTime (century ++ body.dropLast)

/-- A date with a four-digit year, perhaps with up to nine places of a second, closed by a `Z`. -/
def isLongTime (body : Bytes) : Bool :=
  let places := (body.drop 14).dropLast
  body.getLast? = some (Bytes.code 'Z') && isDateTime (body.take 14) && 15 ≤ body.length
    && match places with
      | [] => true
      | point :: digits =>
          point = Bytes.code '.' && digits.all Bytes.isDigit && digits.length ≤ 9

/-- Is the body that of a bit string: a number of unused bits, then at least so many? -/
def bitOctets : Bytes -> Option Bytes
  | [] => some []
  | unused :: bits => if bits.length * 8 < unused.toNat then none else some bits

/-- Reads all values in the input. `fuel` bounds nesting and number together. -/
def readAll : Nat -> Bytes -> Option (List Node)
  | _, [] => some []
  | 0, _ => none
  | fuel + 1, input => do
      let (group, _, tag, rest) ← readTag input
      let (length, rest) ← readLength rest
      if rest.length < length then none
      let body := rest.take length
      let accepted (holds : Bool) : Option Node := if holds then some .other else none
      let node ←
        if group != 0 then some .other
        else match tag with
          | 1 => accepted (body.length = 1)
          | 3 => (bitOctets body).map .octets
          | 4 => some (.octets body)
          | 6 => (identifierArcs body).map .identifier
          | 12 | 20 | 28 => accepted (Bytes.toText? body).isSome
          | 16 =>
              match readAll fuel body with
              | some (first :: more) => some (.sequence (first :: more))
              | _ => none
          | 17 =>
              match readAll fuel body with
              | some (_ :: _) => some .other
              | _ => none
          | 19 => accepted (body.all isPrintable)
          | 22 => accepted (body.all (· < 128))
          | 23 => accepted (isShortTime body)
          | 24 => accepted (isLongTime body)
          | _ => some .other
      return node :: (← readAll fuel (rest.drop length))

/-- Reads the values of an encoded key; there must be one. -/
def read? (input : Bytes) : Option (List Node) :=
  (readAll (input.length + 1) input).filter fun nodes => !nodes.isEmpty

mutual
/-- The first identifier, depth first through sequences, that satisfies a test. -/
def firstIdentifier? (wanted : List Nat -> Bool) : List Node -> Option (List Nat)
  | [] => none
  | node :: rest => (identifierIn? wanted node).or (firstIdentifier? wanted rest)

def identifierIn? (wanted : List Nat -> Bool) : Node -> Option (List Nat)
  | .sequence nodes => firstIdentifier? wanted nodes
  | .identifier arcs => if wanted arcs then some arcs else none
  | _ => none
end

mutual
/-- The first bit or octet string, depth first through sequences. -/
def firstOctets? : List Node -> Option Bytes
  | [] => none
  | node :: rest => (octetsIn? node).or (firstOctets? rest)

def octetsIn? : Node -> Option Bytes
  | .sequence nodes => firstOctets? nodes
  | .octets bytes => some bytes
  | _ => none
end

/-! ## The canonical form -/

namespace Strict

/-- Reads a length in its shortest form. -/
def readLength : Bytes -> Option (Nat × Bytes)
  | [] => none
  | byte :: rest =>
      if byte < 128 then some (byte.toNat, rest)
      else
        let count := byte.toNat - 128
        let length := Bytes.toNat (rest.take count)
        if count = 0 || 4 < count || rest.length < count then none
        else if length < 128 || length < bytesTo (count - 1) || 0xfffffff < length then none
        else some (length, rest.drop count)

/-- Reads the body of a value with the given tag byte. -/
def readBody (tag : UInt8) : Bytes -> Option (Bytes × Bytes)
  | [] => none
  | byte :: rest => do
      let (length, rest) ← readLength rest
      if byte != tag || rest.length < length then none
      else some (rest.take length, rest.drop length)

/-- Reads a number that is not negative, without needless zeros. -/
def readNatural (input : Bytes) : Option (Nat × Bytes) := do
  let (body, rest) ← readBody 2 input
  match body with
  | [] => none
  | [byte] => if byte < 128 then some (byte.toNat, rest) else none
  | first :: second :: _ =>
      if 128 ≤ first || (first = 0 && second < 128) then none else some (Bytes.toNat body, rest)

def readNaturals : Nat -> Bytes -> Option (List Nat × Bytes)
  | 0, input => some ([], input)
  | count + 1, input => do
      let (number, input) ← readNatural input
      let (more, input) ← readNaturals count input
      return (number :: more, input)

/-- The numbers of a sequence of exactly `count` numbers that is the whole input. -/
def naturals? (count : Nat) (input : Bytes) : Option (List Nat) := do
  let (body, rest) ← readBody 0x30 input
  let (numbers, left) ← readNaturals count body
  if rest.isEmpty && left.isEmpty then some numbers else none

end Strict

end HttpService.Encoded
