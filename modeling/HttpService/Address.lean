import HttpService.Bytes
/-! # Socket addresses

An IPv4 address with a port, or an IPv6 address in brackets with an optional numeric scope and a
port. The readers take a list of characters and return what they read with what is left. -/
set_option autoImplicit false

namespace HttpService

/-- An address to listen on or of a peer. -/
inductive SocketAddress where
  | v4 (octets : List Nat) (port : Nat)
  | v6 (groups : List Nat) (scope : Nat) (port : Nat)
deriving DecidableEq, Inhabited

namespace SocketAddress

def digitValue? (radix : Nat) (character : Char) : Option Nat :=
  let value? :=
    if character.isDigit then some (character.toNat - 48)
    else if 'a' ≤ character && character ≤ 'z' then some (character.toNat - 87)
    else if 'A' ≤ character && character ≤ 'Z' then some (character.toNat - 55)
    else none
  value?.filter (· < radix)

/-- Reads all digits at the front: at most `maxDigits` of them, a value within `bound`, and no
needless leading zero unless `leadingZeros`. -/
def readNumber (radix : Nat) (maxDigits : Option Nat) (bound : Nat) (leadingZeros : Bool)
    (input : List Char) : Option (Nat × List Char) :=
  let digits := input.takeWhile fun character => (digitValue? radix character).isSome
  let value := digits.foldl
    (fun total character => total * radix + (digitValue? radix character).getD 0) 0
  if digits.isEmpty || bound < value then none
  else if (maxDigits.any fun limit => limit < digits.length) then none
  else if !leadingZeros && digits.head? == some '0' && 1 < digits.length then none
  else some (value, input.drop digits.length)

def readGiven (expected : Char) : List Char -> Option (List Char)
  | character :: rest => if character = expected then some rest else none
  | [] => none

/-- Reads the separator before every element but the first. -/
def readSeparator (separator : Char) (index : Nat) (input : List Char) : Option (List Char) :=
  if index = 0 then some input else readGiven separator input

/-- Reads the octets from number `4 - left` on. -/
def readOctets : Nat -> List Char -> Option (List Nat × List Char)
  | 0, input => some ([], input)
  | left + 1, input => do
      let input ← readSeparator '.' (3 - left) input
      let (octet, input) ← readNumber 10 (some 3) 255 false input
      let (more, input) ← readOctets left input
      return (octet :: more, input)

def readV4 (input : List Char) : Option (List Nat × List Char) := readOctets 4 input

/-- Reads up to `left` groups of an IPv6 address, `index` being read already; an embedded IPv4
address may take the place of the last two. Says whether one did. -/
def readGroups : Nat -> Nat -> List Char -> List Nat × Bool × List Char
  | 0, _, input => ([], false, input)
  | left + 1, index, input =>
      let embedded? := if left = 0 then none else (readSeparator ':' index input).bind readV4
      match embedded? with
      | some ([a, b, c, d], rest) => ([a * 256 + b, c * 256 + d], true, rest)
      | _ =>
          let group? :=
            (readSeparator ':' index input).bind (readNumber 16 (some 4) 65535 true)
          match group? with
          | none => ([], false, input)
          | some (group, rest) =>
              let (more, ended, rest) := readGroups left (index + 1) rest
              (group :: more, ended, rest)

def readV6 (input : List Char) : Option (List Nat × List Char) := do
  let (head, ended, input) := readGroups 8 0 input
  if head.length = 8 then return (head, input)
  if ended then none
  let input ← readGiven ':' input
  let input ← readGiven ':' input
  let (tail, _, input) := readGroups (7 - head.length) 0 input
  return (head ++ List.replicate (8 - head.length - tail.length) 0 ++ tail, input)

def readPort (input : List Char) : Option (Nat × List Char) := do
  readNumber 10 none 65535 true (← readGiven ':' input)

def readScope (input : List Char) : Option (Nat × List Char) := do
  readNumber 10 none 4294967295 true (← readGiven '%' input)

def readSocketV4 (input : List Char) : Option (SocketAddress × List Char) := do
  let (octets, input) ← readV4 input
  let (port, input) ← readPort input
  return (.v4 octets port, input)

def readSocketV6 (input : List Char) : Option (SocketAddress × List Char) := do
  let input ← readGiven '[' input
  let (groups, input) ← readV6 input
  let (scope, input) := (readScope input).getD (0, input)
  let input ← readGiven ']' input
  let (port, input) ← readPort input
  return (.v6 groups scope port, input)

def parse? (text : String) : Option SocketAddress :=
  match (readSocketV4 text.toList).or (readSocketV6 text.toList) with
  | some (address, []) => some address
  | _ => none

/-- The reason given for a text that is no address. -/
def syntaxMessage : String := "invalid socket address syntax"

def joined (separator : String) (parts : List String) : String := separator.intercalate parts

/-- The longest run of zero groups, as its start and length; the first of equals. -/
def longestZeros (groups : List Nat) : Nat × Nat :=
  let step (state : Nat × (Nat × Nat) × (Nat × Nat)) (group : Nat) :=
    let (index, current, best) := state
    let current :=
      if group ≠ 0 then (0, 0)
      else if current.2 = 0 then (index, 1)
      else (current.1, current.2 + 1)
    (index + 1, current, if best.2 < current.2 then current else best)
  (groups.foldl step (0, (0, 0), (0, 0))).2.2

def groupsText (groups : List Nat) : String :=
  let hex (group : Nat) := String.ofList (hexDigits group)
  match groups with
  | [0, 0, 0, 0, 0, 0xffff, a, b] =>
      "::ffff:" ++ joined "." ([a / 256, a % 256, b / 256, b % 256].map toString)
  | _ =>
      let (start, length) := longestZeros groups
      if 1 < length then
        joined ":" ((groups.take start).map hex) ++ "::"
          ++ joined ":" ((groups.drop (start + length)).map hex)
      else joined ":" (groups.map hex)

/-- The address without its port. -/
def host : SocketAddress -> String
  | .v4 octets _ => joined "." (octets.map toString)
  | .v6 groups _ _ => groupsText groups

def port : SocketAddress -> Nat
  | .v4 _ port => port
  | .v6 _ _ port => port

/-- The written form, which `parse?` reads back. -/
def display : SocketAddress -> String
  | .v4 octets port => joined "." (octets.map toString) ++ ":" ++ toString port
  | .v6 groups scope port =>
      "[" ++ groupsText groups ++ (if scope = 0 then "" else "%" ++ toString scope) ++ "]:"
        ++ toString port

end SocketAddress

end HttpService
