import HttpService.Json.Reader
/-! # Reading values of a wanted shape

Readers that want a text, a number or a list and refuse every other value. A refused text, number
or literal is still read to its end first, so that a fault inside it is the one reported. -/
set_option autoImplicit false

namespace HttpService.Json.Reader

variable {α : Type}

/-- Refuses the value that begins with `byte`. -/
def refuse (byte : UInt8) : Reader α := do
  if byte == Bytes.code 'n' then do advance; ident ['u', 'l', 'l']; fail .mismatch
  else if byte == Bytes.code 't' then do advance; ident ['r', 'u', 'e']; fail .mismatch
  else if byte == Bytes.code 'f' then do advance; ident ['a', 'l', 's', 'e']; fail .mismatch
  else if byte == 45 then do advance; let _ ← number false; fail .mismatch
  else if Bytes.isDigit byte then do let _ ← number true; fail .mismatch
  else if byte == 34 then do advance; let _ ← string; fail .mismatch
  else if byte == 91 || byte == 123 then fail .mismatch
  else failPeeked .expectedValue

def beginning : Reader UInt8 := do
  match (← peekPastBlanks) with
  | some byte => pure byte
  | none => failPeeked .eofValue

def textValue : Reader String := do
  let byte ← beginning
  if byte == 34 then do advance; string else refuse byte

def wholeValue : Reader Int := do
  let byte ← beginning
  let written ←
    if byte == 45 then do advance; number false
    else if Bytes.isDigit byte then number true
    else refuse byte
  match written.toInt? with
  | some whole => pure whole
  | none => fail .mismatch

/-- Reads `null` as nothing and anything else with `reader`. -/
def orNull (reader : Reader α) : Reader (Option α) := do
  match (← peekPastBlanks) with
  | some 110 => do advance; ident ['u', 'l', 'l']; pure none
  | _ => do return some (← reader)

/-- Reads a list, each item with `item`. -/
def listOf (item : Reader α) : Reader (List α) := do
  let byte ← beginning
  if byte == 91 then do
    advance
    closing
      (bounded fun bound => do
        let items ← foldItems (fun items => do return (← item) :: items) bound true []
        return items.reverse)
      endItems
  else refuse byte

def itemOf (first : Bool) (item : Reader α) : Reader α := do
  if (← hasItem first) then item else fail .mismatch

end HttpService.Json.Reader
