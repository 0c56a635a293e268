import HttpService.Json.Typed
/-! # Registered claims

The second reading of a token's payload, for the members that every token may have. A member that
cannot be read is noted as unreadable rather than refused. Reading goes on where the fault left
off, so a fault in the middle of a list or an object makes the whole payload malformed. -/
set_option autoImplicit false

namespace HttpService

inductive Finding (α : Type) where
  | found (value : α)
  | unreadable
  | absent
deriving DecidableEq

inductive Audience where
  | one (name : String)
  | many (names : List String)
deriving DecidableEq

structure Registered where
  expires : Finding Nat := .absent
  notBefore : Finding Nat := .absent
  subject : Finding String := .absent
  issuer : Finding Audience := .absent
  audience : Finding Audience := .absent

namespace Registered

open Json Json.Reader

variable {α : Type}

/-- Notes a fault as unreadable, and nothing as absent. -/
def noting (reader : Reader (Option α)) : Reader (Finding α) := do
  match (← attempt reader) with
  | .ok (some value) => pure (.found value)
  | .ok none => pure .absent
  | .error _ => pure .unreadable

/-- The whole seconds nearest to a number that is not negative and fits an unsigned word. -/
def secondsOf? : JsonNumber -> Option Nat
  | .natural value => some value
  | .negative _ => none
  | .binary (.finite negative mantissa exponent) =>
      let (numerator, denominator) := Binary64.ratio mantissa exponent
      if (negative && mantissa != 0) || wordCount * denominator ≤ numerator then none
      else some ((2 * numerator + denominator) / (2 * denominator))
  | .binary _ => none

def seconds : Reader (Option Nat) := do
  let byte ← beginning
  if byte == 91 then do advance; closing (fail .mismatch) endItems
  else if byte == 123 then do advance; closing (fail .mismatch) endMembers
  else
    let written ←
      if byte == 45 then do advance; number false
      else if Bytes.isDigit byte then number true
      else refuse byte
    match secondsOf? written with
    | some whole => pure (some whole)
    | none => fail .mismatch

def textOf? : Json -> Option String
  | .text value => some value
  | _ => none

/-- The names a value lists: one text, or a list of texts. -/
def namesOf? : Json -> Option Audience
  | .text name => some (.one name)
  | .array items => (items.mapM textOf?).map .many
  | _ => none

def names : Reader (Option Audience) := orNull do
  let value ← bounded fun bound => valueWithin bound (depthLimit - 1)
  match namesOf? value with
  | some found => pure found
  | none => fail .mismatch

/-- Reads the value of a member that must not have been seen before. -/
def unseen (seen : List String) (key : String) (reader : Reader (Finding α)) :
    Reader (Finding α) := do
  if seen.contains key then fail .mismatch
  else do colon; reader

/-- Reads the value of one member, given the keys seen so far. -/
def member (state : Registered × List String) (key : String) :
    Reader (Registered × List String) := do
  let (claims, seen) := state
  let claims ← match key with
    | "exp" => do pure { claims with expires := ← unseen seen key (noting seconds) }
    | "nbf" => do pure { claims with notBefore := ← unseen seen key (noting seconds) }
    | "sub" => do pure { claims with subject := ← unseen seen key (noting (orNull textValue)) }
    | "iss" => do pure { claims with issuer := ← unseen seen key (noting names) }
    | "aud" => do pure { claims with audience := ← unseen seen key (noting names) }
    | _ => do colon; skip; pure claims
  return (claims, key :: seen)

def listed : Reader Registered := do
  let expires ← itemOf true (noting seconds)
  let notBefore ← itemOf false (noting seconds)
  let subject ← itemOf false (noting (orNull textValue))
  let issuer ← itemOf false (noting names)
  let audience ← itemOf false (noting names)
  return { expires, notBefore, subject, issuer, audience }

def reader : Reader Registered := do
  let byte ← beginning
  if byte == 123 then do
    advance
    closing
      (bounded fun bound => do return (← foldMembers member bound true ({}, [])).1)
      endMembers
  else if byte == 91 then do advance; closing listed endItems
  else refuse byte

def read (input : Bytes) : Except Fault Registered := reader.all input

end Registered

end HttpService
