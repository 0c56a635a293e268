import HttpService.Bytes
import HttpService.Number.Power
/-! # Owners of resources

A 128-bit identifier, read from any of its usual spellings and written in one: lower case, in five
groups. -/
set_option autoImplicit false

namespace HttpService

structure OwnerId where
  number : Nat
  bounded : number < twoTo 128
deriving DecidableEq

namespace OwnerId

def ofNumber? (number : Nat) : Option OwnerId :=
  if bounded : number < twoTo 128 then some ⟨number, bounded⟩ else none

/-- The value of a hexadecimal digit of either case. -/
def digitValue? (character : Char) : Option Nat :=
  if character.toNat < 128 then Bytes.hexValue? (Bytes.code character) else none

def hexNumber? (characters : List Char) : Option Nat :=
  characters.foldl (fun total character => do return (← total) * 16 + (← digitValue? character))
    (some 0)

/-- Reads five groups of digits with a hyphen between each two. -/
def ofGroups? (characters : List Char) : Option OwnerId :=
  let hyphens := [8, 13, 18, 23]
  if characters.length = 36 && hyphens.all fun place => characters[place]? == some '-' then
    (hexNumber? ((characters.zipIdx.filter fun entry => !hyphens.contains entry.2).map
      Prod.fst)).bind ofNumber?
  else none

/-- Reads 32 digits, the grouped form, or that form in braces or as a resource name. -/
def parse? (text : String) : Option OwnerId :=
  let characters := text.toList
  match characters.length with
  | 32 => (hexNumber? characters).bind ofNumber?
  | 36 => ofGroups? characters
  | 38 =>
      if characters.head? = some '{' && characters.getLast? = some '}' then
        ofGroups? (characters.tail.take 36)
      else none
  | 45 =>
      if "urn:uuid:".toList.isPrefixOf characters then ofGroups? (characters.drop 9) else none
  | _ => none

/-- The written form. -/
def display (owner : OwnerId) : String :=
  let digits := zeroPadded 32 (hexDigits owner.number)
  let group (start length : Nat) := String.ofList ((digits.drop start).take length)
  "-".intercalate [group 0 8, group 8 4, group 12 4, group 16 4, group 20 12]

end OwnerId

end HttpService
