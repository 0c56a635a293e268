import HttpService.Number.Binary64
import HttpService.Text.Dictionary
/-! # JSON values

The value type of JSON texts. Members keep their written order; `Json.sorted` is the form in which
each object lists its keys once, by code point, the last value written under a key winning. -/
set_option autoImplicit false

namespace HttpService

/-- A JSON number: an unsigned or a negative 64-bit integer where it fits, else binary64. -/
inductive JsonNumber where
  | natural (value : Nat)
  | negative (magnitude : Nat)
  | binary (value : Binary64)
deriving DecidableEq, Inhabited

namespace JsonNumber

/-- The number of an integer, as the reader classifies it. -/
def ofInt : Int -> JsonNumber
  | .ofNat value => .natural value
  | .negSucc value => .negative (value + 1)

/-- The integer a number was written as, when it was one. -/
def toInt? : JsonNumber -> Option Int
  | .natural value => some value
  | .negative magnitude => some (-(magnitude : Int))
  | .binary _ => none

theorem toInt?_ofInt (value : Int) : (ofInt value).toInt? = some value := by
  cases value with
  | ofNat value => rfl
  | negSucc value => simp only [ofInt, toInt?]; congr 1

end JsonNumber

inductive Json where
  | null
  | bool (value : Bool)
  | number (value : JsonNumber)
  | text (value : String)
  | array (items : List Json)
  | object (members : List (String × Json))
deriving Inhabited

namespace Json

def int (value : Int) : Json := .number (.ofInt value)

def nat (value : Nat) : Json := .number (.natural value)

/-- An optional text, absent as `null`. -/
def optional : Option String -> Json
  | none => .null
  | some value => .text value

/-- The last value written under a key. -/
def lookup? (key : String) (members : List (String × Json)) : Option Json :=
  (members.reverse.find? fun member => member.1 == key).map Prod.snd

mutual
/-- Every object of the value with its keys sorted and written once. -/
def sorted : Json -> Json
  | .array items => .array (sortedItems items)
  | .object members => .object (sortedMembers members [])
  | other => other

def sortedItems : List Json -> List Json
  | [] => []
  | item :: rest => sorted item :: sortedItems rest

def sortedMembers : List (String × Json) -> List (String × Json) -> List (String × Json)
  | [], done => done
  | (key, value) :: rest, done => sortedMembers rest (insertSorted key (sorted value) done)
end

end Json

end HttpService
