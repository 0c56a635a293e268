import HttpService.Number.Shortest
import HttpService.Text.Dictionary
import HttpService.Text.Quoted
import HttpService.Toml.Value
/-! # Setting values

A tree of settings in which each value knows where it came from. `Setting.assign` puts a value at a
path such as `web.api_host`: tables are merged member by member, everything else is replaced. Names
of settings are compared in lower case. -/
set_option autoImplicit false

namespace HttpService

/-- A value without parts. -/
inductive SettingLeaf where
  | nothing
  | boolean (value : Bool)
  | integer (value : Int)
  | float (value : Binary64)
  | text (value : String)
deriving DecidableEq, Inhabited

/-- A setting, or a group of settings. `origin` names the source that a value was read from. -/
inductive Setting where
  | leaf (origin : Option String) (value : SettingLeaf)
  | list (origin : Option String) (items : List Setting)
  | table (origin : Option String) (members : List (String × Setting))
deriving Inhabited

/-- Why the settings cannot be used. -/
inductive SettingsError where
  /-- A value is of the wrong kind. -/
  | kind (found expected key : String) (origin : Option String)
  /-- The file is not a document. -/
  | malformed
  /-- There is no file of this name. -/
  | missingFile (name : String)
  /-- A group of settings is not as it should be. -/
  | shape (message : String)
deriving DecidableEq

def SettingsError.message : SettingsError -> String
  | .kind found expected key origin =>
      "invalid type: " ++ found ++ ", expected " ++ expected ++ " for key `" ++ key ++ "`"
        ++ (origin.map fun source => " in " ++ source).getD ""
  | .malformed => "malformed document"
  | .missingFile name => "configuration file \"" ++ name ++ "\" not found"
  | .shape message => message

namespace Setting

mutual
def ofToml (origin : String) : Toml -> Setting
  | .text value => .leaf (some origin) (.text value)
  | .integer value => .leaf (some origin) (.integer value)
  | .float value => .leaf (some origin) (.float value)
  | .boolean value => .leaf (some origin) (.boolean value)
  | .moment value => .leaf (some origin) (.text value)
  | .array items => .list (some origin) (ofItems origin items)
  | .table _ members => .table (some origin) (ofMembers origin members)
  | .rows tables => .list (some origin) (ofRows origin tables)

def ofItems (origin : String) : List Toml -> List Setting
  | [] => []
  | item :: rest => ofToml origin item :: ofItems origin rest

def ofMembers (origin : String) : List (String × Toml) -> List (String × Setting)
  | [] => []
  | (key, value) :: rest => (key, ofToml origin value) :: ofMembers origin rest

def ofRows (origin : String) : List (List (String × Toml)) -> List Setting
  | [] => []
  | members :: rest => .table (some origin) (ofMembers origin members) :: ofRows origin rest
end

/-- A name in lower case. The sign of the kelvin is a letter too. -/
def lowered (name : String) : String :=
  String.ofList (name.toList.map fun character =>
    if character == '\u212a' then 'k' else character.toLower)

/-- The members of a table; anything else has none. -/
def members : Setting -> List (String × Setting)
  | .table _ members => members
  | _ => []

/-- The items of a list; anything else has none. -/
def items : Setting -> List Setting
  | .list _ items => items
  | _ => []

def member? (setting : Setting) (name : String) : Option Setting :=
  valueUnder? setting.members (lowered name)

/-- The setting as a table in which one member has a new value. -/
def withMember (setting : Setting) (name : String) (value : Setting) : Setting :=
  .table none (insertSorted (lowered name) value setting.members)

/-- A setting that was never given. -/
def unset : Setting := .leaf none .nothing

mutual
/-- The value that takes the place of a present one. -/
def merged (present : Option Setting) : Setting -> Setting
  | .table _ members => mergedMembers (present.getD (.table none [])) members
  | other => other

/-- A setting with the members of a table merged into it. -/
def mergedMembers (target : Setting) : List (String × Setting) -> Setting
  | [] => target
  | (name, value) :: rest =>
      mergedMembers (target.withMember name (merged (target.member? name) value)) rest
end

inductive Step where
  | member (name : String)
  | index (place : Int)
deriving DecidableEq

/-- The place that an index means, counted from the end if it is negative. -/
def placeOf (place : Int) (length : Nat) : Nat :=
  if 0 ≤ place then place.toNat else length - (-place).toNat

/-- Replaces the item at a place, filling up the list before it. -/
def setItem (items : List Setting) (place : Nat) (value : Setting) : List Setting :=
  (items ++ List.replicate (place + 1 - items.length) unset).set place value

/-- Puts a value where the steps lead. What stands in the way is replaced. -/
def assignAt (value : Setting) : List Step -> Setting -> Setting
  | [], present => merged (some present) value
  | [.member name], node => node.withMember name (merged (node.member? name) value)
  | [.index place], node =>
      .list none (setItem node.items (placeOf place node.items.length) value)
  | .member name :: rest, node =>
      node.withMember name (assignAt value rest ((node.member? name).getD unset))
  | .index place :: rest, node =>
      let place := placeOf place node.items.length
      .list none (setItem node.items place
        (assignAt value rest ((node.items[place]?).getD unset)))

def isNameCharacter (character : Char) : Bool :=
  character.isAlphanum || character == '_' || character == '-'

/-- Reads what follows the first name of a path. -/
def steps? : Nat -> List Char -> Option (List Step)
  | _, [] => some []
  | 0, _ => none
  | fuel + 1, '.' :: rest => do
      let name := rest.takeWhile isNameCharacter
      if name.isEmpty then none
      return .member (String.ofList name) :: (← steps? fuel (rest.dropWhile isNameCharacter))
  | fuel + 1, '[' :: rest => do
      let negative := rest.head? == some '-'
      let rest := if negative then rest.tail else rest
      let digits := rest.takeWhile Char.isDigit
      if digits.isEmpty then none
      match rest.dropWhile Char.isDigit with
      | ']' :: rest =>
          let size : Int :=
            digits.foldl (fun total digit => total * 10 + ((digit.toNat - 48 : Nat) : Int)) 0
          return .index (if negative then -size else size) :: (← steps? fuel rest)
      | _ => none
  | _, _ => none

/-- Reads a path. A text that is no path is a single name. -/
def pathOf (text : String) : List Step :=
  let first := text.toList.takeWhile isNameCharacter
  match first, steps? text.length (text.toList.dropWhile isNameCharacter) with
  | _ :: _, some rest => .member (String.ofList first) :: rest
  | _, _ => [.member text]

def assign (root : Setting) (path : String) (value : Setting) : Setting :=
  assignAt value (pathOf path) root

/-- Puts the members of a source into the settings. -/
def addSource (root : Setting) (source : List (String × Setting)) : Setting :=
  source.foldl (fun root entry => root.assign entry.1 entry.2) root

/-! ## Conversions -/

/-- How a value of the wrong kind is shown. -/
def shown : Setting -> String
  | .leaf _ .nothing => "unit value"
  | .leaf _ (.boolean value) => "boolean `" ++ toString value ++ "`"
  | .leaf _ (.integer value) => "64-bit integer `" ++ toString value ++ "`"
  | .leaf _ (.float value) => "floating point `" ++ String.ofList value.positional ++ "`"
  | .leaf _ (.text value) => "string " ++ Text.quoted value
  | .list _ _ => "sequence"
  | .table _ _ => "map"

def origin : Setting -> Option String
  | .leaf origin _ => origin
  | .list origin _ => origin
  | .table origin _ => origin

/-- The error of a value that should be of another kind. -/
def unexpected (setting : Setting) (expected key : String) : SettingsError :=
  .kind setting.shown expected key setting.origin

def toText (setting : Setting) (key : String) : Except SettingsError String :=
  match setting with
  | .leaf _ (.text value) => pure value
  | .leaf _ (.boolean value) => pure (toString value)
  | .leaf _ (.integer value) => pure (toString value)
  | .leaf _ (.float value) => pure (String.ofList value.positional)
  | _ => throw (setting.unexpected "a string" key)

/-- The unsigned word that a text writes, perhaps with a plus sign. -/
def unsignedOf? (text : String) : Option Nat :=
  let digits := match text.toList with
    | '+' :: rest => rest
    | other => other
  if digits.isEmpty || !digits.all Char.isDigit then none
  else
    let value := digits.foldl (fun total digit => total * 10 + (digit.toNat - 48)) 0
    if value < wordCount then some value else none

/-- The unsigned word nearest to a number, a half going upwards. -/
def nearestUnsigned : Binary64 -> Nat
  | .finite true _ _ => 0
  | .finite false mantissa exponent =>
      let (numerator, denominator) := Binary64.ratio mantissa exponent
      min ((2 * numerator + denominator) / (2 * denominator)) (wordCount - 1)
  | .infinite true => 0
  | .infinite false => wordCount - 1
  | .notANumber => 0

def toUnsigned (setting : Setting) (key : String) : Except SettingsError Nat :=
  match setting with
  | .leaf _ (.integer (.ofNat value)) => pure value
  | .leaf _ (.integer (.negSucc _)) =>
      throw (setting.unexpected "an unsigned 64 bit or less integer" key)
  | .leaf _ (.text value) =>
      let small := String.ofList (value.toList.map Char.toLower)
      if ["true", "on", "yes"].contains small then pure 1
      else if ["false", "off", "no"].contains small then pure 0
      else match unsignedOf? value with
        | some number => pure number
        | none => throw (setting.unexpected "an integer" key)
  | .leaf _ (.boolean value) => pure (if value then 1 else 0)
  | .leaf _ (.float value) => pure (nearestUnsigned value)
  | _ => throw (setting.unexpected "an integer" key)

end Setting

end HttpService
