import HttpService.Settings.Value
import HttpService.Toml.Reader
/-! # Settings

The settings of the service. They come from three sources, each overriding the ones before it:
built-in values, a file if one is named, and variables of the environment. -/
set_option autoImplicit false

namespace HttpService

/-- Settings of the listeners. Times are in seconds. -/
structure WebSettings where
  apiHost : String
  debugHost : String
  readTimeout : Nat
  writeTimeout : Nat
  idleTimeout : Nat
  shutdownTimeout : Nat
  maxBodyBytes : Nat
deriving DecidableEq, Inhabited

structure AuthSettings where
  keysFolder : String
  issuer : String
  leeway : Nat
deriving DecidableEq, Inhabited

structure Settings where
  web : WebSettings
  auth : AuthSettings
deriving DecidableEq, Inhabited

namespace Settings

def builtInText (value : String) : Setting := .leaf none (.text value)

def builtInNumber (value : Nat) : Setting := .leaf none (.integer value)

/-- The values of settings that no source gives. -/
def defaults : List (String × Setting) := [
  ("web", .table none [
    ("api_host", builtInText "0.0.0.0:3000"),
    ("debug_host", builtInText "0.0.0.0:4000"),
    ("read_timeout_secs", builtInNumber 5),
    ("write_timeout_secs", builtInNumber 10),
    ("idle_timeout_secs", builtInNumber 120),
    ("shutdown_timeout_secs", builtInNumber 20),
    ("max_body_bytes", builtInNumber 1048576)]),
  ("auth", .table none [
    ("keys_folder", builtInText "keys/"),
    ("issuer", builtInText "ward"),
    ("leeway_secs", builtInNumber 60)])]

/-! ## Sources -/

def variableStart : List Char := "ward_".toList

def environmentOrigin : String := "the environment"

/-- Two underscores in a row, from the left, become a point. -/
def dotted : List Char -> List Char
  | '_' :: '_' :: rest => '.' :: dotted rest
  | character :: rest => character :: dotted rest
  | [] => []

/-- The path that a variable sets, if it sets one. -/
def pathOfVariable? (name : String) : Option String :=
  let small := (Setting.lowered name).toList
  if variableStart.isPrefixOf small then
    some (String.ofList (dotted (small.drop variableStart.length)))
  else none

/-- The settings that variables give; of variables that set one path the last counts. -/
def ofEnvironment (environment : List (String × String)) : List (String × Setting) :=
  (environment.foldl
    (fun (table : Dictionary Setting) (name, value) =>
      match pathOfVariable? name with
      | some path => table.insert path (.leaf (some environmentOrigin) (.text value))
      | none => table)
    .empty).entries

/-- A file of settings: the name it goes by, and its text if it is there. -/
structure File where
  name : String
  /-- The name under which the text was found. -/
  origin : String
  text : Option String
deriving DecidableEq, Inhabited

/-- A text without the mark of its byte order. -/
def withoutMark (text : String) : String :=
  match text.toList with
  | '\ufeff' :: rest => String.ofList rest
  | _ => text

def ofFile (file : File) : Except SettingsError (List (String × Setting)) :=
  match file.text with
  | none => throw (.missingFile file.name)
  | some text =>
      match Toml.read? (withoutMark text) with
      | none => throw .malformed
      | some members => pure (Setting.ofMembers file.origin members)

/-! ## Sections -/

/-- A group of settings, found by name in a table and by place in a list. -/
structure Group where
  /-- The setting of a name, with its path. -/
  find : Nat -> String -> Option (String × Setting)
  /-- The error of a setting that is not there. -/
  absent : Nat -> String -> SettingsError

/-- How a value that is no group is shown. -/
def shownValue : Setting -> String
  | .leaf _ (.integer value) => "integer `" ++ toString value ++ "`"
  | .leaf _ (.float value) =>
      let text := value.positional
      let text := if text.contains '.' || !text.any Char.isDigit then text else text ++ ['.', '0']
      "floating point `" ++ String.ofList text ++ "`"
  | other => other.shown

/-- A setting as a group of `size` settings. -/
def groupOf (setting : Setting) (key name : String) (size : Nat) : Except SettingsError Group :=
  match setting with
  | .table _ _ => pure {
      find := fun _ member =>
        (setting.member? member).map fun value => (key ++ "." ++ member, value)
      absent := fun _ member => .shape ("missing field `" ++ member ++ "`") }
  | .list _ items => pure {
      find := fun place _ => (items[place]?).map fun value =>
        (key ++ "[" ++ toString place ++ "]", value)
      absent := fun place _ => .shape ("invalid length " ++ toString place ++ ", expected struct "
        ++ name ++ " with " ++ toString size ++ " elements") }
  | other => throw (.shape ("invalid type: " ++ shownValue other ++ ", expected struct " ++ name))

namespace Group

/-- The text under a name, if there is one. -/
def text? (group : Group) (place : Nat) (name : String) : Except SettingsError (Option String) :=
  match group.find place name with
  | some (path, setting) => do return some (← setting.toText path)
  | none => pure none

/-- The number under a name, if there is one. -/
def number? (group : Group) (place : Nat) (name : String) : Except SettingsError (Option Nat) :=
  match group.find place name with
  | some (path, setting) => do return some (← setting.toUnsigned path)
  | none => pure none

def required {α : Type} (group : Group) (place : Nat) (name : String) (value : Option α) :
    Except SettingsError α :=
  match value with
  | some found => pure found
  | none => throw (group.absent place name)

end Group

def webOf (setting : Setting) : Except SettingsError WebSettings := do
  let group ← groupOf setting "web" "WebSettings" 7
  let apiHost ← group.text? 0 "api_host"
  let debugHost ← group.text? 1 "debug_host"
  let readTimeout ← group.number? 2 "read_timeout_secs"
  let writeTimeout ← group.number? 3 "write_timeout_secs"
  let idleTimeout ← group.number? 4 "idle_timeout_secs"
  let shutdownTimeout ← group.number? 5 "shutdown_timeout_secs"
  let maxBodyBytes ← group.number? 6 "max_body_bytes"
  return {
    apiHost := ← group.required 0 "api_host" apiHost
    debugHost := ← group.required 1 "debug_host" debugHost
    readTimeout := ← group.required 2 "read_timeout_secs" readTimeout
    writeTimeout := ← group.required 3 "write_timeout_secs" writeTimeout
    idleTimeout := ← group.required 4 "idle_timeout_secs" idleTimeout
    shutdownTimeout := ← group.required 5 "shutdown_timeout_secs" shutdownTimeout
    maxBodyBytes := ← group.required 6 "max_body_bytes" maxBodyBytes }

def authOf (setting : Setting) : Except SettingsError AuthSettings := do
  let group ← groupOf setting "auth" "AuthSettings" 3
  let keysFolder ← group.text? 0 "keys_folder"
  let issuer ← group.text? 1 "issuer"
  let leeway ← group.number? 2 "leeway_secs"
  return {
    keysFolder := ← group.required 0 "keys_folder" keysFolder
    issuer := ← group.required 1 "issuer" issuer
    leeway := ← group.required 2 "leeway_secs" leeway }

def ofSetting (root : Setting) : Except SettingsError Settings := do
  let part (name : String) : Except SettingsError Setting :=
    match root.member? name with
    | some setting => pure setting
    | none => throw (.shape ("missing field `" ++ name ++ "`"))
  return { web := ← webOf (← part "web"), auth := ← authOf (← part "auth") }

def load (file : Option File) (environment : List (String × String)) :
    Except SettingsError Settings := do
  let base := Setting.addSource (.table none []) defaults
  let withFile ← match file with
    | none => pure base
    | some file => do pure (base.addSource (← ofFile file))
  ofSetting (withFile.addSource (ofEnvironment environment))

end Settings

end HttpService
