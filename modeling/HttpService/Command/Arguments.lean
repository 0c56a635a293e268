import HttpService.Bytes
/-! # Command line

The options of the program, and what it says about them. Options that are not on the command line
are taken from the environment. -/
set_option autoImplicit false

namespace HttpService

structure Arguments where
  config : Option String := none
  logJson : Bool := false
deriving DecidableEq, Inhabited

namespace Arguments

inductive Flag where
  | config
  | logJson
  | help
  | version
deriving DecidableEq

def Flag.shown : Flag -> String
  | .config => "--config <CONFIG>"
  | .logJson => "--log-json"
  | .help => "--help"
  | .version => "--version"

def Flag.ofLong? (name : String) : Option Flag :=
  if name == "config" then some .config
  else if name == "log-json" then some .logJson
  else if name == "help" then some .help
  else if name == "version" then some .version
  else none

def Flag.ofShort? : Char -> Option Flag
  | 'c' => some .config
  | 'h' => some .help
  | 'V' => some .version
  | _ => none

/-- Why the command line is refused. -/
inductive Misuse where
  | unknown (argument : String)
  | valueMissing (flag : Flag)
  | valueUnwanted (flag : Flag) (value : String)
  | repeated (flag : Flag)
  | valueInvalid (flag : Flag) (value : String)
deriving DecidableEq

def Misuse.message : Misuse -> String
  | .unknown argument => "unexpected argument '" ++ argument ++ "' found"
  | .valueMissing flag =>
      "a value is required for '" ++ flag.shown ++ "' but none was supplied"
  | .valueUnwanted flag value =>
      "unexpected value '" ++ value ++ "' for '" ++ flag.shown
        ++ "' found; no more were expected"
  | .repeated flag => "the argument '" ++ flag.shown ++ "' cannot be used multiple times"
  | .valueInvalid flag value => "invalid value '" ++ value ++ "' for '" ++ flag.shown ++ "'"

def Misuse.report (reason : Misuse) : String := "error: " ++ reason.message

inductive Request where
  | run (arguments : Arguments)
  | help
  | version
  | misuse (reason : Misuse)
deriving DecidableEq

/-- The options read so far. `pending` is the value of an option that is named but not yet taken
in; it is empty while the value is still to come. -/
structure State where
  config : Option String := none
  logJson : Bool := false
  pending : Option (Option String) := none

def State.settle (state : State) : Except Misuse State :=
  match state.pending with
  | none => pure state
  | some none => throw (.valueMissing .config)
  | some (some value) =>
      if state.config.isSome then throw (.repeated .config)
      else if value.isEmpty then throw (.valueMissing .config)
      else pure { state with config := some value, pending := none }

/-- What a step on the command line leads to. -/
abbrev Outcome := Except Request State

def refuse {α : Type} (reason : Misuse) : Except Request α := throw (.misuse reason)

def settled (state : State) : Outcome := state.settle.mapError .misuse

/-- Takes in a flag without a value. -/
def raise (state : State) (flag : Flag) : Outcome := do
  let state ← settled state
  match flag with
  | .help => throw .help
  | .version => throw .version
  | _ =>
      if state.logJson then refuse (.repeated .logJson) else pure { state with logJson := true }

/-- Reads an option with two dashes; `value` is what follows its equals sign. -/
def long (state : State) (name : String) (value : Option String) : Outcome :=
  match Flag.ofLong? name, value with
  | none, _ => refuse (.unknown ("--" ++ name))
  | some .config, value => do
      let state ← settled state
      return { state with pending := some value }
  | some flag, some value => refuse (.valueUnwanted flag value)
  | some flag, none => raise state flag

def short : State -> List Char -> Outcome
  | state, [] => pure state
  | state, letter :: rest =>
      match Flag.ofShort? letter with
      | none => refuse (.unknown ("-" ++ String.singleton letter))
      | some .config => do
          let state ← settled state
          let value := match rest with
            | [] => none
            | '=' :: value => some (String.ofList value)
            | value => some (String.ofList value)
          return { state with pending := some value }
      | some flag => do short (← raise state flag) rest

def readAll : State -> List String -> Outcome
  | state, [] => settled state
  | state, argument :: rest =>
      match argument.toList with
      | ['-', '-'] =>
          match rest with
          | [] => settled state
          | positional :: _ => refuse (.unknown positional)
      | '-' :: '-' :: name => do
          let value := (name.dropWhile (· != '='))
          let given := if value.isEmpty then none else some (String.ofList value.tail)
          readAll (← long state (String.ofList (name.takeWhile (· != '='))) given) rest
      | '-' :: first :: letters => do readAll (← short state (first :: letters)) rest
      | _ =>
          match state.pending with
          | some none => readAll { state with pending := some (some argument) } rest
          | _ => refuse (.unknown argument)

/-- The variable that gives the name of the settings file. -/
def configVariable : String := "WARD_CONFIG"

def logJsonVariable : String := "WARD_LOG_JSON"

def environmentValue? (environment : List (String × String)) (name : String) : Option String :=
  (environment.reverse.find? fun entry => entry.1 == name).map Prod.snd

def complete (state : State) (environment : List (String × String)) :
    Except Misuse Arguments := do
  let config ← match state.config, environmentValue? environment configVariable with
    | some value, _ => pure (some value)
    | none, some value => if value.isEmpty then throw (.valueMissing .config) else pure (some value)
    | none, none => pure none
  let logJson ← match state.logJson, environmentValue? environment logJsonVariable with
    | true, _ => pure true
    | false, none => pure false
    | false, some "true" => pure true
    | false, some "false" => pure false
    | false, some "" => throw (.valueMissing .logJson)
    | false, some value => throw (.valueInvalid .logJson value)
  return { config, logJson }

def parse (arguments : List String) (environment : List (String × String)) : Request :=
  match readAll {} arguments with
  | .error request => request
  | .ok state =>
      match complete state environment with
      | .ok arguments => .run arguments
      | .error reason => .misuse reason

def versionText : String := "ward 0.1.0\n"

/-- What the program says about its options, with what the environment sets them to. -/
def helpText (environment : List (String × String)) : String :=
  let setTo (name : String) :=
    " [env: " ++ name ++ "=" ++ (environmentValue? environment name).getD "" ++ "]\n"
  "A minimal HTTP service core: ordered middleware, error classification, JWT auth and integrity "
    ++ "shutdown\n\nUsage: ward [OPTIONS]\n\nOptions:\n"
    ++ "  -c, --config <CONFIG>  Configuration file path (TOML)" ++ setTo configVariable
    ++ "      --log-json         Emit logs as JSON lines" ++ setTo logJsonVariable
    ++ "  -h, --help             Print help\n"
    ++ "  -V, --version          Print version\n"

end Arguments

end HttpService
