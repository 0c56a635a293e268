import HttpService.Bytes
/-! # Route patterns

The text of a route, in which a brace that is written twice stands for itself. A pattern keeps the
places of such braces beside its bytes; places outside of the text are kept too and mean nothing.
`Pattern.wildcard?` finds the first parameter, and `Pattern.normalize` gives all parameters the
names `a`, `b` and so on, so that routes that differ only in these names are the same pattern. -/
set_option autoImplicit false

namespace HttpService

/-- Why a route cannot be added. -/
inductive RouteError where
  /-- Another route matches the same requests, or would hide this one. -/
  | conflict (other : String)
  | parameterName
  | parameterSegment
  | catchAllPlace
  | tooManyParameters
deriving DecidableEq

def RouteError.message : RouteError -> String
  | .conflict other =>
      "Insertion failed due to conflict with previously registered route: " ++ other
  | .parameterName => "Parameters must be registered with a valid name"
  | .parameterSegment => "Only one parameter is allowed per path segment"
  | .catchAllPlace => "Catch-all parameters are only allowed at the end of a route"
  | .tooManyParameters => "Too many route parameters."

/-- A route's text with the places of the braces that stand for themselves. -/
structure Pattern where
  bytes : Bytes
  escaped : List Int
deriving DecidableEq, Inhabited

namespace Pattern

def opening : UInt8 := Bytes.code '{'

def closing : UInt8 := Bytes.code '}'

def slash : UInt8 := Bytes.code '/'

def star : UInt8 := Bytes.code '*'

def empty : Pattern := ⟨[], []⟩

def length (pattern : Pattern) : Nat := pattern.bytes.length

/-- Drops the second of two equal braces, from place `index` on. -/
def unescape (index : Int) : Bytes -> Pattern
  | first :: second :: rest =>
      if first = second && (first = opening || first = closing) then
        let after := unescape (index + 1) rest
        ⟨first :: after.bytes, index :: after.escaped⟩
      else
        let after := unescape (index + 1) (second :: rest)
        ⟨first :: after.bytes, after.escaped⟩
  | short => ⟨short, []⟩

def ofText (text : String) : Pattern := unescape 0 (Bytes.ofText text)

def text (pattern : Pattern) : String := (Bytes.toText? pattern.bytes).getD ""

/-- Does the brace at this place stand for itself? -/
def isEscaped (pattern : Pattern) (index : Nat) : Bool := pattern.escaped.contains (index : Int)

def drop (pattern : Pattern) (count : Nat) : Pattern :=
  ⟨pattern.bytes.drop count, pattern.escaped.map fun (index : Int) => index - count⟩

def take (pattern : Pattern) (count : Nat) : Pattern := ⟨pattern.bytes.take count, pattern.escaped⟩

/-- The first `count` bytes, forgetting places behind them. -/
def truncate (pattern : Pattern) (count : Nat) : Pattern :=
  ⟨pattern.bytes.take count, pattern.escaped.filter fun (index : Int) => index < count⟩

def append (pattern other : Pattern) : Pattern :=
  ⟨pattern.bytes ++ other.bytes,
    pattern.escaped ++ other.escaped.map fun (index : Int) => index + pattern.length⟩

/-- Replaces the bytes from `first` up to `last`. Places in between are forgotten and those behind
`last` are moved; `last` itself is not. -/
def replace (pattern : Pattern) (first last : Nat) (bytes : Bytes) : Pattern :=
  let kept := pattern.escaped.filter fun (index : Int) => index < first || last ≤ index
  let moved (index : Int) : Int :=
    if last < index then index + bytes.length - (last - first) else index
  ⟨pattern.bytes.take first ++ bytes ++ pattern.bytes.drop last, kept.map moved⟩

def startsWild (pattern : Pattern) : Bool :=
  pattern.bytes.head? = some opening && !pattern.isEscaped 0

/-- Finds the end of a parameter's name, `previous` being the byte before the rest. -/
def nameEnd (pattern : Pattern) (index : Nat) (previous : UInt8) :
    Bytes -> Except RouteError Nat
  | [] => throw .parameterName
  | byte :: rest =>
      if byte = closing && !pattern.isEscaped index then
        if previous = star then throw .parameterName else pure (index + 1)
      else if byte = star || byte = slash then throw .parameterName
      else nameEnd pattern (index + 1) byte rest

/-- Looks for a parameter from place `index` on. -/
def wildcardFrom (pattern : Pattern) (index : Nat) :
    Bytes -> Except RouteError (Option (Nat × Nat))
  | [] => pure none
  | byte :: rest =>
      if byte = closing && !pattern.isEscaped index then throw .parameterName
      else if byte ≠ opening || pattern.isEscaped index then wildcardFrom pattern (index + 1) rest
      else match rest with
        | [] => throw .parameterName
        | first :: rest =>
            if first = closing then throw .parameterName
            else do return some (index, ← nameEnd pattern (index + 2) first rest)

/-- The first parameter, as its first place and the place behind it. -/
def wildcard? (pattern : Pattern) : Except RouteError (Option (Nat × Nat)) :=
  wildcardFrom pattern 0 pattern.bytes

def hasWildcard (pattern : Pattern) : Bool :=
  match pattern.wildcard? with
  | .ok (some _) => true
  | _ => false

/-- How many bytes belong to the segment at the front, with the slash that ends it. -/
def segmentLength (pattern : Pattern) : Nat :=
  let before := (pattern.bytes.takeWhile (· != slash)).length
  if before < pattern.length then before + 1 else before

/-- Gives the parameters from place `start` on the names from `next` on. The former names are
returned in order. -/
def normalizeFrom : Nat -> Pattern -> Nat -> UInt8 -> Except RouteError (Pattern × List Bytes)
  | 0, pattern, _, _ => pure (pattern, [])
  | fuel + 1, pattern, start, next => do
      match (← (pattern.drop start).wildcard?) with
      | none => return (pattern, [])
      | some (first, last) =>
          let first := first + start
          let last := last + start
          if pattern.bytes[first + 1]? = some star then normalizeFrom fuel pattern last next
          else
            let name := ((pattern.bytes.take last).drop (first + 1)).dropLast
            let renamed := pattern.replace first last [opening, next, closing]
            if next = Bytes.code 'z' then throw .tooManyParameters
            let (normal, names) ← normalizeFrom fuel renamed (first + 3) (next + 1)
            return (normal, name :: names)

/-- The pattern with its parameters named in alphabetical order, and their own names. -/
def normalize (pattern : Pattern) : Except RouteError (Pattern × List Bytes) :=
  normalizeFrom (pattern.length + 1) pattern 0 (Bytes.code 'a')

/-- Gives the parameters from place `start` on their own names back. -/
def restoreFrom : List Bytes -> Pattern -> Nat -> Pattern
  | [], pattern, _ => pattern
  | name :: names, pattern, start =>
      match (pattern.drop start).wildcard? with
      | .ok (some (first, last)) =>
          let written := opening :: name ++ [closing]
          restoreFrom names (pattern.replace (first + start) (last + start) written)
            (first + start + written.length)
      | _ => pattern

/-- The pattern with its parameters named as they were. -/
def restore (pattern : Pattern) (names : List Bytes) : Pattern := restoreFrom names pattern 0

end Pattern

end HttpService
