import HttpService.Number.Binary64
/-! # TOML documents

The values of a configuration text, with the rules by which keys and section headers build its
tables: a table is opened once, and a key is given once. -/
set_option autoImplicit false

namespace HttpService

/-- How a table came to be, which decides what may still be added to it. -/
inductive TableForm where
  /-- Written in braces; nothing may be added. -/
  | closed
  /-- Opened by a header of its own. -/
  | headed
  /-- Named on the way to a header further down. -/
  | passed
  /-- Named by a key with dots. -/
  | dotted
deriving DecidableEq, Inhabited

inductive Toml where
  | text (value : String)
  | integer (value : Int)
  | float (value : Binary64)
  | boolean (value : Bool)
  /-- A date, a time of day or both, as it is written out. -/
  | moment (value : String)
  | array (items : List Toml)
  | table (form : TableForm) (members : List (String × Toml))
  /-- The tables that equal headers in double brackets opened. -/
  | rows (tables : List (List (String × Toml)))
deriving Inhabited

namespace Toml

abbrev Members := List (String × Toml)

def find? (members : Members) (key : String) : Option Toml :=
  (members.find? fun entry => entry.1 == key).map Prod.snd

/-- Replaces the value of a key, or adds the key at the end. -/
def put (members : Members) (key : String) (value : Toml) : Members :=
  if members.any fun entry => entry.1 == key then
    members.map fun entry => if entry.1 == key then (key, value) else entry
  else members ++ [(key, value)]

def remove (members : Members) (key : String) : Members :=
  members.filter fun entry => entry.1 != key

/-- Changes the table that a path leads to from a table of the given form, opening the tables on the
way. `dotted` says whether the path is that of a key rather than of a header. -/
def descend (dotted : Bool) (change : TableForm -> Members -> Option Members) :
    List String -> TableForm -> Members -> Option Members
  | [], form, members => change form members
  | key :: path, _, members =>
      match find? members key with
      | none => do
          let form := if dotted then TableForm.dotted else TableForm.passed
          return put members key (.table form (← descend dotted change path form []))
      | some (.table form inner) =>
          if form = .closed || (dotted && form = .headed) then none
          else do return put members key (.table form (← descend dotted change path form inner))
      | some (.rows tables) => do
          let last ← tables.getLast?
          let last ← descend dotted change path .headed last
          return put members key (.rows (tables.dropLast ++ [last]))
      | some _ => none

/-- Gives a key its value. A table that a header opened takes no keys with dots from outside, and
one that keys with dots opened takes no others. -/
def define (path : List String) (key : String) (value : Toml) (form : TableForm)
    (members : Members) : Option Members :=
  descend true
    (fun form members =>
      if (form = .dotted) == path.isEmpty then none
      else if (find? members key).isSome then none
      else some (members ++ [(key, value)]))
    path form members

/-- A document being read: what is finished, and the section that is open. -/
structure Draft where
  root : Members := []
  body : Members := []
  path : List String := []
  isRow : Bool := false

namespace Draft

def close (draft : Draft) : Option Members :=
  match draft.path.getLast? with
  | none => some draft.body
  | some key =>
      descend false
        (fun _ members =>
          match draft.isRow, find? members key with
          | true, none => some (put members key (.rows [draft.body]))
          | true, some (.rows tables) =>
              some (put members key (.rows (tables ++ [draft.body])))
          | false, none => some (put members key (.table .headed draft.body))
          | false, some (.table .passed _) | false, some (.table .dotted _) =>
              some (put members key (.table .headed draft.body))
          | _, _ => none)
        draft.path.dropLast .headed draft.root

/-- The table that a header may open: none yet, or one that was only passed. -/
def openable? : Option Toml -> Option Members
  | none => some []
  | some (.table .passed members) => some members
  | _ => none

def openTable (draft : Draft) (path : List String) : Option Draft := do
  let root ← draft.close
  let key ← path.getLast?
  let found ← find (path.dropLast) root
  let opened ← openable? (find? found key)
  let root ← descend false (fun _ members => some (remove members key)) path.dropLast .headed root
  return { root, body := opened, path }
where
  /-- The table a header's path leads to, as far as it exists. -/
  find : List String -> Members -> Option Members
    | [], members => some members
    | key :: path, members =>
        match find? members key with
        | none => some []
        | some (.table .closed _) => none
        | some (.table _ inner) => find path inner
        | some (.rows tables) => tables.getLast?.bind (find path)
        | some _ => none

def openRow (draft : Draft) (path : List String) : Option Draft := do
  let root ← draft.close
  let key ← path.getLast?
  let root ← descend false
    (fun _ members =>
      match find? members key with
      | none | some (.rows _) => some members
      | _ => none)
    path.dropLast .headed root
  return { root, path, isRow := true }

/-- Gives a key of the open section its value. -/
def define (draft : Draft) (path : List String) (key : String) (value : Toml) : Option Draft := do
  let members ← Toml.define path key value .headed draft.body
  return { draft with body := members }

end Draft

end Toml

end HttpService
