import HttpService.Auth.KeyStore
import HttpService.Settings
/-! # Working folders

The files that the program can read, by their paths: from the folder it runs in, or from the root.
A path that leaves the folder upwards leads nowhere. -/
set_option autoImplicit false

namespace HttpService

/-- Files with their paths, and folders that exist without a file in them. -/
structure Workspace where
  files : List (String × Bytes) := []
  folders : List String := []
deriving Inhabited

namespace Workspace

def root : String := "/"

def enter? (names : List String) (name : String) : Option (List String) :=
  if name == ".." then
    if names = [root] then some names else if names.isEmpty then none else some names.dropLast
  else some (names ++ [name])

/-- The names along a path, the root among them if it starts there. -/
def names? (path : String) : Option (List String) :=
  if path.isEmpty then none
  else
    let start := if path.toList.head? = some '/' then [root] else []
    ((path.splitOn "/").filter fun name => name != "" && name != ".").foldlM enter? start

def pathOf (names : List String) : String :=
  match names with
  | [] => "."
  | first :: rest => if first == root then root ++ "/".intercalate rest else "/".intercalate names

def file? (workspace : Workspace) (path : String) : Option Bytes := do
  let names ← names? path
  let (_, content) ← workspace.files.find? fun entry => names? entry.1 == some names
  if path.toList.getLast? = some '/' then none else some content

/-- The names along the paths of all files and folders. -/
def paths (workspace : Workspace) : List (List String) :=
  (workspace.files.map Prod.fst ++ workspace.folders).filterMap names?

def list (workspace : Workspace) (path : String) : Folder :=
  match names? path with
  | none => .error 2
  | some names =>
      let isFolder := names.isEmpty
        || (workspace.folders.any fun folder => names? folder == some names)
        || workspace.paths.any fun other => names.isPrefixOf other && names.length < other.length
      if !isFolder then
        .error (if workspace.files.any fun entry => names? entry.1 == some names then 20 else 2)
      else
        let inside := workspace.paths.filterMap fun other =>
          if names.isPrefixOf other then (other.drop names.length).head? else none
        .ok (inside.eraseDups.map fun name =>
          match workspace.file? (pathOf (names ++ [name])) with
          | some content => (name, .file content)
          | none => (name, .folder))

/-- The ending that a name of a settings file may leave out. -/
def settingsEnding : String := ".toml"

/-- The settings file of a name: the file of exactly this name, or of the name with the ending. -/
def settingsFile (workspace : Workspace) (name : String) : Settings.File :=
  let found (path : String) : Option Settings.File := do
    let content ← workspace.file? path
    let origin := pathOf ((names? path).getD [path])
    return ⟨name, origin, Bytes.toText? content⟩
  ((found name).or (found (name ++ settingsEnding))).getD ⟨name, name, none⟩

end Workspace

end HttpService
