import HttpService.Crypto.SigningKey
import HttpService.Failure.IoKind
import HttpService.Text.Dictionary
/-! # Key stores

Public keys under the identifiers by which tokens name them. A store is filled one key at a time or
from a folder, where each file `kid.pem` holds the key named `kid`. In use (`KeyStore.perform`) it
is changed by what succeeds only. -/
set_option autoImplicit false

namespace HttpService

inductive FolderEntry where
  | file (content : Bytes)
  | folder
  /-- A file that cannot be read, with the number of the system error. -/
  | unreadable (code : Int)
deriving DecidableEq

/-- The names in a folder, or the number of the system error that listing it gives. -/
abbrev Folder := Except Int (List (String × FolderEntry))

/-- Why keys could not be stored. -/
inductive KeyFault where
  /-- The text stored under this identifier is no key. -/
  | unreadable (kid : String)
  /-- A file or folder could not be read. -/
  | system (code : Int)
deriving DecidableEq

/-- What is asked of a store in use. -/
inductive KeyRequest where
  | insert (kid : String) (text : Bytes)
  /-- To be replaced by a store filled from this folder. -/
  | load (folder : Folder)
  | lookup (kid : String)

inductive KeyAnswer where
  | stored
  | refused (fault : KeyFault)
  | found (key : PublicKey)
  | missing (message : String)
deriving DecidableEq

structure KeyStore where
  keys : Dictionary PublicKey
deriving DecidableEq

namespace KeyStore

def empty : KeyStore := ⟨.empty⟩

instance : Inhabited KeyStore := ⟨empty⟩

def size (store : KeyStore) : Nat := store.keys.size

def isEmpty (store : KeyStore) : Bool := store.keys.isEmpty

/-- The key that a token naming `kid` must be signed for. -/
def find? (store : KeyStore) (kid : String) : Option PublicKey := store.keys.find? kid

/-- The text for an identifier that has no key. -/
def notFoundMessage (kid : String) : String := "no public key for kid `" ++ kid ++ "`"

/-- Stores the key that an armoured text holds, replacing any key under the same identifier. -/
def insert (store : KeyStore) (kid : String) (text : Bytes) : Except KeyFault KeyStore :=
  match PublicKey.ofText? text with
  | some key => pure ⟨store.keys.insert kid key⟩
  | none => throw (.unreadable kid)

/-- The part of a file name before its extension, when that is the one of keys. A name without
anything before its last point has no extension. -/
def keyName? (name : String) : Option String :=
  let reversed := name.toList.reverse
  let extension := ['m', 'e', 'p', '.']
  if extension.isPrefixOf reversed && 4 < reversed.length then
    some (String.ofList (reversed.drop 4).reverse)
  else none

/-- Adds the key of one entry of a folder, if it is to hold one. -/
def addEntry (store : KeyStore) (entry : String × FolderEntry) : Except KeyFault KeyStore :=
  match keyName? entry.1 with
  | none => pure store
  | some kid =>
      match entry.2 with
      | .folder => throw (.system 21)
      | .unreadable code => throw (.system code)
      | .file content => store.insert kid content

def ofFolder (folder : Folder) : Except KeyFault KeyStore :=
  match folder with
  | .error code => throw (.system code)
  | .ok entries => entries.foldlM addEntry empty

/-- Gives way to what a change has led to. A change that failed leaves the store as it was. -/
def settle (store : KeyStore) : Except KeyFault KeyStore -> KeyStore × KeyAnswer
  | .ok changed => (changed, .stored)
  | .error fault => (store, .refused fault)

def perform (store : KeyStore) : KeyRequest -> KeyStore × KeyAnswer
  | .insert kid text => store.settle (store.insert kid text)
  | .load folder => store.settle (ofFolder folder)
  | .lookup kid =>
      match store.find? kid with
      | some key => (store, .found key)
      | none => (store, .missing (notFoundMessage kid))

/-- The store after one request after the other. -/
def after (store : KeyStore) (requests : List KeyRequest) : KeyStore :=
  requests.foldl (fun store request => (store.perform request).1) store

end KeyStore

end HttpService
