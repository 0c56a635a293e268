import HttpService.Json.Printer
import HttpService.Json.Typed
import HttpService.Text.Dictionary
import HttpService.Time.Timestamp
/-! # Claims

The verified identity of a caller and its JSON form. Roles are a set of texts, written in order;
`Claims.read` reads an object with its members in any order or a list of the five values. -/
set_option autoImplicit false

namespace HttpService

abbrev Roles := Dictionary Unit

namespace Roles

def ofList (names : List String) : Roles := Dictionary.ofList (names.map fun name => (name, ()))

/-- The names in order, each once. -/
def names (roles : Roles) : List String := roles.keys

end Roles

structure Claims where
  subject : String
  roles : Roles
  issuer : String
  issuedAt : Timestamp
  expiresAt : Timestamp
deriving DecidableEq, Inhabited

namespace Claims

/-- Grants access to everything. -/
def adminRole : String := "ADMIN"

def userRole : String := "USER"

/-- The order of the roles and how often each is named do not matter. -/
def new (subject : String) (roles : List String) (issuer : String)
    (issuedAt expiresAt : Timestamp) : Claims :=
  ⟨subject, Roles.ofList roles, issuer, issuedAt, expiresAt⟩

def hasRole (claims : Claims) (role : String) : Bool := claims.roles.contains role

def toJson (claims : Claims) : Json :=
  .object [
    ("sub", .text claims.subject),
    ("roles", .array (claims.roles.names.map .text)),
    ("iss", .text claims.issuer),
    ("iat", .int claims.issuedAt.seconds),
    ("exp", .int claims.expiresAt.seconds)]

structure Partial where
  subject : Option String := none
  roles : Option Roles := none
  issuer : Option String := none
  issuedAt : Option Timestamp := none
  expiresAt : Option Timestamp := none

open Json Json.Reader

def timeValue : Reader Timestamp := do
  match Timestamp.ofSeconds? (← wholeValue) with
  | some time => pure time
  | none => fail .mismatch

def rolesValue : Reader Roles := do return Roles.ofList (← listOf textValue)

/-- Reads the value of a member that must not have been read before. -/
def onlyOnce {α : Type} (present : Option α) (reader : Reader α) : Reader (Option α) := do
  if present.isSome then fail .mismatch
  else do
    colon
    return some (← reader)

def member (found : Partial) (key : String) : Reader Partial := do
  match key with
  | "sub" => return { found with subject := ← onlyOnce found.subject textValue }
  | "roles" => return { found with roles := ← onlyOnce found.roles rolesValue }
  | "iss" => return { found with issuer := ← onlyOnce found.issuer textValue }
  | "iat" => return { found with issuedAt := ← onlyOnce found.issuedAt timeValue }
  | "exp" => return { found with expiresAt := ← onlyOnce found.expiresAt timeValue }
  | _ => do colon; skip; return found

/-- Only the roles may be missing. -/
def Partial.complete (found : Partial) : Reader Claims :=
  match found.subject, found.issuer, found.issuedAt, found.expiresAt with
  | some subject, some issuer, some issuedAt, some expiresAt =>
      pure ⟨subject, found.roles.getD .empty, issuer, issuedAt, expiresAt⟩
  | _, _, _, _ => fail .mismatch

def listed : Reader Claims := do
  let subject ← itemOf true textValue
  let roles ← itemOf false rolesValue
  let issuer ← itemOf false textValue
  let issuedAt ← itemOf false timeValue
  let expiresAt ← itemOf false timeValue
  return ⟨subject, roles, issuer, issuedAt, expiresAt⟩

def reader : Reader Claims := do
  let byte ← beginning
  if byte == 123 then do
    advance
    closing
      (bounded fun bound => do (← foldMembers member bound true {}).complete)
      endMembers
  else if byte == 91 then do advance; closing listed endItems
  else refuse byte

def read (input : Bytes) : Except Fault Claims := reader.all input

end Claims

end HttpService
