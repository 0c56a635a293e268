import HttpService.Auth.Claims
import HttpService.Auth.Owner
import HttpService.Text.Quoted
/-! # Authorization rules

Four named policies over the roles and the subject of a caller. A refusal shows the caller's roles
and the rule. -/
set_option autoImplicit false

namespace HttpService

inductive Rule where
  /-- Some known role. -/
  | any
  | adminOnly
  | userOnly
  /-- The owner of the resource, or an administrator. -/
  | adminOrSubject
deriving DecidableEq, Inhabited

namespace Rule

def all : List Rule := [any, adminOnly, userOnly, adminOrSubject]

/-- The name by which a rule is chosen and shown. -/
def name : Rule -> String
  | .any => "any"
  | .adminOnly => "admin-only"
  | .userOnly => "user-only"
  | .adminOrSubject => "admin-or-subject"

def parse? (text : String) : Option Rule := all.find? fun rule => rule.name == text

theorem parse?_name (rule : Rule) : parse? rule.name = some rule := by
  cases rule <;> decide

/-- The text for a name that no rule has. -/
def unknownMessage (text : String) : String := "unknown rule `" ++ text ++ "`"

/-- Is the caller's subject the written form of the owner? -/
def isOwner (claims : Claims) (owner : Option OwnerId) : Bool :=
  owner.any fun owner => claims.subject == owner.display

def allows (rule : Rule) (claims : Claims) (owner : Option OwnerId) : Bool :=
  match rule with
  | .any => claims.hasRole Claims.adminRole || claims.hasRole Claims.userRole
  | .adminOnly => claims.hasRole Claims.adminRole
  | .userOnly => claims.hasRole Claims.userRole
  | .adminOrSubject => isOwner claims owner || claims.hasRole Claims.adminRole

def refusal (rule : Rule) (claims : Claims) : String :=
  "not authorized: roles \x7b" ++ ", ".intercalate (claims.roles.names.map Text.quoted)
    ++ "\x7d fail rule " ++ rule.name

/-- Lets the caller pass or says why not. -/
def authorize (rule : Rule) (claims : Claims) (owner : Option OwnerId) : Except String Unit :=
  if rule.allows claims owner then pure () else throw (rule.refusal claims)

def authorizeOwner (claims : Claims) (owner : OwnerId) : Except String Unit :=
  if isOwner claims (some owner) then pure () else adminOnly.authorize claims (some owner)

end Rule

end HttpService
