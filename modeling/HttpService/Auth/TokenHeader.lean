import HttpService.Json.Reader
/-! # Token headers

The header of a signed token: an object that names the signing algorithm and, perhaps, the key.
The registered members have fixed shapes and stand at most once; every other member is a text. -/
set_option autoImplicit false

namespace HttpService

inductive Algorithm where
  | hs256 | hs384 | hs512 | es256 | es384 | rs256 | rs384 | rs512 | ps256 | ps384 | ps512 | edDsa
deriving DecidableEq, Inhabited

namespace Algorithm

def all : List Algorithm :=
  [hs256, hs384, hs512, es256, es384, rs256, rs384, rs512, ps256, ps384, ps512, edDsa]

def name : Algorithm -> String
  | .hs256 => "HS256"
  | .hs384 => "HS384"
  | .hs512 => "HS512"
  | .es256 => "ES256"
  | .es384 => "ES384"
  | .rs256 => "RS256"
  | .rs384 => "RS384"
  | .rs512 => "RS512"
  | .ps256 => "PS256"
  | .ps384 => "PS384"
  | .ps512 => "PS512"
  | .edDsa => "EdDSA"

def ofName? (name : String) : Option Algorithm := all.find? fun algorithm => algorithm.name == name

theorem ofName?_name (algorithm : Algorithm) : ofName? algorithm.name = some algorithm := by
  cases algorithm <;> decide

end Algorithm

structure TokenHeader where
  algorithm : Algorithm
  kid : Option String
deriving DecidableEq, Inhabited

namespace TokenHeader

/-- The text of a named choice: the name itself, or an object with nothing under the name. -/
def choice? : Json -> Option String
  | .text name => some name
  | .object [(name, .null)] => some name
  | _ => none

def isText : Json -> Bool
  | .text _ => true
  | _ => false

def isTextOrNull : Json -> Bool
  | .null | .text _ => true
  | _ => false

def isTextsOrNull : Json -> Bool
  | .null => true
  | .array items => items.all isText
  | _ => false

def values (members : List (String × Json)) (key : String) : List Json :=
  (members.filter fun member => member.1 == key).map Prod.snd

/-- Does the key stand at most once, with a value that passes the test? -/
def atMostOnce (members : List (String × Json)) (key : String) (test : Json -> Bool) : Bool :=
  match values members key with
  | [] => true
  | [value] => test value
  | _ => false

/-- Does the key stand exactly once, with a value that passes the test? -/
def once (members : List (String × Json)) (key : String) (test : Json -> Bool) : Bool :=
  match values members key with
  | [value] => test value
  | _ => false

/-- Names of curves a public key may be on. -/
def curves : List String := ["P-256", "P-384", "P-521", "Ed25519"]

def isChoice (names : List String) (value : Json) : Bool := (choice? value).any names.contains

/-- Are the members those of a public key of some kind? -/
def describesKey (members : List (String × Json)) : Bool :=
  let common := ["use", "kid", "x5u", "x5t", "x5t#S256"].all fun key =>
    atMostOnce members key isTextOrNull
  let lists := ["key_ops", "x5c"].all fun key => atMostOnce members key isTextsOrNull
  let algorithm := atMostOnce members "alg" fun value =>
    value matches .null || (choice? value).isSome
  let kind (names : List String) := once members "kty" (isChoice names)
  let texts (keys : List String) := keys.all fun key => once members key isText
  let onCurve := once members "crv" (isChoice curves)
  common && lists && algorithm
    && ((kind ["EC"] && onCurve && texts ["x", "y"]) || (kind ["RSA"] && texts ["n", "e"])
      || (kind ["oct"] && texts ["k"]) || (kind ["OKP"] && onCurve && texts ["x"]))

def isKey : Json -> Bool
  | .null => true
  | .object members => describesKey members
  | _ => false

def textKeys : List String :=
  ["typ", "cty", "jku", "kid", "x5u", "x5t", "x5t#S256", "enc", "zip", "url", "nonce"]

def listKeys : List String := ["x5c", "crit"]

/-- Reads the header from the members of an object. -/
def ofMembers? (members : List (String × Json)) : Option TokenHeader :=
  let registered := textKeys ++ listKeys ++ ["alg", "jwk"]
  let wellFormed := textKeys.all (fun key => atMostOnce members key isTextOrNull)
    && listKeys.all (fun key => atMostOnce members key isTextsOrNull)
    && atMostOnce members "jwk" isKey
    && members.all fun member => registered.contains member.1 || isText member.2
  match wellFormed, values members "alg" with
  | true, [value] =>
      ((choice? value).bind Algorithm.ofName?).map fun algorithm =>
        { algorithm
          kid := match values members "kid" with
            | [.text kid] => some kid
            | _ => none }
  | _, _ => none

def read? (input : Bytes) : Option TokenHeader :=
  match Json.read input with
  | .ok (.object members) => ofMembers? members
  | _ => none

end TokenHeader

end HttpService
