import HttpService.Auth.Claims
import HttpService.Auth.KeyStore
import HttpService.Auth.Registered
import HttpService.Auth.TokenHeader
import HttpService.Encoding.Base64
import HttpService.Number.Power
/-! # Bearer tokens

From the value of an authorization header to verified claims. The checks follow each other in a
fixed order (`AuthFault` lists them so), the first one that fails decides the text, and no text
depends on the key, the claims or what exactly was wrong with them. -/
set_option autoImplicit false

namespace HttpService

/-- Why a header was not accepted. -/
inductive AuthFault where
  | scheme
  | header
  | algorithm (found : Algorithm)
  | noKid
  | unknownKey
  | signature
  | payload
  | missingClaim
  | expired
  | issuer
  /-- The token is for somebody else. -/
  | audience
  | issuedLater
deriving DecidableEq

namespace AuthFault

def message : AuthFault -> String
  | .scheme => "expected authorization header format: Bearer <token>"
  | .header => "malformed token header"
  | .algorithm found => "unsupported signing algorithm " ++ found.name
  | .noKid => "token header missing kid"
  | .unknownKey => "unknown signing key"
  | .signature => "signature verification failed"
  | .payload => "malformed token"
  | .missingClaim => "token missing required claim"
  | .expired => "token expired"
  | .issuer => "unexpected issuer"
  | .audience => "token validation failed"
  | .issuedLater => "token issued in the future"

end AuthFault

structure TokenParts where
  header : Bytes
  payload : Bytes
  signature : Bytes
deriving DecidableEq

namespace TokenParts

def dot : UInt8 := Bytes.code '.'

/-- The two sides of the last point. -/
def splitLast? (input : Bytes) : Option (Bytes × Bytes) :=
  let after := (input.reverse.takeWhile (· != dot)).reverse
  if after.length < input.length then
    some (input.take (input.length - after.length - 1), after)
  else none

/-- Splits a token at its last two points. -/
def ofToken? (token : Bytes) : Option TokenParts := do
  let (message, signature) ← splitLast? token
  let (header, payload) ← splitLast? message
  return ⟨header, payload, signature⟩

/-- What is signed: header and payload with the point between them. -/
def message (parts : TokenParts) : Bytes := parts.header ++ dot :: parts.payload

end TokenParts

structure Verifier where
  keys : KeyStore
  /-- The only issuer accepted, if one is set. -/
  issuer : Option String := none
  /-- By how many seconds clocks may differ. -/
  leeway : Nat := 60
deriving DecidableEq, Inhabited

namespace Verifier

def scheme : Bytes := Bytes.ofText "Bearer "

/-- The longest leeway that is granted to the time of issue. -/
def maxSkew : Nat := 86400

/-- The token of a header value: not empty, and without a blank. -/
def token? (header : String) : Option Bytes :=
  let bytes := Bytes.ofText header
  if scheme.isPrefixOf bytes then
    let token := bytes.drop scheme.length
    if token.isEmpty || token.contains 32 then none else some token
  else none

def readHeader? (parts : TokenParts) : Option TokenHeader :=
  (Base64.decode? Base64.url parts.header).bind TokenHeader.read?

/-- Checks the registered claims: those required, the time of expiry, the issuer, the audience. The
leeway is taken from a clock that cannot go below zero: one that is longer than the clock has run
makes every token expired, or stops a build that checks its arithmetic. -/
def checkRegistered (verifier : Verifier) (now : Moment) (claims : Registered) :
    Except AuthFault Unit := do
  match claims.expires, claims.subject, claims.issuer with
  | .found expires, .found _, .found issuer =>
      if expires < wordDifference now.seconds verifier.leeway then throw .expired
      match verifier.issuer with
      | none => pure ()
      | some wanted =>
          let accepted := match issuer with
            | .one name => name == wanted
            | .many names => names.contains wanted
          if !accepted then throw .issuer
      match claims.audience with
      | .found (.one _) => throw .audience
      | .found (.many (_ :: _)) => throw .audience
      | _ => pure ()
  | _, _, _ => throw .missingClaim

def checkPayload (verifier : Verifier) (now : Moment) (payload : Bytes) :
    Except AuthFault Claims := do
  match Claims.read payload, Registered.read payload with
  | .ok claims, .ok registered =>
      verifier.checkRegistered now registered
      return claims
  | _, _ => throw .payload

def authenticate (verifier : Verifier) (now : Moment) (header : String) :
    Except AuthFault Claims := do
  match token? header with
  | none => throw .scheme
  | some token =>
      match TokenParts.ofToken? token with
      | none => throw .header
      | some parts =>
          match readHeader? parts with
          | none => throw .header
          | some ⟨algorithm, kid⟩ =>
              if algorithm ≠ .rs256 then throw (.algorithm algorithm)
              match kid with
              | none => throw .noKid
              | some kid =>
                  match verifier.keys.find? kid with
                  | none => throw .unknownKey
                  | some key =>
                      match Base64.decode? Base64.url parts.signature with
                      | none => throw .payload
                      | some signature =>
                          if !key.verifies parts.message signature then throw .signature
                          match Base64.decode? Base64.url parts.payload with
                          | none => throw .payload
                          | some payload =>
                              let claims ← verifier.checkPayload now payload
                              if now.precedes (min verifier.leeway maxSkew) claims.issuedAt.seconds
                                then throw .issuedLater
                              return claims

end Verifier

end HttpService
