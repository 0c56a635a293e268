import HttpService.Auth.Claims
import HttpService.Auth.TokenHeader
import HttpService.Crypto.SigningKey
import HttpService.Encoding.Base64
/-! # Signing tokens

A signer holds one private key and the identifier under which its public half is known. -/
set_option autoImplicit false

namespace HttpService

/-- A private key with the identifier that tokens carry. -/
structure Signer where
  kid : String
  key : PrivateKey
deriving DecidableEq

namespace Signer

/-- The signer for the key that an armoured text holds. -/
def ofText? (kid : String) (text : Bytes) : Option Signer :=
  (PrivateKey.ofText? text).map (Signer.mk kid)

def header (signer : Signer) : Json :=
  .object [("typ", .text "JWT"), ("alg", .text Algorithm.rs256.name), ("kid", .text signer.kid)]

/-- The bytes that are signed: the encoded header and claims with a point between them. -/
def message (signer : Signer) (claims : Claims) : Bytes :=
  Base64.encode Base64.url signer.header.encode ++ Bytes.code '.' ::
    Base64.encode Base64.url claims.toJson.encode

def failureName : String := "Signing"

def sign? (signer : Signer) (claims : Claims) : Option Bytes := do
  let message := signer.message claims
  let signature ← signer.key.sign? message
  return message ++ Bytes.code '.' :: Base64.encode Base64.url signature

end Signer

end HttpService
