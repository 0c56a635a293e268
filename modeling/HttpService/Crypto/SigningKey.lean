import HttpService.Crypto.Armour
import HttpService.Crypto.Digest
import HttpService.Crypto.Encoded
import HttpService.Number.Power
/-! # Keys and signatures

Signatures by modular powers over a padded digest. A key is read from an armoured text as the bytes
of its numbers; those are only decoded and checked when the key is used, so that a key that can be
held may still be one that never verifies (`PublicKey.verifies`) or signs (`PrivateKey.sign?`). -/
set_option autoImplicit false

namespace HttpService

structure KeyMaterial where
  encoded : Bytes
deriving DecidableEq, Inhabited

namespace KeyMaterial

/-- The identifier of the algorithm that the keys here are for. -/
def algorithm : List Nat := [1, 2, 840, 113549, 1, 1, 1]

/-- Identifiers of algorithms that decide what a key is for. -/
def knownAlgorithms : List (List Nat) :=
  [algorithm, [1, 2, 840, 10045, 2, 1], [1, 3, 101, 112]]

/-- Tags of texts whose data are the numbers themselves. -/
def plainTags : List Bytes := [Bytes.ofText "RSA PRIVATE KEY", Bytes.ofText "RSA PUBLIC KEY"]

/-- Tags of texts whose data name an algorithm and wrap the numbers. -/
def wrappedTags : List Bytes :=
  [Bytes.ofText "PRIVATE KEY", Bytes.ofText "PUBLIC KEY", Bytes.ofText "CERTIFICATE"]

/-- Reads the numbers of a key from an armoured text. -/
def ofText? (text : Bytes) : Option KeyMaterial := do
  let block ← Armour.parse? text
  let nodes ← Encoded.read? block.data
  if plainTags.contains block.tag then some ⟨block.data⟩
  else if wrappedTags.contains block.tag then
    if Encoded.firstIdentifier? knownAlgorithms.contains nodes = some algorithm then
      (Encoded.firstOctets? nodes).map KeyMaterial.mk
    else none
  else none

/-- The text for an armoured text that holds no key. -/
def unreadable : String := "InvalidKeyFormat"

end KeyMaterial

/-- `base ^ exponent % modulus` by the binary digits of the exponent, at most `fuel` of them. -/
def modularPower (modulus : Nat) : Nat -> Nat -> Nat -> Nat
  | 0, _, _ => 1 % modulus
  | fuel + 1, base, exponent =>
      if exponent = 0 then 1 % modulus
      else
        let half := modularPower modulus fuel (base * base % modulus) (exponent / 2)
        if exponent % 2 = 1 then half * base % modulus else half

def bitLength (number : Nat) : Nat := if number = 0 then 0 else number.log2 + 1

/-- What comes before a digest in the padded message: the name of the digest and its length. -/
def digestName : Bytes :=
  [0x30, 0x31, 0x30, 0x0d, 0x06, 0x09, 0x60, 0x86, 0x48, 0x01, 0x65, 0x03, 0x04, 0x02, 0x01, 0x05,
    0x00, 0x04, 0x20]

/-- The digest of a message, padded to `size` bytes; at least eight bytes of padding are needed. -/
def paddedDigest? (size : Nat) (message : Bytes) : Option Bytes :=
  let body := digestName ++ Digest.hash message
  if size < body.length + 11 then none
  else some (0 :: 1 :: List.replicate (size - body.length - 3) 255 ++ 0 :: body)

structure PublicNumbers where
  modulus : Nat
  exponent : Nat
deriving DecidableEq

namespace PublicNumbers

def isSound (numbers : PublicNumbers) : Bool :=
  bitLength numbers.modulus ≤ 4096 && numbers.exponent < numbers.modulus
    && numbers.modulus % 2 = 1 && numbers.exponent % 2 = 1 && 2 ≤ numbers.exponent
    && numbers.exponent < twoTo 33

def size (numbers : PublicNumbers) : Nat := (bitLength numbers.modulus + 7) / 8

end PublicNumbers

structure PublicKey where
  material : KeyMaterial
deriving DecidableEq, Inhabited

namespace PublicKey

def ofText? (text : Bytes) : Option PublicKey := (KeyMaterial.ofText? text).map PublicKey.mk

def numbers? (key : PublicKey) : Option PublicNumbers :=
  match Encoded.Strict.naturals? 2 key.material.encoded with
  | some [modulus, exponent] =>
      let numbers : PublicNumbers := ⟨modulus, exponent⟩
      if numbers.isSound then some numbers else none
  | _ => none

/-- Is `signature` this key's signature of `message`? -/
def verifies (key : PublicKey) (message signature : Bytes) : Bool :=
  match key.numbers? with
  | none => false
  | some numbers =>
      let value := Bytes.toNat signature
      match paddedDigest? numbers.size message with
      | none => false
      | some padded =>
          signature.length = numbers.size && value < numbers.modulus
            && modularPower numbers.modulus (bitLength numbers.exponent) value numbers.exponent
              = Bytes.toNat padded

end PublicKey

structure PrivateKey where
  material : KeyMaterial
deriving DecidableEq, Inhabited

namespace PrivateKey

def ofText? (text : Bytes) : Option PrivateKey := (KeyMaterial.ofText? text).map PrivateKey.mk

/-- The public numbers and the private exponent, when they belong together. -/
def numbers? (key : PrivateKey) : Option (PublicNumbers × Nat) :=
  match Encoded.Strict.naturals? 9 key.material.encoded with
  | some [version, modulus, exponent, secret, first, second, _, _, _] =>
      let numbers : PublicNumbers := ⟨modulus, exponent⟩
      let inverts (factor : Nat) := secret * exponent % (factor - 1) = 1 % (factor - 1)
      if version = 0 && numbers.isSound && 1 < first && 1 < second && first * second = modulus
          && inverts first && inverts second then some (numbers, secret)
      else none
  | _ => none

def sign? (key : PrivateKey) (message : Bytes) : Option Bytes := do
  let (numbers, secret) ← key.numbers?
  let padded ← paddedDigest? numbers.size message
  return Bytes.ofNat numbers.size
    (modularPower numbers.modulus (bitLength secret) (Bytes.toNat padded) secret)

end PrivateKey

end HttpService
