import HttpService.Number.Power
/-! # Binary floating point

Numbers with a 53-bit mantissa, computed in exact natural-number arithmetic. Every operation forms
the exact rational result and rounds it once, to nearest with ties to even. -/
set_option autoImplicit false

namespace HttpService

/-- A binary64 number. A finite one is `mantissa * 2 ^ exponent` with `mantissa < 2 ^ 53` and
`-1074 ≤ exponent`. -/
inductive Binary64 where
  | finite (negative : Bool) (mantissa : Nat) (exponent : Int)
  | infinite (negative : Bool)
  | notANumber
deriving DecidableEq, Inhabited

namespace Binary64

def zero (negative : Bool) : Binary64 := .finite negative 0 (-1074)

/-- Rounds `numerator / denominator` to an integer, a tie to the even neighbour. -/
def divideRounded (numerator denominator : Nat) : Nat :=
  let quotient := numerator / denominator
  let twice := 2 * (numerator % denominator)
  if twice < denominator then quotient
  else if denominator < twice then quotient + 1
  else if quotient % 2 = 0 then quotient else quotient + 1

/-- The number nearest to `numerator / denominator`. -/
def ofRatio (negative : Bool) (numerator denominator : Nat) : Binary64 :=
  if numerator = 0 || denominator = 0 then zero negative else
  let magnitude : Int := (numerator.log2 : Int) - (denominator.log2 : Int)
  let reached : Bool :=
    if 0 ≤ magnitude then denominator * twoTo magnitude.toNat ≤ numerator
    else denominator ≤ numerator * twoTo (-magnitude).toNat
  let wanted : Int := if reached then magnitude - 52 else magnitude - 53
  let exponent : Int := max wanted (-1074)
  let mantissa :=
    if 0 ≤ exponent then divideRounded numerator (denominator * twoTo exponent.toNat)
    else divideRounded (numerator * twoTo (-exponent).toNat) denominator
  let (mantissa, exponent) :=
    if mantissa = twoTo 53 then (twoTo 52, exponent + 1) else (mantissa, exponent)
  if 971 < exponent then .infinite negative else .finite negative mantissa exponent

def ofNat (number : Nat) : Binary64 := ofRatio false number 1

/-- The number nearest to `significand * 10 ^ exponent`. Far outside the range the answer is known
without forming the power. -/
def ofDecimal (negative : Bool) (significand : Nat) (exponent : Int) : Binary64 :=
  if significand = 0 then zero negative
  else if 400 < exponent then .infinite negative
  else if exponent < 0 && (significand.log2 : Int) + 1 + 3 * exponent ≤ -1076 then zero negative
  else if 0 ≤ exponent then ofRatio negative (significand * tenTo exponent.toNat) 1
  else ofRatio negative significand (tenTo (-exponent).toNat)

def isInfinite : Binary64 -> Bool
  | .infinite _ => true
  | _ => false

def isZero : Binary64 -> Bool
  | .finite _ mantissa _ => mantissa == 0
  | _ => false

def ratio (mantissa : Nat) (exponent : Int) : Nat × Nat :=
  if 0 ≤ exponent then (mantissa * twoTo exponent.toNat, 1)
  else (mantissa, twoTo (-exponent).toNat)

def negate : Binary64 -> Binary64
  | .finite negative mantissa exponent => .finite (!negative) mantissa exponent
  | .infinite negative => .infinite (!negative)
  | .notANumber => .notANumber

/-- Product of finite numbers, rounded once. -/
def multiply : Binary64 -> Binary64 -> Binary64
  | .finite n₁ m₁ e₁, .finite n₂ m₂ e₂ =>
      let (a, b) := ratio m₁ e₁
      let (c, d) := ratio m₂ e₂
      ofRatio (n₁ != n₂) (a * c) (b * d)
  | .notANumber, _ => .notANumber
  | _, .notANumber => .notANumber
  | .infinite n₁, .infinite n₂ => .infinite (n₁ != n₂)
  | .infinite n₁, .finite n₂ m₂ _ => if m₂ = 0 then .notANumber else .infinite (n₁ != n₂)
  | .finite n₁ m₁ _, .infinite n₂ => if m₁ = 0 then .notANumber else .infinite (n₁ != n₂)

/-- Quotient of a finite number by a finite non-zero one, rounded once. -/
def divide : Binary64 -> Binary64 -> Binary64
  | .finite n₁ m₁ e₁, .finite n₂ m₂ e₂ =>
      let (a, b) := ratio m₁ e₁
      let (c, d) := ratio m₂ e₂
      ofRatio (n₁ != n₂) (a * d) (b * c)
  | .infinite n₁, .finite n₂ _ _ => .infinite (n₁ != n₂)
  | .finite n₁ _ _, .infinite n₂ => zero (n₁ != n₂)
  | _, _ => .notANumber

end Binary64

end HttpService
