import HttpService.Number.Binary64
/-! # Shortest decimal text

The fewest decimal digits that lie in the interval of reals which round to a given number, and the
two written forms in use: always positional, and positional only for moderate exponents. -/
set_option autoImplicit false

namespace HttpService.Binary64

/-- The reals that round to a number, as numerators over a common denominator: lower end, the
number itself, upper end; the ends belong to the interval when `closed`. -/
structure Interval where
  lower : Nat
  centre : Nat
  upper : Nat
  denominator : Nat
  closed : Bool

def interval (mantissa : Nat) (exponent : Int) : Interval :=
  let below := if mantissa = twoTo 52 && exponent != -1074 then 1 else 2
  let (scale, denominator) :=
    if 0 ≤ exponent then (twoTo exponent.toNat, 4) else (1, 4 * twoTo (-exponent).toNat)
  { lower := (4 * mantissa - below) * scale
    centre := 4 * mantissa * scale
    upper := (4 * mantissa + 2) * scale
    denominator
    closed := mantissa % 2 = 0 }

/-- Does `digits * 10 ^ power` lie in the interval? -/
def Interval.holds (range : Interval) (digits : Nat) (power : Int) : Bool :=
  let (point, unit) :=
    if 0 ≤ power then (digits * tenTo power.toNat * range.denominator, 1)
    else (digits * range.denominator, tenTo (-power).toNat)
  let lower := range.lower * unit
  let upper := range.upper * unit
  if range.closed then lower ≤ point && point ≤ upper else lower < point && point < upper

/-- Twice the distance of `digits * 10 ^ power` from the centre, in units common to one `power`. -/
def Interval.distance (range : Interval) (digits : Nat) (power : Int) : Nat :=
  let (point, unit) :=
    if 0 ≤ power then (digits * tenTo power.toNat * range.denominator, 1)
    else (digits * range.denominator, tenTo (-power).toNat)
  let centre := range.centre * unit
  if point ≤ centre then centre - point else point - centre

/-- The centre divided by a power of ten, rounded down. -/
def Interval.quotient (range : Interval) (power : Int) : Nat :=
  if 0 ≤ power then range.centre / (range.denominator * tenTo power.toNat)
  else range.centre * tenTo (-power).toNat / range.denominator

/-- Walks to finer and finer decimal grids until one has a point in the interval. -/
def search (range : Interval) : Nat -> Int -> Nat × Int
  | 0, power => (range.quotient power, power)
  | fuel + 1, power =>
      let down := range.quotient power
      let downHolds := range.holds down power && down != 0
      let upHolds := range.holds (down + 1) power
      if downHolds && upHolds then
        if range.distance (down + 1) power < range.distance down power then (down + 1, power)
        else (down, power)
      else if downHolds then (down, power)
      else if upHolds then (down + 1, power)
      else search range fuel (power - 1)

/-- Digits and power of ten of the shortest decimal that reads back as the number. -/
def shortest (mantissa : Nat) (exponent : Int) : List Char × Int :=
  let range := interval mantissa exponent
  let start : Int := ((mantissa.log2 : Int) + exponent) * 30103 / 100000 + 2
  let (digits, power) := search range 30 start
  let written := Nat.toDigits 10 digits
  let kept := (written.reverse.dropWhile (· == '0')).reverse
  (kept, power + ((written.length - kept.length : Nat) : Int))

/-- All digits written out, with a point only where a fraction follows. -/
def positional : Binary64 -> List Char
  | .notANumber => "NaN".toList
  | .infinite negative => (if negative then ['-'] else []) ++ "inf".toList
  | .finite negative mantissa exponent =>
      let sign := if negative then ['-'] else []
      if mantissa = 0 then sign ++ ['0'] else
      let (digits, power) := shortest mantissa exponent
      sign ++
        if 0 ≤ power then digits ++ List.replicate power.toNat '0'
        else
          let places := (-power).toNat
          if places < digits.length then
            digits.take (digits.length - places) ++ '.' :: digits.drop (digits.length - places)
          else '0' :: '.' :: (List.replicate (places - digits.length) '0' ++ digits)

/-- Positional from `1e-5` up to `1e16`, always with a point, and with an exponent outside. -/
def scientific : Binary64 -> List Char
  | .finite negative mantissa exponent =>
      let sign := if negative then ['-'] else []
      if mantissa = 0 then sign ++ "0.0".toList else
      let (digits, power) := shortest mantissa exponent
      let point : Int := digits.length + power
      sign ++
        if 0 ≤ power && point ≤ 16 then digits ++ List.replicate power.toNat '0' ++ ".0".toList
        else if 0 < point && point ≤ 16 then
          digits.take point.toNat ++ '.' :: digits.drop point.toNat
        else if -5 < point && point ≤ 0 then
          "0.".toList ++ List.replicate (-point).toNat '0' ++ digits
        else
          let tail := 'e' :: (toString (point - 1)).toList
          match digits with
          | [] => tail
          | [digit] => digit :: tail
          | digit :: more => digit :: '.' :: (more ++ tail)
  | _ => "null".toList

end HttpService.Binary64
