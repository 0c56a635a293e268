import HttpService.Bytes
/-! # Points in time

Whole seconds since the first of January 1970, within the years that a date can be written for, and
the moments of a clock, which also have nanoseconds. -/
set_option autoImplicit false

namespace HttpService

/-- A point in time in whole seconds. -/
structure Timestamp where
  seconds : Int
  inRange : -8334601228800 ≤ seconds ∧ seconds ≤ 8210266876799
deriving DecidableEq

namespace Timestamp

def ofSeconds? (seconds : Int) : Option Timestamp :=
  if inRange : -8334601228800 ≤ seconds ∧ seconds ≤ 8210266876799 then some ⟨seconds, inRange⟩
  else none

theorem ofSeconds?_seconds (time : Timestamp) : ofSeconds? time.seconds = some time := by
  simp [ofSeconds?, time.inRange]

instance : Inhabited Timestamp := ⟨⟨0, by decide⟩⟩

/-- Year, month and day of a number of days since the first of January 1970. The count starts anew
on the first of March of each fourth century, so that the leap day ends a year. -/
def civil (days : Int) : Int × Nat × Nat :=
  let shifted := days + 719468
  let era := Int.fdiv shifted 146097
  let dayOfEra := (Int.fmod shifted 146097).toNat
  let yearOfEra :=
    (dayOfEra - dayOfEra / 1460 + dayOfEra / 36524 - dayOfEra / 146096) / 365
  let dayOfYear := dayOfEra - (365 * yearOfEra + yearOfEra / 4 - yearOfEra / 100)
  let monthFromMarch := (5 * dayOfYear + 2) / 153
  let day := dayOfYear - (153 * monthFromMarch + 2) / 5 + 1
  let month := if monthFromMarch < 10 then monthFromMarch + 3 else monthFromMarch - 9
  let year := era * 400 + yearOfEra
  (if month ≤ 2 then year + 1 else year, month, day)

/-- A number with leading zeros up to a width. -/
def digits (width number : Nat) : List Char := zeroPadded width (Nat.toDigits 10 number)

/-- A year: four digits, with a sign and as many digits as needed outside of 0 to 9999. -/
def yearText : Int -> List Char
  | .ofNat year => if year ≤ 9999 then digits 4 year else '+' :: digits 4 year
  | .negSucc before => '-' :: digits 4 (before + 1)

/-- Date and time of day with the offset of universal time. -/
def display (time : Timestamp) : String :=
  let days := Int.fdiv time.seconds 86400
  let second := (Int.fmod time.seconds 86400).toNat
  let (year, month, day) := civil days
  String.ofList (yearText year ++ '-' :: digits 2 month ++ '-' :: digits 2 day ++ 'T' ::
    digits 2 (second / 3600) ++ ':' :: digits 2 (second / 60 % 60) ++ ':' ::
    digits 2 (second % 60) ++ ['+', '0', '0', ':', '0', '0'])

def weekdays : List String := ["Thu", "Fri", "Sat", "Sun", "Mon", "Tue", "Wed"]

def months : List String :=
  ["Jan", "Feb", "Mar", "Apr", "May", "Jun", "Jul", "Aug", "Sep", "Oct", "Nov", "Dec"]

def dateField (time : Timestamp) : String :=
  let days := Int.fdiv time.seconds 86400
  let second := (Int.fmod time.seconds 86400).toNat
  let (year, month, day) := civil days
  let number (width value : Nat) := String.ofList (digits width value)
  weekdays.getD (Int.fmod days 7).toNat "" ++ ", " ++ number 2 day ++ " "
    ++ months.getD (month - 1) "" ++ " " ++ String.ofList (yearText year) ++ " "
    ++ number 2 (second / 3600) ++ ":" ++ number 2 (second / 60 % 60) ++ ":"
    ++ number 2 (second % 60) ++ " GMT"

end Timestamp

/-- What a clock shows: whole seconds and the nanoseconds since. -/
structure Moment where
  seconds : Nat
  nanoseconds : Nat
deriving DecidableEq, Inhabited

namespace Moment

/-- Is the whole second `time` later than this moment moved on by `skew` seconds? -/
def precedes (moment : Moment) (skew : Nat) (time : Int) : Bool :=
  (moment.seconds + skew : Int) * 1000000000 + moment.nanoseconds < time * 1000000000

end Moment

end HttpService
