import ClassProfile.Decimal.Digits
import ClassProfile.Decimal.Shortest
import ClassProfile.Text.Quoted

/-! Scalar values, as they serve for keys and as they are shown in messages. Truth
values and numbers of either sort are compared as numbers, moments with an offset by
the instant they name, and what is no number as an object. -/
namespace ClassProfile.Yaml

structure Day where
  year : Nat
  month : Nat
  day : Nat
  deriving DecidableEq

/-- A time of a day, perhaps with its offset in minutes. -/
structure Moment where
  day : Day
  hour : Nat
  minute : Nat
  second : Nat
  microsecond : Nat
  offset? : Option Int
  deriving DecidableEq

inductive Scalar where
  | null
  | bool (value : Bool)
  | int (value : Int)
  | float (value : Float)
  /-- The floating-point value that is no number; there are many objects with it. -/
  | notANumber (object : Nat)
  | text (value : String)
  | day (value : Day)
  | moment (value : Moment)
  | bytes (value : List UInt8)

/-- The days before the first of January of a year. -/
def daysBeforeYear (year : Nat) : Nat :=
  let past := year - 1
  past * 365 + past / 4 - past / 100 + past / 400

def isLeapYear (year : Nat) : Bool :=
  year % 4 == 0 && (year % 100 != 0 || year % 400 == 0)

def daysInMonth (year month : Nat) : Nat :=
  if month = 2 then (if isLeapYear year then 29 else 28)
  else if [4, 6, 9, 11].contains month then 30
  else 31

/-- The day is one of the calendar, which has years of up to four digits. -/
def Day.isValid (day : Day) : Bool :=
  decide (1 ≤ day.year) && decide (1 ≤ day.month) && decide (day.month ≤ 12) &&
    decide (1 ≤ day.day) && decide (day.day ≤ daysInMonth day.year day.month)

/-- The number of a day, counted on from the beginning of the calendar. -/
def Day.number (day : Day) : Nat :=
  let months := (List.range (day.month - 1)).map fun past => daysInMonth day.year (past + 1)
  daysBeforeYear day.year + months.foldl (· + ·) 0 + day.day

/-- The instant that a moment names, in microseconds, were it without an offset. -/
def Moment.instant (moment : Moment) : Int :=
  let minutes : Int := (moment.day.number * 24 + moment.hour) * 60 + moment.minute
  ((minutes - moment.offset?.getD 0) * 60 + moment.second) * 1000000 + moment.microsecond

/-- A number with leading zeros up to a width. -/
def padded (width n : Nat) : String := String.ofList (Decimal.padded width n)

def Day.shown (day : Day) : String :=
  padded 4 day.year ++ "-" ++ padded 2 day.month ++ "-" ++ padded 2 day.day

/-- A moment as it is shown, without a fraction of a second if that is zero. -/
def Moment.shown (moment : Moment) : String :=
  let time := padded 2 moment.hour ++ ":" ++ padded 2 moment.minute ++ ":" ++
    padded 2 moment.second
  let fraction := if moment.microsecond = 0 then "" else "." ++ padded 6 moment.microsecond
  let offset := match moment.offset? with
    | none => ""
    | some offset =>
      let minutes := offset.natAbs
      (if offset < 0 then "-" else "+") ++ padded 2 (minutes / 60) ++ ":" ++
        padded 2 (minutes % 60)
  moment.day.shown ++ " " ++ time ++ fraction ++ offset

/-- Bytes as they are shown: in quotes, and by number outside of ASCII. -/
def shownBytes (bytes : List UInt8) : String :=
  let text := bytes.map fun byte => Char.ofNat byte.toNat
  let quote := Text.quoteFor text
  let shown (c : Char) : List Char :=
    if c.toNat < 128 then Text.shown quote c else '\\' :: 'x' :: Text.hexDigits 2 c.toNat
  String.ofList ('b' :: quote :: text.flatMap shown ++ [quote])

namespace Scalar

/-- The value as it is shown in a message, which a whole number of too many digits is
not. -/
def shown? : Scalar → Option String
  | null => some "None"
  | bool true => some "True"
  | bool false => some "False"
  | int value => if value.natAbs < Decimal.firstOverlong then some (toString value) else none
  | float value => some (Decimal.plainLayout.text value)
  | notANumber _ => some Decimal.plainLayout.notANumber
  | text value => some value
  | day value => some value.shown
  | moment value => some value.shown
  | bytes value => some (shownBytes value)

/-- The number that a scalar counts as. -/
def whole? : Scalar → Option Int
  | bool value => some (if value then 1 else 0)
  | int value => some value
  | _ => none

/-- The whole number and the floating-point number are equal. -/
def equalsFloat (whole : Int) (number : Float) : Bool :=
  match Decimal.Stored.ofBits number.toBits.toNat with
  | .finite negative mantissa exponent _ =>
    let magnitude : Int := mantissa * Nat.pow 2 exponent
    whole * Nat.pow 2 1074 == if negative then -magnitude else magnitude
  | _ => false

/-- The two are one key of a mapping: they are equal, or one object. -/
def sameKey (s t : Scalar) : Bool :=
  match s, t with
  | null, null => true
  | text a, text b => a == b
  | day a, day b => a == b
  | moment a, moment b =>
    a.offset?.isSome == b.offset?.isSome && a.instant == b.instant
  | bytes a, bytes b => a == b
  | notANumber a, notANumber b => a == b
  | float a, float b => a == b
  | float a, other => other.whole?.any (equalsFloat · a)
  | other, float b => other.whole?.any (equalsFloat · b)
  | a, b => a.whole?.isSome && a.whole? == b.whole?

end Scalar
end ClassProfile.Yaml
