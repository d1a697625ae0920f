import ClassProfile.Decimal.Digits
import ClassProfile.Yaml.Scalar.Basic
import ClassProfile.Yaml.Token.Basic

/-! Timestamps: a day, or a day with a time that may have a fraction of a second and
an offset. -/
namespace ClassProfile.Yaml

structure Timestamp where
  day : Day
  /-- Month and day have two digits each. -/
  isPadded : Bool
  /-- Hour, minute, second, the digits of the fraction, and the offset in minutes. -/
  time? : Option (Nat × Nat × Nat × List Char × Option Int)

/-- A number of at least `least` and at most `most` digits, and the rest. -/
def digits? (least most : Nat) (text : List Char) : Option (Nat × List Char) :=
  let digits := (text.take most).takeWhile Char.isDigit
  if least ≤ digits.length then
    some (Decimal.ofDigits digits, text.drop digits.length)
  else none

/-- The rest of a text after a character that has to stand there. -/
def after? (c : Char) : List Char → Option (List Char)
  | [] => none
  | d :: rest => if c = d then some rest else none

/-- The offset that ends a text, which may be missing. -/
def offset? (text : List Char) : Option (Option Int) :=
  match text with
  | [] => some none
  | _ =>
    match text.dropWhile fun c => c == ' ' || c == '\t' with
    | ['Z'] => some (some 0)
    | sign :: rest =>
      if sign = '+' || sign = '-' then do
        let (hours, rest) ← digits? 1 2 rest
        let minutes ← match rest with
          | [] => some 0
          | _ => do
            let (minutes, rest) ← digits? 2 2 (← after? ':' rest)
            if rest.isEmpty then some minutes else none
        let offset : Int := hours * 60 + minutes
        return some (if sign = '-' then -offset else offset)
      else none
    | [] => none

def timestamp? (text : List Char) : Option Timestamp := do
  let (year, rest) ← digits? 4 4 text
  let (month, afterMonth) ← digits? 1 2 (← after? '-' rest)
  let (day, afterDay) ← digits? 1 2 (← after? '-' afterMonth)
  let date : Day := ⟨year, month, day⟩
  let isPadded := text.length - afterDay.length == 10
  match afterDay with
  | [] => return ⟨date, isPadded, none⟩
  | c :: rest =>
    let start ←
      if c = 'T' || c = 't' then some rest
      else if c = ' ' || c = '\t' then some (rest.dropWhile fun c => c == ' ' || c == '\t')
      else none
    let (hour, rest) ← digits? 1 2 start
    let (minute, rest) ← digits? 2 2 (← after? ':' rest)
    let (second, rest) ← digits? 2 2 (← after? ':' rest)
    let (fraction, rest) := match rest with
      | '.' :: more => (more.takeWhile Char.isDigit, more.dropWhile Char.isDigit)
      | rest => ([], rest)
    let offset? ← offset? rest
    return ⟨date, isPadded, some (hour, minute, second, fraction, offset?)⟩

/-- The value of a timestamp, if day, time and offset are within their ranges. -/
def Timestamp.value (timestamp : Timestamp) : Except Failure Scalar :=
  if !timestamp.day.isValid then .error .badValue
  else match timestamp.time? with
    | none => .ok (.day timestamp.day)
    | some (hour, minute, second, fraction, offset?) =>
      if 23 < hour || 59 < minute || 59 < second || offset?.any (1440 ≤ ·.natAbs) then
        .error .badValue
      else
        let digits := fraction.take 6 ++ List.replicate (6 - fraction.length) '0'
        .ok (.moment ⟨timestamp.day, hour, minute, second, Decimal.ofDigits digits, offset?⟩)

end ClassProfile.Yaml
