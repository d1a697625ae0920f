import ClassProfile.Decimal.Binary64
import ClassProfile.Decimal.Digits
import ClassProfile.Text.Blank
import ClassProfile.Text.DecimalDigit
import ClassProfile.Text.Hex
import ClassProfile.Text.Separation
import ClassProfile.Yaml.Token.Basic

/-! Numbers of plain scalars: whole ones in four notations and to the base of sixty,
others in decimal and to that base. Low lines between digits do not count. -/
namespace ClassProfile.Yaml

/-- A blank that may stand around a number. The separators of ASCII may not. -/
def isPadding (c : Char) : Bool :=
  Text.isBlank c && !(decide (0x1C ≤ c.toNat) && decide (c.toNat ≤ 0x1F))

/-- The text without blanks at its ends, and with the digits of ASCII for those of
any script. -/
def trimmed (text : List Char) : List Char :=
  (((text.dropWhile isPadding).reverse.dropWhile isPadding).reverse).map Text.asciiDigit

def splitSign : List Char → Bool × List Char
  | '-' :: rest => (true, rest)
  | '+' :: rest => (false, rest)
  | text => (false, text)

/-- So many digits to the base are too many. The bases that are powers of two have no
limit. -/
def isOverlong (base count : Nat) : Bool := base == 10 && decide (Decimal.mostDigits < count)

/-- The whole number that digits to a base denote; there may be a sign, and the mark
of the base before the digits. -/
def wholeIn (base : Nat) (mark : Option Char) (text : List Char) : Except Failure Int :=
  let (negative, unsigned) := splitSign (trimmed text)
  let digits := match unsigned, mark with
    | '0' :: letter :: rest, some c => if letter = c || letter = c.toUpper then rest else unsigned
    | _, _ => unsigned
  let value := digits.foldlM (fun n c => do
    let digit ← Text.hexValue? c
    if digit < base then some (n * base + digit) else none) 0
  match value with
  | some n =>
    if digits.isEmpty || isOverlong base digits.length then .error .badValue
    else .ok (if negative then -n else n)
  | none => .error .badValue

/-- The number whose digits to the base of sixty are given, the highest first. -/
def sexagesimal (digits : List Int) : Int :=
  digits.foldl (fun total digit => total * 60 + digit) 0

/-- The whole number that a scalar denotes. A leading zero means base eight. -/
def wholeNumber (text : List Char) : Except Failure Int := do
  let plain := text.filter (· != '_')
  if plain.isEmpty then .error .emptyNumber
  else
    let (negative, unsigned) := splitSign plain
    let magnitude ← match unsigned with
      | [] => .error .emptyNumber
      | ['0'] => .ok 0
      | '0' :: 'b' :: digits => wholeIn 2 (some 'b') digits
      | '0' :: 'x' :: digits => wholeIn 16 (some 'x') digits
      | '0' :: _ => wholeIn 8 (some 'o') unsigned
      | _ => ((Text.parts ':' unsigned).mapM (wholeIn 10 none)).map sexagesimal
    return if negative then -magnitude else magnitude

def decimalNumber (text : List Char) : Except Failure Float :=
  let (negative, unsigned) := splitSign (trimmed text)
  let signed (magnitude : Float) : Float := if negative then -magnitude else magnitude
  let word := String.ofList (unsigned.map Char.toLower)
  if word == "inf" || word == "infinity" then .ok (signed (1 / 0))
  else if word == "nan" then .ok (0 / 0)
  else
    let whole := unsigned.takeWhile Char.isDigit
    let (fraction, exponent) := match unsigned.drop whole.length with
      | '.' :: rest => (rest.takeWhile Char.isDigit, rest.dropWhile Char.isDigit)
      | rest => ([], rest)
    let power? : Option Int := match exponent with
      | [] => some 0
      | mark :: rest =>
        let (below, digits) := splitSign rest
        if (mark = 'e' || mark = 'E') && !digits.isEmpty && digits.all Char.isDigit then
          let n : Int := Decimal.ofDigits digits
          some (if below then -n else n)
        else none
    let digits := whole ++ fraction
    match power? with
    | some power =>
      if digits.isEmpty then .error .badValue
      else
        .ok (signed (Decimal.nearest (Decimal.ofDigits digits) (power - fraction.length)))
    | none => .error .badValue

/-- Adds digits to the base of sixty to a total, the lowest first; the lowest counts
`base` times. A digit that counts more often than any number is out of range. -/
def addSexagesimal (base : Nat) (total : Float) : List Float → Except Failure Float
  | [] => .ok total
  | digit :: higher =>
    let weight := Decimal.nearest base 0
    if weight.isInf then .error .overflow
    else addSexagesimal (base * 60) (total + digit * weight) higher

/-- The characters of a number that count, in lower case. -/
def plainCharacters (text : List Char) : List Char :=
  (text.filter (· != '_')).map Char.toLower

/-- The word for what is no number, perhaps with a sign. -/
def isNanWord (text : List Char) : Bool :=
  String.ofList (splitSign (plainCharacters text)).2 == ".nan"

def floatNumber (text : List Char) : Except Failure Float := do
  let plain := plainCharacters text
  if plain.isEmpty then .error .emptyNumber
  else
    let (negative, unsigned) := splitSign plain
    if isNanWord text then return 0 / 0
    else
      let magnitude ←
        if String.ofList unsigned == ".inf" then .ok (1 / 0)
        else match Text.parts ':' unsigned with
          | [single] => decimalNumber single
          | parts => do
            let digits ← parts.mapM decimalNumber
            addSexagesimal 1 0 digits.reverse
      return if negative then -magnitude else magnitude

end ClassProfile.Yaml
