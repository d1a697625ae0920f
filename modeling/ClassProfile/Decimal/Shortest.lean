import ClassProfile.Decimal.Binary64
import ClassProfile.Decimal.Digits

/-! The shortest decimal text that reads back as the same number. Among the
shortest the one nearest to the number is taken. Digits are sought on coarser
decimal grids first; on each only the two neighbours of the number matter. -/
namespace ClassProfile.Decimal

/-- The fractions that round to a number, over one denominator: the number
itself, the bounds, and whether the bounds belong. -/
structure Interval where
  value : Nat
  low : Nat
  high : Nat
  denominator : Nat
  closed : Bool

/-- The fractions that round to `mantissa * 2 ^ (exponent - 1074)`. -/
def Interval.of (mantissa exponent : Nat) (narrow : Bool) : Interval :=
  let scale := Nat.pow 2 exponent
  { value := 4 * mantissa * scale
    low := (4 * mantissa - if narrow then 1 else 2) * scale
    high := (4 * mantissa + 2) * scale
    denominator := Nat.pow 2 1076
    closed := mantissa % 2 == 0 }

/-- The fraction lies within the bounds, given over the same denominator. -/
def Interval.contains (i : Interval) (point : Nat) : Bool :=
  if i.closed then decide (i.low ≤ point) && decide (point ≤ i.high)
  else decide (i.low < point) && decide (point < i.high)

/-- Digits and a power of ten. -/
structure Digits where
  digits : Nat
  exponent : Int

/-- The neighbour of the number on the grid of step `10 ^ exponent` that rounds
to it, the nearer if both do, the even one if they are equally near. -/
def Interval.onGrid? (i : Interval) (exponent : Int) : Option Digits :=
  let step := i.denominator * Nat.pow 10 exponent.toNat
  let scale := Nat.pow 10 (-exponent).toNat
  let scaled : Interval :=
    { i with value := i.value * scale, low := i.low * scale, high := i.high * scale }
  let below := scaled.value / step
  let nearer := roundedQuotient scaled.value step
  let other := if nearer = below then below + 1 else below
  if scaled.contains (nearer * step) then some ⟨nearer, exponent⟩
  else if scaled.contains (other * step) then some ⟨other, exponent⟩
  else none

/-- The power of ten of the leading digit of a positive fraction, taken from the
counts of digits above and below the line and so perhaps one too large. -/
def leadingExponent (numerator denominator : Nat) : Int :=
  ((Nat.toDigits 10 numerator).length : Int) - (Nat.toDigits 10 denominator).length

/-- The digits of a whole number without its trailing zeros, which move into the
exponent. -/
def Digits.trimmed (d : Digits) : Nat → Digits
  | 0 => d
  | fuel + 1 =>
    if d.digits ≠ 0 ∧ d.digits % 10 = 0 then
      Digits.trimmed ⟨d.digits / 10, d.exponent + 1⟩ fuel
    else d

/-- The fewest digits that read back. Seventeen always do. -/
def shortest (mantissa exponent : Nat) (narrow : Bool) : Digits :=
  if mantissa = 0 then ⟨0, 0⟩
  else
    let interval := Interval.of mantissa exponent narrow
    let top := leadingExponent interval.value interval.denominator
    match (List.range 20).findSome? fun (n : Nat) => interval.onGrid? (top - n) with
    | some found => found.trimmed 20
    | none => ⟨0, 0⟩

/-- How a number is laid out. -/
structure Layout where
  /-- Positional from this power of ten of the leading digit … -/
  positionalFrom : Int
  /-- … and below this one, scientific otherwise. -/
  positionalBelow : Int
  /-- The least count of digits of a written exponent. -/
  exponentDigits : Nat
  infinity : String
  notANumber : String

/-- Lays out a magnitude: a positional number always has a fraction, a scientific
one has a signed exponent. -/
def Layout.magnitude (layout : Layout) (d : Digits) : String :=
  let digits := Nat.toDigits 10 d.digits
  let point : Int := digits.length + d.exponent
  let zeros (n : Int) : List Char := List.replicate n.toNat '0'
  let chars :=
    if layout.positionalFrom ≤ point - 1 ∧ point - 1 < layout.positionalBelow then
      if point ≤ 0 then '0' :: '.' :: (zeros (-point) ++ digits)
      else if digits.length ≤ point then digits ++ zeros d.exponent ++ ['.', '0']
      else digits.take point.toNat ++ '.' :: digits.drop point.toNat
    else
      let fraction := if digits.length = 1 then [] else '.' :: digits.drop 1
      digits.take 1 ++ fraction ++ 'e' :: (if point ≤ 0 then '-' else '+') ::
        padded layout.exponentDigits (point - 1).natAbs
  String.ofList chars

/-- The shortest text of a number in a layout. -/
def Layout.text (layout : Layout) (number : Float) : String :=
  let signed (negative : Bool) (text : String) : String :=
    if negative then "-" ++ text else text
  match Stored.ofBits number.toBits.toNat with
  | .notANumber => layout.notANumber
  | .infinite negative => signed negative layout.infinity
  | .finite negative mantissa exponent narrow =>
    signed negative (layout.magnitude (shortest mantissa exponent narrow))

/-- Positional from a ten-thousandth to below ten to the sixteenth. -/
def plainLayout : Layout := ⟨-4, 16, 2, "inf", "nan"⟩

end ClassProfile.Decimal
