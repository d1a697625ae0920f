/-! Binary floating point in 64 bits, between its stored form and exact fractions.
A finite magnitude is `mantissa * 2 ^ (exponent - 1074)`, so that a mantissa
that overflows by rounding carries into the exponent of the stored form. -/
namespace ClassProfile.Decimal

/-- What a stored number stands for. -/
inductive Stored where
  | notANumber
  | infinite (negative : Bool)
  /-- The magnitude is `mantissa * 2 ^ (exponent - 1074)`; `narrow` tells that
  the next number towards zero is at half the distance of the other neighbour. -/
  | finite (negative : Bool) (mantissa exponent : Nat) (narrow : Bool)

/-- Takes the stored form apart. -/
def Stored.ofBits (bits : Nat) : Stored :=
  let negative := decide (Nat.pow 2 63 ≤ bits)
  let exponent := bits / Nat.pow 2 52 % Nat.pow 2 11
  let fraction := bits % Nat.pow 2 52
  if exponent = 2047 then
    if fraction = 0 then .infinite negative else .notANumber
  else if exponent = 0 then .finite negative fraction 0 false
  else
    .finite negative (Nat.pow 2 52 + fraction) (exponent - 1) (fraction = 0 && exponent != 1)

/-- The quotient rounded to a whole number, a half to the even neighbour. -/
def roundedQuotient (numerator denominator : Nat) : Nat :=
  let quotient := numerator / denominator
  let twice := 2 * (numerator % denominator)
  if twice < denominator ∨ (twice = denominator ∧ quotient % 2 = 0) then quotient
  else quotient + 1

/-- The stored form of the number nearest to a fraction. -/
def nearestBits (numerator denominator : Nat) : Nat :=
  if numerator = 0 then 0
  else
    let scaled := numerator * Nat.pow 2 1074
    let exponent := (scaled / denominator).log2 - 52
    let bits :=
      exponent * Nat.pow 2 52 + roundedQuotient scaled (denominator * Nat.pow 2 exponent)
    min bits (2047 * Nat.pow 2 52)

/-- The number nearest to `digits * 10 ^ exponent`, which is infinite or zero
where the exponent leaves no other choice. -/
def nearest (digits : Nat) (exponent : Int) : Float :=
  let size := (Nat.toDigits 10 digits).length
  let bits :=
    if digits = 0 ∨ exponent + size < -330 then 0
    else if 330 < exponent + size then 2047 * Nat.pow 2 52
    else if 0 ≤ exponent then nearestBits (digits * Nat.pow 10 exponent.toNat) 1
    else nearestBits digits (Nat.pow 10 (-exponent).toNat)
  Float.ofBits (UInt64.ofNat bits)

end ClassProfile.Decimal
