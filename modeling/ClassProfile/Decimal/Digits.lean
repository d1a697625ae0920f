/-! Decimal digits of ASCII and the numbers they stand for. -/
namespace ClassProfile.Decimal

/-- Whole numbers of more digits are neither read from decimal nor shown in it. -/
def mostDigits : Nat := 4300

/-- The least number of too many digits. -/
def firstOverlong : Nat := Nat.pow 10 mostDigits

/-- The number that a run of digits stands for, which is zero if there are none. -/
def ofDigits (digits : List Char) : Nat :=
  digits.foldl (fun n c => 10 * n + (c.toNat - 48)) 0

/-- The digits of a number, with leading zeros up to a width. -/
def padded (width n : Nat) : List Char :=
  let digits := Nat.toDigits 10 n
  List.replicate (width - digits.length) '0' ++ digits

end ClassProfile.Decimal
