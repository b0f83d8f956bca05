/-!
# Decimal numbers

A number as it is written: a sign, digits and a power of ten.

* `Decimal` — the number `± digits · 10 ^ exponent`.
* `Decimal.digitTexts` — its digits, and where the point stands among them.
-/

namespace ComponentFile

/-- The number `± digits · 10 ^ exponent`. -/
structure Decimal where
  negative : Bool
  digits : Nat
  exponent : Int
deriving DecidableEq, Repr

/-- The decimal digits of a natural number. -/
def decimalDigits (n : Nat) : List Char := Nat.toDigits 10 n

/-- The number that a row of digits of a base stands for. -/
def digitsNumber (base : Nat) (digits : List Nat) : Nat := digits.foldl (fun n d => n * base + d) 0

/-- The value of a decimal digit. -/
def decimalDigitValue (c : Char) : Nat := c.toNat - '0'.toNat

namespace Decimal

/-- Whether a number is zero, of either sign. -/
def isZero (d : Decimal) : Bool := d.digits == 0

/-- Where the point stands, counted from the first digit. -/
def pointPlace (d : Decimal) : Int := (decimalDigits d.digits).length + d.exponent

/-- The number with its last zeros, at most `limit` of them, moved into the power of ten. -/
def stripZeros : (limit : Nat) → Decimal → Decimal
  | 0, d => d
  | limit + 1, d =>
    if d.digits != 0 && d.digits % 10 == 0 then
      stripZeros limit { d with digits := d.digits / 10, exponent := d.exponent + 1 }
    else d

/-- The number that whole digits, digits behind the point and a power of ten stand for. -/
def ofParts (negative : Bool) (whole fraction : List Char) (power : Int) : Decimal where
  negative := negative
  digits := digitsNumber 10 ((whole ++ fraction).map decimalDigitValue)
  exponent := power - fraction.length

end Decimal

end ComponentFile
