import ComponentFile.Number.Decimal

/-!
# Binary numbers of a limited precision

Numbers are computed with so many binary digits and no more.  Reading a number takes the nearest
one of that precision; writing it takes the fewest decimal digits from which it is read again.
Both are exact integer arithmetic.

* `Ratio`, `Binary` — a quotient of natural numbers, and `significand · 2 ^ power`.
* `Precision.nearest` — the nearest number of a precision, ties to the even one.
* `Precision.shortest` — the fewest decimal digits that are read back.
-/

namespace ComponentFile

/-- The quotient of two natural numbers. -/
structure Ratio where
  num : Nat
  den : Nat
deriving DecidableEq, Repr

/-- The number `significand · 2 ^ power`. -/
structure Binary where
  significand : Nat
  power : Int
deriving DecidableEq, Repr

namespace Ratio

/-- The ratio times a power of a base. -/
def scale (r : Ratio) (base : Nat) (power : Int) : Ratio :=
  ⟨r.num * Nat.pow base power.toNat, r.den * Nat.pow base (-power).toNat⟩

/-- The nearest natural number, of two equally near ones the even one. -/
def round (r : Ratio) : Nat :=
  let low := r.num / r.den
  let twice := 2 * (r.num % r.den)
  if twice < r.den || (twice == r.den && low % 2 == 0) then low else low + 1

/-- The product of two ratios. -/
def mul (r s : Ratio) : Ratio := ⟨r.num * s.num, r.den * s.den⟩

/-- The quotient of two ratios. -/
def div (r s : Ratio) : Ratio := ⟨r.num * s.den, r.den * s.num⟩

/-- The power of ten above a positive ratio: the least `k` for which it is below `10 ^ k`. -/
def decimalScale (r : Ratio) : Int :=
  let guess : Int := (decimalDigits r.num).length - (decimalDigits r.den).length
  let unit := Ratio.scale ⟨1, 1⟩ 10 guess
  if r.num * unit.den < unit.num * r.den then guess else guess + 1

end Ratio

namespace Binary

/-- Zero. -/
def zero : Binary := ⟨0, 0⟩

/-- The value of a binary number. -/
def ratio (x : Binary) : Ratio := Ratio.scale ⟨x.significand, 1⟩ 2 x.power

/-- Whether a number is whole. -/
def isWhole (x : Binary) : Bool := x.ratio.num % x.ratio.den == 0

/-- The whole part of a number. -/
def floor (x : Binary) : Nat := x.ratio.num / x.ratio.den

end Binary

/-- How precise numbers are: the number of binary digits, and the least and the greatest power of
two that the last of them may stand for. -/
structure Precision where
  bits : Nat
  least : Int
  greatest : Int
deriving DecidableEq, Repr

namespace Precision

/-- Numbers of 64 bits. -/
def double : Precision := ⟨53, -1074, 971⟩

/-- Numbers of 32 bits. -/
def single : Precision := ⟨24, -149, 104⟩

/-- The power of two that the last digit of the nearest number stands for. -/
def lastPower (p : Precision) (r : Ratio) : Int :=
  let guess : Int := (r.num.log2 : Int) - r.den.log2 - p.bits
  let scaled := r.scale 2 (-guess)
  max p.least (if scaled.num / scaled.den < Nat.pow 2 p.bits then guess else guess + 1)

/-- The nearest number of a precision, ties to the even one; `none` beyond the greatest. -/
def nearest (p : Precision) (r : Ratio) : Option Binary :=
  if r.num == 0 then some .zero
  else
    let power := p.lastPower r
    let significand := (r.scale 2 (-power)).round
    let x : Binary :=
      if significand < Nat.pow 2 p.bits then ⟨significand, power⟩
      else ⟨significand / 2, power + 1⟩
    if x.significand == 0 then some .zero else if x.power ≤ p.greatest then some x else none

/-- The nearest number to a decimal without its sign.  Decimals that are far out of range are not
multiplied out. -/
def ofDecimal (p : Precision) (d : Decimal) : Option Binary :=
  if d.isZero || d.pointPlace < -400 then some .zero
  else if d.pointPlace > 400 then none
  else p.nearest (Ratio.scale ⟨d.digits, 1⟩ 10 d.exponent)

/-- Of the decimals of so many digits around a number one that is read back as this number, the
nearer one if both are. -/
def candidate? (p : Precision) (x : Binary) (scale : Int) (count : Nat) : Option Decimal :=
  let exponent := scale - count
  let r := x.ratio.scale 10 (-exponent)
  let low := r.num / r.den
  let isRead (digits : Nat) : Bool := p.ofDecimal ⟨false, digits, exponent⟩ == some x
  let high := low + 1
  let preferred := if r.round == low then [low, high] else [high, low]
  (preferred.find? isRead).map fun digits => ⟨false, digits, exponent⟩

/-- The fewest decimal digits, not ending in a zero, from which a number is read back. -/
def shortest (p : Precision) (x : Binary) : Decimal :=
  if x.significand == 0 then ⟨false, 0, 0⟩
  else
    let scale := x.ratio.decimalScale
    match (List.range' 1 17).findSome? (p.candidate? x scale) with
    | some d => d.stripZeros (decimalDigits d.digits).length
    | none => ⟨false, x.floor, 0⟩

end Precision

end ComponentFile
