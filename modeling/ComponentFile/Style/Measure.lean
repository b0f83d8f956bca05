import ComponentFile.Number.Precision
import ComponentFile.Style.Identifier
import ComponentFile.Style.Token

/-!
# Numbers of a stylesheet

Stylesheets compute with numbers of 32 bits, the greatest of which stands for all that are too
large.  They are printed with at most six significant digits; a number below one has no zero in
front of its point.

* `Measure` — a number with its sign; `Numeral.measure`, `Numeral.part` — the value of a number and
  of a percentage as it is written.
* `Measure.value`, `Measure.ofRat` — its exact value, and the number nearest to a value.
* `Measure.plain`, `Measure.short` — a number as text, with and without the zero in front of the
  point; `Measure.exact` — with all its digits, as messages show it.
* `Numeral.token`, `dimensionText`, `percentageText`, `timeText` — numbers with what follows them.
-/

namespace ComponentFile.Style

open ComponentFile (Decimal Binary Ratio Precision decimalDigits decimalDigitValue digitsNumber)

/-- A number of 32 bits with its sign. -/
structure Measure where
  negative : Bool
  size : Binary
deriving DecidableEq, Repr

/-! ## Values -/

/-- The power of ten that the text of an exponent stands for. -/
def exponentValue (text : List Char) : Int :=
  let value (digits : List Char) : Int := digitsNumber 10 (digits.map decimalDigitValue)
  match text.drop 1 with
  | '-' :: digits => -value digits
  | '+' :: digits => value digits
  | digits => value digits

/-- The decimal number that is written. -/
def Numeral.decimal (n : Numeral) : Decimal :=
  Decimal.ofParts (n.sign == some '-') n.whole n.fraction (exponentValue n.exponent)

/-- The greatest number of 32 bits. -/
def Measure.greatest : Binary := ⟨Nat.pow 2 24 - 1, 104⟩

/-- The number of 32 bits that is nearest to a decimal one. -/
def Measure.ofDecimal (d : Decimal) : Measure :=
  ⟨d.negative, (Precision.single.ofDecimal d).getD greatest⟩

/-- The value of a number. -/
def Numeral.measure (n : Numeral) : Measure := .ofDecimal n.decimal

/-- The value of a percentage, of which a hundred make one. -/
def Numeral.part (n : Numeral) : Measure :=
  .ofDecimal { n.decimal with exponent := n.decimal.exponent - 2 }

/-- The greatest integer that is kept; greater ones are replaced by it. -/
def greatestInteger : Nat := 2147483647

/-- The integer that is written, if there is neither a point nor an exponent. -/
def Numeral.integer? (n : Numeral) : Option Int :=
  if n.fraction.isEmpty && n.exponent.isEmpty then
    let size := digitsNumber 10 (n.whole.map decimalDigitValue)
    some (if n.sign == some '-' then -(min size (greatestInteger + 1) : Nat)
      else (min size greatestInteger : Nat))
  else none

namespace Measure

/-- The number without its sign. -/
def magnitude (x : Measure) : Rat := mkRat x.size.ratio.num x.size.ratio.den

/-- The number as a fraction. -/
def value (x : Measure) : Rat := if x.negative then -x.magnitude else x.magnitude

/-- The number that is nearest to a fraction. -/
def ofRat (q : Rat) : Measure :=
  ⟨q.num < 0, (Precision.single.nearest ⟨q.num.natAbs, q.den⟩).getD greatest⟩

/-- Whether a number is zero, of either sign. -/
def isZero (x : Measure) : Bool := x.size.significand == 0

/-- Whether a number is below zero. -/
def isNegative (x : Measure) : Bool := x.negative && !x.isZero

/-- Whether a number is nearer to zero than a fraction. -/
def isSmallerThan (x : Measure) (q : Rat) : Bool := x.magnitude < q

/-- Whether a number is an integer. -/
def isWhole (x : Measure) : Bool := x.size.isWhole

/-- The product of a number and a positive fraction. -/
def times (x : Measure) (q : Rat) : Measure :=
  { x with size := (ofRat (x.magnitude * q)).size }

/-- The sum of two numbers. -/
def add (x y : Measure) : Measure := ofRat (x.value + y.value)

/-- The product of two numbers. -/
def mul (x y : Measure) : Measure := ofRat (x.value * y.value)

/-- One divided by a number other than zero. -/
def inverse (x : Measure) : Measure := ofRat (1 / x.value)

/-- The number with the opposite sign. -/
def neg (x : Measure) : Measure := { x with negative := !x.negative }

end Measure

/-! ## Text -/

/-- A decimal number with at most so many digits; a half is rounded up. -/
def significant (count : Nat) (d : Decimal) : Decimal :=
  let excess := (decimalDigits d.digits).length - count
  let unit := Nat.pow 10 excess
  let rounded : Decimal :=
    { d with digits := (d.digits + unit / 2) / unit, exponent := d.exponent + excess }
  if excess = 0 then d else rounded.stripZeros (count + 1)

/-- Zeros in a row. -/
def zeros (count : Nat) : List Char := List.replicate count '0'

/-- The digits of a decimal number with its point among them. -/
def positionalDigits (d : Decimal) : List Char :=
  let digits := decimalDigits d.digits
  if d.exponent ≥ 0 then digits ++ zeros d.exponent.toNat
  else if d.pointPlace > 0 then
    digits.take d.pointPlace.toNat ++ '.' :: digits.drop d.pointPlace.toNat
  else '0' :: '.' :: zeros (-d.pointPlace).toNat ++ digits

/-- The digits of a decimal number with the point behind the first one, and a power of ten. -/
def exponentDigits (d : Decimal) : List Char :=
  let power := (toString (d.pointPlace - 1)).toList
  match decimalDigits d.digits with
  | [] => []
  | [digit] => digit :: 'e' :: power
  | digit :: rest => digit :: '.' :: rest ++ 'e' :: power

/-- The digits that a number is printed with. -/
def Measure.digits (x : Measure) : List Char :=
  let d := significant 6 (Precision.single.shortest x.size)
  if d.isZero then ['0']
  else if d.pointPlace ≤ 21 && d.pointPlace > -6 then positionalDigits d
  else exponentDigits d

/-- A number as text. -/
def Measure.plain (x : Measure) : String :=
  String.ofList (if x.isNegative then '-' :: x.digits else x.digits)

/-- A number as text without a zero in front of its point. -/
def Measure.short (x : Measure) : String :=
  let digits := match x.digits with
    | '0' :: '.' :: rest => '.' :: rest
    | digits => digits
  String.ofList (if x.isNegative then '-' :: digits else digits)

/-- A number with all its digits and always with a point, or in powers of ten when it is very large
or very small. -/
def Measure.exact (x : Measure) : String :=
  let d := Precision.single.shortest x.size
  let digits :=
    if d.isZero then ['0', '.', '0']
    else if d.pointPlace > 16 || d.pointPlace < -3 then exponentDigits d
    else if d.exponent ≥ 0 then positionalDigits d ++ ['.', '0']
    else positionalDigits d
  String.ofList (if x.negative then '-' :: digits else digits)

/-- A number as a token: its sign is kept, and so is a point that only zeros follow. -/
def tokenText (hasSign isInteger : Bool) (x : Measure) : String :=
  let sign := if x.negative then "-" else if hasSign then "+" else ""
  let hasMark := x.digits.any fun c => c == '.' || c == 'e'
  sign ++ String.ofList x.digits ++ (if !isInteger && x.isWhole && !hasMark then ".0" else "")

/-- A number as a token. -/
def Numeral.token (n : Numeral) : String :=
  tokenText n.sign.isSome n.integer?.isSome n.measure

/-- A percentage as a token. -/
def Numeral.percentToken (n : Numeral) : String :=
  tokenText n.sign.isSome n.integer?.isSome (n.part.times 100) ++ "%"

/-- A unit behind a number; one that looks like an exponent begins with an escape. -/
def writeUnit (unit : String) : String :=
  match unit.toList with
  | [e] => if e == 'e' || e == 'E' then "\\65 " else writeIdentifier unit
  | e :: '-' :: rest =>
    if e == 'e' || e == 'E' then "\\65 " ++ String.ofList (('-' :: rest).flatMap escapeInName)
    else writeIdentifier unit
  | _ => writeIdentifier unit

/-- A number with a unit as a token. -/
def Numeral.dimensionToken (n : Numeral) (unit : String) : String := n.token ++ writeUnit unit

/-- A number in front of a unit: a moderate integer has all its digits there. -/
def Measure.beforeUnit (x : Measure) : String :=
  if x.isWhole && x.size.floor ≤ greatestInteger then
    (if x.negative then "-" else "") ++ String.ofList (decimalDigits x.size.floor)
  else x.short

/-- A number with its unit. -/
def dimensionText (x : Measure) (unit : String) : String := x.beforeUnit ++ writeUnit unit

/-- A part of a whole as a percentage. -/
def percentageText (part : Measure) : String :=
  let x := part.times 100
  (if x.isZero && x.negative then "-0"
    else if part.isSmallerThan (1 / 100) then x.short else x.plain) ++ "%"

/-- A time in the shorter of its two units. -/
def timeText (x : Measure) (inSeconds : Bool) : String :=
  if inSeconds then
    if !x.negative && !x.isZero && x.isSmallerThan (1 / 10) then (x.times 1000).short ++ "ms"
    else x.short ++ "s"
  else if x.isZero || (!x.negative && !x.isSmallerThan 100) then (x.times (1 / 1000)).short ++ "s"
  else x.short ++ "ms"

/-! ## Units -/

/-- Units of length that do not depend on a viewport. -/
def plainLengths : List String :=
  ["px", "in", "cm", "mm", "q", "pt", "pc", "em", "rem", "ex", "rex", "ch", "rch", "cap", "rcap",
   "ic", "ric", "lh", "rlh"]

/-- The sides of a viewport or a container that lengths are measured by. -/
def viewportSides : List String := ["w", "h", "i", "b", "min", "max"]

/-- The units of length. -/
def lengthUnits : List String :=
  plainLengths ++ ["v", "lv", "sv", "dv", "cq"].flatMap fun view =>
    viewportSides.map fun side => view ++ side

/-- Half the circumference of the unit circle, as a number of 32 bits. -/
def halfTurn : Measure := .ofRat (mkRat 13176795 4194304)

/-- Degrees in an angle that is given in radians. -/
def degreesOfRadians (x : Measure) : Measure :=
  .ofRat ((Measure.ofRat (x.value * 180)).value / halfTurn.value)

/-- An angle.  Radians are written as degrees where these need few digits. -/
def angleText (x : Measure) (unit : String) : String :=
  let degrees := degreesOfRadians x
  if unit == "rad" && (Measure.ofRat (degrees.value * 100000)).isWhole then
    dimensionText degrees "deg"
  else dimensionText x unit

/-- The units of angle. -/
def angleUnits : List String := ["deg", "grad", "rad", "turn"]

/-- The text of a number with a unit: known units are written in lower case, and a time in the
shorter one. -/
def writeDimension (n : Numeral) (unit : String) : String :=
  let x := n.measure
  let lowered := unit.toLower
  if lengthUnits.contains lowered then dimensionText x lowered
  else if angleUnits.contains lowered then angleText x lowered
  else if lowered == "s" then timeText x true
  else if lowered == "ms" then timeText x false
  else if lowered == "dpi" || lowered == "dpcm" then dimensionText x lowered
  else if lowered == "dppx" || lowered == "x" then dimensionText x "x"
  else dimensionText x unit

end ComponentFile.Style
