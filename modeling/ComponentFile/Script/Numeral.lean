import ComponentFile.Digest
import ComponentFile.Number.Precision

/-!
# Numbers of a script

A number is a double, or a whole number of any size.  It is printed as shortly as the rules below
can, whatever notation it was written in.

* `NumeralForm`, `Numeral` — how a number was written, and which one it is.
* `Numeral.ofDigits` — the value of digits of a base that is a power of two.
* `Numeral.render` — the text of a number.
-/

namespace ComponentFile.Script

open ComponentFile (Binary Decimal Precision Ratio decimalDigits)

/-- How a number is written. -/
inductive NumeralForm where
  | decimal
  | float
  | hex
  | octal
  | binary
  | bigint
deriving DecidableEq, Repr

/-- How messages name a form. -/
def NumeralForm.describe : NumeralForm → String
  | decimal => "decimal"
  | float => "float"
  | hex => "hex"
  | octal => "octal"
  | binary => "binary"
  | bigint => "bigint"

/-- A number. -/
inductive Numeral where
  | finite (value : Binary)
  /-- Beyond the greatest double. -/
  | infinite
  /-- A whole number of any size. -/
  | big (value : Nat)
deriving DecidableEq, Repr

namespace Numeral

/-- The double next to a decimal. -/
def ofDecimal (d : Decimal) : Numeral :=
  match Precision.double.ofDecimal d with
  | some value => .finite value
  | none => .infinite

/-- The double that digits of a base stand for, rounded after each digit. -/
def ofDigits (base : Nat) (digits : List Nat) : Numeral :=
  let step (x : Binary) (digit : Nat) : Option Binary :=
    Precision.double.nearest ⟨x.ratio.num * base + digit * x.ratio.den, x.ratio.den⟩
  match digits.foldlM step Binary.zero with
  | some value => .finite value
  | none => .infinite

/-! ## Printing -/

/-- So many zeros. -/
def zeros (count : Int) : List Char := List.replicate count.toNat '0'

/-- A decimal of which the point stands at most 21 digits behind the first one or 6 zeros in front
of it is written out, another one with an exponent. -/
def plainText (d : Decimal) : List Char :=
  let digits := decimalDigits d.digits
  let place := d.pointPlace
  if d.isZero then ['0']
  else if 0 ≤ d.exponent ∧ place ≤ 21 then digits ++ zeros d.exponent
  else if 0 < place ∧ place ≤ 21 then
    digits.take place.toNat ++ '.' :: digits.drop place.toNat
  else if -6 < place ∧ place ≤ 0 then '0' :: '.' :: zeros (-place) ++ digits
  else
    let fraction := match digits.drop 1 with
      | [] => []
      | rest => '.' :: rest
    digits.take 1 ++ fraction ++ 'e' :: (toString (place - 1)).toList

/-- The shorter one of two texts, the first if they are of one length. -/
def shorter (text candidate : List Char) : List Char :=
  if candidate.length < text.length then candidate else text

/-- The text of a whole number in base sixteen. -/
def hexText (n : Nat) : List Char := '0' :: 'x' :: Nat.toDigits 16 n

/-- A fraction that begins with zeros, with an exponent instead of them. -/
def withoutLeadingZeros (text : List Char) : List Char :=
  match text with
  | '.' :: '0' :: _ =>
    let digits := (text.drop 1).dropWhile (· == '0')
    shorter text (digits ++ 'e' :: '-' :: (toString (text.length - 1)).toList)
  | _ => text

/-- A number that ends in zeros, with an exponent instead of them. -/
def withoutTrailingZeros (text : List Char) : List Char :=
  let digits := (text.reverse.dropWhile (· == '0')).reverse
  let count := text.length - digits.length
  if count = 0 then text else shorter text (digits ++ 'e' :: (toString count).toList)

/-- A number with a point and an exponent, with the point moved to the end. -/
def withoutPoint (text : List Char) : List Char :=
  let whole := text.takeWhile (· != '.')
  let behind := (text.dropWhile (· != '.')).drop 1
  let fraction := behind.takeWhile (· != 'e')
  match behind.dropWhile (· != 'e') with
  | _ :: power =>
    match (String.ofList power).toInt? with
    | some power =>
      let moved := power - fraction.length
      shorter text (whole ++ fraction ++ 'e' :: (toString moved).toList)
    | none => text
  | [] => text

/-- The shortest text of a double among those above.  A whole number below a thousand is written
as it is. -/
def doubleText (value : Binary) : List Char :=
  let plain := plainText (Precision.double.shortest value)
  if value.isWhole && value.floor < 1000 then plain
  else
    let text := match plain with
      | '0' :: '.' :: rest => '.' :: rest
      | text => text
    let hex := hexText value.floor
    if value.isWhole && hex.length < text.length then hex
    else
      let text := if value.isWhole then text else withoutLeadingZeros text
      withoutPoint (withoutTrailingZeros text)

/-- The text of a number. -/
def render : Numeral → String
  | .finite value => String.ofList (doubleText value)
  | .infinite => "Infinity"
  | .big value => toString value ++ "n"

/-- Whether a dot behind a number would be taken for a part of it. -/
def joinsDot : Numeral → Bool
  | .finite value => !(doubleText value).any fun c => c == '.' || c == 'e' || c == 'x'
  | _ => false

end Numeral

end ComponentFile.Script
