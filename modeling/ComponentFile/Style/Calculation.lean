import ComponentFile.Style.Measure
import ComponentFile.Style.Piece

/-!
# Quantities and calculations

A quantity is a number with what it counts.  It is written as one token or as a calculation, which
is worked out where all that it adds and compares counts the same.

* `Quantity` — a number, a share or a number with a unit.
* `Quantity.read?` — reads one token or a calculation.
* `sumIn`, `productIn`, `factorIn` — the grammar of calculations.
-/

namespace ComponentFile.Style

/-- A number with what it counts: nothing for a plain number, `%` for a share of which a hundred
make one, or a unit in lower case. -/
structure Quantity where
  size : Measure
  unit : String
deriving DecidableEq, Repr

namespace Quantity

/-- The quantity that is a plain number. -/
def number (x : Measure) : Quantity := ⟨x, ""⟩

/-- Whether a quantity is a plain number. -/
def isNumber (q : Quantity) : Bool := q.unit.isEmpty

/-- How many pixels an absolute unit of length has. -/
def pixels? (unit : String) : Option Rat :=
  match unit with
  | "px" => some 1
  | "in" => some 96
  | "cm" => some (96 / (254 / 100))
  | "mm" => some (96 / (254 / 10))
  | "q" => some (96 / (1016 / 10))
  | "pt" => some (96 / 72)
  | "pc" => some (96 / 6)
  | _ => none

/-- A length in pixels, if its unit is an absolute one. -/
def inPixels? (q : Quantity) : Option Quantity :=
  (pixels? q.unit).map fun factor => ⟨.ofRat (q.size.value * factor), "px"⟩

/-- Two quantities that count the same. -/
def aligned? (q r : Quantity) : Option (Quantity × Quantity) :=
  if q.unit == r.unit then some (q, r)
  else do return (← q.inPixels?, ← r.inPixels?)

/-- The sum of two quantities that count the same. -/
def add? (q r : Quantity) : Option Quantity := do
  let (q, r) ← q.aligned? r
  return ⟨q.size.add r.size, q.unit⟩

/-- A multiple of a quantity. -/
def scale (q : Quantity) (x : Measure) : Quantity := { q with size := q.size.mul x }

/-- The product of two quantities, one of which is a plain number. -/
def mul? (q r : Quantity) : Option Quantity :=
  if r.isNumber then some (q.scale r.size)
  else if q.isNumber then some (r.scale q.size)
  else none

/-- The quotient by a plain number other than zero. -/
def div? (q r : Quantity) : Option Quantity :=
  if r.isNumber && !r.size.isZero then some (q.scale r.size.inverse) else none

/-- Whether a quantity is less than another one that counts the same. -/
def less? (q r : Quantity) : Option Bool := do
  let (q, r) ← q.aligned? r
  return q.size.value < r.size.value

/-- The lesser of two quantities. -/
def min? (q r : Quantity) : Option Quantity := do return if ← less? r q then r else q

/-- The greater of two quantities. -/
def max? (q r : Quantity) : Option Quantity := do return if ← less? q r then r else q

/-- The quantity that a token stands for. -/
def ofToken? : Token → Option Quantity
  | .number n => some (number n.measure)
  | .percentage n => some ⟨n.part, "%"⟩
  | .dimension n unit =>
    let known := lengthUnits ++ angleUnits ++ ["s", "ms", "dpi", "dpcm", "dppx", "x"]
    if known.contains unit.toLower then some ⟨n.measure, unit.toLower⟩ else none
  | _ => none

/-- The value of a function of quantities. -/
def ofCall? : (name : String) → List Quantity → Option Quantity
  | "calc", [q] => some q
  | "min", q :: rest => rest.foldlM min? q
  | "max", q :: rest => rest.foldlM max? q
  | "clamp", [low, q, high] => do max? low (← min? q high)
  | "abs", [q] => some { q with size := { q.size with negative := false } }
  | _, _ => none

end Quantity

/-- The functions that calculations are written with. -/
def isCalculation (name : String) : Bool := ["calc", "min", "max", "clamp", "abs"].contains name

mutual

/-- Reads a sum.  Blanks stand around its signs. -/
def sumIn : (limit : Nat) → Pieces → Option (Quantity × Pieces)
  | 0, _ => none
  | limit + 1, input => do
    let (first, rest) ← productIn limit input
    termsIn limit first rest

/-- Adds further terms. -/
def termsIn : (limit : Nat) → Quantity → Pieces → Option (Quantity × Pieces)
  | 0, _, _ => none
  | limit + 1, total, input =>
    match input.here?, input.next? with
    | some (gap, _), some (sign, rest) =>
      if gap.isBlank && sign.isDelim '+' then do
        let (term, rest) ← productIn limit rest
        termsIn limit (← total.add? term) rest
      else if gap.isBlank && sign.isDelim '-' then do
        let (term, rest) ← productIn limit rest
        termsIn limit (← total.add? { term with size := term.size.neg }) rest
      else some (total, input)
    | _, _ => some (total, input)

/-- Reads a product. -/
def productIn : (limit : Nat) → Pieces → Option (Quantity × Pieces)
  | 0, _ => none
  | limit + 1, input => do
    let (first, rest) ← factorIn limit input
    factorsIn limit first rest

/-- Multiplies by further factors, and divides. -/
def factorsIn : (limit : Nat) → Quantity → Pieces → Option (Quantity × Pieces)
  | 0, _, _ => none
  | limit + 1, product, input =>
    match input.next? with
    | none => some (product, input)
    | some (sign, rest) =>
      if sign.isDelim '*' then do
        let (factor, rest) ← factorIn limit rest
        factorsIn limit (← product.mul? factor) rest
      else if sign.isDelim '/' then do
        let (factor, rest) ← factorIn limit rest
        factorsIn limit (← product.div? factor) rest
      else some (product, input)

/-- Reads a token, a sum in brackets or a function. -/
def factorIn : (limit : Nat) → Pieces → Option (Quantity × Pieces)
  | 0, _ => none
  | limit + 1, input => do
    let (piece, rest) ← input.next?
    match piece with
    | .token lexeme => return (← Quantity.ofToken? lexeme.token, rest)
    | .block opener body stop _ =>
      match opener.token with
      | .opening .round => return (← wholeSum limit ⟨body, stop⟩, rest)
      | .function name =>
        let arguments ← sumsIn limit ((⟨body, stop⟩ : Pieces).splitAt Piece.isComma)
        return (← Quantity.ofCall? name.toLower arguments, rest)
      | _ => none

/-- Reads a sum that takes up all of some pieces. -/
def wholeSum : (limit : Nat) → Pieces → Option Quantity
  | 0, _ => none
  | limit + 1, input => do
    let (total, rest) ← sumIn limit input
    if rest.isDone then some total else none

/-- Reads the arguments of a function. -/
def sumsIn : (limit : Nat) → List Pieces → Option (List Quantity)
  | 0, _ => none
  | _ + 1, [] => some []
  | limit + 1, part :: rest => do return (← wholeSum limit part) :: (← sumsIn limit rest)

end

/-- Reads a quantity: one token, or a calculation. -/
def Quantity.read? (input : Pieces) : Option (Quantity × Pieces) := do
  let (piece, rest) ← input.next?
  match piece with
  | .token lexeme => return (← ofToken? lexeme.token, rest)
  | .block opener _ _ _ =>
    match opener.token with
    | .function name =>
      if isCalculation name.toLower then factorIn (8 * (totalSize input.pieces + 2)) input
      else none
    | _ => none

end ComponentFile.Style
