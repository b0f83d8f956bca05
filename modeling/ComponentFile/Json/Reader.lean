import ComponentFile.Json.Basic
import ComponentFile.Number.Precision
import ComponentFile.Text.Search

/-!
# Reading JSON

A reader takes a text and returns a value with the rest.  An error tells which of three things
happened first: the text is not JSON, it ended too early, or it is JSON of the wrong shape.

* `JsonError`, `Reader` — errors and readers.
* `Mode` — a value is kept, or only passed over; what is passed over may hold numbers that are too
  large and half surrogate pairs, and may nest to any depth.
* `Reader.value` — a value nested at most so many levels deep, as it is written.
* `Json.read`, `Json.parse` — a whole text, as it is written and with the members of one name
  merged.

A row of items or members has fewer of them than characters, so readers of rows count down from
the length of the text.
-/

namespace ComponentFile

/-- Why a text could not be read. -/
inductive JsonError where
  /-- The text is not JSON. -/
  | malformed
  /-- The text ends in the middle of a value. -/
  | ended
  /-- The value is not of the form expected. -/
  | mismatch
deriving DecidableEq, Repr

/-- Reads a value from the front of a text and returns the rest. -/
abbrev Reader (α : Type) := List Char → Except JsonError (α × List Char)

/-- Whether a value that is read will be used. -/
inductive Mode where
  | keep
  | skip
deriving DecidableEq, Repr

namespace Reader

/-! ## Blanks and fixed texts -/

/-- The blanks of JSON. -/
def isJsonBlank (c : Char) : Bool := c == ' ' || c == '\n' || c == '\t' || c == '\r'

/-- The text without the blanks in front of it. -/
def skipBlanks (text : List Char) : List Char := text.dropWhile isJsonBlank

/-- Reads the given word and stands for the given value. -/
def word {α : Type} (value : α) : (w : List Char) → Reader α
  | [], text => .ok (value, text)
  | _ :: _, [] => .error .ended
  | l :: ls, c :: cs => if l = c then word value ls cs else .error .malformed

/-- Reads one fixed character after blanks. -/
def sign (c : Char) : Reader Unit := fun text => word () [c] (skipBlanks text)

/-! ## Strings -/

/-- The value of a hexadecimal digit. -/
def hexValue? (c : Char) : Option Nat :=
  if '0' ≤ c ∧ c ≤ '9' then some (c.toNat - '0'.toNat)
  else if 'a' ≤ c ∧ c ≤ 'f' then some (c.toNat - 'a'.toNat + 10)
  else if 'A' ≤ c ∧ c ≤ 'F' then some (c.toNat - 'A'.toNat + 10)
  else none

/-- The number that a row of hexadecimal digits stands for. -/
def hexNumber? (digits : List Char) : Option Nat :=
  digits.foldlM (fun n c => (hexValue? c).map (n * 16 + ·)) 0

/-- Reads four hexadecimal digits.  A text of less than four bytes has ended too early. -/
def hexUnit : Reader Nat := fun text =>
  if byteLength text < 4 then .error .ended
  else if text.length < 4 then .error .malformed
  else
    match hexNumber? (text.take 4) with
    | some unit => .ok (unit, text.drop 4)
    | none => .error .malformed

/-- Whether a code unit is the first half of a surrogate pair. -/
def isLead (unit : Nat) : Bool := 0xD800 ≤ unit && unit ≤ 0xDBFF

/-- Whether a code unit is the second half of a surrogate pair. -/
def isTrail (unit : Nat) : Bool := 0xDC00 ≤ unit && unit ≤ 0xDFFF

/-- Reads what follows `\u`: a code unit, or a surrogate pair with its second escape. -/
def unicodeEscape (mode : Mode) : Reader Char := fun text => do
  let (first, rest) ← hexUnit text
  match mode with
  | .skip => return (Char.ofNat 0xFFFD, rest)
  | .keep =>
    if isTrail first then throw .malformed
    else if isLead first then
      let (_, rest) ← word () ['\\', 'u'] rest
      let (second, rest) ← hexUnit rest
      if isTrail second then
        return (Char.ofNat (0x10000 + (first - 0xD800) * 0x400 + (second - 0xDC00)), rest)
      else throw .malformed
    else return (Char.ofNat first, rest)

/-- Reads what follows a backslash in a string. -/
def escape (mode : Mode) : Reader Char
  | [] => .error .ended
  | 'u' :: rest => unicodeEscape mode rest
  | '"' :: rest => .ok ('"', rest)
  | '\\' :: rest => .ok ('\\', rest)
  | '/' :: rest => .ok ('/', rest)
  | 'b' :: rest => .ok ('\x08', rest)
  | 'f' :: rest => .ok ('\x0c', rest)
  | 'n' :: rest => .ok ('\n', rest)
  | 'r' :: rest => .ok ('\r', rest)
  | 't' :: rest => .ok ('\t', rest)
  | _ :: _ => .error .malformed

/-- Reads at most `limit` characters of a string up to its closing quote. -/
def stringTail (mode : Mode) : (limit : Nat) → Reader (List Char)
  | 0, _ => .error .ended
  | limit + 1, text =>
    match text with
    | [] => .error .ended
    | '"' :: rest => .ok ([], rest)
    | '\\' :: rest => do
      let (c, rest) ← escape mode rest
      let (cs, rest) ← stringTail mode limit rest
      return (c :: cs, rest)
    | c :: rest =>
      if c.toNat < 0x20 then .error .malformed
      else do
        let (cs, rest) ← stringTail mode limit rest
        return (c :: cs, rest)

/-- Reads a string. -/
def string (mode : Mode) : Reader String
  | [] => .error .ended
  | '"' :: rest => do
    let (cs, rest) ← stringTail mode (rest.length + 1) rest
    return (String.ofList cs, rest)
  | _ => .error .malformed

/-! ## Numbers -/

/-- The number that a row of decimal digits stands for. -/
def digitsValue (digits : List Char) : Nat :=
  digits.foldl (fun n c => n * 10 + (c.toNat - '0'.toNat)) 0

/-- Reads one or more decimal digits.  When the number is only passed over, the end of the text is
not told apart from a wrong character. -/
def digits (mode : Mode) : Reader (List Char) := fun text =>
  match text.takeWhile Char.isDigit with
  | [] => .error (if mode = .keep ∧ text = [] then .ended else .malformed)
  | d :: ds => .ok (d :: ds, text.dropWhile Char.isDigit)

/-- Reads an exponent after its mark. -/
def exponent (mode : Mode) : Reader Int
  | '-' :: rest => do
    let (ds, rest) ← digits mode rest
    return (-(digitsValue ds : Int), rest)
  | '+' :: rest => do
    let (ds, rest) ← digits mode rest
    return (digitsValue ds, rest)
  | text => do
    let (ds, rest) ← digits mode text
    return (digitsValue ds, rest)

/-- Reads the exponent that a number may have. -/
def exponent? (mode : Mode) : Reader (Option Int)
  | 'e' :: rest => (exponent mode rest).map fun (power, rest) => (some power, rest)
  | 'E' :: rest => (exponent mode rest).map fun (power, rest) => (some power, rest)
  | text => .ok (none, text)

/-- Reads the fraction that a number may have. -/
def fraction (mode : Mode) : Reader (List Char)
  | '.' :: rest => digits mode rest
  | text => .ok ([], text)

/-! The digits of a number are gathered in 64 bits, as far as they go, and the power of ten is
multiplied in or divided out afterwards, so that the result is not always the nearest number. -/

/-- Appends digits to a number as long as 64 bits hold it; the digits that do not fit are left. -/
def gather (n : Nat) : List Char → Nat × List Char
  | [] => (n, [])
  | c :: cs =>
    let next := n * 10 + decimalDigitValue c
    if next < Nat.pow 2 64 then gather next cs else (n, c :: cs)

/-- The greatest power of ten that is multiplied in at once. -/
def maxPower : Nat := 308

/-- The double next to a power of ten. -/
def powerOfTen (n : Nat) : Binary := (Precision.double.nearest ⟨Nat.pow 10 n, 1⟩).getD .zero

/-- Multiplies a double by a power of ten, or divides it by one in at most `limit` steps; `none` if
it gets too large. -/
def timesPower : (limit : Nat) → Binary → Int → Option Binary
  | 0, x, _ => some x
  | limit + 1, x, power =>
    if power.natAbs ≤ maxPower then
      let factor := (powerOfTen power.natAbs).ratio
      Precision.double.nearest (if 0 ≤ power then x.ratio.mul factor else x.ratio.div factor)
    else if x.significand == 0 then some .zero
    else if 0 ≤ power then none
    else do
      let x ← Precision.double.nearest (x.ratio.div (powerOfTen maxPower).ratio)
      timesPower limit x (power + maxPower)

/-- The value of a number of so many digits and a power of ten.  No number of 64 bits can be divided
by the greatest power more than three times before it is zero. -/
def scaled? (significand : Nat) (power : Int) : Option Binary := do
  let x ← Precision.double.nearest ⟨significand, 1⟩
  timesPower 4 x power

/-- The greatest exponent that can be written. -/
def maxExponent : Nat := Nat.pow 2 31 - 1

/-- The value of a number that is no integer; too large a one is an error. -/
def decimalValue (negative : Bool) (whole fraction : List Char) (power : Int) :
    Except JsonError Json :=
  let (significand, wholeLeft) := gather 0 whole
  let (significand, fractionLeft) := gather significand fraction
  let start : Int := wholeLeft.length - (fraction.length - fractionLeft.length)
  let value :=
    if power.natAbs ≤ maxExponent then scaled? significand (start + power)
    else if significand == 0 || power < 0 then some .zero
    else none
  match value with
  | some x => .ok (.decimal { Precision.double.shortest x with negative := negative })
  | none => .error .malformed

/-- The value of a number: an integer if it is written as one and fits in 64 bits; minus zero is no
integer.  A number that is only passed over has no value. -/
def numberValue (mode : Mode) (negative : Bool) (whole fraction : List Char) (power : Option Int) :
    Except JsonError Json :=
  let n := digitsValue whole
  match mode, fraction, power with
  | .skip, _, _ => .ok .null
  | .keep, [], none =>
    if negative ∧ 0 < n ∧ n ≤ Nat.pow 2 63 then .ok (.int (Int.negOfNat n))
    else if ¬ negative ∧ n < Nat.pow 2 64 then .ok (.int (Int.ofNat n))
    else decimalValue negative whole [] 0
  | .keep, _, _ => decimalValue negative whole fraction (power.getD 0)

/-- Reads a number after its sign; no zero stands in front of other digits. -/
def number (mode : Mode) (negative : Bool) : Reader Json := fun text => do
  let (whole, rest) ← digits mode text
  if whole.head? = some '0' ∧ 1 < whole.length then throw .malformed
  let (fraction, rest) ← fraction mode rest
  let (power, rest) ← exponent? mode rest
  let value ← numberValue mode negative whole fraction power
  return (value, rest)

/-! ## Values -/

/-- Reads a value other than an array or an object. -/
def scalar (mode : Mode) : Reader Json
  | [] => .error .ended
  | 'n' :: rest => word .null ['u', 'l', 'l'] rest
  | 't' :: rest => word (.bool true) ['r', 'u', 'e'] rest
  | 'f' :: rest => word (.bool false) ['a', 'l', 's', 'e'] rest
  | '"' :: rest => (string mode ('"' :: rest)).map fun (text, rest) => (.str text, rest)
  | '-' :: rest => number mode true rest
  | c :: rest => if c.isDigit then number mode false (c :: rest) else .error .malformed

/-- Reads at most `limit` items of an array up to its bracket.  Before the first item stands no
comma, before every other item one. -/
def items {α : Type} (item : Reader α) (first : Bool) : (limit : Nat) → Reader (List α)
  | 0, _ => .error .ended
  | limit + 1, text =>
    let next (rest : List Char) : Except JsonError (List α × List Char) := do
      let (head, rest) ← item rest
      let (tail, rest) ← items item false limit rest
      return (head :: tail, rest)
    match skipBlanks text, first with
    | [], _ => .error .ended
    | ']' :: rest, _ => .ok ([], rest)
    | here, true => next here
    | ',' :: rest, false => next rest
    | _, false => .error .malformed

/-- Reads at most `limit` members of an object up to its brace.  `member` reads what follows a
member's name, colon included, and says what becomes of the state. -/
def members {σ : Type} (mode : Mode) (member : σ → String → Reader σ) (first : Bool) :
    (limit : Nat) → (state : σ) → Reader σ
  | 0, _, _ => .error .ended
  | limit + 1, state, text =>
    let next (rest : List Char) : Except JsonError (σ × List Char) := do
      let (name, rest) ← string mode (skipBlanks rest)
      let (state, rest) ← member state name rest
      members mode member false limit state rest
    match skipBlanks text, first with
    | [], _ => .error .ended
    | '\x7d' :: rest, _ => .ok (state, rest)
    | here, true => next here
    | ',' :: rest, false => next rest
    | _, false => .error .malformed

/-- Reads a member's value after its colon and adds the member to a list. -/
def collect (value : Reader Json) (done : List (String × Json)) (name : String) :
    Reader (List (String × Json)) := fun text => do
  let (_, rest) ← sign ':' text
  let (value, rest) ← value rest
  return (done ++ [(name, value)], rest)

/-- Reads a value that nests at most `depth` levels.  An object has all its members in the order in
which they are written, even those whose name comes again. -/
def value (mode : Mode) (depth : Nat) : Reader Json := fun text =>
  match skipBlanks text, depth with
  | '[' :: _, 0 => .error .malformed
  | '\x7b' :: _, 0 => .error .malformed
  | '[' :: rest, depth + 1 =>
    (items (value mode depth) true (rest.length + 1) rest).map fun (items, rest) =>
      (.arr items, rest)
  | '\x7b' :: rest, depth + 1 =>
    (members mode (collect (value mode depth)) true (rest.length + 1) [] rest).map
      fun (members, rest) => (.obj members, rest)
  | here, _ => scalar mode here

/-- Passes over a value of any depth: a text cannot nest deeper than it is long. -/
def skipValue : Reader Unit := fun text =>
  (value .skip text.length text).map fun (_, rest) => ((), rest)

/-- Succeeds when nothing but blanks is left. -/
def atEnd (text : List Char) : Except JsonError Unit :=
  if skipBlanks text = [] then .ok () else .error .malformed

end Reader

/-- The deepest nesting that is read. -/
def Json.maxDepth : Nat := 127

/-- Reads a whole text as one value, as it is written. -/
def Json.read (text : String) : Except JsonError Json := do
  let (value, rest) ← Reader.value .keep Json.maxDepth text.toList
  Reader.atEnd rest
  return value

/-- Reads a whole text as one value. -/
def Json.parse (text : String) : Except JsonError Json := (Json.read text).map Json.merged

end ComponentFile
