import ComponentFile.Style.Color

/-!
# Grammar of values

The values that properties take are put together from words, numbers, lengths and colours.  What is
said twice, such as the same length for opposite sides, is printed once.

* `ValueReader` — reads one value and returns what follows; `wordIn`, `numberReader`,
  `lengthReader`, `colorReader`, … — the readers of single values.
* `ValueReader.all?`, `ValueReader.list?` — values that take up all that is there.
* `pairValue`, `sidesValue` — values for two and for four sides.
* `readLine?` — the width, style and colour of a line.
-/

namespace ComponentFile.Style

/-- Reads a value in front of other pieces. -/
abbrev ValueReader := Pieces → Option (Value × Pieces)

/-! ## Single values -/

/-- Reads one of some words. -/
def wordIn (words : List String) : ValueReader := fun input => do
  let (piece, rest) ← input.next?
  let word := (← piece.ident?).toLower
  if words.contains word then return (.ofText word, rest) else none

/-- Reads what the first of some readers can read. -/
def firstOf (readers : List ValueReader) : ValueReader := fun input =>
  readers.findSome? fun reader => reader input

/-- Reads a colour. -/
def colorReader : ValueReader := fun input => do
  let (color, rest) ← Color.read? input
  return (color.value, rest)

/-- Reads a number. -/
def numberReader : ValueReader := fun input => do
  let (q, rest) ← Quantity.read? input
  if q.isNumber then return (.ofText q.size.short, rest) else none

/-- Reads a percentage. -/
def percentageReader : ValueReader := fun input => do
  let (q, rest) ← Quantity.read? input
  if q.unit == "%" then return (.ofText (percentageText q.size), rest) else none

/-- Reads a share of one and writes it as a number. -/
def shareReader : ValueReader := fun input => do
  let (q, rest) ← Quantity.read? input
  if q.isNumber || q.unit == "%" then return (.ofText q.size.short, rest) else none

/-- Reads an integer. -/
def integerReader : ValueReader := fun input => do
  let (piece, rest) ← input.next?
  match piece.first.token with
  | .number n => return (.ofText (toString (← n.integer?)), rest)
  | _ => none

/-- The text of a length; one of zero has no unit. -/
def lengthText (x : Measure) (unit : String) : String :=
  if x.isZero then "0" else dimensionText x unit

/-- Reads a length; a number without a unit counts pixels. -/
def lengthReader : ValueReader := fun input => do
  let (q, rest) ← Quantity.read? input
  if q.isNumber then return (.ofText (lengthText q.size "px"), rest)
  else if lengthUnits.contains q.unit then return (.ofText (lengthText q.size q.unit), rest)
  else none

/-- Reads a length or a percentage. -/
def extentReader : ValueReader := firstOf [lengthReader, percentageReader]

/-! ## Whole values -/

namespace ValueReader

/-- The value that takes up all of some pieces. -/
def all? (reader : ValueReader) (input : Pieces) : Option Value := do
  let (value, rest) ← reader input
  if rest.isDone then some value else none

/-- Reads as many values as there are, at most `limit` of them. -/
def some? (reader : ValueReader) : (limit : Nat) → Pieces → List Value × Pieces
  | 0, input => ([], input)
  | limit + 1, input =>
    match reader input with
    | none => ([], input)
    | some (value, rest) =>
      let (values, last) := reader.some? limit rest
      (value :: values, last)

/-- The values, at least one and at most `limit` of them, that take up all of some pieces. -/
def list? (reader : ValueReader) (limit : Nat) (input : Pieces) : Option (List Value) :=
  let (values, rest) := reader.some? limit input
  if rest.isDone && !values.isEmpty then some values else none

end ValueReader

/-- Two values, of which the second is left out where it is the first one. -/
def pairValue : List Value → Value
  | [first, second] => if first == second then first else .words [first, second]
  | values => .words values

/-- The values for four sides: those that are missing are those of the opposite side. -/
def fourSides : List Value → List Value
  | [all] => [all, all, all, all]
  | [block, inline] => [block, inline, block, inline]
  | [top, inline, bottom] => [top, inline, bottom, inline]
  | sides => sides

/-- The values for four sides in the fewest words. -/
def sidesValue (values : List Value) : Value :=
  match fourSides values with
  | [top, right, bottom, left] =>
    if left != right then .words [top, right, bottom, left]
    else if bottom != top then .words [top, right, bottom]
    else if right != top then .words [top, right]
    else top
  | sides => .words sides

/-- The values for the corners of a box, with those for the two directions apart where they
differ. -/
def cornersValue? (input : Pieces) : Option Value := do
  let (across, rest) := ValueReader.some? extentReader 4 input
  if across.isEmpty then none
  else
    match rest.afterStroke? with
    | none => if rest.isDone then some (sidesValue across) else none
    | some behind =>
      let along ← ValueReader.list? extentReader 4 behind
      if sidesValue across == sidesValue along then some (sidesValue across)
      else some (sidesValue across ++ .stroke :: sidesValue along)

/-! ## Lines -/

/-- The styles of a line. -/
def lineStyles : List String :=
  ["none", "hidden", "inset", "groove", "outset", "ridge", "dotted", "dashed", "solid", "double"]

/-- Reads the width of a line. -/
def lineWidthReader : ValueReader := firstOf [wordIn ["thin", "medium", "thick"], lengthReader]

/-- What is said about a line. -/
structure Line where
  width : Option Value := none
  style : Option Value := none
  color : Option Value := none

/-- Reads width, style and colour of a line in any order, at most `limit` of them. -/
def readLineParts (styles : List String) : (limit : Nat) → Line → Pieces → Line × Pieces
  | 0, line, input => (line, input)
  | limit + 1, line, input =>
    match line.width, lineWidthReader input with
    | none, some (width, rest) => readLineParts styles limit { line with width := some width } rest
    | _, _ =>
      match line.style, wordIn styles input with
      | none, some (style, rest) =>
        readLineParts styles limit { line with style := some style } rest
      | _, _ =>
        match line.color, colorReader input with
        | none, some (color, rest) =>
          readLineParts styles limit { line with color := some color } rest
        | _, _ => (line, input)

/-- The value for a line; what is usual is left out. -/
def Line.value (line : Line) : Value :=
  let unusual (usual : String) (part : Option Value) : Option Value :=
    part.filter fun value => value != .ofText usual
  let parts := [unusual "medium" line.width, unusual "none" line.style,
    unusual "currentColor" line.color].filterMap id
  if parts.isEmpty then .ofText "none" else .words parts

/-- The value for a line that takes up all of some pieces. -/
def readLine? (styles : List String) (input : Pieces) : Option Value :=
  let (line, rest) := readLineParts styles 3 { } input
  if rest.isDone && !input.isDone then some line.value else none

end ComponentFile.Style
