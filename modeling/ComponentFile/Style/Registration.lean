import ComponentFile.Style.Block

/-!
# Registered properties

A sheet can register a property of its own: what values it takes, whether elements inherit it, and
what it is at first.  The values are described by a text of types, one of which a value has to be
of.

* `ValueType`, `ValueShape` — the types and how often a value of one may stand.
* `ValueShape.parseAll?`, `ValueShape.text` — from and to the text of types.
* `Registration` — a registered property; `Registration.read`, `Registration.lines` — from and to
  its block.
-/

namespace ComponentFile.Style

open ComponentFile (Location)

/-! ## Types of values -/

/-- The type of a value. -/
inductive ValueType where
  /-- A type that has a name. -/
  | named (name : String)
  /-- One word. -/
  | word (name : String)
deriving DecidableEq, Repr

/-- How often values may stand. -/
inductive Repetition where
  | once
  /-- One or more with blanks between them. -/
  | spaced
  /-- One or more with commas between them. -/
  | listed
deriving DecidableEq, Repr

/-- A type and how often values of it may stand. -/
structure ValueShape where
  type : ValueType
  repetition : Repetition
deriving DecidableEq, Repr

/-- The types that have names. -/
def typeNames : List String :=
  ["length", "number", "percentage", "length-percentage", "string", "color", "image", "url",
   "integer", "angle", "time", "resolution", "transform-function", "transform-list",
   "custom-ident"]

namespace ValueShape

/-- Reads a type at the start of a text. -/
def readType? (text : List Char) : Option (ValueType × List Char) :=
  match text.dropWhile isStyleBlank with
  | '<' :: rest =>
    let name := (String.ofList (rest.takeWhile (· != '>'))).toLower
    match rest.dropWhile (· != '>') with
    | _ :: behind => if typeNames.contains name then some (.named name, behind) else none
    | [] => none
  | c :: rest =>
    if isNameStart c then
      some (.word (String.ofList (c :: rest.takeWhile isNamePart)), rest.dropWhile isNamePart)
    else none
  | [] => none

/-- Reads a type and the mark that says how often its values may stand. -/
def read? (text : List Char) : Option (ValueShape × List Char) := do
  let (type, rest) ← readType? text
  if type == .named "transform-list" then return (⟨type, .once⟩, rest)
  else
    match rest with
    | '+' :: behind => return (⟨type, .spaced⟩, behind)
    | '#' :: behind => return (⟨type, .listed⟩, behind)
    | _ => return (⟨type, .once⟩, rest)

/-- Reads at most `limit` types with bars between them. -/
def parseIn? : (limit : Nat) → List Char → Option (List ValueShape)
  | 0, _ => none
  | limit + 1, text => do
    let (shape, rest) ← read? text
    match rest.dropWhile isStyleBlank with
    | [] => return [shape]
    | '|' :: behind => return shape :: (← parseIn? limit behind)
    | _ => none

/-- The types that a text names.  Any value is allowed by `*`, which stands for no types. -/
def parseAll? (text : String) : Option (List ValueShape) :=
  let trimmed := ((text.toList.dropWhile isStyleBlank).reverse.dropWhile isStyleBlank).reverse
  if trimmed == ['*'] then some [] else parseIn? (trimmed.length + 1) trimmed

/-- The text of a type. -/
def text (shape : ValueShape) : String :=
  let type := match shape.type with
    | .named name => "<" ++ name ++ ">"
    | .word word => word
  match shape.repetition with
  | .once => type
  | .spaced => type ++ "+"
  | .listed => type ++ "#"

end ValueShape

/-! ## Values of types -/

/-- Reads a number with one of some units. -/
def dimensionReader (units : List String) : ValueReader := fun input => do
  let (piece, rest) ← input.next?
  match piece.first.token with
  | .dimension n unit =>
    if units.contains unit.toLower then return (.ofText (writeDimension n unit), rest) else none
  | _ => none

/-- Reads a string. -/
def stringReader : ValueReader := fun input => do
  let (piece, rest) ← input.next?
  match piece.first.token with
  | .string value => return (.ofText (writeString value), rest)
  | _ => none

/-- Reads a name that can be given a meaning. -/
def customNameReader : ValueReader := fun input => do
  let (piece, rest) ← input.next?
  let name ← piece.ident?
  if isReserved name then none else return (.ofText (writeIdentifier name), rest)

/-- Reads an address. -/
def addressReader : ValueReader := fun input => do
  let (piece, rest) ← input.next?
  match ← piece.value.toOption with
  | [.address value] => return ([.address value], rest)
  | _ => none

/-- The reader of values of a type. -/
def ValueType.reader : ValueType → ValueReader
  | .word name => fun input => do
    let (piece, rest) ← input.next?
    if piece.ident? == some name then return (.ofText (writeIdentifier name), rest) else none
  | .named name =>
    match name with
    | "length" => lengthReader
    | "number" => numberReader
    | "percentage" => percentageReader
    | "length-percentage" => extentReader
    | "string" => stringReader
    | "color" => colorReader
    | "image" | "url" => addressReader
    | "integer" => integerReader
    | "angle" => dimensionReader angleUnits
    | "time" => dimensionReader ["s", "ms"]
    | "resolution" => dimensionReader ["dpi", "dpcm", "dppx", "x"]
    | "custom-ident" => customNameReader
    | _ => fun _ => none

/-- The value of a type that pieces spell. -/
def ValueShape.value? (shape : ValueShape) (input : Pieces) : Option Value :=
  let reader := shape.type.reader
  match shape.repetition with
  | .once => (reader input).map Prod.fst
  | .spaced => (reader.list? input.pieces.length input).map .words
  | .listed => ((input.splitAt Piece.isComma).mapM reader.all?).map (Value.join .comma)

/-! ## Registrations -/

/-- A registered property. -/
structure Registration where
  name : String
  /-- The types of its values; where there are none, any value is allowed. -/
  shapes : List ValueShape
  isInherited : Bool
  initial : Option Value
deriving DecidableEq, Repr

/-- What a block has said about a property so far. -/
structure Registration.Draft where
  shapes : Option (List ValueShape) := none
  isInherited : Option Bool := none
  initial : Option Pieces := none

namespace Registration

/-- Reads the types of values. -/
def readShapes (input : Pieces) : Except Fault (List ValueShape) :=
  match input.next? with
  | none => failAtEnd input
  | some (piece, rest) =>
    match piece.first.token with
    | .string text =>
      match ValueShape.parseAll? text with
      | some shapes => do
        expectEnd rest
        return shapes
      | none => failAt rest .invalidValue
    | _ => failAt input (.unexpected piece.first)

/-- Reads whether elements inherit a property. -/
def readInherited (input : Pieces) : Except Fault Bool :=
  match input.next? with
  | none => failAtEnd input
  | some (piece, rest) => do
    let isInherited ← match piece.ident?.map String.toLower with
      | some "true" => pure true
      | some "false" => pure false
      | _ => failAt input (.unexpected piece.first)
    expectEnd rest
    return isInherited

/-- Takes one more entry of the block into account. -/
def Draft.add (draft : Draft) (entry : Entry) : Except Fault Draft := do
  let (name, value) ← entry.field
  match name.toLower with
  | "syntax" => return { draft with shapes := some (← readShapes value) }
  | "inherits" => return { draft with isInherited := some (← readInherited value) }
  | "initial-value" => return { draft with initial := some value }
  | _ => failAt value .invalidDeclaration

/-- The value that a property has at first, where its types are given. -/
def readInitial (shapes : List ValueShape) (initial : Option Pieces) (stop : Location) :
    Except Fault (Option Value) :=
  match shapes, initial with
  | [], none => .ok none
  | [], some input => do
    let value ← Value.ofPieces input.pieces
    return some (if input.isDone then [] else value)
  | _, none => .error ⟨.blockNotAllowed, stop⟩
  | _, some input =>
    match shapes.findSome? fun shape => shape.value? input with
    | some value => .ok (some value)
    | none => .error ⟨.endOfInput, ⟨1, 1⟩⟩

/-- Reads the block of a registered property. -/
def read (name : String) (body : Pieces) : Except Fault Registration := do
  let draft ← body.entries.foldlM Draft.add { }
  match draft.shapes, draft.isInherited with
  | some shapes, some isInherited =>
    return { name, shapes, isInherited, initial := ← readInitial shapes draft.initial body.stop }
  | _, _ => .error ⟨.blockNotAllowed, body.stop⟩

/-- The lines of the block of a registered property. -/
def lines (layout : Layout) (registration : Registration) : List String :=
  let types := match registration.shapes with
    | [] => "*"
    | shapes => Layout.join (layout.spaced "|") (shapes.map ValueShape.text)
  ["syntax" ++ layout.colon ++ "\"" ++ types ++ "\"",
   "inherits" ++ layout.colon ++ (if registration.isInherited then "true" else "false")] ++
    match registration.initial with
    | none => []
    | some value =>
      ["initial-value" ++ layout.colon ++ value.render layout false ++ layout.choose "" ";"]

end Registration

end ComponentFile.Style
