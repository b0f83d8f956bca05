import ComponentFile.Style.Color
import ComponentFile.Style.Fault

/-!
# Reading values

A run of tokens whose meaning is not looked at is a value.  Each token is printed in its usual form:
strings get double quotes, numbers lose needless digits, colours are short.  Blanks and comments
stay where they are.

* `Value.ofPieces` — reads a value; a token that cannot stand in one is a fault.
* `rawText` — tokens in their usual form with everything between them as it is written.
* `expectSound` — requires that there is no broken token.
-/

namespace ComponentFile.Style

open ComponentFile (Location)

/-! ## Tokens -/

/-- Whether a token is never part of a value: a broken string or address, or a bracket that closes
nothing. -/
def Token.isBroken : Token → Bool
  | .badString _ | .badUrl _ | .closing _ => true
  | _ => false

/-- The text of a name behind its first character. -/
def writeNameTail (text : String) : String := String.ofList (text.toList.flatMap escapeInName)

/-- The part of a value that a token is. -/
def Lexeme.part (lexeme : Lexeme) : Except Fault ValuePart :=
  if lexeme.token.isBroken then .error ⟨.unexpected lexeme, lexeme.start⟩
  else
    .ok <| match lexeme.token with
    | .blank => .blank (String.ofList lexeme.text) false
    | .comment inside => .comment inside
    | .url value => .address value
    | .ident name => .text (writeIdentifier name)
    | .hash name _ =>
      match Rgba.ofDigits? name with
      | some color => .text color.text
      | none => .text ("#" ++ writeNameTail name)
    | .atKeyword name => .text ("@" ++ writeIdentifier name)
    | .string value => .text (writeString value)
    | .number n => .text n.measure.short
    | .percentage n => .text n.percentToken
    | .dimension n unit => .text (writeDimension n unit)
    | _ => .text (String.ofList lexeme.text)

/-! ## Functions -/

/-- Puts the values of pieces together. -/
def joinValues : List (Except Fault Value) → Except Fault Value
  | [] => .ok []
  | value :: rest => do
    let front ← value
    return front ++ (← joinValues rest)

/-- Values of pieces in a bracket, with the pieces themselves. -/
abbrev InnerValues := List (Piece × Except Fault Value)

namespace InnerValues

/-- The pieces that values belong to. -/
def pieces (inner : InnerValues) (stop : Location) : Pieces := ⟨inner.map Prod.fst, stop⟩

/-- Drops blanks and comments in front. -/
def trimmed (inner : InnerValues) : InnerValues := inner.dropWhile fun (piece, _) => piece.isGap

/-- The last values, as many as there are pieces left. -/
def behind (inner : InnerValues) (rest : Pieces) : InnerValues :=
  inner.drop (inner.length - rest.pieces.length)

/-- The value of all the pieces, without blanks around it. -/
def value (inner : InnerValues) : Except Fault Value :=
  Value.trim <$> joinValues (inner.map Prod.snd)

end InnerValues

/-- The value of an address in quotes. -/
def addressValue (inner : InnerValues) (stop : Location) : Except Fault Value :=
  match inner.trimmed with
  | [] => .error ⟨.endOfInput, stop⟩
  | (piece, _) :: rest =>
    match piece.first.token with
    | .string value => do
      expectEnd (InnerValues.pieces rest stop)
      return [.address value]
    | _ => failAt (inner.pieces stop) (.unexpected piece.first)

/-- What stands in for something that is missing, behind a comma. -/
def fallbackValue (inner : InnerValues) (stop : Location) : Except Fault Value :=
  match inner.trimmed with
  | [] => .ok []
  | (piece, _) :: rest =>
    if piece.isComma then do
      let value ← InnerValues.value rest
      return .comma :: value
    else failAt (inner.pieces stop) (.unexpected piece.first)

/-- The value of a variable, whose name begins with two dashes. -/
def variableValue (inner : InnerValues) (stop : Location) : Except Fault Value :=
  match inner.trimmed with
  | [] => .error ⟨.endOfInput, stop⟩
  | (piece, _) :: rest =>
    match piece.ident? with
    | some name =>
      if name.startsWith "--" then do
        let fallback ← fallbackValue rest stop
        return .text ("var(" ++ writeIdentifier name) :: fallback ++ [.text ")"]
      else failAt (inner.pieces stop) (.unexpected piece.first)
    | none => failAt (inner.pieces stop) (.unexpected piece.first)

/-- Values of the surroundings that are known. -/
def knownSurroundings : List String :=
  (["top", "right", "bottom", "left"].map ("safe-area-inset-" ++ ·)) ++
    ["width", "height", "top", "left", "bottom", "right"].map ("viewport-segment-" ++ ·)

/-- Words that every property takes. -/
def wideKeywords : List String := ["initial", "inherit", "unset", "revert", "revert-layer"]

/-- Whether a name is a word that cannot be given a meaning. -/
def isReserved (name : String) : Bool := ("default" :: wideKeywords).contains name.toLower

/-- The integers in front, behind the name of a value of the surroundings. -/
def readIndices : InnerValues → List Int × InnerValues
  | [] => ([], [])
  | (piece, value) :: rest =>
    if piece.isGap then
      match readIndices rest with
      | ([], _) => ([], (piece, value) :: rest)
      | found => found
    else
      match piece.first.token with
      | .number n =>
        match n.integer? with
        | some index =>
          let (indices, behind) := readIndices rest
          (index :: indices, behind)
        | none => ([], (piece, value) :: rest)
      | _ => ([], (piece, value) :: rest)

/-- A value that the surroundings of a page give, by its name and by integers. -/
def surroundingValue (inner : InnerValues) (stop : Location) : Except Fault Value :=
  match inner.trimmed with
  | [] => .error ⟨.endOfInput, stop⟩
  | (piece, _) :: rest =>
    match piece.ident? with
    | some name =>
      if isReserved name then failAt (inner.pieces stop) (.unexpected piece.first)
      else do
        let lowered := name.toLower
        let name := if knownSurroundings.contains lowered then lowered else writeIdentifier name
        let (indices, rest) := readIndices rest
        let fallback ← fallbackValue rest stop
        let words := name :: indices.map toString
        return .text ("env(" ++ Layout.join " " words) :: fallback ++ [.text ")"]
    | none => failAt (inner.pieces stop) (.unexpected piece.first)

/-- The value of a colour in the new notation whose alpha is not understood. -/
def openAlphaValue? (front : String) (texts : List String) (inner : InnerValues) (rest : Pieces) :
    Option Value := do
  let behind ← rest.afterStroke?
  let alpha ← (inner.behind behind).value.toOption
  return .text (front ++ Layout.join " " texts) :: .stroke :: alpha ++ [.text ")"]

/-- The value of a function of colours whose arguments are only partly understood. -/
def openColorValue? (lowered : String) (inner : InnerValues) (stop : Location) : Option Value :=
  match lowered with
  | "rgb" | "rgba" => do
    let shares ← readShares? (inner.pieces stop)
    let texts := [shares.first, shares.second, shares.third].map fun share =>
      toString (stepOfShare share)
    if shares.isOld then none else openAlphaValue? "rgb(" texts inner shares.rest
  | "hsl" | "hsla" => do
    let parts ← readHueShares? true (inner.pieces stop)
    let texts := (Measure.ofRat parts.first).short ::
      [parts.second, parts.third].map fun share => percentageText (.ofRat share)
    if parts.isOld then none else openAlphaValue? "hsl(" texts inner parts.rest
  | "light-dark" => do
    let light : InnerValues := inner.takeWhile fun (piece, _) => !piece.isComma
    let dark : InnerValues := inner.drop (light.length + 1)
    if light.length == inner.length then none
    else
      return .text "light-dark(" :: (← light.value.toOption) ++ .comma ::
        (← dark.value.toOption) ++ [.text ")"]
  | _ => none

/-- The text that opens a bracket. -/
def openerText (opener : Lexeme) : String :=
  match opener.token with
  | .function name => writeIdentifier name ++ "("
  | _ => String.ofList opener.text

/-- The text that closes a bracket. -/
def closerText (opener : Lexeme) : String :=
  match opener.token with
  | .opening .square => "]"
  | .opening .curly => "\x7d"
  | _ => ")"

/-- The value of a function with the values of its arguments. -/
def functionValue (name : String) (inner : InnerValues) (stop : Location) : Except Fault Value :=
  match name with
  | "url" => addressValue inner stop
  | "var" => variableValue inner stop
  | "env" => surroundingValue inner stop
  | _ => do
    let value ← inner.value
    return .text (writeIdentifier name ++ "(") :: value ++ [.text ")"]

/-- The value of a bracket with the values of what it holds. -/
def bracketValue (opener : Lexeme) (inner : InnerValues) (stop : Location) : Except Fault Value :=
  match opener.token with
  | .function name =>
    let whole : Pieces := ⟨[.block opener (inner.map Prod.fst) stop []], stop⟩
    match Color.read? whole with
    | some (color, _) => .ok color.value
    | none =>
      match openColorValue? name.toLower inner stop with
      | some value => .ok value
      | none => functionValue name inner stop
  | _ => do
    let value ← joinValues (inner.map Prod.snd)
    return .text (openerText opener) :: value ++ [.text (closerText opener)]

/-! ## Pieces -/

mutual

/-- The value of a piece. -/
def Piece.value : Piece → Except Fault Value
  | .token lexeme => List.singleton <$> lexeme.part
  | .block opener body stop _ => bracketValue opener (body.zip (pieceValues body)) stop

/-- The values of pieces, one for each. -/
def pieceValues : List Piece → List (Except Fault Value)
  | [] => []
  | piece :: rest => piece.value :: pieceValues rest

end

/-- The value that pieces spell. -/
def Value.ofPieces (pieces : List Piece) : Except Fault Value :=
  trim <$> joinValues (pieceValues pieces)

/-! ## Tokens as they are written -/

/-- A token in its usual form, of which nothing is left out. -/
def Lexeme.usual (lexeme : Lexeme) : Except Fault String :=
  if lexeme.token.isBroken then .error ⟨.unexpected lexeme, lexeme.start⟩
  else
    .ok <| match lexeme.token with
    | .ident name => writeIdentifier name
    | .atKeyword name => "@" ++ writeIdentifier name
    | .hash name true => "#" ++ writeIdentifier name
    | .hash name false => "#" ++ writeNameTail name
    | .string value => writeString value
    | .url value => writeBareAddress value
    | .number n => n.token
    | .percentage n => n.percentToken
    | .dimension n unit => n.dimensionToken unit
    | .comment text => "/*" ++ text ++ "*/"
    | _ => String.ofList lexeme.text

mutual

/-- The text of a piece, with its tokens in their usual form. -/
def Piece.rawText : Piece → Except Fault String
  | .token lexeme => lexeme.usual
  | .block opener body _ _ => do
    let inner ← rawText body
    return openerText opener ++ inner ++ closerText opener

/-- The text of pieces, with their tokens in their usual form. -/
def rawText : List Piece → Except Fault String
  | [] => .ok ""
  | piece :: rest => do
    let front ← piece.rawText
    return front ++ (← rawText rest)

end

/-- Requires that none of some pieces is broken. -/
def expectSound (pieces : List Piece) : Except Fault Unit := do
  let _ ← joinBroken pieces
  return ()
where
  /-- Looks for the first broken token, whose place is the one behind it. -/
  joinBroken : List Piece → Except Fault Unit
    | [] => .ok ()
    | .token lexeme :: rest =>
      if lexeme.token.isBroken then .error ⟨.unexpected lexeme, lexeme.stop⟩ else joinBroken rest
    | .block _ body _ _ :: rest => do
      joinBroken body
      joinBroken rest

end ComponentFile.Style
