import ComponentFile.Style.Property.Grammar
import ComponentFile.Style.Value.Reader

/-!
# Fonts

The values that describe fonts: families, whose names need no quotes where they are words, and
weights and widths, for which a minified sheet has numbers.

* `familyReader`, `familiesValue?` — one family, and a list of them.
* `weightReader`, `stretchReader` — weights and widths.
-/

namespace ComponentFile.Style

/-! ## Families -/

/-- Families of fonts that have a meaning of their own. -/
def genericFamilies : List String :=
  ["serif", "sans-serif", "cursive", "fantasy", "monospace", "system-ui", "emoji", "math",
   "fangsong", "ui-serif", "ui-sans-serif", "ui-monospace", "ui-rounded"]

/-- Whether a family has to be in quotes not to be taken for a word. -/
def needsFamilyQuotes (name : String) : Bool :=
  name.isEmpty || isReserved name || genericFamilies.contains name.toLower ||
    (name.splitOn "  ").length > 1

/-- The name of a family, without quotes where that is shorter. -/
def writeFamily (name : String) : String :=
  let bare := Layout.join " " ((name.splitOn " ").map writeIdentifier)
  if !needsFamilyQuotes name && bare.utf8ByteSize < name.utf8ByteSize + 2 then bare
  else writeString name

/-- The words in front of some pieces, at most `limit` of them. -/
def readWords : (limit : Nat) → Pieces → List String × Pieces
  | 0, input => ([], input)
  | limit + 1, input =>
    match input.next? with
    | none => ([], input)
    | some (piece, rest) =>
      match piece.ident? with
      | none => ([], input)
      | some word =>
        let (words, last) := readWords limit rest
        (word :: words, last)

/-- Reads one family. -/
def familyReader : ValueReader := fun input => do
  let (piece, rest) ← input.next?
  match piece.first.token with
  | .string name => return (.ofText (writeFamily name), rest)
  | _ =>
    match readWords input.pieces.length input with
    | ([], _) => none
    | ([name], rest) =>
      if genericFamilies.contains name.toLower then return (.ofText name.toLower, rest)
      else if wideKeywords.contains name.toLower then none
      else return (.ofText (writeFamily name), rest)
    | (names, rest) => return (.ofText (writeFamily (Layout.join " " names)), rest)

/-- A list of families. -/
def familiesValue? (input : Pieces) : Option Value :=
  ((input.splitAt Piece.isComma).mapM familyReader.all?).map (Value.join .comma)

/-! ## Weights and widths -/

/-- Reads a word for which a minified sheet has a shorter text. -/
def shortenedReader (table : List (String × String)) : ValueReader := fun input => do
  let (piece, rest) ← input.next?
  let word := (← piece.ident?).toLower
  return ([.shortened (← table.lookup word) word], rest)

/-- Reads a weight that does not depend on others; a minified sheet writes the usual ones as
numbers. -/
def fixedWeightReader : ValueReader :=
  firstOf [numberReader, shortenedReader [("normal", "400"), ("bold", "700")]]

/-- Reads a weight. -/
def weightReader : ValueReader := firstOf [fixedWeightReader, wordIn ["bolder", "lighter"]]

/-- Reads a width; a minified sheet writes words as percentages. -/
def stretchReader : ValueReader :=
  firstOf [percentageReader, shortenedReader
    [("normal", "100%"), ("ultra-condensed", "50%"), ("extra-condensed", "62.5%"),
     ("condensed", "75%"), ("semi-condensed", "87.5%"), ("semi-expanded", "112.5%"),
     ("expanded", "125%"), ("extra-expanded", "150%"), ("ultra-expanded", "200%")]]

/-- Reads the size of a font. -/
def fontSizeReader : ValueReader :=
  firstOf [extentReader, wordIn
    ["xx-small", "x-small", "small", "medium", "large", "x-large", "xx-large", "xxx-large",
     "smaller", "larger"]]

end ComponentFile.Style
