import ComponentFile.Style.Block

/-!
# Rules for fonts

A font is described by where it comes from, how it looks and which characters it has.  Another rule
gives names to the variants that a font offers.

* `CodeRange` — a range of characters; `CodeRange.parse?`, `CodeRange.text` — from and to its text.
* `sourceReader` — where a font comes from.
* `fontDescription?` — the descriptions of a font that are understood.
* `FeatureSet` — names for variants; `readFeatureSets`, `FeatureSet.render` — from and to blocks.
-/

namespace ComponentFile.Style

/-! ## Ranges of characters -/

/-- The characters from one code to another. -/
structure CodeRange where
  first : Nat
  last : Nat
deriving DecidableEq, Repr

namespace CodeRange

/-- The number that hexadecimal digits stand for. -/
def codeOf (digits : List Char) : Nat := digits.foldl (fun n d => n * 16 + hexDigitValue d) 0

/-- The range that a text behind its mark stands for: one code, two with a dash between them, or
the first digits of a code with question marks for the others. -/
def parseCodes? (text : List Char) : Option CodeRange :=
  let digits := text.takeWhile isHexDigit
  let isSound (codes : List Char) : Bool := !codes.isEmpty && codes.length ≤ 6
  match text.dropWhile isHexDigit with
  | [] => if isSound digits then some ⟨codeOf digits, codeOf digits⟩ else none
  | '-' :: last =>
    if isSound digits && isSound last && last.all isHexDigit then
      some ⟨codeOf digits, codeOf last⟩
    else none
  | marks =>
    if marks.all (· == '?') && isSound (digits ++ marks) then
      some ⟨codeOf (digits ++ marks.map fun _ => '0'), codeOf (digits ++ marks.map fun _ => 'f')⟩
    else none

/-- The range that a text stands for. -/
def parse? (text : List Char) : Option CodeRange :=
  match text with
  | u :: '+' :: codes =>
    if u == 'u' || u == 'U' then
      (parseCodes? codes).filter fun range => range.first ≤ range.last ∧ range.last ≤ 0x10FFFF
    else none
  | _ => none

/-- How many of the last hexadecimal digits differ between two codes of at most `limit` digits. -/
def differing : (limit first last : Nat) → Nat
  | 0, _, _ => 0
  | limit + 1, first, last =>
    if first = last then 0 else differing limit (first / 16) (last / 16) + 1

/-- Hexadecimal digits in capitals. -/
def codeText (code : Nat) : String := String.ofList ((Nat.toDigits 16 code).map Char.toUpper)

/-- The text of a range; question marks stand for digits that may be anything. -/
def text (range : CodeRange) : String :=
  let count := differing 6 range.first range.last
  let unit := Nat.pow 16 count
  if count > 0 ∧ range.first % unit = 0 ∧ range.last % unit = unit - 1 then
    let front := range.first / unit
    "U+" ++ (if front = 0 then "" else codeText front) ++
      String.ofList (List.replicate count '?')
  else if range.first = range.last then "U+" ++ codeText range.first
  else "U+" ++ codeText range.first ++ "-" ++ codeText range.last

end CodeRange

/-- The ranges of characters that take up all of some pieces. -/
def codeRangesValue? (input : Pieces) : Option Value := do
  let ranges ← (input.splitAt Piece.isComma).mapM fun part =>
    let trimmed := (part.trim.pieces.reverse.dropWhile Piece.isGap).reverse
    CodeRange.parse? (piecesText trimmed)
  return .join .comma (ranges.map fun range => .ofText range.text)

/-! ## Sources -/

/-- Formats of fonts that have a name. -/
def fontFormats : List String :=
  ["woff", "woff2", "truetype", "opentype", "embedded-opentype", "collection", "svg"]

/-- Reads the format of a font, behind a gap that only serves the reader. -/
def formatReader : ValueReader := fun input => do
  match ← input.next? with
  | (.block ⟨.function name, _, _, _⟩ body stop _, rest) =>
    if name.toLower == "format" then
      let (piece, behind) ← (⟨body, stop⟩ : Pieces).next?
      let word ← match piece.first.token with
        | .string value => some value
        | .ident value => some value
        | _ => none
      let format := if fontFormats.contains word.toLower then word.toLower else word
      if behind.isDone then
        return ([.shortened "" " ", .text ("format(" ++ writeString format ++ ")")], rest)
      else none
    else none
  | _ => none

/-- Reads where a font comes from: an address with its format, or a family that is installed. -/
def sourceReader : ValueReader := fun input => do
  let (piece, rest) ← input.next?
  match piece with
  | .block ⟨.function "local", _, _, _⟩ body stop _ =>
    let family ← familyReader.all? ⟨body, stop⟩
    return (.text "local(" :: family ++ [.text ")"], rest)
  | _ =>
    match ← piece.value.toOption with
    | [.address value] =>
      match formatReader rest with
      | some (format, behind) => return (.address value :: format, behind)
      | none => return ([.address value], rest)
    | _ => none

/-! ## Descriptions -/

/-- The value of a description of a font, if it is understood. -/
def fontDescription? (name : String) (input : Pieces) : Option Value :=
  match name with
  | "font-family" => familyReader.all? input
  | "font-weight" => (weightReader.list? 2 input).map pairValue
  | "font-stretch" => (stretchReader.list? 2 input).map pairValue
  | "font-style" => (wordIn ["normal", "italic", "oblique"]).all? input
  | "unicode-range" => codeRangesValue? input
  | "src" => ((input.splitAt Piece.isComma).mapM sourceReader.all?).map (Value.join .comma)
  | _ => none

/-! ## Variants -/

/-- Reads the name of a family, which has no meaning of its own. -/
def readFamilyName (input : Pieces) : Except Fault String :=
  match input.next? with
  | none => failAtEnd input
  | some (piece, rest) =>
    match piece.first.token, readWords input.pieces.length input with
    | .string name, _ => do
      expectEnd rest
      return writeFamily name
    | _, ([], _) => failAt input (.unexpected piece.first)
    | _, (words, behind) => do
      expectEnd behind
      return writeFamily (Layout.join " " words)

/-- Reads the families that variants belong to. -/
def readFamilyNames (input : Pieces) : Except Fault (List String) :=
  (input.splitAt Piece.isComma).mapM fun part => readFamilyName part.trim

/-- Names for variants of a kind, each with the numbers that stand for it. -/
structure FeatureSet where
  kind : String
  variants : List (String × List Int)
deriving DecidableEq, Repr

/-- The kinds of variants. -/
def featureKinds : List String :=
  ["stylistic", "historical-forms", "styleset", "character-variant", "swash", "ornaments",
   "annotation"]

/-- The integers in front of some pieces, at most `limit` of them. -/
def readIntegers : (limit : Nat) → Pieces → List Int × Pieces
  | 0, input => ([], input)
  | limit + 1, input =>
    match input.next? with
    | some (.token ⟨.number n, _, _, _⟩, rest) =>
      match n.integer? with
      | some i =>
        let (others, last) := readIntegers limit rest
        (i :: others, last)
      | none => ([], input)
    | _ => ([], input)

/-- Gives a name numbers; a name that has some gets the new ones at its place. -/
def assign (name : String) (numbers : List Int) :
    List (String × List Int) → List (String × List Int)
  | [] => [(name, numbers)]
  | (other, old) :: rest =>
    if other == name then (name, numbers) :: rest else (other, old) :: assign name numbers rest

/-- Reads names for variants and adds them to others. -/
def readVariants (variants : List (String × List Int)) (body : Pieces) :
    Except Fault (List (String × List Int)) :=
  body.entries.foldlM (fun variants entry => do
    let (name, value) ← entry.field
    let (numbers, rest) := readIntegers value.pieces.length value
    if numbers.isEmpty then failAt rest .invalidValue
    else
      expectEnd rest
      return assign name numbers variants) variants

/-- The variants of a kind in some sets. -/
def variantsOf (kind : String) (sets : List FeatureSet) : List (String × List Int) :=
  ((sets.find? fun set => set.kind == kind).map FeatureSet.variants).getD []

/-- Replaces the variants of a kind, or adds them at the end. -/
def putVariants (kind : String) (variants : List (String × List Int)) :
    List FeatureSet → List FeatureSet
  | [] => [⟨kind, variants⟩]
  | set :: rest =>
    if set.kind == kind then ⟨kind, variants⟩ :: rest else set :: putVariants kind variants rest

/-- Reads the block of a rule that gives names to variants. -/
def readFeatureSets (body : Pieces) : Except Fault (List FeatureSet) :=
  body.entries.foldlM (fun sets entry => do
    match entry with
    | .atRule keyword head ending =>
      if !featureKinds.contains keyword.toLower then failAt head (.unknownRule keyword)
      else
        expectEnd head
        match ending with
        | .block _ inner =>
          let kind := keyword.toLower
          let variants ← readVariants (variantsOf kind sets) inner
          return putVariants kind variants sets
        | _ => failWithoutBlock head ending
    | .declaration _ behind => failAt behind .invalidDeclaration
    | .other piece => .error ⟨.unexpected piece.first, piece.start⟩) []

/-- The text of names for variants; they are not indented further than their rule. -/
def FeatureSet.render (layout : Layout) (depth : Nat) (set : FeatureSet) : String :=
  let texts := set.variants.map fun (name, numbers) =>
    layout.line (depth + 1) ++ writeIdentifier name ++ layout.colon ++
      Layout.join " " (numbers.map toString)
  "@" ++ set.kind ++ "\x7b" ++ Layout.join ";" texts ++
    (if texts.isEmpty then "" else layout.choose "" ";") ++ layout.line depth ++ "\x7d"

/-- The block of a rule that gives names to variants. -/
def renderFeatureSets (layout : Layout) (depth : Nat) (sets : List FeatureSet) : String :=
  let line := layout.line depth
  "\x7b" ++ (if sets.isEmpty then "" else line) ++
    String.join (sets.map fun set => set.render layout depth ++ line) ++ "\x7d"

end ComponentFile.Style
