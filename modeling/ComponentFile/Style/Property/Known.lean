import ComponentFile.Style.Property.Display
import ComponentFile.Style.Property.Font
import ComponentFile.Style.Property.Name

/-!
# Values of known properties

What the properties that are known take for values.

* `keywords?` — the words that some properties take, one at a time; `readers` — other single
  values.
* `knownValue?` — the values that are understood.
-/

namespace ComponentFile.Style

/-! ## Words -/

/-- What a box does with what does not fit in. -/
def overflows : List String := ["visible", "hidden", "clip", "scroll", "auto"]

/-- The words that a property of boxes takes, one at a time. -/
def boxKeywords? : (base : String) → Option (List String)
  | "position" => some ["static", "relative", "absolute", "fixed", "sticky", "-webkit-sticky"]
  | "visibility" => some ["visible", "hidden", "collapse"]
  | "box-sizing" => some ["content-box", "border-box"]
  | "overflow-x" | "overflow-y" => some overflows
  | "flex-direction" => some ["row", "row-reverse", "column", "column-reverse"]
  | "flex-wrap" => some ["nowrap", "wrap", "wrap-reverse"]
  | "resize" => some ["none", "both", "horizontal", "vertical", "block", "inline"]
  | "box-decoration-break" => some ["slice", "clone"]
  | "box-orient" => some ["horizontal", "vertical", "inline-axis", "block-axis"]
  | "box-direction" => some ["normal", "reverse"]
  | "box-align" => some ["start", "end", "center", "baseline", "stretch"]
  | "box-pack" => some ["start", "end", "center", "justify"]
  | "box-lines" => some ["single", "multiple"]
  | "flex-pack" => some ["start", "end", "center", "justify", "distribute"]
  | "flex-align" => some ["start", "end", "center", "baseline", "stretch"]
  | "flex-item-align" => some ["auto", "start", "end", "center", "baseline", "stretch"]
  | "flex-line-pack" => some ["start", "end", "center", "justify", "distribute", "stretch"]
  | "container-type" => some ["normal", "inline-size", "size", "scroll-state"]
  | "outline-style" => some ("auto" :: lineStyles)
  | _ => none

/-- The words that a property of text takes, one at a time. -/
def textKeywords? : (base : String) → Option (List String)
  | "text-overflow" => some ["clip", "ellipsis"]
  | "direction" => some ["ltr", "rtl"]
  | "text-align" =>
    some ["start", "end", "left", "right", "center", "justify", "match-parent", "justify-all"]
  | "text-align-last" =>
    some ["auto", "start", "end", "left", "right", "center", "justify", "match-parent"]
  | "text-justify" => some ["auto", "none", "inter-word", "inter-character"]
  | "white-space" => some ["normal", "pre", "nowrap", "pre-wrap", "break-spaces", "pre-line"]
  | "text-transform" =>
    some ["none", "uppercase", "lowercase", "capitalize", "full-width", "full-size-kana"]
  | "word-break" => some ["normal", "keep-all", "break-all", "break-word"]
  | "line-break" => some ["auto", "loose", "normal", "strict", "anywhere"]
  | "hyphens" => some ["none", "manual", "auto"]
  | "overflow-wrap" | "word-wrap" => some ["normal", "break-word", "anywhere"]
  | "unicode-bidi" =>
    some ["normal", "embed", "isolate", "bidi-override", "isolate-override", "plaintext"]
  | "text-decoration-style" => some ["solid", "double", "dotted", "dashed", "wavy"]
  | "text-decoration-line" =>
    some ["none", "underline", "overline", "line-through", "blink", "spelling-error",
      "grammar-error"]
  | "text-decoration-skip-ink" => some ["auto", "none", "all"]
  | "list-style-position" => some ["inside", "outside"]
  | "marker-side" => some ["match-self", "match-parent"]
  | "font-style" => some ["normal", "italic", "oblique"]
  | "font-variant-caps" =>
    some ["normal", "small-caps", "all-small-caps", "petite-caps", "all-petite-caps", "unicase",
      "titling-caps"]
  | _ => none

/-- The words that a property of colours, pictures or motion takes, one at a time. -/
def paintKeywords? : (base : String) → Option (List String)
  | "user-select" => some ["auto", "text", "none", "contain", "all"]
  | "appearance" =>
    some ["none", "auto", "textfield", "menulist-button", "button", "checkbox", "listbox",
      "menulist", "meter", "progress-bar", "push-button", "radio", "searchfield",
      "slider-horizontal", "square-button", "textarea"]
  | "caret-shape" => some ["auto", "bar", "block", "underscore"]
  | "fill-rule" | "clip-rule" => some ["nonzero", "evenodd"]
  | "stroke-linecap" => some ["butt", "round", "square"]
  | "stroke-linejoin" => some ["miter", "miter-clip", "round", "bevel", "arcs"]
  | "color-interpolation" | "color-interpolation-filters" =>
    some ["auto", "srgb", "linearrgb"]
  | "color-rendering" | "image-rendering" => some ["auto", "optimizespeed", "optimizequality"]
  | "shape-rendering" => some ["auto", "optimizespeed", "crispedges", "geometricprecision"]
  | "text-rendering" =>
    some ["auto", "optimizespeed", "optimizelegibility", "geometricprecision"]
  | "mask-type" => some ["luminance", "alpha"]
  | "transform-style" => some ["flat", "preserve-3d"]
  | "transform-box" =>
    some ["content-box", "border-box", "fill-box", "stroke-box", "view-box"]
  | "backface-visibility" => some ["visible", "hidden"]
  | "print-color-adjust" => some ["economy", "exact"]
  | "all" => some wideKeywords
  | "cursor" =>
    some ["auto", "default", "none", "context-menu", "help", "pointer", "progress", "wait",
      "cell", "crosshair", "text", "vertical-text", "alias", "copy", "move", "no-drop",
      "not-allowed", "grab", "grabbing", "e-resize", "n-resize", "ne-resize", "nw-resize",
      "s-resize", "se-resize", "sw-resize", "w-resize", "ew-resize", "ns-resize",
      "nesw-resize", "nwse-resize", "col-resize", "row-resize", "all-scroll", "zoom-in",
      "zoom-out"]
  | _ => none

/-- The words that a property takes, one at a time. -/
def keywords? (base : String) : Option (List String) :=
  boxKeywords? base <|> textKeywords? base <|> paintKeywords? base

/-! ## Kinds of properties -/

/-- The properties for single sides of a box, between a front and an ending. -/
def singleSides (front ending : String) : List String :=
  (boxSides ++ ["block-start", "block-end", "inline-start", "inline-end"]).map fun side =>
    front ++ side ++ ending

/-- The properties for opposite sides of a box, between a front and an ending. -/
def oppositeSides (front ending : String) : List String :=
  ["block", "inline"].map fun direction => front ++ direction ++ ending

/-- The properties that take one colour. -/
def colorProperties : List String :=
  ["color", "background-color", "outline-color", "text-decoration-color",
   "text-emphasis-color"] ++ singleSides "border-" "-color"

/-- The properties that take the size of a box. -/
def sizeProperties : List String :=
  ["width", "height", "block-size", "inline-size", "min-width", "min-height", "min-block-size",
   "min-inline-size"]

/-- The properties that take the greatest size of a box. -/
def limitProperties : List String :=
  ["max-width", "max-height", "max-block-size", "max-inline-size"]

/-- The properties that take one place of a side. -/
def placeProperties : List String :=
  boxSides ++ singleSides "margin-" "" ++ singleSides "scroll-padding-" "" ++
    ["inset-block-start", "inset-block-end", "inset-inline-start", "inset-inline-end"]

/-- Words for sizes that come from what a box holds. -/
def contentSizes : List String :=
  ["min-content", "-webkit-min-content", "-moz-min-content", "max-content",
   "-webkit-max-content", "-moz-max-content", "fit-content", "-webkit-fit-content",
   "-moz-fit-content", "stretch", "-webkit-fill-available", "-moz-available", "contain"]

/-! ## Readers -/

/-- Reads a length, a percentage or the word for what suits. -/
def placeReader : ValueReader := firstOf [extentReader, wordIn ["auto"]]

/-- Reads a gap between boxes. -/
def gapReader : ValueReader := firstOf [extentReader, wordIn ["normal"]]

/-- The reader for a property that takes a single value other than a word. -/
def reader? (base : String) : Option ValueReader :=
  if colorProperties.contains base then some colorReader
  else if sizeProperties.contains base then
    some (firstOf [extentReader, wordIn ("auto" :: contentSizes)])
  else if limitProperties.contains base then
    some (firstOf [extentReader, wordIn ("none" :: contentSizes)])
  else if placeProperties.contains base then some placeReader
  else if (singleSides "padding-" "").contains base then some extentReader
  else if (singleSides "scroll-margin-" "").contains base then some lengthReader
  else if (singleSides "border-" "-style").contains base then some (wordIn lineStyles)
  else if (singleSides "border-" "-width").contains base then some lineWidthReader
  else
    match base with
    | "opacity" | "fill-opacity" | "stroke-opacity" => some shareReader
    | "order" | "box-ordinal-group" | "box-flex-group" | "flex-order" => some integerReader
    | "z-index" => some (firstOf [wordIn ["auto"], integerReader])
    | "flex-grow" | "flex-shrink" | "box-flex" | "flex-positive" | "flex-negative"
    | "stroke-miterlimit" => some numberReader
    | "flex-basis" | "flex-preferred-size" => some placeReader
    | "row-gap" | "column-gap" => some gapReader
    | "caret-color" | "accent-color" => some (firstOf [wordIn ["auto"], colorReader])
    | "outline-width" => some lineWidthReader
    | "font-weight" => some weightReader
    | "font-stretch" => some stretchReader
    | "font-size" => some fontSizeReader
    | "line-height" => some (firstOf [wordIn ["normal"], numberReader, extentReader])
    | "letter-spacing" | "word-spacing" => some (firstOf [wordIn ["normal"], lengthReader])
    | "text-indent" => some extentReader
    | "tab-size" => some (firstOf [numberReader, lengthReader])
    | "text-decoration-thickness" =>
      some (firstOf [wordIn ["auto", "from-font"], extentReader])
    | "text-size-adjust" => some (firstOf [wordIn ["auto", "none"], percentageReader])
    | "vertical-align" =>
      some (firstOf [extentReader, wordIn ["baseline", "sub", "super", "top", "text-top",
        "middle", "bottom", "text-bottom"]])
    | "perspective" => some (firstOf [wordIn ["none"], lengthReader])
    | "stroke-width" | "stroke-dashoffset" => some extentReader
    | _ => (keywords? base).map wordIn

/-- The reader of the single values for a property that takes up to two of them. -/
def pairReader? (base : String) : Option ValueReader :=
  if (oppositeSides "margin-" "" ++ oppositeSides "inset-" "" ++
      oppositeSides "scroll-padding-" "").contains base then some placeReader
  else if (oppositeSides "padding-" "").contains base then some extentReader
  else if (oppositeSides "scroll-margin-" "").contains base then some lengthReader
  else if (oppositeSides "border-" "-style").contains base then some (wordIn lineStyles)
  else if (oppositeSides "border-" "-width").contains base then some lineWidthReader
  else if (oppositeSides "border-" "-color").contains base then some colorReader
  else if (cornerRadii ++ ["border-start-start-radius", "border-start-end-radius",
      "border-end-start-radius", "border-end-end-radius"]).contains base then some extentReader
  else
    match base with
    | "overflow" => some (wordIn overflows)
    | "gap" => some gapReader
    | "border-spacing" => some lengthReader
    | _ => none

/-- The reader of the single values for a property that takes those of four sides. -/
def sidesReader? : (base : String) → Option ValueReader
  | "margin" | "inset" | "scroll-padding" => some placeReader
  | "padding" => some extentReader
  | "scroll-margin" => some lengthReader
  | "border-style" => some (wordIn lineStyles)
  | "border-width" => some lineWidthReader
  | "border-color" => some colorReader
  | _ => none

/-! ## Values -/

/-- The words that pieces consist of, if they consist of words. -/
def words? (pieces : List Piece) : Option (List String) :=
  (pieces.filter fun piece => !piece.isGap).mapM fun piece => piece.ident?.map String.toLower

/-- The value of a background that is one colour or nothing. -/
def backgroundValue? (input : Pieces) : Option Value := do
  let value ← (firstOf [colorReader, wordIn ["none"]]).all? input
  if value == .ofText "none" || value == .ofText "#0000" then some [.shortened "0 0" "none"]
  else some value

/-- The direction of a row of boxes and how it is wrapped, in any order. -/
def flowValue? (input : Pieces) : Option Value := do
  let direction := wordIn ((keywords? "flex-direction").getD [])
  let wrap := wordIn ((keywords? "flex-wrap").getD [])
  let (first, rest) ← firstOf [direction, wrap] input
  let firstIsDirection := (direction input).isSome
  let second ←
    if rest.isDone then some none
    else ((if firstIsDirection then wrap else direction).all? rest).map some
  let (direction, wrap) := if firstIsDirection then (some first, second) else (second, some first)
  let parts := [direction.filter (· != .ofText "row"), wrap.filter (· != .ofText "nowrap")]
  let parts := parts.filterMap id
  return if parts.isEmpty then .ofText "row" else .words parts

/-- How much a flexible box grows and shrinks, and the extent that it starts from; where nothing
else is said it grows and shrinks from nothing. -/
structure Flex where
  grow : Option Value := none
  shrink : Option Value := none
  basis : Option Value := none

/-- Reads the parts of a flexible box in any order, at most `limit` of them. -/
def readFlexParts : (limit : Nat) → Flex → Pieces → Flex × Pieces
  | 0, flex, input => (flex, input)
  | limit + 1, flex, input =>
    match flex.grow, numberReader input with
    | none, some (grow, rest) =>
      match numberReader rest with
      | some (shrink, rest) =>
        readFlexParts limit { flex with grow := some grow, shrink := some shrink } rest
      | none => readFlexParts limit { flex with grow := some grow } rest
    | _, _ =>
      match flex.basis, placeReader input with
      | none, some (basis, rest) => readFlexParts limit { flex with basis := some basis } rest
      | _, _ => (flex, input)

/-- The value for a flexible box in the fewest words. -/
def Flex.value (flex : Flex) : Value :=
  let one := Value.ofText "1"
  let grow := flex.grow.getD one
  let shrink := flex.shrink.getD one
  let basis := flex.basis.getD (.ofText "0%")
  let isUsual := grow == one && shrink == one
  let isZero := basis == .ofText "0"
  let isNothing := basis == .ofText "0%"
  if basis == .ofText "auto" && grow == .ofText "0" && shrink == .ofText "0" then .ofText "none"
  else
    .words <| (if isUsual && !isZero && !isNothing then [] else [grow]) ++
      (if shrink != one || isZero then [shrink] else []) ++
      (if isNothing then [] else [basis])

/-- The value for a flexible box that takes up all of some pieces. -/
def flexValue? (input : Pieces) : Option Value :=
  if ((wordIn ["none"]).all? input).isSome then some (.ofText "none")
  else
    let (flex, rest) := readFlexParts 2 { } input
    if rest.isDone && !input.isDone then some flex.value else none

/-- The value that a property takes; `none` if it is not understood. -/
def knownValue? (base : String) (input : Pieces) : Option Value :=
  match base with
  | "display" => ((words? input.pieces).bind Display.ofWords?).map .ofText
  | "font-family" => familiesValue? input
  | "background" => backgroundValue? input
  | "flex" => flexValue? input
  | "flex-flow" => flowValue? input
  | "border-radius" => cornersValue? input
  | "outline" => readLine? ("auto" :: lineStyles) input
  | _ =>
    if "border" == base || (sided "border-" [""]).contains base then readLine? lineStyles input
    else
      match reader? base, pairReader? base, sidesReader? base with
      | some reader, _, _ => reader.all? input
      | none, some reader, _ => (reader.list? 2 input).map pairValue
      | none, none, some reader => (reader.list? 4 input).map sidesValue
      | none, none, none => none

end ComponentFile.Style
