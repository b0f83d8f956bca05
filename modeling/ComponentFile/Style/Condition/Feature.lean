import ComponentFile.Style.Condition
import ComponentFile.Style.Property

/-!
# Tests of measures

A medium or a container is tested by its features.  A feature has a value of a certain kind.  One
that is measured can be compared with a value, and `min-` and `max-` in front of its name are
comparisons too, so they are read as such.

* `FeatureKind`, `FeatureValue` — what features have for values; `FeatureTable` — the features that
  are known.
* `Relation`, `Feature` — comparisons and tests; `Feature.render`, `readFeature` — their text.
-/

namespace ComponentFile.Style

open ComponentFile (Location)

/-! ## Values -/

/-- What a feature has for a value. -/
inductive FeatureKind where
  | length
  | number
  | integer
  | boolean
  | resolution
  | ratio
  | word
  | unknown
deriving DecidableEq, Repr

/-- Whether values of a kind can be compared. -/
def FeatureKind.isMeasured : FeatureKind → Bool
  | boolean | word => false
  | length | number | integer | resolution | ratio | unknown => true

/-- The value of a feature. -/
inductive FeatureValue where
  | length (x : Measure) (unit : String)
  | number (x : Measure)
  | integer (i : Int)
  | boolean (b : Bool)
  | resolution (x : Measure) (unit : String)
  | ratio (x y : Measure)
  | word (name : String)
  /-- What the surroundings of a page give, which may be of any kind. -/
  | surrounding (value : Value)
deriving DecidableEq, Repr

namespace FeatureValue

/-- The kind of a value. -/
def kind : FeatureValue → FeatureKind
  | length _ _ => .length
  | number _ => .number
  | integer _ => .integer
  | boolean _ => .boolean
  | resolution _ _ => .resolution
  | ratio _ _ => .ratio
  | word _ => .word
  | surrounding _ => .unknown

/-- Whether a value is of the kind that is expected. -/
def isOf (expected : FeatureKind) (value : FeatureValue) : Bool :=
  expected == .unknown || value.kind == .unknown || expected == value.kind

/-- The text of a value.  A length of zero has no unit. -/
def render (layout : Layout) : FeatureValue → String
  | length x unit => lengthText x unit
  | number x => x.short
  | integer i => toString i
  | boolean b => if b then "1" else "0"
  | resolution x unit => dimensionText x unit
  | ratio x y => x.short ++ if y.short == "1" then "" else layout.spaced "/" ++ y.short
  | word name => writeIdentifier name
  | surrounding value => value.render layout false

end FeatureValue

/-- Reads a plain number. -/
def readNumber? (input : Pieces) : Option (Measure × Pieces) := do
  let (q, rest) ← Quantity.read? input
  if q.isNumber then return (q.size, rest) else none

/-- Reads a ratio; the second number and the stroke in front of it may be missing if that is
said. -/
def readRatio? (needsStroke : Bool) (input : Pieces) : Option (FeatureValue × Pieces) := do
  let (x, rest) ← readNumber? input
  match rest.afterStroke? with
  | some behind =>
    let (y, last) ← readNumber? behind
    return (.ratio x y, last)
  | none => if needsStroke then none else return (.ratio x (.ofDecimal ⟨false, 1, 0⟩), rest)

/-- Reads a length; a number without a unit counts pixels. -/
def readLength? (input : Pieces) : Option (FeatureValue × Pieces) := do
  let (q, rest) ← Quantity.read? input
  if q.isNumber then return (.length q.size "px", rest)
  else if lengthUnits.contains q.unit then return (.length q.size q.unit, rest)
  else none

/-- The resolution that a token stands for. -/
def resolutionOf? : Token → Option FeatureValue
  | .dimension n unit =>
    match unit.toLower with
    | "dpi" => some (.resolution n.measure "dpi")
    | "dpcm" => some (.resolution n.measure "dpcm")
    | "dppx" | "x" => some (.resolution n.measure "x")
    | _ => none
  | _ => none

/-- The value of a kind that a token stands for. -/
def FeatureKind.valueOf? (kind : FeatureKind) (token : Token) : Option FeatureValue :=
  match kind, token with
  | .resolution, token => resolutionOf? token
  | .integer, .number n => n.integer?.map .integer
  | .boolean, .number n =>
    if n.integer? = some 0 then some (.boolean false)
    else if n.integer? = some 1 then some (.boolean true)
    else none
  | .word, .ident name => some (.word name)
  | _, _ => none

/-- Reads a value of a kind. -/
def readKnownValue? (kind : FeatureKind) (input : Pieces) : Option (FeatureValue × Pieces) :=
  match kind with
  | .ratio => readRatio? false input
  | .length => readLength? input
  | .number => (readNumber? input).map fun (x, rest) => (.number x, rest)
  | _ => do
    let (piece, rest) ← input.next?
    let value ← kind.valueOf? piece.first.token
    return (value, rest)

/-- Reads a value that the surroundings of a page give. -/
def readSurrounding? (input : Pieces) : Option (FeatureValue × Pieces) := do
  match ← input.next? with
  | (.block ⟨.function name, _, _, _⟩ body stop _, rest) =>
    if name.toLower == "env" then
      let value ← (surroundingValue (body.zip (pieceValues body)) stop).toOption
      return (.surrounding value, rest)
    else none
  | _ => none

/-- Reads a value of any kind. -/
def readAnyValue (input : Pieces) : Except Fault (FeatureValue × Pieces) :=
  match readRatio? true input with
  | some found => .ok found
  | none =>
    let kinds : List FeatureKind := [.number, .length, .resolution, .word]
    match (kinds.findSome? fun kind => readKnownValue? kind input) <|> readSurrounding? input with
    | some found => .ok found
    | none => failAtNext input

/-- Reads a value, of the kind that is expected if it can be. -/
def readFeatureValue (kind : FeatureKind) (input : Pieces) :
    Except Fault (FeatureValue × Pieces) :=
  match readKnownValue? kind input with
  | some found => .ok found
  | none => readAnyValue input

/-! ## Names -/

/-- Features with the kinds of their values. -/
abbrev FeatureTable := List (String × FeatureKind)

/-- The features of a medium. -/
def mediaFeatures : FeatureTable :=
  [("width", .length), ("height", .length), ("device-width", .length),
   ("device-height", .length), ("aspect-ratio", .ratio), ("device-aspect-ratio", .ratio),
   ("resolution", .resolution), ("color", .integer), ("color-index", .integer),
   ("monochrome", .integer), ("horizontal-viewport-segments", .integer),
   ("vertical-viewport-segments", .integer), ("-webkit-device-pixel-ratio", .number),
   ("-moz-device-pixel-ratio", .number), ("grid", .boolean)] ++
  ["orientation", "overflow-block", "overflow-inline", "display-mode", "scan", "update",
   "environment-blending", "color-gamut", "dynamic-range", "inverted-colors", "pointer", "hover",
   "any-pointer", "any-hover", "nav-controls", "video-color-gamut", "video-dynamic-range",
   "scripting", "prefers-reduced-motion", "prefers-reduced-transparency", "prefers-contrast",
   "forced-colors", "prefers-color-scheme", "prefers-reduced-data"].map fun name => (name, .word)

/-- The features of a container. -/
def containerFeatures : FeatureTable :=
  [("width", .length), ("height", .length), ("inline-size", .length), ("block-size", .length),
   ("aspect-ratio", .ratio), ("orientation", .word)]

/-- How a measure is compared. -/
inductive Relation where
  | equal
  | less
  | lessEqual
  | greater
  | greaterEqual
deriving DecidableEq, Repr

namespace Relation

/-- The sign of a comparison. -/
def sign : Relation → String
  | equal => "="
  | less => "<"
  | lessEqual => "<="
  | greater => ">"
  | greaterEqual => ">="

/-- The comparison with its sides exchanged. -/
def flip : Relation → Relation
  | equal => equal
  | less => greater
  | lessEqual => greaterEqual
  | greater => less
  | greaterEqual => lessEqual

/-- The comparison that is written for the negation of another one; that two are equal is written
for its own negation. -/
def opposite : Relation → Relation
  | equal => equal
  | less => greaterEqual
  | lessEqual => greater
  | greater => lessEqual
  | greaterEqual => less

/-- Whether two comparisons go in one direction. -/
def agreesWith : Relation → Relation → Bool
  | less, less | less, lessEqual | lessEqual, less | lessEqual, lessEqual => true
  | greater, greater | greater, greaterEqual | greaterEqual, greater => true
  | greaterEqual, greaterEqual => true
  | _, _ => false

end Relation

/-- The name of a feature, the kind of its values, and the comparison that stands in front of the
name. -/
structure FeatureName where
  text : String
  kind : FeatureKind
  relation : Option Relation := none

/-- Splits the comparison off a name in lower case; makers put their mark in front of it. -/
def splitRelation (lowered : String) : String × Option Relation :=
  let (mark, name) :=
    if lowered.startsWith "-webkit-" then ("-webkit-", (lowered.drop 8).toString)
    else ("", lowered)
  if name.startsWith "min-" then (mark ++ (name.drop 4).toString, some .greaterEqual)
  else if name.startsWith "max-" then (mark ++ (name.drop 4).toString, some .lessEqual)
  else (lowered, none)

/-- The feature that a name stands for; one that is not known is kept as it is written. -/
def FeatureTable.find (table : FeatureTable) (name : String) : FeatureName :=
  let (plain, relation) := splitRelation name.toLower
  match table.lookup plain with
  | some kind => if name.startsWith "--" then ⟨name, .unknown, none⟩ else ⟨plain, kind, relation⟩
  | none => ⟨name, .unknown, none⟩

/-! ## Tests -/

/-- A test of a feature. -/
inductive Feature where
  | present (name : String)
  | plain (name : String) (value : FeatureValue)
  | range (name : String) (relation : Relation) (value : FeatureValue)
  | interval (low : FeatureValue) (lower : Relation) (name : String) (upper : Relation)
      (high : FeatureValue)
deriving DecidableEq, Repr

/-- The text of a test. -/
def Feature.render (layout : Layout) : Feature → String
  | present name => "(" ++ writeIdentifier name ++ ")"
  | plain name value =>
    "(" ++ writeIdentifier name ++ layout.colon ++ value.render layout ++ ")"
  | range name relation value =>
    "(" ++ writeIdentifier name ++ layout.spaced relation.sign ++ value.render layout ++ ")"
  | interval low lower name upper high =>
    "(" ++ low.render layout ++ layout.spaced lower.sign ++ writeIdentifier name ++
      layout.spaced upper.sign ++ high.render layout ++ ")"

/-- The opposite of a comparison. -/
def Feature.opposite? : Feature → Option Feature
  | range name relation value => some (range name relation.opposite value)
  | _ => none

/-- Writes tests of features. -/
def featureWriter (layout : Layout) : TestWriter Feature :=
  { text := Feature.render layout, opposite? := Feature.opposite?, cancels := true }

/-- Reads the sign of a comparison. -/
def readRelation (input : Pieces) : Except Fault (Relation × Pieces) :=
  match input.next? with
  | none => failAtEnd input
  | some (piece, rest) =>
    let equal? := match rest.next? with
      | some (next, behind) => if next.isDelim '=' then some behind else none
      | none => none
    if piece.isDelim '=' then .ok (.equal, rest)
    else if piece.isDelim '<' then
      .ok (match equal? with
        | some behind => (.lessEqual, behind)
        | none => (.less, rest))
    else if piece.isDelim '>' then
      .ok (match equal? with
        | some behind => (.greaterEqual, behind)
        | none => (.greater, rest))
    else failAt input (.unexpected piece.first)

/-- Reads the name of a feature. -/
def readFeatureName (table : FeatureTable) (input : Pieces) :
    Except Fault (FeatureName × Pieces) :=
  match input.next? with
  | none => failAtEnd input
  | some (piece, rest) =>
    match piece.ident? with
    | some name => .ok (table.find name, rest)
    | none => failAt input (.unexpected piece.first)

/-- Reads a test that begins with the name of a feature. -/
def readNameFirst (table : FeatureTable) (input : Pieces) : Except Fault (Feature × Pieces) := do
  let (name, rest) ← readFeatureName table input
  let finish (relation : Option Relation) (behind : Pieces) : Except Fault (Feature × Pieces) := do
    let (value, last) ← readFeatureValue name.kind behind
    if !value.isOf name.kind then failAt last .invalidMediaQuery
    else
      match relation with
      | none => return (.plain name.text value, last)
      | some relation =>
        if name.kind.isMeasured then return (.range name.text relation value, last)
        else failAt last .invalidMediaQuery
  match rest.next? with
  | some (piece, behind) =>
    if piece.isColon then finish name.relation behind
    else
      match readRelation rest with
      | .error _ => return (.present name.text, rest)
      | .ok (relation, behind) =>
        if name.relation.isSome then failAt behind .invalidMediaQuery
        else finish (some relation) behind
  | none => return (.present name.text, rest)

/-- The place behind the last of some pieces that is not a gap, or their end if there is none. -/
def lastPlace (input : Pieces) : Location :=
  if input.isDone then input.stop
  else
    match (input.pieces.reverse.takeWhile Piece.isGap).getLast? with
    | some gap => gap.start
    | none => input.stop

/-- The first feature that some pieces name. -/
def namedFeature (table : FeatureTable) (input : Pieces) : Except Fault FeatureName :=
  let (front, rest) := input.breakAt fun piece => piece.ident?.isSome
  match rest.pieces with
  | [] => .error ⟨.invalidMediaQuery, lastPlace front⟩
  | piece :: behind =>
    let name := table.find (piece.ident?.getD "")
    if name.relation.isSome then failAt ⟨behind, input.stop⟩ .invalidMediaQuery else .ok name

/-- Reads a test that begins with a value. -/
def readValueFirst (table : FeatureTable) (input : Pieces) : Except Fault (Feature × Pieces) := do
  let name ← namedFeature table input
  let (low, rest) ← readFeatureValue name.kind input
  let (lower, rest) ← readRelation rest
  let (_, rest) ← readFeatureName table rest
  if !name.kind.isMeasured || !low.isOf name.kind then failAt rest .invalidMediaQuery
  else
    match readRelation rest with
    | .error _ => return (.range name.text lower.flip low, rest)
    | .ok (upper, behind) =>
      if !lower.agreesWith upper then failAt behind .invalidMediaQuery
      else
        let (high, last) ← readFeatureValue name.kind behind
        if high.isOf name.kind then return (.interval low lower name.text upper high, last)
        else failAt last .invalidMediaQuery

/-- Reads a test of a feature from all that stands in its brackets. -/
def readFeature (table : FeatureTable) (body : Pieces) : Except Fault Feature := do
  let (feature, rest) ← match readNameFirst table body with
    | .ok found => pure found
    | .error ⟨.invalidMediaQuery, place⟩ => .error ⟨.invalidMediaQuery, place⟩
    | .error _ => readValueFirst table body
  expectEnd rest
  return feature

end ComponentFile.Style
