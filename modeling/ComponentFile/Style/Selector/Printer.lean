import ComponentFile.Style.Identifier
import ComponentFile.Style.Layout
import ComponentFile.Style.Selector.Known

/-!
# Printing selectors

The text of a selector.  `*` is left out where the rest of its compound says as much, hidden
combinators are not written, and the oldest pseudo-elements keep their single colon.

* `Simple.render`, `Selector.render`, `renderSelectors` — the text of a condition, of a selector
  and of a list of selectors.
-/

namespace ComponentFile.Style

/-- The text of a combinator. -/
def Combinator.render (layout : Layout) : Combinator → String
  | .descendant => " "
  | .child => layout.spaced ">"
  | .nextSibling => layout.spaced "+"
  | .laterSibling => layout.spaced "~"
  | .pseudoElement | .slotAssignment | .part => ""

/-- The label in front of a name. -/
def NamePrefix.render : NamePrefix → String
  | .implicit => ""
  | .noSpace => "|"
  | .anySpace => "*|"
  | .labelled label => writeIdentifier label ++ "|"

/-- The sign of a comparison. -/
def Comparison.render : Comparison → String
  | .equals => "="
  | .includes => "~="
  | .dashMatch => "|="
  | .startsWith => "^="
  | .endsWith => "$="
  | .contains => "*="

/-- A test of an attribute's value.  A minified sheet may write the value the shorter way. -/
def ValueTest.render (layout : Layout) (mayShorten : Bool) (test : ValueTest) : String :=
  let value :=
    if layout = .minified && mayShorten then writeShortest test.value else writeString test.value
  let flag := match test.caseFlag with
    | none => ""
    | some letter => " " ++ letter.toString
  test.comparison.render ++ value ++ flag

/-- A condition on an attribute.  The value is always in quotes when the name has a label or a
capital letter. -/
def AttributeTest.render (layout : Layout) (test : AttributeTest) : String :=
  let mayShorten := test.space == .implicit && test.name.written == test.name.lowered
  "[" ++ test.space.render ++ writeIdentifier test.name.written ++
    (test.test.map (ValueTest.render layout mayShorten)).getD "" ++ "]"

/-- An integer with its sign in front, also when it is not negative. -/
def signed (n : Int) : String := if n < 0 then toString n else "+" ++ toString n

/-- The positions `step * n + offset`; every second one from the first on has a name. -/
def renderPositions (step offset : Int) : String :=
  let steps := if step = 1 then "n" else if step = -1 then "-n" else toString step ++ "n"
  if step = 0 then toString offset
  else if offset = 0 then steps
  else if step = 2 ∧ offset = 1 then "odd"
  else steps ++ signed offset

/-- The pseudo-class for the first position of a kind.  There is none for columns, of whose function
only the opening is written. -/
def Position.edge : Position → String
  | .child => "first-child"
  | .lastChild => "last-child"
  | .ofType => "first-of-type"
  | .lastOfType => "last-of-type"
  | .column => "nth-col("
  | .lastColumn => "nth-last-col("

/-- The name of a part of a change of views; `*` stands for all of them. -/
def renderPartName (name : String) : String := if name == "*" then name else writeIdentifier name

/-- Whether a part is a label in front of an element's name. -/
def Simple.isSpace : Simple → Bool
  | .space _ => true
  | _ => false

/-- Whether `*` is written in a compound: behind a label, or when it is all there is and no
pseudo-element or slot follows. -/
def keepsUniversal (isFirst : Bool) (next : Option Combinator) (parts : List Simple) : Bool :=
  let rest := match isFirst, parts with
    | true, .nesting :: rest => rest
    | _, _ => parts
  match rest with
  | .space _ :: _ => true
  | [.universal] => next != some .pseudoElement && next != some .slotAssignment
  | _ => false

/-- Whether a compound is only the element that a relative selector starts from. -/
def isScopeRoot : List Simple → Bool
  | [.pseudoClass "scope"] => true
  | _ => false

/-- Whether a selector is one compound that does not begin with an element's name; only such a
selector may stand without the function around it. -/
def Selector.isBareCompound : Selector → Bool
  | .compound parts =>
    match parts.find? fun part => !part.isSpace with
    | some (.element _) | some .universal => false
    | _ => true
  | .joined .. => false

mutual

/-- The text of a condition. -/
def Simple.render (layout : Layout) : Simple → String
  | .nesting => "&"
  | .element name => writeIdentifier name
  | .universal => "*"
  | .space label => label.render
  | .id name => "#" ++ writeIdentifier name
  | .ofClass name => "." ++ writeIdentifier name
  | .attr test => test.render layout
  | .pseudoClass name => ":" ++ name
  | .nth position step offset =>
    if step = 0 ∧ offset = 1 then ":" ++ position.edge
    else ":" ++ position.function ++ "(" ++ renderPositions step offset ++ ")"
  | .nthOf position step offset within =>
    ":" ++ position.function ++ "(" ++ renderPositions step offset ++ " of " ++
      renderSelectors layout false within ++ ")"
  | .matching name selectors =>
    match name, selectors with
    | "is", [selector] =>
      if selector.isBareCompound then selector.render layout false none
      else ":is(" ++ selector.render layout false none ++ ")"
    | _, selectors =>
      ":" ++ name ++ "(" ++ renderSelectors layout (name == "has") selectors ++ ")"
  | .lang languages =>
    ":lang(" ++ Layout.join layout.comma (languages.map writeIdentifier) ++ ")"
  | .naming function names =>
    ":" ++ function ++ "(" ++ Layout.join layout.comma (names.map writeIdentifier) ++ ")"
  | .pseudoClassOf name arguments => ":" ++ name ++ "(" ++ arguments ++ ")"
  | .pseudoElement name => (if singleColon.contains name then ":" else "::") ++ name
  | .pseudoElementOf name arguments => "::" ++ name ++ "(" ++ arguments ++ ")"
  | .viewTransition function name classes =>
    "::" ++ function ++ "(" ++ (name.map renderPartName).getD "" ++
      String.join (classes.map fun name => "." ++ writeIdentifier name) ++ ")"
  | .cue name selector => "::" ++ name ++ "(" ++ selector.render layout false none ++ ")"
  | .slotted selector => "::slotted(" ++ selector.render layout false none ++ ")"
  | .part names => "::part(" ++ Layout.join " " (names.map writeIdentifier) ++ ")"

/-- The text of the parts of a compound, with or without `*`. -/
def renderParts (layout : Layout) (withUniversal : Bool) : List Simple → String
  | [] => ""
  | .universal :: rest =>
    (if withUniversal then "*" else "") ++ renderParts layout withUniversal rest
  | part :: rest => part.render layout ++ renderParts layout withUniversal rest

/-- The text of a selector in front of a combinator, or at the end of the whole.  A relative one
leaves out the element that it starts from. -/
def Selector.render (layout : Layout) (isRelative : Bool) (next : Option Combinator) :
    Selector → String
  | .compound parts =>
    if isRelative && isScopeRoot parts then ""
    else renderParts layout (keepsUniversal true next parts) parts
  | .joined left combinator parts =>
    left.render layout isRelative (some combinator) ++ combinator.render layout ++
      renderParts layout (keepsUniversal false next parts) parts

/-- The text of selectors with commas between them. -/
def renderSelectors (layout : Layout) (areRelative : Bool) : List Selector → String
  | [] => ""
  | [selector] => selector.render layout areRelative none
  | selector :: rest =>
    selector.render layout areRelative none ++ layout.comma ++
      renderSelectors layout areRelative rest

end

end ComponentFile.Style
