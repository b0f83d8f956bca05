import ComponentFile.Style.Layout

/-!
# Ways to display a box

How a box is displayed is said in one word or in several: how it stands among others, what it holds
and whether it is an item of a list.  The same is always printed in the fewest words.

* `Display` — what is said; `Display.ofWords?` — the text for what some words say.
-/

namespace ComponentFile.Style

/-- Ways to display a box that are one word and say all. -/
def displayKeywords : List String :=
  ["none", "contents", "table-row-group", "table-header-group", "table-footer-group", "table-row",
   "table-cell", "table-column-group", "table-column", "table-caption", "ruby-base", "ruby-text",
   "ruby-base-container", "ruby-text-container"]

/-- How a box is displayed: among others, and what it holds. -/
structure Display where
  outside : Option String := none
  inside : Option String := none
  isListItem : Bool := false
deriving DecidableEq, Repr

namespace Display

/-- Words for what a box holds. -/
def insides : List String :=
  ["flow", "flow-root", "table", "flex", "-webkit-flex", "-ms-flexbox", "-webkit-box", "-moz-box",
   "grid", "ruby"]

/-- One word for a box among other words and a way to arrange what it holds. -/
def combined : List (String × Display) :=
  [("inline-block", "flow-root"), ("inline-table", "table"), ("inline-flex", "flex"),
   ("-webkit-inline-flex", "-webkit-flex"), ("-ms-inline-flexbox", "-ms-flexbox"),
   ("-webkit-inline-box", "-webkit-box"), ("-moz-inline-box", "-moz-box"),
   ("inline-grid", "grid")].map fun (word, inside) =>
     (word, { outside := some "inline", inside := some inside })

/-- Takes one more word into account, if it says something new. -/
def add (display : Display) (word : String) : Option Display :=
  if word == "list-item" then some { display with isListItem := true }
  else if ["block", "inline", "run-in"].contains word && display.outside.isNone then
    some { display with outside := some word }
  else if insides.contains word && display.inside.isNone then
    some { display with inside := some word }
  else none

/-- What a box holds when nothing is said. -/
def arrangement (display : Display) : String := display.inside.getD "flow"

/-- How a box stands among others when nothing is said. -/
def usualOutside (display : Display) : String :=
  if display.arrangement == "ruby" then "inline" else "block"

/-- The words for a way to display a box. -/
def words (display : Display) : List String :=
  let outside := display.outside.getD display.usualOutside
  let inside := display.arrangement
  (if outside != display.usualOutside || (inside == "flow" && !display.isListItem)
    then [outside] else []) ++
    (if inside != "flow" then [inside] else []) ++
    (if display.isListItem then ["list-item"] else [])

/-- The shortest text for a way to display a box. -/
def render (display : Display) : String :=
  let full : Display :=
    { display with
      outside := some (display.outside.getD display.usualOutside)
      inside := some display.arrangement }
  match combined.find? fun (_, other) => other == full with
  | some (word, _) => word
  | none => Layout.join " " display.words

/-- The text for a way to display a box that some words say. -/
def ofWords? (words : List String) : Option String :=
  match words with
  | [] => none
  | [word] =>
    if displayKeywords.contains word || (combined.lookup word).isSome then some word
    else (add { } word).map render
  | _ => do
    let display ← words.foldlM add { }
    if display.isListItem && display.arrangement ∉ ["flow", "flow-root"] then none
    else some display.render

end Display

end ComponentFile.Style
