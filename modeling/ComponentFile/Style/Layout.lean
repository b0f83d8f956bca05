/-!
# Layouts

A stylesheet is printed in one of two layouts: minified, where no blank stands that could be left
out, or pretty, with one declaration a line.

* `Layout` — the two layouts.
* `Layout.blank`, `Layout.spaced`, `Layout.comma`, `Layout.colon` — the marks that differ.
* `Layout.line` — the start of a new line at a depth of nesting.
-/

namespace ComponentFile.Style

/-- How a stylesheet is laid out. -/
inductive Layout where
  | minified
  | pretty
deriving DecidableEq, Repr

namespace Layout

/-- The first text in a minified sheet and the second in a pretty one. -/
def choose (layout : Layout) (minified pretty : String) : String :=
  match layout with
  | .minified => minified
  | .pretty => pretty

/-- A blank that only serves the reader. -/
def blank (layout : Layout) : String := layout.choose "" " "

/-- A mark with blanks around it that only serve the reader. -/
def spaced (layout : Layout) (mark : String) : String := layout.blank ++ mark ++ layout.blank

/-- A comma in a list. -/
def comma (layout : Layout) : String := "," ++ layout.blank

/-- A colon between a name and its value. -/
def colon (layout : Layout) : String := ":" ++ layout.blank

/-- A new line at a depth of nesting; a minified sheet has none. -/
def line (layout : Layout) (depth : Nat) : String :=
  layout.choose "" ("\n" ++ String.ofList (List.replicate (2 * depth) ' '))

/-- Texts with a separator between them. -/
def join (separator : String) : List String → String
  | [] => ""
  | [text] => text
  | text :: rest => text ++ separator ++ join separator rest

end Layout

end ComponentFile.Style
