import ComponentFile.Script.Quote
import ComponentFile.Text.Blank

/-!
# Laying out scripts

A script is printed as a list of marks: texts, ends of lines and the blanks in front of lines.  What
a mark leaves on the page depends on the marks before it: a comment that does not end its line takes
the next blanks for a single one, and a comment that began a line begins one again, unless the page
is at the start of a line already.

* `Mark`, `Layout` — the marks.
* `Layout.text` — what they leave on the page.
* `commentLayout`, `argumentComments` — comments in front of a statement, and among arguments.
* `spread`, `roundBrackets`, `bracket` — lists and brackets.
-/

namespace ComponentFile.Script

/-! ## Marks -/

/-- A step of printing. -/
inductive Mark where
  | text (text : String)
  | newLine
  /-- The blanks in front of a line at a depth of nesting. -/
  | indent (depth : Nat)
  /-- The start of a line at a depth of nesting, unless the page is at one. -/
  | freshLine (depth : Nat)
  /-- The next blanks are a single one. -/
  | spaceNext
deriving DecidableEq, Repr

/-- Steps of printing. -/
abbrev Layout := List Mark

/-- What has been printed, and whether the next blanks are a single one. -/
structure Page where
  text : String
  spaceNext : Bool

namespace Page

/-- The page with the blanks in front of a line. -/
def indent (page : Page) (depth : Nat) : Page :=
  if page.spaceNext then ⟨page.text.push ' ', false⟩
  else ⟨page.text ++ String.ofList (List.replicate depth '\t'), false⟩

/-- The page with one more mark. -/
def mark (page : Page) : Mark → Page
  | .text text => ⟨page.text ++ text, page.spaceNext⟩
  | .newLine => ⟨page.text.push '\n', page.spaceNext⟩
  | .indent depth => page.indent depth
  | .freshLine depth =>
    match page.text.back? with
    | none | some '\t' => page
    | some '\n' => page.indent depth
    | some _ => (⟨page.text.push '\n', page.spaceNext⟩ : Page).indent depth
  | .spaceNext => ⟨page.text, true⟩

end Page

/-- What steps of printing leave on an empty page. -/
def Layout.text (layout : Layout) : String := (layout.foldl Page.mark ⟨"", false⟩).text

/-- A text and nothing else. -/
def ink (text : String) : Layout := [.text text]

/-- A new line at a depth of nesting. -/
def newLine (depth : Nat) : Layout := [.newLine, .indent depth]

/-- The end of a statement. -/
def statementEnd : Layout := [.text ";", .newLine]

/-! ## Lists and brackets -/

/-- Layouts with a separator between them. -/
def joinLayouts (separator : Layout) : List Layout → Layout
  | [] => []
  | [layout] => layout
  | layout :: rest => layout ++ separator ++ joinLayouts separator rest

/-- Items on one line. -/
def listLayout (items : List Layout) : Layout := joinLayouts (ink ", ") items

/-- Items with a line for each, between brackets. -/
def spread (depth : Nat) (opening closing : String) (items : List Layout) : Layout :=
  ink opening ++ newLine (depth + 1) ++ joinLayouts (ink "," ++ newLine (depth + 1)) items ++
    newLine depth ++ ink closing

/-- How deep the parts of a list stand: one deeper when each has a line of its own. -/
def innerDepth (depth atMost size : Nat) : Nat := if size ≤ atMost then depth else depth + 1

/-- An object whose members are given. -/
def objectLayout (depth : Nat) (members : List Layout) : Layout :=
  match members with
  | [] => ink "\x7b\x7d"
  | [member] => ink "\x7b " ++ member ++ ink " \x7d"
  | members => spread depth "\x7b" "\x7d" members

/-- An array whose items are given; an item left out at the end needs a comma. -/
def arrayLayout (depth : Nat) (items : List Layout) (endsInHole : Bool) : Layout :=
  let items := if endsInHole then items.dropLast ++ [ink ","] else items
  if items.length ≤ 2 then ink "[" ++ listLayout items ++ ink "]" else spread depth "[" "]" items

/-- Items on one line that are bound or given values; behind one left out at the end stands a
comma. -/
def boundArrayLayout (items : List Layout) (endsInHole : Bool) : Layout :=
  ink "[" ++ listLayout items ++ ink (if endsInHole then ",]" else "]")

/-- Lines between curly brackets. -/
def blockLayout (depth : Nat) (lines : List Layout) : Layout :=
  match lines with
  | [] => ink "\x7b\x7d"
  | lines => ink "\x7b" ++ [.newLine] ++ lines.flatten ++ [.indent depth] ++ ink "\x7d"

/-- A layout, in brackets if need be. -/
def bracket (isNeeded : Bool) (layout : Layout) : Layout :=
  if isNeeded then ink "(" ++ layout ++ ink ")" else layout

/-- Items on one line in round brackets. -/
def roundBrackets (items : List Layout) : Layout := ink "(" ++ listLayout items ++ ink ")"

/-! ## Comments -/

/-- The lines of a text. -/
def splitLines : List Char → List (List Char)
  | [] => [[]]
  | '\r' :: '\n' :: rest => [] :: splitLines rest
  | c :: rest =>
    if isLineEnd c then [] :: splitLines rest
    else
      match splitLines rest with
      | line :: lines => (c :: line) :: lines
      | [] => [[c]]

/-- A comment at a depth of nesting: its lines, each without the blanks in front of it. -/
def Comment.layout (depth : Nat) (comment : Comment) : Layout :=
  match splitLines comment.text.toList with
  | first :: rest =>
    let line (text : List Char) : Layout := ink (guardScriptEnd (String.ofList (dropBlanks text)))
    ink (guardScriptEnd (String.ofList first)) ++
      (rest.map fun text => newLine depth ++ line text).flatten
  | [] => []

/-- Comments behind the first one. -/
def laterComments (depth : Nat) (comments : List Comment) : Layout :=
  (comments.map fun comment =>
    (if comment.afterLine then newLine depth else ink " ") ++ comment.layout depth).flatten

/-- Comments in front of something, and what separates them from it. -/
def commentLayout (depth : Nat) (comments : List Comment) : Layout :=
  match comments with
  | [] => []
  | first :: rest =>
    let endsLine := comments.getLast?.any fun comment => comment.isLine || comment.beforeLine
    [if first.afterLine then .freshLine depth else .indent depth] ++ first.layout depth ++
      laterComments depth rest ++ [if endsLine then .newLine else .spaceNext]

/-- Comments among arguments, each on a line of its own. -/
def argumentComments (depth : Nat) (comments : List Comment) : Layout :=
  (comments.map fun comment => newLine depth ++ comment.layout depth).flatten

end ComponentFile.Script
