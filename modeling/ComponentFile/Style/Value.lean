import ComponentFile.Style.Identifier
import ComponentFile.Style.Layout

/-!
# Values

What a declaration assigns, what an unknown function takes and what an unknown rule holds are
values: runs of parts that are printed one after another.  Most parts have one text.  Some depend
on the layout, such as the blanks and comments that a minified sheet does without.

* `ValuePart`, `Value` — a value, with brackets flattened.
* `Value.render` — prints one.
* `writeAddress` — the text of an address.
-/

namespace ComponentFile.Style

/-- One part of a value. -/
inductive ValuePart where
  /-- A token with the text that it is printed as. -/
  | text (written : String)
  /-- A run of blanks as it is written, and whether there is nothing else between the brackets
  around it. -/
  | blank (written : String) (isAlone : Bool)
  | comment (inside : String)
  /-- A comma between parts that were understood. -/
  | comma
  /-- A stroke between parts that were understood. -/
  | stroke
  | address (value : String)
  /-- A word for which a minified sheet has a shorter one. -/
  | shortened (minified pretty : String)
deriving DecidableEq, Repr

/-- A run of parts. -/
abbrev Value := List ValuePart

/-! ## Addresses -/

/-- A character of a bare address. -/
def escapeInAddress (c : Char) : List Char :=
  if c.toNat ≤ 0x20 || c.toNat == 0x7F then escapeCode c
  else if c == '(' || c == ')' || c == '"' || c == '\'' || c == '\\' then ['\\', c]
  else [c]

/-- A bare address in its brackets. -/
def writeBareAddress (address : String) : String :=
  "url(" ++ String.ofList (address.toList.flatMap escapeInAddress) ++ ")"

/-- An address in its brackets; a minified sheet leaves out the quotes where that is shorter. -/
def writeAddress (layout : Layout) (address : String) : String :=
  let quoted := "url(" ++ writeString address ++ ")"
  let bare := writeBareAddress address
  match layout with
  | .pretty => quoted
  | .minified => if quoted.utf8ByteSize < bare.utf8ByteSize then quoted else bare

/-! ## Parts -/

namespace ValuePart

/-- Whether a part is a run of blanks. -/
def isBlank : ValuePart → Bool
  | blank .. => true
  | _ => false

/-- The text of a part.  In the value of a custom property, blanks between brackets that hold
nothing else are left out of a pretty sheet. -/
def render (layout : Layout) (isCustom : Bool) : ValuePart → String
  | text written => written
  | blank written isAlone =>
    layout.choose " " (if isAlone && isCustom then "" else written)
  | comment inside => layout.choose "" ("/*" ++ inside ++ "*/")
  | comma => layout.comma
  | stroke => layout.spaced "/"
  | address value => writeAddress layout value
  | shortened minified pretty => layout.choose minified pretty

end ValuePart

namespace Value

/-- The value that is one text. -/
def ofText (text : String) : Value := [.text text]

/-- Drops blanks at the end. -/
def trimEnd (value : Value) : Value :=
  if value.getLast?.any ValuePart.isBlank then value.dropLast else value

/-- Drops blanks at either end, unless they are all there is. -/
def trim (value : Value) : Value :=
  match value with
  | [.blank written _] => [.blank written true]
  | .blank .. :: rest => trimEnd rest
  | value => trimEnd value

/-- Values with a part between them. -/
def join (separator : ValuePart) : List Value → Value
  | [] => []
  | [value] => value
  | value :: rest => value ++ separator :: join separator rest

/-- Values with single blanks between them. -/
def words (values : List Value) : Value := join (.text " ") values

/-- The text of a value. -/
def render (layout : Layout) (isCustom : Bool) (value : Value) : String :=
  String.join (value.map (ValuePart.render layout isCustom))

end Value

end ComponentFile.Style
