import ComponentFile.Style.Property.Known
import ComponentFile.Style.Property.Name

/-!
# Declarations

Declarations give values to properties.  A value of the kind that a known property takes is printed
in its shortest form.  Every other value is a run of tokens.

* `Declaration` — a property and its value.
* `Declaration.read` — reads a declaration.
-/

namespace ComponentFile.Style

/-- A property and the value it gets. -/
structure Declaration where
  property : Property
  value : Value
deriving DecidableEq, Repr

/-- The text of a declaration. -/
def Declaration.render (layout : Layout) (declaration : Declaration) : String :=
  declaration.property.text ++ layout.colon ++
    declaration.value.render layout declaration.property.isCustom

/-- The value that a property takes, if it is understood. -/
def Property.value? (property : Property) (input : Pieces) : Option Value :=
  match property with
  | known _ base => knownValue? base input
  | custom _ | unknown _ => none

/-- Reads the value of a property. -/
def Property.readValue (property : Property) (input : Pieces) : Except Fault Value :=
  match property.value? input with
  | some value => .ok value
  | none => Value.ofPieces input.pieces

/-- Reads what stands behind the value of a declaration: nothing, or the mark of importance. -/
def readImportance (input : Pieces) : Except Fault Bool :=
  match input.next? with
  | none => .ok false
  | some (piece, rest) =>
    match rest.afterWord? "important" with
    | some behind =>
      if piece.isDelim '!' then do
        expectEnd behind
        return true
      else failAt input (.unexpected piece.first)
    | none => failAt input (.unexpected piece.first)

/-- Reads a declaration behind the name of its property, and whether it is important.  A value
ends at an exclamation mark and, unless the sheet itself gives the property its meaning, at a
block. -/
def Declaration.read (name : String) (input : Pieces) : Except Fault (Declaration × Bool) :=
  match input.next? with
  | none => failAtEnd input
  | some (colon, rest) =>
    if !colon.isColon then failAt input (.unexpected colon.first)
    else do
      let property := Property.ofName name
      let (value, behind) := rest.breakAt fun piece =>
        piece.isDelim '!' || (!property.isCustom && piece.isCurly)
      let value ← property.readValue value
      let isImportant ← readImportance behind
      return (⟨property, value⟩, isImportant)

/-! ## Blocks -/

/-- The declarations of a block; important ones are kept apart, each kind in its order. -/
structure Declarations where
  normal : List Declaration := []
  important : List Declaration := []
deriving DecidableEq, Repr

namespace Declarations

/-- Whether there are none. -/
def isEmpty (declarations : Declarations) : Bool :=
  declarations.normal.isEmpty && declarations.important.isEmpty

/-- Adds a declaration at the end of its kind. -/
def add (declarations : Declarations) (declaration : Declaration) (isImportant : Bool) :
    Declarations :=
  if isImportant then { declarations with important := declarations.important ++ [declaration] }
  else { declarations with normal := declarations.normal ++ [declaration] }

end Declarations

end ComponentFile.Style
