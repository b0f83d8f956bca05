import ComponentFile.Style.Condition
import ComponentFile.Style.Property

/-!
# Tests of support

A rule may depend on what the reader of the sheet supports: a declaration, whose value is not
looked at, or a selector.  What else stands in brackets is kept as it is written.

* `Support` — a test; `supportWriter` — its text.
* `readSupportCondition` — a condition made of such tests.
-/

namespace ComponentFile.Style

/-- A test of what the reader of a sheet supports, with everything as it is written. -/
inductive Support where
  /-- A declaration of a property, by its own name or by those of some vendors. -/
  | declaration (property : Property) (vendors : List (Option Vendor)) (value : String)
  | selector (text : String)
  | unknown (text : String)
deriving DecidableEq, Repr

/-- The name of a property in a test of support. -/
def Property.nameInTest (vendor : Option Vendor) : Property → String
  | known _ base => (known vendor base).text
  | custom name | unknown name => writeNameTail name

/-- The text of a test.  Where a declaration is tested by the name of a vendor, there are brackets
around all of its names. -/
def Support.render (layout : Layout) : Support → String
  | declaration property vendors value =>
    let listed := (Vendor.all.map some ++ [none]).filter vendors.contains
    let texts := listed.map fun vendor => property.nameInTest vendor ++ layout.colon ++ value
    Condition.bracket (listed != [none]) ("(" ++ Layout.join ") or (" texts ++ ")")
  | selector text => "selector(" ++ text ++ ")"
  | unknown text => text

/-- Writes tests of support. -/
def supportWriter (layout : Layout) : TestWriter Support := { text := Support.render layout }

/-- Whether a condition is a test of a declaration. -/
def isDeclarationTest : Condition Support → Bool
  | .test (.declaration ..) => true
  | _ => false

/-- Adds the names by which a declaration is tested to a test of the same declaration. -/
def Support.merge? : Support → Support → Option Support
  | declaration property vendors value, declaration property' vendors' value' =>
    if property = property' ∧ value = value' then
      some (declaration property (vendors ++ vendors') value)
    else none
  | _, _ => none

/-- Adds an operand at the end; a declaration that is already tested by another name is tested
there. -/
def addOperand (operands : List (Condition Support)) (operand : Condition Support) :
    List (Condition Support) :=
  match operands, operand with
  | [], _ => [operand]
  | .test known :: rest, .test test =>
    match known.merge? test with
    | some merged => .test merged :: rest
    | none => .test known :: addOperand rest operand
  | other :: rest, _ => other :: addOperand rest operand

/-- Reads the test of a declaration from all that stands in its brackets. -/
def readSupportedDeclaration (body : Pieces) : Except Fault Support :=
  match body.next? with
  | none => failAtEnd body
  | some (piece, rest) =>
    match piece.ident?, rest.next? with
    | none, _ => failAt body (.unexpected piece.first)
    | some _, none => failAtEnd body
    | some property, some (colon, value) =>
      if colon.isColon then do
        expectSound value.pieces
        let property := Property.ofName property
        let text := String.ofList (piecesText value.trim.pieces)
        return .declaration property.plain [property.vendor?] text
      else failAt rest (.unexpected colon.first)

mutual

/-- Reads a condition. -/
def supportIn : (limit : Nat) → Pieces → Except Fault (Condition Support × Pieces)
  | 0, input => failAtEnd input
  | limit + 1, input =>
    match input.afterWord? "not" with
    | some rest => do
      let (operand, rest) ← supportOperand limit rest
      return (.negation operand, rest)
    | none => do
      let (first, rest) ← supportOperand limit input
      match Junction.read? rest with
      | none => return (first, rest)
      | some (junction, _) =>
        match supportOperands limit junction [first] rest with
        | (_, none) => return (first, rest)
        | ([operand], some rest) => return (operand, rest)
        | (operands, some rest) => return (junction.join operands, rest)

/-- Reads operands that each follow the word of a junction, as long as they can be read, and adds
them to those in front.  There is no rest if there is none. -/
def supportOperands : (limit : Nat) → Junction → List (Condition Support) → Pieces →
    List (Condition Support) × Option Pieces
  | 0, _, operands, _ => (operands, none)
  | limit + 1, junction, operands, input =>
    match input.afterWord? junction.word with
    | none => (operands, none)
    | some rest =>
      match supportOperand limit rest with
      | .error _ => (operands, none)
      | .ok (operand, rest) =>
        let extended := addOperand operands operand
        match supportOperands limit junction extended rest with
        | (_, none) => (extended, some rest)
        | found => found

/-- Reads one operand. -/
def supportOperand : (limit : Nat) → Pieces → Except Fault (Condition Support × Pieces)
  | 0, input => failAtEnd input
  | limit + 1, input =>
    match input.next? with
    | none => failAtEnd input
    | some (.token lexeme, _) => failAt input.trim (.unexpected lexeme)
    | some (.block opener inner stop closer, rest) => do
      let body : Pieces := ⟨inner, stop⟩
      let whole := String.ofList (Piece.block opener inner stop closer).text
      match opener.token with
      | .function name =>
        expectSound inner
        if name.toLower == "selector" then
          return (.test (.selector (String.ofList (piecesText inner))), rest)
        else return (.test (.unknown whole), rest)
      | .opening .round =>
        let condition := do
          match supportIn limit body with
          | .ok (condition, behind) =>
            expectEnd behind
            return condition
          | .error _ => return .test (← readSupportedDeclaration body)
        match condition with
        | .ok condition => return (condition, rest)
        | .error _ =>
          expectSound inner
          return (.test (.unknown whole), rest)
      | _ => failAt input.trim (.unexpected opener)

end

/-- A number of steps that is enough to read some pieces. -/
def supportLimit (input : Pieces) : Nat := 4 * (totalSize input.pieces + 2)

/-- Reads a condition that takes up all of some pieces. -/
def readSupportCondition (input : Pieces) : Except Fault (Condition Support) := do
  let (condition, rest) ← supportIn (supportLimit input) input
  expectEnd rest
  return condition

/-- Reads a condition or a declaration without its brackets. -/
def readBareSupport (input : Pieces) : Except Fault (Condition Support) := do
  match supportIn (supportLimit input) input with
  | .ok (condition, rest) =>
    expectEnd rest
    return condition
  | .error _ => return .test (← readSupportedDeclaration input)

end ComponentFile.Style
