import ComponentFile.Script.Layout
import ComponentFile.Script.Tree

/-!
# Places of values and statements

Where a value stands decides whether it needs brackets, and where a statement stands how its first
line begins.

* `Lead`, `Place` — where a value is printed.
* `sideRanks` — how strongly the sides of an operator have to be bound.
* `Opening` — how a statement begins and ends.
-/

namespace ComponentFile.Script

/-! ## Values -/

/-- What a value stands at the start of, if of anything: an object or a function there would be
taken for something else. -/
inductive Lead where
  | none
  | statement
  | arrow
  | default
deriving DecidableEq, Repr

/-- Where a value is printed. -/
structure Place where
  depth : Nat
  /-- How strongly the place binds. -/
  rank : Nat
  lead : Lead
  /-- Whether a call has to stand in brackets, because it is part of what is constructed. -/
  forbidsCalls : Bool
  /-- Whether the operator between a key and an object has to stand in brackets, because it would
  be taken for a part of the loop around it. -/
  forbidsIn : Bool

namespace Place

/-- A place that binds so strongly and is the start of nothing. -/
def of (depth : Nat) (strength : Strength) : Place := ⟨depth, strength.rank, .none, false, false⟩

/-- The place of a part at the start of a value. -/
def first (place : Place) (rank : Nat) : Place :=
  ⟨place.depth, rank, place.lead, false, place.forbidsIn⟩

/-- The place of a part at the end of a value. -/
def later (place : Place) (rank : Nat) : Place :=
  ⟨place.depth, rank, .none, false, place.forbidsIn⟩

/-- The place of the object that a field is taken of. -/
def inner (place : Place) : Place :=
  ⟨place.depth, Strength.postfixed.rank, place.lead, place.forbidsCalls, false⟩

/-- The place inside brackets, if there are any. -/
def unlessIn (place : Place) (isBracketed : Bool) : Place :=
  if isBracketed then { place with lead := .none, forbidsIn := false } else place

end Place

/-- Whether an operator in front of a value would join the operator that the value begins with. -/
def joinsOperator (operator : String) : Expr → Bool
  | .unary inner _ => (operator == "+" || operator == "-") && inner == operator
  | .update inner true _ => inner == operator ++ operator
  | _ => false

/-- Whether a value is made by a logical operator that cannot stand beside the one for missing
values. -/
def Expr.isLogical : Expr → Bool
  | .binary operator _ _ => operator == "||" || operator == "&&"
  | _ => false

/-- Whether a value has an operator in front. -/
def Expr.isUnary : Expr → Bool
  | .unary _ _ => true
  | _ => false

/-- How strongly the sides of an operator have to be bound to stand without brackets. -/
def sideRanks (operator : String) (left right : Expr) : Nat × Nat :=
  let rank := ((operatorStrength? operator).getD .lowest).rank
  match operator with
  | "??" =>
    (if left.isLogical then Strength.unary.rank else rank - 1,
      if right.isLogical then Strength.unary.rank else rank)
  | "**" => (if left.isUnary then Strength.construction.rank else rank, rank - 1)
  | _ => (rank - 1, rank)

/-- Whether a dot behind a value would be taken for a part of it. -/
def Expr.joinsDot : Expr → Bool
  | .number value => value.joinsDot
  | _ => false

/-! ## Statements -/

/-- How a statement begins and ends. -/
inductive Opening where
  /-- On a line of its own, behind its comments. -/
  | line
  /-- Behind what stands in front of it on its line. -/
  | joined
  /-- So too, and its line goes on behind it. -/
  | enclosed
deriving DecidableEq, Repr

/-- The blanks in front of a statement. -/
def Opening.layout (depth : Nat) : Opening → Layout
  | .line => [.indent depth]
  | .joined | .enclosed => []

namespace Statement

/-- Whether a statement is a block. -/
def isBlock : Statement → Bool
  | .block _ => true
  | .commented _ statement => statement.isBlock
  | _ => false

/-- Whether a statement is an empty one. -/
def isEmpty : Statement → Bool
  | .empty => true
  | .commented _ statement => statement.isEmpty
  | _ => false

/-- Whether a statement is a choice. -/
def isChoice : Statement → Bool
  | .choice _ _ _ => true
  | .commented _ statement => statement.isChoice
  | _ => false

/-- Whether a statement would take an alternative behind it for its own. -/
def endsInOpenChoice : Statement → Bool
  | .choice _ _ none => true
  | .choice _ _ (some no) => no.endsInOpenChoice
  | .forLoop _ _ _ body | .forEach _ _ _ body | .whileLoop _ body | .labelled _ body =>
    body.endsInOpenChoice
  | .commented _ statement => statement.endsInOpenChoice
  | _ => false

/-- What stands between a head and a statement behind it. -/
def gapBefore (statement : Statement) : Layout :=
  if statement.isBlock then ink " " else if statement.isEmpty then [] else [.spaceNext]

/-- How a statement behind a head begins. -/
def openingBehind (statement : Statement) : Opening :=
  if statement.isBlock || statement.isEmpty then .joined else .line

end Statement

end ComponentFile.Script
