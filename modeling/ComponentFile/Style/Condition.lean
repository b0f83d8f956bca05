import ComponentFile.Style.Fault
import ComponentFile.Style.Layout

/-!
# Conditions of rules

Rules may hold only under a condition: what the medium can do, what a container measures, or what
the reader of the sheet supports.  The three share one grammar of negations, conjunctions and
disjunctions and differ in their tests.

* `Condition` — the grammar; `TestWriter`, `Condition.render` — its text, given that of its tests.
* `TestReader`, `readCondition` — reading a condition, given how its tests are read.
-/

namespace ComponentFile.Style

/-! ## The grammar -/

/-- A condition made of tests. -/
inductive Condition (α : Type) where
  | test (test : α)
  | negation (operand : Condition α)
  | conjunction (operands : List (Condition α))
  | disjunction (operands : List (Condition α))
deriving Repr

/-- How the tests of a kind of condition are written. -/
structure TestWriter (α : Type) where
  text : α → String
  /-- Whether a test inside a larger condition needs brackets that it does not bring itself. -/
  needsBrackets : Bool := false
  /-- The opposite of a test, where one can be written without a negation. -/
  opposite? : α → Option α := fun _ => none
  /-- Whether two negations cancel. -/
  cancels : Bool := false

namespace Condition

variable {α : Type}

/-- Whether an operand of a conjunction needs brackets. -/
def bracketedInConjunction (writer : TestWriter α) : Condition α → Bool
  | negation _ | disjunction _ => true
  | test _ => writer.needsBrackets
  | conjunction _ => false

/-- Whether an operand of a disjunction needs brackets. -/
def bracketedInDisjunction (writer : TestWriter α) : Condition α → Bool
  | negation _ | conjunction _ => true
  | test _ => writer.needsBrackets
  | disjunction _ => false

/-- Whether the operand of a negation needs brackets. -/
def bracketedInNegation (writer : TestWriter α) : Condition α → Bool
  | test _ => writer.needsBrackets
  | negation _ | conjunction _ | disjunction _ => true

/-- A text in brackets where they are needed. -/
def bracket (needed : Bool) (text : String) : String := if needed then "(" ++ text ++ ")" else text

/-- The text of the negation of an operand with a given text. -/
def negated (writer : TestWriter α) (operand : Condition α) (text : String) : String :=
  "not " ++ bracket (operand.bracketedInNegation writer) text

mutual

/-- The text of a condition. -/
def render (writer : TestWriter α) : Condition α → String
  | test t => writer.text t
  | negation (test t) =>
    match writer.opposite? t with
    | some opposite => writer.text opposite
    | none => negated writer (test t) (writer.text t)
  | negation (negation operand) =>
    if writer.cancels then operand.render writer
    else negated writer (negation operand) ((negation operand).render writer)
  | negation operand => negated writer operand (operand.render writer)
  | conjunction operands => Layout.join " and " (renderConjuncts writer operands)
  | disjunction operands => Layout.join " or " (renderDisjuncts writer operands)

/-- The texts of the operands of a conjunction. -/
def renderConjuncts (writer : TestWriter α) : List (Condition α) → List String
  | [] => []
  | operand :: rest =>
    bracket (operand.bracketedInConjunction writer) (operand.render writer) ::
      renderConjuncts writer rest

/-- The texts of the operands of a disjunction. -/
def renderDisjuncts (writer : TestWriter α) : List (Condition α) → List String
  | [] => []
  | operand :: rest =>
    bracket (operand.bracketedInDisjunction writer) (operand.render writer) ::
      renderDisjuncts writer rest

end

end Condition

/-! ## Reading conditions -/

/-- How the tests of a kind of condition are read: from all that stands in round brackets, or from
the arguments of a function, if it is one that tests something. -/
structure TestReader (α : Type) where
  inBrackets : Pieces → Except Fault α
  function? : (name : String) → Option (Pieces → Except Fault α) := fun _ => none

/-- The two words that join operands. -/
inductive Junction where
  | both
  | either
deriving DecidableEq, Repr

namespace Junction

/-- The word for a junction. -/
def word : Junction → String
  | both => "and"
  | either => "or"

/-- Joins operands. -/
def join {α : Type} (operands : List (Condition α)) : Junction → Condition α
  | both => .conjunction operands
  | either => .disjunction operands

/-- The junction whose word comes first, and what follows. -/
def read? (input : Pieces) : Option (Junction × Pieces) :=
  match input.afterWord? "and" with
  | some rest => some (both, rest)
  | none => (input.afterWord? "or").map fun rest => (either, rest)

end Junction

mutual

/-- Reads a condition, in which operands may be joined by `or` only if that is said. -/
def conditionIn {α : Type} (reader : TestReader α) :
    (limit : Nat) → (allowsOr : Bool) → Pieces → Except Fault (Condition α × Pieces)
  | 0, _, input => failAtEnd input
  | limit + 1, allowsOr, input =>
    match input.afterWord? "not" with
    | some rest => do
      let (operand, rest) ← operandIn reader limit rest
      return (.negation operand, rest)
    | none => do
      let (first, rest) ← operandIn reader limit input
      match Junction.read? rest with
      | none => return (first, rest)
      | some (junction, behind) =>
        if junction = .either && !allowsOr then
          failAt input (.unexpected ⟨.ident "or", [], input.start, input.start⟩)
        else
          let (second, rest) ← operandIn reader limit behind
          let (others, rest) ← operandsIn reader limit junction rest
          return (junction.join (first :: second :: others), rest)

/-- Reads further operands that each follow the word of a junction. -/
def operandsIn {α : Type} (reader : TestReader α) :
    (limit : Nat) → Junction → Pieces → Except Fault (List (Condition α) × Pieces)
  | 0, _, input => failAtEnd input
  | limit + 1, junction, input =>
    match input.afterWord? junction.word with
    | none => .ok ([], input)
    | some rest => do
      let (operand, rest) ← operandIn reader limit rest
      let (others, rest) ← operandsIn reader limit junction rest
      return (operand :: others, rest)

/-- Reads one operand: a test, or a condition in brackets.  What stands in brackets is a test where
it is not a condition. -/
def operandIn {α : Type} (reader : TestReader α) :
    (limit : Nat) → Pieces → Except Fault (Condition α × Pieces)
  | 0, input => failAtEnd input
  | limit + 1, input =>
    match input.next? with
    | none => failAtEnd input
    | some (.token lexeme, _) => failAt input (.unexpected lexeme)
    | some (.block opener inner stop _, rest) =>
      let body : Pieces := ⟨inner, stop⟩
      match opener.token with
      | .opening .round =>
        if body.isDone then failAt body .emptyBrackets
        else
          match conditionIn reader limit true body with
          | .ok (operand, behind) => do
            expectEnd behind
            return (operand, rest)
          | .error _ => do
            let test ← reader.inBrackets body
            return (.test test, rest)
      | .function name =>
        match reader.function? name with
        | some read => do
          let test ← read body
          return (.test test, rest)
        | none => failAt input (.unexpected opener)
      | _ => failAt input (.unexpected opener)

end

/-- Reads a condition at the start of some pieces. -/
def readCondition {α : Type} (reader : TestReader α) (allowsOr : Bool) (input : Pieces) :
    Except Fault (Condition α × Pieces) :=
  conditionIn reader (4 * (totalSize input.pieces + 2)) allowsOr input

end ComponentFile.Style
