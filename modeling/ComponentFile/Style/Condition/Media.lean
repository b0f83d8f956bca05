import ComponentFile.Style.Condition.Feature

/-!
# Media queries

A media query names a medium, a condition on it, or both.  A list of queries ends where one of them
is not complete.

* `MediaQuery` — a query; `MediaQuery.render`, `MediaQuery.read` — its text.
* `readMediaQueries`, `renderMediaQueries` — lists of queries.
-/

namespace ComponentFile.Style

/-- A medium and a condition on it. -/
structure MediaQuery where
  /-- `not` or `only` in front of the medium. -/
  qualifier : Option String := none
  medium : String := "all"
  condition : Option (Condition Feature) := none
deriving Repr

namespace MediaQuery

/-- Whether a query holds always. -/
def isTrivial (query : MediaQuery) : Bool :=
  query.qualifier.isNone && query.medium == "all" && query.condition.isNone

/-- The text of a query; the word `all` is only written where something would be missing. -/
def render (layout : Layout) (query : MediaQuery) : String :=
  let qualifier := (query.qualifier.map (· ++ " ")).getD ""
  match query.condition with
  | none => qualifier ++ query.medium
  | some condition =>
    let text := condition.render (featureWriter layout)
    if query.medium == "all" && query.qualifier.isNone then text
    else
      let isNeeded := match condition with
        | .disjunction _ => true
        | _ => false
      qualifier ++ query.medium ++ " and " ++ Condition.bracket isNeeded text

/-- Reads the tests of a medium. -/
def tests : TestReader Feature := { inBrackets := readFeature mediaFeatures }

/-- Media whose names are printed in lower case. -/
def knownMedia : List String := ["all", "print", "screen"]

/-- Reads a medium, with the word in front of it if there is one. -/
def readMedium? (input : Pieces) : Option (Option String × String × Pieces) := do
  let (piece, rest) ← input.next?
  let word ← piece.ident?
  let (qualifier, name, rest) ←
    if word.toLower == "not" || word.toLower == "only" then do
      let (piece, rest) ← rest.next?
      let name ← piece.ident?
      some (some word.toLower, name, rest)
    else some (none, word, rest)
  return (qualifier, if knownMedia.contains name.toLower then name.toLower else name, rest)

/-- Reads one query, which takes up all of some pieces. -/
def read (input : Pieces) : Except Fault MediaQuery :=
  match readMedium? input with
  | none => do
    let (condition, rest) ← readCondition tests true input
    expectEnd rest
    return { condition := some condition }
  | some (qualifier, medium, rest) =>
    match rest.afterWord? "and" with
    | none => do
      expectEnd rest
      return { qualifier, medium }
    | some behind => do
      let (condition, rest) ← readCondition tests false behind
      expectEnd rest
      return { qualifier, medium, condition := some condition }

end MediaQuery

/-- Reads queries between commas. -/
def readQueries : List Pieces → Except Fault (List MediaQuery)
  | [] => .ok []
  | part :: rest =>
    match MediaQuery.read part with
    | .ok query => do
      let queries ← readQueries rest
      return query :: queries
    | .error ⟨.endOfInput, _⟩ =>
      if rest.isEmpty then .ok []
      else .error ⟨.unexpected ⟨.comma, [','], part.stop, part.stop⟩, part.stop⟩
    | .error fault => .error fault

/-- Reads a list of queries, which may be empty. -/
def readMediaQueries (input : Pieces) : Except Fault (List MediaQuery) :=
  if input.isDone then .ok [] else readQueries (input.splitAt Piece.isComma)

/-- The text of a list of queries.  Where there are none, no medium matches. -/
def renderMediaQueries (layout : Layout) (queries : List MediaQuery) : String :=
  if queries.isEmpty then "not all"
  else Layout.join layout.comma (queries.map (MediaQuery.render layout))

end ComponentFile.Style
