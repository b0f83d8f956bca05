import ComponentFile.Style.Condition.Feature

/-!
# Conditions on containers

A container is tested by what it measures, as a medium is, by the values that its properties have
and by how it is scrolled.

* `StyleTest`, `ContainerTest` — the tests; `containerWriter` — their text.
* `containerReader` — reading them.
-/

namespace ComponentFile.Style

/-- A test of a property of a container: its value, or whether it has one. -/
inductive StyleTest where
  | declaration (declaration : Declaration)
  | property (name : Property)
deriving DecidableEq, Repr

/-- A test of a container. -/
inductive ContainerTest where
  | size (feature : Feature)
  | style (query : Condition StyleTest)
  | scrollState (query : Condition Feature)
deriving Repr

/-- The text of a test of a property. -/
def StyleTest.render (layout : Layout) : StyleTest → String
  | declaration d => d.render layout
  | property name => name.text

/-- Writes tests of properties. -/
def styleTestWriter (layout : Layout) : TestWriter StyleTest :=
  { text := StyleTest.render layout, needsBrackets := true }

/-- Whether a condition is one test. -/
def Condition.isTest {α : Type} : Condition α → Bool
  | test _ => true
  | _ => false

/-- Writes tests of scrolling. -/
def scrollWriter (layout : Layout) : TestWriter Feature := { text := Feature.render layout }

/-- The text of a test of a container. -/
def ContainerTest.render (layout : Layout) : ContainerTest → String
  | size feature => feature.render layout
  | style query => "style(" ++ query.render (styleTestWriter layout) ++ ")"
  | scrollState query =>
    "scroll-state" ++ Condition.bracket (!query.isTest) (query.render (scrollWriter layout))

/-- Writes tests of containers. -/
def containerWriter (layout : Layout) : TestWriter ContainerTest :=
  { text := ContainerTest.render layout }

/-- Reads a test of a property from all that stands in its brackets. -/
def readStyleTest (body : Pieces) : Except Fault StyleTest :=
  match body.next? with
  | none => failAtEnd body
  | some (piece, rest) =>
    match piece.ident?, rest.next? with
    | none, _ => failAt body (.unexpected piece.first)
    | some name, none => .ok (.property (.ofName name))
    | some name, some (colon, value) =>
      if colon.isColon then do
        let (value, behind) := value.trim.breakAt fun piece =>
          piece.isDelim '!' || piece.isSemicolon
        let property := Property.ofName name
        let value ← property.readValue value
        let _ ← readImportance behind
        return .declaration ⟨property, value⟩
      else failAt rest (.unexpected colon.first)

/-- Reads a condition on properties from all that stands in its brackets. -/
def readStyleQuery (body : Pieces) : Except Fault ContainerTest :=
  match readCondition { inBrackets := readStyleTest } true body with
  | .ok (query, rest) => do
    expectEnd rest
    return .style query
  | .error _ => do
    let test ← readStyleTest body
    return .style (.test test)

/-- The features of scrolling. -/
def scrollFeatures : FeatureTable :=
  ["stuck", "snapped", "scrollable", "scrolled"].map fun name => (name, .word)

/-- Reads a condition on scrolling from all that stands in its brackets. -/
def readScrollQuery (body : Pieces) : Except Fault ContainerTest :=
  match readCondition { inBrackets := readFeature scrollFeatures } true body with
  | .ok (query, rest) => do
    expectEnd rest
    return .scrollState query
  | .error _ => do
    let feature ← readFeature scrollFeatures body
    return .scrollState (.test feature)

/-- Reads tests of containers. -/
def containerReader : TestReader ContainerTest where
  inBrackets body := ContainerTest.size <$> readFeature containerFeatures body
  function? name :=
    match name.toLower with
    | "style" => some readStyleQuery
    | "scroll-state" => some readScrollQuery
    | _ => none

end ComponentFile.Style
