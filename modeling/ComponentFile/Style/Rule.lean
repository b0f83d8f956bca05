import ComponentFile.Style.Condition.Container
import ComponentFile.Style.Condition.Media
import ComponentFile.Style.Condition.Support
import ComponentFile.Style.FontRule
import ComponentFile.Style.Registration
import ComponentFile.Style.Selector

/-!
# Rules

A stylesheet is a list of rules.  A style rule gives declarations to the elements that its
selectors name, and may hold further rules for elements around them.  Grouping rules hold other
rules under a head, such as a condition.  All other rules hold no style rules.

* `Declarations` — what a rule says.
* `GroupHead` — the kinds of grouping rules; `Rule` — all kinds of rules.
* `Stylesheet` — rules with the comments that are kept in front of them.
-/

namespace ComponentFile.Style

/-- The name of a layer, whose parts are joined by points. -/
abbrev LayerName := List String

/-- The head of a grouping rule. -/
inductive GroupHead where
  | media (queries : List MediaQuery)
  | supports (condition : Condition Support)
  | layer (name : Option LayerName)
  | container (name : Option String) (condition : Option (Condition ContainerTest))
  /-- Rules for one kind of browser. -/
  | mozDocument
  | scope (root limit : Option (List Selector))
  | startingStyle

/-- A point of an animation, as a share of its time or of a phase of it. -/
inductive FramePoint where
  | start
  | finish
  | share (part : Measure)
  | phase (name : String) (part : Measure)
deriving DecidableEq, Repr

/-- Declarations that hold at points of an animation. -/
structure Keyframe where
  points : List FramePoint
  body : Declarations
deriving DecidableEq, Repr

/-- The name of an animation, which may be written as a string. -/
structure AnimationName where
  text : String
  isQuoted : Bool
deriving DecidableEq, Repr

/-- The pages that a rule is for. -/
structure PageSelector where
  name : Option String
  pseudoClasses : List String
deriving DecidableEq, Repr

/-- Declarations for a margin of a page. -/
structure PageMargin where
  name : String
  body : Declarations
deriving DecidableEq, Repr

/-- A sheet that is read in front of this one, and when. -/
structure ImportedSheet where
  address : String
  /-- The layer that the sheet goes into, which may have no name. -/
  layer : Option (Option LayerName)
  support : Option (Condition Support)
  media : List MediaQuery

/-- A rule. -/
inductive Rule where
  | style (selectors : List Selector) (body : Declarations) (rules : List Rule)
  /-- A style rule inside another one that says itself how it is nested. -/
  | nest (selectors : List Selector) (body : Declarations) (rules : List Rule)
  | group (head : GroupHead) (rules : List Rule)
  /-- Declarations of the enclosing style rule that stand behind a rule or in a group. -/
  | declarations (body : Declarations)
  | layers (names : List LayerName)
  | importSheet (sheet : ImportedSheet)
  | namespaceLabel (label : Option String) (address : String)
  /-- `keyword` is the name of the rule, which may have a vendor's prefix. -/
  | keyframes (keyword : String) (name : AnimationName) (frames : List Keyframe)
  | page (selectors : List PageSelector) (body : Declarations) (margins : List PageMargin)
  | registration (registration : Registration)
  /-- Names for the variants that fonts offer. -/
  | fontFeatures (families : List String) (sets : List FeatureSet)
  /-- A rule that describes something under its own properties, such as a font. -/
  | descriptors (head : String) (body : List Declaration)
  /-- A rule that holds declarations only. -/
  | declared (head : String) (body : Declarations)
  | unknown (keyword : String) (head : Value) (block : Option Value)

instance : Inhabited Rule := ⟨.declarations { }⟩

/-- Whether a rule is a statement without a block that belongs with others of its kind. -/
def Rule.isStatement : Rule → Bool
  | .layers _ | .importSheet _ | .namespaceLabel .. => true
  | _ => false

/-- A stylesheet: the comments kept in front of it, and its rules. -/
structure Stylesheet where
  comments : List String
  rules : List Rule

end ComponentFile.Style
