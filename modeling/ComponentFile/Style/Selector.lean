/-!
# Selectors

A selector names elements by compounds, runs of simple conditions on one element, joined by
combinators that lead from one element to the next.  A pseudo-element, a slot's content and a part
are reached through combinators too; these are hidden, because the text shows no mark for them.

* `Simple` — one condition on an element; `Selector` — compounds and combinators, the last
  compound outermost, since matching starts there.
* `Simple.namesElement` — the conditions that name the element itself.
* `Selector.scope` — the selector restricted to elements that carry an attribute.
-/

namespace ComponentFile.Style

/-- The way from one compound to the next. -/
inductive Combinator where
  | descendant
  | child
  | nextSibling
  | laterSibling
  | pseudoElement
  | slotAssignment
  | part
deriving DecidableEq, Repr

/-- Whether a combinator leads from a pseudo target to the element that it originates from. -/
def Combinator.isHidden : Combinator → Bool
  | .pseudoElement | .slotAssignment | .part => true
  | .descendant | .child | .nextSibling | .laterSibling => false

/-- The name of an attribute, as written and as it is matched where case does not count. -/
structure AttributeName where
  written : String
  lowered : String
deriving DecidableEq, Repr

/-- The attribute of a given name. -/
def AttributeName.of (name : String) : AttributeName := ⟨name, name.toLower⟩

/-- Where the name in a condition belongs. -/
inductive NamePrefix where
  /-- No label is written. -/
  | implicit
  /-- `|name`. -/
  | noSpace
  /-- `*|name`. -/
  | anySpace
  /-- `label|name`. -/
  | labelled (label : String)
deriving DecidableEq, Repr

/-- How the value of an attribute is compared; the mark in front of the equals sign. -/
inductive Comparison where
  | equals
  | includes
  | dashMatch
  | startsWith
  | endsWith
  | contains
deriving DecidableEq, Repr

/-- What the value of an attribute is compared with, and the letter that may say whether case
counts. -/
structure ValueTest where
  comparison : Comparison
  value : String
  caseFlag : Option Char := none
deriving DecidableEq, Repr

/-- A condition on an attribute; without a test it only has to be there. -/
structure AttributeTest where
  space : NamePrefix := .implicit
  name : AttributeName
  test : Option ValueTest := none
deriving DecidableEq, Repr

/-- The functions that count positions among siblings. -/
inductive Position where
  | child
  | lastChild
  | ofType
  | lastOfType
  | column
  | lastColumn
deriving DecidableEq, Repr

/-- The name of the function that counts a kind of positions. -/
def Position.function : Position → String
  | .child => "nth-child"
  | .lastChild => "nth-last-child"
  | .ofType => "nth-of-type"
  | .lastOfType => "nth-last-of-type"
  | .column => "nth-col"
  | .lastColumn => "nth-last-col"

mutual

/-- One condition on an element. -/
inductive Simple where
  /-- The element that the enclosing rule selects. -/
  | nesting
  | element (name : String)
  | universal
  /-- The label in front of an element's name. -/
  | space (label : NamePrefix)
  | id (name : String)
  | ofClass (name : String)
  | attr (test : AttributeTest)
  | pseudoClass (name : String)
  /-- The positions `step * n + offset`. -/
  | nth (position : Position) (step offset : Int)
  /-- The positions `step * n + offset` among the elements that match one of `within`. -/
  | nthOf (position : Position) (step offset : Int) (within : List Selector)
  /-- A function of selectors, such as `:not()`. -/
  | matching (name : String) (selectors : List Selector)
  | lang (languages : List String)
  /-- A function of names, such as `:state()`. -/
  | naming (function : String) (names : List String)
  /-- Any other function, with its arguments as they are. -/
  | pseudoClassOf (name arguments : String)
  | pseudoElement (name : String)
  | pseudoElementOf (name arguments : String)
  /-- A part of a change of views: its name, or `*` for all, and its classes. -/
  | viewTransition (function : String) (name : Option String) (classes : List String)
  /-- The texts of a video that match a selector. -/
  | cue (name : String) (selector : Selector)
  | slotted (selector : Selector)
  | part (names : List String)

/-- Compounds joined by combinators. -/
inductive Selector where
  | compound (parts : List Simple)
  | joined (left : Selector) (combinator : Combinator) (parts : List Simple)

end

instance : Inhabited Simple := ⟨.universal⟩

instance : Inhabited Selector := ⟨.compound []⟩

/-- The element that a relative selector starts from. -/
def Simple.scopeRoot : Simple := .pseudoClass "scope"

/-! ## Scoping -/

/-- Whether a condition names the element itself, as pseudo-classes and pseudo-elements do not. -/
def Simple.namesElement : Simple → Bool
  | .element _ | .universal | .space _ | .id _ | .ofClass _ | .attr _ => true
  | _ => false

/-- The condition that an element carries an attribute. -/
def Simple.carries (hash : String) : Simple := .attr { name := AttributeName.of hash }

/-- Puts a condition directly behind the last part that names the element, or in front of all
parts when none does, so that it never stands behind a trailing pseudo-class. -/
def insertCondition (condition : Simple) : List Simple → List Simple
  | [] => [condition]
  | part :: rest =>
    if rest.any Simple.namesElement then part :: insertCondition condition rest
    else if part.namesElement then part :: condition :: rest
    else condition :: part :: rest

namespace Selector

/-- Restricts a selector to targets whose originating element carries an attribute: hidden
combinators are followed to that element's compound, and the condition goes there. -/
def scope (hash : String) : Selector → Selector
  | compound parts => compound (insertCondition (.carries hash) parts)
  | joined left combinator parts =>
    if combinator.isHidden then joined (left.scope hash) combinator parts
    else joined left combinator (insertCondition (.carries hash) parts)

/-- Puts a selector in front of another one. -/
def precededBy (left : Selector) (combinator : Combinator) : Selector → Selector
  | compound parts => joined left combinator parts
  | joined first inner parts => joined (precededBy left combinator first) inner parts

end Selector

end ComponentFile.Style
