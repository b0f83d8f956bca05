import ComponentFile.Engine
import ComponentFile.Style.Rule.Parser
import ComponentFile.Style.Rule.Printer

/-!
# Scoping stylesheets

A scoped stylesheet applies only to the elements of its own component, which all carry the
component's hash as an attribute.  So every selector of every style rule gets the condition that
its element carries the hash.  Rules inside grouping rules are scoped too.  The rules inside a
style rule are relative to it and stay as they are, and so do all other rules.

* `Rule.scope`, `scopeRules` — rules restricted to the elements of one component.
* `scopeSelectors` — the text of a stylesheet, scoped and minified.
* `scopePlugin` — the same as a step of a style engine.
-/

namespace ComponentFile.Style

open ComponentFile (TransformError StylePlugin)

mutual

/-- A rule restricted to elements that carry a hash. -/
def Rule.scope (hash : String) : Rule → Rule
  | .style selectors body rules => .style (selectors.map (Selector.scope hash)) body rules
  | .group head rules => .group head (scopeRules hash rules)
  | rule => rule

/-- Rules restricted to elements that carry a hash. -/
def scopeRules (hash : String) : List Rule → List Rule
  | [] => []
  | rule :: rest => rule.scope hash :: scopeRules hash rest

end

/-- A stylesheet restricted to elements that carry a hash. -/
def Stylesheet.scope (hash : String) (sheet : Stylesheet) : Stylesheet :=
  { sheet with rules := scopeRules hash sheet.rules }

/-- The text of a stylesheet, scoped and minified. -/
def scopeSelectors (css hash : String) : Except TransformError String :=
  match Stylesheet.parse css with
  | .ok sheet => .ok ((sheet.scope hash).render .minified)
  | .error fault => .error fault.toError

/-- The step of a style engine that scopes a stylesheet. -/
def scopePlugin (hash : String) : StylePlugin :=
  { name := "scoped-selector", transform := fun css => scopeSelectors css hash }

end ComponentFile.Style
