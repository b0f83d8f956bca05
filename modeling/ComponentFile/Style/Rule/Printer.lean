import ComponentFile.Style.Rule.Prelude
import ComponentFile.Style.Selector.Printer

/-!
# Printing stylesheets

The text of a stylesheet in either layout.  In a pretty sheet every declaration has a line of its
own and rules are set apart by an empty line, except for statements that belong together.

* `Declarations.render`, `GroupHead.render`, `Rule.render` — the parts of a sheet.
* `Stylesheet.render` — the whole.
-/

namespace ComponentFile.Style

/-! ## Declarations -/

/-- The text of a declaration that is important. -/
def Declaration.renderImportant (layout : Layout) (declaration : Declaration) : String :=
  declaration.render layout ++ layout.blank ++ "!important"

/-- The texts of the declarations of a block, the important ones last. -/
def Declarations.texts (layout : Layout) (declarations : Declarations) : List String :=
  declarations.normal.map (Declaration.render layout) ++
    declarations.important.map (Declaration.renderImportant layout)

/-- Declarations, each on a line of its own; a minified sheet leaves out the last semicolon unless
something follows. -/
def Declarations.render (layout : Layout) (depth : Nat) (isFollowed : Bool)
    (declarations : Declarations) : String :=
  let mark := match layout with
    | .minified => if isFollowed && !declarations.isEmpty then ";" else ""
    | .pretty => if declarations.isEmpty then "" else ";"
  Layout.join ";" ((declarations.texts layout).map (layout.line depth ++ ·)) ++ mark

/-- A block in curly brackets. -/
def Layout.block (layout : Layout) (depth : Nat) (body : String) : String :=
  layout.blank ++ "\x7b" ++ body ++ layout.line depth ++ "\x7d"

/-- A block of declarations, which opens a line also when there are none. -/
def Declarations.renderBlock (layout : Layout) (depth : Nat) (declarations : Declarations) :
    String :=
  let body := declarations.render layout (depth + 1) false
  layout.block depth (if declarations.isEmpty then layout.line (depth + 1) else body)

/-! ## Heads -/

/-- The name of a layer. -/
def renderLayer (name : LayerName) : String := Layout.join "." (name.map writeIdentifier)

/-- One end of a scope. -/
def renderScopeEnd (layout : Layout) (selectors : List Selector) : String :=
  "(" ++ renderSelectors layout false selectors ++ ")"

/-- The head of a grouping rule. -/
def GroupHead.render (layout : Layout) : GroupHead → String
  | .media queries => "@media " ++ renderMediaQueries layout queries
  | .supports condition => "@supports " ++ condition.render (supportWriter layout)
  | .layer none => "@layer"
  | .layer (some name) => "@layer " ++ renderLayer name
  | .container name condition =>
    let words := (name.map writeIdentifier).toList ++
      (condition.map (Condition.render (containerWriter layout))).toList
    "@container " ++ Layout.join " " words
  | .mozDocument => "@-moz-document url-prefix()"
  | .scope root limit =>
    "@scope" ++ (root.map fun selectors => layout.blank ++ renderScopeEnd layout selectors).getD ""
      ++ (limit.map fun selectors => " to " ++ renderScopeEnd layout selectors).getD ""
  | .startingStyle => "@starting-style"

/-- Whether a group holds always, so that a minified sheet can do without it. -/
def GroupHead.isTrivial : GroupHead → Bool
  | .media queries => queries.all MediaQuery.isTrivial
  | _ => false

/-! ## Rules -/

/-- A point of an animation; a minified sheet writes the shorter of two names. -/
def FramePoint.render (layout : Layout) : FramePoint → String
  | .start => layout.choose "0%" "from"
  | .finish => "to"
  | .share part =>
    if layout = .minified ∧ part = .ofDecimal ⟨false, 1, 0⟩ then "to" else percentageText part
  | .phase name part => name ++ " " ++ percentageText part

/-- The name of an animation.  Quotes are only kept where they are needed. -/
def AnimationName.render (name : AnimationName) : String :=
  if name.isQuoted && reservedAnimations.contains name.text.toLower then writeString name.text
  else writeIdentifier name.text

/-- The pages that a rule is for. -/
def PageSelector.render (selector : PageSelector) : String :=
  (selector.name.map writeIdentifier).getD "" ++ String.join (selector.pseudoClasses.map (":" ++ ·))

/-- The declarations for a margin of a page. -/
def PageMargin.render (layout : Layout) (depth : Nat) (margin : PageMargin) : String :=
  "@" ++ margin.name ++ margin.body.renderBlock layout depth

/-- The pages that a rule is for, behind its name. -/
def renderPages (layout : Layout) (selectors : List PageSelector) : String :=
  let gap := match selectors with
    | [] => ""
    | selector :: _ => if selector.name.isSome then " " else layout.blank
  gap ++ Layout.join layout.comma (selectors.map PageSelector.render)

/-- The block of a page rule. -/
def renderPageBody (layout : Layout) (depth : Nat) (body : Declarations)
    (margins : List PageMargin) : String :=
  let texts := margins.map fun margin => layout.line depth ++ margin.render layout depth
  let gap := if margins.isEmpty || body.isEmpty then "" else layout.choose "" "\n"
  body.render layout depth (!margins.isEmpty) ++ gap ++ Layout.join (layout.choose "" "\n") texts

/-- An imported sheet and when it is read. -/
def ImportedSheet.render (layout : Layout) (sheet : ImportedSheet) : String :=
  let layer := match sheet.layer with
    | none => ""
    | some none => " layer"
    | some (some name) => " layer(" ++ renderLayer name ++ ")"
  let support := match sheet.support with
    | none => ""
    | some condition =>
      " supports" ++ Condition.bracket (!isDeclarationTest condition)
        (condition.render (supportWriter layout))
  "@import " ++ writeString sheet.address ++ layer ++ support ++
    (if sheet.media.isEmpty then "" else " " ++ renderMediaQueries layout sheet.media) ++ ";"

/-- A keyframe. -/
def Keyframe.render (layout : Layout) (depth : Nat) (frame : Keyframe) : String :=
  Layout.join layout.comma (frame.points.map (FramePoint.render layout)) ++
    frame.body.renderBlock layout depth

/-- Keyframes with empty lines between them. -/
def renderFrames (layout : Layout) (depth : Nat) (frames : List Keyframe) : String :=
  let texts := frames.map fun frame => layout.line depth ++ frame.render layout depth
  Layout.join (layout.choose "" "\n") texts

/-- What stands between a rule and the next one. -/
def ruleGap (layout : Layout) (depth : Nat) (rule next : Rule) : String :=
  let needsMark := match layout, rule with
    | .minified, .declarations _ => true
    | _, _ => false
  (if needsMark then ";" else "") ++
    (if rule.isStatement && next.isStatement then "" else layout.choose "" "\n") ++
    layout.line depth

mutual

/-- The text of a rule at a depth of nesting. -/
def Rule.render (layout : Layout) (depth : Nat) : Rule → String
  | .style selectors body rules =>
    let gap :=
      if rules.isEmpty then ""
      else (if body.isEmpty then "" else layout.choose "" "\n") ++ layout.line (depth + 1)
    renderSelectors layout false selectors ++
      layout.block depth (body.render layout (depth + 1) (!rules.isEmpty) ++ gap ++
        renderRules layout (depth + 1) rules)
  | .nest selectors body rules =>
    let gap :=
      if rules.isEmpty then ""
      else (if body.isEmpty then "" else layout.choose "" "\n") ++ layout.line (depth + 1)
    "@nest " ++ renderSelectors layout false selectors ++
      layout.block depth (body.render layout (depth + 1) (!rules.isEmpty) ++ gap ++
        renderRules layout (depth + 1) rules)
  | .group head rules =>
    if layout = .minified ∧ head.isTrivial then renderRules layout depth rules
    else
      head.render layout ++
        layout.block depth (layout.line (depth + 1) ++ renderRules layout (depth + 1) rules)
  | .declarations body =>
    let texts := body.texts layout
    Layout.join (";" ++ layout.line depth) texts ++ layout.choose "" ";"
  | .layers names =>
    "@layer " ++ Layout.join layout.comma (names.map renderLayer) ++ ";"
  | .importSheet sheet => sheet.render layout
  | .namespaceLabel label address =>
    "@namespace " ++ (label.map fun label => writeIdentifier label ++ " ").getD "" ++
      writeString address ++ ";"
  | .keyframes keyword name frames =>
    if keyword == "-ms-keyframes" then ""
    else
      "@" ++ keyword ++ " " ++ name.render ++
        layout.block depth (renderFrames layout (depth + 1) frames)
  | .page selectors body margins =>
    "@page" ++ renderPages layout selectors ++
      layout.block depth (renderPageBody layout (depth + 1) body margins)
  | .registration registration =>
    let line := layout.line (depth + 1)
    "@property " ++ writeIdentifier registration.name ++
      layout.block depth (line ++ Layout.join (";" ++ line) (registration.lines layout))
  | .fontFeatures families sets =>
    "@font-feature-values " ++ Layout.join layout.comma families ++ layout.blank ++
      renderFeatureSets layout depth sets
  | .descriptors head body =>
    head ++ layout.block depth (Declarations.render layout (depth + 1) false { normal := body })
  | .declared head body => head ++ body.renderBlock layout depth
  | .unknown keyword head block =>
    "@" ++ keyword ++ (if head.isEmpty then "" else " " ++ head.render layout false) ++
      match block with
      | none => ";"
      | some value => layout.block depth (layout.line (depth + 1) ++ value.render layout false)

/-- The texts of rules with gaps between them. -/
def renderRules (layout : Layout) (depth : Nat) : List Rule → String
  | [] => ""
  | [rule] => rule.render layout depth
  | rule :: next :: rest =>
    rule.render layout depth ++ ruleGap layout depth rule next ++
      renderRules layout depth (next :: rest)

end

/-- The text of a stylesheet. -/
def Stylesheet.render (layout : Layout) (sheet : Stylesheet) : String :=
  String.join (sheet.comments.map fun comment => "/*" ++ comment ++ "*/\n") ++
    renderRules layout 0 sheet.rules ++ layout.line 0

end ComponentFile.Style
