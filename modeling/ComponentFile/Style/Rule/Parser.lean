import ComponentFile.Style.Rule.Prelude

/-!
# Reading stylesheets

A sheet, and the block of every grouping and style rule, is a list of items: rules that begin with
an at-sign, rules that begin with selectors and, inside a style rule, declarations.  A declaration
ends at a semicolon.  What begins like one and holds a block is a rule.

* `Item`, `gather` — what a block holds, and how declarations and rules are told apart in it.
* `Entry`, `entries` — what a block without style rules holds.
* `Stylesheet.parse` — reads a sheet, or tells the first fault in it.
-/

namespace ComponentFile.Style

open ComponentFile (Location)

/-! ## Items -/

/-- Whether a piece between items is passed over. -/
def Place.skips (place : Place) (piece : Piece) : Bool :=
  match place with
  | .sheet _ => piece.isGap || piece.first.token == .hidingMark
  | .group | .style => piece.isGap || piece.isSemicolon

/-- What a block holds. -/
inductive Item where
  | declaration (declaration : Declaration) (isImportant : Bool)
  | rule (rule : Rule)

/-- The place behind an item. -/
def Place.behindItem (place : Place) : Item → Place
  | .declaration .. => place
  | .rule rule => place.after rule

/-- Puts the items of a block together: the declarations in front of the first rule belong to the
block, later ones stay at their place among the rules. -/
def gather : List Item → Declarations → List Rule → Declarations × List Rule
  | [], front, rules => (front, rules.reverse)
  | .rule rule :: rest, front, rules => gather rest front (rule :: rules)
  | .declaration d isImportant :: rest, front, [] => gather rest (front.add d isImportant) []
  | .declaration d isImportant :: rest, front, .declarations body :: rules =>
    gather rest front (.declarations (body.add d isImportant) :: rules)
  | .declaration d isImportant :: rest, front, rules =>
    gather rest front (.declarations (Declarations.add { } d isImportant) :: rules)

/-- The rules of a group, in front of which declarations of the enclosing rule may stand. -/
def groupRules (body : Declarations × List Rule) : List Rule :=
  if body.1.isEmpty then body.2 else .declarations body.1 :: body.2

/-- Descriptions whose names are printed in lower case. -/
def knownDescriptors : List String :=
  ["src", "font-family", "font-weight", "font-style", "font-stretch", "unicode-range",
   "navigation", "types", "base-palette", "override-colors"]

/-- Reads a description, which cannot be important. -/
def readDescriptor (entry : Entry) : Except Fault Declaration := do
  let (name, value) ← entry.field
  let (value, behind) := value.breakAt (Piece.isDelim '!')
  let lowered := name.toLower
  let property :=
    if knownDescriptors.contains lowered then Property.known none lowered else .unknown name
  let value ← match fontDescription? lowered value with
    | some value => pure value
    | none => Value.ofPieces value.pieces
  expectEnd behind
  return ⟨property, value⟩

/-- Reads a block of descriptions.  Those that cannot be read are left out. -/
def readDescriptors (body : Pieces) : List Declaration :=
  body.entries.filterMap fun entry => (readDescriptor entry).toOption

/-! ## Keyframes -/

/-- The phases of a timeline. -/
def timelinePhases : List String :=
  ["cover", "contain", "entry", "exit", "entry-crossing", "exit-crossing"]

/-- Reads a point of an animation. -/
def readFramePoint (input : Pieces) : Except Fault FramePoint :=
  match input.next? with
  | none => failAtEnd input
  | some (piece, rest) =>
    match piece.first.token, rest.next? with
    | .percentage n, _ => do
      expectEnd rest
      return .share n.part
    | .ident name, some (.token ⟨.percentage n, _, _, _⟩, last) =>
      if timelinePhases.contains name.toLower then do
        expectEnd last
        return .phase name.toLower n.part
      else failAt input (.unexpected piece.first)
    | .ident name, _ => do
      let point ← match name.toLower with
        | "from" => pure .start
        | "to" => pure .finish
        | _ => failAt input (.unexpected piece.first)
      expectEnd rest
      return point
    | _, _ => failAt input (.unexpected piece.first)

/-- Reads a keyframe. -/
def readKeyframe (head body : Pieces) : Except Fault Keyframe := do
  let points ← (head.splitAt Piece.isComma).mapM readFramePoint
  let body ← readDeclarations body
  return { points, body }

/-- Reads keyframes.  Those that cannot be read are left out. -/
def readKeyframes : (limit : Nat) → Pieces → List Keyframe
  | 0, _ => []
  | limit + 1, input =>
    match input.pieces.dropWhile fun piece => piece.isGap || piece.isSemicolon with
    | [] => []
    | piece :: rest =>
      match piece.first.token with
      | .atKeyword _ =>
        let (_, _, next) := splitAtRule ⟨rest, input.stop⟩
        readKeyframes limit next
      | _ =>
        let (head, ending, next) := splitRule ⟨piece :: rest, input.stop⟩ Piece.isCurly
        match ending with
        | .block _ body =>
          let frame := (readKeyframe head body).toOption
          frame.toList ++ readKeyframes limit next
        | _ => []

/-! ## Pages -/

/-- The margins of a page. -/
def pageMargins : List String :=
  ["top-left-corner", "top-left", "top-center", "top-right", "top-right-corner", "left-top",
   "left-middle", "left-bottom", "right-top", "right-middle", "right-bottom",
   "bottom-left-corner", "bottom-left", "bottom-center", "bottom-right", "bottom-right-corner"]

/-- Reads the margin of a page. -/
def readPageMargin (keyword : String) (head : Pieces) (ending : Ending) :
    Except Fault PageMargin := do
  if !pageMargins.contains keyword.toLower then failAt head (.unknownRule keyword)
  else
    expectEnd head
    match ending with
    | .block _ body => return ⟨keyword.toLower, ← readDeclarations body⟩
    | _ => failWithoutBlock head ending

/-- Reads the block of a page rule: declarations and margins, each in their order. -/
def readPageBody (body : Pieces) : Except Fault (Declarations × List PageMargin) :=
  body.entries.foldlM (fun (declarations, margins) entry => do
    match entry with
    | .atRule keyword head ending =>
      let margin ← readPageMargin keyword head ending
      return (declarations, margins ++ [margin])
    | entry =>
      let (declaration, isImportant) ← entry.declaration?
      return (declarations.add declaration isImportant, margins)) ({ }, [])

/-! ## Rules -/

/-- Finishes a rule without style rules in it. -/
def finishRule (found : RuleHead) (head : Pieces) (ending : Ending) :
    Except Fault (Option Rule) :=
  match found, ending with
  | .statement _, .block opener _ => .error ⟨.unexpected opener, opener.stop⟩
  | .statement rule, _ => .ok rule
  | .keyframes keyword name, .block _ body =>
    .ok (some (.keyframes keyword name (readKeyframes (body.pieces.length + 1) body)))
  | .page selectors, .block _ body => do
    let (declarations, margins) ← readPageBody body
    return some (.page selectors declarations margins)
  | .registration name, .block _ body => do
    let registration ← Registration.read name body
    return some (.registration registration)
  | .fontFeatures families, .block _ body => do
    let sets ← readFeatureSets body
    return some (.fontFeatures families sets)
  | .descriptors text, .block _ body => .ok (some (.descriptors text (readDescriptors body)))
  | .declared text, .block _ body => do
    let declarations ← readDeclarations body
    return some (.declared text declarations)
  | .unknown keyword value, .block _ body => do
    let block ← Value.ofPieces body.pieces
    return some (.unknown keyword value (some block))
  | .unknown keyword value, _ => .ok (some (.unknown keyword value none))
  | _, _ => failWithoutBlock head ending

mutual

/-- Reads the items of a block or of a sheet. -/
def itemsIn : (limit : Nat) → Place → Pieces → Except Fault (List Item)
  | 0, _, input => failAtEnd input
  | limit + 1, place, input =>
    match input.pieces with
    | [] => .ok []
    | piece :: rest =>
      let behind : Pieces := ⟨rest, input.stop⟩
      if place.skips piece then itemsIn limit place behind
      else
        match piece.first.token with
        | .atKeyword keyword => do
          let (head, ending, rest) := splitAtRule behind
          match ← atRule limit place keyword head ending with
          | none => itemsIn limit place rest
          | some rule => return .rule rule :: (← itemsIn limit (place.after rule) rest)
        | .ident name => do
          let (item, rest) ← namedItem limit place name input behind
          return item :: (← itemsIn limit (place.behindItem item) rest)
        | _ => do
          let (rule, rest) ← styleRule limit place input
          return .rule rule :: (← itemsIn limit (place.after rule) rest)

/-- Reads an item that begins with a name: inside a style rule a declaration, and a rule where it
cannot be one. -/
def namedItem : (limit : Nat) → Place → String → Pieces → Pieces → Except Fault (Item × Pieces)
  | 0, _, _, input, _ => failAtEnd input
  | limit + 1, place, name, input, behind =>
    match place with
    | .style =>
      let (here, rest) := behind.breakAt Piece.isSemicolon
      match Declaration.read name here with
      | .ok (declaration, isImportant) => .ok (.declaration declaration isImportant, rest)
      | .error fault =>
        match styleRule limit place input with
        | .ok (rule, rest) => .ok (.rule rule, rest)
        | .error _ => .error fault
    | _ => do
      let (rule, rest) ← styleRule limit place input
      return (.rule rule, rest)

/-- Reads a style rule.  That it has no block is reported before any fault in its selectors. -/
def styleRule : (limit : Nat) → Place → Pieces → Except Fault (Rule × Pieces)
  | 0, _, input => failAtEnd input
  | limit + 1, place, input =>
    let (head, ending, rest) := splitRule input fun piece =>
      piece.isCurly || (place == .style && piece.isSemicolon)
    match ending with
    | .finish => .error ⟨.endOfInput, head.stop⟩
    | .semicolon _ => .error ⟨.unexpected (semicolonAt head.stop), head.stop⟩
    | .block _ body => do
      let selectors ←
        if place == .style then readNestedSelectors head else readSelectors head
      let (declarations, rules) ← bodyIn limit .style body
      return (.style selectors declarations rules, rest)

/-- Reads a block. -/
def bodyIn : (limit : Nat) → Place → Pieces → Except Fault (Declarations × List Rule)
  | 0, _, input => failAtEnd input
  | limit + 1, place, input => do
    let items ← itemsIn limit place input
    return gather items { } []

/-- Reads the block of a grouping rule. -/
def groupIn : (limit : Nat) → Place → GroupHead → Pieces → Except Fault (Option Rule)
  | 0, _, _, body => failAtEnd body
  | limit + 1, place, head, body => do
    let found ← bodyIn limit place.inner body
    return some (.group head (groupRules found))

/-- Reads a rule that begins with an at-sign; `none` if it leaves no trace. -/
def atRule : (limit : Nat) → Place → String → Pieces → Ending → Except Fault (Option Rule)
  | 0, _, _, head, _ => failAtEnd head
  | limit + 1, place, keyword, head, ending => do
    match ← readRuleHead place keyword head, ending with
    | .group group, .block _ body => groupIn limit place group body
    | .nest selectors, .block _ body =>
      let (declarations, rules) ← bodyIn limit .style body
      return some (.nest selectors declarations rules)
    | .layers [], .block _ body => groupIn limit place (.layer none) body
    | .layers [name], .block _ body => groupIn limit place (.layer (some name)) body
    | .layers _, .block _ body => failAt body .blockNotAllowed
    | .layers [], ending => failWithoutBlock head ending
    | .layers names, ending =>
      if place = .style then failWithoutBlock head ending else return some (.layers names)
    | found, ending => finishRule found head ending

end

/-- Reads the rules of a sheet. -/
def readRules (input : Pieces) : Except Fault (List Rule) := do
  let items ← itemsIn (4 * (totalSize input.pieces + 2)) (.sheet .start) input
  return (gather items { } []).2

/-! ## Sheets -/

/-- The pieces behind the name of a character set, where the sheet begins with one. -/
def dropCharset (input : Pieces) : Pieces :=
  match input.pieces.dropWhile (Place.skips (.sheet .start)) with
  | .token ⟨.atKeyword keyword, _, _, _⟩ :: rest =>
    if keyword.toLower == "charset" then (splitAtRule ⟨rest, input.stop⟩).2.2 else input
  | _ => input

/-- The comments that are kept: those that begin with an exclamation mark and have nothing but
blanks and others of their kind in front of them. -/
def keptComments : List Lexeme → List String
  | [] => []
  | lexeme :: rest =>
    match lexeme.token with
    | .blank => keptComments rest
    | .comment text => if text.startsWith "!" then text :: keptComments rest else []
    | _ => []

/-- Reads a stylesheet. -/
def Stylesheet.parse (text : String) : Except Fault Stylesheet := do
  let (lexemes, stop) := tokenize text
  let rules ← readRules (dropCharset (readPieces lexemes stop))
  return { comments := keptComments lexemes, rules }

end ComponentFile.Style
