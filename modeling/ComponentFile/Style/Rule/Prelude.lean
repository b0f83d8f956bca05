import ComponentFile.Style.Rule
import ComponentFile.Style.Selector.Parser

/-!
# Heads of rules

A rule that begins with an at-sign has a name and a head, up to its block or to a semicolon.  The
name says how the head is read, and what kind of block may follow.

* `SheetPart`, `Place` — where a rule stands, and so which rules may stand there.
* `RuleHead` — a head that was read; `readRuleHead` — reads one.
-/

namespace ComponentFile.Style

/-! ## Places -/

/-- How far the top level of a sheet has come: layers, imports and namespaces stand in front. -/
inductive SheetPart where
  | start
  | layers
  | imports
  | namespaces
  | rules
deriving DecidableEq, Repr

/-- The order of the parts of a sheet. -/
def SheetPart.rank : SheetPart → Nat
  | start => 0
  | layers => 1
  | imports => 2
  | namespaces => 3
  | rules => 4

/-- Where items are read. -/
inductive Place where
  | sheet (part : SheetPart)
  | group
  | style
deriving DecidableEq, Repr

/-- The place inside the block of a grouping rule. -/
def Place.inner : Place → Place
  | .sheet _ => .group
  | place => place

/-- The place behind a rule. -/
def Place.after (rule : Rule) : Place → Place
  | .sheet part => .sheet <|
    match rule with
    | .layers _ => if part.rank ≤ SheetPart.layers.rank then .layers else .rules
    | .importSheet _ => .imports
    | .namespaceLabel .. => .namespaces
    | .unknown _ _ none => part
    | _ => .rules
  | place => place

/-! ## Layers -/

/-- Reads the parts of a layer's name that follow points, without blanks between them. -/
def readLayerParts : (limit : Nat) → Pieces → List String × Pieces
  | 0, input => ([], input)
  | limit + 1, input =>
    match input.here? with
    | some (point, rest) =>
      match rest.here? with
      | some (piece, behind) =>
        match piece.ident? with
        | some name =>
          if point.isDelim '.' then
            let (names, last) := readLayerParts limit behind
            (name :: names, last)
          else ([], input)
        | none => ([], input)
      | none => ([], input)
    | none => ([], input)

/-- Reads the name of a layer. -/
def readLayerName (input : Pieces) : Except Fault (LayerName × Pieces) :=
  match input.next? with
  | none => failAtEnd input
  | some (piece, rest) =>
    match piece.ident? with
    | none => failAt input (.unexpected piece.first)
    | some name =>
      let (names, last) := readLayerParts rest.pieces.length rest
      .ok (name :: names, last)

/-- Reads the names of layers between commas. -/
def readLayersIn : List Pieces → Except Fault (List LayerName)
  | [] => .ok []
  | part :: rest => do
    let (name, last) ← readLayerName part.trim
    expectEnd last
    return name :: (← readLayersIn rest)

/-- Reads the names of layers.  There are none where a name is missing, and then what follows must
be the end. -/
def readLayerNames (input : Pieces) : Except Fault (List LayerName) :=
  match readLayersIn (input.splitAt Piece.isComma) with
  | .error ⟨.endOfInput, place⟩ =>
    if place = input.stop then .ok []
    else .error ⟨.unexpected ⟨.comma, [','], place, place⟩, place⟩
  | result => result

/-! ## Containers and scopes -/

/-- Words that a container cannot be called. -/
def reservedContainers : List String := ["none", "and", "or", "not", "default"] ++ wideKeywords

/-- Reads the name of a container, if one stands first. -/
def readContainerName (input : Pieces) : Option String × Pieces :=
  match input.next? with
  | none => (none, input)
  | some (piece, rest) =>
    match piece.ident? with
    | none => (none, input)
    | some name =>
      if reservedContainers.contains name.toLower then (none, input) else (some name, rest)

/-- Reads the head of a container rule. -/
def readContainerHead (input : Pieces) : Except Fault (GroupHead × Pieces) :=
  let (name, rest) := readContainerName input
  match name, readCondition containerReader true rest with
  | _, .ok (condition, behind) => .ok (.container name (some condition), behind)
  | some name, .error ⟨.endOfInput, _⟩ => .ok (.container (some name) none, rest)
  | _, .error fault => .error fault

/-- Reads one end of a scope, if it stands here. -/
def readScopeEnd? (input : Pieces) : Option (Except Fault (List Selector) × Pieces) :=
  match input.next? with
  | some (.block opener body stop _, rest) =>
    if opener.token == .opening .round then some (readScopeSelectors ⟨body, stop⟩, rest) else none
  | _ => none

/-- Reads the head of a scope rule. -/
def readScopeHead (input : Pieces) : Except Fault (GroupHead × Pieces) := do
  let (root, rest) ← match readScopeEnd? input with
    | some (selectors, rest) => do
      let selectors ← selectors
      pure (some selectors, rest)
    | none => pure (none, input)
  match rest.afterWord? "to" with
  | none => return (.scope root none, rest)
  | some behind =>
    match readScopeEnd? behind with
    | none => failAtNext behind
    | some (selectors, rest) =>
      let selectors ← selectors
      return (.scope root (some selectors), rest)

/-- Reads the head of a rule for one kind of browser: `url-prefix()`, which matches every
address. -/
def readDocumentHead (input : Pieces) : Except Fault (GroupHead × Pieces) :=
  match input.next? with
  | some (.block opener body stop _, rest) =>
    match opener.token with
    | .function name =>
      if name.toLower == "url-prefix" then do
        let inner : Pieces := ⟨body, stop⟩
        match inner.next? with
        | some (piece, behind) =>
          if piece.first.token == .string "" then expectEnd behind else expectEnd inner
        | none => pure ()
        return (.mozDocument, rest)
      else failAt input (.unexpected opener)
    | _ => failAt input (.unexpected opener)
  | _ => failAtNext input

/-! ## Addresses -/

/-- The pieces of an address in quotes and brackets. -/
def readQuotedAddress (body : Pieces) : Except Fault String :=
  match body.next? with
  | none => failAtEnd body
  | some (piece, rest) =>
    match piece.first.token with
    | .string value => do
      expectEnd rest
      return value
    | _ => failAt body (.unexpected piece.first)

/-- Reads an address: a string, or an address in brackets. -/
def readAddressPiece (input : Pieces) : Except Fault (String × Pieces) :=
  match input.next? with
  | none => failAtEnd input
  | some (.token lexeme, rest) =>
    match lexeme.token with
    | .string value => .ok (value, rest)
    | .url value => .ok (value, rest)
    | _ => failAt input (.unexpected lexeme)
  | some (.block opener body stop _, rest) =>
    match opener.token with
    | .function name =>
      if name.toLower == "url" then do
        let value ← readQuotedAddress ⟨body, stop⟩
        return (value, rest)
      else failAt input (.unexpected opener)
    | _ => failAt input (.unexpected opener)

/-- Reads the label and address of a namespace. -/
def readNamespace (input : Pieces) : Except Fault (Rule × Pieces) := do
  let (label, rest) := match input.next? with
    | some (piece, rest) => if piece.ident?.isSome then (piece.ident?, rest) else (none, input)
    | none => (none, input)
  let (address, rest) ← readAddressPiece rest
  return (.namespaceLabel label address, rest)

/-- The arguments of a function, if it comes first, and what follows it. -/
def Pieces.afterFunction? (name : String) (input : Pieces) : Option (Pieces × Pieces) :=
  match input.next? with
  | some (.block opener body stop _, rest) =>
    match opener.token with
    | .function found => if found.toLower == name then some (⟨body, stop⟩, rest) else none
    | _ => none
  | _ => none

/-- Reads the layer that an imported sheet goes into. -/
def readImportLayer (input : Pieces) : Except Fault (Option (Option LayerName) × Pieces) :=
  match input.afterWord? "layer", input.afterFunction? "layer" with
  | some rest, _ => .ok (some none, rest)
  | none, some (body, rest) => do
    let (name, last) ← readLayerName body
    expectEnd last
    return (some (some name), rest)
  | none, none => .ok (none, input)

/-- Reads the address of a sheet and what it is for. -/
def readImport (input : Pieces) : Except Fault (Rule × Pieces) := do
  let (address, rest) ← readAddressPiece input
  let (layer, rest) ← readImportLayer rest
  let (support, rest) ← match rest.afterFunction? "supports" with
    | some (body, behind) => do
      let condition ← readBareSupport body
      pure (some condition, behind)
    | none => pure (none, rest)
  let media ← readMediaQueries rest
  return (.importSheet { address, layer, support, media }, ⟨[], input.stop⟩)

/-! ## Names -/

/-- Names that an animation can only have in quotes. -/
def reservedAnimations : List String := ["none", "default"] ++ wideKeywords

/-- Reads the name of an animation. -/
def readAnimationName (input : Pieces) : Except Fault (AnimationName × Pieces) :=
  match input.next? with
  | none => failAtEnd input
  | some (piece, rest) =>
    match piece.first.token with
    | .ident name =>
      if reservedAnimations.contains name.toLower then failBehind piece
      else .ok (⟨name, false⟩, rest)
    | .string name => .ok (⟨name, true⟩, rest)
    | _ => failBehind piece

/-- Reads a name that is allowed. -/
def readNameWhere (isAllowed : String → Bool) (input : Pieces) : Except Fault (String × Pieces) :=
  match input.next? with
  | none => failAtEnd input
  | some (piece, rest) =>
    match piece.ident? with
    | some name =>
      if isAllowed name then .ok (name, rest) else failAt input (.unexpected piece.first)
    | none => failAt input (.unexpected piece.first)

/-- Whether a rule of this name holds keyframes. -/
def isKeyframes (keyword : String) : Bool :=
  ["keyframes", "-webkit-keyframes", "-moz-keyframes", "-o-keyframes", "-ms-keyframes"].contains
    keyword.toLower

/-! ## Pages -/

/-- The pseudo-classes of pages. -/
def pageClasses : List String := ["left", "right", "first", "last", "blank"]

/-- Reads the pseudo-classes of a page, of which there are at most `limit`. -/
def readPageClasses : (limit : Nat) → Pieces → Except Fault (List String × Pieces)
  | 0, input => .ok ([], input)
  | limit + 1, input =>
    match input.here? with
    | none => .ok ([], input)
    | some (colon, rest) =>
      if colon.isColon then do
        let (name, behind) ← readNameWhere (fun name => pageClasses.contains name.toLower) rest
        let (names, last) ← readPageClasses limit behind
        return (name.toLower :: names, last)
      else .ok ([], input)

/-- Reads the name and the pseudo-classes of the pages that a rule is for. -/
def readPageSelector (input : Pieces) : Except Fault PageSelector := do
  let (name, rest) := match input.next? with
    | some (piece, rest) => if piece.ident?.isSome then (piece.ident?, rest) else (none, input.trim)
    | none => (none, input)
  let (pseudoClasses, last) ← readPageClasses rest.pieces.length rest
  if name.isNone && pseudoClasses.isEmpty then failAt last .invalidPageSelector
  else
    expectEnd last
    return { name, pseudoClasses }

/-- Reads the pages that a rule is for; none are read where one cannot be. -/
def readPageSelectors (input : Pieces) : List PageSelector × Pieces :=
  match (input.splitAt Piece.isComma).mapM readPageSelector with
  | .ok selectors => (selectors, ⟨[], input.stop⟩)
  | .error _ => ([], input)

/-! ## All heads -/

/-- The head of a rule, by which its block is read. -/
inductive RuleHead where
  | group (head : GroupHead)
  | layers (names : List LayerName)
  /-- A rule without a block, or none if it leaves no trace. -/
  | statement (rule : Option Rule)
  | keyframes (keyword : String) (name : AnimationName)
  | page (selectors : List PageSelector)
  | nest (selectors : List Selector)
  | registration (name : String)
  | fontFeatures (families : List String)
  | descriptors (text : String)
  | declared (text : String)
  | unknown (keyword : String) (head : Value)

/-- Whether a rule may stand in a style rule. -/
def RuleHead.fitsStyle : RuleHead → Bool
  | .group _ | .layers _ | .nest _ | .unknown .. => true
  | _ => false

/-- Reads the head of a rule that may only stand at the top level of a sheet. -/
def readSheetHead? (part : SheetPart) (keyword : String) (head : Pieces) :
    Option (Except Fault (RuleHead × Pieces)) :=
  match keyword with
  | "import" => some <|
    if part.rank > SheetPart.imports.rank then failAt head .lateImport
    else do
      let (rule, rest) ← readImport head
      return (.statement (some rule), rest)
  | "namespace" => some <|
    if part.rank > SheetPart.namespaces.rank then failAt head .lateNamespace
    else do
      let (rule, rest) ← readNamespace head
      return (.statement (some rule), rest)
  | "charset" => some <|
    match head.next? with
    | none => failAtEnd head
    | some (piece, rest) =>
      match piece.first.token with
      | .string _ => .ok (.statement none, rest)
      | _ => failAt head (.unexpected piece.first)
  | _ => none

/-- Reads the head of a rule that may only stand in a style rule. -/
def readStyleHead? (keyword : String) (head : Pieces) :
    Option (Except Fault (RuleHead × Pieces)) :=
  if keyword == "nest" then
    some do
      let selectors ← readNestSelectors head
      return (.nest selectors, ⟨[], head.stop⟩)
  else none

/-- Reads the head of a rule by its name in lower case. -/
def readKnownHead? (keyword : String) (head : Pieces) :
    Option (Except Fault (RuleHead × Pieces)) :=
  let done : Pieces := ⟨[], head.stop⟩
  let group (read : Except Fault (GroupHead × Pieces)) : Except Fault (RuleHead × Pieces) := do
    let (found, rest) ← read
    return (.group found, rest)
  match keyword with
  | "media" => some do
    let queries ← readMediaQueries head
    return (.group (.media queries), done)
  | "supports" => some do
    let condition ← readSupportCondition head
    return (.group (.supports condition), done)
  | "container" => some (group (readContainerHead head))
  | "scope" => some (group (readScopeHead head))
  | "starting-style" => some (.ok (.group .startingStyle, head))
  | "-moz-document" => some (group (readDocumentHead head))
  | "layer" => some do
    let names ← readLayerNames head
    return (.layers names, done)
  | "font-face" => some (.ok (.descriptors "@font-face", head))
  | "view-transition" => some (.ok (.descriptors "@view-transition", head))
  | "font-palette-values" => some do
    let (name, rest) ← readNameWhere (·.startsWith "--") head
    return (.descriptors ("@font-palette-values " ++ writeIdentifier name), rest)
  | "property" => some do
    let (name, rest) ← readNameWhere (·.startsWith "--") head
    return (.registration name, rest)
  | "font-feature-values" => some do
    let families ← readFamilyNames head
    return (.fontFeatures families, done)
  | "counter-style" => some do
    let (name, rest) ← readNameWhere (!isReserved ·) head
    return (.declared ("@counter-style " ++ writeIdentifier name), rest)
  | "viewport" => some (.ok (.declared "@viewport", head))
  | "-ms-viewport" => some (.ok (.declared "@-ms-viewport", head))
  | "page" =>
    let (selectors, rest) := readPageSelectors head
    some (.ok (.page selectors, rest))
  | _ =>
    if isKeyframes keyword then
      some do
        let (name, rest) ← readAnimationName head
        return (.keyframes keyword name, rest)
    else none

/-- Reads the head of a rule at a place.  That a rule may not stand there is noticed behind its
head. -/
def readRuleHead (place : Place) (keyword : String) (head : Pieces) : Except Fault RuleHead := do
  let lowered := keyword.toLower
  let special := match place with
    | .sheet part => readSheetHead? part lowered head
    | .style => readStyleHead? lowered head
    | .group => none
  match special.or (readKnownHead? lowered head) with
  | some read =>
    let (found, rest) ← read
    if place = .style && !found.fitsStyle then failAt rest (.unknownRule keyword)
    else
      expectEnd rest
      return found
  | none => return .unknown keyword (← Value.ofPieces head.trim.pieces)

end ComponentFile.Style
