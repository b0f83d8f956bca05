import ComponentFile.Style.Selector.Known
import ComponentFile.Style.Value.Reader

/-!
# Reading selectors

A list of selectors is read from the pieces in front of a rule's block.  Commas separate the
selectors.  Each is a compound, then combinators and compounds in turn; blanks are a combinator
when no other mark stands there.

* `Situation` — what may stand at a place in a selector.
* `Draft` — a selector that is being read.
* `readSelectors` — a list of selectors; `readNestedSelectors` — one inside another rule;
  `readScopeSelectors` — one that says where a scope begins or ends.
-/

namespace ComponentFile.Style

open ComponentFile (Location)

/-! ## Selectors that are being read -/

/-- What may stand at a place in a selector, which depends on what stands around and in front of
it. -/
structure Situation where
  /-- Whether the selector has to be one compound. -/
  oneCompound : Bool := false
  /-- Whether the selector is an argument of a function that allows no pseudo-elements. -/
  noPseudoElements : Bool := false
  afterPseudoElement : Bool := false
  afterScrollBar : Bool := false
  afterViewTransition : Bool := false
  afterSlotted : Bool := false
  afterPart : Bool := false
  /-- Whether the selector mentions the enclosing rule's element. -/
  usesNesting : Bool := false

namespace Situation

/-- Whether the current compound belongs to a pseudo target. -/
def afterPseudo (situation : Situation) : Bool :=
  situation.afterPseudoElement || situation.afterSlotted || situation.afterPart

/-- The situation in the arguments of a function that allows no pseudo-elements. -/
def inFunction (situation : Situation) : Situation := { situation with noPseudoElements := true }

/-- The situation in the arguments of a function that takes one compound. -/
def inCompound (situation : Situation) : Situation :=
  { situation with noPseudoElements := true, oneCompound := true }

/-- The situation behind something that may mention the enclosing rule's element. -/
def noting (situation : Situation) (usesNesting : Bool) : Situation :=
  { situation with usesNesting := situation.usesNesting || usesNesting }

end Situation

/-- A selector that is being read: what is to the left of the current compound, the parts of the
compound, and what may follow. -/
structure Draft where
  left : Option (Selector × Combinator) := none
  parts : List Simple := []
  situation : Situation := { }

namespace Draft

/-- The selector read so far. -/
def toSelector (draft : Draft) : Selector :=
  match draft.left with
  | none => .compound draft.parts
  | some (left, combinator) => .joined left combinator draft.parts

/-- Adds a condition to the current compound. -/
def push (draft : Draft) (part : Simple) : Draft := { draft with parts := draft.parts ++ [part] }

/-- Adds the mark of the enclosing rule's element. -/
def pushNesting (draft : Draft) : Draft :=
  { draft.push .nesting with situation := draft.situation.noting true }

/-- Starts a new compound. -/
def join (draft : Draft) (combinator : Combinator) : Draft :=
  { draft with left := some (draft.toSelector, combinator), parts := [] }

/-- Starts a new compound with a known pseudo-element. -/
def pushPseudoElement (draft : Draft) (name : String) (part : Simple) : Draft :=
  { (draft.join .pseudoElement).push part with
    situation :=
      { draft.situation with
        afterPseudoElement := true
        afterScrollBar := draft.situation.afterScrollBar || scrollBarParts.contains name
        afterViewTransition :=
          draft.situation.afterViewTransition || viewTransitions.contains name } }

end Draft

/-! ## Names of elements and attributes -/

/-- A name with its label; no name stands for `*`. -/
structure QualifiedName where
  label : NamePrefix
  name : Option String

/-- Reads the name behind a label and its bar; `none` where the pieces end. -/
def readLabelled (label : NamePrefix) (inAttribute : Bool) (input : Pieces) :
    Except Fault (Option QualifiedName × Pieces) :=
  match input.here? with
  | none => .ok (none, ⟨[], input.stop⟩)
  | some (piece, rest) =>
    match piece.ident? with
    | some name => .ok (some ⟨label, some name⟩, rest)
    | none =>
      if piece.isDelim '*' && !inAttribute then .ok (some ⟨label, none⟩, rest)
      else failAt input
        (if inAttribute then .attributeLabel piece.first else .labelNeedsName piece.first)

/-- The pieces behind a bar, if it comes first. -/
def afterBar? (input : Pieces) : Option Pieces :=
  match input.here? with
  | some (piece, rest) => if piece.isDelim '|' then some rest else none
  | none => none

/-- Reads a name or `*`, with its label if it has one.  `none` stands for no name, and the rest
then tells whether the pieces ended behind a label. -/
def readQualifiedName (inAttribute : Bool) (input : Pieces) :
    Except Fault (Option QualifiedName × Pieces) :=
  match input.here? with
  | none => .ok (none, input)
  | some (piece, rest) =>
    match piece.ident?, afterBar? rest with
    | some label, some behind => readLabelled (.labelled label) inAttribute behind
    | some name, none => .ok (some ⟨.implicit, some name⟩, rest)
    | none, behind =>
      if piece.isDelim '*' then
        match behind with
        | some behind => readLabelled .anySpace inAttribute behind
        | none =>
          if !inAttribute then .ok (some ⟨.implicit, none⟩, rest)
          else
            match rest.here? with
            | none => failAtEnd rest
            | some (next, _) => failAt rest (.attributeBar next.first)
      else if piece.isDelim '|' then readLabelled .noSpace inAttribute rest
      else .ok (none, input)

/-- The conditions that an element's name stands for. -/
def QualifiedName.parts (qualified : QualifiedName) : List Simple :=
  let here := match qualified.name with
    | some name => Simple.element name
    | none => .universal
  if qualified.label = .implicit then [here] else [.space qualified.label, here]

/-- Reads the name of an attribute.  One with an empty label is one without a label. -/
def readAttributeName (input : Pieces) : Except Fault (NamePrefix × String × Pieces) := do
  match ← readQualifiedName true input with
  | (some ⟨.noSpace, some name⟩, rest) => return (.implicit, name, rest)
  | (some ⟨label, some name⟩, rest) => return (label, name, rest)
  | (_, rest) =>
    match rest.here? with
    | none => failAtEnd rest
    | some (piece, _) => failAt rest (.attributeNeedsName piece.first)

/-- The comparison that a token stands for. -/
def comparison? (token : Token) : Option Comparison :=
  match token with
  | .delim '=' => some .equals
  | .comparison '~' => some .includes
  | .comparison '|' => some .dashMatch
  | .comparison '^' => some .startsWith
  | .comparison '$' => some .endsWith
  | .comparison '*' => some .contains
  | _ => none

/-- Reads the letter that says whether case counts. -/
def readCaseFlag (input : Pieces) : Except Fault (Option Char) :=
  match input.next? with
  | none => .ok none
  | some (piece, rest) => do
    let letter ← match piece.ident?.map String.toLower with
      | some "i" => pure 'i'
      | some "s" => pure 's'
      | _ => failAt input (.unexpected piece.first)
    expectEnd rest
    return some letter

/-- An identifier or a string. -/
def Piece.word? (piece : Piece) : Option String :=
  match piece.first.token with
  | .ident name => some name
  | .string value => some value
  | _ => none

/-- Reads what stands between the square brackets of an attribute selector. -/
def readAttributeTest (input : Pieces) : Except Fault AttributeTest := do
  let (space, name, rest) ← readAttributeName input.trim
  let name := AttributeName.of name
  match rest.next? with
  | none => return { space, name }
  | some (sign, behind) =>
    match comparison? sign.first.token with
    | none => failAt rest (.attributeSign sign.first)
    | some comparison =>
      match behind.next? with
      | none => failAtEnd behind
      | some (piece, last) =>
        match piece.word? with
        | none => failAt behind (.attributeValue piece.first)
        | some value =>
          let caseFlag ← readCaseFlag last
          return { space, name, test := some { comparison, value, caseFlag } }

/-! ## Positions -/

/-- The integer that the digits behind `n-` stand for, which is negative; `none` for other
texts. -/
def offsetBehindDash? (text : String) : Option Int :=
  match text.toList with
  | n :: '-' :: d :: ds =>
    if (n == 'n' || n == 'N') && (d :: ds).all Char.isDigit then
      Numeral.integer? ⟨some '-', d :: ds, [], []⟩
    else none
  | _ => none

/-- Reads an offset without a sign of its own. -/
def readUnsignedOffset (step sign : Int) (input : Pieces) : Except Fault (Int × Int × Pieces) :=
  match input.next? with
  | none => failAtEnd input
  | some (piece, rest) =>
    match piece.first.token with
    | .number n =>
      match n.sign, n.integer? with
      | none, some offset => .ok (step, sign * offset, rest)
      | _, _ => failBehind piece
    | _ => failBehind piece

/-- Reads the offset behind `n`, which may be missing. -/
def readOffset (step : Int) (input : Pieces) : Except Fault (Int × Int × Pieces) :=
  match input.next? with
  | none => .ok (step, 0, input)
  | some (piece, rest) =>
    match piece.first.token with
    | .delim '+' => readUnsignedOffset step 1 rest
    | .delim '-' => readUnsignedOffset step (-1) rest
    | .number n =>
      match n.sign, n.integer? with
      | some _, some offset => .ok (step, offset, rest)
      | _, _ => .ok (step, 0, input)
    | _ => .ok (step, 0, input)

/-- Reads what stands behind a step, given the name that begins with `n` and the token that it is
in. -/
def readBehindStep (step : Int) (name : String) (token : Lexeme) (rest : Pieces) :
    Except Fault (Int × Int × Pieces) :=
  if name.toLower == "n" then readOffset step rest
  else if name.toLower == "n-" then readUnsignedOffset step (-1) rest
  else
    match offsetBehindDash? name with
    | some offset => .ok (step, offset, rest)
    | none => .error ⟨.unexpected token, token.stop⟩

/-- Reads positions of the form `step * n + offset`. -/
def readPositions (input : Pieces) : Except Fault (Int × Int × Pieces) :=
  match input.next? with
  | none => failAtEnd input
  | some (piece, rest) =>
    match piece.first.token with
    | .number n =>
      match n.integer? with
      | some offset => .ok (0, offset, rest)
      | none => failBehind piece
    | .dimension n unit =>
      match n.integer? with
      | some step => readBehindStep step unit { piece.first with token := .ident unit } rest
      | none => failBehind piece
    | .ident name =>
      if name.toLower == "even" then .ok (2, 0, rest)
      else if name.toLower == "odd" then .ok (2, 1, rest)
      else
        match name.toList with
        | '-' :: tail => readBehindStep (-1) (String.ofList tail) piece.first rest
        | _ => readBehindStep 1 name piece.first rest
    | .delim '+' =>
      match rest.here? with
      | none => failAtEnd rest
      | some (next, behind) =>
        match next.ident? with
        | some name => readBehindStep 1 name next.first behind
        | none => failBehind next
    | _ => failBehind piece

/-! ## Combinators -/

/-- The combinator that a piece is. -/
def Piece.combinator? (piece : Piece) : Option Combinator :=
  if piece.isDelim '>' then some .child
  else if piece.isDelim '+' then some .nextSibling
  else if piece.isDelim '~' then some .laterSibling
  else none

/-- Reads a combinator; `none` at the end, or where no combinator stands. -/
def readCombinator (input : Pieces) : Option (Combinator × Pieces) :=
  match input.next? with
  | none => none
  | some (piece, rest) =>
    match piece.combinator? with
    | some combinator => some (combinator, rest)
    | none =>
      if (input.pieces.takeWhile Piece.isGap).any Piece.isBlank then
        some (.descendant, input.trim)
      else none

/-! ## Pseudo-classes and pseudo-elements -/

/-- A pseudo-class without arguments. -/
def pseudoClassNamed (situation : Situation) (name : String) (place : Location) :
    Except Fault Simple :=
  let lowered := name.toLower
  let isKnown := knownPseudoClasses.contains lowered || scrollBarClasses.contains lowered
  let found := Simple.pseudoClass (if isKnown then pseudoClassText lowered else name)
  if situation.afterSlotted then .error ⟨.notAllowedHere, place⟩
  else if !situation.afterPseudo && structuralPseudoClasses.contains lowered then
    .ok (.pseudoClass lowered)
  else if situation.afterViewTransition && lowered == "only-child" then .ok (.pseudoClass lowered)
  else if situation.afterScrollBar then
    if scrollBarClasses.contains lowered || scrollBarStates.contains lowered then .ok found
    else .error ⟨.pseudoClassAfterScrollBar, place⟩
  else if scrollBarClasses.contains lowered then .error ⟨.pseudoClassBeforeScrollBar, place⟩
  else if situation.afterPseudoElement && !userActions.contains lowered then
    .error ⟨.pseudoClassAfterPseudoElement, place⟩
  else .ok found

/-- Adds a pseudo-element without arguments, which starts a compound of its own if it is known. -/
def pseudoElementNamed (draft : Draft) (name : String) : Draft :=
  let lowered := name.toLower
  if knownPseudoElements.contains lowered then
    draft.pushPseudoElement lowered (.pseudoElement (pseudoElementText lowered))
  else draft.push (.pseudoElement name)

/-- Reads the names of `::part()`, of which there are at most `limit`. -/
def readPartNames : (limit : Nat) → Pieces → Except Fault (List String)
  | 0, input => failAtEnd input
  | limit + 1, input =>
    match input.next? with
    | none => failAtEnd input
    | some (piece, rest) =>
      match piece.ident? with
      | none => failAt input (.unexpected piece.first)
      | some name =>
        if rest.isDone then .ok [name]
        else do
          let names ← readPartNames limit rest
          return name :: names

/-- Reads the languages of `:lang()`. -/
def readLanguages (body : Pieces) : Except Fault (List String) :=
  (body.splitAt Piece.isComma).mapM fun part =>
    match part.trim.next? with
    | none => failAtEnd part
    | some (piece, rest) =>
      match piece.word? with
      | none => failAt part.trim (.unexpected piece.first)
      | some language => do
        expectEnd rest
        return language

/-- Reads a name that can be given a meaning. -/
def readCustomName (input : Pieces) : Except Fault (String × Pieces) :=
  match input.next? with
  | none => failAtEnd input
  | some (piece, rest) =>
    match piece.ident? with
    | some name =>
      if isReserved name then failAt input (.unexpected piece.first) else .ok (name, rest)
    | none => failAt input (.unexpected piece.first)

/-- Reads the one name of `:state()`. -/
def readStateName (body : Pieces) : Except Fault String := do
  let (name, rest) ← readCustomName body
  expectEnd rest
  return name

/-- Reads the classes of a part of a change of views, at most `limit` of them. -/
def readPartClasses : (limit : Nat) → Pieces → List String × Pieces
  | 0, input => ([], input)
  | limit + 1, input =>
    match input.here? with
    | some (point, rest) =>
      match rest.here? with
      | some (piece, behind) =>
        match piece.ident? with
        | some name =>
          if point.isDelim '.' then
            let (names, last) := readPartClasses limit behind
            (name :: names, last)
          else ([], input)
        | none => ([], input)
      | none => ([], input)
    | none => ([], input)

/-- Reads which parts of a change of views are meant: those of a name or all, and those of some
classes. -/
def readViewPart (body : Pieces) : Except Fault (Option String × List String) := do
  let (name, rest) := match body.next? with
    | some (piece, rest) =>
      if piece.isDelim '*' then (some "*", rest)
      else
        match readCustomName body with
        | .ok (name, rest) => (some name, rest)
        | .error _ => (none, body.trim)
    | none => (none, body)
  let (classes, last) := readPartClasses rest.pieces.length rest
  expectEnd last
  return (name, classes)

/-- Reads the direction of `:dir()`. -/
def readDirection (body : Pieces) : Except Fault String :=
  match body.next? with
  | none => failAtEnd body
  | some (piece, rest) =>
    match piece.ident?.map String.toLower with
    | some word =>
      if word == "ltr" || word == "rtl" then do
        expectEnd rest
        return word
      else failAt body (.unexpected piece.first)
    | none => failAt body (.unexpected piece.first)

/-- What stands behind the colons of a pseudo-class or pseudo-element. -/
structure PseudoName where
  hasTwoColons : Bool
  piece : Piece
  name : String
  arguments : Option Pieces

/-- The name of a pseudo-class or pseudo-element, and its arguments if it is a function. -/
def Piece.pseudoName? : Piece → Option (String × Option Pieces)
  | .token lexeme =>
    match lexeme.token with
    | .ident name => some (name, none)
    | _ => none
  | .block opener body stop _ =>
    match opener.token with
    | .function name => some (name, some ⟨body, stop⟩)
    | _ => none

/-- Reads a pseudo-class or pseudo-element up to its name, behind its first colon. -/
def readPseudoName (input : Pieces) : Except Fault (PseudoName × Pieces) := do
  let first ← match input.here? with
    | none => failAtEnd input
    | some found => pure found
  let hasTwoColons := first.1.isColon
  let (piece, rest) ←
    if hasTwoColons then
      match first.2.here? with
      | none => failAtEnd input
      | some found => pure found
    else pure first
  match piece.pseudoName? with
  | none => .error ⟨.pseudoNeedsName piece.first, piece.afterFirst⟩
  | some (name, arguments) => return (⟨hasTwoColons, piece, name, arguments⟩, rest)

/-- Whether a name behind colons is that of a pseudo-element. -/
def PseudoName.isElement (pseudo : PseudoName) : Bool :=
  pseudo.hasTwoColons || singleColon.contains pseudo.name.toLower

/-! ## Selectors -/

/-- The element that relative selectors start from. -/
structure Origin where
  element : Simple
  /-- Whether a selector that does not mention it lies below it. -/
  isImplied : Bool

/-- Reads what can only stand first in a compound: the enclosing rule's element and the name of an
element. -/
def startCompound (draft : Draft) (input : Pieces) : Except Fault (Draft × Pieces) := do
  let (draft, input) := match input.next? with
    | some (piece, rest) =>
      if piece.isDelim '&' then (draft.pushNesting, rest) else (draft, input)
    | none => (draft, input)
  match ← readQualifiedName false input with
  | (none, rest) => return (draft, rest)
  | (some name, rest) =>
    if draft.situation.afterPseudo then failAt rest .notAllowedHere
    else return ({ draft with parts := draft.parts ++ name.parts }, rest)

/-- Reads the name of a class behind its point. -/
def readClassName (input : Pieces) : Except Fault (String × Pieces) :=
  match input.here? with
  | none => failAtEnd input
  | some (piece, rest) =>
    match piece.ident? with
    | some name => .ok (name, rest)
    | none => failAt input (.classNeedsName piece.first)

mutual

/-- Reads a list of selectors, and whether one of them mentions the enclosing rule's element.  A
forgiving list leaves out those that cannot be read. -/
def selectorsIn : (limit : Nat) → Situation → Option Origin → (isForgiving : Bool) → Pieces →
    Except Fault (List Selector × Bool)
  | 0, _, _, _, input => failAtEnd input
  | limit + 1, situation, origin, isForgiving, input => do
    let parts := input.splitAt Piece.isComma
    let read ←
      if isForgiving then
        pure (parts.filterMap fun part => (selectorIn limit situation origin part).toOption)
      else parts.mapM (selectorIn limit situation origin)
    return (read.map Prod.fst, read.any Prod.snd)

/-- Reads one selector, and whether it mentions the enclosing rule's element. -/
def selectorIn : (limit : Nat) → Situation → Option Origin → Pieces →
    Except Fault (Selector × Bool)
  | 0, _, _, input => failAtEnd input
  | limit + 1, situation, none, input => do
    let draft ← compounds limit { situation } input
    return (draft.toSelector, draft.situation.usesNesting)
  | limit + 1, situation, some origin, input =>
    match input.next? with
    | none => failAtEnd input
    | some (piece, rest) =>
      let start := Selector.compound [origin.element]
      match piece.combinator? with
      | some combinator => do
        let draft ← compounds limit { situation } rest
        return (.precededBy start combinator draft.toSelector, draft.situation.usesNesting)
      | none => do
        let draft ← compounds limit { situation } input
        if origin.isImplied && !draft.situation.usesNesting then
          return (.precededBy start .descendant draft.toSelector, true)
        else return (draft.toSelector, draft.situation.usesNesting)

/-- Reads compounds with combinators between them, up to the end. -/
def compounds : (limit : Nat) → Draft → Pieces → Except Fault Draft
  | 0, _, input => failAtEnd input
  | limit + 1, draft, input => do
    let (named, rest) ← startCompound draft input.trim
    let (filled, rest) ← conditions limit named rest
    if filled.parts.isEmpty then
      failAt rest (if draft.left.isSome then .danglingCombinator else .emptySelector)
    else if filled.situation.afterPseudo then
      match rest.next? with
      | none => return filled
      | some (piece, _) => failAt rest (.afterPseudoElement piece.first)
    else
      match readCombinator rest with
      | none =>
        expectEnd rest
        return filled
      | some (combinator, rest) =>
        if filled.situation.oneCompound then failAt rest .notAllowedHere
        else compounds limit (filled.join combinator) rest

/-- Reads the conditions of a compound. -/
def conditions : (limit : Nat) → Draft → Pieces → Except Fault (Draft × Pieces)
  | 0, draft, input => .ok (draft, input)
  | limit + 1, draft, input => do
    match ← condition limit draft input with
    | none => return (draft, input)
    | some (extended, rest) => conditions limit extended rest

/-- Reads one condition, if one stands here. -/
def condition : (limit : Nat) → Draft → Pieces → Except Fault (Option (Draft × Pieces))
  | 0, _, _ => .ok none
  | limit + 1, draft, input =>
    match input.here? with
    | none => .ok none
    | some (.block opener body stop _, rest) =>
      if opener.token != .opening .square then .ok none
      else if draft.situation.afterPseudo then failAt input (.afterPseudoElement opener)
      else do
        let test ← readAttributeTest ⟨body, stop⟩
        return some (draft.push (.attr test), rest)
    | some (.token lexeme, rest) =>
      match lexeme.token with
      | .hash name true =>
        if draft.situation.afterPseudo then failAt input (.afterPseudoElement lexeme)
        else .ok (some (draft.push (.id name), rest))
      | .delim '.' =>
        if draft.situation.afterPseudo then failAt input (.afterPseudoElement lexeme)
        else do
          let (name, rest) ← readClassName rest
          return some (draft.push (.ofClass name), rest)
      | .delim '&' => .ok (some (draft.pushNesting, rest))
      | .colon => do
        let (pseudo, behind) ← readPseudoName rest
        let extended ←
          if pseudo.isElement then pseudoElement limit draft pseudo behind
          else pseudoClass limit draft pseudo rest.start
        return some (extended, behind)
      | _ => .ok none

/-- Adds a pseudo-element, behind which other pieces follow. -/
def pseudoElement : (limit : Nat) → Draft → PseudoName → Pieces → Except Fault Draft
  | 0, _, _, behind => failAtEnd behind
  | limit + 1, draft, pseudo, behind => do
    let situation := draft.situation
    let lowered := pseudo.name.toLower
    let refused : Except Fault Draft := .error ⟨.notAllowedHere, pseudo.piece.afterFirst⟩
    if situation.noPseudoElements || situation.afterPseudoElement then refused
    else
      match pseudo.arguments with
      | none =>
        if situation.afterSlotted && !slottedPseudoElements.contains lowered then
          failAt behind .notAllowedHere
        else return pseudoElementNamed draft pseudo.name
      | some body =>
        if lowered == "part" then
          if situation.afterPseudo then refused
          else
            let names ← readPartNames (body.pieces.length + 1) body
            return { (draft.join .part).push (.part names) with
              situation := { situation with afterPart := true } }
        else if lowered == "slotted" then
          if situation.afterPseudo then refused
          else
            let (selector, usesNesting) ← selectorIn limit situation.inCompound none body
            return { (draft.join .slotAssignment).push (.slotted selector) with
              situation := { situation.noting usesNesting with afterSlotted := true } }
        else
          let extended ← pseudoElementOf limit draft pseudo.name body
          if situation.afterSlotted then failAt behind .notAllowedHere else return extended

/-- Adds a pseudo-element with arguments. -/
def pseudoElementOf : (limit : Nat) → Draft → String → Pieces → Except Fault Draft
  | 0, _, _, body => failAtEnd body
  | limit + 1, draft, name, body => do
    let lowered := name.toLower
    if lowered == "cue" || lowered == "cue-region" then
      let (selector, _) ← selectorIn limit { } none body
      return draft.pushPseudoElement lowered (.cue lowered selector)
    else if viewTransitions.contains lowered then
      let (part, classes) ← readViewPart body
      return draft.pushPseudoElement lowered (.viewTransition lowered part classes)
    else return draft.push (.pseudoElementOf name (← rawText body.pieces))

/-- Adds a pseudo-class whose name begins at a given place. -/
def pseudoClass : (limit : Nat) → Draft → PseudoName → Location → Except Fault Draft
  | 0, _, pseudo, _ => .error ⟨.endOfInput, pseudo.piece.afterFirst⟩
  | limit + 1, draft, pseudo, place => do
    match pseudo.arguments with
    | none => return draft.push (← pseudoClassNamed draft.situation pseudo.name place)
    | some body =>
      let (part, usesNesting) ← pseudoClassOf limit draft.situation pseudo.name body
      return { draft.push part with situation := draft.situation.noting usesNesting }

/-- Reads a pseudo-class with arguments, and whether they mention the enclosing rule's element. -/
def pseudoClassOf : (limit : Nat) → Situation → String → Pieces → Except Fault (Simple × Bool)
  | 0, _, _, body => failAtEnd body
  | limit + 1, situation, name, body => do
    let lowered := name.toLower
    match Position.ofFunction? lowered with
    | some position =>
      if situation.afterPseudo then failAt body .notAllowedHere
      else
        let (step, offset, rest) ← readPositions body
        match if position.countsMatches then rest.afterWord? "of" else none with
        | none =>
          expectEnd rest
          return (.nth position step offset, false)
        | some inner =>
          let (within, _) ← selectorsIn limit situation.inFunction none true inner
          return (.nthOf position step offset within, false)
    | none =>
      if forgivingFunctions.contains lowered || lowered == "not" then
        let (selectors, usesNesting) ←
          selectorsIn limit situation.inFunction none (lowered != "not") body
        return (.matching lowered selectors, usesNesting)
      else if lowered == "has" then
        let (selectors, usesNesting) ←
          selectorsIn limit situation (some ⟨.scopeRoot, false⟩) true body
        return (.matching lowered selectors, usesNesting)
      else if situation.afterPseudo then failAt body .notAllowedHere
      else if lowered == "host" then
        let (selector, usesNesting) ← selectorIn limit situation.inCompound none body
        return (.matching lowered [selector], usesNesting)
      else if lowered == "lang" then return (.lang (← readLanguages body), false)
      else if lowered == "dir" then
        return (.pseudoClassOf lowered (← readDirection body), false)
      else if lowered == "state" then
        return (.naming lowered [← readStateName body], false)
      else if lowered == "active-view-transition-type" then
        let names ← (body.splitAt Piece.isComma).mapM fun part => readStateName part.trim
        return (.naming lowered names, false)
      else return (.pseudoClassOf name (← rawText body.pieces), false)

end

/-- A number of steps that is enough to read some pieces: each step enters a bracket, takes a
piece or goes one function deeper. -/
def selectorLimit (input : Pieces) : Nat := 8 * (totalSize input.pieces + 2)

/-- Reads a list of selectors. -/
def readSelectors (input : Pieces) : Except Fault (List Selector) :=
  Prod.fst <$> selectorsIn (selectorLimit input) { } none false input

/-- Reads the selectors of a rule inside another one: they may begin with a combinator, and one
that does not mention the enclosing rule's element selects below it. -/
def readNestedSelectors (input : Pieces) : Except Fault (List Selector) :=
  Prod.fst <$> selectorsIn (selectorLimit input) { } (some ⟨.nesting, true⟩) false input

/-- Reads the selectors of a rule that says itself how it is nested: each has to mention the
enclosing rule's element. -/
def readNestSelectors (input : Pieces) : Except Fault (List Selector) :=
  (input.splitAt Piece.isComma).mapM fun part => do
    let (selector, usesNesting) ← selectorIn (selectorLimit input) { } none part
    if usesNesting then return selector else .error ⟨.needsNesting, part.stop⟩

/-- Reads the selectors for an end of a scope: they may begin with a combinator, and those that
cannot be read are left out. -/
def readScopeSelectors (input : Pieces) : Except Fault (List Selector) :=
  Prod.fst <$> selectorsIn (selectorLimit input) { } (some ⟨.scopeRoot, false⟩) true input

end ComponentFile.Style
