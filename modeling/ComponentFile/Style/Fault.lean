import ComponentFile.Diagnostic
import ComponentFile.Style.Measure
import ComponentFile.Style.Piece
import ComponentFile.Text.Visible

/-!
# What can be wrong with a stylesheet

The causes for which reading a stylesheet fails, each with the place where it was noticed.

* `Problem` — the causes; `Problem.message` — their wording.
* `Lexeme.describe` — how a message shows a token.
* `Fault` — a cause and its place; `Fault.toError` — as a failure of a style engine.
* `failAt`, `failAtEnd`, `expectEnd` — faults in pieces that are read.
-/

namespace ComponentFile.Style

open ComponentFile (Location TransformError)
open ComponentFile.Text (quotedChar quotedText)

/-! ## Tokens in messages -/

/-- The fields of a number: its sign, its value and, when it is written without a point, its value
as an integer. -/
def Numeral.fields (valueName : String) (value : Measure) (n : Numeral) : String :=
  let integer := match n.integer? with
    | some i => "Some(" ++ toString i ++ ")"
    | none => "None"
  "has_sign: " ++ (if n.sign.isSome then "true" else "false") ++ ", " ++ valueName ++ ": " ++
    value.exact ++ ", int_value: " ++ integer

/-- How messages show a token. -/
def Lexeme.describe (lexeme : Lexeme) : String :=
  match lexeme.token with
  | .ident name => "Ident(" ++ quotedText name ++ ")"
  | .function name => "Function(" ++ quotedText name ++ ")"
  | .atKeyword name => "AtKeyword(" ++ quotedText name ++ ")"
  | .hash name true => "IDHash(" ++ quotedText name ++ ")"
  | .hash name false => "Hash(" ++ quotedText name ++ ")"
  | .string value => "String(" ++ quotedText value ++ ")"
  | .badString value => "BadString(" ++ quotedText value ++ ")"
  | .url value => "UnquotedUrl(" ++ quotedText value ++ ")"
  | .badUrl text => "BadUrl(" ++ quotedText text ++ ")"
  | .delim c => "Delim('" ++ String.ofList (quotedChar '\'' c) ++ "')"
  | .number n => "Number \x7b " ++ n.fields "value" n.measure ++ " \x7d"
  | .percentage n => "Percentage \x7b " ++ n.fields "unit_value" n.part ++ " \x7d"
  | .dimension n unit =>
    "Dimension \x7b " ++ n.fields "value" n.measure ++ ", unit: " ++ quotedText unit ++ " \x7d"
  | .comparison '~' => "IncludeMatch"
  | .comparison '|' => "DashMatch"
  | .comparison '^' => "PrefixMatch"
  | .comparison '$' => "SuffixMatch"
  | .comparison _ => "SubstringMatch"
  | .blank => "WhiteSpace(" ++ quotedText (String.ofList lexeme.text) ++ ")"
  | .comment text => "Comment(" ++ quotedText text ++ ")"
  | .colon => "Colon"
  | .semicolon => "Semicolon"
  | .comma => "Comma"
  | .opening .round => "ParenthesisBlock"
  | .opening .square => "SquareBracketBlock"
  | .opening .curly => "CurlyBracketBlock"
  | .closing .round => "CloseParenthesis"
  | .closing .square => "CloseSquareBracket"
  | .closing .curly => "CloseCurlyBracket"
  | .hidingMark => if lexeme.text.head? == some '<' then "CDO" else "CDC"

/-! ## Causes -/

/-- Why a stylesheet cannot be read. -/
inductive Problem where
  | endOfInput
  | unexpected (token : Lexeme)
  | emptySelector
  | danglingCombinator
  | classNeedsName (token : Lexeme)
  | pseudoNeedsName (token : Lexeme)
  | labelNeedsName (token : Lexeme)
  | attributeNeedsName (token : Lexeme)
  | attributeLabel (token : Lexeme)
  | attributeBar (token : Lexeme)
  | attributeSign (token : Lexeme)
  | attributeValue (token : Lexeme)
  | afterPseudoElement (token : Lexeme)
  | pseudoClassAfterPseudoElement
  | pseudoClassAfterScrollBar
  | pseudoClassBeforeScrollBar
  | notAllowedHere
  | unknownRule (keyword : String)
  | blockNotAllowed
  | invalidMediaQuery
  | emptyBrackets
  | needsNesting
  | invalidPageSelector
  | invalidValue
  | invalidDeclaration
  | lateImport
  | lateNamespace
deriving Repr

/-- The wording of a cause. -/
def Problem.message : Problem → String
  | endOfInput => "Unexpected end of input"
  | unexpected token => "Unexpected token " ++ token.describe
  | emptySelector => "Invalid empty selector"
  | danglingCombinator => "Invalid dangling combinator in selector"
  | classNeedsName token => "Expected identifier in class selector, got " ++ token.describe
  | pseudoNeedsName token => "Invalid token in pseudo element: " ++ token.describe
  | labelNeedsName token => "Unexpected token in namespace selector: " ++ token.describe
  | attributeNeedsName token => "No qualified name in attribute selector: " ++ token.describe ++ "."
  | attributeLabel token => "Invalid qualified name in attribute selector: " ++ token.describe
  | attributeBar token => "Expected | in attribute, got " ++ token.describe
  | attributeSign token => "Unexpected token in attribute selector: " ++ token.describe
  | attributeValue token => "Invalid value in attribute selector: " ++ token.describe
  | afterPseudoElement token =>
    "Pseudo-elements like '::before' or '::after' can't be followed by selectors like '" ++
      token.describe ++ "'"
  | pseudoClassAfterPseudoElement =>
    "Invalid pseudo class after pseudo element, " ++
      "only user action pseudo classes (e.g. :hover, :active) are allowed"
  | pseudoClassAfterScrollBar => "Invalid pseudo class after ::-webkit-scrollbar pseudo element"
  | pseudoClassBeforeScrollBar =>
    "Pseudo class must be prefixed by a ::-webkit-scrollbar pseudo element"
  | notAllowedHere => "Invalid state"
  | unknownRule keyword => "Unknown at rule: @" ++ keyword
  | blockNotAllowed => "Invalid @ rule body"
  | invalidMediaQuery => "Invalid media query"
  | emptyBrackets => "The brackets cannot be empty"
  | needsNesting => "A nesting selector (&) is required in each selector of a @nest rule"
  | invalidPageSelector => "Invalid page selector"
  | invalidValue => "Invalid value"
  | invalidDeclaration => "Invalid declaration"
  | lateImport =>
    "@import rules must precede all rules aside from @charset and @layer statements"
  | lateNamespace =>
    "@namespaces rules must precede all rules aside from @charset, @import, and @layer statements"

/-- A cause and the place where it was noticed. -/
structure Fault where
  problem : Problem
  place : Location
deriving Repr

/-- A fault as a failure of a style engine. -/
def Fault.toError (fault : Fault) : TransformError :=
  { stage := .style, message := fault.problem.message, location := some fault.place }

/-! ## Faults in pieces -/

/-- Fails with a cause at the start of some pieces. -/
def failAt {α : Type} (input : Pieces) (problem : Problem) : Except Fault α :=
  .error ⟨problem, input.start⟩

/-- Fails because some pieces end too early. -/
def failAtEnd {α : Type} (input : Pieces) : Except Fault α := .error ⟨.endOfInput, input.stop⟩

/-- Fails because of the first of some pieces behind blanks and comments, or because there is
none. -/
def failAtNext {α : Type} (input : Pieces) : Except Fault α :=
  match input.next? with
  | some (piece, _) => failAt input (.unexpected piece.first)
  | none => failAtEnd input

/-- Fails because of a piece that has been read. -/
def failBehind {α : Type} (piece : Piece) : Except Fault α :=
  .error ⟨.unexpected piece.first, piece.afterFirst⟩

/-- Requires that nothing but blanks and comments is left. -/
def expectEnd (input : Pieces) : Except Fault Unit :=
  match input.next? with
  | none => .ok ()
  | some (piece, _) => failAt input (.unexpected piece.first)

end ComponentFile.Style
