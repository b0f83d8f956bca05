import ComponentFile.Style.Token

/-!
# Bracket structure of a stylesheet

The tokens of a stylesheet form a tree: what stands between brackets belongs to the bracket that
opens it.  A bracket is closed by its own kind only, and one that is never closed ends with the
text.

* `Piece` — a token, or a bracket with what it holds.
* `Pieces` — a run of pieces and the place where it ends.
* `Pieces.next?`, `Pieces.here?` — the first piece behind blanks and comments, or behind comments
  only.
* `readPieces` — the tree of a list of tokens.
-/

namespace ComponentFile.Style

open ComponentFile (Location)

/-- A token, or brackets with what stands between them.  `stop` is the place of the closing
bracket, or of the end of the text, and `closer` the text of the closing bracket if there is
one. -/
inductive Piece where
  | token (lexeme : Lexeme)
  | block (opener : Lexeme) (body : List Piece) (stop : Location) (closer : List Char)
deriving Repr

namespace Piece

/-- The token that a piece begins with. -/
def first : Piece → Lexeme
  | token lexeme => lexeme
  | block opener _ _ _ => opener

/-- The place where a piece begins. -/
def start (piece : Piece) : Location := piece.first.start

/-- The place just behind the token that a piece begins with. -/
def afterFirst (piece : Piece) : Location := piece.first.stop

/-- Whether a piece is a comment. -/
def isComment (piece : Piece) : Bool :=
  match piece.first.token with
  | .comment _ => true
  | _ => false

/-- Whether a piece is a run of blanks. -/
def isBlank (piece : Piece) : Bool := piece.first.token == .blank

/-- Whether a piece only sets others apart. -/
def isGap (piece : Piece) : Bool := piece.isBlank || piece.isComment

/-- Whether a piece is a given single character. -/
def isDelim (c : Char) (piece : Piece) : Bool := piece.first.token == .delim c

/-- Whether a piece is a colon. -/
def isColon (piece : Piece) : Bool := piece.first.token == .colon

/-- Whether a piece is a comma. -/
def isComma (piece : Piece) : Bool := piece.first.token == .comma

/-- Whether a piece is a semicolon. -/
def isSemicolon (piece : Piece) : Bool := piece.first.token == .semicolon

/-- Whether a piece is a block in curly brackets. -/
def isCurly (piece : Piece) : Bool := piece.first.token == .opening .curly

/-- The identifier that a piece is. -/
def ident? (piece : Piece) : Option String :=
  match piece.first.token with
  | .ident name => some name
  | _ => none

/-- Whether a piece is a given identifier, in any case. -/
def isWord (word : String) (piece : Piece) : Bool :=
  piece.ident?.any fun name => name.toLower == word

end Piece

mutual

/-- How many pieces there are in a tree, itself included. -/
def Piece.size : Piece → Nat
  | .token _ => 1
  | .block _ body _ _ => totalSize body + 1

/-- How many pieces there are in a list of trees. -/
def totalSize : List Piece → Nat
  | [] => 0
  | piece :: rest => piece.size + totalSize rest

end

mutual

/-- The text of a piece as it is written. -/
def Piece.text : Piece → List Char
  | .token lexeme => lexeme.text
  | .block opener body _ closer => opener.text ++ piecesText body ++ closer

/-- The text of pieces in order. -/
def piecesText : List Piece → List Char
  | [] => []
  | piece :: rest => piece.text ++ piecesText rest

end

/-- Pieces that are read together, and the place where they end. -/
structure Pieces where
  pieces : List Piece
  stop : Location
deriving Repr

namespace Pieces

/-- The place of the first piece, or of the end. -/
def start (input : Pieces) : Location :=
  match input.pieces with
  | [] => input.stop
  | piece :: _ => piece.start

/-- Drops the blanks and comments in front. -/
def trim (input : Pieces) : Pieces := { input with pieces := input.pieces.dropWhile Piece.isGap }

/-- Whether nothing but blanks and comments is left. -/
def isDone (input : Pieces) : Bool := input.pieces.all Piece.isGap

/-- The first piece behind blanks and comments, and what follows it. -/
def next? (input : Pieces) : Option (Piece × Pieces) :=
  match input.trim.pieces with
  | [] => none
  | piece :: rest => some (piece, ⟨rest, input.stop⟩)

/-- The first piece behind comments, and what follows it. -/
def here? (input : Pieces) : Option (Piece × Pieces) :=
  match input.pieces.dropWhile Piece.isComment with
  | [] => none
  | piece :: rest => some (piece, ⟨rest, input.stop⟩)

/-- The pieces behind a given identifier, if it comes first. -/
def afterWord? (word : String) (input : Pieces) : Option Pieces :=
  match input.next? with
  | some (piece, rest) => if piece.isWord word then some rest else none
  | none => none

/-- Splits pieces in front of the first one of a kind: the pieces before it, which end where it
begins, and the others. -/
def breakAt (isBreak : Piece → Bool) (input : Pieces) : Pieces × Pieces :=
  let rest : Pieces := ⟨input.pieces.dropWhile fun piece => !isBreak piece, input.stop⟩
  (⟨input.pieces.takeWhile fun piece => !isBreak piece, rest.start⟩, rest)

/-- The parts of pieces between those that separate them; there is always at least one part. -/
def splitAt (isSeparator : Piece → Bool) (input : Pieces) : List Pieces :=
  let (last, parts) := input.pieces.foldr step (⟨[], input.stop⟩, [])
  last :: parts
where
  step (piece : Piece) : Pieces × List Pieces → Pieces × List Pieces
    | (next, parts) =>
      if isSeparator piece then (⟨[], piece.start⟩, next :: parts)
      else (⟨piece :: next.pieces, next.stop⟩, parts)

end Pieces

/-! ## Reading -/

/-- A bracket that is still open: its token, and the pieces in front of it in reverse. -/
structure OpenBracket where
  opener : Lexeme
  before : List Piece

/-- Whether a bracket is the one that a closing bracket closes. -/
def OpenBracket.closedBy (closer : Bracket) (bracket : OpenBracket) : Bool :=
  match bracket.opener.token with
  | .opening b => b == closer
  | .function _ => closer == .round
  | _ => false

/-- Closes all brackets where the text ends. -/
def closeAll (stop : Location) (done : List Piece) : List OpenBracket → List Piece
  | [] => done.reverse
  | ⟨opener, before⟩ :: outer =>
    closeAll stop (.block opener done.reverse stop [] :: before) outer

/-- Reads tokens with the pieces read so far at this level, in reverse, and the brackets that are
still open. -/
def nest (stop : Location) : List Lexeme → List Piece → List OpenBracket → List Piece
  | [], done, outer => closeAll stop done outer
  | lexeme :: rest, done, outer =>
    match lexeme.token, outer with
    | .opening _, _ => nest stop rest [] (⟨lexeme, done⟩ :: outer)
    | .function _, _ => nest stop rest [] (⟨lexeme, done⟩ :: outer)
    | .closing b, bracket :: further =>
      if bracket.closedBy b then
        let block := Piece.block bracket.opener done.reverse lexeme.start lexeme.text
        nest stop rest (block :: bracket.before) further
      else nest stop rest (.token lexeme :: done) outer
    | _, _ => nest stop rest (.token lexeme :: done) outer

/-- The bracket structure of a list of tokens that ends at a given place. -/
def readPieces (lexemes : List Lexeme) (stop : Location) : Pieces :=
  ⟨nest stop lexemes [] [], stop⟩

end ComponentFile.Style
