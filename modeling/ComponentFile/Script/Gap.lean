/-!
# What stands between tokens

Blanks and comments only separate tokens.  Still, whether a line ended in front of a token is kept,
because a statement may end there without a semicolon, and so are the comments that belong to the
token: those on the line of the token before it belong to that one, and are lost.

* `Comment` — a comment as it is written.
* `Gap` — what has been passed between two tokens.
* `skipGap` — passes blanks and comments.
-/

namespace ComponentFile.Script

/-- Whether a character ends a line. -/
def isLineEnd (c : Char) : Bool := c == '\n' || c == '\r' || c == '\u2028' || c == '\u2029'

/-- Whether a character only separates tokens on a line. -/
def isGapChar (c : Char) : Bool :=
  let n := c.toNat
  n == 0x20 || n == 0x09 || n == 0x0B || n == 0x0C || n == 0x85 || n == 0xA0 || n == 0x1680 ||
    (0x2000 ≤ n && n ≤ 0x200B) || n == 0x202F || n == 0x205F || n == 0x3000 || n == 0xFEFF

/-- A comment as it is written, whether a line ends between it and what is in front of it, be that
a token or another comment, and whether one ends directly behind it. -/
structure Comment where
  text : String
  isLine : Bool
  afterLine : Bool
  beforeLine : Bool
deriving DecidableEq, Repr

/-- What has been passed between two tokens. -/
structure Gap where
  /-- Whether the next token does not stand on the line of the one before. -/
  endedLine : Bool
  /-- Whether a line has ended outside of comments. -/
  sawLine : Bool
  /-- Whether a line has ended since the last comment. -/
  atLineStart : Bool
  /-- The comments that belong to the next token. -/
  comments : List Comment

namespace Gap

/-- Nothing passed yet; the start of a script counts as the start of a line. -/
def start (isScriptStart : Bool) : Gap := ⟨isScriptStart, isScriptStart, isScriptStart, []⟩

/-- Passes the end of a line.  The comments before the first one belong to the token before, unless
that one keeps none (`keepsNone`). -/
def endLine (keepsNone : Bool) (gap : Gap) : Gap :=
  let comments := match gap.comments.getLast? with
    | some comment => gap.comments.dropLast ++ [{ comment with beforeLine := true }]
    | none => []
  { gap with
    endedLine := true
    sawLine := true
    atLineStart := true
    comments := if gap.sawLine || keepsNone then comments else [] }

/-- Passes a comment up to the end of its line. -/
def addLineComment (keepsNone : Bool) (text : String) (gap : Gap) : Gap :=
  let comment : Comment := ⟨text, true, gap.atLineStart, true⟩
  { gap with comments := gap.comments ++ [comment] }.endLine keepsNone

/-- Passes a comment between marks. -/
def addBlockComment (text : String) (gap : Gap) : Gap :=
  let comment : Comment := ⟨text, false, gap.atLineStart, false⟩
  { gap with
    endedLine := gap.endedLine || text.toList.any isLineEnd
    atLineStart := false
    comments := gap.comments ++ [comment] }

end Gap

/-- What a comment says about the calls behind it, if it is no ordinary one. -/
inductive Annotation where
  /-- The call has no effect but its value. -/
  | pureCall
  /-- No call of the function has an effect but its value. -/
  | pureFunction
deriving DecidableEq, Repr

/-- The annotation that a comment is. -/
def Comment.annotation? (comment : Comment) : Option Annotation :=
  match (comment.text.toList.drop 2).dropWhile Char.isWhitespace with
  | '@' :: rest | '#' :: rest =>
    if "__PURE__".toList.isPrefixOf rest then some .pureCall
    else if "__NO_SIDE_EFFECTS__".toList.isPrefixOf rest then some .pureFunction
    else none
  | _ => none

/-- The length of a comment behind its opening marks, the closing ones included. -/
def commentLength? : List Char → Option Nat
  | [] => none
  | '*' :: '/' :: _ => some 2
  | _ :: rest => (commentLength? rest).map (· + 1)

/-- Passes blanks and comments.  A comment that does not end is the start of the rest. -/
def skipGap (keepsNone : Bool) : (limit : Nat) → Gap → List Char → Gap × List Char
  | 0, gap, text => (gap, text)
  | limit + 1, gap, text =>
    match text with
    | '/' :: '/' :: rest =>
      let line := text.takeWhile fun c => !isLineEnd c
      skipGap keepsNone limit (gap.addLineComment keepsNone (String.ofList line))
        (rest.dropWhile fun c => !isLineEnd c)
    | '/' :: '*' :: rest =>
      match commentLength? rest with
      | none => (gap, text)
      | some length =>
        let comment := String.ofList (text.take (length + 2))
        skipGap keepsNone limit (gap.addBlockComment comment) (rest.drop length)
    | c :: rest =>
      if isGapChar c then skipGap keepsNone limit gap rest
      else if isLineEnd c then skipGap keepsNone limit (gap.endLine keepsNone) rest
      else (gap, text)
    | [] => (gap, [])

end ComponentFile.Script
