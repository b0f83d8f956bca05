import ComponentFile.Script.Tree

/-!
# Reading the tokens of a script one by one

* `Surroundings` — what is allowed where reading has got to.
* `Cursor` — the next token, the text behind it, and what has been noticed so far.
* `Cursor.fail` — which of several faults is reported: one of the next token itself comes before
  one that has only been noted, and that before the one that stops reading.
* `readName`, `endStatement` — the two things that are read everywhere.
-/

namespace ComponentFile.Script

/-- What the function around a place, and the place in it, allow. -/
structure Surroundings where
  /-- Whether values can be waited for. -/
  awaits : Bool
  /-- Whether values can be handed out in steps. -/
  yields : Bool
  /-- Whether the word between a key and an object is an operator. -/
  allowsIn : Bool
deriving DecidableEq, Repr

/-- The next token, the text behind it, and the byte offset where the token before it ended.  A
fault that does not stop reading is noted, and so are names that are exported and the offsets of
default exports; a name exported twice is a fault only if there is no other. -/
structure Cursor where
  next : Lexeme
  rest : List Char
  last : Nat
  around : Surroundings
  noted : Option Fault
  exported : List (String × Nat)
  defaults : List Nat
  repeated : Option Fault

namespace Cursor

/-- The start of a text.  At the top of a script values can be waited for. -/
def ofText (text : String) : Cursor :=
  let (next, rest) := nextLexeme false 0 text.toList
  ⟨next, rest, 0, ⟨true, false, true⟩, none, [], [], none⟩

/-- The cursor in front of a text that begins at a byte offset. -/
def moveTo (cursor : Cursor) (offset : Nat) (text : List Char) : Cursor :=
  let keepsNone := cursor.next.token == .mark "=" || cursor.next.token == .mark "("
  let (next, rest) := nextLexeme keepsNone offset text
  { cursor with next := next, rest := rest, last := offset }

/-- The cursor behind the next token; behind the end there is nothing but the end. -/
def advance (cursor : Cursor) : Cursor := cursor.moveTo cursor.next.stop cursor.rest

/-- The cursor after the comments of the next token have found their place. -/
def withoutComments (cursor : Cursor) : Cursor :=
  { cursor with next := { cursor.next with comments := [] } }

/-- Reads something in other surroundings, and goes back to the present ones. -/
def within {ε α : Type} (cursor : Cursor) (around : Surroundings)
    (read : Cursor → Except ε (α × Cursor)) : Except ε (α × Cursor) := do
  let (found, behind) ← read { cursor with around := around }
  return (found, { behind with around := cursor.around })

/-- Reads something in brackets, where every operator is allowed. -/
def withinBrackets {ε α : Type} (cursor : Cursor) (read : Cursor → Except ε (α × Cursor)) :
    Except ε (α × Cursor) :=
  cursor.within { cursor.around with allowsIn := true } read

/-- Whether the next token is a given mark. -/
def atMark (cursor : Cursor) (mark : String) : Bool := cursor.next.token == .mark mark

/-- Whether the next token is a given word. -/
def atWord (cursor : Cursor) (word : String) : Bool := cursor.next.token == .name word

/-- Whether the script ends here. -/
def atEnd (cursor : Cursor) : Bool := cursor.next.token == .finish

/-- Whether a list ends here: at its closing mark or with the script. -/
def atClose (cursor : Cursor) (closing : String) : Bool := cursor.atMark closing || cursor.atEnd

/-- Fails with a problem at an offset, unless the next token could not be read or a fault has been
noted before. -/
def failAt {α : Type} (cursor : Cursor) (problem : Problem) (offset : Nat) : Except Fault α :=
  match cursor.next.token with
  | .wrong fault => .error fault
  | _ => .error (cursor.noted.getD ⟨problem, offset⟩)

/-- Fails at the next token. -/
def fail {α : Type} (cursor : Cursor) (problem : Problem) : Except Fault α :=
  cursor.failAt problem cursor.next.start

/-- Notes a fault that does not stop reading. -/
def note (cursor : Cursor) (problem : Problem) (offset : Nat) : Cursor :=
  { cursor with noted := cursor.noted.or (some ⟨problem, offset⟩) }

/-- Notes that a name, which stands at an offset, is exported. -/
def noteExport (cursor : Cursor) (name : String) (offset : Nat) : Cursor :=
  let earlier := cursor.exported.lookup name
  { cursor with
    exported := (name, offset) :: cursor.exported
    repeated := cursor.repeated.or (earlier.map fun old => ⟨.repeatedExport name, old⟩) }

/-- Notes a default export, which stands at an offset. -/
def noteDefault (cursor : Cursor) (offset : Nat) : Cursor :=
  { cursor with defaults := cursor.defaults ++ [offset] }

/-- The fault of exporting something twice. -/
def exportFault? (cursor : Cursor) : Option Fault :=
  cursor.repeated.or <|
    match cursor.defaults with
    | first :: _ :: _ => some ⟨.repeatedDefault, first⟩
    | _ => none

/-- Passes a mark that has to stand here. -/
def expect (cursor : Cursor) (mark : String) : Except Fault Cursor :=
  if cursor.atMark mark then .ok cursor.advance
  else cursor.fail (.expected mark cursor.next.token.describe)

/-- Passes a word that has to stand here. -/
def expectWord (cursor : Cursor) (word : String) : Except Fault Cursor :=
  if cursor.atWord word then .ok cursor.advance
  else cursor.fail (.expected word cursor.next.token.describe)

end Cursor

/-- Notes a name that means something else in its surroundings. -/
def Cursor.checkName (cursor : Cursor) (name : String) : Cursor :=
  if name == "await" && cursor.around.awaits then cursor.note .awaitName cursor.next.start
  else if name == "yield" && cursor.around.yields then cursor.note .yieldName cursor.next.start
  else cursor

/-- Reads the name of a variable that is declared. -/
def readName (cursor : Cursor) : Except Fault (String × Cursor) :=
  match cursor.next.token with
  | .name text =>
    if isReserved text then cursor.fail (.reservedName text)
    else .ok (text, (cursor.checkName text).advance)
  | _ => cursor.fail .unexpectedToken

/-- Reads a name that may be a word of the language. -/
def readAnyName (cursor : Cursor) : Except Fault (String × Cursor) :=
  match cursor.next.token with
  | .name text | .escapedWord text => .ok (text, cursor.advance)
  | _ => cursor.fail .unexpectedToken

/-- Reads a string. -/
def readStringValue (cursor : Cursor) : Except Fault (List Letter × Cursor) :=
  match cursor.next.token with
  | .string value _ => .ok (value, cursor.advance)
  | _ => cursor.fail .unexpectedToken

/-- Whether a statement may end here without a semicolon. -/
def mayEnd (cursor : Cursor) : Bool :=
  cursor.atMark ";" || cursor.atClose "\x7d" || cursor.next.afterLine

/-- Ends a statement: at a semicolon, or where a line, a block or the script ends. -/
def endStatement (cursor : Cursor) : Except Fault Cursor :=
  if cursor.atMark ";" then .ok cursor.advance
  else if mayEnd cursor then .ok cursor
  else cursor.failAt .missingSemicolon cursor.last

/-- Whether an item of a list is followed by another one; the list ends at its closing mark or with
the script, but not with the script behind a comma. -/
def readSeparator (closing : String) (cursor : Cursor) : Except Fault (Bool × Cursor) :=
  if cursor.atClose closing then .ok (false, cursor)
  else if cursor.atMark "," then .ok (!cursor.advance.atMark closing, cursor.advance)
  else cursor.fail (.expectedEither "," closing cursor.next.token.describe)

end ComponentFile.Script
