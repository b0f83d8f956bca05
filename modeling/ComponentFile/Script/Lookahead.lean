import ComponentFile.Script.Element
import ComponentFile.Script.Linkage
import ComponentFile.Script.Trait

/-!
# Telling what comes next in a script

* `operatorHere` — the operator between two values.
* `failAtElement` — what is wrong with an element.
* `binding?`, `beginsKey`, `atAsyncFunction`, `mayAwait` — what begins with a token.
* `readTemplateRest`, `readRegexHere` — tokens that only the place tells from others.
* `readFieldName`, `closeItems`, `readJump` — parts of values and statements that hold no others.
-/

namespace ComponentFile.Script

/-! ## Tokens with more than one meaning -/

/-- Operators that begin with a closing angle bracket, the longest first. -/
def angleOperators : List String := [">>>=", ">>>", ">>=", ">>", ">=", ">"]

/-- The operator that stands here, and the cursor behind it. -/
def operatorHere (cursor : Cursor) : Option (String × Cursor) :=
  match cursor.next.token with
  | .mark ">" =>
    let text := '>' :: cursor.rest
    let found := angleOperators.find? fun operator => operator.toList.isPrefixOf text
    found.map fun operator =>
      (operator, cursor.moveTo (cursor.next.start + operator.length) (text.drop operator.length))
  | .mark mark => some (mark, cursor.advance)
  | .name "in" => if cursor.around.allowsIn then some ("in", cursor.advance) else none
  | .name "instanceof" => some ("instanceof", cursor.advance)
  | _ => none

/-- What an opening angle bracket in front of a value means where it is not the start of a type: an
element, which is not allowed. -/
def failAtElement {α : Type} (dialect : Dialect) (cursor : Cursor) : Except Fault α :=
  match skipElement (cursor.rest.length + 2) cursor.rest with
  | .ok _ => cursor.fail .elementNotAllowed
  | .error here =>
    match dialect with
    | .plain | .types => cursor.fail .unexpectedToken
    | .elements | .typesAndElements =>
      let offset := cursor.next.stop + (byteLength cursor.rest - byteLength here)
      .error ⟨.unexpectedToken, offset⟩

/-- The kind of declaration that a word begins. -/
def binding? : Token → Option Binding
  | .name "const" => some .const
  | .name "let" => some .let
  | .name "var" => some .var
  | _ => none

/-- Whether the word of a declaration stands here as a name. -/
def isNameLet (cursor : Cursor) : Bool :=
  cursor.atWord "let" &&
    match cursor.advance.next.token with
    | .mark mark =>
      [".", "(", ";"].contains mark || assignOperators.contains mark ||
        (operatorStrength? mark).isSome
    | .name word => word == "in" || word == "instanceof"
    | _ => false

/-- Whether a key may begin with a token. -/
def beginsKey : Token → Bool
  | .name _ | .escapedWord _ | .string _ _ | .number _ _ | .mark "[" | .mark "#" => true
  | _ => false

/-- Whether a word stands here in front of the key of a method. -/
def atMethodWord (word : String) (cursor : Cursor) : Bool :=
  cursor.atWord word && beginsKey cursor.advance.next.token

/-- Whether a method that is run in steps or later begins here. -/
def atAsyncMethod (cursor : Cursor) : Bool :=
  cursor.atWord "async" && !cursor.advance.next.afterLine &&
    (beginsKey cursor.advance.next.token || cursor.advance.atMark "*")

/-- Whether a function that is run later begins here. -/
def atAsyncFunction (cursor : Cursor) : Bool :=
  cursor.atWord "async" && cursor.advance.atWord "function" && !cursor.advance.next.afterLine

/-- Passes the mark of a function that is run in steps. -/
def readStar (cursor : Cursor) : Bool × Cursor :=
  if cursor.atMark "*" then (true, cursor.advance) else (false, cursor)

/-- Whether a value may follow the word for waiting on its line. -/
def mayAwait (cursor : Cursor) : Bool :=
  !cursor.next.afterLine &&
    match cursor.next.token with
    | .name _ | .string _ _ | .number _ _ => true
    | .template piece => piece.isLast
    | _ => false

/-- Whether nothing is handed out by a word that hands out values. -/
def yieldsNothing (cursor : Cursor) : Bool :=
  cursor.next.afterLine || cursor.atEnd || cursor.atWord "in" ||
    [";", "\x7d", ")", "]", ":", ","].any cursor.atMark

/-- Words that say how a member of a class may be used and leave nothing. -/
def memberModifiers : List String :=
  ["public", "private", "protected", "readonly", "abstract", "declare", "override"]

/-- Passes the words in front of a member of a class or of a parameter that leave nothing, if the
dialect has types. -/
def skipModifiers (dialect : Dialect) : (limit : Nat) → Cursor → Cursor
  | 0, cursor => cursor
  | limit + 1, cursor =>
    if dialect.hasTypes && memberModifiers.any (atMethodWord · cursor) then
      skipModifiers dialect limit cursor.advance
    else cursor

/-- Passes a mark, if it stands here and the dialect has types. -/
def skipTypeMark (dialect : Dialect) (mark : String) (cursor : Cursor) : Cursor :=
  if dialect.hasTypes && cursor.atMark mark then cursor.advance else cursor

/-- Passes the types that a call is made with, if the dialect has types and they stand here. -/
def skipCallTypes (dialect : Dialect) (limit : Nat) (cursor : Cursor) : Cursor :=
  if dialect.hasTypes && cursor.atMark "<" then
    match skipTypeArguments limit cursor.advance with
    | .ok behind =>
      match behind.next.token with
      | .mark "(" | .template _ => behind
      | _ => cursor
    | .error _ => cursor
  else cursor

/-- Reads the next piece of a template behind the value that ends here. -/
def readTemplateRest (cursor : Cursor) : Except Fault (TemplatePiece × Cursor) := do
  if cursor.atMark "\x7d" then
    match readTemplatePiece? cursor.rest with
    | some (piece, rest) =>
      let stop := cursor.next.stop + (byteLength cursor.rest - byteLength rest)
      return (piece, cursor.moveTo stop rest)
    | none => throw ⟨.unterminatedString, cursor.next.start⟩
  else cursor.fail (.expected "\x7d" cursor.next.token.describe)

/-- Reads a regular expression, the opening slash of which is the next token or its start. -/
def readRegexHere (cursor : Cursor) : Except Fault (Regex × Cursor) :=
  let text := if cursor.atMark "/=" then '=' :: cursor.rest else cursor.rest
  let start := cursor.next.start
  let place (rest : List Char) : Nat := start + 1 + (byteLength text - byteLength rest)
  match readRegex text with
  | .ok (regex, rest) => .ok (regex, cursor.moveTo (place rest) rest)
  | .error (.unterminatedRegex, _) => .error ⟨.unterminatedRegex, start⟩
  | .error (problem, here) => .error ⟨problem, place here⟩

/-! ## Parts without values -/

/-- Reads the name of a field, which may be private. -/
def readFieldName (cursor : Cursor) : Except Fault (String × Cursor) :=
  if cursor.atMark "#" then do
    let (name, cursor) ← readAnyName cursor.advance
    return ("#" ++ name, cursor)
  else readAnyName cursor

/-- Reads the end of a list of items.  Of a call, the comments behind the last argument are kept. -/
def closeItems (closing : String) (cursor : Cursor) : Except Fault (List Item × Cursor) := do
  let comments := if closing == ")" then cursor.next.comments else []
  return (if comments.isEmpty then [] else [.remark comments], ← cursor.expect closing)

/-- Reads the way out of a loop or a block behind its word. -/
def readJump (jump : Jump) (cursor : Cursor) : Except Fault (Statement × Cursor) := do
  if mayEnd cursor then return (.jump jump none, ← endStatement cursor)
  else
    let (label, cursor) ← readName cursor
    return (.jump jump (some label), ← endStatement cursor)

end ComponentFile.Script
