import ComponentFile.Script.Cursor

/-!
# Types in scripts

Types are read to find their end and leave nothing.

* `skipType` — passes a type.
* `skipAnnotation`, `skipTypeParameters` — types where the dialect allows them.
-/

namespace ComponentFile.Script

/-- Passes everything up to the mark that closes a bracket; `closers` are the marks that have to
come, the innermost first. -/
def skipBracket : (limit : Nat) → (closers : List String) → Cursor → Except Fault Cursor
  | 0, _, cursor => cursor.fail .unexpectedToken
  | _, [], cursor => .ok cursor
  | limit + 1, closing :: outer, cursor =>
    if cursor.atMark closing then skipBracket limit outer cursor.advance
    else
      match cursor.next.token with
      | .mark "(" => skipBracket limit (")" :: closing :: outer) cursor.advance
      | .mark "[" => skipBracket limit ("]" :: closing :: outer) cursor.advance
      | .mark "\x7b" => skipBracket limit ("\x7d" :: closing :: outer) cursor.advance
      | .mark ")" | .mark "]" | .mark "\x7d" => cursor.fail .unexpectedToken
      | .finish | .wrong _ => cursor.fail (.expected closing cursor.next.token.describe)
      | _ => skipBracket limit (closing :: outer) cursor.advance

/-- Words in front of a type that belong to it. -/
def typeOperators : List String :=
  ["keyof", "readonly", "unique", "infer", "typeof", "asserts", "abstract", "new"]

mutual

/-- Passes a type: alternatives of simple types, or a choice between types. -/
def skipType : (limit : Nat) → Cursor → Except Fault Cursor
  | 0, cursor => cursor.fail .unexpectedToken
  | limit + 1, cursor => do
    let cursor := if cursor.atMark "|" || cursor.atMark "&" then cursor.advance else cursor
    let mayBeFunction := cursor.atMark "(" || cursor.atMark "<" || cursor.atWord "new"
    let cursor ← skipSimpleType limit cursor
    if cursor.atMark "|" || cursor.atMark "&" || cursor.atWord "is" ||
        (mayBeFunction && cursor.atMark "=>") then
      skipType limit cursor.advance
    else if cursor.atWord "extends" && !cursor.next.afterLine then
      let cursor ← skipType limit cursor.advance
      if cursor.atMark "?" then
        let cursor ← skipType limit cursor.advance
        let cursor ← cursor.expect ":"
        skipType limit cursor
      else return cursor
    else return cursor

/-- Passes a type without alternatives. -/
def skipSimpleType : (limit : Nat) → Cursor → Except Fault Cursor
  | 0, cursor => cursor.fail .unexpectedToken
  | limit + 1, cursor =>
    match cursor.next.token with
    | .name word =>
      match cursor.advance.next.token with
      | .name _ | .mark "(" | .mark "\x7b" | .mark "[" =>
        if typeOperators.contains word && !cursor.advance.next.afterLine then
          skipSimpleType limit cursor.advance
        else skipTypeRest limit cursor.advance
      | _ =>
        if isReserved word && word ∉ ["null", "true", "false", "this", "void"] then
          cursor.fail .unexpectedToken
        else skipTypeRest limit cursor.advance
    | .string _ _ | .number _ _ => skipTypeRest limit cursor.advance
    | .mark "-" => skipSimpleType limit cursor.advance
    | .mark "(" => do skipTypeRest limit (← skipBracket limit [")"] cursor.advance)
    | .mark "[" => do skipTypeRest limit (← skipBracket limit ["]"] cursor.advance)
    | .mark "\x7b" => do skipTypeRest limit (← skipBracket limit ["\x7d"] cursor.advance)
    | .mark "<" => do
      let cursor ← skipTypeArguments limit cursor.advance
      skipSimpleType limit cursor
    | _ => cursor.fail .unexpectedToken

/-- Passes what may follow a simple type: parts of a path, arguments, and array brackets. -/
def skipTypeRest : (limit : Nat) → Cursor → Except Fault Cursor
  | 0, cursor => .ok cursor
  | limit + 1, cursor =>
    if cursor.atMark "." then do
      let (_, cursor) ← readAnyName cursor.advance
      skipTypeRest limit cursor
    else if cursor.atMark "<" then do
      let cursor ← skipTypeArguments limit cursor.advance
      skipTypeRest limit cursor
    else if cursor.atMark "[" && !cursor.next.afterLine then do
      let cursor := cursor.advance
      let cursor ← if cursor.atMark "]" then pure cursor else skipType limit cursor
      let cursor ← cursor.expect "]"
      skipTypeRest limit cursor
    else .ok cursor

/-- Passes types in angle brackets behind the opening one; a type may have a default. -/
def skipTypeArguments : (limit : Nat) → Cursor → Except Fault Cursor
  | 0, cursor => cursor.fail .unexpectedToken
  | limit + 1, cursor => do
    let cursor ← skipType limit cursor
    let cursor ← if cursor.atMark "=" then skipType limit cursor.advance else pure cursor
    let (hasMore, cursor) ← readSeparator ">" cursor
    if hasMore then skipTypeArguments limit cursor else cursor.expect ">"

end

/-- Passes types with commas between them. -/
def skipTypes : (limit : Nat) → Cursor → Except Fault Cursor
  | 0, cursor => cursor.fail .unexpectedToken
  | limit + 1, cursor => do
    let cursor ← skipType limit cursor
    if cursor.atMark "," then skipTypes limit cursor.advance else return cursor

/-- Passes the type of a variable, if the dialect has types and one is given. -/
def skipAnnotation (dialect : Dialect) (limit : Nat) (cursor : Cursor) : Except Fault Cursor :=
  if dialect.hasTypes && cursor.atMark ":" then skipType limit cursor.advance else .ok cursor

/-- Passes the parameters of a type or a function in angle brackets, if the dialect has types and
they are given. -/
def skipTypeParameters (dialect : Dialect) (limit : Nat) (cursor : Cursor) : Except Fault Cursor :=
  if dialect.hasTypes && cursor.atMark "<" then skipTypeArguments limit cursor.advance
  else .ok cursor

end ComponentFile.Script
