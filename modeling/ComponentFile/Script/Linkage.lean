import ComponentFile.Script.Types

/-!
# Imports and exports of names

* `readImport` — an import.
* `readExportedNames`, `readExportedAll` — exports that only name things.
-/

namespace ComponentFile.Script

/-- Reads the name of something exported. -/
def readExportName (cursor : Cursor) : Except Fault (ExportName × Cursor) :=
  match cursor.next.token with
  | .name text | .escapedWord text => .ok (.name text, cursor.advance)
  | .string value _ => .ok (.string value, cursor.advance)
  | _ => cursor.fail .unexpectedToken

/-- Whether the word for a type stands here as a mark of the name that follows it. -/
def atTypeMark (dialect : Dialect) (cursor : Cursor) : Bool :=
  dialect.hasTypes && cursor.atWord "type" &&
    match cursor.advance.next.token with
    | .name word => word != "as"
    | .string _ _ => true
    | _ => false

/-- Reads one name of an import in curly brackets; a type binds nothing. -/
def readImportedName (dialect : Dialect) (cursor : Cursor) :
    Except Fault (Option Imported × Cursor) := do
  let isType := atTypeMark dialect cursor
  let cursor := if isType then cursor.advance else cursor
  let start := cursor
  let (name, cursor) ← readExportName cursor
  let (bound, cursor) ←
    if cursor.atWord "as" then readName cursor.advance
    else
      match name with
      | .name text => do
        let _ ← readName start
        pure (text, cursor)
      | .string _ => cursor.fail (.expected "as" cursor.next.token.describe)
  return (if isType then none else some (.named name bound), cursor)

/-- Reads the names of an import in curly brackets, one at least. -/
def readImportedNames (dialect : Dialect) :
    (limit : Nat) → Cursor → Except Fault (List Imported × Cursor)
  | 0, cursor => cursor.fail .unexpectedToken
  | limit + 1, cursor => do
    let (name, cursor) ← readImportedName dialect cursor
    let (hasMore, cursor) ← readSeparator "\x7d" cursor
    if hasMore then
      let (others, cursor) ← readImportedNames dialect limit cursor
      return (name.toList ++ others, cursor)
    else return (name.toList, ← cursor.expect "\x7d")

/-- Reads what an import binds besides the default export. -/
def readImportedRest (dialect : Dialect) (limit : Nat) (cursor : Cursor) :
    Except Fault (List Imported × Cursor) := do
  if cursor.atMark "*" then
    let cursor ← cursor.advance.expectWord "as"
    let (bound, cursor) ← readName cursor
    return ([.all bound], cursor)
  else if cursor.atMark "\x7b" then
    let cursor := cursor.advance
    if cursor.atClose "\x7d" then return ([], ← cursor.expect "\x7d")
    else readImportedNames dialect limit cursor
  else cursor.fail .unexpectedToken

/-- Reads what an import binds. -/
def readImported (dialect : Dialect) (limit : Nat) (cursor : Cursor) :
    Except Fault (List Imported × Cursor) := do
  if cursor.atMark "*" || cursor.atMark "\x7b" then readImportedRest dialect limit cursor
  else
    let (bound, cursor) ← readName cursor
    if cursor.atMark "," then
      let (others, cursor) ← readImportedRest dialect limit cursor.advance
      return (.default bound :: others, cursor)
    else return ([.default bound], cursor)

/-- Whether an import or export is one of types only: the word stands in front of what is named. -/
def isTypeLinkage (dialect : Dialect) (cursor : Cursor) : Bool :=
  dialect.hasTypes && cursor.atWord "type" &&
    match cursor.advance.next.token with
    | .name word => word != "from" || cursor.advance.advance.atWord "from"
    | .mark mark => mark == "*" || mark == "\x7b"
    | _ => false

/-- Reads an import behind its word. -/
def readImport (dialect : Dialect) (limit : Nat) (cursor : Cursor) :
    Except Fault (Statement × Cursor) := do
  match cursor.next.token with
  | .string source _ => return (.imported none source, ← endStatement cursor.advance)
  | _ =>
    let isType := isTypeLinkage dialect cursor
    let cursor := if isType then cursor.advance else cursor
    let hasNames := !(cursor.atMark "\x7b" && cursor.advance.atMark "\x7d")
    let (names, cursor) ← readImported dialect limit cursor
    let cursor ← cursor.expectWord "from"
    let (source, cursor) ← readStringValue cursor
    let cursor ← endStatement cursor
    if isType || (hasNames && names.isEmpty) then return (.typeOnly true, cursor)
    else return (.imported (some names) source, cursor)

/-- The text by which an exported name is known. -/
def ExportName.text : ExportName → String
  | .name text => text
  | .string value => String.ofList (value.filterMap fun
    | .char c => some c
    | .half _ => none)

/-- Notes that something is exported under a name, which stands at an offset. -/
def noteExportName (name : ExportName) (offset : Nat) (cursor : Cursor) : Cursor :=
  let cursor := cursor.noteExport name.text offset
  if name.text == "default" then cursor.noteDefault offset else cursor

/-- Reads the names of an export in curly brackets, one at least. -/
def readExportedList (dialect : Dialect) :
    (limit : Nat) → Cursor → Except Fault (List (ExportName × ExportName) × Cursor)
  | 0, cursor => cursor.fail .unexpectedToken
  | limit + 1, cursor => do
    let isType := atTypeMark dialect cursor
    let cursor := if isType then cursor.advance else cursor
    let start := cursor.next.start
    let (name, cursor) ← readExportName cursor
    let (shown, start, cursor) ←
      if cursor.atWord "as" then do
        let start := cursor.advance.next.start
        let (shown, cursor) ← readExportName cursor.advance
        pure (shown, start, cursor)
      else pure (name, start, cursor)
    let cursor := noteExportName shown start cursor
    let found := if isType then [] else [(name, shown)]
    let (hasMore, cursor) ← readSeparator "\x7d" cursor
    if hasMore then
      let (others, cursor) ← readExportedList dialect limit cursor
      return (found ++ others, cursor)
    else return (found, ← cursor.expect "\x7d")

/-- Reads an export of names behind its opening bracket. -/
def readExportedNames (dialect : Dialect) (limit : Nat) (cursor : Cursor) :
    Except Fault (Statement × Cursor) := do
  let hasNames := !cursor.atClose "\x7d"
  let (names, cursor) ←
    if hasNames then readExportedList dialect limit cursor
    else pure ([], ← cursor.expect "\x7d")
  let (source, cursor) ←
    if cursor.atWord "from" then do
      let (source, cursor) ← readStringValue cursor.advance
      pure (some source, cursor)
    else pure (none, cursor)
  let cursor ← endStatement cursor
  if hasNames && names.isEmpty then return (.typeOnly true, cursor)
  else return (.exportedNames names source, cursor)

/-- Reads an export of everything behind its star. -/
def readExportedAll (cursor : Cursor) : Except Fault (Statement × Cursor) := do
  let (name, cursor) ←
    if cursor.atWord "as" then do
      let start := cursor.advance.next.start
      let (name, cursor) ← readExportName cursor.advance
      pure (some name, noteExportName name start cursor)
    else pure (none, cursor)
  let cursor ← cursor.expectWord "from"
  let (source, cursor) ← readStringValue cursor
  return (.exportedAll name source, ← endStatement cursor)

end ComponentFile.Script
