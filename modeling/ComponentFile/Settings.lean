import ComponentFile.Json.Reader

/-!
# Caller settings

A caller configures the script engine with a JSON object.  Five of its members have a meaning
here; all the others are the engine's business and are handed on as they are.

* `ScriptSettings` — the settings of the script engine.
* `ScriptSettings.ofMembers`, `ScriptSettings.members` — from and to the members of an object.
* `CompileSettings.parse` — the settings in a JSON text, or the first thing in the text that is
  wrong, reading from left to right.
-/

namespace ComponentFile

/-- The settings of the script engine. -/
structure ScriptSettings where
  /-- Whether a source map is wanted. -/
  sourceMap : Bool := false
  filename : Option String := none
  sourceFileName : Option String := none
  sourceMapTarget : Option String := none
  /-- The dialect of the script. -/
  lang : Option String := none
  /-- Settings that only the engine understands. -/
  extra : List (String × Json) := []
deriving Repr

/-- Everything a caller can configure. -/
structure CompileSettings where
  script : ScriptSettings := {}
deriving Repr

namespace ScriptSettings

/-! ## Objects -/

/-- The members that have a meaning here. -/
def knownNames : List String :=
  ["sourceMap", "filename", "sourceFileName", "sourceMapTarget", "lang"]

/-- Whether a member may have a value: the source map switch is a truth value, the other known
members are strings or `null`, and any value goes elsewhere. -/
def accepts (name : String) (value : Json) : Bool :=
  if name = "sourceMap" then value.bool?.isSome
  else if name ∈ knownNames then
    match value with
    | .null => true
    | .str _ => true
    | _ => false
  else true

/-- The string value of a member, if it has one. -/
def text? (members : List (String × Json)) (name : String) : Option String :=
  (members.lookup name).bind Json.str?

/-- The settings that the members of an object describe. -/
def ofMembers (members : List (String × Json)) : ScriptSettings where
  sourceMap := ((members.lookup "sourceMap").bind Json.bool?).getD false
  filename := text? members "filename"
  sourceFileName := text? members "sourceFileName"
  sourceMapTarget := text? members "sourceMapTarget"
  lang := text? members "lang"
  extra := members.filter fun (name, _) => name ∉ knownNames

/-- A member for a string that is set. -/
def textMember (name : String) (value : Option String) : List (String × Json) :=
  (value.map fun text => (name, Json.str text)).toList

/-- The members of the object that describes the settings; strings that are not set are left
out. -/
def members (settings : ScriptSettings) : List (String × Json) :=
  ("sourceMap", .bool settings.sourceMap) ::
    (textMember "filename" settings.filename ++
      textMember "sourceFileName" settings.sourceFileName ++
      textMember "sourceMapTarget" settings.sourceMapTarget ++
      textMember "lang" settings.lang ++ settings.extra)

/-- The settings as a JSON object. -/
def toJson (settings : ScriptSettings) : Json := .obj settings.members

/-! ## Text -/

/-- Fails with the problem that a value of the wrong kind is: a scalar is still read, so that it may
turn out to be no value at all. -/
def wrongKind {α : Type} : Reader α
  | '[' :: _ => .error .mismatch
  | '\x7b' :: _ => .error .mismatch
  | text =>
    match Reader.scalar .keep text with
    | .ok _ => .error .mismatch
    | .error error => .error error

/-- Reads the value of a known member, which is no array and no object. -/
def readKnown (name : String) : Reader Json := fun text =>
  match Reader.skipBlanks text with
  | '[' :: _ => .error .mismatch
  | '\x7b' :: _ => .error .mismatch
  | here => do
    let (value, rest) ← Reader.scalar .keep here
    if accepts name value then return (value, rest) else throw .mismatch

/-- Reads the rest of a member and adds it.  A known member is given at most once; of others the
last one counts. -/
def readMember (depth : Nat) (done : List (String × Json)) (name : String) :
    Reader (List (String × Json)) := fun text =>
  if name ∈ knownNames then
    if (done.lookup name).isSome then .error .mismatch
    else do
      let (_, rest) ← Reader.sign ':' text
      let (value, rest) ← readKnown name rest
      return (done ++ [(name, value)], rest)
  else do
    let (_, rest) ← Reader.sign ':' text
    let (value, rest) ← Reader.value .keep depth rest
    return (Json.setMember done name value.merged, rest)

/-- Reads script settings whose members nest at most `depth` levels. -/
def read (depth : Nat) : Reader ScriptSettings := fun text =>
  match Reader.skipBlanks text with
  | '\x7b' :: rest => do
    let (members, rest) ← Reader.members .keep (readMember depth) true (rest.length + 1) [] rest
    return (ofMembers members, rest)
  | here => wrongKind here

end ScriptSettings

namespace CompileSettings

/-- The settings as a JSON object. -/
def toJson (settings : CompileSettings) : Json := .obj [("script", settings.script.toJson)]

/-- Reads the rest of a member of the outermost object, of which only `script` has a meaning. -/
def readMember (script : Option ScriptSettings) (name : String) :
    Reader (Option ScriptSettings) := fun text =>
  if name = "script" then
    if script.isSome then .error .mismatch
    else do
      let (_, rest) ← Reader.sign ':' text
      let (settings, rest) ← ScriptSettings.read (Json.maxDepth - 2) rest
      return (some settings, rest)
  else do
    let (_, rest) ← Reader.sign ':' text
    let (_, rest) ← Reader.skipValue rest
    return (script, rest)

/-- Reads settings behind the brace of an object. -/
def readObject : Reader CompileSettings := fun text => do
  let (script, rest) ← Reader.members .keep readMember true (text.length + 1) none text
  return (⟨script.getD {}⟩, rest)

/-- Reads settings behind the bracket of an array, which holds the script settings or nothing. -/
def readArray : Reader CompileSettings := fun text =>
  match Reader.skipBlanks text with
  | [] => .error .ended
  | ']' :: rest => .ok (⟨{}⟩, rest)
  | here => do
    let (script, rest) ← ScriptSettings.read (Json.maxDepth - 2) here
    let (_, rest) ← Reader.sign ']' rest
    return (⟨script⟩, rest)

/-- Reads settings, in an object or an array. -/
def read : Reader CompileSettings := fun text =>
  match Reader.skipBlanks text with
  | '\x7b' :: rest => readObject rest
  | '[' :: rest => readArray rest
  | here => ScriptSettings.wrongKind here

/-- The settings in a JSON text. -/
def parse (text : String) : Except JsonError CompileSettings := do
  let (settings, rest) ← read text.toList
  Reader.atEnd rest
  return settings

end CompileSettings

end ComponentFile
