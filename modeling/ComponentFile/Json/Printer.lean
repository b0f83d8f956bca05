import ComponentFile.Digest
import ComponentFile.Json.Basic

/-!
# Writing JSON

* `Json.quote` — a text as a JSON string.
* `Json.render` — a value as JSON text without blanks.
-/

namespace ComponentFile

/-- The text of a decimal, always in the form of a fraction or with an exponent, so that it is read
back as a decimal. -/
def Decimal.render (d : Decimal) : String :=
  let sign := if d.negative then "-" else ""
  match d.exponent with
  | .ofNat 0 => sign ++ toString d.digits ++ ".0"
  | .ofNat n => sign ++ toString d.digits ++ "e" ++ toString n
  | .negSucc n => sign ++ toString d.digits ++ "e-" ++ toString (n + 1)

namespace Json

/-- How a character is written in a JSON string. -/
def quoteChar (c : Char) : List Char :=
  if c = '"' then ['\\', '"']
  else if c = '\\' then ['\\', '\\']
  else if c = '\n' then ['\\', 'n']
  else if c = '\r' then ['\\', 'r']
  else if c = '\t' then ['\\', 't']
  else if c.toNat < 0x20 then '\\' :: 'u' :: Digest.hexDigits 4 c.toNat
  else [c]

/-- A text as a JSON string. -/
def quote (text : String) : String :=
  "\"" ++ String.ofList (text.toList.flatMap quoteChar) ++ "\""

mutual

/-- A value as JSON text. -/
def render : Json → String
  | null => "null"
  | bool true => "true"
  | bool false => "false"
  | int value => toString value
  | decimal value => value.render
  | str value => quote value
  | arr items => "[" ++ ",".intercalate (renderItems items) ++ "]"
  | obj members => "\x7b" ++ ",".intercalate (renderMembers members) ++ "\x7d"

/-- The texts of the items of an array. -/
def renderItems : List Json → List String
  | [] => []
  | item :: rest => item.render :: renderItems rest

/-- The texts of the members of an object. -/
def renderMembers : List (String × Json) → List String
  | [] => []
  | (name, value) :: rest => (quote name ++ ":" ++ value.render) :: renderMembers rest

end

end Json

end ComponentFile
