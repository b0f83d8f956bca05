import ComponentFile.Digest
import ComponentFile.Script.Token

/-!
# Quoting in scripts

Strings are printed in double quotes, with as few escapes as can be.  Nothing that is printed ends a
script in the document that holds it.

* `quote` — the text of a string.
* `quoteDirective` — the text of a directive, which is kept as it was written.
* `guardScriptEnd` — a text in which nothing ends a script.
-/

namespace ComponentFile.Script

/-- The end of a script in a document, behind its opening bracket. -/
def scriptEnd : List Char := "/script".toList

/-- Whether letters begin with the end of a script, in any case. -/
def beginsScriptEnd (letters : List Letter) : Bool :=
  (letters.take scriptEnd.length).map (fun
    | .char c => some c.toLower
    | .half _ => none) = scriptEnd.map some

/-- A character inside double quotes. -/
def quoteChar (c : Char) : List Char :=
  if c == '"' || c == '\\' then ['\\', c]
  else if c == '\n' then ['\\', 'n']
  else if c == '\r' then ['\\', 'r']
  else if c == '\x08' then ['\\', 'b']
  else if c == '\x0b' then ['\\', 'v']
  else if c == '\x0c' then ['\\', 'f']
  else if c == '\x07' then "\\x07".toList
  else if c == '\x1b' then "\\x1B".toList
  else if c == '\u00a0' then "\\xA0".toList
  else if c == '\u2028' then "\\u2028".toList
  else if c == '\u2029' then "\\u2029".toList
  else [c]

/-- Whether a letter is a digit. -/
def Letter.isDigit : Letter → Bool
  | .char c => c.isDigit
  | .half _ => false

/-- The letters of a string inside double quotes.  A zero is written so that no digit joins it, and
the end of a script so that it is none. -/
def quoteLetters : List Letter → List Char
  | [] => []
  | .half unit :: rest => '\\' :: 'u' :: Digest.hexDigits 4 unit ++ quoteLetters rest
  | .char c :: rest =>
    if c.toNat = 0 then
      (if rest.head?.any Letter.isDigit then "\\x00".toList else ['\\', '0']) ++ quoteLetters rest
    else if c == '<' && beginsScriptEnd rest then '<' :: '\\' :: quoteLetters rest
    else quoteChar c ++ quoteLetters rest

/-- The text of a string. -/
def quote (value : List Letter) : String := String.ofList ('"' :: quoteLetters value ++ ['"'])

/-- The first quote of a text that no backslash stands in front of. -/
def firstQuote? : List Char → Option Char
  | [] => none
  | '\\' :: _ :: rest => firstQuote? rest
  | c :: rest => if c == '"' || c == '\'' then some c else firstQuote? rest

/-- The text of a directive, which is kept as it was written, in quotes that it does not hold. -/
def quoteDirective (raw : String) : String :=
  let mark := if firstQuote? raw.toList = some '"' then "'" else "\""
  mark ++ raw ++ mark

/-- A text in which the end of a script is written so that it is none. -/
def guardScriptEnd (text : String) : String :=
  String.ofList (guarded text.toList)
where
  /-- The characters of such a text. -/
  guarded : List Char → List Char
    | [] => []
    | '<' :: rest =>
      if beginsScriptEnd (rest.map .char) then '<' :: '\\' :: guarded rest else '<' :: guarded rest
    | c :: rest => c :: guarded rest

end ComponentFile.Script
