import ComponentFile.Script.Cursor

/-!
# Elements in scripts

Some dialects allow markup elements as values.  They are read to tell a value that is not allowed
from a text that is no value at all.

* `skipElement` — passes an element behind its opening bracket.
-/

namespace ComponentFile.Script

/-- Whether a character belongs to the name of an element or of one of its attributes. -/
def isElementNameChar (c : Char) : Bool :=
  Text.isVariableChar c || c == '-' || c == '.' || c == ':'

/-- A text without the blanks in front of it. -/
def skipElementBlanks (text : List Char) : List Char :=
  text.dropWhile fun c => isGapChar c || isLineEnd c

/-- The text behind the curly bracket that closes so many open ones. -/
def skipBraces : (depth : Nat) → List Char → Option (List Char)
  | _, [] => none
  | depth, '\x7b' :: rest => skipBraces (depth + 1) rest
  | 0, '\x7d' :: rest => some rest
  | depth + 1, '\x7d' :: rest => skipBraces depth rest
  | depth, _ :: rest => skipBraces depth rest

/-- The text behind a quoted value whose opening quote has been passed. -/
def skipQuoted (quote : Char) (text : List Char) : Option (List Char) :=
  match text.dropWhile (· != quote) with
  | [] => none
  | _ :: rest => some rest

/-- The text behind a closing tag of a name, the opening bracket and slash of which have been
passed. -/
def skipClosingTag (name text : List Char) : Option (List Char) :=
  let text := skipElementBlanks text
  let rest := skipElementBlanks (text.dropWhile isElementNameChar)
  match rest with
  | '>' :: rest => if text.takeWhile isElementNameChar = name then some rest else none
  | _ => none

mutual

/-- Passes an element behind its opening bracket; the error is the text where it goes wrong. -/
def skipElement : (limit : Nat) → List Char → Except (List Char) (List Char)
  | 0, text => .error text
  | limit + 1, text =>
    let text := skipElementBlanks text
    let name := text.takeWhile isElementNameChar
    match text with
    | '>' :: rest => skipElementContent limit [] rest
    | [] => .error []
    | c :: _ =>
      if Text.isVariableStart c then
        skipAttributes limit name (text.dropWhile isElementNameChar)
      else .error text

/-- Passes the attributes of an element and what follows them. -/
def skipAttributes : (limit : Nat) → (name : List Char) → List Char →
    Except (List Char) (List Char)
  | 0, _, text => .error text
  | limit + 1, name, text =>
    let text := skipElementBlanks text
    match text with
    | '/' :: rest =>
      match skipElementBlanks rest with
      | '>' :: rest => .ok rest
      | rest => .error rest
    | '>' :: rest => skipElementContent limit name rest
    | '\x7b' :: rest =>
      match skipBraces 0 rest with
      | some rest => skipAttributes limit name rest
      | none => .error text
    | [] => .error []
    | c :: _ =>
      if !Text.isVariableStart c then .error text
      else
        let rest := text.dropWhile isElementNameChar
        match skipElementBlanks rest with
        | '=' :: rest => do
          let rest ← skipAttributeValue limit (skipElementBlanks rest)
          skipAttributes limit name rest
        | _ => skipAttributes limit name rest

/-- Passes the value of an attribute: quoted, in curly brackets, or an element. -/
def skipAttributeValue : (limit : Nat) → List Char → Except (List Char) (List Char)
  | 0, text => .error text
  | limit + 1, text =>
    let orFail (rest : Option (List Char)) : Except (List Char) (List Char) :=
      match rest with
      | some rest => .ok rest
      | none => .error text
    match text with
    | '"' :: rest => orFail (skipQuoted '"' rest)
    | '\'' :: rest => orFail (skipQuoted '\'' rest)
    | '\x7b' :: rest => orFail (skipBraces 0 rest)
    | '<' :: rest => skipElement limit rest
    | _ => .error text

/-- Passes what stands inside an element, and its closing tag.  A text that does not end is wrong
from its start. -/
def skipElementContent : (limit : Nat) → (name : List Char) → List Char →
    Except (List Char) (List Char)
  | 0, _, text => .error text
  | limit + 1, name, text =>
    match text.dropWhile fun c => c != '<' && c != '\x7b' && c != '>' && c != '\x7d' with
    | '<' :: '/' :: rest =>
      match skipClosingTag name rest with
      | some rest => .ok rest
      | none => .error rest
    | '<' :: rest => do
      let rest ← skipElement limit rest
      skipElementContent limit name rest
    | '\x7b' :: rest =>
      match skipBraces 0 rest with
      | some rest => skipElementContent limit name rest
      | none => .error rest
    | _ => .error text

end

end ComponentFile.Script
