/-!
# Names and strings as stylesheet text

A stylesheet names things by identifiers and quotes text in strings.  Any text can be written
either way, because what the grammar does not allow as it stands is written as an escape.

* `writeIdentifier` — a text as an identifier that reads back as that text.
* `writeString` — a text between double quotes.
* `writeShortest` — the shorter of the two.
-/

namespace ComponentFile.Style

/-- Escapes a character by its code, in hexadecimal and ended by a blank. -/
def escapeCode (c : Char) : List Char := '\\' :: Nat.toDigits 16 c.toNat ++ [' ']

/-- The characters that are never escaped in a name. -/
def isPlainInName (c : Char) : Bool := c.isAlphanum || c == '_' || c == '-' || c.toNat ≥ 0x80

/-- Whether a character is a control character. -/
def isControl (c : Char) : Bool := c.toNat < 0x20 || c.toNat == 0x7F

/-- A character inside a name. -/
def escapeInName (c : Char) : List Char :=
  if isPlainInName c then [c]
  else if c.toNat == 0 then [Char.ofNat 0xFFFD]
  else if isControl c then escapeCode c
  else ['\\', c]

/-- The first character of a name: a digit there would begin a number. -/
def escapeFirst (c : Char) : List Char := if c.isDigit then escapeCode c else escapeInName c

/-- A name without its leading dashes. -/
def identifierTail : List Char → List Char
  | [] => []
  | c :: rest => escapeFirst c ++ rest.flatMap escapeInName

/-- The characters of a text as an identifier. -/
def identifierChars : List Char → List Char
  | '-' :: '-' :: rest => '-' :: '-' :: rest.flatMap escapeInName
  | ['-'] => ['\\', '-']
  | '-' :: rest => '-' :: identifierTail rest
  | text => identifierTail text

/-- A text as an identifier. -/
def writeIdentifier (text : String) : String := String.ofList (identifierChars text.toList)

/-- A character inside a string. -/
def escapeInString (c : Char) : List Char :=
  if c == '"' || c == '\\' then ['\\', c]
  else if c.toNat == 0 then [Char.ofNat 0xFFFD]
  else if isControl c then escapeCode c
  else [c]

/-- A text as a string. -/
def writeString (text : String) : String :=
  String.ofList ('"' :: text.toList.flatMap escapeInString ++ ['"'])

/-- A text as an identifier where that is shorter, and else as a string. -/
def writeShortest (text : String) : String :=
  let identifier := writeIdentifier text
  let string := writeString text
  if !identifier.isEmpty && identifier.utf8ByteSize < string.utf8ByteSize then identifier
  else string

end ComponentFile.Style
