import ComponentFile.Text.Location

/-!
# Tokens of a stylesheet

The lexical grammar of stylesheets: names with escapes, numbers, strings, addresses, brackets and
single characters.  Every text is a sequence of tokens, so reading it cannot fail.

* `Token` — what a token is; `Lexeme` — a token with its text and where it begins and ends.
* `nextToken` — the first token of a text.
* `tokenize` — all of them.  Columns count UTF-16 units, as style tools do.
-/

namespace ComponentFile.Style

open ComponentFile (Location)

/-- The three kinds of brackets. -/
inductive Bracket where
  | round
  | square
  | curly
deriving DecidableEq, Repr

/-- A number as it was written: sign, digits before and after the point, and the text of an
exponent. -/
structure Numeral where
  sign : Option Char
  whole : List Char
  fraction : List Char
  exponent : List Char
deriving DecidableEq, Repr

/-- A token of a stylesheet. -/
inductive Token where
  | ident (name : String)
  | function (name : String)
  | atKeyword (name : String)
  | hash (name : String) (isId : Bool)
  | string (value : String)
  /-- A string that its line ends in. -/
  | badString (value : String)
  | url (value : String)
  /-- A bare address with characters that it may not hold. -/
  | badUrl (text : String)
  | delim (c : Char)
  | number (n : Numeral)
  | percentage (n : Numeral)
  | dimension (n : Numeral) (unit : String)
  /-- A comparison in an attribute selector: `~=`, `|=`, `^=`, `$=` or `*=`. -/
  | comparison (c : Char)
  | blank
  | comment (text : String)
  | colon
  | semicolon
  | comma
  | opening (b : Bracket)
  | closing (b : Bracket)
  /-- One of the two marks that hide a stylesheet in old markup. -/
  | hidingMark
deriving DecidableEq, Repr

/-- A token with its text and the places where it begins and ends. -/
structure Lexeme where
  token : Token
  text : List Char
  start : Location
  stop : Location
deriving Repr

/-! ## Character classes -/

/-- Line ends. -/
def isLineEnd (c : Char) : Bool := c == '\n' || c == '\r' || c == '\x0c'

/-- Blanks. -/
def isStyleBlank (c : Char) : Bool := isLineEnd c || c == ' ' || c == '\t'

/-- Characters that a name may begin with. -/
def isNameStart (c : Char) : Bool := c.isAlpha || c == '_' || c.toNat ≥ 0x80 || c.toNat == 0

/-- Characters that a name may go on with. -/
def isNamePart (c : Char) : Bool := isNameStart c || c.isDigit || c == '-'

/-- Hexadecimal digits. -/
def isHexDigit (c : Char) : Bool :=
  c.isDigit || ('a' ≤ c && c ≤ 'f') || ('A' ≤ c && c ≤ 'F')

/-- The value of a hexadecimal digit. -/
def hexDigitValue (c : Char) : Nat :=
  if c.isDigit then c.toNat - '0'.toNat else c.toLower.toNat - 'a'.toNat + 10

/-- The character that stands for what cannot be represented. -/
def replacement : Char := Char.ofNat 0xFFFD

/-- A character of a name or a string; the null character cannot be represented. -/
def textChar (c : Char) : Char := if c.toNat == 0 then replacement else c

/-! ## Names -/

/-- Drops one blank, where a carriage return and a line feed count as one. -/
def dropOneBlank : List Char → List Char
  | '\r' :: '\n' :: rest => rest
  | c :: rest => if isStyleBlank c then rest else c :: rest
  | [] => []

/-- The character that a code point stands for; zero, surrogates and too large ones stand for the
replacement character. -/
def charOfCode (n : Nat) : Char :=
  if n = 0 ∨ (0xD800 ≤ n ∧ n ≤ 0xDFFF) ∨ n > 0x10FFFF then replacement else Char.ofNat n

/-- Reads what follows the backslash of an escape. -/
def readEscape (text : List Char) : Char × List Char :=
  match text with
  | [] => (replacement, [])
  | c :: rest =>
    if isHexDigit c then
      let digits := (text.take 6).takeWhile isHexDigit
      (charOfCode (digits.foldl (fun n d => n * 16 + hexDigitValue d) 0),
        dropOneBlank (text.drop digits.length))
    else (c, rest)

/-- Whether a text begins with an escape. -/
def startsEscape : List Char → Bool
  | '\\' :: c :: _ => !isLineEnd c
  | ['\\'] => true
  | _ => false

/-- Whether a text begins with a name. -/
def startsName : List Char → Bool
  | '-' :: c :: rest => isNameStart c || c == '-' || startsEscape (c :: rest)
  | c :: rest => isNameStart c || startsEscape (c :: rest)
  | [] => false

/-- Reads at most `limit` characters of a name. -/
def readName : (limit : Nat) → List Char → List Char × List Char
  | 0, text => ([], text)
  | limit + 1, text =>
    match text with
    | [] => ([], [])
    | c :: rest =>
      if isNamePart c then
        let (name, rest) := readName limit rest
        (textChar c :: name, rest)
      else if startsEscape (c :: rest) then
        let (e, rest) := readEscape rest
        let (name, rest) := readName limit rest
        (e :: name, rest)
      else ([], c :: rest)

/-- Reads a whole name. -/
def name (text : List Char) : String × List Char :=
  let (cs, rest) := readName text.length text
  (String.ofList cs, rest)

/-! ## Numbers -/

/-- Whether a text begins with a number. -/
def startsNumber : List Char → Bool
  | '+' :: rest => startsUnsigned rest
  | '-' :: rest => startsUnsigned rest
  | text => startsUnsigned text
where
  startsUnsigned : List Char → Bool
    | '.' :: d :: _ => d.isDigit
    | d :: _ => d.isDigit
    | [] => false

/-- Reads an exponent if one follows. -/
def readExponent (text : List Char) : List Char × List Char :=
  match text with
  | e :: rest =>
    if e == 'e' || e == 'E' then
      let (sign, digits) := match rest with
        | '+' :: ds => (['+'], ds)
        | '-' :: ds => (['-'], ds)
        | ds => ([], ds)
      match digits.takeWhile Char.isDigit with
      | [] => ([], text)
      | ds => (e :: sign ++ ds, digits.dropWhile Char.isDigit)
    else ([], text)
  | [] => ([], [])

/-- Reads a number. -/
def readNumeral (text : List Char) : Numeral × List Char :=
  let (sign, text) := match text with
    | '+' :: rest => (some '+', rest)
    | '-' :: rest => (some '-', rest)
    | rest => (none, rest)
  let whole := text.takeWhile Char.isDigit
  let text := text.dropWhile Char.isDigit
  let (fraction, text) := match text with
    | '.' :: d :: rest =>
      if d.isDigit then
        ((d :: rest).takeWhile Char.isDigit, (d :: rest).dropWhile Char.isDigit)
      else ([], text)
    | _ => ([], text)
  let (exponent, text) := readExponent text
  (⟨sign, whole, fraction, exponent⟩, text)

/-- Reads a number with its unit or percent sign. -/
def readNumeric (text : List Char) : Token × List Char :=
  let (n, rest) := readNumeral text
  match rest with
  | '%' :: rest => (.percentage n, rest)
  | _ =>
    if startsName rest then
      let (unit, rest) := name rest
      (.dimension n unit, rest)
    else (.number n, rest)

/-! ## Strings, addresses and comments -/

/-- Reads at most `limit` characters of a string up to its quote, and tells whether the line ends
before the quote.  The end of the text closes a string. -/
def readString (quote : Char) : (limit : Nat) → List Char → List Char × Bool × List Char
  | 0, text => ([], false, text)
  | limit + 1, text =>
    match text with
    | [] => ([], false, [])
    | '\\' :: '\r' :: '\n' :: rest => readString quote limit rest
    | '\\' :: [] => ([], false, [])
    | '\\' :: c :: rest =>
      if isLineEnd c then readString quote limit rest
      else
        let (e, rest) := readEscape (c :: rest)
        let (value, isBroken, rest) := readString quote limit rest
        (e :: value, isBroken, rest)
    | c :: rest =>
      if c == quote then ([], false, rest)
      else if isLineEnd c then ([], true, c :: rest)
      else
        let (value, isBroken, rest) := readString quote limit rest
        (textChar c :: value, isBroken, rest)

/-- Whether a bare address may not hold a character. -/
def breaksAddress (c : Char) : Bool :=
  c == '"' || c == '\'' || c == '(' || c.toNat == 0x7F ||
    (1 ≤ c.toNat && c.toNat < 0x20 && !isStyleBlank c)

/-- Reads the end of a bare address behind a blank; `none` if something else follows. -/
def readAddressEnd (text : List Char) : Option (List Char) × List Char :=
  match text.dropWhile isStyleBlank with
  | [] => (some [], [])
  | c :: rest => (if c == ')' then some [] else none, rest)

/-- Reads at most `limit` characters of a bare address up to its closing bracket.  For `none` the
address is broken, and the rest begins behind the character that breaks it. -/
def readAddress : (limit : Nat) → List Char → Option (List Char) × List Char
  | 0, text => (some [], text)
  | limit + 1, text =>
    match text with
    | [] => (some [], [])
    | c :: rest =>
      if c == ')' then (some [], rest)
      else if isStyleBlank c then readAddressEnd rest
      else if breaksAddress c then (none, rest)
      else if c == '\\' then
        if rest.head?.any isLineEnd then (none, rest)
        else
          let (e, rest) := readEscape rest
          let (value, rest) := readAddress limit rest
          (value.map (e :: ·), rest)
      else
        let (value, rest) := readAddress limit rest
        (value.map (textChar c :: ·), rest)

/-- Skips what is left of a broken address: the text up to its closing bracket, and the rest. -/
def skipAddress : List Char → List Char × List Char
  | [] => ([], [])
  | ')' :: rest => ([], rest)
  | '\\' :: ')' :: rest =>
    let (skipped, rest) := skipAddress rest
    ('\\' :: ')' :: skipped, rest)
  | '\\' :: '\\' :: rest =>
    let (skipped, rest) := skipAddress rest
    ('\\' :: '\\' :: skipped, rest)
  | c :: rest =>
    let (skipped, rest) := skipAddress rest
    (c :: skipped, rest)

/-- Reads a bare address, sound or broken, from its first character on. -/
def readBareAddress (text : List Char) : Token × List Char :=
  match readAddress text.length text with
  | (some value, rest) => (.url (String.ofList value), rest)
  | (none, rest) =>
    let front := text.take (text.length - rest.length)
    let (skipped, rest) := skipAddress rest
    (.badUrl (String.ofList (front ++ skipped)), rest)

/-- Reads a name and what it turns out to be: an identifier, a function or a bare address. -/
def readNamed (text : List Char) : Token × List Char :=
  let (n, rest) := name text
  match rest with
  | '(' :: inside =>
    let here := inside.dropWhile isStyleBlank
    if n.toLower == "url" && here.head? != some '"' && here.head? != some '\'' then
      readBareAddress here
    else (.function n, inside)
  | _ => (.ident n, rest)

/-- Splits a text behind the end of a comment. -/
def readComment : List Char → List Char × List Char
  | [] => ([], [])
  | '*' :: '/' :: rest => ([], rest)
  | c :: rest =>
    let (text, rest) := readComment rest
    (c :: text, rest)

/-! ## Tokens -/

/-- The first token of a text that begins with `c`. -/
def nextToken (c : Char) (rest : List Char) : Token × List Char :=
  let text := c :: rest
  if isStyleBlank c then (.blank, rest.dropWhile isStyleBlank)
  else if c == '"' || c == '\'' then
    let (value, isBroken, rest) := readString c rest.length rest
    (if isBroken then .badString (String.ofList value) else .string (String.ofList value), rest)
  else if startsNumber text then readNumeric text
  else if startsName text then
    if c == '-' && rest.take 2 == ['-', '>'] then (.hidingMark, rest.drop 2) else readNamed text
  else
    match c, rest with
    | '#', _ =>
      if rest.head?.any isNamePart || startsEscape rest then
        let (n, after) := name rest
        (.hash n (startsName rest), after)
      else (.delim '#', rest)
    | '@', _ =>
      if startsName rest then
        let (n, after) := name rest
        (.atKeyword n, after)
      else (.delim '@', rest)
    | '/', '*' :: after =>
      let (comment, after) := readComment after
      (.comment (String.ofList comment), after)
    | '<', '!' :: '-' :: '-' :: after => (.hidingMark, after)
    | '~', '=' :: after => (.comparison '~', after)
    | '|', '=' :: after => (.comparison '|', after)
    | '^', '=' :: after => (.comparison '^', after)
    | '$', '=' :: after => (.comparison '$', after)
    | '*', '=' :: after => (.comparison '*', after)
    | '(', _ => (.opening .round, rest)
    | '[', _ => (.opening .square, rest)
    | '\x7b', _ => (.opening .curly, rest)
    | ')', _ => (.closing .round, rest)
    | ']', _ => (.closing .square, rest)
    | '\x7d', _ => (.closing .curly, rest)
    | ':', _ => (.colon, rest)
    | ';', _ => (.semicolon, rest)
    | ',', _ => (.comma, rest)
    | _, _ => (.delim c, rest)

/-- The place after a text that begins at a given place.  Columns count UTF-16 units. -/
def advance (place : Location) : List Char → Location
  | [] => place
  | '\r' :: '\n' :: rest => advance ⟨place.line + 1, 1⟩ rest
  | c :: rest =>
    if isLineEnd c then advance ⟨place.line + 1, 1⟩ rest
    else advance ⟨place.line, place.column + (if c.toNat ≥ 0x10000 then 2 else 1)⟩ rest

/-- At most `limit` tokens of a text that begins at a given place, and the place where it ends. -/
def tokens : (limit : Nat) → Location → List Char → List Lexeme × Location
  | 0, place, _ => ([], place)
  | limit + 1, place, text =>
    match text with
    | [] => ([], place)
    | c :: cs =>
      let (token, rest) := nextToken c cs
      let consumed := text.take (text.length - rest.length)
      let stop := advance place consumed
      let (others, last) := tokens limit stop rest
      (⟨token, consumed, place, stop⟩ :: others, last)

/-- The tokens of a text, and the place where it ends. -/
def tokenize (text : String) : List Lexeme × Location :=
  tokens text.length ⟨1, 1⟩ text.toList

end ComponentFile.Style
