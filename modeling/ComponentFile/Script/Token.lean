import ComponentFile.Script.Fault
import ComponentFile.Script.Gap
import ComponentFile.Script.Numeral
import ComponentFile.Script.Word
import ComponentFile.Text.NameChar
import ComponentFile.Text.Search

/-!
# Tokens of a script

Names, strings, numbers, templates and marks.  A token knows whether a line ended in front of it and
which comments belong to it.

* `Letter` — a character of a string, or half of one.
* `Token`, `Lexeme` — a token, and a token with the bytes it takes up.
* `readToken` — the token that begins with a character; one that cannot be read is a token too, so
  that the fault is only reported when reading gets there.
* `nextLexeme` — the next token behind blanks and comments.
* `readTemplatePiece?`, `readRegex` — what only some places allow: the text of a template behind
  a value in it, and a regular expression.
-/

namespace ComponentFile.Script

open ComponentFile (Decimal byteLength decimalDigitValue)
open ComponentFile.Text (isVariableStart isVariableChar)

/-! ## Tokens -/

/-- A character of a string, or a surrogate that has no partner. -/
inductive Letter where
  | char (c : Char)
  | half (unit : Nat)
deriving DecidableEq, Repr

/-- The letters of a text. -/
def letters (text : String) : List Letter := text.toList.map .char

/-- A part of a template up to a value in it or to its end. -/
structure TemplatePiece where
  raw : String
  /-- Whether every escape means something. -/
  isSound : Bool
  /-- Whether the template ends here. -/
  isLast : Bool
deriving DecidableEq, Repr

/-- A token of a script. -/
inductive Token where
  /-- A name or a word of the language. -/
  | name (text : String)
  /-- A reserved word that is written with escapes, which only can be a key. -/
  | escapedWord (text : String)
  /-- A string: its value, and what stands between the quotes. -/
  | string (value : List Letter) (raw : String)
  | template (piece : TemplatePiece)
  | number (form : NumeralForm) (value : Numeral)
  /-- A bracket, an operator or another sign. -/
  | mark (text : String)
  /-- Something that is no token. -/
  | wrong (fault : Fault)
  | finish
deriving DecidableEq, Repr

/-- A token, the bytes it takes up, whether a line ended between it and the one before, and the
comments that belong to it. -/
structure Lexeme where
  token : Token
  start : Nat
  stop : Nat
  afterLine : Bool
  comments : List Comment
  /-- Whether a comment says that the call that begins here has no effect but its value. -/
  isPure : Bool
deriving DecidableEq, Repr

/-- How messages show a token. -/
def Token.describe : Token → String
  | name text => describeName text
  | escapedWord text => text
  | string _ _ => "string"
  | template piece => if piece.isLast then "NoSubstitutionTemplate" else "TemplateHead"
  | number form _ => form.describe
  | mark text => text
  | wrong _ => "Unknown"
  | finish => "EOF"

/-! ## Strings -/

/-- The value of a hexadecimal digit. -/
def hexDigit? (c : Char) : Option Nat :=
  if c.isDigit then some (c.toNat - '0'.toNat)
  else if 'a' ≤ c && c ≤ 'f' then some (c.toNat - 'a'.toNat + 10)
  else if 'A' ≤ c && c ≤ 'F' then some (c.toNat - 'A'.toNat + 10)
  else none

/-- The number that hexadecimal digits, one at least, stand for. -/
def hexNumber? (digits : List Char) : Option Nat := do
  let values ← digits.mapM hexDigit?
  guard !values.isEmpty
  return digitsNumber 16 values

/-- Whether a number is the first half of a surrogate pair. -/
def isLeadHalf (n : Nat) : Bool := 0xD800 ≤ n && n ≤ 0xDBFF

/-- Whether a number is the second half of a surrogate pair. -/
def isTrailHalf (n : Nat) : Bool := 0xDC00 ≤ n && n ≤ 0xDFFF

/-- The letter of a number. -/
def letterOf (n : Nat) : Letter :=
  if isLeadHalf n || isTrailHalf n then .half n else .char (Char.ofNat n)

/-- Reads four hexadecimal digits, and the second half of a pair if they are a first half. -/
def readUnit (text : List Char) : Option Letter × List Char :=
  let rest := text.drop 4
  match (if 4 ≤ text.length then hexNumber? (text.take 4) else none) with
  | none => (none, text)
  | some first =>
    match rest with
    | '\\' :: 'u' :: a :: b :: c :: d :: others =>
      match hexNumber? [a, b, c, d] with
      | some second =>
        if isLeadHalf first && isTrailHalf second then
          let n := 0x10000 + (first - 0xD800) * 0x400 + (second - 0xDC00)
          (some (.char (Char.ofNat n)), others)
        else (some (letterOf first), rest)
      | none => (some (letterOf first), rest)
    | _ => (some (letterOf first), rest)

/-- Whether a character is an octal digit. -/
def isOctalDigit (c : Char) : Bool := '0' ≤ c && c ≤ '7'

/-- Reads a number in base eight below 256. -/
def readOctal (text : List Char) : Option Letter × List Char :=
  let atMost := if text.head?.any fun c => c ≤ '3' then 3 else 2
  let digits := (text.take atMost).takeWhile isOctalDigit
  let n := digitsNumber 8 (digits.map decimalDigitValue)
  (some (.char (Char.ofNat n)), text.drop digits.length)

/-- Reads an escape behind its backslash: the letter it stands for and the rest.  The end of a line
stands for nothing; `none` of the outer kind is an escape that means nothing. -/
def readEscape (text : List Char) : Option (Option Letter) × List Char :=
  let plain (c : Char) (rest : List Char) := (some (some (Letter.char c)), rest)
  let checked (reading : Option Letter × List Char) := (reading.1.map some, reading.2)
  match text with
  | 'n' :: rest => plain '\n' rest
  | 't' :: rest => plain '\t' rest
  | 'r' :: rest => plain '\r' rest
  | 'b' :: rest => plain '\x08' rest
  | 'f' :: rest => plain '\x0c' rest
  | 'v' :: rest => plain '\x0b' rest
  | 'x' :: rest =>
    match (if 2 ≤ rest.length then hexNumber? (rest.take 2) else none) with
    | some n => plain (Char.ofNat n) (rest.drop 2)
    | none => (none, rest)
  | 'u' :: '\x7b' :: rest =>
    match hexNumber? (rest.takeWhile (· != '\x7d')), rest.dropWhile (· != '\x7d') with
    | some n, _ :: others => (if n ≤ 0x10FFFF then some (some (letterOf n)) else none, others)
    | _, _ => (none, rest)
  | 'u' :: rest => checked (readUnit rest)
  | '\r' :: '\n' :: rest => (some none, rest)
  | c :: rest =>
    if isOctalDigit c then checked (readOctal text)
    else if isLineEnd c then (some none, rest)
    else plain c rest
  | [] => (none, [])

/-- What is read of a string: its letters, the text at the first escape that means nothing, and the
text behind its closing quote, if there is one. -/
structure StringReading where
  value : List Letter
  wrongEscape : Option (List Char)
  rest : Option (List Char)

/-- Reads a string behind its opening quote up to the same quote on the same line. -/
def readString (quote : Char) : (limit : Nat) → List Char → StringReading
  | 0, _ => ⟨[], none, none⟩
  | limit + 1, text =>
    match text with
    | [] => ⟨[], none, none⟩
    | '\\' :: behind =>
      match readEscape behind with
      | (some letter, rest) =>
        let reading := readString quote limit rest
        { reading with value := letter.toList ++ reading.value }
      | (none, rest) => { readString quote limit rest with wrongEscape := some text }
    | c :: rest =>
      if c == quote then ⟨[], none, some rest⟩
      else if c == '\n' || c == '\r' then ⟨[], none, none⟩
      else
        let reading := readString quote limit rest
        { reading with value := .char c :: reading.value }

/-! ## Numbers -/

/-- Reads digits, between two of which a low line may stand; the error is the text behind a low line
that stands elsewhere. -/
def readDigits (isDigit : Char → Bool) : List Char → Except (List Char) (List Char × List Char)
  | '_' :: c :: rest =>
    if isDigit c then (readDigits isDigit rest).map fun (digits, rest) => (c :: digits, rest)
    else .error (c :: rest)
  | ['_'] => .error []
  | c :: rest =>
    if isDigit c then (readDigits isDigit rest).map fun (digits, rest) => (c :: digits, rest)
    else .ok ([], c :: rest)
  | [] => .ok ([], [])

/-- Reads digits, one at least; the error is the text where there is none. -/
def readSomeDigits (isDigit : Char → Bool) (text : List Char) :
    Except (List Char) (List Char × List Char) :=
  if text.head?.any isDigit then readDigits isDigit text else .error text

/-- Reads an exponent, if there is one. -/
def readExponent (text : List Char) : Except (List Char) (Option Int × List Char) :=
  let signed (sign : Int) (rest : List Char) : Except (List Char) (Option Int × List Char) := do
    let (digits, rest) ← readSomeDigits Char.isDigit rest
    return (some (sign * digitsNumber 10 (digits.map decimalDigitValue)), rest)
  match text with
  | 'e' :: '+' :: rest | 'E' :: '+' :: rest => signed 1 rest
  | 'e' :: '-' :: rest | 'E' :: '-' :: rest => signed (-1) rest
  | 'e' :: rest | 'E' :: rest => signed 1 rest
  | _ => .ok (none, text)

/-- Reads what follows the whole digits of a decimal number. -/
def readFraction (whole text : List Char) :
    Except (List Char) ((NumeralForm × Numeral) × List Char) := do
  match text with
  | 'n' :: rest =>
    return ((.bigint, .big (digitsNumber 10 (whole.map decimalDigitValue))), rest)
  | _ =>
    let (hasPoint, (fraction, rest)) ← match text with
      | '.' :: rest =>
        if rest.head? = some '_' then pure (true, ([], rest))
        else (readDigits Char.isDigit rest).map (true, ·)
      | _ => pure (false, ([], text))
    let (power, rest) ← readExponent rest
    let form := if hasPoint || power.isSome then NumeralForm.float else .decimal
    return ((form, .ofDecimal (.ofParts false whole fraction (power.getD 0))), rest)

/-- Reads a number in a base that a letter behind its zero names. -/
def readBased (form : NumeralForm) (base : Nat) (text : List Char) :
    Except (List Char) ((NumeralForm × Numeral) × List Char) := do
  let isDigit (c : Char) : Bool := (hexDigit? c).any (· < base)
  let (digits, rest) ← readSomeDigits isDigit text
  let values := digits.filterMap hexDigit?
  match rest with
  | 'n' :: rest => return ((.bigint, .big (digitsNumber base values)), rest)
  | _ => return ((form, .ofDigits base values), rest)

/-- Reads a number.  Digits behind a zero are in base eight unless one of them is too large. -/
def readNumber (text : List Char) : Except (List Char) ((NumeralForm × Numeral) × List Char) :=
  match text with
  | '0' :: 'x' :: rest | '0' :: 'X' :: rest => readBased .hex 16 rest
  | '0' :: 'o' :: rest | '0' :: 'O' :: rest => readBased .octal 8 rest
  | '0' :: 'b' :: rest | '0' :: 'B' :: rest => readBased .binary 2 rest
  | '.' :: _ => readFraction [] text
  | '0' :: c :: rest =>
    let digits := (c :: rest).takeWhile Char.isDigit
    let behind := (c :: rest).dropWhile Char.isDigit
    if digits.isEmpty || digits.any fun d => !isOctalDigit d then
      readFraction ('0' :: digits) behind
    else .ok ((.octal, .ofDigits 8 (digits.map decimalDigitValue)), behind)
  | _ => do
    let (whole, rest) ← readDigits Char.isDigit text
    readFraction whole rest

/-! ## Names -/

/-- The character that an escape in a name stands for, and the text behind the escape, which begins
behind its backslash. -/
def nameEscape? (text : List Char) : Option (Char × List Char) := do
  let (digits, rest) ← match text with
    | 'u' :: '\x7b' :: rest =>
      match rest.dropWhile (· != '\x7d') with
      | _ :: behind => some (rest.takeWhile (· != '\x7d'), behind)
      | [] => none
    | 'u' :: a :: b :: c :: d :: rest => some ([a, b, c, d], rest)
    | _ => none
  let n ← hexNumber? digits
  guard n.isValidChar
  return (Char.ofNat n, rest)

/-- Reads a name up to its end, in which characters may be written as escapes, and whether any
are; `isAllowed` says which characters may come next, and `place` gives the byte offset of a later
part of the text. -/
def readNameChars (place : List Char → Nat) :
    (limit : Nat) → (isAllowed : Char → Bool) → List Char →
      Except Fault (List Char × Bool × List Char)
  | 0, _, text => .ok ([], false, text)
  | limit + 1, isAllowed, text =>
    match text with
    | '\\' :: behind =>
      match nameEscape? behind with
      | none => .error ⟨.invalidUnicodeEscape, place behind⟩
      | some (c, rest) => do
        if !isAllowed c then throw ⟨.invalidCharacter c, place rest⟩
        let (name, _, rest) ← readNameChars place limit isVariableChar rest
        return (c :: name, true, rest)
    | c :: rest =>
      if isAllowed c then do
        let (name, hasEscape, rest) ← readNameChars place limit isVariableChar rest
        return (c :: name, hasEscape, rest)
      else .ok ([], false, text)
    | [] => .ok ([], false, [])

/-- Reads a name or a word. -/
def readNameToken (place : List Char → Nat) (text : List Char) : Token × List Char :=
  match readNameChars place (text.length + 1) isVariableStart text with
  | .error fault => (.wrong fault, [])
  | .ok (name, hasEscape, rest) =>
    let name := String.ofList name
    (if hasEscape && isReserved name then .escapedWord name else .name name, rest)

/-! ## Templates and regular expressions -/

/-- The length of a piece of a template, up to its end or to a value in it. -/
def templateLength? : List Char → Option Nat
  | [] => none
  | '\\' :: _ :: rest => (templateLength? rest).map (· + 2)
  | '\x60' :: _ => some 0
  | '$' :: '\x7b' :: _ => some 0
  | _ :: rest => (templateLength? rest).map (· + 1)

/-- Whether every escape in a piece of a template means something; no digits do but a single
zero. -/
def hasSoundEscapes : (limit : Nat) → List Char → Bool
  | 0, _ => true
  | limit + 1, text =>
    match text with
    | [] => true
    | '\\' :: rest =>
      let isSound := match rest with
        | '0' :: behind => !behind.head?.any Char.isDigit
        | c :: _ => !c.isDigit && (readEscape rest).1.isSome
        | [] => false
      isSound && hasSoundEscapes limit (rest.drop 1)
    | _ :: rest => hasSoundEscapes limit rest

/-- A text in which every line ends in the same way. -/
def withPlainLineEnds : List Char → List Char
  | '\r' :: '\n' :: rest => '\n' :: withPlainLineEnds rest
  | '\r' :: rest => '\n' :: withPlainLineEnds rest
  | c :: rest => c :: withPlainLineEnds rest
  | [] => []

/-- Reads a piece of a template behind its opening mark, and passes its closing one. -/
def readTemplatePiece? (text : List Char) : Option (TemplatePiece × List Char) := do
  let length ← templateLength? text
  let raw := text.take length
  let isLast := (text.drop length).head? = some '\x60'
  let piece : TemplatePiece :=
    { raw := String.ofList (withPlainLineEnds raw)
      isSound := hasSoundEscapes (raw.length + 1) raw
      isLast := isLast }
  return (piece, text.drop (length + if isLast then 1 else 2))

/-- The length of the pattern of a regular expression; a slash in square brackets does not end
it. -/
def regexLength? : (isInClass : Bool) → List Char → Option Nat
  | _, [] => none
  | isInClass, '\\' :: c :: rest =>
    if isLineEnd c then none else (regexLength? isInClass rest).map (· + 2)
  | isInClass, c :: rest =>
    if isLineEnd c then none
    else if c == '/' && !isInClass then some 0
    else
      let isInClass := c == '[' || (isInClass && c != ']')
      (regexLength? isInClass rest).map (· + 1)

/-- The letters behind a regular expression that say how it is matched, in their order. -/
def regexFlags : List Char := "dgimsuvy".toList

/-- The first problem with the letters behind a regular expression, and the rest of the text from
the letter on that has it. -/
def flagProblem? (seen : List Char) : List Char → Option (Problem × List Char)
  | [] => none
  | c :: rest =>
    if !isVariableChar c then none
    else if !regexFlags.contains c then some (.unknownFlag c, c :: rest)
    else if seen.contains c then some (.repeatedFlag c, c :: rest)
    else flagProblem? (c :: seen) rest

/-- A regular expression: its pattern and the letters that say how it is matched. -/
structure Regex where
  text : String
  flags : String
deriving DecidableEq, Repr

/-- Reads a regular expression behind its opening slash; the error is a problem and the text that
has it. -/
def readRegex (text : List Char) : Except (Problem × List Char) (Regex × List Char) :=
  match regexLength? false text with
  | none => .error (.unterminatedRegex, text)
  | some length =>
    let behind := text.drop (length + 1)
    let flags := behind.takeWhile isVariableChar
    match flagProblem? [] behind with
    | some problem => .error problem
    | none =>
      .ok (⟨String.ofList (text.take length), String.ofList (regexFlags.filter flags.contains)⟩,
        behind.drop flags.length)

/-! ## Marks -/

/-- Marks of more than one character, the longest of those with the same start first.  A closing
angle bracket is always a mark by itself. -/
def longMarks : List String :=
  ["...", "=>", "===", "==", "!==", "!=", "**=", "**", "*=", "++", "+=", "--", "-=", "/=", "%=",
   "&&=", "&&", "&=", "||=", "||", "|=", "^=", "??=", "??", "?.", "<<=", "<<", "<="]

/-- Characters that are marks by themselves. -/
def marks : List Char :=
  ['\x7b', '\x7d', '(', ')', '[', ']', ';', ',', ':', '.', '=', '<', '>', '/', '*', '+', '-', '!',
   '?', '&', '|', '^', '%', '~', '@', '#']

/-- The mark of more than one character that a text begins with.  The mark of an optional field is
none in front of a digit. -/
def longMark? (text : List Char) : Option String :=
  longMarks.find? fun mark =>
    mark.toList.isPrefixOf text && !(mark == "?." && (text.drop 2).head?.any Char.isDigit)

/-! ## Tokens -/

/-- The fault of a number that goes wrong in front of a text. -/
def numberProblem : List Char → Problem
  | [] => .unexpectedEnd
  | c :: _ => .invalidCharacter c

/-- Reads the token that a text begins with; `place` is the byte offset of a later part of the
text. -/
def readToken (place : List Char → Nat) (c : Char) (rest : List Char) : Token × List Char :=
  let text := c :: rest
  if isVariableStart c || c == '\\' then readNameToken place text
  else if c == '\x60' then
    match readTemplatePiece? rest with
    | some (piece, behind) => (.template piece, behind)
    | none => (.wrong ⟨.unterminatedString, place text⟩, [])
  else if c.isDigit || (c == '.' && rest.head?.any Char.isDigit) then
    match readNumber text with
    | .error here => (.wrong ⟨numberProblem here, place here⟩, [])
    | .ok ((form, value), behind) =>
      if behind.head?.any fun d => d.isDigit || isVariableStart d then
        (.wrong ⟨.invalidNumberEnd, place behind⟩, [])
      else (.number form value, behind)
  else if c == '"' || c == '\'' then
    let reading := readString c (rest.length + 1) rest
    match reading.wrongEscape, reading.rest with
    | some here, _ => (.wrong ⟨.invalidEscape, place here⟩, [])
    | none, some behind =>
      let raw := rest.take (rest.length - behind.length - 1)
      (.string reading.value (String.ofList raw), behind)
    | none, none => (.wrong ⟨.unterminatedString, place text⟩, [])
  else
    match text, longMark? text with
    | '/' :: '*' :: _, _ => (.wrong ⟨.unterminatedComment, place text⟩, [])
    | _, some mark => (.mark mark, text.drop mark.length)
    | _, none =>
      if marks.contains c then (.mark c.toString, rest)
      else (.wrong ⟨.invalidCharacter c, place text⟩, rest)

/-- Reads the next token of a text that begins at a byte offset.  `keepsNone` says that the token
before keeps no comments. -/
def nextLexeme (keepsNone : Bool) (offset : Nat) (text : List Char) : Lexeme × List Char :=
  let (gap, text') := skipGap keepsNone (text.length + 1) (.start (offset == 0)) text
  let place (rest : List Char) : Nat := offset + (byteLength text - byteLength rest)
  let start := place text'
  let comments := gap.comments.filter (·.annotation?.isNone)
  let isPure := gap.comments.any (·.annotation? = some .pureCall)
  match text' with
  | [] => (⟨.finish, start, start, gap.endedLine, comments, isPure⟩, [])
  | c :: rest =>
    let (token, rest) := readToken place c rest
    (⟨token, start, place rest, gap.endedLine, comments, isPure⟩, rest)

end ComponentFile.Script
