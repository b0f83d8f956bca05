import ComponentFile.Diagnostic

/-!
# Faults of a script

* `Problem` — what can be wrong with a script.
* `Fault` — a problem and where it was noticed.
-/

namespace ComponentFile.Script

open ComponentFile (TransformError)

/-- Why a script cannot be read. -/
inductive Problem where
  | unexpectedToken
  | unexpectedEnd
  | expected (mark found : String)
  | expectedEither (separator closing found : String)
  | reservedName (word : String)
  | missingInitializer
  | missingSemicolon
  | missingBody
  | missingFunctionName
  | missingClassName
  | missingHandler
  | emptyBrackets
  | noTarget
  | repeatedExport (name : String)
  | repeatedDefault
  | misplacedAwait
  | awaitName
  | yieldName
  | escapedWord
  | elementNotAllowed
  | unterminatedString
  | unterminatedComment
  | unterminatedRegex
  | unknownFlag (flag : Char)
  | repeatedFlag (flag : Char)
  | invalidEscape
  | invalidUnicodeEscape
  | invalidTemplateEscape
  | invalidNumberEnd
  | invalidCharacter (c : Char)
deriving DecidableEq, Repr

/-- The wording of a cause. -/
def Problem.message : Problem → String
  | unexpectedToken => "Unexpected token"
  | unexpectedEnd => "Unexpected end of file"
  | expected mark found => "Expected `" ++ mark ++ "` but found `" ++ found ++ "`"
  | expectedEither separator closing found =>
    "Expected `" ++ separator ++ "` or `" ++ closing ++ "` but found `" ++ found ++ "`"
  | reservedName word =>
    "Identifier expected. '" ++ word ++ "' is a reserved word that cannot be used here."
  | missingInitializer => "Missing initializer in const declaration"
  | missingSemicolon =>
    "Expected a semicolon or an implicit semicolon after a statement, but found none"
  | missingBody => "Expected function body"
  | missingFunctionName => "Expected function name"
  | missingClassName => "A class name is required."
  | missingHandler => "Missing catch or finally clause"
  | emptyBrackets => "Empty parenthesized expression"
  | noTarget => "Cannot assign to this expression"
  | repeatedExport name => "Duplicated export '" ++ name ++ "'"
  | repeatedDefault => "A module cannot have multiple default exports."
  | misplacedAwait =>
    "`await` is only allowed within async functions and at the top levels of modules"
  | awaitName => "Cannot use `await` as an identifier in an async context"
  | yieldName => "Cannot use `yield` as an identifier in a generator context"
  | escapedWord => "Keywords cannot contain escape characters"
  | elementNotAllowed => "Unexpected JSX expression"
  | unterminatedString => "Unterminated string"
  | unterminatedComment => "Unterminated multi-line comment"
  | unterminatedRegex => "Unterminated regular expression"
  | unknownFlag flag =>
    "Unexpected flag " ++ flag.toString ++ " in regular expression literal"
  | repeatedFlag flag =>
    "Flag " ++ flag.toString ++ " is mentioned twice in regular expression literal"
  | invalidEscape => "Invalid escape sequence"
  | invalidUnicodeEscape => "Invalid Unicode escape sequence"
  | invalidTemplateEscape => "Bad escape sequence in untagged template literal"
  | invalidNumberEnd => "Invalid characters after number"
  | invalidCharacter c => "Invalid Character `" ++ c.toString ++ "`"

/-- A cause and the byte offset where it was noticed. -/
structure Fault where
  problem : Problem
  offset : Nat
deriving DecidableEq, Repr

/-- A fault as a failure of a script engine. -/
def Fault.toError (fault : Fault) : TransformError :=
  { stage := .script, message := fault.problem.message, offset := some fault.offset }

end ComponentFile.Script
