/-!
# Words of the script language

* `reservedWords` — words that cannot name a variable.
* `valueWords` — those of them that are values.
* `knownWords` — further words that mean something in some places and are names elsewhere.
-/

namespace ComponentFile.Script

/-- Reserved words that are values by themselves. -/
def valueWords : List String := ["null", "true", "false", "this", "super"]

/-- Words that cannot name a variable. -/
def reservedWords : List String :=
  valueWords ++
  ["break", "case", "catch", "class", "const", "continue", "debugger", "default", "delete", "do",
   "else", "enum", "export", "extends", "finally", "for", "function", "if", "import", "in",
   "instanceof", "new", "return", "switch", "throw", "try", "typeof", "var", "void", "while",
   "with"]

/-- Words that mean something in some places only. -/
def knownWords : List String :=
  ["abstract", "accessor", "any", "as", "assert", "asserts", "async", "await", "bigint", "boolean",
   "constructor", "declare", "defer", "from", "get", "global", "implements", "infer", "interface",
   "intrinsic", "is", "keyof", "let", "meta", "module", "namespace", "never", "number", "object",
   "of", "out", "override", "package", "private", "protected", "public", "readonly", "require",
   "satisfies", "set", "source", "static", "string", "symbol", "target", "type", "undefined",
   "unique", "unknown", "using", "yield"]

/-- Whether a word cannot name a variable. -/
def isReserved (word : String) : Bool := reservedWords.contains word

/-- How messages show a name: a word of the language by itself. -/
def describeName (text : String) : String :=
  if isReserved text || knownWords.contains text then text else "Identifier"

end ComponentFile.Script
