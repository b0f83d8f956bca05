import ComponentFile.Component
import ComponentFile.Engine
import ComponentFile.Metadata

/-!
# The module of a component

A component becomes one script module: the compiled script as the body of a function that is called
at once, the template as a string literal, and glue that exports the two as one definition.

* `rewriteDefaultExport` — the script's default export becomes the function's `return`.
* `scriptSettings` — the settings that the script engine gets.
* `moduleText` — the module, from the compiled script and the template literal.
* `assembleModule` — compiles the script and writes the module.
-/

namespace ComponentFile

/-! ## The default export -/

/-- Reads `export`, one or more blanks, `default`. -/
def readDefaultExport (text : List Char) : Option (Unit × List Char) := do
  let afterExport ← afterLiteral? "export".toList text
  match takeBlanks afterExport with
  | [] => none
  | _ :: _ => (afterLiteral? "default".toList (dropBlanks afterExport)).map fun rest => ((), rest)

/-- The first default export of a script as a `return`: the script is the body of a function whose
value is the component. -/
def rewriteDefaultExport (script : String) : String :=
  match findFirst? readDefaultExport script.toList with
  | none => script
  | some ⟨before, (), after⟩ => String.ofList (before ++ "return".toList ++ after)

/-! ## Settings of the script engine -/

/-- The caller's settings with the file names that source maps refer to.  A dialect set by the
caller wins over the one on the tag. -/
def scriptSettings (caller : ScriptSettings) (metadata : Metadata) (script : Tag) :
    ScriptSettings :=
  { caller with
    sourceMap := true
    filename := some metadata.virtualPath
    sourceFileName := some metadata.virtualPath
    sourceMapTarget := some (metadata.virtualPath ++ ".map")
    lang := caller.lang.or (script.attributes.value? "lang") }

/-! ## The text -/

/-- The start of every module. -/
def moduleHeader : String := "exports.__esModule = true;var __vue_script__, __vue_template__;"

/-- The end of every module: makes sure that there is a definition, attaches the template to it or
to its options, and exports it. -/
def moduleTail : String :=
  "__vue_script__ = __vue_script__ || \x7b\x7d;\n" ++
  "    if(__vue_template__) \x7b\n" ++
  "      (typeof __vue_script__ === \"function\" ?\n" ++
  "      (__vue_script__.options || (__vue_script__.options = \x7b\x7d))\n" ++
  "      : __vue_script__).template = __vue_template__;\n" ++
  "    \x7d\n" ++
  "    exports.default = __vue_script__;"

/-- The part of a module that holds the script. -/
def scriptPart (code : String) : String :=
  "__vue_script__ = (function()\x7b" ++ code ++ "\n\x7d)();"

/-- The part of a module that holds the template. -/
def templatePart (literal : String) : String := "__vue_template__ = '" ++ literal ++ "';"

/-- The module of compiled code and a template literal, each of which may be missing. -/
def moduleText (code literal : Option String) : String :=
  moduleHeader ++ (code.map scriptPart).getD "" ++ (literal.map templatePart).getD "" ++ moduleTail

/-- A module with the source map of its script. -/
structure ModuleOutput where
  code : String
  map : Option Json
deriving Repr

/-- Compiles the script, if there is one, and writes the module. -/
def assembleModule (script : Option Tag) (literal : Option String) (caller : ScriptSettings)
    (metadata : Metadata) (engine : ScriptEngine) : Traced ModuleOutput :=
  match script with
  | none => pure ⟨moduleText none literal, none⟩
  | some tag => do
    let output ← Traced.callScript engine (rewriteDefaultExport tag.contents)
      (scriptSettings caller metadata tag)
    return ⟨moduleText (some output.code) literal, output.map⟩

end ComponentFile
