import ComponentFile.Engine
import ComponentFile.Script.Parser
import ComponentFile.Script.Printer
import ComponentFile.Script.Scope

/-!
# The built-in script engine

Reads a script in its dialect and prints it as plain script.  A script is the inside of a function,
so it may return at its top level.

* `scriptSourceMap` — the map of a script.
* `scriptEngine` — the engine.
-/

namespace ComponentFile.Script

open ComponentFile (Json ScriptEngine ScriptSettings)

/-- The name of a script that has none. -/
def defaultName : String := "component.js"

/-- The source map of a script, which refers to the files that the settings name. -/
def scriptSourceMap (source : String) (settings : ScriptSettings) : Json :=
  let file := (settings.sourceFileName.or settings.filename).getD defaultName
  .ofMembers ([("version", .int 3), ("names", .arr []), ("sources", .arr [.str file]),
    ("sourcesContent", .arr [.str source])] ++
    (settings.sourceMapTarget.map fun target => ("file", Json.str target)).toList)

/-- The engine. -/
def scriptEngine : ScriptEngine := fun source settings =>
  let dialect := Dialect.ofLang settings.lang
  match parse dialect source with
  | .error fault => .error fault.toError
  | .ok script => .ok
    { code := render (if dialect.hasTypes then script.withoutTypes else script)
      map := if settings.sourceMap then some (scriptSourceMap source settings) else none }

end ComponentFile.Script
