import ComponentFile.Engine
import ComponentFile.Script.Engine
import ComponentFile.Style.Engine

/-!
# The built-in engines

A host that brings no engines of its own uses these.
-/

namespace ComponentFile

/-- The built-in engines; stylesheets are printed to be read. -/
def Engines.builtIn : Engines where
  script := Script.scriptEngine
  style := Style.styleEngine .pretty

end ComponentFile
