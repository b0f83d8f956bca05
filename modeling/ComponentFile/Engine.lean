import ComponentFile.Diagnostic
import ComponentFile.Settings

/-!
# Engines

A component's script and styles are transformed by engines that the host chooses.  An engine is a
function of its input; what the compiler asked of its engines is kept as a list of calls beside
every result.

* `ScriptEngine`, `StyleEngine`, `Engines` — the engines of a compilation.
* `StylePlugin`, `runPlugins` — the steps that a style engine puts a stylesheet through first.
* `EngineCall`, `Traced` — results together with the calls that were made for them.
-/

namespace ComponentFile

/-! ## Scripts -/

/-- What a script engine returns. -/
structure ScriptOutput where
  code : String
  map : Option Json
deriving Repr

/-- Turns the text of a script into code. -/
abbrev ScriptEngine := (source : String) → ScriptSettings → Except TransformError ScriptOutput

/-! ## Styles -/

/-- Where a stylesheet's source map goes. -/
structure MapOptions where
  inline : Bool := false
  annotation : Bool := false
  prev : Option Json := none
deriving Repr

/-- The options of a style engine; without map options no source map is made. -/
structure StyleOptions where
  source : Option String := none
  target : Option String := none
  map : Option MapOptions := none
deriving Repr

/-- What a style engine returns. -/
structure StyleOutput where
  css : String
  map : Option Json
deriving Repr

/-- One step of a stylesheet's transformation. -/
structure StylePlugin where
  name : String
  transform : String → Except TransformError String

/-- Puts a stylesheet through plugins in order, up to the first that fails. -/
def runPlugins (plugins : List StylePlugin) (css : String) : Except TransformError String :=
  plugins.foldlM (fun current plugin => plugin.transform current) css

/-- Transforms a stylesheet. -/
abbrev StyleEngine :=
  (plugins : List StylePlugin) → (css : String) → StyleOptions → Except TransformError StyleOutput

/-- The engines of a compilation. -/
structure Engines where
  script : ScriptEngine
  style : StyleEngine

/-! ## Calls -/

/-- One request to an engine. -/
inductive EngineCall where
  | script (source : String) (settings : ScriptSettings)
  | style (plugins : List StylePlugin) (css : String) (options : StyleOptions)

/-- A result with the engine calls made on the way to it, in order. -/
structure Traced (α : Type) where
  calls : List EngineCall
  outcome : Except CompileError α

namespace Traced

/-- A result that needs no engine. -/
def ofExcept {α : Type} (outcome : Except CompileError α) : Traced α := ⟨[], outcome⟩

/-- Continues with a result; after an error no further calls are made. -/
def bind {α β : Type} (x : Traced α) (f : α → Traced β) : Traced β :=
  match x.outcome with
  | .ok value => ⟨x.calls ++ (f value).calls, (f value).outcome⟩
  | .error error => ⟨x.calls, .error error⟩

instance : Monad Traced where
  pure value := ⟨[], .ok value⟩
  bind := bind

/-- The engine's error as an error of the compilation. -/
def lift {α : Type} : Except TransformError α → Except CompileError α
  | .ok value => .ok value
  | .error error => .error (.transform error)

/-- Asks the script engine. -/
def callScript (engine : ScriptEngine) (source : String) (settings : ScriptSettings) :
    Traced ScriptOutput :=
  ⟨[.script source settings], lift (engine source settings)⟩

/-- Asks the style engine. -/
def callStyle (engine : StyleEngine) (plugins : List StylePlugin) (css : String)
    (options : StyleOptions) : Traced StyleOutput :=
  ⟨[.style plugins css options], lift (engine plugins css options)⟩

end Traced

end ComponentFile
