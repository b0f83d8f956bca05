import ComponentFile.Component
import ComponentFile.Style.Scoping

/-!
# The styles of a component

Each style region is one call to the style engine.  Its attributes say whether the sheet is scoped
to the component; the other switches are read but change nothing.

* `StyleFlags` — the switches of a style region.
* `pluginChain` — the steps that its sheet goes through.
* `compileStyle` — compiles one style region.
-/

namespace ComponentFile

/-- The switches of a style region. -/
structure StyleFlags where
  isScoped : Bool
  /-- Whether vendor prefixes may be added; at present none are. -/
  autoprefix : Bool
  /-- The preprocessor asked for; sheets are taken as they are. -/
  lang : Option String
deriving DecidableEq, Repr

/-- Reads the switches from a tag's attributes. -/
def StyleFlags.ofTag (tag : Tag) : StyleFlags where
  isScoped := tag.attributes.isTruthy "scoped"
  autoprefix := tag.attributes.value? "autoprefix" ≠ some "off"
  lang := tag.attributes.value? "lang"

/-- The steps that a sheet goes through. -/
def pluginChain (flags : StyleFlags) (hash : String) : List StylePlugin :=
  if flags.isScoped then [Style.scopePlugin hash] else []

/-- The options for a sheet of a file: the source map is returned beside the sheet. -/
def styleOptions (path : String) : StyleOptions :=
  { source := some path, target := some path, map := some { } }

/-- Compiles one style region of the component with a given hash, in a given file. -/
def compileStyle (tag : Tag) (hash path : String) (engine : StyleEngine) : Traced StyleOutput :=
  Traced.callStyle engine (pluginChain (StyleFlags.ofTag tag) hash) tag.contents
    (styleOptions path)

end ComponentFile
