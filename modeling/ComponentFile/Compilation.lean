import ComponentFile.Module
import ComponentFile.Styles
import ComponentFile.Template

/-!
# Compiling components

A component is compiled in order: the template becomes a literal, the script a module around it,
and each style a stylesheet.  The first error ends the compilation, and the calls made to the
engines until then are part of the result.

* `Context` — what a compilation reads besides the component.
* `CompileOutput` — what comes out of it.
* `Component.compile` — compiles a component.
* `compileSource` — reads a document and compiles it; `compileDocument` reports its errors instead.
-/

namespace ComponentFile

/-- What a compilation reads besides the component itself. -/
structure Context where
  metadata : Metadata
  settings : CompileSettings
  engines : Engines

/-- A compiled component: the module, the source map of its script, and its stylesheets. -/
structure CompileOutput where
  code : String
  map : Option Json
  styles : List StyleOutput
deriving Repr

namespace Component

/-- The template of a component as it stands in a module. -/
def templateLiteral (component : Component) (metadata : Metadata) : Option String :=
  component.template.map fun tag => Template.scope tag.contents metadata.scopeHash

/-- Compiles styles in order, up to the first that fails. -/
def compileStyles (context : Context) : List Tag → Traced (List StyleOutput)
  | [] => pure []
  | tag :: rest => do
    let style ← compileStyle tag context.metadata.scopeHash context.metadata.path
      context.engines.style
    let others ← compileStyles context rest
    return style :: others

/-- Compiles a component. -/
def compile (component : Component) (context : Context) : Traced CompileOutput := do
  let script ← assembleModule component.script (component.templateLiteral context.metadata)
    context.settings.script context.metadata context.engines.script
  let styles ← compileStyles context component.styles
  return { code := script.code, map := script.map, styles }

end Component

/-- The component that a document describes. -/
def readComponent (source : String) : Except CompileError Component := do
  let regions ← scan source
  Component.addRegions { } regions

/-- Reads a document and compiles it. -/
def compileSource (source : String) (context : Context) : Traced CompileOutput := do
  let component ← Traced.ofExcept (readComponent source)
  component.compile context

/-- Compiles a document; an error is not returned but reported. -/
def compileDocument (source : String) (context : Context) :
    Option CompileOutput × List Report :=
  match (compileSource source context).outcome with
  | .ok output => (some output, [])
  | .error error => (none, [error.report])

end ComponentFile
