import ComponentFile.Style.Scoping

/-!
# The built-in style engine

Runs the plugins, reads the sheet that comes out of them and prints it again.  The source map, if
one is asked for, refers to that sheet.

* `styleSourceMap` — the map of a sheet.
* `styleEngine` — the engine.
-/

namespace ComponentFile.Style

open ComponentFile (Json StyleEngine StyleOutput runPlugins)

/-- The mark of an address in the file system. -/
def fileMark : String := "file://"

/-- A file name relative to the root of the file system: its parts without empty ones and without
those that stay in place. -/
def relativeToRoot (file : String) : String :=
  let path := if file.startsWith fileMark then (file.drop fileMark.length).toString else file
  let parts := path.toList.splitOnP fun c => c == '/' || c == '\\'
  let kept := parts.filter fun part => part != [] && part != ['.']
  Layout.join "/" (kept.map String.ofList)

/-- The source map of a sheet that came from a file. -/
def styleSourceMap (file css : String) : Json :=
  .ofMembers [("version", .int 3), ("sourceRoot", .null),
    ("sources", .arr [.str (relativeToRoot file)]), ("sourcesContent", .arr [.str css]),
    ("names", .arr [])]

/-- The engine that prints sheets in a given layout. -/
def styleEngine (layout : Layout) : StyleEngine := fun plugins css options => do
  let css ← runPlugins plugins css
  match Stylesheet.parse css with
  | .error fault => .error fault.toError
  | .ok sheet =>
    let map := options.map.map fun _ => styleSourceMap (options.source.getD "") css
    return { css := sheet.render layout, map }

end ComponentFile.Style
