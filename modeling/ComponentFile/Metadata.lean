import ComponentFile.Digest

/-!
# What a host knows about a document

* `Metadata` — path, package and content hash.
* `Metadata.scopeHash` — the name that ties a component's template to its styles.
* `Metadata.virtualPath` — the path under which a script appears in source maps.
-/

namespace ComponentFile

/-- What the host knows about the document being compiled. -/
structure Metadata where
  /-- Path of the document inside its package or application. -/
  path : String
  packageName : Option String
  /-- A hash of the contents, stable per document. -/
  sourceHash : String
deriving DecidableEq, Repr

namespace Metadata

/-- Metadata for a host that has no content hash of its own. -/
def ofSource (path : String) (packageName : Option String) (source : String) : Metadata :=
  ⟨path, packageName, Digest.ofText source⟩

/-- The attribute on every tag of the template and on every scoped selector. -/
def scopeHash (metadata : Metadata) : String := "__v" ++ metadata.sourceHash

/-- The path of the document qualified by its package; an empty package name is none. -/
def virtualPath (metadata : Metadata) : String :=
  match metadata.packageName with
  | none => "/" ++ metadata.path
  | some name =>
    if name = "" then "/" ++ metadata.path else "/packages/" ++ name ++ "/" ++ metadata.path

end Metadata

end ComponentFile
