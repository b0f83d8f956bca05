import ComponentFile.Compilation
import ComponentFile.Files

/-!
# Compiling many files

The component files below a directory are found by their names and compiled one by one.  Files
share nothing, so what is wrong with one has no effect on the others.

* `findComponents` — the component files below a root, in order of their paths.
* `pathInPackage` — the name of a file relative to the root.
* `BatchEntry`, `compileFiles`, `compileDirectory` — results, one for each file.
-/

namespace ComponentFile

/-! ## Finding files -/

/-- What the name of a component file ends with. -/
def componentSuffix : String := ".vue"

/-- Whether a name is that of a component file: something in front of the suffix. -/
def isComponentName (name : String) : Bool :=
  componentSuffix.toList.isSuffixOf name.toList && componentSuffix.length < name.length

/-- Whether a path ends with the name of a component file. -/
def isComponentPath (path : Path) : Bool :=
  match path.components.getLast? with
  | some (.name name) => isComponentName name
  | _ => false

/-- Whether a path comes before another or has the same components. -/
def pathLe (a b : Path) : Bool := (compare a b).isLE

/-- The component files below a root, which may be a file itself, in order of their paths. -/
def findComponents (system : FileSystem) (root : Path) : List Path :=
  match system.descend root with
  | .error _ => []
  | .ok below => ((below.files.map root.descendant).filter isComponentPath).mergeSort pathLe

/-! ## Compiling files -/

/-- The components of a path without those of a root that it lies below. -/
def relativeTo (root path : List Step) : List Step :=
  if root.isPrefixOf path then path.drop root.length else path

theorem relativeTo_append (root rest : List Step) : relativeTo root (root ++ rest) = rest := by
  have hprefix : root.isPrefixOf (root ++ rest) = true := by simp
  rw [relativeTo, if_pos hprefix, List.drop_left]

/-- The name of a file in its package; a file that does not lie below the root keeps its path. -/
def pathInPackage (root path : Path) : String :=
  "/".intercalate ((relativeTo root.components path.components).map Step.text)

/-- Why a file has no result. -/
inductive BatchError where
  | read (path : Path) (error : ReadError)
  | compile (error : CompileError)
deriving DecidableEq, Repr

/-- A file and what became of it. -/
structure BatchEntry where
  path : Path
  result : Except BatchError CompileOutput

/-- Reads and compiles one file. -/
def compileFile (system : FileSystem) (root path : Path) (packageName : Option String)
    (settings : CompileSettings) (engines : Engines) : Except BatchError CompileOutput :=
  match system.readText path with
  | .error error => .error (.read path error)
  | .ok source =>
    let metadata := Metadata.ofSource (pathInPackage root path) packageName source
    match (compileSource source { metadata, settings, engines }).outcome with
    | .ok output => .ok output
    | .error error => .error (.compile error)

/-- Compiles files, with one entry for each in the same order. -/
def compileFiles (system : FileSystem) (root : Path) (paths : List Path)
    (packageName : Option String) (settings : CompileSettings) (engines : Engines) :
    List BatchEntry :=
  paths.map fun path =>
    { path, result := compileFile system root path packageName settings engines }

/-- Compiles all component files below a root. -/
def compileDirectory (system : FileSystem) (root : Path) (packageName : Option String)
    (settings : CompileSettings) (engines : Engines) : List BatchEntry :=
  compileFiles system root (findComponents system root) packageName settings engines

end ComponentFile
