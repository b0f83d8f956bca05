/-!
# Files and paths

A directory is a tree whose leaves are files.  A node is named by the names on the way to it, and a
path as it is written leads there, perhaps with steps that lead nowhere or back.

* `Route`, `Path` — the names on the way to a node, and a path as it is written.
* `Path.components` — what a path consists of, by which paths are compared.
* `FileTree` — files with their bytes, and directories with named entries.
* `FileTree.insertFile`, `FileTree.makeDirectory` — build a tree up.
* `FileTree.files` — the routes to all files.
* `FileSystem` — the tree of all files, and the directory in which paths begin.
* `FileSystem.descend`, `FileSystem.readText` — where a path leads to, and the text there.
-/

namespace ComponentFile

/-! ## Paths -/

/-- The names on the way to a file or directory. -/
abbrev Route := List String

/-- A path as it is written: what stands between its slashes.  A part that is empty or a single dot
leads nowhere, and two dots lead to the directory above. -/
structure Path where
  parts : List String
deriving DecidableEq, Repr

/-- A component of a path.  The kinds are in the order in which paths are sorted. -/
inductive Step where
  /-- The slash that a path begins with. -/
  | root
  /-- The single dot that a path begins with. -/
  | here
  /-- Two dots. -/
  | up
  | name (written : String)
deriving DecidableEq, Repr, Ord

/-- How a component is written. -/
def Step.text : Step → String
  | .root => "/"
  | .here => "."
  | .up => ".."
  | .name written => written

namespace Path

/-- Whether a part of a path leads nowhere. -/
def isIdle (part : String) : Bool := part == "" || part == "."

/-- Whether a path begins with a slash. -/
def isAbsolute (path : Path) : Bool :=
  match path.parts with
  | "" :: _ :: _ => true
  | _ => false

/-- Whether nothing is written. -/
def isEmpty (path : Path) : Bool :=
  match path.parts with
  | [] => true
  | [""] => true
  | _ => false

/-- The component that a part is, if it leads anywhere. -/
def step? (part : String) : Option Step :=
  if isIdle part then none else if part = ".." then some .up else some (.name part)

/-- The component in front of those that lead anywhere: a path may begin with a slash or, if not,
with a single dot. -/
def start (path : Path) : List Step :=
  if path.isAbsolute then [.root] else if path.parts.head? = some "." then [.here] else []

/-- The components of a path.  A single dot is one at the beginning only. -/
def components (path : Path) : List Step := path.start ++ path.parts.filterMap step?

/-- Paths are compared component by component. -/
instance : Ord Path := ⟨fun a b => compare a.components b.components⟩

/-- A path continued by another; one that begins with a slash takes its place, and a slash at the
end is not doubled. -/
def join (path other : Path) : Path :=
  if other.isAbsolute then other
  else if path.parts.getLast? = some "" then ⟨path.parts.dropLast ++ other.parts⟩
  else ⟨path.parts ++ other.parts⟩

/-- The path of an entry of the directory at a path. -/
def child (path : Path) (name : String) : Path := path.join ⟨[name]⟩

/-- The path of what lies below the directory at a path. -/
def descendant (path : Path) (route : Route) : Path := route.foldl child path

end Path

/-! ## Trees -/

/-- A file with its bytes, or with none if they may not be read, or a directory with its entries. -/
inductive FileTree where
  | file (bytes : Option ByteArray)
  | directory (entries : List (String × FileTree))

instance : Inhabited FileTree := ⟨.directory []⟩

/-- Why a file cannot be read. -/
inductive ReadError where
  | notFound
  | isDirectory
  /-- A file stands where a directory on the way to the path should be. -/
  | notDirectory
  /-- The bytes may not be read. -/
  | denied
  /-- The bytes are no text. -/
  | invalidText
deriving DecidableEq, Repr

namespace FileTree

/-- Sets the entry of a given name, in its old place if there is one. -/
def setEntry (entries : List (String × FileTree)) (name : String) (tree : FileTree) :
    List (String × FileTree) :=
  match entries with
  | [] => [(name, tree)]
  | (other, old) :: rest =>
    if other = name then (name, tree) :: rest else (other, old) :: setEntry rest name tree

/-- The entries of a directory; a file has none. -/
def entries : FileTree → List (String × FileTree)
  | file _ => []
  | directory entries => entries

/-- Changes what is at the end of a route and makes the directories on the way. -/
def alter (change : FileTree → FileTree) : Route → FileTree → FileTree
  | [], tree => change tree
  | name :: rest, tree =>
    let below := (tree.entries.lookup name).getD (.directory [])
    .directory (setEntry tree.entries name (alter change rest below))

/-- Puts a file at the end of a route. -/
def insertFile (route : Route) (bytes : ByteArray) (tree : FileTree) : FileTree :=
  alter (fun _ => .file (some bytes)) route tree

/-- Makes a directory at the end of a route, unless there is something already. -/
def makeDirectory (route : Route) (tree : FileTree) : FileTree := alter id route tree

/-- Where the parts of a path lead to; `above` are the directories around the tree, the innermost
first.  Even a part that leads nowhere needs a directory, and above the outermost directory there is
none but itself. -/
def follow (above : List FileTree) : FileTree → List String → Except ReadError FileTree
  | tree, [] => .ok tree
  | file _, _ :: _ => .error .notDirectory
  | directory entries, part :: rest =>
    if Path.isIdle part then follow above (.directory entries) rest
    else if part == ".." then
      match above with
      | parent :: above => follow above parent rest
      | [] => follow [] (.directory entries) rest
    else
      match entries.lookup part with
      | none => .error .notFound
      | some tree => follow (.directory entries :: above) tree rest

mutual

/-- The routes to all files; the route to a file by itself is empty. -/
def files : FileTree → List Route
  | file _ => [[]]
  | directory entries => filesIn entries

/-- The routes to all files below some entries. -/
def filesIn : List (String × FileTree) → List Route
  | [] => []
  | (name, tree) :: rest => tree.files.map (name :: ·) ++ filesIn rest

end

end FileTree

/-! ## File systems -/

/-- All files there are, and the place of the directory in which a path begins that does not begin
with a slash. -/
structure FileSystem where
  tree : FileTree
  place : Route

namespace FileSystem

/-- The parts of the way from the root of the tree along a path. -/
def way (system : FileSystem) (path : Path) : List String :=
  (if path.isAbsolute then [] else system.place) ++ path.parts

/-- What is at a path; an empty one leads nowhere. -/
def descend (system : FileSystem) (path : Path) : Except ReadError FileTree :=
  if path.isEmpty then .error .notFound else FileTree.follow [] system.tree (system.way path)

/-- The text of the file at a path. -/
def readText (system : FileSystem) (path : Path) : Except ReadError String :=
  match system.descend path with
  | .error error => .error error
  | .ok (.directory _) => .error .isDirectory
  | .ok (.file none) => .error .denied
  | .ok (.file (some bytes)) =>
    match String.fromUTF8? bytes with
    | some text => .ok text
    | none => .error .invalidText

end FileSystem

end ComponentFile
