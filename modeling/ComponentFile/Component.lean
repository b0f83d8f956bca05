import ComponentFile.Document.Region

/-!
# Components

A component is what a document's regions amount to: at most one template, at most one script, and
styles in document order.  The rule is kept as regions arrive, so a region that breaks it is
refused and leaves the component as it was.

* `Tag` — a region whose contents have been read.
* `Component.add` — enters a tag.
* `Component.addRegion` — reads a region and enters it; what goes wrong in its contents is moved to
  document coordinates.
-/

namespace ComponentFile

/-- A region whose contents have been read. -/
structure Tag where
  name : String
  contents : String
  attributes : Attributes := .empty
  tagStart : Nat := 0
  contentsStart : Nat := 0

/-- The kinds of regions that make up a component. -/
inductive RegionKind where
  | template
  | script
  | style
deriving DecidableEq, Repr

/-- The kind that a tag name stands for; names are compared exactly. -/
def RegionKind.ofName? : String → Option RegionKind
  | "template" => some template
  | "script" => some script
  | "style" => some style
  | _ => none

/-- The regions of a document by kind. -/
structure Component where
  template : Option Tag := none
  script : Option Tag := none
  styles : List Tag := []

namespace Component

/-- Enters a tag, unless its kind is unknown or its place is taken. -/
def add (component : Component) (tag : Tag) : Except CompileError Component :=
  match RegionKind.ofName? tag.name with
  | some .template =>
    match component.template with
    | none => .ok { component with template := some tag }
    | some _ => .error (.duplicateTag tag.name tag.tagStart)
  | some .script =>
    match component.script with
    | none => .ok { component with script := some tag }
    | some _ => .error (.duplicateTag tag.name tag.tagStart)
  | some .style => .ok { component with styles := component.styles ++ [tag] }
  | none => .error (.unrecognizedTag tag.name tag.tagStart)

/-- Reads a region and enters it.  The read error comes first, whatever the component holds. -/
def addRegion (component : Component) (region : Region) : Except CompileError Component :=
  match region.contents with
  | .error error => .error ((error.shift region.contentsStart).inRegion region.name)
  | .ok contents =>
    component.add
      { name := region.name
        contents
        attributes := region.attributes
        tagStart := region.tagStart
        contentsStart := region.contentsStart }

/-- Enters regions in order up to the first that is refused. -/
def addRegions (component : Component) (regions : List Region) : Except CompileError Component :=
  regions.foldlM addRegion component

end Component

end ComponentFile
