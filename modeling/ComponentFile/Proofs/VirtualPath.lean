import ComponentFile.Batch
import ComponentFile.Proofs.FileTrees
import ComponentFile.Proofs.Pipeline
import Mathlib

/-!
# Names of files in a package

The files of a package are compiled one by one, and the source map of each is named after its path
below the root.  If two files had the same name, one map would overwrite the other.

**Paths.**  `Path.Below` is a file below a root, with the components that lead from one to the
other.  Their texts are joined by slashes, and since none of them holds a slash they can be split
again (`splitSlashes_pathInPackage`).  From its text the component can be told, because no name is
written like a component of another kind (`Step.ofText_text`).

**Packages.**  What a package puts in front of a path does not depend on the path
(`Metadata.virtualPath_inj`), and the map is named after the result.

**Engines.**  `mapTargets` are the names that the script engine gets when a document is compiled.
`eq_of_mem_mapTargets` reads them off the course of the compilation.

**`virtualPath_ne_of_below`** says that all of these are different for different files.
-/

namespace ComponentFile

/-! ## Paths -/

/-- A path to something strictly below a root, and the components that lead there.  None of them is
empty, as no component of a path is, and none is the slash of a path that begins with one. -/
structure Path.Below (root path : Path) (rest : List Step) : Prop where
  components_eq : path.components = root.components ++ rest
  ne_nil : rest ≠ []
  slash_notMem : ∀ step ∈ rest, '/' ∉ step.text.toList

/-- The parts of a text between its slashes. -/
def splitSlashes (text : String) : List String := (text.split '/').toList.map (·.copy)

/-- The component of a path that is written so, if it is no slash. -/
def Step.ofText (text : String) : Step :=
  if text = "." then .here else if text = ".." then .up else .name text

theorem Path.isName_of_mem_components {path : Path} {name : String}
    (h : .name name ∈ path.components) : FileTree.IsName name := by
  rw [components, List.mem_append] at h
  rcases h with hstart | hparts
  · rw [start] at hstart
    split_ifs at hstart <;> simp at hstart
  · obtain ⟨part, -, hstep⟩ := List.mem_filterMap.1 hparts
    rw [step?] at hstep
    split_ifs at hstep with hidle hup
    · cases hstep
    · obtain rfl : part = name := Step.name.inj (Option.some.inj hstep)
      exact ⟨by simpa using hidle, hup⟩

/-- No name is written like a component of another kind. -/
theorem Step.ofText_text {path : Path} {step : Step} (hstep : step ∈ path.components)
    (hslash : '/' ∉ step.text.toList) : ofText step.text = step := by
  cases step with
  | root => exact absurd (by decide) hslash
  | here | up => rfl
  | name written =>
    obtain ⟨hidle, hup⟩ := Path.isName_of_mem_components hstep
    have hhere : written ≠ "." := by
      rintro rfl
      cases hidle
    rw [text, ofText, if_neg hhere, if_neg hup]

section

variable {root path other : Path} {rest rest' : List Step}

theorem Path.Below.pathInPackage_eq (h : root.Below path rest) :
    pathInPackage root path = "/".intercalate (rest.map Step.text) := by
  rw [pathInPackage, h.components_eq, relativeTo_append]

/-- The name of a file in its package tells the way to it from the root. -/
theorem splitSlashes_pathInPackage (h : root.Below path rest) :
    splitSlashes (pathInPackage root path) = rest.map Step.text := by
  have hslash : "/" = String.singleton '/' := rfl
  rw [h.pathInPackage_eq, splitSlashes, hslash, String.toList_split_intercalate, if_neg]
  · simpa using h.ne_nil
  · simpa using h.slash_notMem

/-- The way is told by the name. -/
theorem Path.Below.map_ofText (h : root.Below path rest) :
    (splitSlashes (pathInPackage root path)).map Step.ofText = rest := by
  have hstep : ∀ step ∈ rest, (Step.ofText ∘ Step.text) step = id step := fun step hmem =>
    Step.ofText_text (h.components_eq ▸ List.mem_append_right _ hmem) (h.slash_notMem step hmem)
  rw [splitSlashes_pathInPackage h, List.map_map, List.map_congr_left hstep, List.map_id]

theorem pathInPackage_ne (h : root.Below path rest) (h' : root.Below other rest')
    (hne : path.components ≠ other.components) :
    pathInPackage root path ≠ pathInPackage root other := by
  intro heq
  refine hne ?_
  rw [h.components_eq, h'.components_eq, ← h.map_ofText, heq, h'.map_ofText]

end

/-! ## Packages -/

/-- In one package, different paths are qualified differently. -/
theorem Metadata.virtualPath_inj {path path' : String} {packageName : Option String}
    {hash hash' : String} :
    (⟨path, packageName, hash⟩ : Metadata).virtualPath =
      (⟨path', packageName, hash'⟩ : Metadata).virtualPath ↔ path = path' := by
  cases packageName with
  | none => simp [virtualPath]
  | some name => by_cases h : name = "" <;> simp [virtualPath, h]

/-! ## Engines -/

/-- The names of source maps that the script engine is given when a document is compiled. -/
def mapTargets (source : String) (context : Context) : List (Option String) :=
  (compileSource source context).calls.filterMap fun
    | .script _ settings => some settings.sourceMapTarget
    | .style .. => none

section

variable {source : String} {context : Context}

/-- All calls are made for a script or a style. -/
theorem Course.eq_of_mem_calls {traced : Traced CompileOutput} (h : Course source context traced)
    {call : EngineCall} (hcall : call ∈ traced.calls) :
    (∃ tag, call = context.scriptCall tag) ∨ ∃ tag, call = context.styleCall tag := by
  cases h with
  | unscanned | refused => cases hcall
  | @scriptFails component tag error => exact .inl ⟨tag, List.mem_singleton.1 hcall⟩
  | styleFails | compiled =>
    rcases List.mem_append.1 hcall with hscript | hstyle
    · obtain ⟨tag, -, rfl⟩ := List.mem_map.1 hscript
      exact .inl ⟨tag, rfl⟩
    · obtain ⟨tag, -, rfl⟩ := List.mem_map.1 hstyle
      exact .inr ⟨tag, rfl⟩

theorem eq_of_mem_mapTargets {target : Option String} (h : target ∈ mapTargets source context) :
    target = some (context.metadata.virtualPath ++ ".map") := by
  obtain ⟨call, hcall, htarget⟩ := List.mem_filterMap.1 h
  obtain ⟨traced, hcourse⟩ := exists_course source context
  rw [hcourse.compileSource_eq] at hcall
  rcases hcourse.eq_of_mem_calls hcall with ⟨tag, rfl⟩ | ⟨tag, rfl⟩
  · exact (Option.some.inj htarget).symm
  · cases htarget

end

/-- **Files of one package never share a name.**  Take two paths below a root that differ in a
component.  Their names in the package are different, and split at the slashes they give the texts
of the components below the root.  Whatever the package is called, the virtual paths are different
too, and whatever is compiled under them, no source map of the one file is named like one of the
other. -/
theorem virtualPath_ne_of_below {root path other : Path} {rest rest' : List Step}
    (hpath : root.Below path rest) (hother : root.Below other rest')
    (hne : path.components ≠ other.components) :
    pathInPackage root path ≠ pathInPackage root other ∧
      splitSlashes (pathInPackage root path) = rest.map Step.text ∧
      splitSlashes (pathInPackage root other) = rest'.map Step.text ∧
      ∀ packageName hash hash',
        let metadata : Metadata := ⟨pathInPackage root path, packageName, hash⟩
        let metadata' : Metadata := ⟨pathInPackage root other, packageName, hash'⟩
        metadata.virtualPath ≠ metadata'.virtualPath ∧
          ∀ source source' settings settings' engines engines',
            (mapTargets source ⟨metadata, settings, engines⟩).Disjoint
              (mapTargets source' ⟨metadata', settings', engines'⟩) := by
  have hpaths := pathInPackage_ne hpath hother hne
  refine ⟨hpaths, splitSlashes_pathInPackage hpath, splitSlashes_pathInPackage hother, ?_⟩
  intro packageName hash hash' metadata metadata'
  have hvirtual : metadata.virtualPath ≠ metadata'.virtualPath := fun heq =>
    hpaths (Metadata.virtualPath_inj.1 heq)
  refine ⟨hvirtual, ?_⟩
  intro source source' settings settings' engines engines' target htarget htarget'
  have heq := (eq_of_mem_mapTargets htarget).symm.trans (eq_of_mem_mapTargets htarget')
  exact hvirtual ((String.append_left_inj _).1 (Option.some.inj heq))

/-- Two files below `./src/`, one of them on a way that goes back up. -/
theorem virtualPath_ne_of_below_backUp :
    let root : Path := ⟨[".", "src", ""]⟩
    let path : Path := ⟨[".", "src", ".", "a", "b.vue"]⟩
    let other : Path := ⟨[".", "", "src", "a", "..", "b.vue"]⟩
    let engines : Engines := ⟨fun code _ => .ok ⟨code, none⟩, fun _ css _ => .ok ⟨css, none⟩⟩
    let context (file : Path) : Context :=
      ⟨⟨pathInPackage root file, some "acme:ui", "1"⟩, { }, engines⟩
    let target := some "/packages/acme:ui/a/b.vue.map"
    (root.Below path [.name "a", .name "b.vue"] ∧
        root.Below other [.name "a", .up, .name "b.vue"] ∧
        path.components ≠ other.components) ∧
      pathInPackage root path ≠ pathInPackage root other ∧
      splitSlashes (pathInPackage root other) = ["a", "..", "b.vue"] ∧
      (context path).metadata.virtualPath ≠ (context other).metadata.virtualPath ∧
      target ∈ mapTargets "<script>a</script>" (context path) ∧
      target ∉ mapTargets "<script>a</script>" (context other) := by
  intro root path other engines context target
  have hpath : root.Below path [.name "a", .name "b.vue"] := ⟨by decide, by decide, by decide⟩
  have hother : root.Below other [.name "a", .up, .name "b.vue"] :=
    ⟨by decide, by decide, by decide⟩
  have hne : path.components ≠ other.components := by decide
  obtain ⟨hpaths, -, hsplit, hpackage⟩ := virtualPath_ne_of_below hpath hother hne
  obtain ⟨hvirtual, hdisjoint⟩ := hpackage (some "acme:ui") "1" "1"
  have htarget : target ∈ mapTargets "<script>a</script>" (context path) := by decide +kernel
  exact ⟨⟨hpath, hother, hne⟩, hpaths, hsplit, hvirtual, htarget,
    hdisjoint _ _ _ _ _ _ htarget⟩

/-- A first dot is a component: it is kept below the empty root and where the root has none, and
taken away with the root that has it. -/
example : pathInPackage ⟨[""]⟩ ⟨[".", "a.vue"]⟩ = "./a.vue" ∧
    pathInPackage ⟨["src"]⟩ ⟨[".", "src", "a.vue"]⟩ = "./src/a.vue" ∧
    pathInPackage ⟨[".", "src"]⟩ ⟨[".", "src", "a.vue"]⟩ = "a.vue" := by decide

end ComponentFile
