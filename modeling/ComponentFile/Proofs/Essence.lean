import ComponentFile.Proofs.Document
import ComponentFile.Proofs.Pipeline
import Mathlib

/-!
# What a compilation takes from a document

Most of a document has no influence on what it is compiled to.  `Essence` is all that has: the texts
of the regions, the dialect of the script, and for each style whether it is scoped.  Two documents
of the same essence are compiled to the same output with the same engine calls, or fail with the
same engine error.

**From the essence to the output.**  One lemma for each part of a compilation says that tags which
agree on what counts cannot be told apart: `Component.templateLiteral_eq`, `assembleModule_congr`,
`compileStyles_congr`.  Together they are `Component.compile_congr`.

**From the document to the essence.**  `readings` lists the regions of one kind with one thing said
by their attributes.  The three lists that count decide the essence (`essence_ofRegions_eq`), so
what is not in them is lost on the way: how regions of different kinds are interleaved, what stands
between them, how tag names are written, offsets, and all other attributes.

* **`compileSource_eq_of_essence_eq`** — documents of the same essence.
* **`compileSource_eq_of_readings_eq`** — documents whose regions agree kind by kind.
-/

namespace ComponentFile

/-- All that a compilation takes from a document. -/
structure Essence where
  template : Option String
  /-- The script, with the dialect that its tag names. -/
  script : Option (String × Option String)
  /-- The styles in order, each with whether it is scoped. -/
  styles : List (String × Bool)
deriving DecidableEq, Repr

/-- What a compilation takes from a component. -/
def Component.essence (component : Component) : Essence where
  template := component.template.map Tag.contents
  script := component.script.map fun tag => (tag.contents, tag.attributes.value? "lang")
  styles := component.styles.map fun tag => (tag.contents, tag.attributes.isTruthy "scoped")

/-! ## From the essence to the output -/

theorem Component.templateLiteral_eq (component : Component) (metadata : Metadata) :
    component.templateLiteral metadata =
      component.essence.template.map fun contents =>
        Template.scope contents metadata.scopeHash := by
  simp [templateLiteral, essence, Function.comp_def]

theorem assembleModule_congr {script other : Option Tag}
    (h : (script.map fun tag => (tag.contents, tag.attributes.value? "lang")) =
      other.map fun tag => (tag.contents, tag.attributes.value? "lang"))
    (literal : Option String) (caller : ScriptSettings) (metadata : Metadata)
    (engine : ScriptEngine) :
    assembleModule script literal caller metadata engine =
      assembleModule other literal caller metadata engine := by
  match script, other, h with
  | none, none, _ => rfl
  | some tag, some tag', h =>
    obtain ⟨hcontents, hlang⟩ := Prod.mk.inj (Option.some.inj h)
    simp only [assembleModule, scriptSettings, hcontents, hlang]

theorem compileStyle_congr {tag other : Tag} (hcontents : tag.contents = other.contents)
    (hscoped : tag.attributes.isTruthy "scoped" = other.attributes.isTruthy "scoped")
    (hash path : String) (engine : StyleEngine) :
    compileStyle tag hash path engine = compileStyle other hash path engine := by
  -- The other switches may differ, so the flags are not equal; only this one is looked at.
  have hflag : (StyleFlags.ofTag tag).isScoped = (StyleFlags.ofTag other).isScoped := hscoped
  rw [compileStyle, compileStyle, pluginChain, pluginChain, hflag, hcontents]

theorem compileStyles_congr {tags others : List Tag}
    (h : (tags.map fun tag => (tag.contents, tag.attributes.isTruthy "scoped")) =
      others.map fun tag => (tag.contents, tag.attributes.isTruthy "scoped"))
    (context : Context) :
    Component.compileStyles context tags = Component.compileStyles context others := by
  induction tags generalizing others with
  | nil =>
    cases others with
    | nil => rfl
    | cons => cases h
  | cons tag tags ih =>
    cases others with
    | nil => cases h
    | cons other others =>
      obtain ⟨hhead, htail⟩ := List.cons.inj h
      obtain ⟨hcontents, hscoped⟩ := Prod.mk.inj hhead
      rw [Component.compileStyles, Component.compileStyles, compileStyle_congr hcontents hscoped,
        ih htail]

/-- Components of the same essence are compiled alike. -/
theorem Component.compile_congr {component other : Component}
    (h : component.essence = other.essence) (context : Context) :
    component.compile context = other.compile context := by
  obtain ⟨-, hscript, hstyles⟩ := Essence.mk.inj h
  rw [compile, compile, templateLiteral_eq, templateLiteral_eq, h, assembleModule_congr hscript,
    compileStyles_congr hstyles]

/-! ## From the document to the essence -/

/-- The regions of one name in order, each with what `key` says about its attributes. -/
def readings {γ : Type} (name : String) (key : Attributes → γ) (regions : List Region) :
    List (Except CompileError String × γ) :=
  (regions.filter fun region => region.name = name).map fun region =>
    (region.contents, key region.attributes)

theorem map_filter_tags {γ : Type} (name : String) (key : Attributes → γ) (regions : List Region) :
    ((regions.filterMap Region.tag?).filter fun tag => tag.name = name).map
        (fun tag => (tag.contents, key tag.attributes)) =
      (readings name key regions).filterMap fun reading =>
        reading.1.toOption.map fun contents => (contents, reading.2) := by
  induction regions with
  | nil => rfl
  | cons region regions ih =>
    rw [readings] at ih ⊢
    cases hc : region.contents with
    | ok contents =>
      by_cases h : region.name = name
      · simp [Region.tag?_of_ok hc, h, ih, hc, Except.toOption]
      · simp [Region.tag?_of_ok hc, h, ih]
    | error error =>
      by_cases h : region.name = name
      · simp [Region.tag?_of_error hc, h, ih, hc, Except.toOption]
      · simp [Region.tag?_of_error hc, h, ih]

/-- Regions that agree kind by kind have the same essence. -/
theorem essence_ofRegions_eq {regions others : List Region}
    (htemplate : readings "template" (fun _ => ()) regions =
      readings "template" (fun _ => ()) others)
    (hscript : readings "script" (·.value? "lang") regions =
      readings "script" (·.value? "lang") others)
    (hstyle : readings "style" (·.isTruthy "scoped") regions =
      readings "style" (·.isTruthy "scoped") others) :
    (Component.ofRegions regions).essence = (Component.ofRegions others).essence := by
  have hfirst {γ : Type} {name : String} {key : Attributes → γ}
      (h : readings name key regions = readings name key others) :
      ((regions.filterMap Region.tag?).find? fun tag => tag.name = name).map
          (fun tag => (tag.contents, key tag.attributes)) =
        ((others.filterMap Region.tag?).find? fun tag => tag.name = name).map
          (fun tag => (tag.contents, key tag.attributes)) := by
    rw [← List.head?_filter, ← List.head?_filter, ← List.head?_map, ← List.head?_map,
      map_filter_tags, map_filter_tags, h]
  have hcontents := congrArg (Option.map Prod.fst) (hfirst htemplate)
  rw [Option.map_map, Option.map_map] at hcontents
  rw [Component.essence, Component.essence, Essence.mk.injEq]
  refine ⟨hcontents, hfirst hscript, ?_⟩
  show List.map _ (List.filter _ _) = List.map _ (List.filter _ _)
  rw [map_filter_tags "style" (·.isTruthy "scoped"), map_filter_tags "style" (·.isTruthy "scoped"),
    hstyle]

/-- **Nothing but the regions of each kind counts**: not their order across kinds, nor anything else
that the document has between or in its tags. -/
theorem compileSource_eq_of_readings_eq {source other : String} {regions others : List Region}
    (hsource : scan source = .ok regions) (haccepted : Accepted regions)
    (hother : scan other = .ok others) (haccepted' : Accepted others)
    (htemplate : readings "template" (fun _ => ()) regions =
      readings "template" (fun _ => ()) others)
    (hscript : readings "script" (·.value? "lang") regions =
      readings "script" (·.value? "lang") others)
    (hstyle : readings "style" (·.isTruthy "scoped") regions =
      readings "style" (·.isTruthy "scoped") others)
    (context : Context) : compileSource source context = compileSource other context := by
  have hreads : ReadsAs source (.ofRegions regions) := ⟨regions, hsource, haccepted, rfl⟩
  have hreads' : ReadsAs other (.ofRegions others) := ⟨others, hother, haccepted', rfl⟩
  rw [compileSource_of_ok hreads.readComponent_eq, compileSource_of_ok hreads'.readComponent_eq]
  exact Component.compile_congr (essence_ofRegions_eq htemplate hscript hstyle) context

/-! ## Printed documents -/

theorem readable_regionsFrom {items : List Item} {start : Nat} {region : Region}
    (h : region ∈ regionsFrom start items) : ∃ contents, region.contents = .ok contents := by
  induction items generalizing start with
  | nil => cases h
  | cons item items ih =>
    rw [regionsFrom, List.mem_append] at h
    rcases h with h | h
    · cases item with
      | blanks text => cases h
      | comment inside => cases h
      | selfClosed tag => cases List.mem_singleton.1 h; exact ⟨_, rfl⟩
      | raw tag contents ending => cases List.mem_singleton.1 h; exact ⟨_, rfl⟩
      | markup tag contents ending => cases List.mem_singleton.1 h; exact ⟨_, rfl⟩
    · exact ih h

theorem readsAs_printItems {items : List Item} (h : ∀ item ∈ items, item.WellFormed)
    (hknown : ∀ region ∈ regionsFrom 0 items, region.name ∈ ["template", "script", "style"])
    (hsingle : (regionsFrom 0 items).Pairwise fun earlier later =>
      earlier.name = later.name → later.name = "style") :
    ReadsAs (printItems items) (.ofRegions (regionsFrom 0 items)) := by
  refine ⟨regionsFrom 0 items, ?_, ⟨fun _ => readable_regionsFrom, hknown, hsingle⟩, rfl⟩
  rw [scan, printItems, String.toList_ofList]
  exact scanFrom_items h 0

/-! ## The essence decides -/

/-- **Documents of the same essence are compiled alike**, whatever the metadata, the settings and
the engines are: the outcome is the same, be it an output or an error of an engine, and so are the
engine calls. -/
theorem compileSource_eq_of_essence_eq {source other : String} {component component' : Component}
    (hsource : readComponent source = .ok component)
    (hother : readComponent other = .ok component')
    (hessence : component.essence = component'.essence) (context : Context) :
    compileSource source context = compileSource other context := by
  rw [compileSource_of_ok hsource, compileSource_of_ok hother]
  exact Component.compile_congr hessence context

/-- Two documents that differ in the order of their regions, in what stands between them, in how
names are written and in attributes that do not count. -/
theorem compileSource_eq_of_essence_eq_rearranged :
    ∃ source other component component',
      source = "<!-- a -->\n<template>x</template>\n<script lang=\"ts\">y</script>" ++
        "<style scoped autoprefix='off'>z</style>" ∧
      other = "<style lang=\"less\" scoped='1'>z</STYLE><SCRIPT LANG='ts' setup>y</script>" ++
        "\n<template>x</template>" ∧
      readComponent source = .ok component ∧ readComponent other = .ok component' ∧
      component.essence = component'.essence ∧
      ∀ context, compileSource source context = compileSource other context := by
  let flag (name : String) : AttrItem := ⟨[' '], ⟨name.toList, none⟩⟩
  let assigned (name : String) (quote : Quote) (value : String) : AttrItem :=
    ⟨[' '], ⟨name.toList, some ⟨[], [], quote, value.toList⟩⟩⟩
  let template : Item :=
    .markup ⟨"template".toList, [], [], false⟩ (.text ['x'] .nil) ⟨"template".toList, []⟩
  let raw (name : String) (attributes : List AttrItem) (contents ending : String) : Item :=
    .raw ⟨name.toList, attributes, [], false⟩ contents.toList ⟨ending.toList, []⟩
  let items : List Item :=
    [.comment " a ".toList, .blanks ['\n'], template, .blanks ['\n'],
      raw "script" [assigned "lang" .double "ts"] "y" "script",
      raw "style" [flag "scoped", assigned "autoprefix" .single "off"] "z" "style"]
  let others : List Item :=
    [raw "style" [assigned "lang" .double "less", assigned "scoped" .single "1"] "z" "STYLE",
      raw "SCRIPT" [assigned "LANG" .single "ts", flag "setup"] "y" "script", .blanks ['\n'],
      template]
  have hcomment : (Item.comment " a ".toList).WellFormed :=
    ⟨by decide +kernel, by decide +kernel, by decide +kernel⟩
  have hblanks : (Item.blanks ['\n']).WellFormed := by simp [Item.WellFormed, isBlank]
  have htemplate : template.WellFormed :=
    ⟨by decide +kernel, rfl, by decide +kernel, by decide +kernel, by decide +kernel⟩
  have hraw {tag : OpenTag} {contents : List Char} {ending : ClosingTag}
      (h : tag.Written ∧ tag.selfClosing = false ∧ isRawText (tag.name.map Char.toLower) = true ∧
        ending.Names tag.name) (hc : '<' ∉ contents) :
      (Item.raw tag contents ending).WellFormed := by
    obtain ⟨hw, hs, hr, he⟩ := h
    refine ⟨hw, hs, hr, he, fun inner _ hinner => hc (hinner.subset ?_)⟩
    simp [ClosingTag.chars]
  have hitems : ∀ item ∈ items, item.WellFormed := by
    simp only [items, List.forall_mem_cons]
    refine ⟨hcomment, hblanks, htemplate, hblanks, ?_, ?_, by simp⟩
    · exact hraw (by decide +kernel) (by decide +kernel)
    · exact hraw (by decide +kernel) (by decide +kernel)
  have hothers : ∀ item ∈ others, item.WellFormed := by
    simp only [others, List.forall_mem_cons]
    refine ⟨?_, ?_, hblanks, htemplate, by simp⟩
    · exact hraw (by decide +kernel) (by decide +kernel)
    · exact hraw (by decide +kernel) (by decide +kernel)
  have hreads := readsAs_printItems hitems (by decide +kernel) (by decide +kernel)
  have hreads' := readsAs_printItems hothers (by decide +kernel) (by decide +kernel)
  have hessence : (Component.ofRegions (regionsFrom 0 items)).essence =
      (Component.ofRegions (regionsFrom 0 others)).essence := by
    decide +kernel
  refine ⟨printItems items, printItems others, _, _, by decide +kernel, by decide +kernel,
    hreads.readComponent_eq, hreads'.readComponent_eq, hessence, ?_⟩
  exact compileSource_eq_of_essence_eq hreads.readComponent_eq hreads'.readComponent_eq hessence

end ComponentFile
