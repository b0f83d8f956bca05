import ComponentFile.Component
import Mathlib

/-!
# Which regions make up a component

A component is filled one tag at a time, and every tag is judged by what the component holds by
then.  Both can be said without the filling: what a component holds is a matter of which tags were
offered, and whether a region is refused is a matter of which regions stand before it.

**One tag.**  `Component.Added` is everything that can happen when a tag is entered, and
`Component.Judged` what the answer says about the tag.

**Many tags.**  `Component.ofTags` is what a component holds after tags were offered, refused ones
among them.  `Component.ofTags_concat` is the step: a tag that is refused would not have counted.

**Regions.**  `Accepted` says which lists of regions make up a component, `Refused` why a region
cannot follow others.

* `accepted_or_refused` — regions are accepted, or there is a first one that is refused.
* `Accepted.addRegions_eq`, `Refused.addRegions_eq` — in the one case the regions are entered, in
  the other the reason is returned.
-/

namespace ComponentFile

/-! ## One tag -/

/-- Everything that can happen when a tag is entered. -/
inductive Component.Added (component : Component) (tag : Tag) : Except CompileError Component → Prop
  | template : tag.name = "template" → component.template = none →
      Added component tag (.ok { component with template := some tag })
  | script : tag.name = "script" → component.script = none →
      Added component tag (.ok { component with script := some tag })
  | style : tag.name = "style" →
      Added component tag (.ok { component with styles := component.styles ++ [tag] })
  | secondTemplate {first : Tag} : tag.name = "template" → component.template = some first →
      Added component tag (.error (.duplicateTag tag.name tag.tagStart))
  | secondScript {first : Tag} : tag.name = "script" → component.script = some first →
      Added component tag (.error (.duplicateTag tag.name tag.tagStart))
  | unrecognized : tag.name ∉ ["template", "script", "style"] →
      Added component tag (.error (.unrecognizedTag tag.name tag.tagStart))

theorem RegionKind.ofName?_cases (name : String) :
    (name = "template" ∧ ofName? name = some .template) ∨
      (name = "script" ∧ ofName? name = some .script) ∨
      (name = "style" ∧ ofName? name = some .style) ∨
      (name ∉ ["template", "script", "style"] ∧ ofName? name = none) := by
  unfold ofName?
  split
  · exact Or.inl ⟨rfl, rfl⟩
  · exact Or.inr (Or.inl ⟨rfl, rfl⟩)
  · exact Or.inr (Or.inr (Or.inl ⟨rfl, rfl⟩))
  · next htemplate hscript hstyle =>
    exact Or.inr (Or.inr (Or.inr ⟨by simp_all, rfl⟩))

theorem Component.added_add (component : Component) (tag : Tag) :
    component.Added tag (component.add tag) := by
  unfold Component.add
  rcases RegionKind.ofName?_cases tag.name with ⟨hname, hkind⟩ | ⟨hname, hkind⟩ | ⟨hname, hkind⟩ |
    ⟨hname, hkind⟩
  · rw [hkind]
    cases ht : component.template with
    | none => exact .template hname ht
    | some first => exact .secondTemplate hname ht
  · rw [hkind]
    cases hs : component.script with
    | none => exact .script hname hs
    | some first => exact .secondScript hname hs
  · rw [hkind]
    exact .style hname
  · rw [hkind]
    exact .unrecognized hname

/-- What the answer to a tag says: it is accepted if it is a style or its place is free, a duplicate
if its place is taken, and unrecognized if there is no place of its name. -/
structure Component.Judged (component : Component) (tag : Tag) (answer : Except CompileError Unit) :
    Prop where
  accepted : answer = .ok () ↔
    tag.name = "style" ∨ (tag.name = "template" ∧ component.template = none) ∨
      (tag.name = "script" ∧ component.script = none)
  duplicate : answer = .error (.duplicateTag tag.name tag.tagStart) ↔
    (tag.name = "template" ∧ component.template ≠ none) ∨
      (tag.name = "script" ∧ component.script ≠ none)
  unrecognized : answer = .error (.unrecognizedTag tag.name tag.tagStart) ↔
    tag.name ∉ ["template", "script", "style"]

theorem Component.Added.judged {component : Component} {tag : Tag}
    {outcome : Except CompileError Component} (h : component.Added tag outcome) :
    component.Judged tag (outcome.map fun _ => ()) := by
  cases h with
  | template hname hfree => constructor <;> simp [Except.map, hname, hfree]
  | script hname hfree => constructor <;> simp [Except.map, hname, hfree]
  | style hname => constructor <;> simp [Except.map, hname]
  | secondTemplate hname htaken => constructor <;> simp [Except.map, hname, htaken]
  | secondScript hname htaken => constructor <;> simp [Except.map, hname, htaken]
  | unrecognized hname =>
    simp only [List.mem_cons, List.not_mem_nil, or_false, not_or] at hname
    constructor <;> simp [Except.map, hname]

/-! ## Many tags -/

/-- What a component holds after tags were offered to it, whether they were accepted or not: the
first template, the first script, and every style. -/
def Component.ofTags (tags : List Tag) : Component where
  template := tags.find? fun tag => tag.name = "template"
  script := tags.find? fun tag => tag.name = "script"
  styles := tags.filter fun tag => tag.name = "style"

/-- With one more tag a component is what became of entering it and, if the tag was refused, what it
was before. -/
theorem Component.ofTags_concat {tags : List Tag} {tag : Tag}
    {outcome : Except CompileError Component} (h : (ofTags tags).Added tag outcome) :
    ofTags (tags ++ [tag]) = outcome.toOption.getD (ofTags tags) := by
  -- A refused tag adds nothing: an earlier one of its name is found first, or nothing asks for it.
  cases h with
  | template hname hfree =>
    have hfree : tags.find? (fun tag => tag.name = "template") = none := hfree
    simp [ofTags, List.find?_append, hname, hfree, Except.toOption]
  | script hname hfree =>
    have hfree : tags.find? (fun tag => tag.name = "script") = none := hfree
    simp [ofTags, List.find?_append, hname, hfree, Except.toOption]
  | style hname => simp [ofTags, List.find?_append, hname, Except.toOption]
  | @secondTemplate first hname htaken =>
    have htaken : tags.find? (fun tag => tag.name = "template") = some first := htaken
    simp [ofTags, List.find?_append, hname, htaken, Except.toOption]
  | @secondScript first hname htaken =>
    have htaken : tags.find? (fun tag => tag.name = "script") = some first := htaken
    simp [ofTags, List.find?_append, hname, htaken, Except.toOption]
  | unrecognized hname =>
    simp only [List.mem_cons, List.not_mem_nil, or_false, not_or] at hname
    simp [ofTags, List.find?_append, hname, Except.toOption]

/-! ## The tag of a region -/

/-- The tag that a region is when its contents are known. -/
def Region.tag (region : Region) (contents : String) : Tag :=
  { name := region.name
    contents
    attributes := region.attributes
    tagStart := region.tagStart
    contentsStart := region.contentsStart }

@[simp] theorem Region.tag_name (region : Region) (contents : String) :
    (region.tag contents).name = region.name := rfl

@[simp] theorem Region.tag_contents (region : Region) (contents : String) :
    (region.tag contents).contents = contents := rfl

@[simp] theorem Region.tag_attributes (region : Region) (contents : String) :
    (region.tag contents).attributes = region.attributes := rfl

/-- The tag that a region is, if its contents can be read. -/
def Region.tag? (region : Region) : Option Tag := region.contents.toOption.map region.tag

theorem Region.tag?_of_ok {region : Region} {contents : String}
    (h : region.contents = .ok contents) : region.tag? = some (region.tag contents) := by
  rw [Region.tag?, h]
  rfl

theorem Region.tag?_of_error {region : Region} {error : CompileError}
    (h : region.contents = .error error) : region.tag? = none := by
  rw [Region.tag?, h]
  rfl

/-- What a reading error of a region is in the document: a problem in the text is moved to where the
contents begin and named after the region unless it has a name, and other errors stay. -/
def Region.placed (region : Region) : CompileError → CompileError
  | .region tag problem offset =>
    .region (some (tag.getD region.name)) problem (region.contentsStart + offset)
  | error => error

theorem Component.addRegion_of_ok {region : Region} {contents : String}
    (h : region.contents = .ok contents) (component : Component) :
    component.addRegion region = component.add (region.tag contents) := by
  rw [Component.addRegion, h]
  rfl

theorem Component.addRegion_of_error {region : Region} {error : CompileError}
    (h : region.contents = .error error) (component : Component) :
    component.addRegion region = .error (region.placed error) := by
  rw [Component.addRegion, h]
  match error with
  | .duplicateTag _ _ => rfl
  | .unrecognizedTag _ _ => rfl
  | .region none _ _ => rfl
  | .region (some _) _ _ => rfl
  | .transform _ => rfl

/-- What a component holds after regions were offered to it. -/
def Component.ofRegions (regions : List Region) : Component :=
  .ofTags (regions.filterMap Region.tag?)

theorem Component.ofRegions_concat {region : Region} {contents : String}
    (h : region.contents = .ok contents) (done : List Region) :
    ofRegions (done ++ [region]) =
      ofTags (done.filterMap Region.tag? ++ [region.tag contents]) := by
  rw [ofRegions, List.filterMap_append]
  simp [Region.tag?_of_ok h]

/-! ## Regions that are accepted, and regions that are refused -/

/-- Regions that make up a component: all can be read, all have a place, and only styles share
theirs. -/
structure Accepted (regions : List Region) : Prop where
  readable : ∀ region ∈ regions, ∃ contents, region.contents = .ok contents
  known : ∀ region ∈ regions, region.name ∈ ["template", "script", "style"]
  single : regions.Pairwise fun earlier later => earlier.name = later.name → later.name = "style"

/-- Why a region cannot follow others.  That its contents cannot be read comes before anything
else. -/
inductive Refused (done : List Region) (region : Region) : CompileError → Prop
  | unreadable {error : CompileError} : region.contents = .error error →
      Refused done region (region.placed error)
  | duplicate {contents : String} : region.contents = .ok contents →
      region.name ∈ ["template", "script"] → (∃ earlier ∈ done, earlier.name = region.name) →
      Refused done region (.duplicateTag region.name region.tagStart)
  | unrecognized {contents : String} : region.contents = .ok contents →
      region.name ∉ ["template", "script", "style"] →
      Refused done region (.unrecognizedTag region.name region.tagStart)

theorem Accepted.nil : Accepted [] := by
  constructor <;> simp

theorem Accepted.left {done rest : List Region} (h : Accepted (done ++ rest)) : Accepted done where
  readable region hregion := h.readable region (by simp [hregion])
  known region hregion := h.known region (by simp [hregion])
  single := (List.pairwise_append.1 h.single).1

/-- A region can follow accepted ones, or there is a reason why not. -/
theorem Accepted.concat_or_refused {done : List Region} (h : Accepted done) (region : Region) :
    Accepted (done ++ [region]) ∨ ∃ error, Refused done region error := by
  match hc : region.contents with
  | .error error => exact Or.inr ⟨_, .unreadable hc⟩
  | .ok contents =>
    by_cases hknown : region.name ∈ ["template", "script", "style"]
    · by_cases hsingle : ∀ earlier ∈ done, earlier.name = region.name → region.name = "style"
      · left
        constructor
        · simpa [or_imp, forall_and, hc] using h.readable
        · intro other hother
          rcases List.mem_append.1 hother with hother | hother
          · exact h.known other hother
          · rwa [List.mem_singleton.1 hother]
        · rw [List.pairwise_append]
          refine ⟨h.single, List.pairwise_singleton _ _, ?_⟩
          intro earlier hearlier later hlater
          rw [List.mem_singleton.1 hlater]
          exact hsingle earlier hearlier
      · right
        push Not at hsingle
        obtain ⟨earlier, hearlier, hname, hstyle⟩ := hsingle
        refine ⟨_, .duplicate hc ?_ ⟨earlier, hearlier, hname⟩⟩
        simpa [hstyle] using hknown
    · exact Or.inr ⟨_, .unrecognized hc hknown⟩

/-- Regions are accepted, or there is a first one that is refused. -/
theorem accepted_or_refused (regions : List Region) :
    Accepted regions ∨ ∃ done region rest error, regions = done ++ region :: rest ∧
      Accepted done ∧ Refused done region error := by
  -- What was accepted so far grows from the left while the induction takes regions off the right.
  suffices hsuff : ∀ done : List Region, Accepted done → Accepted (done ++ regions) ∨
      ∃ done' region rest error, done ++ regions = done' ++ region :: rest ∧
        Accepted done' ∧ Refused done' region error from hsuff [] Accepted.nil
  induction regions with
  | nil =>
    intro done h
    exact Or.inl (by simpa using h)
  | cons region regions ih =>
    intro done h
    rcases h.concat_or_refused region with hnext | ⟨error, hrefused⟩
    · simpa using ih (done ++ [region]) hnext
    · exact Or.inr ⟨done, region, regions, error, rfl, h, hrefused⟩

/-! ## Entering regions -/

/-- A place is free as long as no region of its name was accepted. -/
theorem Accepted.find?_eq_none_iff {done : List Region} (h : Accepted done) (name : String) :
    (done.filterMap Region.tag?).find? (fun tag => tag.name = name) = none ↔
      ∀ earlier ∈ done, earlier.name ≠ name := by
  simp only [List.find?_eq_none, List.mem_filterMap, decide_eq_true_eq]
  constructor
  · intro hnone earlier hearlier
    obtain ⟨contents, hc⟩ := h.readable earlier hearlier
    exact hnone (earlier.tag contents) ⟨earlier, hearlier, Region.tag?_of_ok hc⟩
  · rintro hfree tag ⟨earlier, hearlier, htag⟩
    obtain ⟨contents, hc⟩ := h.readable earlier hearlier
    rw [Region.tag?_of_ok hc] at htag
    cases htag
    exact hfree earlier hearlier

theorem Component.add_eq_error {component : Component} {tag : Tag} {error : CompileError}
    (h : ((component.add tag).map fun _ => ()) = .error error) :
    component.add tag = .error error := by
  cases hadd : component.add tag with
  | ok next => rw [hadd] at h; cases h
  | error e => rw [hadd] at h; cases h; rfl

/-- A region that cannot follow others is answered with the reason. -/
theorem Refused.addRegion_eq {done : List Region} {region : Region} {error : CompileError}
    (h : Refused done region error) (hdone : Accepted done) :
    (Component.ofRegions done).addRegion region = .error error := by
  cases h with
  | unreadable hc => exact Component.addRegion_of_error hc _
  | @duplicate contents hc hname hearlier =>
    obtain ⟨earlier, hmem, hsame⟩ := hearlier
    have htaken {name : String} (hn : region.name = name) :
        (done.filterMap Region.tag?).find? (fun tag => tag.name = name) ≠ none := by
      intro hfree
      exact (hdone.find?_eq_none_iff name).1 hfree earlier hmem (hsame.trans hn)
    have hjudged := (Component.added_add (.ofRegions done) (region.tag contents)).judged
    rw [Component.addRegion_of_ok hc]
    refine Component.add_eq_error (hjudged.duplicate.2 ?_)
    simp only [List.mem_cons, List.not_mem_nil, or_false] at hname
    rcases hname with hn | hn
    · exact Or.inl ⟨hn, htaken hn⟩
    · exact Or.inr ⟨hn, htaken hn⟩
  | @unrecognized contents hc hname =>
    have hjudged := (Component.added_add (.ofRegions done) (region.tag contents)).judged
    rw [Component.addRegion_of_ok hc]
    exact Component.add_eq_error (hjudged.unrecognized.2 hname)

/-- A region that can follow others is entered behind them. -/
theorem Accepted.addRegion_eq {done : List Region} {region : Region}
    (h : Accepted (done ++ [region])) :
    (Component.ofRegions done).addRegion region = .ok (.ofRegions (done ++ [region])) := by
  obtain ⟨contents, hc⟩ := h.readable region (by simp)
  have hadded := Component.added_add (.ofRegions done) (region.tag contents)
  have hfree {name : String} (hn : region.name = name) (hstyle : name ≠ "style") :
      (done.filterMap Region.tag?).find? (fun tag => tag.name = name) = none := by
    refine (h.left.find?_eq_none_iff name).2 ?_
    intro earlier hmem hsame
    have hpair := (List.pairwise_append.1 h.single).2.2 earlier hmem region (by simp)
    exact hstyle (hn.symm.trans (hpair (hsame.trans hn.symm)))
  have hok : ((Component.ofRegions done).add (region.tag contents)).map (fun _ => ()) = .ok () := by
    refine hadded.judged.accepted.2 ?_
    have hknown := h.known region (by simp)
    simp only [List.mem_cons, List.not_mem_nil, or_false] at hknown
    rcases hknown with hn | hn | hn
    · exact Or.inr (Or.inl ⟨hn, hfree hn (by decide)⟩)
    · exact Or.inr (Or.inr ⟨hn, hfree hn (by decide)⟩)
    · exact Or.inl hn
  rw [Component.addRegion_of_ok hc, Component.ofRegions_concat hc, Component.ofTags_concat hadded]
  cases hadd : (Component.ofRegions done).add (region.tag contents) with
  | ok next => rfl
  | error error => rw [hadd] at hok; cases hok

theorem Component.addRegions_append (component : Component) (done rest : List Region) :
    component.addRegions (done ++ rest) =
      (component.addRegions done).bind fun next => next.addRegions rest :=
  List.foldlM_append

theorem Component.addRegions_cons (component : Component) (region : Region) (rest : List Region) :
    component.addRegions (region :: rest) =
      (component.addRegion region).bind fun next => next.addRegions rest :=
  List.foldlM_cons

/-- Accepted regions make up the component of their tags. -/
theorem Accepted.addRegions_eq {regions : List Region} (h : Accepted regions) :
    Component.addRegions { } regions = .ok (.ofRegions regions) := by
  induction regions using List.reverseRecOn with
  | nil => rfl
  | append_singleton done region ih =>
    rw [Component.addRegions_append, ih h.left, Except.bind, Component.addRegions_cons,
      h.addRegion_eq]
    rfl

/-- The first region that is refused ends the reading, whatever follows it. -/
theorem Refused.addRegions_eq {done : List Region} {region : Region} {error : CompileError}
    (h : Refused done region error) (hdone : Accepted done) (rest : List Region) :
    Component.addRegions { } (done ++ region :: rest) = .error error := by
  rw [Component.addRegions_append, hdone.addRegions_eq, Except.bind, Component.addRegions_cons,
    h.addRegion_eq hdone]
  rfl

end ComponentFile
