import ComponentFile.Compilation
import ComponentFile.Proofs.Classification
import Mathlib

/-!
# The course of a compilation

A compilation goes through five phases, and each can end it: scanning, classifying the regions, the
script, the styles, and the result.  What comes out, and which engine calls were made until then, is
decided by the phase that it got to.

**The courses.**  `Course` has one constructor for each way through.  The premises of each say what
went well before, in terms of the regions of the document and of what the engines answer; the trace
and the result are written out.

**The phases.**  Each is settled once for success and once for failure.

* `Accepted.addRegions_eq`, `Refused.addRegions_eq` — the regions.
* `assembleModule_of_ok`, `assembleModule_of_error` — the script.
* `compileStyles_of_ok`, `compileStyles_of_error` — the styles, by induction on those that succeed.

**`compileSource_eq_iff_course`**: a compilation takes one of the courses, and no other outcome or
trace is possible.
-/

namespace ComponentFile

/-! ## What the engines are asked -/

namespace Context

variable (context : Context)

/-- The call that compiles a script. -/
def scriptCall (tag : Tag) : EngineCall :=
  .script (rewriteDefaultExport tag.contents)
    (scriptSettings context.settings.script context.metadata tag)

/-- What the script engine answers to it. -/
def scriptResult (tag : Tag) : Except TransformError ScriptOutput :=
  context.engines.script (rewriteDefaultExport tag.contents)
    (scriptSettings context.settings.script context.metadata tag)

/-- The call that compiles a style. -/
def styleCall (tag : Tag) : EngineCall :=
  .style (pluginChain (StyleFlags.ofTag tag) context.metadata.scopeHash) tag.contents
    (styleOptions context.metadata.path)

/-- What the style engine answers to it. -/
def styleResult (tag : Tag) : Except TransformError StyleOutput :=
  context.engines.style (pluginChain (StyleFlags.ofTag tag) context.metadata.scopeHash) tag.contents
    (styleOptions context.metadata.path)

end Context

/-! ## The courses -/

/-- The component that a document is read as: that of its regions, all of them accepted. -/
def ReadsAs (source : String) (component : Component) : Prop :=
  ∃ regions, scan source = .ok regions ∧ Accepted regions ∧ component = .ofRegions regions

/-- The ways that a compilation can take, each with the engine calls made and the outcome. -/
inductive Course (source : String) (context : Context) : Traced CompileOutput → Prop
  /-- The document cannot be scanned. -/
  | unscanned {error : CompileError} : scan source = .error error →
      Course source context ⟨[], .error error⟩
  /-- A region is refused, the first one. -/
  | refused {done rest : List Region} {region : Region} {error : CompileError} :
      scan source = .ok (done ++ region :: rest) → Accepted done → Refused done region error →
      Course source context ⟨[], .error error⟩
  /-- There is a script, and its engine fails. -/
  | scriptFails {component : Component} {tag : Tag} {error : TransformError} :
      ReadsAs source component → component.script = some tag →
      context.scriptResult tag = .error error →
      Course source context ⟨[context.scriptCall tag], .error (.transform error)⟩
  /-- The script engine succeeds, if it is called, and the style engine fails for one style after
  having succeeded for those before. -/
  | styleFails {component : Component} {script : Option ScriptOutput} {done rest : List Tag}
      {tag : Tag} {styles : List StyleOutput} {error : TransformError} :
      ReadsAs source component →
      Option.Rel (fun tag output => context.scriptResult tag = .ok output) component.script script →
      component.styles = done ++ tag :: rest →
      List.Forall₂ (fun tag output => context.styleResult tag = .ok output) done styles →
      context.styleResult tag = .error error →
      Course source context
        ⟨component.script.toList.map context.scriptCall ++ (done ++ [tag]).map context.styleCall,
          .error (.transform error)⟩
  /-- Nothing fails. -/
  | compiled {component : Component} {script : Option ScriptOutput} {styles : List StyleOutput} :
      ReadsAs source component →
      Option.Rel (fun tag output => context.scriptResult tag = .ok output) component.script script →
      List.Forall₂ (fun tag output => context.styleResult tag = .ok output)
        component.styles styles →
      Course source context
        ⟨component.script.toList.map context.scriptCall ++ component.styles.map context.styleCall,
          .ok { code := moduleText (script.map ScriptOutput.code)
                  (component.templateLiteral context.metadata)
                map := script.bind ScriptOutput.map
                styles }⟩

/-! ## Traces -/

@[simp] theorem Traced.pure_eq {α : Type} (value : α) :
    (pure value : Traced α) = ⟨[], .ok value⟩ := rfl

@[simp] theorem Traced.bind_ok {α β : Type} (calls : List EngineCall) (value : α)
    (f : α → Traced β) :
    ((⟨calls, .ok value⟩ : Traced α) >>= f) = ⟨calls ++ (f value).calls, (f value).outcome⟩ := rfl

@[simp] theorem Traced.bind_error {α β : Type} (calls : List EngineCall) (error : CompileError)
    (f : α → Traced β) :
    ((⟨calls, .error error⟩ : Traced α) >>= f) = ⟨calls, .error error⟩ := rfl

@[simp] theorem Traced.lift_ok {α : Type} (value : α) :
    Traced.lift (.ok value) = .ok value := rfl

@[simp] theorem Traced.lift_error {α : Type} (error : TransformError) :
    Traced.lift (.error error : Except TransformError α) = .error (.transform error) := rfl

/-! ## The script -/

section

variable {context : Context}

theorem callScript_eq (tag : Tag) :
    Traced.callScript context.engines.script (rewriteDefaultExport tag.contents)
        (scriptSettings context.settings.script context.metadata tag) =
      ⟨[context.scriptCall tag], Traced.lift (context.scriptResult tag)⟩ := rfl

theorem assembleModule_of_ok {tag? : Option Tag} {script : Option ScriptOutput}
    (h : Option.Rel (fun tag output => context.scriptResult tag = .ok output) tag? script)
    (literal : Option String) :
    assembleModule tag? literal context.settings.script context.metadata context.engines.script =
      ⟨tag?.toList.map context.scriptCall,
        .ok ⟨moduleText (script.map ScriptOutput.code) literal, script.bind ScriptOutput.map⟩⟩ := by
  cases h with
  | none => rfl
  | some hscript => simp [assembleModule, callScript_eq, hscript]

theorem assembleModule_of_error {tag : Tag} {error : TransformError}
    (h : context.scriptResult tag = .error error) (literal : Option String) :
    assembleModule (some tag) literal context.settings.script context.metadata
        context.engines.script =
      ⟨[context.scriptCall tag], .error (.transform error)⟩ := by
  simp [assembleModule, callScript_eq, h]

theorem script_ok_or_error (context : Context) (tag? : Option Tag) :
    (∃ script, Option.Rel (fun tag output => context.scriptResult tag = .ok output) tag? script) ∨
      ∃ tag error, tag? = some tag ∧ context.scriptResult tag = .error error := by
  cases tag? with
  | none => exact Or.inl ⟨none, .none⟩
  | some tag =>
    cases h : context.scriptResult tag with
    | ok output => exact Or.inl ⟨some output, .some h⟩
    | error error => exact Or.inr ⟨tag, error, rfl, h⟩

/-! ## The styles -/

theorem compileStyle_eq (tag : Tag) :
    compileStyle tag context.metadata.scopeHash context.metadata.path context.engines.style =
      ⟨[context.styleCall tag], Traced.lift (context.styleResult tag)⟩ := rfl

theorem compileStyles_of_ok {tags : List Tag} {styles : List StyleOutput}
    (h : List.Forall₂ (fun tag output => context.styleResult tag = .ok output) tags styles) :
    Component.compileStyles context tags = ⟨tags.map context.styleCall, .ok styles⟩ := by
  induction h with
  | nil => rfl
  | cons hstyle _ ih => simp [Component.compileStyles, compileStyle_eq, hstyle, ih]

/-- The style that fails is the last to be asked for. -/
theorem compileStyles_of_error {done rest : List Tag} {tag : Tag} {styles : List StyleOutput}
    {error : TransformError}
    (h : List.Forall₂ (fun tag output => context.styleResult tag = .ok output) done styles)
    (herror : context.styleResult tag = .error error) :
    Component.compileStyles context (done ++ tag :: rest) =
      ⟨(done ++ [tag]).map context.styleCall, .error (.transform error)⟩ := by
  induction h with
  | nil => simp [Component.compileStyles, compileStyle_eq, herror]
  | cons hstyle _ ih => simp [Component.compileStyles, compileStyle_eq, hstyle, ih]

/-- Styles are all compiled, or there is a first one that fails. -/
theorem styles_ok_or_error (context : Context) (tags : List Tag) :
    (∃ styles, List.Forall₂ (fun tag output => context.styleResult tag = .ok output) tags styles) ∨
      ∃ done tag rest styles error, tags = done ++ tag :: rest ∧
        List.Forall₂ (fun tag output => context.styleResult tag = .ok output) done styles ∧
        context.styleResult tag = .error error := by
  induction tags with
  | nil => exact Or.inl ⟨[], .nil⟩
  | cons tag tags ih =>
    cases hstyle : context.styleResult tag with
    | error error => exact Or.inr ⟨[], tag, tags, [], error, rfl, .nil, hstyle⟩
    | ok output =>
      rcases ih with ⟨styles, hstyles⟩ | ⟨done, next, rest, styles, error, rfl, hdone, herror⟩
      · exact Or.inl ⟨output :: styles, .cons hstyle hstyles⟩
      · refine Or.inr ⟨tag :: done, next, rest, output :: styles, error, rfl, ?_, herror⟩
        exact .cons hstyle hdone

/-- A component is compiled with one call for its script and one for each of its styles, in this
order, or an engine fails and the later calls are not made. -/
theorem Component.compile_ok_or_error (component : Component) (context : Context) :
    (∃ (script : Option ScriptOutput) (styles : List StyleOutput), component.compile context =
      ⟨component.script.toList.map context.scriptCall ++ component.styles.map context.styleCall,
        .ok { code := moduleText (script.map ScriptOutput.code)
                (component.templateLiteral context.metadata)
              map := script.bind ScriptOutput.map
              styles }⟩) ∨
    ∃ calls error,
      calls <+: component.script.toList.map context.scriptCall ++
        component.styles.map context.styleCall ∧
      component.compile context = ⟨calls, .error error⟩ := by
  rcases script_ok_or_error context component.script with
    ⟨script, hscript⟩ | ⟨tag, error, hscript, herror⟩
  · rcases styles_ok_or_error context component.styles with
      ⟨styles, hstyles⟩ | ⟨done, tag, rest, styles, error, hsplit, hdone, herror⟩
    · refine Or.inl ⟨script, styles, ?_⟩
      rw [compile, assembleModule_of_ok hscript, compileStyles_of_ok hstyles]
      simp
    · refine Or.inr ⟨component.script.toList.map context.scriptCall ++
        (done ++ [tag]).map context.styleCall, .transform error, ?_, ?_⟩
      · have hdone : done ++ [tag] <+: component.styles := by
          rw [hsplit, List.append_cons done tag rest]
          exact List.prefix_append _ _
        exact (List.prefix_append_right_inj _).2 (hdone.map _)
      · rw [compile, assembleModule_of_ok hscript, hsplit, compileStyles_of_error hdone herror]
        simp
  · refine Or.inr ⟨[context.scriptCall tag], .transform error, ?_, ?_⟩
    · rw [hscript]
      exact List.prefix_append _ _
    · rw [compile, hscript, assembleModule_of_error herror]
      simp

/-- A style is asked for only where the component has one. -/
theorem Component.exists_styleCall_of_mem {component : Component} {plugins : List StylePlugin}
    {css : String} {options : StyleOptions}
    (h : .style plugins css options ∈ (component.compile context).calls) :
    ∃ tag ∈ component.styles, context.styleCall tag = .style plugins css options := by
  have hmem : .style plugins css options ∈ component.script.toList.map context.scriptCall ++
      component.styles.map context.styleCall := by
    rcases component.compile_ok_or_error context with
      ⟨script, styles, heq⟩ | ⟨calls, error, hcalls, heq⟩
    · rwa [heq] at h
    · rw [heq] at h
      exact hcalls.subset h
  rcases List.mem_append.1 hmem with hscript | hstyle
  · obtain ⟨tag, -, ⟨⟩⟩ := List.mem_map.1 hscript
  · exact List.mem_map.1 hstyle

end

/-! ## The whole compilation -/

theorem ReadsAs.readComponent_eq {source : String} {component : Component}
    (h : ReadsAs source component) : readComponent source = .ok component := by
  obtain ⟨regions, hscan, haccepted, rfl⟩ := h
  rw [readComponent, hscan]
  exact haccepted.addRegions_eq

theorem compileSource_of_ok {source : String} {component : Component}
    (h : readComponent source = .ok component) (context : Context) :
    compileSource source context = component.compile context := by
  rw [compileSource, h, Traced.ofExcept]
  simp

theorem compileSource_of_error {source : String} {error : CompileError}
    (h : readComponent source = .error error) (context : Context) :
    compileSource source context = ⟨[], .error error⟩ := by
  rw [compileSource, h, Traced.ofExcept]
  simp

/-- What a course says is what the compilation gives. -/
theorem Course.compileSource_eq {source : String} {context : Context}
    {traced : Traced CompileOutput} (h : Course source context traced) :
    compileSource source context = traced := by
  cases h with
  | unscanned hscan =>
    refine compileSource_of_error ?_ context
    rw [readComponent, hscan]
    rfl
  | refused hscan hdone hrefused =>
    refine compileSource_of_error ?_ context
    rw [readComponent, hscan]
    exact hrefused.addRegions_eq hdone _
  | scriptFails hreads hscript herror =>
    rw [compileSource_of_ok hreads.readComponent_eq, Component.compile, hscript,
      assembleModule_of_error herror]
    simp
  | styleFails hreads hscript hstyles hdone herror =>
    rw [compileSource_of_ok hreads.readComponent_eq, Component.compile,
      assembleModule_of_ok hscript, hstyles, compileStyles_of_error hdone herror]
    simp
  | compiled hreads hscript hstyles =>
    rw [compileSource_of_ok hreads.readComponent_eq, Component.compile,
      assembleModule_of_ok hscript, compileStyles_of_ok hstyles]
    simp

/-- Every compilation has a course. -/
theorem exists_course (source : String) (context : Context) :
    ∃ traced, Course source context traced := by
  cases hscan : scan source with
  | error error => exact ⟨_, .unscanned hscan⟩
  | ok regions =>
    rcases accepted_or_refused regions with
      haccepted | ⟨done, region, rest, error, rfl, hdone, hrefused⟩
    · have hreads : ReadsAs source (.ofRegions regions) := ⟨regions, hscan, haccepted, rfl⟩
      rcases script_ok_or_error context (Component.ofRegions regions).script with
        ⟨script, hscript⟩ | ⟨tag, error, hscript, herror⟩
      · rcases styles_ok_or_error context (Component.ofRegions regions).styles with
          ⟨styles, hstyles⟩ | ⟨done, tag, rest, styles, error, hsplit, hdone, herror⟩
        · exact ⟨_, .compiled hreads hscript hstyles⟩
        · exact ⟨_, .styleFails hreads hscript hsplit hdone herror⟩
      · exact ⟨_, .scriptFails hreads hscript herror⟩
    · exact ⟨_, .refused hscan hdone hrefused⟩

/-- **A compilation takes its course.**  Whatever a document, its metadata, settings and engines
are: the outcome and the engine calls made for it are those of a course, and there is only one. -/
theorem compileSource_eq_iff_course (source : String) (context : Context)
    (traced : Traced CompileOutput) :
    compileSource source context = traced ↔ Course source context traced := by
  constructor
  · rintro rfl
    obtain ⟨traced, hcourse⟩ := exists_course source context
    rw [hcourse.compileSource_eq]
    exact hcourse
  · exact Course.compileSource_eq

end ComponentFile
