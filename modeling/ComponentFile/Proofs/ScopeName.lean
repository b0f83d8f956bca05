import ComponentFile.Proofs.Pipeline
import ComponentFile.Proofs.RuleTraversal
import ComponentFile.Proofs.ScopedOpenTag
import Mathlib

/-!
# One name for a template and its styles

The tags of a template and the selectors of its scoped styles meet in one name, the scope hash.
They get it in different ways: the template as text that is escaped, the styles as a condition that
has the name twice, once in lower case, and is printed as an identifier.  It has to come out the
same.

**The name.**  A digest is written with 64 digits (`length_hex`, `isHexDigit_of_mem_hex`), so the
hash of a document's own text is one of `IsScopeHash`.  These are left alone by all that happens to
them on the way: `toLower_eq`, `escape_eq`, `writeIdentifier_eq`.

**The template.**  `exists_tags` finds the tags that a template is cut at, and the name stands at
the end of each of them (`namesTags_scope`).

**The styles.**  `Selector.OneMore` says that a selector got one more condition, and scoping gives
one to every selector that it reaches (`oneMore_scope`).  `Splices` says of a text which depends on
a name that it is fixed texts with the condition on the name between them, so many times.  The texts
of selectors and of rules are put together from such texts, and so scoped sheets are printed in this
way (`splices_scope`).

**`scopeHash_binds`** puts the two sides together: `Metadata.Binds` says where the name stands, up
to the calls and the module of a whole compilation.
-/

namespace ComponentFile

/-! ## The name -/

namespace Digest

theorem isHexDigit_hexDigit {n : Nat} (h : n < 16) : isHexDigit (hexDigit n) = true := by
  have hall : ∀ digit : Fin 16, isHexDigit (hexDigit digit) = true := by decide
  exact hall ⟨n, h⟩

theorem length_hexDigits (n value : Nat) : (hexDigits n value).length = n := by
  induction n with
  | zero => rfl
  | succ n ih => exact congrArg Nat.succ ih

theorem isHexDigit_of_mem_hexDigits {n value : Nat} {c : Char} (h : c ∈ hexDigits n value) :
    isHexDigit c = true := by
  induction n with
  | zero => cases h
  | succ n ih =>
    rcases List.mem_cons.1 h with rfl | h
    · exact isHexDigit_hexDigit (Nat.mod_lt _ (by decide))
    · exact ih h

theorem toList_hex (digest : Digest) :
    digest.hex.toList = digest.toList.flatMap fun word => hexDigits 8 word.toNat :=
  String.toList_ofList

theorem length_hex (digest : Digest) : digest.hex.toList.length = 64 := by
  simp [toList_hex, toList, length_hexDigits]

theorem isHexDigit_of_mem_hex {digest : Digest} {c : Char} (h : c ∈ digest.hex.toList) :
    isHexDigit c = true := by
  rw [toList_hex] at h
  obtain ⟨word, -, hc⟩ := List.mem_flatMap.1 h
  exact isHexDigit_of_mem_hexDigits hc

end Digest

theorem toList_scopeHash (metadata : Metadata) :
    metadata.scopeHash.toList = "__v".toList ++ metadata.sourceHash.toList := String.toList_append

theorem isScopeHash_ofSource (path : String) (packageName : Option String) (source : String) :
    IsScopeHash (Metadata.ofSource path packageName source).scopeHash.toList :=
  ⟨_, toList_scopeHash _, fun _ => Digest.isHexDigit_of_mem_hex⟩

namespace IsScopeHash

theorem toLower_eq {hash : String} (h : IsScopeHash hash.toList) : hash.toLower = hash := by
  rw [String.toLower, ← String.toList_inj, String.toList_map, h.map_toLower]

theorem escape_eq {hash : List Char} (h : IsScopeHash hash) : Template.escape hash = hash := by
  have hne {c : Char} (hc : ComponentFile.isNameChar c = false) : c ∉ hash := by
    intro hmem
    rw [h.isNameChar c hmem] at hc
    cases hc
  exact Template.escape_eq_self (hne (by decide)) (hne (by decide)) (hne (by decide))

theorem writeIdentifier_eq {hash : String} (h : IsScopeHash hash.toList) :
    Style.writeIdentifier hash = hash := by
  obtain ⟨digits, hhash, hdigits⟩ := h
  have hplain : ∀ c ∈ digits, Style.escapeInName c = [c] := by
    intro c hc
    have htag := isTagChar_of_isHexDigit (hdigits c hc)
    simp only [isTagChar, Bool.or_eq_true] at htag
    have hname : Style.isPlainInName c = true := by
      rcases htag with htag | htag
      · simp [Style.isPlainInName, htag]
      · simp [Style.isPlainInName, htag]
    rw [Style.escapeInName, if_pos hname]
  rw [Style.writeIdentifier, ← String.toList_inj, String.toList_ofList, hhash]
  calc Style.identifierChars ('_' :: '_' :: 'v' :: digits)
      = '_' :: '_' :: 'v' :: digits.flatMap Style.escapeInName := rfl
    _ = '_' :: '_' :: 'v' :: digits := by
      rw [List.flatMap_congr hplain, List.flatMap_singleton']

end IsScopeHash

/-! ## The template -/

namespace Template

/-- A template cut at tags, each with the text in front of it, where the hash belongs; behind them
comes the last text. -/
def Pieces.ofRuns : List (List Char × TemplateTag) → (last : List Char) → Pieces
  | [], last => ⟨last, []⟩
  | (before, tag) :: runs, last =>
    let rest := (ofRuns runs last).prepend tag.close
    ⟨before ++ tag.head, rest.first :: rest.others⟩

theorem Pieces.join_ofRuns (insertion : List Char) (runs : List (List Char × TemplateTag))
    (last : List Char) :
    (ofRuns runs last).join insertion =
      (runs.flatMap fun run => run.1 ++ run.2.head ++ insertion ++ run.2.close) ++ last := by
  induction runs with
  | nil => simp [ofRuns, join]
  | cons run runs ih =>
    rw [List.flatMap_cons, List.append_assoc, ← ih]
    simp [ofRuns, join, prepend]

/-- The tags that a template is cut at. -/
theorem exists_tags (text : List Char) :
    ∃ (runs : List (List Char × InnerTag)) (last : List Char), (∀ run ∈ runs, run.2.Plain) ∧
      text = (runs.flatMap fun run => run.1 ++ run.2.chars) ++ last ∧
      cut text = .ofRuns (runs.map fun run => (run.1, run.2.cut)) last := by
  fun_induction cut text with
  | case1 text => exact ⟨[], text, by simp, rfl, rfl⟩
  | case2 text before tag after h rest ih =>
    obtain ⟨runs, last, hplain, hafter, hcut⟩ := ih
    obtain ⟨here, rfl, hread⟩ := read_of_findFirst? h
    obtain ⟨inner, hinner, rfl, rfl⟩ := TemplateTag.read_eq_some_iff.1 hread
    refine ⟨(before, inner) :: runs, last, List.forall_mem_cons.2 ⟨hinner, hplain⟩, ?_, ?_⟩
    · rw [List.flatMap_cons, List.append_assoc, List.append_assoc, ← hafter]
    · rw [List.map_cons, Pieces.ofRuns, ← hcut]

/-- A literal is that of a template with a name at the end of every tag that the template is cut at,
behind a blank; the name stands there as it is, and the rest is escaped. -/
def NamesTags (name template literal : String) : Prop :=
  ∃ (runs : List (List Char × InnerTag)) (last : List Char), (∀ run ∈ runs, run.2.Plain) ∧
    template.toList = (runs.flatMap fun run => run.1 ++ run.2.chars) ++ last ∧
    cut template.toList = .ofRuns (runs.map fun run => (run.1, run.2.cut)) last ∧
    literal.toList = (runs.flatMap fun run =>
      escape (run.1 ++ run.2.cut.head) ++ ' ' :: name.toList ++ run.2.close) ++ escape last

theorem namesTags_scope {hash : String} (hhash : IsScopeHash hash.toList) (template : String) :
    NamesTags hash template (scope template hash) := by
  obtain ⟨runs, last, hplain, htext, hcut⟩ := exists_tags template.toList
  refine ⟨runs, last, hplain, htext, hcut, ?_⟩
  have hclose (tag : InnerTag) : escape tag.close = tag.close := by
    unfold InnerTag.close
    split <;> rfl
  have hname : escape (' ' :: hash.toList) = ' ' :: hash.toList := by
    rw [← List.singleton_append, escape_append, hhash.escape_eq]
    rfl
  rw [scope, String.toList_ofList, hcut, Pieces.join_ofRuns, escape_append, List.flatMap_map]
  congr 1
  rw [escape, List.flatMap_assoc]
  congr 1
  funext run
  dsimp only
  rw [← escape, escape_append, escape_append, InnerTag.cut, hclose, hname]

end Template

namespace Style

/-! ## Selectors with one more condition -/

/-- The second selector is the first one with a condition put into one of its compounds. -/
inductive Selector.OneMore (condition : Simple) : Selector → Selector → Prop where
  | compound (front back : List Simple) :
      OneMore condition (.compound (front ++ back)) (.compound (front ++ condition :: back))
  | joined (left : Selector) (combinator : Combinator) (front back : List Simple) :
      OneMore condition (.joined left combinator (front ++ back))
        (.joined left combinator (front ++ condition :: back))
  | further {left left' : Selector} (combinator : Combinator) (parts : List Simple)
      (h : OneMore condition left left') :
      OneMore condition (.joined left combinator parts) (.joined left' combinator parts)

/-- A scoped selector has one more condition, that its element carries the hash. -/
theorem Selector.oneMore_scope (hash : String) (selector : Selector) :
    OneMore (.carries hash) selector (selector.scope hash) := by
  fun_induction Selector.scope hash selector with
  | case1 parts =>
    obtain ⟨front, back, rfl, hinsert, -⟩ := exists_insertCondition parts
    rw [hinsert]
    exact .compound front back
  | case2 left combinator parts hidden ih => exact .further combinator parts ih
  | case3 left combinator parts visible =>
    obtain ⟨front, back, rfl, hinsert, -⟩ := exists_insertCondition parts
    rw [hinsert]
    exact .joined left combinator front back

mutual

/-- The number of selectors that scoping reaches in a rule. -/
def Rule.scopeCount : Rule → Nat
  | .style selectors _ _ => selectors.length
  | .group _ rules => scopeCount rules
  | _ => 0

/-- The number of selectors that scoping reaches in some rules. -/
def scopeCount : List Rule → Nat
  | [] => 0
  | rule :: rest => rule.scopeCount + scopeCount rest

end

/-! ## Printing -/

/-- A text that depends on a name is fixed texts with the condition on the name between them, so
many times. -/
def Splices (count : Nat) (text : String → String) : Prop :=
  ∃ parts : List (Option String), parts.count none = count ∧
    ∀ name, text name =
      String.join (parts.map fun part => part.getD ("[" ++ writeIdentifier name ++ "]"))

namespace Splices

variable {count count' : Nat} {text text' : String → String}

theorem const (text : String) : Splices 0 fun _ => text :=
  ⟨[some text], by simp, fun _ => by simp⟩

theorem append (h : Splices count text) (h' : Splices count' text') :
    Splices (count + count') fun name => text name ++ text' name := by
  obtain ⟨parts, hcount, htext⟩ := h
  obtain ⟨parts', hcount', htext'⟩ := h'
  refine ⟨parts ++ parts', by rw [List.count_append, hcount, hcount'], fun name => ?_⟩
  dsimp only
  rw [List.map_append, String.join_append, htext, htext']

/-- A fixed text in front. -/
theorem before (fixed : String) (h : Splices count text) :
    Splices count fun name => fixed ++ text name := by
  simpa using (const fixed).append h

/-- A fixed text behind. -/
theorem after (h : Splices count text) (fixed : String) :
    Splices count fun name => text name ++ fixed := by
  simpa using h.append (const fixed)

theorem block (h : Splices count text) (layout : Layout) (depth : Nat) :
    Splices count fun name => layout.block depth (text name) :=
  ((h.before _).after _).after _

theorem carries (layout : Layout) : Splices 1 fun name => (Simple.carries name).render layout :=
  ⟨[none], by simp, fun name => by
    simp [Simple.carries, Simple.render, AttributeTest.render, NamePrefix.render,
      AttributeName.of]⟩

end Splices

theorem renderParts_append (layout : Layout) (withUniversal : Bool) (front back : List Simple) :
    renderParts layout withUniversal (front ++ back) =
      renderParts layout withUniversal front ++ renderParts layout withUniversal back := by
  induction front with
  | nil => simp [renderParts]
  | cons part front ih => cases part <;> simp [renderParts, ih, String.append_assoc]

/-- Whether `*` is written does not depend on which attributes there are conditions on. -/
theorem keepsUniversal_attr (isFirst : Bool) (next : Option Combinator) (front back : List Simple)
    (test test' : AttributeTest) :
    keepsUniversal isFirst next (front ++ .attr test :: back) =
      keepsUniversal isFirst next (front ++ .attr test' :: back) := by
  unfold keepsUniversal
  -- the first two parts are looked at, and whether there is a third one
  rcases front with _ | ⟨first, _ | ⟨second, _ | ⟨third, front⟩⟩⟩
  · cases isFirst <;> rfl
  · cases isFirst <;> cases first <;> rfl
  all_goals cases isFirst <;> cases first <;> first | rfl | (cases second <;> rfl)

/-- The compound that gets the condition. -/
theorem splices_insertCondition (layout : Layout) (isFirst : Bool) (next : Option Combinator)
    (parts : List Simple) :
    Splices 1 fun name =>
      renderParts layout (keepsUniversal isFirst next (insertCondition (.carries name) parts))
        (insertCondition (.carries name) parts) := by
  obtain ⟨front, back, -, hinsert, -⟩ := exists_insertCondition parts
  let withUniversal := keepsUniversal isFirst next (front ++ .carries "" :: back)
  have hkeeps (name : String) :
      keepsUniversal isFirst next (front ++ .carries name :: back) = withUniversal :=
    keepsUniversal_attr isFirst next front back _ _
  have hparts (name : String) : renderParts layout withUniversal (.carries name :: back) =
      (Simple.carries name).render layout ++ renderParts layout withUniversal back := by
    rw [Simple.carries, renderParts]
    simp
  simp only [hinsert, hkeeps, renderParts_append, hparts]
  exact ((Splices.carries layout).after _).before _

/-- A scoped selector has the condition once. -/
theorem splices_selector (layout : Layout) : (next : Option Combinator) → (selector : Selector) →
    Splices 1 fun name => (selector.scope name).render layout false next
  | next, .compound parts => by
    simpa [Selector.scope, Selector.render] using splices_insertCondition layout true next parts
  | next, .joined left combinator parts => by
    cases hidden : combinator.isHidden with
    | true =>
      simp only [Selector.scope, hidden, if_true, Selector.render, String.append_assoc]
      exact (splices_selector layout (some combinator) left).after _
    | false =>
      simp only [Selector.scope, hidden, Bool.false_eq_true, if_false, Selector.render]
      exact (splices_insertCondition layout false next parts).before _

theorem splices_selectors (layout : Layout) (selectors : List Selector) :
    Splices selectors.length fun name =>
      renderSelectors layout false (selectors.map (Selector.scope name)) := by
  induction selectors with
  | nil => exact .const ""
  | cons selector rest ih =>
    have hselector := splices_selector layout none selector
    cases rest with
    | nil => simpa [renderSelectors] using hselector
    | cons next rest =>
      rw [List.length_cons, Nat.add_comm]
      simpa [renderSelectors] using (hselector.after layout.comma).append ih

/-- What stands between rules is the same for scoped rules. -/
theorem ruleGap_scope (layout : Layout) (depth : Nat) (name : String) (rule next : Rule) :
    ruleGap layout depth (rule.scope name) (next.scope name) = ruleGap layout depth rule next := by
  have hstatement (rule : Rule) : (rule.scope name).isStatement = rule.isStatement := by
    cases rule <;> rfl
  unfold ruleGap
  rw [hstatement, hstatement]
  cases rule <;> cases layout <;> rfl

theorem splices_rules_of_forall {layout : Layout} {rules : List Rule}
    (h : ∀ rule ∈ rules, ∀ depth,
      Splices rule.scopeCount fun name => (rule.scope name).render layout depth) (depth : Nat) :
    Splices (scopeCount rules) fun name => renderRules layout depth (scopeRules name rules) := by
  induction rules with
  | nil => exact .const ""
  | cons rule rest ih =>
    obtain ⟨hrule, hrest⟩ := List.forall_mem_cons.1 h
    cases rest with
    | nil => simpa [scopeCount, scopeRules, renderRules] using hrule depth
    | cons next rest =>
      have hgap := (hrule depth).after (ruleGap layout depth rule next)
      simpa [scopeCount, scopeRules, renderRules, ruleGap_scope] using hgap.append (ih hrest)

/-- A style rule is its selectors and a block. -/
theorem exists_render_style (layout : Layout) (depth : Nat) (body : Declarations)
    (rules : List Rule) :
    ∃ block, ∀ selectors, (Rule.style selectors body rules).render layout depth =
      renderSelectors layout false selectors ++ block :=
  ⟨_, fun _ => rfl⟩

theorem render_group (layout : Layout) (depth : Nat) (head : GroupHead) (rules : List Rule) :
    (Rule.group head rules).render layout depth =
      if layout = .minified ∧ head.isTrivial then renderRules layout depth rules
      else
        head.render layout ++
          layout.block depth (layout.line (depth + 1) ++ renderRules layout (depth + 1) rules) :=
  rfl

theorem splices_rule (layout : Layout) (rule : Rule) : ∀ depth,
    Splices rule.scopeCount fun name => (rule.scope name).render layout depth := by
  induction rule using Rule.inner_induction with
  | step rule ih =>
    intro depth
    cases rule with
    | style selectors body rules =>
      obtain ⟨block, hblock⟩ := exists_render_style layout depth body rules
      simp only [Rule.scope, hblock]
      exact (splices_selectors layout selectors).after block
    | group head rules =>
      have hrules := splices_rules_of_forall ih
      simp only [Rule.scope, render_group]
      split
      · exact hrules depth
      · exact (((hrules (depth + 1)).before _).block layout depth).before _
    | _ =>
      simp only [Rule.scope]
      exact .const _

/-- **Scoped sheets are printed with one name.**  Their text is fixed, but for the condition on the
hash, which it has as often as there are selectors that scoping reaches. -/
theorem splices_scope (layout : Layout) (sheet : Stylesheet) :
    Splices (scopeCount sheet.rules) fun name => (sheet.scope name).render layout := by
  have hrules : Splices (scopeCount sheet.rules) fun name =>
      renderRules layout 0 (scopeRules name sheet.rules) :=
    splices_rules_of_forall (fun rule _ => splices_rule layout rule) 0
  simp only [Stylesheet.render, Stylesheet.scope]
  exact (hrules.before _).after _

end Style

/-! ## Both sides -/

open Style

/-- The scope hash of a document is one and the same name wherever it is written. -/
structure Metadata.Binds (metadata : Metadata) : Prop where
  digits : ∃ digits : List Char, metadata.scopeHash.toList = "__v".toList ++ digits ∧
    digits.length = 64 ∧ ∀ c ∈ digits, isHexDigit c = true
  toLower : metadata.scopeHash.toLower = metadata.scopeHash
  escape : Template.escape metadata.scopeHash.toList = metadata.scopeHash.toList
  identifier : writeIdentifier metadata.scopeHash = metadata.scopeHash
  /-- It is the name that is put into the tags of the template. -/
  template : ∀ (component : Component) (tag : Tag), component.template = some tag →
    ∃ literal, component.templateLiteral metadata = some literal ∧
      Template.NamesTags metadata.scopeHash tag.contents literal
  /-- It is both names, the one as written and the lowered one, in the condition that a selector
  gets. -/
  condition : ∀ selector : Selector,
    selector.OneMore (.attr { name := ⟨metadata.scopeHash, metadata.scopeHash⟩ })
      (selector.scope metadata.scopeHash)
  /-- A scoped style goes through the one step that scopes its rules with it. -/
  step : ∀ (tag : Tag) (engine : StyleEngine), (StyleFlags.ofTag tag).isScoped = true →
    (compileStyle tag metadata.scopeHash metadata.path engine).calls =
      [.style [scopePlugin metadata.scopeHash] tag.contents (styleOptions metadata.path)]
  /-- Whatever is compiled, no sheet goes through other steps. -/
  steps : ∀ (component : Component) (settings : CompileSettings) (engines : Engines)
    (plugins : List StylePlugin) (css : String) (options : StyleOptions),
    .style plugins css options ∈ (component.compile ⟨metadata, settings, engines⟩).calls →
      ∃ tag ∈ component.styles, css = tag.contents ∧
        plugins = if (StyleFlags.ofTag tag).isScoped then [scopePlugin metadata.scopeHash] else []
  /-- What is compiled without an error has all its scoped styles sent through that step, and a
  module with its template, in whose tags the name is. -/
  compiled : ∀ (component : Component) (settings : CompileSettings) (engines : Engines)
    (output : CompileOutput),
    (component.compile ⟨metadata, settings, engines⟩).outcome = .ok output →
      (∀ tag ∈ component.styles, (StyleFlags.ofTag tag).isScoped = true →
        .style [scopePlugin metadata.scopeHash] tag.contents (styleOptions metadata.path) ∈
          (component.compile ⟨metadata, settings, engines⟩).calls) ∧
      ∀ tag, component.template = some tag →
        ∃ code literal, output.code = moduleText code (some literal) ∧
          Template.NamesTags metadata.scopeHash tag.contents literal
  /-- That step changes the selectors it reaches and no others, and prints the sheet with it between
  brackets, as often as there are such selectors; with another name it would print the same but for
  what stands between these brackets. -/
  printed : ∀ css sheet, Stylesheet.parse css = .ok sheet →
    (sheet.scope metadata.scopeHash).rules =
      mapStyleRules (.scope metadata.scopeHash) sheet.rules ∧
    ∃ parts : List (Option String), parts.count none = scopeCount sheet.rules ∧
      (scopePlugin metadata.scopeHash).transform css =
        .ok (String.join (parts.map (·.getD ("[" ++ metadata.scopeHash ++ "]")))) ∧
      ∀ name, (scopePlugin name).transform css =
        .ok (String.join (parts.map (·.getD ("[" ++ writeIdentifier name ++ "]"))))

/-- **One name for a template and its styles.**  The scope hash of a document that is named by its
own text is `__v` and 64 hexadecimal digits in lower case, so it is left as it is by lowering, by
escaping and by writing it as an identifier.  It is hence the same name that stands in the tags of
the template's literal, that is both the name and the lowered name of the condition which scoping
adds to a selector, and that is printed between the brackets wherever a scoped style has that
condition; and every compilation has that literal in its module and sends its scoped styles, and no
others, through the step that adds the condition. -/
theorem scopeHash_binds (path : String) (packageName : Option String) (source : String) :
    (Metadata.ofSource path packageName source).Binds := by
  generalize hmetadata : Metadata.ofSource path packageName source = metadata
  have hhash : IsScopeHash metadata.scopeHash.toList := by
    rw [← hmetadata]
    exact isScopeHash_ofSource path packageName source
  have htemplate (component : Component) (tag : Tag) (h : component.template = some tag) :
      ∃ literal, component.templateLiteral metadata = some literal ∧
        Template.NamesTags metadata.scopeHash tag.contents literal := by
    refine ⟨Template.scope tag.contents metadata.scopeHash, ?_,
      Template.namesTags_scope hhash tag.contents⟩
    rw [Component.templateLiteral, h, Option.map_some]
  refine ⟨?_, hhash.toLower_eq, hhash.escape_eq, hhash.writeIdentifier_eq, htemplate, ?_, ?_, ?_,
    ?_, ?_⟩
  · rw [← hmetadata]
    exact ⟨_, toList_scopeHash _, Digest.length_hex _, fun _ => Digest.isHexDigit_of_mem_hex⟩
  · intro selector
    have hcondition := selector.oneMore_scope metadata.scopeHash
    rwa [Simple.carries, AttributeName.of, hhash.toLower_eq] at hcondition
  · intro tag engine hscoped
    rw [compileStyle, Traced.callStyle, pluginChain, if_pos hscoped]
  · intro component settings engines plugins css options hcall
    obtain ⟨tag, hmem, heq⟩ := Component.exists_styleCall_of_mem hcall
    obtain ⟨rfl, rfl, rfl⟩ := EngineCall.style.inj heq
    exact ⟨tag, hmem, rfl, rfl⟩
  · intro component settings engines output hok
    rcases component.compile_ok_or_error ⟨metadata, settings, engines⟩ with
      ⟨script, styles, heq⟩ | ⟨calls, error, -, heq⟩
    · rw [heq] at hok
      cases hok
      refine ⟨fun tag hmem hscoped => ?_, fun tag h => ?_⟩
      · rw [heq]
        refine List.mem_append_right _ (List.mem_map.2 ⟨tag, hmem, ?_⟩)
        rw [Context.styleCall, pluginChain, if_pos hscoped]
      · obtain ⟨literal, hliteral, hnames⟩ := htemplate component tag h
        exact ⟨_, literal, by rw [hliteral], hnames⟩
    · rw [heq] at hok
      cases hok
  · intro css sheet hsheet
    obtain ⟨parts, hcount, htext⟩ := splices_scope .minified sheet
    have htransform (name : String) : (scopePlugin name).transform css =
        .ok (String.join (parts.map (·.getD ("[" ++ writeIdentifier name ++ "]")))) := by
      rw [scopePlugin, ← htext]
      dsimp only
      rw [scopeSelectors, hsheet]
    refine ⟨scopeRules_eq_mapStyleRules _ sheet.rules, parts, hcount, ?_, htransform⟩
    have hhere := htransform metadata.scopeHash
    rwa [hhash.writeIdentifier_eq] at hhere

/-- A template with one tag, and a scoped style with one selector. -/
theorem scopeHash_binds_oneSelector :
    let source := "<template><p></template><style scoped>.a\x7b\x7d</style>"
    let metadata := Metadata.ofSource "a.vue" none source
    ∃ (component : Component) (style : Tag) (sheet : Stylesheet),
      component.templateLiteral metadata = some ("<p " ++ metadata.scopeHash ++ ">") ∧
      Template.NamesTags metadata.scopeHash "<p>" ("<p " ++ metadata.scopeHash ++ ">") ∧
      style ∈ component.styles ∧ (StyleFlags.ofTag style).isScoped = true ∧
      Stylesheet.parse style.contents = .ok sheet ∧
      ∃ parts : List (Option String), parts.count none = 1 ∧
        (scopePlugin metadata.scopeHash).transform style.contents =
          .ok (String.join (parts.map (·.getD ("[" ++ metadata.scopeHash ++ "]")))) := by
  intro source metadata
  let template : Tag := ⟨"template", "<p>", .empty, 0, 10⟩
  let style : Tag := ⟨"style", ".a\x7b\x7d", Attributes.empty.insert "scoped" .flag, 24, 38⟩
  let component : Component := ⟨some template, none, [style]⟩
  have hscoped : (StyleFlags.ofTag style).isScoped = true := by decide
  have hparse : Stylesheet.parse style.contents =
      .ok ⟨[], [.style [.compound [.ofClass "a"]] { } []]⟩ := by
    cbv
  have hcut : Template.cut "<p>".toList = ⟨['<', 'p'], [['>']]⟩ := by decide +kernel
  have hbinds : metadata.Binds := scopeHash_binds "a.vue" none source
  have hscope : Template.scope "<p>" metadata.scopeHash = "<p " ++ metadata.scopeHash ++ ">" := by
    have hjoin : (Template.cut "<p>".toList).join (' ' :: metadata.scopeHash.toList) =
        "<p ".toList ++ metadata.scopeHash.toList ++ ">".toList := by
      rw [hcut]
      simp [Template.Pieces.join]
    rw [Template.scope, hjoin, Template.escape_append, Template.escape_append, hbinds.escape,
      ← String.toList_inj, String.toList_ofList, String.toList_append, String.toList_append]
    rfl
  obtain ⟨literal, hliteral, hnames⟩ := hbinds.template component template rfl
  obtain rfl : literal = "<p " ++ metadata.scopeHash ++ ">" :=
    (Option.some.inj hliteral).symm.trans hscope
  obtain ⟨-, parts, hcount, htransform, -⟩ := hbinds.printed _ _ hparse
  exact ⟨component, style, _, hliteral, hnames, List.mem_singleton_self _, hscoped, hparse, parts,
    hcount, htransform⟩

end ComponentFile
