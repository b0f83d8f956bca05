import ComponentFile.Proofs.SelectorMatching
import ComponentFile.Style.Scoping
import Mathlib

/-!
# Which elements a scoped stylesheet reaches

A scoped stylesheet is meant to apply to the elements of its own component only, which carry the
component's hash.  This module says how far that goes.

**Style rules.**  `HasLevels` finds the style rules of a sheet at any depth.  A style rule is given
by its levels: its own selectors, then those of the style rule around it, and so on to the outermost
one.  `Dom.Selects` is what it applies to, where `&` stands for what the level around selects.  The
heads of grouping rules are not looked at, so a rule applies to no more than is said here.

**What is scoped.**  `HasLevels.of_scopeRules` — the levels of a scoped sheet are those of the
sheet, except that the selectors of the outermost level are scoped.  The levels inside it are as
they were.

**What is isolated.**

* `Dom.carries_of_matches_scope` — the outermost level selects only what belongs to elements that
  carry the hash.
* `Dom.owner_of_matches_anchored` — a nested selector stays with the elements of the level around
  it if it is anchored, that is if `&` is a condition on its subject.
* **`carries_of_selects_scopeRules`** — so a style rule is isolated if all its nested selectors are
  anchored.  Others need not be: `not_isolated_nested` is a sheet with a rule that reaches an
  element without the hash.
-/

namespace ComponentFile.Style

/-! ## Style rules and their levels -/

/-- Whether a rule is a style rule with the given selectors and the given rules inside.  A rule that
says itself how it is nested is one only where there are levels around it; it can stand nowhere
else. -/
def Rule.IsStyle (around : List (List Selector)) (rule : Rule) (selectors : List Selector)
    (inside : List Rule) : Prop :=
  ∃ body, rule = .style selectors body inside ∨ around ≠ [] ∧ rule = .nest selectors body inside

theorem Rule.IsStyle.change_around {around around' : List (List Selector)} {rule : Rule}
    {selectors : List Selector} {inside : List Rule} (h : rule.IsStyle around selectors inside)
    (hne : around' ≠ []) : rule.IsStyle around' selectors inside := by
  obtain ⟨body, h | ⟨-, h⟩⟩ := h
  · exact ⟨body, .inl h⟩
  · exact ⟨body, .inr ⟨hne, h⟩⟩

/-- The style rules among some rules, at any depth.  `around` are the levels of the style rule that
these rules stand in, if they stand in one. -/
inductive HasLevels :
    (around : List (List Selector)) → List Rule → List (List Selector) → Prop where
  | here {around : List (List Selector)} {rules inside : List Rule} {rule : Rule}
      {selectors : List Selector} (hmem : rule ∈ rules)
      (hstyle : rule.IsStyle around selectors inside) :
      HasLevels around rules (selectors :: around)
  | inStyle {around levels : List (List Selector)} {rules inside : List Rule} {rule : Rule}
      {selectors : List Selector} (hmem : rule ∈ rules)
      (hstyle : rule.IsStyle around selectors inside)
      (h : HasLevels (selectors :: around) inside levels) : HasLevels around rules levels
  | inGroup {around levels : List (List Selector)} {rules inside : List Rule} {head : GroupHead}
      (hmem : .group head inside ∈ rules) (h : HasLevels around inside levels) :
      HasLevels around rules levels

/-- What a style rule applies to: `&` stands for what the level around selects, and for `top` where
there is none. -/
def Dom.Selects (dom : Dom) (top : Target → Prop) : List (List Selector) → Target → Prop
  | [], target => top target
  | selectors :: around, target =>
    ∃ selector ∈ selectors, dom.Matches (dom.Selects top around) selector target

/-- Whether a selector says of its subject that it is one of the elements that the rule around
selects. -/
def Selector.IsAnchored (selector : Selector) : Prop := .nesting ∈ selector.subject

/-! ## What is scoped -/

theorem scopeRules_eq_map (hash : String) (rules : List Rule) :
    scopeRules hash rules = rules.map (Rule.scope hash) := by
  induction rules with
  | nil => rfl
  | cons rule rules ih => rw [scopeRules, ih, List.map_cons]

/-- Inside a style rule all rules are as they were, and so are their levels up to it. -/
theorem HasLevels.change_around {around levels : List (List Selector)} {rules : List Rule}
    (h : HasLevels around rules levels) (hne : around ≠ []) :
    ∃ nested, levels = nested ++ around ∧
      ∀ around', around' ≠ [] → HasLevels around' rules (nested ++ around') := by
  induction h with
  | @here around rules inside rule selectors hmem hstyle =>
    exact ⟨[selectors], rfl, fun around' hne' => .here hmem (hstyle.change_around hne')⟩
  | @inStyle around levels rules inside rule selectors hmem hstyle _ ih =>
    obtain ⟨nested, rfl, hchange⟩ := ih (List.cons_ne_nil _ _)
    refine ⟨nested ++ [selectors], by simp, fun around' hne' => ?_⟩
    rw [List.append_assoc, List.singleton_append]
    exact .inStyle hmem (hstyle.change_around hne') (hchange _ (List.cons_ne_nil _ _))
  | @inGroup around levels rules inside head hmem _ ih =>
    obtain ⟨nested, rfl, hchange⟩ := ih hne
    exact ⟨nested, rfl, fun around' hne' => .inGroup hmem (hchange around' hne')⟩

/-- A style rule outside of all others comes from one whose selectors were scoped. -/
theorem exists_style_of_scopeRules {hash : String} {rules inside : List Rule} {rule : Rule}
    {selectors : List Selector} (hmem : rule ∈ scopeRules hash rules)
    (hstyle : rule.IsStyle [] selectors inside) :
    ∃ rule' outer, rule' ∈ rules ∧ selectors = outer.map (Selector.scope hash) ∧
      rule'.IsStyle [] outer inside := by
  rw [scopeRules_eq_map] at hmem
  obtain ⟨rule', hrule', rfl⟩ := List.mem_map.1 hmem
  obtain ⟨body, hstyle | ⟨hne, -⟩⟩ := hstyle
  · cases rule' with
    | style outer body' inside' =>
      obtain ⟨rfl, rfl, rfl⟩ := Rule.style.inj hstyle
      exact ⟨_, outer, hrule', rfl, body', .inl rfl⟩
    | _ => cases hstyle
  · exact absurd rfl hne

theorem exists_group_of_scopeRules {hash : String} {rules inside : List Rule} {head : GroupHead}
    (hmem : .group head inside ∈ scopeRules hash rules) :
    ∃ inside', inside = scopeRules hash inside' ∧ .group head inside' ∈ rules := by
  rw [scopeRules_eq_map] at hmem
  obtain ⟨rule, hrule, hgroup⟩ := List.mem_map.1 hmem
  cases rule with
  | group head' inside' =>
    obtain ⟨rfl, rfl⟩ := Rule.group.inj hgroup
    exact ⟨inside', rfl, hrule⟩
  | _ => cases hgroup

/-- **Only the outermost level is scoped.** -/
theorem HasLevels.of_scopeRules {hash : String} {rules : List Rule}
    {levels : List (List Selector)} (h : HasLevels [] (scopeRules hash rules) levels) :
    ∃ nested outer, levels = nested ++ [outer.map (Selector.scope hash)] ∧
      HasLevels [] rules (nested ++ [outer]) := by
  -- grouping rules lead to further scoped rules, always outside of all style rules
  suffices main : ∀ {around levels : List (List Selector)} {all : List Rule},
      HasLevels around all levels → around = [] → ∀ rules, all = scopeRules hash rules →
        ∃ nested outer, levels = nested ++ [outer.map (Selector.scope hash)] ∧
          HasLevels [] rules (nested ++ [outer]) from
    main h rfl rules rfl
  intro around levels all h
  induction h with
  | here hmem hstyle =>
    rintro rfl rules rfl
    obtain ⟨rule, outer, hrule, rfl, houter⟩ := exists_style_of_scopeRules hmem hstyle
    exact ⟨[], outer, rfl, .here hrule houter⟩
  | inStyle hmem hstyle hinside _ =>
    rintro rfl rules rfl
    obtain ⟨rule, outer, hrule, rfl, houter⟩ := exists_style_of_scopeRules hmem hstyle
    obtain ⟨nested, rfl, hchange⟩ := hinside.change_around (List.cons_ne_nil _ _)
    exact ⟨nested, outer, rfl, .inStyle hrule houter (hchange [outer] (List.cons_ne_nil _ _))⟩
  | inGroup hmem _ ih =>
    rintro rfl rules rfl
    obtain ⟨inside, rfl, hgroup⟩ := exists_group_of_scopeRules hmem
    obtain ⟨nested, outer, rfl, hlevels⟩ := ih rfl inside rfl
    exact ⟨nested, outer, rfl, .inGroup hgroup hlevels⟩

/-! ## What is isolated -/

theorem Selector.subject_scope (hash : String) (selector : Selector) :
    (selector.scope hash).subject = insertCondition (.carries hash) selector.subject := by
  fun_induction Selector.scope hash selector with
  | case1 parts => rfl
  | case2 left combinator parts hidden ih => simp only [subject, if_pos hidden, ih]
  | case3 left combinator parts visible => simp only [subject, if_neg visible]

namespace Dom

variable {dom : Dom}

theorem carries_of_matches_scope {parents : Target → Prop} {hash : String} {selector : Selector}
    {target : Target} (h : dom.Matches parents (selector.scope hash) target) :
    dom.Carries target.owner (.of hash) := by
  obtain ⟨reached, hfollow, hsubject⟩ := h.exists_follow
  have hmem : .carries hash ∈ (selector.scope hash).subject := by
    rw [Selector.subject_scope, mem_insertCondition]
    exact .inl rfl
  obtain ⟨up, rfl, hcarries⟩ := holds_carries_iff.1 (hsubject _ hmem)
  rw [Target.owner_of_follow hfollow]
  exact hcarries

theorem owner_of_matches_anchored {parents : Target → Prop} {selector : Selector} {target : Target}
    (h : dom.Matches parents selector target) (hanchored : selector.IsAnchored) :
    ∃ parent, parents parent ∧ target.owner = parent.owner := by
  obtain ⟨parent, hfollow, hsubject⟩ := h.exists_follow
  exact ⟨parent, hsubject _ hanchored, Target.owner_of_follow hfollow⟩

/-- Levels with a scoped one outermost select only elements of the component, as long as the nested
ones are anchored. -/
theorem carries_of_selects {hash : String} {nested : List (List Selector)}
    {outer : List Selector} {top : Target → Prop} {target : Target}
    (hanchored : ∀ selectors ∈ nested, ∀ selector ∈ selectors, selector.IsAnchored)
    (h : dom.Selects top (nested ++ [outer.map (Selector.scope hash)]) target) :
    dom.Carries target.owner (.of hash) := by
  induction nested generalizing target with
  | nil =>
    obtain ⟨selector, hmem, hmatches⟩ := h
    obtain ⟨selector, -, rfl⟩ := List.mem_map.1 hmem
    exact carries_of_matches_scope hmatches
  | cons selectors nested ih =>
    obtain ⟨selector, hmem, hmatches⟩ := h
    have hselector := hanchored selectors List.mem_cons_self selector hmem
    obtain ⟨parent, hparent, howner⟩ := owner_of_matches_anchored hmatches hselector
    rw [howner]
    exact ih (fun inner hinner => hanchored inner (List.mem_cons_of_mem _ hinner)) hparent

end Dom

/-- **How far a scoped sheet is isolated.**  A style rule of a scoped sheet, at any depth, applies
only to elements that carry the hash and to what belongs to such elements, if its nested selectors
are anchored.  A rule outside of all other style rules has none. -/
theorem carries_of_selects_scopeRules {hash : String} {rules : List Rule}
    {levels : List (List Selector)} (h : HasLevels [] (scopeRules hash rules) levels)
    (hanchored : ∀ selectors ∈ levels.dropLast, ∀ selector ∈ selectors, selector.IsAnchored)
    {dom : Dom} {top : Target → Prop} {target : Target} (hselects : dom.Selects top levels target) :
    dom.Carries target.owner (.of hash) := by
  obtain ⟨nested, outer, rfl, -⟩ := h.of_scopeRules
  rw [List.dropLast_concat] at hanchored
  exact Dom.carries_of_selects hanchored hselects

/-- A document of two elements, one inside the other.  The outer one carries a hash and has the
class `a`, the inner one has the class `b`. -/
def nestedPair : Dom where
  root := .node ["__v1"] [.node [] []]
  isCaseSensitive := true
  judge _ condition target :=
    match condition with
    | .ofClass "a" => target = .element []
    | .ofClass "b" => target = .element [0]
    | .pseudoElement "before" => ∃ h, target = .pseudo .pseudoElement h "before" (.element [])
    | _ => False

theorem nestedPair_selects_outer (top : Target → Prop) :
    nestedPair.Selects top [[.compound [.ofClass "a", .carries "__v1"]]] (.element []) := by
  refine ⟨_, List.mem_cons_self, ?_⟩
  simp [Dom.Matches, Dom.Holds, nestedPair, Simple.carries, Dom.Carries, Dom.attributes,
    Element.at?, Element.attributes, AttributeName.of]

/-- The rule for `&::before` in a group inside a rule for `.a` applies to something that belongs to
an element with the hash. -/
theorem carries_of_selects_scopeRules_before :
    ∃ (rules : List Rule) (levels : List (List Selector)) (target : Target),
      HasLevels [] (scopeRules "__v1" rules) levels ∧ levels.dropLast ≠ [] ∧
      (∀ selectors ∈ levels.dropLast, ∀ selector ∈ selectors, selector.IsAnchored) ∧
      nestedPair.Selects (fun _ => False) levels target ∧
      nestedPair.Carries target.owner (.of "__v1") := by
  let before : Selector :=
    .joined (.compound [.nesting]) .pseudoElement [.pseudoElement "before"]
  let rules : List Rule :=
    [.style [.compound [.ofClass "a"]] { } [.group .startingStyle [.style [before] { } []]]]
  let levels : List (List Selector) :=
    [[before], [.compound [.ofClass "a", .carries "__v1"]]]
  let target : Target := .pseudo .pseudoElement rfl "before" (.element [])
  have hlevels : HasLevels [] (scopeRules "__v1" rules) levels := by
    refine .inStyle List.mem_cons_self ⟨_, .inl rfl⟩ ?_
    exact .inGroup List.mem_cons_self (.here List.mem_cons_self ⟨_, .inl rfl⟩)
  have hanchored :
      ∀ selectors ∈ levels.dropLast, ∀ selector ∈ selectors, selector.IsAnchored := by
    simp [levels, before, Selector.IsAnchored, Selector.subject, Combinator.isHidden]
  have hselects : nestedPair.Selects (fun _ => False) levels target := by
    refine ⟨before, List.mem_cons_self, ?_, .element [], List.mem_cons_self, ?_⟩
    · simp [Dom.Holds, nestedPair, target, Combinator.isHidden]
    · simpa [Dom.Matches, Dom.Holds] using nestedPair_selects_outer _
  exact ⟨rules, levels, target, hlevels, by simp [levels], hanchored, hselects,
    carries_of_selects_scopeRules hlevels hanchored hselects⟩

/-- **A nested rule leaves the component.**  The inner rule of `.a{.b{}}` is not scoped, and applies
to an element that does not carry the hash. -/
theorem not_isolated_nested :
    ∃ sheet levels target, Stylesheet.parse ".a{.b{}}" = .ok sheet ∧
      HasLevels [] (sheet.scope "__v1").rules levels ∧
      (∀ top, nestedPair.Selects top levels target) ∧
      ¬ nestedPair.Carries target.owner (.of "__v1") := by
  let inner : Selector := .joined (.compound [.nesting]) .descendant [.ofClass "b"]
  have hparse : Stylesheet.parse ".a{.b{}}" =
      .ok ⟨[], [.style [.compound [.ofClass "a"]] { } [.style [inner] { } []]]⟩ := by
    cbv
  refine ⟨_, [[inner], [.compound [.ofClass "a", .carries "__v1"]]], .element [0], hparse, ?_, ?_,
    ?_⟩
  · exact .inStyle List.mem_cons_self ⟨_, .inl rfl⟩ (.here List.mem_cons_self ⟨_, .inl rfl⟩)
  · intro top
    refine ⟨inner, List.mem_cons_self, ?_, .element [], List.mem_cons_self, ?_⟩
    · simp [Dom.Holds, nestedPair]
    · simpa [Dom.Matches, Dom.Holds] using nestedPair_selects_outer top
  · simp [Dom.Carries, Dom.attributes, nestedPair, Element.at?, Element.attributes,
      Element.children, Target.owner]

end ComponentFile.Style
