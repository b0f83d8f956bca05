import ComponentFile.Proofs.StyleIsolation
import Mathlib

/-!
# What scoping does to a tree of rules

Rules stand inside rules, and scoping goes down through grouping rules only.  This module says rule
by rule what becomes of a tree of rules, and that nothing is lost.

**Places.**  A place is the way down to a rule: its number at every level, from the outermost one
on.  `ruleAt?` is the rule at a place, and `Rule.hollow` what that rule says apart from the rules
inside it, which have places of their own.  **`eq_of_hollow`**: rules are given by what stands at
their places.

**Traversal.**  `mapStyleRules` changes the selectors of the style rules to which grouping rules
alone lead, and `scopeRules` is one use of it (`scopeRules_eq_mapStyleRules`).
`ruleAt?_mapStyleRules` is the step lemma carried along a place: the rule there is traversed in its
turn, or is as it was.

**Erasing.**  `Selector.unscope` takes the last `[hash]` out of the compound that scoping puts it
into.  Behind the place of insertion no part names the element (`exists_insertCondition`), so that
is the inserted one.

**`scopeRules_eq_iff`** puts these together.
-/

namespace ComponentFile.Style

/-! ## Rules and their places -/

namespace Rule

/-- The rules that stand directly inside a rule. -/
def inner : Rule → List Rule
  | .style _ _ rules | .nest _ _ rules | .group _ rules => rules
  | _ => []

/-- A rule with other rules inside it, if it can hold any. -/
def withInner (rules : List Rule) : Rule → Rule
  | .style selectors body _ => .style selectors body rules
  | .nest selectors body _ => .nest selectors body rules
  | .group head _ => .group head rules
  | rule => rule

/-- A rule without the rules inside it. -/
def hollow (rule : Rule) : Rule := rule.withInner []

/-- Whether a rule is a grouping rule. -/
def isGroup : Rule → Bool
  | .group .. => true
  | _ => false

/-- The rule at the end of a way down: the numbers of the rules to go to. -/
def at? : Rule → List Nat → Option Rule
  | rule, [] => some rule
  | rule, number :: place => rule.inner[number]?.bind (·.at? place)

/-- Whether a rule and all rules on a way down, short of the last one, are grouping rules. -/
def groupsTo : Rule → List Nat → Bool
  | _, [] => true
  | rule, number :: place => rule.isGroup && rule.inner[number]?.all (·.groupsTo place)

/-- A rule whose own selectors are changed, if it is a style rule. -/
def mapSelectors (f : Selector → Selector) : Rule → Rule
  | .style selectors body rules => .style (selectors.map f) body rules
  | rule => rule

theorem withInner_inner (rule : Rule) : rule.withInner rule.inner = rule := by
  cases rule <;> rfl

theorem withInner_withInner (rule : Rule) (rules others : List Rule) :
    (rule.withInner rules).withInner others = rule.withInner others := by
  cases rule <;> rfl

theorem eq_of_hollow_of_inner {rule other : Rule} (hhollow : rule.hollow = other.hollow)
    (hinner : rule.inner = other.inner) : rule = other := by
  calc rule = rule.hollow.withInner rule.inner := by
        rw [hollow, withInner_withInner, withInner_inner]
    _ = other.hollow.withInner other.inner := by rw [hhollow, hinner]
    _ = other := by rw [hollow, withInner_withInner, withInner_inner]

theorem sizeOf_lt_of_mem_inner {rule inside : Rule} (h : inside ∈ rule.inner) :
    sizeOf inside < sizeOf rule := by
  have hlt := List.sizeOf_lt_of_mem h
  cases rule with
  | style _ _ rules | nest _ _ rules | group _ rules =>
    simp only [inner] at hlt
    simp only [style.sizeOf_spec, nest.sizeOf_spec, group.sizeOf_spec]
    omega
  | _ => exact absurd h List.not_mem_nil

/-- Induction on rules, with the rules that stand inside at hand. -/
@[elab_as_elim]
theorem inner_induction {motive : Rule → Prop}
    (step : ∀ rule, (∀ inside ∈ rule.inner, motive inside) → motive rule) (rule : Rule) :
    motive rule :=
  step rule fun inside h =>
    have := sizeOf_lt_of_mem_inner h
    inner_induction step inside
  termination_by sizeOf rule

end Rule

/-- The rule at a place among some rules. -/
def ruleAt? (rules : List Rule) : List Nat → Option Rule
  | [] => none
  | number :: place => rules[number]?.bind (·.at? place)

/-- Whether grouping rules alone lead to a place. -/
def groupsTo (rules : List Rule) : List Nat → Bool
  | [] => true
  | number :: place => rules[number]?.all (·.groupsTo place)

/-- What stands at all places below some rules decides on the rules, if it does so for each of them.
-/
theorem eq_of_hollow_of_forall {rules others : List Rule}
    (heach : ∀ rule ∈ rules, ∀ other : Rule,
      (∀ place, (rule.at? place).map Rule.hollow = (other.at? place).map Rule.hollow) →
        rule = other)
    (h : ∀ place, (ruleAt? rules place).map Rule.hollow = (ruleAt? others place).map Rule.hollow) :
    rules = others := by
  refine List.ext_getElem? fun number => ?_
  have hplace : ∀ place, ((rules[number]?).bind (·.at? place)).map Rule.hollow =
      ((others[number]?).bind (·.at? place)).map Rule.hollow := fun place => h (number :: place)
  -- the empty way below a number tells whether there is a rule
  cases hrule : rules[number]? with
  | none =>
    have hnone := hplace []
    rw [hrule] at hnone
    cases hother : others[number]? with
    | none => rfl
    | some other =>
      rw [hother] at hnone
      cases hnone
  | some rule =>
    have hsome := hplace []
    rw [hrule] at hplace hsome
    cases hother : others[number]? with
    | none =>
      rw [hother] at hsome
      cases hsome
    | some other =>
      rw [hother] at hplace
      rw [heach rule (List.mem_of_getElem? hrule) other hplace]

theorem Rule.eq_of_hollow (rule : Rule) : ∀ other : Rule,
    (∀ place, (rule.at? place).map Rule.hollow = (other.at? place).map Rule.hollow) →
      rule = other := by
  induction rule using Rule.inner_induction with
  | step rule ih =>
    intro other h
    have hhollow : rule.hollow = other.hollow := Option.some.inj (h [])
    refine Rule.eq_of_hollow_of_inner hhollow (eq_of_hollow_of_forall ih fun place => ?_)
    cases place with
    | nil => rfl
    | cons number place => exact h (number :: place)

/-- **Rules are given by what stands at their places.** -/
theorem eq_of_hollow {rules others : List Rule}
    (h : ∀ place, (ruleAt? rules place).map Rule.hollow = (ruleAt? others place).map Rule.hollow) :
    rules = others :=
  eq_of_hollow_of_forall (fun rule _ => rule.eq_of_hollow) h

/-! ## Traversal -/

mutual

/-- A rule in which the selectors of style rules are changed, down through grouping rules. -/
def Rule.mapStyleRules (f : Selector → Selector) : Rule → Rule
  | .style selectors body rules => .style (selectors.map f) body rules
  | .group head rules => .group head (mapStyleRules f rules)
  | rule => rule

/-- Rules in which the selectors of style rules are changed, down through grouping rules. -/
def mapStyleRules (f : Selector → Selector) : List Rule → List Rule
  | [] => []
  | rule :: rest => rule.mapStyleRules f :: mapStyleRules f rest

end

variable {f g : Selector → Selector}

theorem mapStyleRules_eq_map (rules : List Rule) :
    mapStyleRules f rules = rules.map (Rule.mapStyleRules f) := by
  induction rules with
  | nil => rfl
  | cons rule rules ih => rw [mapStyleRules, ih, List.map_cons]

theorem Rule.scope_eq_mapStyleRules (hash : String) (rule : Rule) :
    rule.scope hash = rule.mapStyleRules (Selector.scope hash) := by
  induction rule using Rule.inner_induction with
  | step rule ih =>
    cases rule with
    | group head rules =>
      rw [Rule.scope, Rule.mapStyleRules, scopeRules_eq_map, mapStyleRules_eq_map]
      congr 1
      exact List.map_congr_left ih
    | _ => rfl

/-- Scoping is a traversal. -/
theorem scopeRules_eq_mapStyleRules (hash : String) (rules : List Rule) :
    scopeRules hash rules = mapStyleRules (Selector.scope hash) rules := by
  rw [scopeRules_eq_map, mapStyleRules_eq_map]
  exact List.map_congr_left fun rule _ => rule.scope_eq_mapStyleRules hash

/-- What one traversal does, another one takes back. -/
theorem Rule.mapStyleRules_mapStyleRules (h : ∀ selector, g (f selector) = selector) (rule : Rule) :
    (rule.mapStyleRules f).mapStyleRules g = rule := by
  induction rule using Rule.inner_induction with
  | step rule ih =>
    cases rule with
    | style selectors body rules =>
      rw [mapStyleRules, mapStyleRules, List.map_map]
      congr 1
      exact List.map_id'' h selectors
    | group head rules =>
      rw [mapStyleRules, mapStyleRules, mapStyleRules_eq_map, mapStyleRules_eq_map, List.map_map]
      congr 1
      exact (List.map_congr_left ih).trans (List.map_id' rules)
    | _ => rfl

theorem mapStyleRules_mapStyleRules (h : ∀ selector, g (f selector) = selector)
    (rules : List Rule) : mapStyleRules g (mapStyleRules f rules) = rules := by
  rw [mapStyleRules_eq_map, mapStyleRules_eq_map, List.map_map]
  exact (List.map_congr_left fun rule _ => rule.mapStyleRules_mapStyleRules h).trans
    (List.map_id' rules)

theorem Rule.inner_mapStyleRules (rule : Rule) :
    (rule.mapStyleRules f).inner =
      if rule.isGroup then rule.inner.map (Rule.mapStyleRules f) else rule.inner := by
  cases rule with
  | group head rules => exact mapStyleRules_eq_map rules
  | _ => rfl

/-- Apart from the rules inside it, a traversed rule is the rule with other selectors. -/
theorem Rule.hollow_mapStyleRules (rule : Rule) :
    (rule.mapStyleRules f).hollow = (rule.mapSelectors f).hollow := by
  cases rule <;> rfl

/-- The traversal goes on along a way down as long as that leads through grouping rules. -/
theorem Rule.at?_mapStyleRules (rule : Rule) (place : List Nat) :
    (rule.mapStyleRules f).at? place =
      (rule.at? place).map fun found =>
        if rule.groupsTo place then found.mapStyleRules f else found := by
  induction place generalizing rule with
  | nil => rfl
  | cons number place ih =>
    rw [at?, at?, inner_mapStyleRules, groupsTo]
    cases hgroup : rule.isGroup with
    | false =>
      -- inside a rule of another kind everything is as it was
      simp
    | true =>
      rw [if_pos rfl, List.getElem?_map]
      cases rule.inner[number]? with
      | none => rfl
      | some inside => simpa using ih inside

theorem ruleAt?_mapStyleRules (rules : List Rule) (place : List Nat) :
    ruleAt? (mapStyleRules f rules) place =
      (ruleAt? rules place).map fun found =>
        if groupsTo rules place then found.mapStyleRules f else found := by
  cases place with
  | nil => rfl
  | cons number place =>
    rw [ruleAt?, ruleAt?, groupsTo, mapStyleRules_eq_map, List.getElem?_map]
    cases rules[number]? with
    | none => rfl
    | some rule => simpa using rule.at?_mapStyleRules place

/-! ## Erasing -/

/-- Whether a condition is that an element carries an attribute. -/
def Simple.isCarries (hash : String) : Simple → Bool
  | .attr test => test = { name := AttributeName.of hash }
  | _ => false

/-- Takes out the last `[hash]` of a compound. -/
def eraseCarries (hash : String) (parts : List Simple) : List Simple :=
  (parts.reverse.eraseP (Simple.isCarries hash)).reverse

/-- A selector without the last `[hash]` of the compound in front of its hidden combinators at the
end. -/
def Selector.unscope (hash : String) : Selector → Selector
  | compound parts => compound (eraseCarries hash parts)
  | joined left combinator parts =>
    if combinator.isHidden then joined (left.unscope hash) combinator parts
    else joined left combinator (eraseCarries hash parts)

theorem Simple.isCarries_carries (hash : String) : (Simple.carries hash).isCarries hash = true :=
  decide_eq_true rfl

theorem Simple.namesElement_of_isCarries {hash : String} {part : Simple}
    (h : part.isCarries hash = true) : part.namesElement = true := by
  cases part with
  | attr test => rfl
  | _ => cases h

/-- A condition is put directly behind the last part that names the element, or in front of all
parts, and where that is depends on the other parts only. -/
theorem exists_insertCondition (parts : List Simple) :
    ∃ front back, parts = front ++ back ∧
      (∀ condition, insertCondition condition parts = front ++ condition :: back) ∧
      (∀ part ∈ back, part.namesElement = false) ∧
      ∀ part ∈ front.getLast?, part.namesElement = true := by
  induction parts with
  | nil => exact ⟨[], [], rfl, fun _ => rfl, by simp, by simp⟩
  | cons part rest ih =>
    by_cases hrest : rest.any Simple.namesElement = true
    · obtain ⟨front, back, hparts, hinsert, hback, hlast⟩ := ih
      refine ⟨part :: front, back, by rw [hparts, List.cons_append], fun condition => ?_, hback, ?_⟩
      · rw [insertCondition, if_pos hrest, hinsert, List.cons_append]
      · -- `front` is not empty, since one of the parts behind `part` names the element
        have hfront : front ≠ [] := by
          rintro rfl
          obtain ⟨other, hother, hnames⟩ := List.any_eq_true.1 hrest
          rw [hparts, List.nil_append] at hother
          rw [hback other hother] at hnames
          cases hnames
        obtain ⟨first, others, rfl⟩ := List.exists_cons_of_ne_nil hfront
        rwa [List.getLast?_cons_cons]
    · have hnone : ∀ other ∈ rest, other.namesElement = false := by simpa using hrest
      by_cases hpart : part.namesElement = true
      · refine ⟨[part], rest, rfl, fun condition => ?_, hnone, by simpa using hpart⟩
        rw [insertCondition, if_neg hrest, if_pos hpart, List.singleton_append]
      · refine ⟨[], part :: rest, rfl, fun condition => ?_, ?_, by simp⟩
        · rw [insertCondition, if_neg hrest, if_neg hpart, List.nil_append]
        · exact List.forall_mem_cons.2 ⟨by simpa using hpart, hnone⟩

theorem eraseCarries_insertCondition (hash : String) (parts : List Simple) :
    eraseCarries hash (insertCondition (.carries hash) parts) = parts := by
  obtain ⟨front, back, rfl, hinsert, hback, -⟩ := exists_insertCondition parts
  have hnone : ∀ part ∈ back.reverse, ¬ part.isCarries hash = true := by
    intro part hpart hcarries
    have hnames := Simple.namesElement_of_isCarries hcarries
    rw [hback part (List.mem_reverse.1 hpart)] at hnames
    cases hnames
  rw [eraseCarries, hinsert, List.reverse_append, List.reverse_cons, List.append_assoc,
    List.eraseP_append_right _ hnone, List.singleton_append,
    List.eraseP_cons_of_pos (Simple.isCarries_carries hash), ← List.reverse_append,
    List.reverse_reverse]

/-- Scoping can be taken back. -/
theorem Selector.unscope_scope (hash : String) (selector : Selector) :
    (selector.scope hash).unscope hash = selector := by
  fun_induction Selector.scope hash selector with
  | case1 parts => rw [unscope, eraseCarries_insertCondition]
  | case2 left combinator parts hidden ih => rw [unscope, if_pos hidden, ih]
  | case3 left combinator parts visible =>
    rw [unscope, if_neg visible, eraseCarries_insertCondition]

/-! ## Scoping -/

/-- **What scoping does to rules, and that it does nothing else.**  The scoped rules are the ones
that have at every place the rule of the input, with its selectors scoped if it is a style rule and
grouping rules alone lead to it.  A rule to which other rules lead is the same with all that it
contains.  Taking the last `[hash]` out of each scoped selector gives the rules of the input. -/
theorem scopeRules_eq_iff (hash : String) (rules : List Rule) :
    (∀ others, others = scopeRules hash rules ↔
      ∀ place, (ruleAt? others place).map Rule.hollow =
        (ruleAt? rules place).map fun rule =>
          (if groupsTo rules place then rule.mapSelectors (.scope hash) else rule).hollow) ∧
    (∀ place, ruleAt? (scopeRules hash rules) place =
      (ruleAt? rules place).map fun rule =>
        if groupsTo rules place then rule.scope hash else rule) ∧
    mapStyleRules (.unscope hash) (scopeRules hash rules) = rules := by
  have hplace : ∀ place, (ruleAt? (scopeRules hash rules) place).map Rule.hollow =
      (ruleAt? rules place).map fun rule =>
        (if groupsTo rules place then rule.mapSelectors (.scope hash) else rule).hollow := by
    intro place
    rw [scopeRules_eq_mapStyleRules, ruleAt?_mapStyleRules, Option.map_map]
    cases groupsTo rules place with
    | false => rfl
    | true =>
      simp only [if_pos]
      congr 1
      funext rule
      exact rule.hollow_mapStyleRules
  refine ⟨fun others => ⟨?_, fun h => ?_⟩, fun place => ?_, ?_⟩
  · rintro rfl
    exact hplace
  · exact eq_of_hollow fun place => (h place).trans (hplace place).symm
  · simp only [scopeRules_eq_mapStyleRules, ruleAt?_mapStyleRules, Rule.scope_eq_mapStyleRules]
  · rw [scopeRules_eq_mapStyleRules]
    exact mapStyleRules_mapStyleRules (Selector.unscope_scope hash) rules

end ComponentFile.Style
