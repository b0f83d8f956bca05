import ComponentFile.Style.Selector
import Mathlib

/-!
# What scoped selectors match

A selector is matched from right to left: its last compound has to hold of the target, and each
combinator leads from there to the targets that the compound in front of it may hold of.  Scoping a
selector by a hash is meant to keep of its targets those that belong to an element with that
attribute.  This module says what matching is, without looking at how selectors are scoped, and
proves that nothing else happens.

**Documents.**  `Dom` is a finite tree of elements with their attributes, together with an arbitrary
predicate for every condition that is not about the presence of an attribute.  A `Target` is an
element of the tree or a pseudo target, which originates from another target.

**Matching.**  `Target.via` is where a combinator leads to, `Dom.Holds` what a condition says, and
`Dom.Matches` puts the two together along a selector.

**Scoping.**  The hash goes into one compound.  `mem_insertCondition` says that the compound keeps
its conditions, wherever in it the new one is put, and `Dom.matches_hidden_iff` that hidden
combinators leave no choice of where to go.  With these, `Dom.matches_scope_iff` is an induction
along the hidden combinators at the end of a selector.
-/

namespace ComponentFile.Style

/-! ## Documents -/

/-- An element of a document: the names of its attributes, and the elements inside it. -/
inductive Element where
  | node (attributes : List String) (children : List Element)

namespace Element

def attributes : Element → List String
  | node attributes _ => attributes

def children : Element → List Element
  | node _ children => children

/-- The element at the end of a way down: the numbers of the children to go to. -/
def at? : Element → List Nat → Option Element
  | element, [] => some element
  | element, number :: rest => element.children[number]?.bind (·.at? rest)

end Element

/-- What a selector may match. -/
inductive Target where
  /-- An element of the tree, by the way up to the root: its number among its siblings, that of its
  parent, and so on. -/
  | element (up : List Nat)
  /-- Something without a place in the tree, such as a pseudo-element, that a hidden combinator
  leads away from. -/
  | pseudo (way : Combinator) (isHidden : way.isHidden = true) (label : String) (origin : Target)

namespace Target

/-- The element that a target is or belongs to. -/
def owner : Target → List Nat
  | element up => up
  | pseudo _ _ _ origin => origin.owner

/-- Where a combinator leads to, from right to left. -/
def via (combinator : Combinator) : Target → List Target
  | element up =>
    match combinator, up with
    | .descendant, _ :: parent => parent.tails.map element
    | .child, _ :: parent => [element parent]
    | .nextSibling, (number + 1) :: parent => [element (number :: parent)]
    | .laterSibling, number :: parent =>
      (List.range number).map fun earlier => element (earlier :: parent)
    | _, _ => []
  | pseudo way _ _ origin => if combinator = way then [origin] else []

/-- The target that hidden combinators lead to, one after the other. -/
def follow : List Combinator → Target → Option Target
  | [], target => some target
  | combinator :: rest, pseudo way _ _ origin =>
    if combinator = way then origin.follow rest else none
  | _ :: _, element _ => none

/-- On the way to its origin a target stays with its element. -/
theorem owner_of_follow {ways : List Combinator} {target reached : Target}
    (h : target.follow ways = some reached) : target.owner = reached.owner := by
  induction ways generalizing target with
  | nil =>
    rw [follow, Option.some.injEq] at h
    rw [h]
  | cons way ways ih =>
    cases target with
    | element up => cases h
    | pseudo way' hidden label origin =>
      rw [follow] at h
      split at h
      · rw [owner, ih h]
      · cases h

/-- A hidden combinator leads from a pseudo target to its origin, and from nothing else. -/
theorem mem_via_iff {combinator : Combinator} (h : combinator.isHidden = true)
    {target reached : Target} :
    reached ∈ target.via combinator ↔
      ∃ label, target = pseudo combinator h label reached := by
  cases target with
  | element up => cases combinator <;> cases h <;> simp [via]
  | pseudo way hidden label origin =>
    rw [via]
    by_cases heq : combinator = way
    · subst heq
      simp [eq_comm]
    · simp [heq, Ne.symm heq]

end Target

/-- A document in which selectors are matched. -/
structure Dom where
  root : Element
  /-- Whether names of attributes are compared as they are written. -/
  isCaseSensitive : Bool
  /-- What all other conditions say about a target, when `&` stands for some targets. -/
  judge : (Target → Prop) → Simple → Target → Prop

namespace Dom

variable (dom : Dom)

/-- The attributes of the element at a place. -/
def attributes (up : List Nat) : List String :=
  ((dom.root.at? up.reverse).map Element.attributes).getD []

/-- Whether an element has an attribute of a name. -/
def Carries (up : List Nat) (name : AttributeName) : Prop :=
  (if dom.isCaseSensitive then name.written else name.lowered) ∈ dom.attributes up

/-! ## Matching -/

/-- What a condition says about a target.  Only elements have attributes. -/
def Holds (parents : Target → Prop) : Simple → Target → Prop
  | .nesting, target => parents target
  | .attr ⟨.implicit, name, none⟩, target => ∃ up, target = .element up ∧ dom.Carries up name
  | condition, target => dom.judge parents condition target

/-- Whether a selector matches a target, when `&` stands for `parents`. -/
def Matches (parents : Target → Prop) : Selector → Target → Prop
  | .compound parts, target => ∀ part ∈ parts, dom.Holds parents part target
  | .joined left combinator parts, target =>
    (∀ part ∈ parts, dom.Holds parents part target) ∧
      ∃ reached ∈ target.via combinator, Matches parents left reached

end Dom

namespace Selector

/-- The hidden combinators at the end of a selector, the last one first. -/
def hiddenWays : Selector → List Combinator
  | compound _ => []
  | joined left combinator _ => if combinator.isHidden then combinator :: left.hiddenWays else []

/-- The compound in front of the hidden combinators at the end, which is about an element. -/
def subject : Selector → List Simple
  | compound parts => parts
  | joined left combinator parts => if combinator.isHidden then left.subject else parts

end Selector

/-! ## Scoping -/

theorem mem_insertCondition {condition part : Simple} {parts : List Simple} :
    part ∈ insertCondition condition parts ↔ part = condition ∨ part ∈ parts := by
  fun_induction insertCondition condition parts with
  | case1 => simp
  | case2 first rest _ ih =>
    rw [List.mem_cons, ih, List.mem_cons]
    exact or_left_comm
  | case3 first rest =>
    rw [List.mem_cons, List.mem_cons, List.mem_cons]
    exact or_left_comm
  | case4 first rest => rw [List.mem_cons]

namespace Dom

variable {dom : Dom} {parents : Target → Prop}

theorem holds_carries_iff {hash : String} {target : Target} :
    dom.Holds parents (.carries hash) target ↔
      ∃ up, target = .element up ∧ dom.Carries up (.of hash) :=
  Iff.rfl

/-- A compound with the hash put into it. -/
theorem forall_insertCondition_iff {hash : String} {parts : List Simple} {target : Target} :
    (∀ part ∈ insertCondition (.carries hash) parts, dom.Holds parents part target) ↔
      (∀ part ∈ parts, dom.Holds parents part target) ∧
        ∃ up, target = .element up ∧ dom.Carries up (.of hash) := by
  simp only [mem_insertCondition, forall_eq_or_imp, holds_carries_iff]
  exact and_comm

/-- Behind a hidden combinator there is one target to go to. -/
theorem matches_hidden_iff {left : Selector} {combinator : Combinator} {parts : List Simple}
    (h : combinator.isHidden = true) {target : Target} :
    dom.Matches parents (.joined left combinator parts) target ↔
      (∀ part ∈ parts, dom.Holds parents part target) ∧
        ∃ label reached, target = .pseudo combinator h label reached ∧
          dom.Matches parents left reached := by
  rw [Matches]
  refine and_congr_right fun _ => ?_
  constructor
  · rintro ⟨reached, hvia, hleft⟩
    obtain ⟨label, rfl⟩ := (Target.mem_via_iff h).1 hvia
    exact ⟨label, reached, rfl, hleft⟩
  · rintro ⟨label, reached, rfl, hleft⟩
    exact ⟨reached, (Target.mem_via_iff h).2 ⟨label, rfl⟩, hleft⟩

/-- A target that is matched leads to one of which the subject holds. -/
theorem Matches.exists_follow {selector : Selector} {target : Target}
    (h : dom.Matches parents selector target) :
    ∃ reached, target.follow selector.hiddenWays = some reached ∧
      ∀ part ∈ selector.subject, dom.Holds parents part reached := by
  fun_induction Selector.hiddenWays selector generalizing target with
  | case1 parts => exact ⟨target, rfl, h⟩
  | case2 left combinator parts hidden ih =>
    obtain ⟨-, label, origin, rfl, hleft⟩ := (matches_hidden_iff hidden).1 h
    obtain ⟨reached, hfollow, hsubject⟩ := ih hleft
    refine ⟨reached, ?_, ?_⟩
    · rw [Target.follow, if_pos rfl, hfollow]
    · rw [Selector.subject, if_pos hidden]
      exact hsubject
  | case3 left combinator parts visible =>
    refine ⟨target, rfl, ?_⟩
    rw [Selector.subject, if_neg visible]
    exact h.1

/-- **Scoping is intersection.**  In every document a scoped selector matches exactly those of the
selector's targets that lead, over the hidden combinators at the selector's end, to an element that
carries the hash. -/
theorem matches_scope_iff (dom : Dom) (parents : Target → Prop) (selector : Selector)
    (hash : String) (target : Target) :
    dom.Matches parents (selector.scope hash) target ↔
      dom.Matches parents selector target ∧
        ∃ up, target.follow selector.hiddenWays = some (.element up) ∧
          dom.Carries up (.of hash) := by
  fun_induction Selector.scope hash selector generalizing target with
  | case1 parts =>
    simp only [Matches, forall_insertCondition_iff, Selector.hiddenWays, Target.follow,
      Option.some.injEq]
  | case2 left combinator parts hidden ih =>
    -- the target is a pseudo target of `left`'s, so the hash is asked for further along
    rw [matches_hidden_iff hidden, matches_hidden_iff hidden, Selector.hiddenWays, if_pos hidden,
      and_assoc]
    refine and_congr_right fun _ => ?_
    constructor
    · rintro ⟨label, reached, rfl, hscoped⟩
      obtain ⟨hleft, up, hfollow, hcarries⟩ := (ih reached).1 hscoped
      refine ⟨⟨label, reached, rfl, hleft⟩, up, ?_, hcarries⟩
      rw [Target.follow, if_pos rfl, hfollow]
    · rintro ⟨⟨label, reached, rfl, hleft⟩, up, hfollow, hcarries⟩
      rw [Target.follow, if_pos rfl] at hfollow
      exact ⟨label, reached, rfl, (ih reached).2 ⟨hleft, up, hfollow, hcarries⟩⟩
  | case3 left combinator parts visible =>
    rw [Matches, Matches, forall_insertCondition_iff, Selector.hiddenWays, if_neg visible,
      Target.follow, and_right_comm]
    simp only [Option.some.injEq]

end Dom

end ComponentFile.Style
