import ComponentFile.Proofs.RuleTraversal
import Mathlib

/-!
# Where the hash stands in a selector

A selector is read from left to right and matched from right to left, compound by compound.  This
module looks at both lists and says which item of them is new when the selector is scoped.

**The two orders.**  `Selector.readingOrder` lists conditions and combinators as they are written,
`Selector.matchingOrder` has the last compound first, each compound still from left to right.  A
selector can be told from its reading order (`Selector.ofReadingOrder_readingOrder`).

**Scoping a list.**  `Selector.scopeItems` knows no selectors: it cuts a list in matching order at
its combinators, puts the hash into one of the compounds, and joins them from the last to the first.
`Selector.scopeItems_matchingOrder` says that this is what scoping a selector comes to.

**The place.**  `Selector.IsPlace` tells the place of a condition on the element that a selector is
about, and looks at nothing but items.  A list is cut behind its last item of a kind in one way
(`eq_of_cut_behind`), so a selector has one such place (`Selector.IsPlace.unique`); it has one at
all because scoping puts the hash there (`Selector.exists_isPlace`).  With the hash in it, the place
is directly behind the hash (`Selector.IsPlace.behind`), and that is where a second hash goes.

**`Selector.exists_place_scope`** puts these together.
-/

namespace ComponentFile.Style

namespace Selector

/-! ## The two orders -/

/-- One item of a selector: a condition, or the combinator between two compounds. -/
inductive Item where
  | part (part : Simple)
  | way (combinator : Combinator)

/-- The items of a selector from left to right. -/
def readingOrder : Selector → List Item
  | compound parts => parts.map .part
  | joined left combinator parts => left.readingOrder ++ .way combinator :: parts.map .part

/-- The items of a selector with the last compound first, each compound from left to right. -/
def matchingOrder : Selector → List Item
  | compound parts => parts.map .part
  | joined left combinator parts => parts.map .part ++ .way combinator :: left.matchingOrder

/-- A selector with more conditions in its last compound. -/
def extend : Selector → List Simple → Selector
  | compound parts, more => compound (parts ++ more)
  | joined left combinator parts, more => joined left combinator (parts ++ more)

/-- A selector with one more item at its end. -/
def push (selector : Selector) : Item → Selector
  | .part part => selector.extend [part]
  | .way combinator => joined selector combinator []

/-- The selector of some items from left to right. -/
def ofReadingOrder (items : List Item) : Selector := items.foldl push (compound [])

theorem extend_extend (selector : Selector) (parts more : List Simple) :
    (selector.extend parts).extend more = selector.extend (parts ++ more) := by
  cases selector with
  | compound | joined => simp only [extend, List.append_assoc]

theorem foldl_push_parts (selector : Selector) (parts : List Simple) :
    (parts.map Item.part).foldl push selector = selector.extend parts := by
  induction parts generalizing selector with
  | nil =>
    cases selector with
    | compound | joined => simp only [List.map_nil, List.foldl_nil, extend, List.append_nil]
  | cons part parts ih =>
    rw [List.map_cons, List.foldl_cons, push, ih, extend_extend, List.singleton_append]

/-- A selector is told by its items. -/
theorem ofReadingOrder_readingOrder (selector : Selector) :
    ofReadingOrder selector.readingOrder = selector := by
  fun_induction readingOrder selector with
  | case1 parts => rw [ofReadingOrder, foldl_push_parts, extend, List.nil_append]
  | case2 left combinator parts ih =>
    rw [ofReadingOrder] at ih ⊢
    rw [List.foldl_append, ih, List.foldl_cons, push, foldl_push_parts, extend, List.nil_append]

/-! ## Scoping a list -/

/-- The compounds of a list of items, and the combinators between them. -/
def cut : List Item → List (List Simple) × List Combinator
  | [] => ([[]], [])
  | .part part :: rest => ((cut rest).1.modifyHead (part :: ·), (cut rest).2)
  | .way combinator :: rest => ([] :: (cut rest).1, combinator :: (cut rest).2)

/-- Items from left to right, of compounds and the combinators between them with the last of both
first. -/
def join : List (List Simple) → List Combinator → List Item
  | parts :: compounds, combinator :: combinators =>
    join compounds combinators ++ .way combinator :: parts.map .part
  | compounds, _ => compounds.flatten.map .part

/-- The items from left to right of a scoped selector, made of the items of the selector in matching
order: the hash goes into the compound in front of the first visible combinator. -/
def scopeItems (hash : String) (items : List Item) : List Item :=
  let (compounds, combinators) := cut items
  let target := combinators.findIdx fun combinator => !combinator.isHidden
  join (compounds.modify target (insertCondition (.carries hash))) combinators

/-- The compounds of a selector, the last one first. -/
def compounds : Selector → List (List Simple)
  | compound parts => [parts]
  | joined left _ parts => parts :: left.compounds

/-- The combinators of a selector, the last one first. -/
def combinators : Selector → List Combinator
  | compound _ => []
  | joined left combinator _ => combinator :: left.combinators

theorem cut_parts (parts : List Simple) : cut (parts.map .part) = ([parts], []) := by
  induction parts with
  | nil => rfl
  | cons part parts ih => rw [List.map_cons, cut, ih, List.modifyHead_cons]

theorem cut_append (parts : List Simple) (combinator : Combinator) (rest : List Item) :
    cut (parts.map .part ++ .way combinator :: rest) =
      (parts :: (cut rest).1, combinator :: (cut rest).2) := by
  induction parts with
  | nil => rfl
  | cons part parts ih => rw [List.map_cons, List.cons_append, cut, ih, List.modifyHead_cons]

/-- Cutting is the way back from the matching order. -/
theorem cut_matchingOrder (selector : Selector) :
    cut selector.matchingOrder = (selector.compounds, selector.combinators) := by
  fun_induction matchingOrder selector with
  | case1 parts => exact cut_parts parts
  | case2 left combinator parts ih => rw [cut_append, ih, compounds, combinators]

/-- Joining leads to the reading order. -/
theorem join_compounds (selector : Selector) :
    join selector.compounds selector.combinators = selector.readingOrder := by
  fun_induction readingOrder selector with
  | case1 parts => simp [compounds, combinators, join]
  | case2 left combinator parts ih => rw [compounds, combinators, join, ih]

theorem combinators_scope (hash : String) (selector : Selector) :
    (selector.scope hash).combinators = selector.combinators := by
  fun_induction scope hash selector with
  | case1 parts => rfl
  | case2 left combinator parts hidden ih => rw [combinators, combinators, ih]
  | case3 left combinator parts visible => rfl

theorem compounds_scope (hash : String) (selector : Selector) :
    (selector.scope hash).compounds =
      selector.compounds.modify
        (selector.combinators.findIdx fun combinator => !combinator.isHidden)
        (insertCondition (.carries hash)) := by
  fun_induction scope hash selector with
  | case1 parts => rfl
  | case2 left combinator parts hidden ih =>
    rw [compounds, compounds, combinators, List.findIdx_cons, hidden, ih]
    rfl
  | case3 left combinator parts visible =>
    rw [compounds, compounds, combinators, List.findIdx_cons, Bool.eq_false_of_not_eq_true visible]
    rfl

/-- **Scoping a selector is scoping its items**, compound by compound from the last to the first. -/
theorem scopeItems_matchingOrder (hash : String) (selector : Selector) :
    scopeItems hash selector.matchingOrder = (selector.scope hash).readingOrder := by
  rw [scopeItems, cut_matchingOrder]
  dsimp only
  rw [← compounds_scope, ← combinators_scope hash, join_compounds]

/-! ## The place -/

/-- The place between two parts of a selector's items, if it is that of a condition on the element
which the selector is about.  Its compound begins the selector or stands behind a visible
combinator, and behind it there are hidden combinators only.  In it the place is directly behind the
last condition that names the element, or in front of all conditions. -/
inductive IsPlace : List Item → List Item → Prop where
  | intro {before after : List Item} {named trailing : List Simple}
      (hbefore : ∀ item ∈ before.getLast?, ∃ combinator, item = .way combinator ∧
        combinator.isHidden = false)
      (hafter : ∀ item ∈ after.head?, ∃ combinator, item = .way combinator)
      (hhidden : ∀ combinator, .way combinator ∈ after → combinator.isHidden = true)
      (hnamed : ∀ part ∈ named.getLast?, part.namesElement = true)
      (htrailing : ∀ part ∈ trailing, part.namesElement = false) :
      IsPlace (before ++ named.map .part) (trailing.map .part ++ after)

/-- A list is cut behind its last item of a kind in one way. -/
theorem eq_of_cut_behind {α : Type} {kind : α → Prop} {front behind front' behind' : List α}
    (hfront : ∀ x ∈ front.getLast?, kind x) (hbehind : ∀ x ∈ behind, ¬ kind x)
    (hfront' : ∀ x ∈ front'.getLast?, kind x) (hbehind' : ∀ x ∈ behind', ¬ kind x)
    (h : front ++ behind = front' ++ behind') : front = front' ∧ behind = behind' := by
  -- what one front has more than the other ends with an item of the kind, and lies behind the other
  have hnil {short rest more : List α} (hlast : ∀ x ∈ (short ++ more).getLast?, kind x)
      (hnone : ∀ x ∈ more ++ rest, ¬ kind x) : more = [] := by
    by_contra hne
    have hmem := List.getLast_mem hne
    have hsome : (short ++ more).getLast? = some (more.getLast hne) := by
      rw [List.getLast?_append_of_ne_nil _ hne, List.getLast?_eq_some_getLast hne]
    exact hnone _ (List.mem_append_left rest hmem) (hlast _ hsome)
  rcases List.append_eq_append_iff.1 h with ⟨more, rfl, rfl⟩ | ⟨more, rfl, rfl⟩
  · obtain rfl := hnil hfront' hbehind
    simp
  · obtain rfl := hnil hfront hbehind'
    simp

/-- The conditions in front of the first combinator are told by a list of items. -/
theorem eq_of_parts_append {parts parts' : List Simple} {after after' : List Item}
    (hafter : ∀ item ∈ after.head?, ∃ combinator, item = .way combinator)
    (hafter' : ∀ item ∈ after'.head?, ∃ combinator, item = .way combinator)
    (h : parts.map Item.part ++ after = parts'.map Item.part ++ after') :
    parts = parts' ∧ after = after' := by
  induction parts generalizing parts' with
  | nil =>
    cases parts' with
    | nil => exact ⟨rfl, h⟩
    | cons part parts' =>
      obtain rfl : after = .part part :: (parts'.map Item.part ++ after') := h
      obtain ⟨combinator, hitem⟩ := hafter _ rfl
      cases hitem
  | cons part parts ih =>
    cases parts' with
    | nil =>
      obtain rfl : .part part :: (parts.map Item.part ++ after) = after' := h
      obtain ⟨combinator, hitem⟩ := hafter' _ rfl
      cases hitem
    | cons part' parts' =>
      obtain ⟨hpart, hrest⟩ := List.cons.inj h
      obtain ⟨rfl, rfl⟩ := ih hrest
      cases hpart
      exact ⟨rfl, rfl⟩

/-- **A selector has one such place.** -/
theorem IsPlace.unique {front behind front' behind' : List Item} (h : IsPlace front behind)
    (h' : IsPlace front' behind') (heq : front ++ behind = front' ++ behind') :
    front = front' ∧ behind = behind' := by
  cases h with
  | @intro before after named trailing hbefore hafter hhidden hnamed htrailing =>
  cases h' with
  | @intro before' after' named' trailing' hbefore' hafter' hhidden' hnamed' htrailing' =>
  have hcompound (before after : List Item) (named trailing : List Simple) :
      before ++ named.map Item.part ++ (trailing.map Item.part ++ after) =
        before ++ ((named ++ trailing).map Item.part ++ after) := by
    simp only [List.map_append, List.append_assoc]
  have hvisible {parts : List Simple} {after : List Item}
      (hhidden : ∀ combinator, .way combinator ∈ after → combinator.isHidden = true) :
      ∀ item ∈ parts.map Item.part ++ after,
        ¬ ∃ combinator, item = .way combinator ∧ combinator.isHidden = false := by
    rintro - hitem ⟨combinator, rfl, hvisible⟩
    have hway : .way combinator ∈ after := by simpa using hitem
    rw [hhidden combinator hway] at hvisible
    cases hvisible
  rw [hcompound, hcompound] at heq
  obtain ⟨rfl, hrest⟩ :=
    eq_of_cut_behind hbefore (hvisible hhidden) hbefore' (hvisible hhidden') heq
  obtain ⟨hparts, rfl⟩ := eq_of_parts_append hafter hafter' hrest
  obtain ⟨rfl, rfl⟩ := eq_of_cut_behind hnamed (by simpa using htrailing) hnamed'
    (by simpa using htrailing') hparts
  exact ⟨rfl, rfl⟩

/-- What a hidden combinator leads away from does not change the place. -/
theorem IsPlace.append {front behind : List Item} (h : IsPlace front behind)
    {combinator : Combinator} (hidden : combinator.isHidden = true) (parts : List Simple) :
    IsPlace front (behind ++ .way combinator :: parts.map .part) := by
  cases h with
  | @intro before after named trailing hbefore hafter hhidden hnamed htrailing =>
    rw [List.append_assoc]
    refine .intro hbefore ?_ ?_ hnamed htrailing
    · cases after with
      | nil => simp
      | cons item after => exact hafter
    · intro other hother
      have hmem : .way other ∈ after ∨ other = combinator := by simpa using hother
      rcases hmem with hmem | rfl
      · exact hhidden other hmem
      · exact hidden

/-- Behind a condition that names the element, and was put into the place, is the place again. -/
theorem IsPlace.behind {front behind : List Item} (h : IsPlace front behind) {condition : Simple}
    (hnames : condition.namesElement = true) : IsPlace (front ++ [.part condition]) behind := by
  cases h with
  | @intro before after named trailing hbefore hafter hhidden hnamed htrailing =>
    have hfront : before ++ named.map Item.part ++ [.part condition] =
        before ++ (named ++ [condition]).map Item.part := by
      simp
    rw [hfront]
    exact .intro hbefore hafter hhidden (by simpa using hnames) htrailing

/-- A condition is put into a compound at such a place, if what stands in front of the compound ends
with a visible combinator. -/
theorem exists_isPlace_compound {before : List Item}
    (hbefore : ∀ item ∈ before.getLast?, ∃ combinator, item = .way combinator ∧
      combinator.isHidden = false) (parts : List Simple) :
    ∃ front behind, before ++ parts.map .part = front ++ behind ∧ IsPlace front behind ∧
      ∀ condition, before ++ (insertCondition condition parts).map .part =
        front ++ .part condition :: behind := by
  obtain ⟨named, trailing, rfl, hinsert, htrailing, hnamed⟩ := exists_insertCondition parts
  have hplace :=
    @IsPlace.intro before [] named trailing hbefore (by simp) (by simp) hnamed htrailing
  rw [List.append_nil] at hplace
  refine ⟨_, _, ?_, hplace, fun condition => ?_⟩
  · rw [List.map_append, List.append_assoc]
  · rw [hinsert, List.map_append, List.map_cons, List.append_assoc]

/-- Scoping puts the hash into such a place, which is the same for every hash. -/
theorem exists_isPlace : (selector : Selector) →
    ∃ front behind, selector.readingOrder = front ++ behind ∧ IsPlace front behind ∧
      ∀ hash, (selector.scope hash).readingOrder = front ++ .part (.carries hash) :: behind
  | compound parts => by
    obtain ⟨front, behind, hparts, hplace, hinsert⟩ :=
      @exists_isPlace_compound [] (by simp) parts
    exact ⟨front, behind, hparts, hplace, fun hash => hinsert (.carries hash)⟩
  | joined left combinator parts => by
    by_cases hidden : combinator.isHidden = true
    · obtain ⟨front, behind, hleft, hplace, hscope⟩ := exists_isPlace left
      refine ⟨front, _, ?_, hplace.append hidden parts, fun hash => ?_⟩
      · rw [readingOrder, hleft, List.append_assoc]
      · rw [scope, if_pos hidden, readingOrder, hscope, List.append_assoc, List.cons_append]
    · have hbefore : ∀ item ∈ (left.readingOrder ++ [Item.way combinator]).getLast?,
          ∃ combinator, item = .way combinator ∧ combinator.isHidden = false := by
        simpa using hidden
      obtain ⟨front, behind, hparts, hplace, hinsert⟩ := exists_isPlace_compound hbefore parts
      refine ⟨front, behind, ?_, hplace, fun hash => ?_⟩
      · rw [readingOrder, List.append_cons, hparts]
      · rw [scope, if_neg hidden, readingOrder, List.append_cons, hinsert]

/-- **The hash has one exact place.**  A selector's items from left to right are cut in one way at
the place of a condition on the element that the selector is about.  Scoping inserts the hash there
and changes nothing else, be it read off the scoped selector or made of the items in matching order.
Without the new item it is the same selector as before, and a second hash stands directly behind the
first. -/
theorem exists_place_scope (selector : Selector) :
    ∃ front behind,
      (∀ front' behind', selector.readingOrder = front' ++ behind' ∧ IsPlace front' behind' ↔
        front' = front ∧ behind' = behind) ∧
      ∀ hash,
        (selector.scope hash).readingOrder = front ++ .part (.carries hash) :: behind ∧
        scopeItems hash selector.matchingOrder = front ++ .part (.carries hash) :: behind ∧
        ofReadingOrder ((selector.scope hash).readingOrder.eraseIdx front.length) = selector ∧
        ∀ other, ((selector.scope hash).scope other).readingOrder =
          front ++ .part (.carries hash) :: .part (.carries other) :: behind := by
  obtain ⟨front, behind, hitems, hplace, hscope⟩ := exists_isPlace selector
  refine ⟨front, behind, fun front' behind' => ⟨?_, ?_⟩, fun hash => ⟨hscope hash, ?_, ?_, ?_⟩⟩
  · rintro ⟨hitems', hplace'⟩
    exact hplace'.unique hplace (hitems'.symm.trans hitems)
  · rintro ⟨rfl, rfl⟩
    exact ⟨hitems, hplace⟩
  · rw [scopeItems_matchingOrder, hscope]
  · rw [hscope, List.eraseIdx_append_of_length_le le_rfl, Nat.sub_self, List.eraseIdx_cons_zero,
      ← hitems, ofReadingOrder_readingOrder]
  · intro other
    -- the scoped selector has the same place, but for the first hash in front of it
    obtain ⟨front', behind', hitems', hplace', hscope'⟩ := exists_isPlace (selector.scope hash)
    rw [hscope, List.append_cons] at hitems'
    obtain ⟨rfl, rfl⟩ := hplace'.unique (hplace.behind rfl) hitems'.symm
    rw [hscope', List.append_assoc, List.singleton_append]

/-- A hash in front of a pseudo-class that a pseudo-element stands behind: `p a:hover::before`. -/
example : ((joined (joined (compound [.element "p"]) .descendant
      [.element "a", .pseudoClass "hover"]) .pseudoElement [.pseudoElement "before"]).scope
        "h").readingOrder =
    [.part (.element "p"), .way .descendant, .part (.element "a"), .part (.carries "h"),
      .part (.pseudoClass "hover"), .way .pseudoElement, .part (.pseudoElement "before")] := rfl

end Selector

end ComponentFile.Style
