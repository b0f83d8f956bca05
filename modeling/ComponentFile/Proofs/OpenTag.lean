import ComponentFile.Document.OpenTag
import ComponentFile.Proofs.Search
import Mathlib

/-!
# The grammar of opening tags

`OpenTag.read` decides from left to right what an opening tag consists of.  Here the same tags are
described without reading anything, part by part, and the two descriptions are proved to agree.

**The grammar.**  `Quote.Encloses`, `Assignment.Written`, `AttrText.Written`, `AttrItem.Written` and
`OpenTag.Written` say of each part which characters it may consist of.  The text of a tag can have
two readings, because a slash is a possible last character of a bare value: `<a b=c/>` is either a
tag that closes itself or one whose attribute has the value `c/`.  The second reading is the one
taken, which `OpenTag.SlashApart` says: a bare value never stands directly before the slash.

**Reading.**  `OpenTag.read_eq_some_iff` — reading a text gives exactly the tag of the grammar that
the text begins with.  `OpenTag.exists_read` — no text that begins with some tag is refused,
whichever of its readings one thinks of.

**Attributes.**  `attributesIn_items` — searching the attributes' text again finds the same
attributes.
-/

namespace ComponentFile

/-! ## Kinds of characters -/

theorem not_isBareChar_of_isBlank {c : Char} (h : isBlank c = true) : isBareChar c = false := by
  simp [isBareChar, h]

theorem not_isNameChar_of_isBlank {c : Char} (h : isBlank c = true) : isNameChar c = false := by
  simp [isNameChar, not_isBareChar_of_isBlank h]

theorem isBareChar_of_isNameChar {c : Char} (h : isNameChar c = true) : isBareChar c = true := by
  simp only [isNameChar, Bool.and_eq_true] at h
  exact h.1.1

theorem not_isBlank_of_isBareChar {c : Char} (h : isBareChar c = true) : isBlank c = false := by
  cases hb : isBlank c with
  | false => rfl
  | true => rw [not_isBareChar_of_isBlank hb] at h; cases h

theorem not_isTagChar_of_isBlank {c : Char} (h : isBlank c = true) : isTagChar c = false := by
  cases ht : isTagChar c with
  | false => rfl
  | true =>
    exfalso
    have hn : (0x30 ≤ c.toNat ∧ c.toNat ≤ 0x39) ∨ (0x41 ≤ c.toNat ∧ c.toNat ≤ 0x5A) ∨
        (0x61 ≤ c.toNat ∧ c.toNat ≤ 0x7A) ∨ c.toNat = 0x2D := by
      simp only [isTagChar, Char.isAlphanum, Char.isAlpha, Char.isUpper, Char.isLower,
        Char.isDigit, Bool.or_eq_true, Bool.and_eq_true, decide_eq_true_eq, beq_iff_eq] at ht
      rcases ht with ((⟨h1, h2⟩ | ⟨h1, h2⟩) | ⟨h1, h2⟩) | rfl
      · exact Or.inr (Or.inl ⟨h1, h2⟩)
      · exact Or.inr (Or.inr (Or.inl ⟨h1, h2⟩))
      · exact Or.inl ⟨h1, h2⟩
      · exact Or.inr (Or.inr (Or.inr rfl))
    simp only [isBlank, Bool.or_eq_true, Bool.and_eq_true, decide_eq_true_eq, beq_iff_eq] at h
    omega

/-! ## The parts of a tag -/

/-- The values that can stand in a kind of quotes. -/
def Quote.Encloses : Quote → List Char → Prop
  | double, value => '"' ∉ value
  | single, value => '\'' ∉ value
  | bare, value => value ≠ [] ∧ ∀ c ∈ value, isBareChar c = true

/-- The form of an assignment: `=` between blanks, and a value. -/
structure Assignment.Written (a : Assignment) : Prop where
  before : ∀ c ∈ a.before, isBlank c = true
  after : ∀ c ∈ a.after, isBlank c = true
  value : a.quote.Encloses a.value

/-- The form of an attribute: a name, and perhaps an assignment. -/
structure AttrText.Written (a : AttrText) : Prop where
  nonempty : a.name ≠ []
  name : ∀ c ∈ a.name, isNameChar c = true
  assignment : ∀ assignment ∈ a.assignment, assignment.Written

/-- The form of an attribute in a tag: blanks, one at least, and an attribute. -/
structure AttrItem.Written (item : AttrItem) : Prop where
  nonempty : item.gap ≠ []
  gap : ∀ c ∈ item.gap, isBlank c = true
  written : item.written.Written

/-- The names of tags: an ASCII letter, then ASCII letters, digits and hyphens. -/
def IsTagName : List Char → Prop
  | [] => False
  | c :: cs => c.isAlpha = true ∧ ∀ d ∈ cs, isTagChar d = true

/-- The form of an opening tag. -/
structure OpenTag.Written (tag : OpenTag) : Prop where
  name : IsTagName tag.name
  items : ∀ item ∈ tag.items, item.Written
  trailing : ∀ c ∈ tag.trailing, isBlank c = true

/-- Whether an attribute has a bare value. -/
def AttrText.isBare (a : AttrText) : Bool :=
  a.assignment.any fun assignment => assignment.quote = .bare

/-- The slash of a tag that closes itself does not stand directly behind a bare value, of which it
would be a part. -/
def OpenTag.SlashApart (tag : OpenTag) : Prop :=
  tag.selfClosing = true → tag.trailing = [] →
    ∀ item ∈ tag.items.getLast?, item.written.isBare = false

/-! The form of a given tag can be checked. -/

instance (quote : Quote) (value : List Char) : Decidable (quote.Encloses value) :=
  match quote with
  | .double => inferInstanceAs (Decidable ('"' ∉ value))
  | .single => inferInstanceAs (Decidable ('\'' ∉ value))
  | .bare =>
    decidable_of_iff (value ≠ [] ∧ value.all isBareChar = true)
      ⟨fun h => ⟨h.1, List.all_eq_true.1 h.2⟩, fun h => ⟨h.1, List.all_eq_true.2 h.2⟩⟩

instance (a : Assignment) : Decidable a.Written :=
  decidable_of_iff (a.before.all isBlank = true ∧ a.after.all isBlank = true ∧
      a.quote.Encloses a.value)
    ⟨fun h => ⟨List.all_eq_true.1 h.1, List.all_eq_true.1 h.2.1, h.2.2⟩,
      fun h => ⟨List.all_eq_true.2 h.before, List.all_eq_true.2 h.after, h.value⟩⟩

instance (a : AttrText) : Decidable a.Written :=
  decidable_of_iff (a.name ≠ [] ∧ a.name.all isNameChar = true ∧
      ∀ assignment ∈ a.assignment, assignment.Written)
    ⟨fun h => ⟨h.1, List.all_eq_true.1 h.2.1, h.2.2⟩,
      fun h => ⟨h.nonempty, List.all_eq_true.2 h.name, h.assignment⟩⟩

instance (item : AttrItem) : Decidable item.Written :=
  decidable_of_iff (item.gap ≠ [] ∧ item.gap.all isBlank = true ∧ item.written.Written)
    ⟨fun h => ⟨h.1, List.all_eq_true.1 h.2.1, h.2.2⟩,
      fun h => ⟨h.nonempty, List.all_eq_true.2 h.gap, h.written⟩⟩

instance (name : List Char) : Decidable (IsTagName name) :=
  match name with
  | [] => inferInstanceAs (Decidable False)
  | c :: cs =>
    decidable_of_iff (c.isAlpha = true ∧ cs.all isTagChar = true)
      ⟨fun h => ⟨h.1, List.all_eq_true.1 h.2⟩, fun h => ⟨h.1, List.all_eq_true.2 h.2⟩⟩

instance (tag : OpenTag) : Decidable tag.Written :=
  decidable_of_iff (IsTagName tag.name ∧ (∀ item ∈ tag.items, item.Written) ∧
      tag.trailing.all isBlank = true)
    ⟨fun h => ⟨h.1, h.2.1, List.all_eq_true.1 h.2.2⟩,
      fun h => ⟨h.name, h.items, List.all_eq_true.2 h.trailing⟩⟩

instance (tag : OpenTag) : Decidable tag.SlashApart :=
  inferInstanceAs (Decidable (tag.selfClosing = true → tag.trailing = [] →
    ∀ item ∈ tag.items.getLast?, item.written.isBare = false))

theorem IsTagName.isTagChar_of_mem {name : List Char} (h : IsTagName name) {c : Char}
    (hc : c ∈ name) : isTagChar c = true := by
  cases name with
  | nil => cases hc
  | cons d ds =>
    rcases List.mem_cons.1 hc with rfl | hc
    · simp [isTagChar, Char.isAlphanum, h.1]
    · exact h.2 c hc

/-! ## Values and assignments -/

theorem Quote.stopsBefore_wrap {quote : Quote} {value rest : List Char}
    (h : quote.Encloses value) : StopsBefore isBlank (quote.wrap value ++ rest) := by
  cases quote with
  | double => exact stopsBefore_cons.2 (by decide)
  | single => exact stopsBefore_cons.2 (by decide)
  | bare =>
    obtain ⟨hne, hall⟩ := h
    cases value with
    | nil => exact absurd rfl hne
    | cons c cs => exact stopsBefore_cons.2 (not_isBlank_of_isBareChar (hall c (by simp)))

theorem readValue_sound {text rest value : List Char} {quote : Quote}
    (h : readValue text = some ((quote, value), rest)) :
    quote.Encloses value ∧ (quote = .bare → StopsBefore isBareChar rest) := by
  unfold readValue at h
  split at h
  · obtain ⟨⟨v, r⟩, hs, he⟩ := Option.map_eq_some_iff.1 h
    cases he
    exact ⟨notMem_of_splitAtFirst?_singleton hs, fun hq => by cases hq⟩
  · obtain ⟨⟨v, r⟩, hs, he⟩ := Option.map_eq_some_iff.1 h
    cases he
    exact ⟨notMem_of_splitAtFirst?_singleton hs, fun hq => by cases hq⟩
  · split at h
    · cases h
    · next c cs hc =>
      cases h
      refine ⟨⟨by simp, ?_⟩, fun _ => stopsBefore_dropWhile isBareChar text⟩
      rw [← hc]
      exact List.all_eq_true.1 List.all_takeWhile

theorem readValue_complete {rest value : List Char} {quote : Quote} (h : quote.Encloses value)
    (hrest : quote = .bare → StopsBefore isBareChar rest) :
    readValue (quote.wrap value ++ rest) = some ((quote, value), rest) := by
  cases quote with
  | double =>
    have hs : splitAtFirst? ['"'] (value ++ '"' :: rest) = some (value, rest) :=
      splitAtFirst?_singleton h
    simp [Quote.wrap, readValue, hs]
  | single =>
    have hs : splitAtFirst? ['\''] (value ++ '\'' :: rest) = some (value, rest) :=
      splitAtFirst?_singleton h
    simp [Quote.wrap, readValue, hs]
  | bare =>
    obtain ⟨hne, hall⟩ := h
    obtain ⟨c, cs, rfl⟩ := List.exists_cons_of_ne_nil hne
    have htake : (c :: cs ++ rest).takeWhile isBareChar = c :: cs :=
      takeWhile_append_of_stopsBefore hall (hrest rfl)
    have hdrop : (c :: cs ++ rest).dropWhile isBareChar = rest :=
      dropWhile_append_of_stopsBefore hall (hrest rfl)
    have hc := hall c (by simp)
    rw [Quote.wrap, readValue, htake, hdrop]
    · rintro text he
      obtain ⟨rfl, -⟩ := List.cons.inj he
      revert hc
      decide
    · rintro text he
      obtain ⟨rfl, -⟩ := List.cons.inj he
      revert hc
      decide

theorem readAssignment_sound {text rest : List Char} {a : Assignment}
    (h : readAssignment text = some (a, rest)) :
    a.Written ∧ (a.quote = .bare → StopsBefore isBareChar rest) := by
  unfold readAssignment at h
  split at h
  · obtain ⟨⟨⟨q, v⟩, r⟩, hv, he⟩ := Option.map_eq_some_iff.1 h
    cases he
    obtain ⟨henc, hstop⟩ := readValue_sound hv
    exact ⟨⟨fun c => isBlank_of_mem_takeBlanks, fun c => isBlank_of_mem_takeBlanks, henc⟩, hstop⟩
  · cases h

theorem readAssignment_complete {rest : List Char} {a : Assignment} (h : a.Written)
    (hrest : a.quote = .bare → StopsBefore isBareChar rest) :
    readAssignment (a.chars ++ rest) = some (a, rest) := by
  have hsign : StopsBefore isBlank ('=' :: (a.after ++ (a.quote.wrap a.value ++ rest))) :=
    stopsBefore_cons.2 (by decide)
  have hvalue : StopsBefore isBlank (a.quote.wrap a.value ++ rest) :=
    Quote.stopsBefore_wrap h.value
  have htext : a.chars ++ rest =
      a.before ++ '=' :: (a.after ++ (a.quote.wrap a.value ++ rest)) := by
    simp [Assignment.chars]
  rw [htext, readAssignment, dropBlanks_append h.before hsign]
  simp only [dropBlanks_append h.after hvalue, readValue_complete h.value hrest,
    takeBlanks_append h.before hsign, takeBlanks_append h.after hvalue, Option.map_some]

/-! ## Attributes -/

/-- An attribute ends where a text begins: the text neither continues its last part nor, if the
attribute has no value, assigns one. -/
def AttrText.EndsBefore (a : AttrText) (rest : List Char) : Prop :=
  match a.assignment with
  | none => StopsBefore isNameChar rest ∧ (dropBlanks rest).head? ≠ some '='
  | some assignment => assignment.quote = .bare → StopsBefore isBareChar rest

theorem Assignment.stopsBefore_chars {a : Assignment} {rest : List Char} (h : a.Written) :
    StopsBefore isNameChar (a.chars ++ rest) := by
  unfold Assignment.chars
  cases hb : a.before with
  | nil => exact stopsBefore_cons.2 (by decide)
  | cons b bs =>
    have hblank := h.before b (by simp [hb])
    exact stopsBefore_cons.2 (not_isNameChar_of_isBlank hblank)

theorem readAttribute_sound {text rest : List Char} {a : AttrText}
    (h : readAttribute text = some (a, rest)) :
    a.Written ∧ (a.isBare = true → StopsBefore isBareChar rest) := by
  unfold readAttribute at h
  split at h
  · cases h
  · next c cs hc =>
    have hname : ∀ d ∈ c :: cs, isNameChar d = true := by
      rw [← hc]
      exact List.all_eq_true.1 List.all_takeWhile
    dsimp only at h
    split at h
    · next assignment r hr =>
      cases h
      obtain ⟨hw, hstop⟩ := readAssignment_sound hr
      refine ⟨⟨by simp, hname, ?_⟩, fun hb => hstop (by simpa [AttrText.isBare] using hb)⟩
      rintro _ ⟨⟩
      exact hw
    · cases h
      refine ⟨⟨by simp, hname, ?_⟩, fun hb => by simp [AttrText.isBare] at hb⟩
      rintro _ ⟨⟩

theorem readAttribute_complete {rest : List Char} {a : AttrText} (h : a.Written)
    (hrest : a.EndsBefore rest) : readAttribute (a.chars ++ rest) = some (a, rest) := by
  obtain ⟨name, assignment⟩ := a
  obtain ⟨hne, hname, hassign⟩ := h
  obtain ⟨c, cs, rfl⟩ := List.exists_cons_of_ne_nil hne
  cases assignment with
  | none =>
    obtain ⟨hstop, hsign⟩ := hrest
    have hnone : readAssignment rest = none := by
      unfold readAssignment
      split
      · next heq => simp [heq] at hsign
      · rfl
    simp only [AttrText.chars, Option.map_none, Option.getD_none, List.append_nil, readAttribute,
      takeWhile_append_of_stopsBefore hname hstop, dropWhile_append_of_stopsBefore hname hstop,
      hnone]
  | some assignment =>
    have hw := hassign assignment rfl
    have hstop : StopsBefore isNameChar (assignment.chars ++ rest) :=
      Assignment.stopsBefore_chars hw
    have htext : AttrText.chars ⟨c :: cs, some assignment⟩ ++ rest =
        (c :: cs) ++ (assignment.chars ++ rest) := by
      simp [AttrText.chars]
    rw [htext]
    simp only [readAttribute, takeWhile_append_of_stopsBefore hname hstop,
      dropWhile_append_of_stopsBefore hname hstop, readAssignment_complete hw hrest]

theorem AttrText.Written.stopsBefore {a : AttrText} {rest : List Char} (h : a.Written) :
    StopsBefore isBlank (a.chars ++ rest) := by
  obtain ⟨c, cs, hc⟩ := List.exists_cons_of_ne_nil h.nonempty
  have hname := h.name c (by simp [hc])
  simp only [AttrText.chars, hc, List.cons_append]
  exact stopsBefore_cons.2 (not_isBlank_of_isBareChar (isBareChar_of_isNameChar hname))

/-! ## Items -/

theorem AttrItem.stopsBefore_of_isBlank {item : AttrItem} {kind : Char → Bool} {rest : List Char}
    (h : item.Written) (hkind : ∀ {c}, isBlank c = true → kind c = false) :
    StopsBefore kind (item.chars ++ rest) := by
  obtain ⟨b, bs, hb⟩ := List.exists_cons_of_ne_nil h.nonempty
  simp only [AttrItem.chars, hb, List.cons_append]
  exact stopsBefore_cons.2 (hkind (h.gap b (by simp [hb])))

/-- Every attribute ends where the next one, with its blanks, begins. -/
theorem AttrText.endsBefore_item {a : AttrText} {next : AttrItem} {rest : List Char}
    (h : next.Written) : a.EndsBefore (next.chars ++ rest) := by
  unfold AttrText.EndsBefore
  split
  · refine ⟨AttrItem.stopsBefore_of_isBlank h not_isNameChar_of_isBlank, ?_⟩
    have htext : next.chars ++ rest = next.gap ++ (next.written.chars ++ rest) := by
      simp [AttrItem.chars]
    rw [htext, dropBlanks_append h.gap h.written.stopsBefore]
    obtain ⟨c, cs, hc⟩ := List.exists_cons_of_ne_nil h.written.nonempty
    have hname := h.written.name c (by simp [hc])
    simp only [AttrText.chars, hc, List.cons_append, List.head?_cons, ne_eq, Option.some.injEq]
    rintro rfl
    revert hname
    decide
  · exact fun _ => AttrItem.stopsBefore_of_isBlank h not_isBareChar_of_isBlank

theorem readItem_sound {text rest : List Char} {item : AttrItem}
    (h : readItem text = some (item, rest)) :
    item.Written ∧ (item.written.isBare = true → StopsBefore isBareChar rest) := by
  unfold readItem at h
  split at h
  · cases h
  · next b bs hb =>
    obtain ⟨⟨a, r⟩, ha, he⟩ := Option.map_eq_some_iff.1 h
    cases he
    obtain ⟨hw, hstop⟩ := readAttribute_sound ha
    refine ⟨⟨by simp, ?_, hw⟩, hstop⟩
    rw [← hb]
    exact fun c => isBlank_of_mem_takeBlanks

theorem readItem_complete {rest : List Char} {item : AttrItem} (h : item.Written)
    (hrest : item.written.EndsBefore rest) : readItem (item.chars ++ rest) = some (item, rest) := by
  obtain ⟨gap, a⟩ := item
  obtain ⟨hne, hgap, hw⟩ := h
  obtain ⟨b, bs, rfl⟩ := List.exists_cons_of_ne_nil hne
  have htext : AttrItem.chars ⟨b :: bs, a⟩ ++ rest = (b :: bs) ++ (a.chars ++ rest) := by
    simp [AttrItem.chars]
  rw [htext]
  simp only [readItem, takeBlanks_append hgap hw.stopsBefore, dropBlanks_append hgap hw.stopsBefore,
    readAttribute_complete hw hrest, Option.map_some]

/-- Whatever the last attribute needs to end holds of a text. -/
def ItemsEndBefore (items : List AttrItem) (rest : List Char) : Prop :=
  ∀ item ∈ items.getLast?, item.written.EndsBefore rest

theorem readItems_sound (text : List Char) :
    (∀ item ∈ (readItems text).1, item.Written) ∧
      ∀ item ∈ (readItems text).1.getLast?, item.written.isBare = true →
        StopsBefore isBareChar (readItems text).2 := by
  fun_induction readItems text with
  | case1 => simp
  | case2 text item rest h items rest' hr ih =>
    simp only [hr] at ih
    obtain ⟨hw, hstop⟩ := readItem_sound h
    refine ⟨by simpa using ⟨hw, ih.1⟩, ?_⟩
    cases items with
    | nil =>
      -- no further item was read, so this one is the last and nothing of the rest is consumed
      have hrest : rest' = rest := by
        have := eq_of_readItems rest
        rw [hr] at this
        simpa using this.symm
      simpa [hrest] using hstop
    | cons next items => simpa using ih.2

theorem readItems_complete {items : List AttrItem} {rest : List Char}
    (h : ∀ item ∈ items, item.Written) (hend : ItemsEndBefore items rest)
    (hrest : readItem rest = none) :
    readItems (items.flatMap AttrItem.chars ++ rest) = (items, rest) := by
  induction items with
  | nil =>
    rw [readItems]
    split
    · rfl
    · next heq => simp [hrest] at heq
  | cons item items ih =>
    have hitem : item.Written := h item (by simp)
    have hends : item.written.EndsBefore (items.flatMap AttrItem.chars ++ rest) := by
      cases items with
      | nil => exact hend item (by simp)
      | cons next items =>
        simp only [List.flatMap_cons, List.append_assoc]
        exact AttrText.endsBefore_item (h next (by simp))
    have htail := ih (fun i hi => h i (by simp [hi])) (by
      cases items with
      | nil => exact fun _ hi => by cases hi
      | cons next items => simpa [ItemsEndBefore] using hend)
    have hread := readItem_complete hitem hends
    rw [List.flatMap_cons, List.append_assoc, readItems]
    split
    · next heq => simp [hread] at heq
    · next read rest' heq =>
      rw [hread] at heq
      cases heq
      rw [htail]

/-! ## Tags -/

theorem readTagName_sound {text name rest : List Char}
    (h : readTagName text = some (name, rest)) : IsTagName name ∧ StopsBefore isTagChar rest := by
  cases text with
  | nil => cases h
  | cons c cs =>
    rw [readTagName] at h
    split at h
    · next hc =>
      cases h
      exact ⟨⟨hc, List.all_eq_true.1 List.all_takeWhile⟩, stopsBefore_dropWhile isTagChar cs⟩
    · cases h

theorem readTagName_complete {name rest : List Char} (h : IsTagName name)
    (hrest : StopsBefore isTagChar rest) : readTagName (name ++ rest) = some (name, rest) := by
  cases name with
  | nil => exact absurd h id
  | cons c cs =>
    obtain ⟨hc, hcs⟩ := h
    rw [List.cons_append, readTagName, if_pos hc, takeWhile_append_of_stopsBefore hcs hrest,
      dropWhile_append_of_stopsBefore hcs hrest]

namespace OpenTag

/-- What follows the items of a tag is no item, nor part of the last one. -/
theorem itemsEndBefore_close {tag : OpenTag} (h : tag.Written) (hslash : tag.SlashApart)
    (rest : List Char) : ItemsEndBefore tag.items (tag.trailing ++ (tag.close ++ rest)) := by
  intro item hitem
  have hclose : ∃ c cs, tag.close ++ rest = c :: cs ∧ isBlank c = false ∧ isNameChar c = false ∧
      c ≠ '=' ∧ (tag.selfClosing = false → isBareChar c = false) := by
    unfold close
    cases tag.selfClosing
    · exact ⟨'>', rest, rfl, by decide, by decide, by decide, fun _ => by decide⟩
    · exact ⟨'/', '>' :: rest, rfl, by decide, by decide, by decide, fun hs => by cases hs⟩
  obtain ⟨c, cs, hc, hblank, hname, hsign, hbare⟩ := hclose
  rw [hc]
  unfold AttrText.EndsBefore
  split
  · refine ⟨?_, ?_⟩
    · cases ht : tag.trailing with
      | nil => exact stopsBefore_cons.2 hname
      | cons b bs =>
        exact stopsBefore_cons.2 (not_isNameChar_of_isBlank (h.trailing b (by simp [ht])))
    · rw [dropBlanks_append h.trailing (stopsBefore_cons.2 hblank)]
      simpa using hsign
  · next assignment ha =>
    intro hq
    cases ht : tag.trailing with
    | nil =>
      refine stopsBefore_cons.2 (hbare ?_)
      cases hs : tag.selfClosing with
      | false => rfl
      | true =>
        have := hslash hs ht item hitem
        simp [AttrText.isBare, ha, hq] at this
    | cons b bs =>
      exact stopsBefore_cons.2 (not_isBareChar_of_isBlank (h.trailing b (by simp [ht])))

theorem stopsBefore_close (tag : OpenTag) (rest : List Char) :
    StopsBefore isBlank (tag.close ++ rest) := by
  unfold close
  split
  · exact stopsBefore_cons.2 (by decide)
  · exact stopsBefore_cons.2 (by decide)

theorem readItem_close {tag : OpenTag} (h : tag.Written) (rest : List Char) :
    readItem (tag.trailing ++ (tag.close ++ rest)) = none := by
  have hstop := stopsBefore_close tag rest
  have hattr : readAttribute (tag.close ++ rest) = none := by
    unfold close
    split <;> rfl
  unfold readItem
  split
  · rfl
  · rw [dropBlanks_append h.trailing hstop, hattr]
    rfl

theorem readClose_close (tag : OpenTag) (rest : List Char) :
    readClose (tag.close ++ rest) = some (tag.selfClosing, rest) := by
  unfold close
  cases tag.selfClosing <;> rfl

theorem stopsBefore_afterName {tag : OpenTag} (h : tag.Written) (rest : List Char) :
    StopsBefore isTagChar (tag.attributeText ++ (tag.trailing ++ (tag.close ++ rest))) := by
  unfold attributeText
  cases hi : tag.items with
  | cons item items =>
    simp only [List.flatMap_cons, List.append_assoc]
    exact AttrItem.stopsBefore_of_isBlank (h.items item (by simp [hi])) not_isTagChar_of_isBlank
  | nil =>
    cases ht : tag.trailing with
    | cons b bs =>
      exact stopsBefore_cons.2 (not_isTagChar_of_isBlank (h.trailing b (by simp [ht])))
    | nil =>
      simp only [List.flatMap_nil, List.nil_append]
      unfold close
      split
      · exact stopsBefore_cons.2 (by decide)
      · exact stopsBefore_cons.2 (by decide)

theorem chars_append_eq (tag : OpenTag) (rest : List Char) :
    tag.chars ++ rest =
      '<' :: (tag.name ++ (tag.attributeText ++ (tag.trailing ++ (tag.close ++ rest)))) := by
  simp [chars]

theorem read_complete {tag : OpenTag} (h : tag.Written) (hslash : tag.SlashApart)
    (rest : List Char) : read (tag.chars ++ rest) = some (tag, rest) := by
  have hitems : readItems (tag.attributeText ++ (tag.trailing ++ (tag.close ++ rest))) =
      (tag.items, tag.trailing ++ (tag.close ++ rest)) :=
    readItems_complete h.items (itemsEndBefore_close h hslash rest) (readItem_close h rest)
  have hstop := stopsBefore_close tag rest
  rw [chars_append_eq, read]
  simp only [readTagName_complete h.name (stopsBefore_afterName h rest), hitems,
    takeBlanks_append h.trailing hstop, dropBlanks_append h.trailing hstop, readClose_close,
    Option.bind_eq_bind, Option.bind_some, Option.pure_def]

theorem read_sound {text rest : List Char} {tag : OpenTag} (h : read text = some (tag, rest)) :
    tag.Written ∧ tag.SlashApart := by
  unfold read at h
  split at h
  · simp only [Option.bind_eq_bind, Option.bind_eq_some_iff, Option.pure_def,
      Option.some.injEq] at h
    obtain ⟨⟨name, afterName⟩, hn, ⟨selfClosing, r⟩, hc, he⟩ := h
    cases he
    obtain ⟨hitems, hbare⟩ := readItems_sound afterName
    refine ⟨⟨(readTagName_sound hn).1, hitems, fun c => isBlank_of_mem_takeBlanks⟩, ?_⟩
    intro hs ht item hitem
    -- without blanks between, the text after the items begins with the slash itself
    cases hb : item.written.isBare with
    | false => rfl
    | true =>
      exfalso
      have hrest : (readItems afterName).2 = '/' :: '>' :: r := by
        have := takeBlanks_append_dropBlanks (readItems afterName).2
        rw [show takeBlanks (readItems afterName).2 = [] from ht, eq_of_readClose hc,
          if_pos hs] at this
        exact this.symm
      have hstop := hbare item hitem hb
      rw [hrest, stopsBefore_cons] at hstop
      exact absurd hstop (by decide)
  · cases h

/-- **Reading an opening tag**: the tag read is the one of the grammar that the text begins with. -/
theorem read_eq_some_iff {text rest : List Char} {tag : OpenTag} :
    read text = some (tag, rest) ↔ tag.Written ∧ tag.SlashApart ∧ text = tag.chars ++ rest := by
  constructor
  · intro h
    obtain ⟨hw, hs⟩ := read_sound h
    exact ⟨hw, hs, eq_of_read h⟩
  · rintro ⟨hw, hs, rfl⟩
    exact read_complete hw hs rest

/-! ### The two readings of a slash -/

/-- The reading of a tag's text in which the slash at its end belongs to the bare value before. -/
def absorbSlash (tag : OpenTag) (items : List AttrItem) (gap name : List Char)
    (assignment : Assignment) : OpenTag :=
  { tag with
    items := items ++ [⟨gap, ⟨name, some { assignment with value := assignment.value ++ ['/'] }⟩⟩]
    selfClosing := false }

/-- **No tag is refused**: a text that begins with a tag, whichever reading it has, is read, and the
tag read has the same text. -/
theorem exists_read {tag : OpenTag} (h : tag.Written) (rest : List Char) :
    ∃ other, read (tag.chars ++ rest) = some (other, rest) ∧ other.chars = tag.chars := by
  by_cases hslash : tag.SlashApart
  · exact ⟨tag, read_complete h hslash rest, rfl⟩
  · simp only [SlashApart, Classical.not_imp, Classical.not_forall, Bool.not_eq_false] at hslash
    obtain ⟨hs, ht, ⟨gap, name, assignment⟩, hlast, hbare⟩ := hslash
    obtain ⟨items, hitems⟩ := List.getLast?_eq_some_iff.1 hlast
    cases assignment with
    | none => simp [AttrText.isBare] at hbare
    | some assignment =>
      have hq : assignment.quote = .bare := by simpa [AttrText.isBare] using hbare
      have hitem := h.items ⟨gap, name, some assignment⟩ (by simp [hitems])
      have hassign := hitem.written.assignment assignment rfl
      obtain ⟨hne, hall⟩ := show Quote.Encloses .bare assignment.value from hq ▸ hassign.value
      have hchars : (tag.absorbSlash items gap name assignment).chars = tag.chars := by
        simp [absorbSlash, chars, attributeText, close, hitems, ht, hs, AttrItem.chars,
          AttrText.chars, Assignment.chars, hq, Quote.wrap]
      have hw : (tag.absorbSlash items gap name assignment).Written := by
        refine ⟨h.name, ?_, h.trailing⟩
        intro item hi
        rcases List.mem_append.1 hi with hi | hi
        · exact h.items item (by simp [hitems, hi])
        · obtain rfl := List.mem_singleton.1 hi
          refine ⟨hitem.nonempty, hitem.gap, hitem.written.nonempty, hitem.written.name, ?_⟩
          rintro _ ⟨⟩
          refine ⟨hassign.before, hassign.after, ?_⟩
          rw [hq]
          refine ⟨by simp, ?_⟩
          intro c hc
          rcases List.mem_append.1 hc with hc | hc
          · exact hall c hc
          · obtain rfl := List.mem_singleton.1 hc
            decide
      refine ⟨_, ?_, hchars⟩
      rw [← hchars]
      exact read_complete hw (fun hself => by cases hself) rest

end OpenTag

/-! ## The attributes of a tag -/

theorem silent_readAttribute_gap {gap here : List Char} (h : ∀ c ∈ gap, isBlank c = true) :
    Silent readAttribute gap here := by
  induction gap with
  | nil => exact Silent.nil here
  | cons b bs ih =>
    refine silent_cons.2 ⟨?_, ih fun c hc => h c (by simp [hc])⟩
    have hb := not_isNameChar_of_isBlank (h b (by simp))
    simp [readAttribute, hb]

/-- Searching the text of attributes finds these attributes and no others. -/
theorem attributesIn_items {items : List AttrItem} (h : ∀ item ∈ items, item.Written) :
    attributesIn (items.flatMap AttrItem.chars) = items.map AttrItem.written := by
  induction items with
  | nil =>
    rw [attributesIn]
    split
    · rfl
    · next heq => cases heq
  | cons item items ih =>
    have hitem : item.Written := h item (by simp)
    have hends : item.written.EndsBefore (items.flatMap AttrItem.chars) := by
      cases items with
      | nil =>
        unfold AttrText.EndsBefore
        split
        · exact ⟨StopsBefore.nil _, by simp [dropBlanks]⟩
        · exact fun _ => StopsBefore.nil _
      | cons next items => exact AttrText.endsBefore_item (h next (by simp))
    have hfind : findFirst? readAttribute ((item :: items).flatMap AttrItem.chars) =
        some ⟨item.gap, item.written, items.flatMap AttrItem.chars⟩ := by
      rw [List.flatMap_cons, AttrItem.chars, List.append_assoc,
        findFirst?_append (silent_readAttribute_gap hitem.gap),
        findFirst?_of_read (readAttribute_complete hitem.written hends)]
      simp
    rw [attributesIn]
    split
    · next heq =>
      rw [hfind] at heq
      cases heq
    · next found heq =>
      rw [hfind] at heq
      cases heq
      rw [ih fun i hi => h i (by simp [hi]), List.map_cons]

end ComponentFile
