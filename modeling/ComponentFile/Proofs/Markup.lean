import ComponentFile.Proofs.RegionEnd
import Mathlib

/-!
# Well-nested markup

The contents of a markup region are searched for the end of the region by tags alone, so contents
that are written properly must never end it early or swallow its closing tag.  `Markup` is the
syntax of such contents, `Markup.chars` prints it and `Markup.WellNested` says what properly means
for the region of a name: tags of other names may stand in any order, those of the region's own name
close themselves or come in pairs.

* `readBoundary_closingTag`, `readBoundary_innerTag` — printed tags are read as the boundaries they
  are.
* **`readBoundary_eq_some_iff`** — what is read as a boundary is one of three forms.
* `closeMarkup_comment`, `closeMarkup_close_inner`, `closeMarkup_opening` — the search at each of
  them.
* **`closeMarkup_chars`** — well-nested markup is passed over as a whole, at any depth.
* **`closeMarkup_eq_ok`** — hence a region ends at the closing tag behind it.
-/

namespace ComponentFile

/-! ## The syntax -/

/-- A tag inside markup: a name, and whatever stands between it and the end of the tag. -/
structure InnerTag where
  name : List Char
  attributes : List Char
  selfClosing : Bool
deriving DecidableEq, Repr

namespace InnerTag

/-- What stands between the name of a tag and its `>`. -/
def inside (tag : InnerTag) : List Char :=
  tag.attributes ++ if tag.selfClosing then ['/'] else []

/-- The text of a tag. -/
def chars (tag : InnerTag) : List Char := '<' :: (tag.name ++ (tag.inside ++ ['>']))

/-- The form of a tag inside markup: the attributes are set off by a blank and end before the next
`>`, even if that is in quotes. -/
structure Written (tag : InnerTag) : Prop where
  name : IsTagName tag.name
  blank : ∀ c ∈ tag.attributes.head?, isBlank c = true
  notMem : '>' ∉ tag.attributes

instance (tag : InnerTag) : Decidable tag.Written :=
  decidable_of_iff (IsTagName tag.name ∧ tag.attributes.head?.all isBlank = true ∧
      '>' ∉ tag.attributes)
    ⟨fun h => ⟨h.1, (Option.all_eq_true _ _).1 h.2.1, h.2.2⟩,
      fun h => ⟨h.name, (Option.all_eq_true _ _).2 h.blank, h.notMem⟩⟩

end InnerTag

/-- Markup, item by item. -/
inductive Markup where
  | nil
  | text (chars : List Char) (rest : Markup)
  | comment (inside : List Char) (rest : Markup)
  /-- An opening tag by itself. -/
  | opening (tag : InnerTag) (rest : Markup)
  /-- A closing tag by itself. -/
  | closing (tag : ClosingTag) (rest : Markup)
  /-- An opening tag, what it holds, and its closing tag. -/
  | element (tag : InnerTag) (inner : Markup) (ending : ClosingTag) (rest : Markup)
deriving DecidableEq, Repr

namespace Markup

/-- The text of markup. -/
def chars : Markup → List Char
  | nil => []
  | text chars rest => chars ++ rest.chars
  | comment inside rest => commentOpen ++ inside ++ commentClose ++ rest.chars
  | opening tag rest => tag.chars ++ rest.chars
  | closing tag rest => tag.chars ++ rest.chars
  | element tag inner ending rest => tag.chars ++ inner.chars ++ ending.chars ++ rest.chars

/-- Markup that can stand in the region of a name.  An opening tag that holds something does not end
in a slash, which would close it at once. -/
def WellNested (name : List Char) : Markup → Prop
  | nil => True
  | text chars rest => '<' ∉ chars ∧ rest.WellNested name
  | comment inside rest => ¬ commentClose <:+: inside ∧ rest.WellNested name
  | opening tag rest =>
    tag.Written ∧ (sameName tag.name name = true → tag.selfClosing = true) ∧ rest.WellNested name
  | closing tag rest =>
    IsTagName tag.name ∧ (∀ c ∈ tag.blanks, isBlank c = true) ∧ sameName tag.name name = false ∧
      rest.WellNested name
  | element tag inner ending rest =>
    tag.Written ∧ sameName tag.name name = true ∧ tag.selfClosing = false ∧
      tag.attributes.getLast? ≠ some '/' ∧ inner.WellNested name ∧ ending.Names name ∧
      rest.WellNested name

instance decidableWellNested (name : List Char) :
    (markup : Markup) → Decidable (markup.WellNested name)
  | nil => inferInstanceAs (Decidable True)
  | text chars rest =>
    have := decidableWellNested name rest
    inferInstanceAs (Decidable ('<' ∉ chars ∧ _))
  | comment inside rest =>
    have := decidableWellNested name rest
    inferInstanceAs (Decidable (¬ commentClose <:+: inside ∧ _))
  | opening tag rest =>
    have := decidableWellNested name rest
    inferInstanceAs (Decidable (tag.Written ∧ (_ → _) ∧ _))
  | closing tag rest =>
    have := decidableWellNested name rest
    have := List.decidableBAll (isBlank · = true) tag.blanks
    inferInstanceAs (Decidable (IsTagName tag.name ∧ _ ∧ _ ∧ _))
  | element tag inner ending rest =>
    have := decidableWellNested name inner
    have := decidableWellNested name rest
    inferInstanceAs (Decidable (tag.Written ∧ _ ∧ _ ∧ _ ∧ _ ∧ ending.Names name ∧ _))

end Markup

/-! ## Names -/

theorem isTagChar_toLower (c : Char) : isTagChar c.toLower = isTagChar c := by
  by_cases hu : c.isUpper
  · have halpha : c.isAlpha = true := by simp [Char.isAlpha, hu]
    have hlower : c.toLower.isAlpha = true := by
      rw [Char.isAlpha_toLower_eq_isAlpha]
      exact halpha
    simp [isTagChar, Char.isAlphanum, halpha, hlower]
  · rw [Char.toLower_eq_of_not_isUpper hu]

theorem isTagName_map_toLower (name : List Char) :
    IsTagName (name.map Char.toLower) ↔ IsTagName name := by
  cases name with
  | nil => exact Iff.rfl
  | cons c cs => simp [IsTagName, isTagChar_toLower]

theorem isTagName_of_sameName {a b : List Char} (h : sameName a b = true) (hb : IsTagName b) :
    IsTagName a := by
  rw [← isTagName_map_toLower, sameName_iff.1 h, isTagName_map_toLower]
  exact hb

/-! ## Printed boundaries -/

/-- Only `<` begins a boundary. -/
theorem readBoundary_cons {c : Char} (cs : List Char) (hc : c ≠ '<') :
    readBoundary (c :: cs) = none := by
  have hlit : afterLiteral? commentOpen (c :: cs) = none := by
    simp [afterLiteral?, commentOpen, Ne.symm hc]
  have hclose : readCloseTag (c :: cs) = none := by
    unfold readCloseTag
    split
    · next heq => exact absurd (List.cons.inj heq).1 hc
    · rfl
  have hopening : readOpening (c :: cs) = none := by
    unfold readOpening
    split
    · next heq => exact absurd (List.cons.inj heq).1 hc
    · rfl
  simp [readBoundary, hlit, hclose, hopening]

theorem silent_readBoundary {text : List Char} (h : '<' ∉ text) (here : List Char) :
    Silent readBoundary text here :=
  silent_of_notMem (fun _ cs hc => readBoundary_cons cs hc) h

theorem readBoundary_closingTag {tag : ClosingTag} (hname : IsTagName tag.name)
    (hblanks : ∀ c ∈ tag.blanks, isBlank c = true) (rest : List Char) :
    readBoundary (tag.chars ++ rest) = some (⟨.close tag.name, tag.chars⟩, rest) := by
  have htext : tag.chars ++ rest = '<' :: '/' :: (tag.name ++ (tag.blanks ++ '>' :: rest)) := by
    simp [ClosingTag.chars]
  have hstop : StopsBefore isTagChar (tag.blanks ++ '>' :: rest) := by
    cases hb : tag.blanks with
    | nil => exact stopsBefore_cons.2 (by decide)
    | cons b bs => exact stopsBefore_cons.2 (not_isTagChar_of_isBlank (hblanks b (by simp [hb])))
  have hlit : afterLiteral? commentOpen
      ('<' :: '/' :: (tag.name ++ (tag.blanks ++ '>' :: rest))) = none := by
    simp [afterLiteral?, commentOpen]
  rw [htext, readBoundary, hlit]
  simp [readCloseTag, readTagName_complete hname hstop,
    dropBlanks_append hblanks (stopsBefore_sign rest),
    takeBlanks_append hblanks (stopsBefore_sign rest), ClosingTag.chars]

theorem readCloseTag_name {name : List Char} (h : IsTagName name) (rest : List Char) :
    readCloseTag ('<' :: (name ++ rest)) = none := by
  cases name with
  | nil => exact absurd h id
  | cons c cs =>
    unfold readCloseTag
    split
    · next heq =>
      have hc : c = '/' := (List.cons.inj (List.cons.inj heq).2).1
      subst hc
      exact absurd h.1 (by decide)
    · rfl

theorem InnerTag.Written.notMem_inside {tag : InnerTag} (h : tag.Written) : '>' ∉ tag.inside := by
  unfold InnerTag.inside
  cases tag.selfClosing
  · simpa using h.notMem
  · simpa using h.notMem

/-- A tag is a boundary unless its slash stands right behind its name. -/
theorem readBoundary_innerTag {tag : InnerTag} (h : tag.Written)
    (hslash : tag.attributes = [] → tag.selfClosing = false) (rest : List Char) :
    readBoundary (tag.chars ++ rest) = some (⟨.opening tag.name, tag.chars⟩, rest) := by
  have htext : tag.chars ++ rest = '<' :: (tag.name ++ (tag.inside ++ '>' :: rest)) := by
    simp [InnerTag.chars]
  have hopening : readOpening ('<' :: (tag.name ++ (tag.inside ++ '>' :: rest))) =
      some (⟨.opening tag.name, tag.chars⟩, rest) := by
    cases ha : tag.attributes with
    | nil =>
      have hin : tag.inside = [] := by simp [InnerTag.inside, ha, hslash ha]
      have hstop : StopsBefore isTagChar ('>' :: rest) := stopsBefore_cons.2 (by decide)
      simp [readOpening, hin, readTagName_complete h.name hstop, InnerTag.chars]
    | cons c cs =>
      have hblank : isBlank c = true := h.blank c (by simp [ha])
      obtain ⟨more, hin⟩ : ∃ more, tag.inside = c :: more := by simp [InnerTag.inside, ha]
      have hstop : StopsBefore isTagChar (tag.inside ++ '>' :: rest) := by
        rw [hin]
        exact stopsBefore_cons.2 (not_isTagChar_of_isBlank hblank)
      have hsplit : splitAtFirst? ['>'] (tag.inside ++ '>' :: rest) = some (tag.inside, rest) :=
        splitAtFirst?_singleton h.notMem_inside
      rw [readOpening, readTagName_complete h.name hstop]
      simp only [Option.bind_eq_bind, Option.bind_some]
      rw [hin, List.cons_append] at hsplit ⊢
      split
      · next heq =>
        obtain ⟨rfl, -⟩ := List.cons.inj heq
        exact absurd hblank (by decide)
      · next heq =>
        obtain ⟨rfl, -⟩ := List.cons.inj heq
        simp [hblank, hsplit, InnerTag.chars, hin]
      · next heq => cases heq
  rw [htext, readBoundary, afterLiteral?_commentOpen_name h.name, readCloseTag_name h.name,
    hopening]
  rfl

/-- A tag whose slash stands right behind its name is no boundary. -/
theorem silent_innerTag {tag : InnerTag} (h : tag.Written) (ha : tag.attributes = [])
    (hs : tag.selfClosing = true) (rest : List Char) : Silent readBoundary tag.chars rest := by
  have hin : tag.inside = ['/'] := by simp [InnerTag.inside, ha, hs]
  have hstop : StopsBefore isTagChar ('/' :: '>' :: rest) := stopsBefore_cons.2 (by decide)
  have hname : '<' ∉ tag.name := by
    intro hmem
    exact absurd (h.name.isTagChar_of_mem hmem) (by decide)
  refine silent_cons.2 ⟨?_, silent_readBoundary (by simp [hin, hname]) rest⟩
  have hopening : readOpening ('<' :: (tag.name ++ ('/' :: '>' :: rest))) = none := by
    have hblank : isBlank '/' = false := by decide
    simp [readOpening, readTagName_complete h.name hstop, hblank]
  simp only [hin, List.append_assoc, List.cons_append, List.nil_append]
  rw [readBoundary, afterLiteral?_commentOpen_name h.name, readCloseTag_name h.name, hopening]
  rfl

/-! ## The forms of a boundary -/

/-- The forms of a boundary: the start of a comment, a closing tag, and an opening tag with all that
stands in front of its `>`. -/
inductive Boundary.Written : Boundary → Prop
  | comment : Written ⟨.comment, commentOpen⟩
  | close {tag : ClosingTag} : IsTagName tag.name → (∀ c ∈ tag.blanks, isBlank c = true) →
      Written ⟨.close tag.name, tag.chars⟩
  | opening {tag : InnerTag} : tag.Written → tag.selfClosing = false →
      Written ⟨.opening tag.name, tag.chars⟩

theorem readOpening_sound {text rest : List Char} {b : Boundary}
    (h : readOpening text = some (b, rest)) : b.Written := by
  unfold readOpening at h
  split at h
  · simp only [Option.bind_eq_bind, Option.bind_eq_some_iff] at h
    obtain ⟨⟨name, afterName⟩, hn, h⟩ := h
    have hname := (readTagName_sound hn).1
    split at h
    · cases h
      let tag : InnerTag := ⟨name, [], false⟩
      have hw : tag.Written := ⟨hname, by simp [tag], by simp [tag]⟩
      exact .opening hw rfl
    · next c cs _ heq =>
      split at h
      · next hblank =>
        obtain ⟨⟨inside, r⟩, hs, he⟩ := Option.map_eq_some_iff.1 h
        cases he
        let tag : InnerTag := ⟨name, inside, false⟩
        have hhead : ∀ d ∈ inside.head?, isBlank d = true := by
          intro d hd
          obtain ⟨ds, rfl⟩ := List.head?_eq_some_iff.1 hd
          have ht : c :: cs = d :: ds ++ ['>'] ++ r := heq ▸ eq_of_splitAtFirst? hs
          obtain ⟨rfl, -⟩ := List.cons.inj ht
          exact hblank
        have hw : tag.Written := ⟨hname, hhead, notMem_of_splitAtFirst?_singleton hs⟩
        simpa [tag, InnerTag.chars, InnerTag.inside] using Boundary.Written.opening hw rfl
      · cases h
    · cases h
  · cases h

/-- **Reading a boundary**: it is the one of these forms that the text begins with. -/
theorem readBoundary_eq_some_iff {text rest : List Char} {b : Boundary} :
    readBoundary text = some (b, rest) ↔ b.Written ∧ text = b.text ++ rest := by
  constructor
  · intro h
    refine ⟨?_, (eq_of_readBoundary h).1⟩
    unfold readBoundary at h
    split at h
    · cases h
      exact .comment
    · rcases Option.or_eq_some_iff.1 h with h | ⟨-, h⟩
      · obtain ⟨tag, hname, hblanks, rfl⟩ := readCloseTag_sound h
        exact .close hname hblanks
      · exact readOpening_sound h
  · rintro ⟨hw, rfl⟩
    cases hw with
    | comment => rw [readBoundary, afterLiteral?_eq_some_iff.2 rfl]
    | close hname hblanks => exact readBoundary_closingTag hname hblanks rest
    | opening hw hs => exact readBoundary_innerTag hw (fun _ => hs) rest

/-! ## The search at a boundary -/

section

variable {name : List Char} {depth : Nat}

theorem closeMarkup_close_outermost {tag : ClosingTag} {rest : List Char} (hname : IsTagName name)
    (h : tag.Names name) : closeMarkup name 0 (tag.chars ++ rest) = .ok ([], rest) := by
  have hread := readBoundary_closingTag (isTagName_of_sameName h.name hname) h.blanks rest
  rw [closeMarkup_eq, findFirst?_of_read hread]
  simp [h.name]

theorem closeMarkup_close_inner {tag : ClosingTag} {rest : List Char} (hname : IsTagName name)
    (h : tag.Names name) :
    closeMarkup name (depth + 1) (tag.chars ++ rest) =
      prepend tag.chars (closeMarkup name depth rest) := by
  have hread := readBoundary_closingTag (isTagName_of_sameName h.name hname) h.blanks rest
  rw [closeMarkup_eq, findFirst?_of_read hread]
  simp [h.name]

theorem closeMarkup_close_other {tag : ClosingTag} {rest : List Char} (hname : IsTagName tag.name)
    (hblanks : ∀ c ∈ tag.blanks, isBlank c = true) (h : sameName tag.name name = false) :
    closeMarkup name depth (tag.chars ++ rest) =
      prepend tag.chars (closeMarkup name depth rest) := by
  have hread := readBoundary_closingTag hname hblanks rest
  rw [closeMarkup_eq, findFirst?_of_read hread]
  simp [h]

/-- A comment without an end inside is passed over. -/
theorem splitAtFirst?_commentClose {inside : List Char} (h : ¬ commentClose <:+: inside)
    (rest : List Char) :
    splitAtFirst? commentClose (inside ++ commentClose ++ rest) = some (inside, rest) := by
  refine splitAtFirst?_eq_some_iff.2 ⟨rfl, silent_literal_iff.1 ?_⟩
  rintro tail hne ⟨p, rfl⟩
  rw [literal_eq_none_iff]
  intro hp
  -- an end that begins in `inside` is either within it or begins with one or two dashes too many
  match tail, hne, hp with
  | [a], _, hp => simp [commentClose] at hp
  | [a, b], _, hp => simp [commentClose] at hp
  | a :: b :: c :: more, _, hp =>
    refine h ⟨p, more, ?_⟩
    simp [commentClose] at hp
    obtain ⟨rfl, rfl, rfl⟩ := hp
    simp [commentClose]

theorem closeMarkup_comment {inside rest : List Char} (h : ¬ commentClose <:+: inside) :
    closeMarkup name depth (commentOpen ++ inside ++ commentClose ++ rest) =
      prepend (commentOpen ++ inside ++ commentClose) (closeMarkup name depth rest) := by
  have htext : commentOpen ++ inside ++ commentClose ++ rest =
      commentOpen ++ (inside ++ commentClose ++ rest) := by
    simp
  have hread : readBoundary (commentOpen ++ (inside ++ commentClose ++ rest)) =
      some (⟨.comment, commentOpen⟩, inside ++ commentClose ++ rest) := by
    rw [readBoundary, afterLiteral?_eq_some_iff.2 rfl]
  rw [htext, closeMarkup_eq, findFirst?_of_read hread]
  simp only [splitAtFirst?_commentClose h, List.nil_append]

theorem closeMarkup_opening {tag : InnerTag} {rest : List Char} (h : tag.Written)
    (hslash : tag.attributes = [] → tag.selfClosing = false) :
    closeMarkup name depth (tag.chars ++ rest) =
      prepend tag.chars (closeMarkup name (depth + levels name tag.name tag.chars) rest) := by
  rw [closeMarkup_eq, findFirst?_of_read (readBoundary_innerTag h hslash rest)]
  simp

/-! ## Levels -/

theorem endsSelfClosed_iff {front : List Char} :
    endsSelfClosed (front ++ ['>']) = true ↔ front.getLast? = some '/' := by
  rw [← List.head?_reverse, endsSelfClosed]
  cases hr : front.reverse with
  | nil => simp [hr]
  | cons c cs => simp [hr]

theorem endsSelfClosed_chars (tag : InnerTag) :
    endsSelfClosed tag.chars = true ↔ (tag.name ++ tag.inside).getLast? = some '/' := by
  have htext : tag.chars = ('<' :: (tag.name ++ tag.inside)) ++ ['>'] := by simp [InnerTag.chars]
  rw [htext, endsSelfClosed_iff, List.getLast?_cons]
  cases (tag.name ++ tag.inside).getLast? <;> simp

/-- A tag that closes itself, or has another name, adds no level. -/
theorem levels_eq_zero {tag : InnerTag}
    (h : sameName tag.name name = true → tag.selfClosing = true) :
    levels name tag.name tag.chars = 0 := by
  unfold levels
  split
  · next hl =>
    simp only [Bool.and_eq_true, Bool.not_eq_true'] at hl
    have hs := h hl.1
    have hends : endsSelfClosed tag.chars = true := by
      rw [endsSelfClosed_chars, InnerTag.inside, hs]
      simp
    rw [hends] at hl
    exact absurd hl.2 (by decide)
  · rfl

/-- A tag of the region's own name that does not close itself adds one. -/
theorem levels_eq_one {tag : InnerTag} (hw : tag.Written) (h : sameName tag.name name = true)
    (hs : tag.selfClosing = false) (hlast : tag.attributes.getLast? ≠ some '/') :
    levels name tag.name tag.chars = 1 := by
  have hends : ¬ endsSelfClosed tag.chars = true := by
    rw [endsSelfClosed_chars, InnerTag.inside, hs]
    simp only [Bool.false_eq_true, if_false, List.append_nil, List.getLast?_append]
    cases hl : tag.attributes.getLast? with
    | some c => simpa [hl] using hlast
    | none =>
      -- without attributes the tag ends with its name, which holds no slash
      simp only [Option.none_or]
      intro hn
      exact absurd (hw.name.isTagChar_of_mem (List.mem_of_getLast? hn)) (by decide)
  simp [levels, h, hends]

/-! ## Whole markup -/

theorem prepend_nil (found : Except RegionFault (List Char × List Char)) :
    prepend [] found = found := by
  match found with
  | .ok (contents, rest) => rfl
  | .error (.unclosed offset) => simp [prepend, RegionFault.shift]
  | .error (.unclosedComment offset) => simp [prepend, RegionFault.shift]

/-- **Well-nested markup is passed over**, whatever the depth and whatever follows. -/
theorem closeMarkup_chars (hname : IsTagName name) {markup : Markup} (h : markup.WellNested name)
    (rest : List Char) :
    closeMarkup name depth (markup.chars ++ rest) =
      prepend markup.chars (closeMarkup name depth rest) := by
  induction markup generalizing depth rest with
  | nil => exact (prepend_nil _).symm
  | text chars more ih =>
    obtain ⟨hlt, hmore⟩ := h
    rw [Markup.chars, List.append_assoc, closeMarkup_append (silent_readBoundary hlt _), ih hmore,
      prepend_prepend]
  | comment inside more ih =>
    obtain ⟨hin, hmore⟩ := h
    rw [Markup.chars, List.append_assoc, closeMarkup_comment hin, ih hmore, prepend_prepend]
  | opening tag more ih =>
    obtain ⟨hw, hown, hmore⟩ := h
    rw [Markup.chars, List.append_assoc]
    by_cases hslash : tag.attributes = [] ∧ tag.selfClosing = true
    · rw [closeMarkup_append (silent_innerTag hw hslash.1 hslash.2 _), ih hmore, prepend_prepend]
    · rw [closeMarkup_opening hw (by simpa using hslash), levels_eq_zero hown, Nat.add_zero,
        ih hmore, prepend_prepend]
  | closing tag more ih =>
    obtain ⟨hn, hblanks, hother, hmore⟩ := h
    rw [Markup.chars, List.append_assoc, closeMarkup_close_other hn hblanks hother, ih hmore,
      prepend_prepend]
  | element tag inner ending more ihInner ihMore =>
    obtain ⟨hw, hown, hs, hlast, hinner, hending, hmore⟩ := h
    have htext : (Markup.element tag inner ending more).chars ++ rest =
        tag.chars ++ (inner.chars ++ (ending.chars ++ (more.chars ++ rest))) := by
      simp [Markup.chars]
    rw [htext, closeMarkup_opening hw (fun _ => hs), levels_eq_one hw hown hs hlast,
      ihInner hinner, closeMarkup_close_inner hname hending, ihMore hmore]
    simp [prepend_prepend, Markup.chars]

/-- **A markup region ends behind its markup**, at the closing tag that belongs to it. -/
theorem closeMarkup_eq_ok (hname : IsTagName name) {markup : Markup} (h : markup.WellNested name)
    {tag : ClosingTag} (htag : tag.Names name) (rest : List Char) :
    closeMarkup name 0 (markup.chars ++ (tag.chars ++ rest)) = .ok (markup.chars, rest) := by
  rw [closeMarkup_chars hname h, closeMarkup_close_outermost hname htag]
  simp [prepend]

end

end ComponentFile
