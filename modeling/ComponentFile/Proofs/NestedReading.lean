import ComponentFile.Proofs.Markup
import ComponentFile.Proofs.Scan
import ComponentFile.Proofs.ScopedOpenTag
import Mathlib

/-!
# The same text between regions and inside them

Comments and opening tags are read in two places: between the regions of a document, and inside a
region when its end is looked for.  The two readings differ, and this module says where.

**Comments.**  In both places a comment goes up to the first `-->`, but between regions that is
looked for from the `<!--` on, and inside a region behind it.  `commentFrom?` has the place where
the search begins as a parameter, and `scanFrom_comment_eq` and `closeMarkup_comment_eq` are its two
uses.  **`commentSize?_eq_iff`**: the comments are the same unless the dashes of the `<!--` serve
for its end as well.  `commentSize?_differs` is the shortest text where they do.

**Opening tags.**  Inside a region a tag ends at its first `>`, even in quotes, and closes itself if
a slash stands in front of that, whatever the slash belongs to.  `OpenTag.seen` is the part that is
taken for the tag, and `closeMarkup_openTag` the step of the search over it.
**`OpenTag.nestsAsRead_iff`** says when the tag counts as it was read, and
`not_nestsAsRead_quotedTag` is one that does not.
-/

namespace ComponentFile

/-! ## Comments -/

/-- The comment that a text begins with and what follows it, if the end of the comment is looked for
behind the first `passed` characters. -/
def commentFrom? (passed : Nat) (text : List Char) : Option (List Char × List Char) :=
  (splitAtFirst? commentClose (text.drop passed)).map fun (inside, rest) =>
    (text.take passed ++ inside ++ commentClose, rest)

/-- The number of bytes of that comment. -/
def commentSize? (passed : Nat) (text : List Char) : Option Nat :=
  (commentFrom? passed text).map fun (comment, _) => byteLength comment

/-- The comment that is passed over between regions. -/
theorem scanFrom_comment_eq {text : List Char} (h : commentOpen <+: text) (start : Nat) :
    scanFrom start text =
      (commentFrom? 0 text).elim (.error (.region none .unclosedComment start))
        fun (comment, rest) => scanFrom (start + byteLength comment) rest := by
  obtain ⟨after, rfl⟩ := h
  have hopen : (afterLiteral? commentOpen (commentOpen ++ after)).isSome = true := by
    rw [afterLiteral?_eq_some_iff.2 rfl]
    rfl
  rw [commentFrom?]
  cases hs : splitAtFirst? commentClose (commentOpen ++ after) with
  | some found =>
    obtain ⟨inside, rest⟩ := found
    rw [List.drop_zero, hs]
    exact scanFrom_comment hopen hs
  | none =>
    rw [List.drop_zero, hs, scanFrom_eq]
    have hstop : StopsBefore isBlank (commentOpen ++ after) := stopsBefore_cons.2 (by decide)
    have hdrop : dropBlanks (commentOpen ++ after) = commentOpen ++ after :=
      hstop.dropWhile_eq_self
    have htake : takeBlanks (commentOpen ++ after) = [] := hstop.takeWhile_eq_nil
    obtain ⟨c, cs, htext⟩ : ∃ c cs, commentOpen ++ after = c :: cs := ⟨_, _, rfl⟩
    rw [htext] at hdrop htake hopen hs ⊢
    simp only [hdrop, htake, byteLength_nil, Nat.add_zero, if_pos hopen, hs, Option.map_none,
      Option.elim_none]

/-- The comment that is passed over inside a region. -/
theorem closeMarkup_comment_eq {text : List Char} (h : commentOpen <+: text) (name : List Char)
    (depth : Nat) :
    closeMarkup name depth text =
      (commentFrom? commentOpen.length text).elim (.error (.unclosedComment 0))
        fun (comment, rest) => prepend comment (closeMarkup name depth rest) := by
  obtain ⟨after, rfl⟩ := h
  have hread : readBoundary (commentOpen ++ after) = some (⟨.comment, commentOpen⟩, after) := by
    rw [readBoundary, afterLiteral?_eq_some_iff.2 rfl]
  rw [commentFrom?]
  rw [closeMarkup_eq, findFirst?_of_read hread, List.drop_left, List.take_left]
  cases hs : splitAtFirst? commentClose after with
  | none => simp [hs]
  | some found => simp [hs]

theorem splitAtFirst?_cons {lit cs : List Char} {c : Char} (h : ¬ lit <+: c :: cs) :
    splitAtFirst? lit (c :: cs) =
      (splitAtFirst? lit cs).map fun (before, after) => (c :: before, after) := by
  rw [splitAtFirst?, findFirst?, literal_eq_none_iff.2 h, splitAtFirst?, Option.map_map,
    Option.map_map]
  rfl

/-- The dashes of the `<!--` serve for the end of the comment as well. -/
def SharesDashes (text : List Char) : Prop :=
  commentOpen ++ ['>'] <+: text ∨ commentOpen ++ ['-', '>'] <+: text

instance (text : List Char) : Decidable (SharesDashes text) :=
  inferInstanceAs (Decidable (_ ∨ _))

/-- Otherwise no end begins in the `<!--`, and it does not matter whether it is searched. -/
theorem commentFrom?_of_not_sharesDashes {text : List Char} (h : commentOpen <+: text)
    (hdashes : ¬ SharesDashes text) :
    commentFrom? 0 text = commentFrom? commentOpen.length text := by
  obtain ⟨after, rfl⟩ := h
  simp only [SharesDashes, List.prefix_append_right_inj, not_or] at hdashes
  have hless : ¬ commentClose <+: '<' :: '!' :: '-' :: '-' :: after := by simp [commentClose]
  have hmark : ¬ commentClose <+: '!' :: '-' :: '-' :: after := by simp [commentClose]
  have hfirst : ¬ commentClose <+: '-' :: '-' :: after := by
    intro hp
    exact hdashes.1 (by simpa [commentClose] using hp)
  have hsecond : ¬ commentClose <+: '-' :: after := by
    intro hp
    exact hdashes.2 (by simpa [commentClose] using hp)
  have hsplit : splitAtFirst? commentClose (commentOpen ++ after) =
      (splitAtFirst? commentClose after).map fun (inside, rest) =>
        (commentOpen ++ inside, rest) := by
    change splitAtFirst? commentClose ('<' :: '!' :: '-' :: '-' :: after) = _
    rw [splitAtFirst?_cons hless, splitAtFirst?_cons hmark, splitAtFirst?_cons hfirst,
      splitAtFirst?_cons hsecond]
    simp only [Option.map_map]
    rfl
  simp only [commentFrom?, List.drop_zero, List.take_zero, List.nil_append, List.drop_left,
    List.take_left, hsplit, Option.map_map]
  rfl

/-- Inside a region the shortest comment is `<!---->`. -/
theorem le_commentSize? {text : List Char} (h : commentOpen <+: text) {size : Nat}
    (hsize : size ∈ commentSize? commentOpen.length text) : 7 ≤ size := by
  obtain ⟨after, rfl⟩ := h
  simp only [commentSize?, commentFrom?, List.drop_left, List.take_left, Option.map_map,
    Option.mem_def, Option.map_eq_some_iff] at hsize
  obtain ⟨⟨inside, rest⟩, -, rfl⟩ := hsize
  have hopen : byteLength commentOpen = 4 := by decide
  have hclose : byteLength commentClose = 3 := by decide
  simp only [Function.comp_apply, byteLength_append, hopen, hclose]
  omega

/-- Between regions there are two shorter ones. -/
theorem commentSize?_of_sharesDashes {text : List Char} (h : SharesDashes text) :
    ∃ size ∈ commentSize? 0 text, size < 7 := by
  rcases h with ⟨rest, rfl⟩ | ⟨rest, rfl⟩
  · exact ⟨5, rfl, by omega⟩
  · exact ⟨6, rfl, by omega⟩

/-- **Where comments have the same extent.**  What is passed over as a comment between regions and
inside them are the two searches, with the unclosed comment as the fault where a search finds
nothing.  They find comments of the same size, or no end both, exactly if the text begins neither
with `<!-->` nor with `<!--->`.  Where a comment is closed inside a region, it is closed between
regions too, and is no longer there. -/
theorem commentSize?_eq_iff {text : List Char} (h : commentOpen <+: text) :
    (∀ start, scanFrom start text =
      (commentFrom? 0 text).elim (.error (.region none .unclosedComment start))
        fun (comment, rest) => scanFrom (start + byteLength comment) rest) ∧
    (∀ name depth, closeMarkup name depth text =
      (commentFrom? commentOpen.length text).elim (.error (.unclosedComment 0))
        fun (comment, rest) => prepend comment (closeMarkup name depth rest)) ∧
    (commentSize? 0 text = commentSize? commentOpen.length text ↔ ¬ SharesDashes text) ∧
    ∀ size ∈ commentSize? commentOpen.length text, ∃ other ∈ commentSize? 0 text, other ≤ size := by
  refine ⟨scanFrom_comment_eq h, closeMarkup_comment_eq h, ⟨?_, ?_⟩, ?_⟩
  · intro heq hdashes
    obtain ⟨size, hsize, hlt⟩ := commentSize?_of_sharesDashes hdashes
    rw [heq] at hsize
    have hle := le_commentSize? h hsize
    omega
  · intro hdashes
    rw [commentSize?, commentSize?, commentFrom?_of_not_sharesDashes h hdashes]
  · intro size hsize
    by_cases hdashes : SharesDashes text
    · obtain ⟨other, hother, hlt⟩ := commentSize?_of_sharesDashes hdashes
      have hle := le_commentSize? h hsize
      exact ⟨other, hother, by omega⟩
    · refine ⟨size, ?_, Nat.le_refl size⟩
      rw [commentSize?, commentFrom?_of_not_sharesDashes h hdashes]
      exact hsize

/-- The shortest comment of which the dashes at both ends are its own. -/
theorem commentSize?_eq_iff_ownDashes :
    commentOpen <+: "<!---->".toList ∧ ¬ SharesDashes "<!---->".toList ∧
      commentSize? 0 "<!---->".toList = commentSize? commentOpen.length "<!---->".toList := by
  have hopen : commentOpen <+: "<!---->".toList := by decide
  have hdashes : ¬ SharesDashes "<!---->".toList := by decide
  obtain ⟨-, -, hiff, -⟩ := commentSize?_eq_iff hopen
  exact ⟨hopen, hdashes, hiff.2 hdashes⟩

/-- A comment of five bytes between regions, which inside a region is never closed. -/
theorem commentSize?_differs :
    commentOpen <+: "<!-->".toList ∧ scan "<!-->" = .ok [] ∧
      closeRegion "template".toList "<!-->".toList = .error (.unclosedComment 0) ∧
      commentSize? 0 "<!-->".toList = some 5 ∧
      commentSize? commentOpen.length "<!-->".toList = none := by
  have hopen : commentOpen <+: "<!-->".toList := by decide
  have hbetween : commentFrom? 0 "<!-->".toList = some ("<!-->".toList, []) := by decide
  have hinside : commentFrom? commentOpen.length "<!-->".toList = none := by decide
  refine ⟨hopen, ?_, ?_, ?_, ?_⟩
  · rw [scan, scanFrom_comment_eq hopen, hbetween]
    exact scanFrom_nil _
  · have hname : isRawText "template".toList = false := by decide
    rw [closeRegion, hname, if_neg Bool.false_ne_true, closeMarkup_comment_eq hopen, hinside]
    rfl
  · rw [commentSize?, hbetween]
    rfl
  · rw [commentSize?, hinside]
    rfl

/-! ## Opening tags -/

namespace OpenTag

/-- What is taken for a tag inside a region: all of it up to the first `>`. -/
def seen (tag : OpenTag) : List Char := tag.chars.takeWhile (· ≠ '>') ++ ['>']

/-- What is taken for text behind the tag. -/
def unseen (tag : OpenTag) : List Char := (tag.chars.dropWhile (· ≠ '>')).tail

/-- The closing tag of a tag. -/
def ending (tag : OpenTag) : ClosingTag := ⟨tag.name.map Char.toLower, []⟩

/-- In a region of its own name a tag counts as it was read: it takes a closing tag for itself
unless it closes itself. -/
def NestsAsRead (tag : OpenTag) : Prop :=
  closeRegion (tag.name.map Char.toLower) (tag.chars ++ (tag.ending.chars ++ tag.ending.chars)) =
    if tag.selfClosing then .ok (tag.chars, tag.ending.chars)
    else .ok (tag.chars ++ tag.ending.chars, [])

variable {tag : OpenTag}

theorem Written.notMem_name (h : tag.Written) {c : Char} (hc : isTagChar c = false) :
    c ∉ tag.name := by
  intro hmem
  rw [h.name.isTagChar_of_mem hmem] at hc
  cases hc

/-- The two parts of a tag, cut at its first `>`. -/
theorem Written.seen_eq (h : tag.Written) {front unseen : List Char} (hfront : '>' ∉ front)
    (heq : tag.outline.inside ++ ['>'] = front ++ '>' :: unseen) :
    tag.seen = '<' :: (tag.name ++ (front ++ ['>'])) ∧ tag.unseen = unseen := by
  have hpassed : ∀ c ∈ '<' :: (tag.name ++ front), decide (c ≠ '>') = true := by
    intro c hc
    rw [decide_eq_true_eq]
    rintro rfl
    simp [h.notMem_name (by decide : isTagChar '>' = false), hfront] at hc
  have hchars : tag.chars = '<' :: (tag.name ++ front) ++ '>' :: unseen := by
    rw [← chars_outline, InnerTag.chars, heq]
    simp [outline]
  have hstop : StopsBefore (fun c => decide (c ≠ '>')) ('>' :: unseen) :=
    stopsBefore_cons.2 (by decide)
  constructor
  · rw [seen, hchars, takeWhile_append_of_stopsBefore hpassed hstop]
    simp
  · rw [OpenTag.unseen, hchars, dropWhile_append_of_stopsBefore hpassed hstop]
    rfl

theorem exists_front (tag : OpenTag) :
    ∃ front unseen, '>' ∉ front ∧ tag.outline.inside ++ ['>'] = front ++ '>' :: unseen := by
  obtain ⟨front, unseen, heq, hfront⟩ :=
    List.eq_append_cons_of_mem (show '>' ∈ tag.outline.inside ++ ['>'] by simp)
  exact ⟨front, unseen, hfront, heq⟩

theorem Written.seen_append_unseen (h : tag.Written) : tag.seen ++ tag.unseen = tag.chars := by
  obtain ⟨front, unseen, hfront, heq⟩ := tag.exists_front
  obtain ⟨hseen, hunseen⟩ := h.seen_eq hfront heq
  rw [hseen, hunseen, ← chars_outline, InnerTag.chars, heq]
  simp [outline]

/-- Between the name of a tag and its first `>` there is nothing or a blank first, unless its slash
follows the name. -/
theorem Written.isBlank_front (h : tag.Written) {front unseen : List Char} (hfront : '>' ∉ front)
    (heq : tag.outline.inside ++ ['>'] = front ++ '>' :: unseen)
    (hslash : tag.attributeText ++ tag.trailing = [] → tag.selfClosing = false) :
    ∀ c ∈ front.head?, isBlank c = true := by
  intro c hc
  obtain ⟨cs, rfl⟩ := List.head?_eq_some_iff.1 hc
  cases hattr : tag.attributeText ++ tag.trailing with
  | nil =>
    -- nothing stands there, and the first `>` is the end of the tag
    have hinside : tag.outline.inside = [] := by
      simp [InnerTag.inside, outline, hattr, hslash hattr]
    rw [hinside] at heq
    obtain ⟨rfl, -⟩ := List.cons.inj heq
    simp at hfront
  | cons b bs =>
    have hb : isBlank b = true := h.isBlank_head b (by rw [hattr]; rfl)
    rw [InnerTag.inside, outline, hattr] at heq
    obtain ⟨rfl, -⟩ := List.cons.inj heq
    exact hb

/-- **A tag inside a region**: the search goes on behind its first `>`, one level deeper unless a
slash stands in front of that. -/
theorem Written.closeMarkup_openTag (h : tag.Written) {name : List Char}
    (hname : sameName tag.name name = true) (depth : Nat) (rest : List Char) :
    closeMarkup name depth (tag.chars ++ rest) =
      prepend tag.seen (closeMarkup name (depth + if endsSelfClosed tag.seen then 0 else 1)
        (tag.unseen ++ rest)) := by
  obtain ⟨front, unseen, hfront, heq⟩ := tag.exists_front
  obtain ⟨hseen, hunseen⟩ := h.seen_eq hfront heq
  rw [← h.seen_append_unseen, List.append_assoc]
  by_cases hslash : tag.attributeText ++ tag.trailing = [] → tag.selfClosing = false
  · let inner : InnerTag := ⟨tag.name, front, false⟩
    have hw : inner.Written := ⟨h.name, h.isBlank_front hfront heq hslash, hfront⟩
    have hchars : inner.chars = tag.seen := by
      rw [hseen]
      simp [inner, InnerTag.chars, InnerTag.inside]
    have hlevels : levels name inner.name inner.chars =
        if endsSelfClosed tag.seen then 0 else 1 := by
      have hsame : sameName inner.name name = true := hname
      rw [levels, hchars, hsame]
      cases endsSelfClosed tag.seen <;> rfl
    rw [← hlevels, ← hchars]
    exact closeMarkup_opening hw fun _ => rfl
  · -- with the slash right behind its name the tag is not recognised, and adds no level
    rw [Classical.not_imp, Bool.not_eq_false] at hslash
    obtain ⟨hattr, hself⟩ := hslash
    let inner : InnerTag := ⟨tag.name, [], true⟩
    have hw : inner.Written := ⟨h.name, by simp [inner], by simp [inner]⟩
    have hinside : tag.outline.inside = ['/'] := by
      simp [InnerTag.inside, outline, hattr, hself]
    obtain ⟨hwhole, -⟩ := h.seen_eq (show '>' ∉ ['/'] by simp)
      (show tag.outline.inside ++ ['>'] = ['/'] ++ '>' :: [] by rw [hinside])
    have hchars : inner.chars = tag.seen := by
      rw [hwhole]
      rfl
    have hends : endsSelfClosed tag.seen = true := by
      rw [← hchars, endsSelfClosed_chars]
      simp [inner, InnerTag.inside]
    rw [hends, if_pos rfl, Nat.add_zero, ← hchars]
    exact closeMarkup_append (silent_innerTag hw rfl rfl _)

theorem sameName_lower (tag : OpenTag) :
    sameName tag.name (tag.name.map Char.toLower) = true := by
  rw [sameName_map_toLower, sameName_iff]

/-- What the search makes of a tag of which no markup is taken for text. -/
theorem Written.closeRegion_nested (h : tag.Written)
    (hname : isRawText (tag.name.map Char.toLower) = false) (hunseen : '<' ∉ tag.unseen) :
    closeRegion (tag.name.map Char.toLower) (tag.chars ++ (tag.ending.chars ++ tag.ending.chars)) =
      if endsSelfClosed tag.seen then .ok (tag.chars, tag.ending.chars)
      else .ok (tag.chars ++ tag.ending.chars, []) := by
  set name := tag.name.map Char.toLower with hlower
  have hown : IsTagName name := (isTagName_map_toLower tag.name).2 h.name
  have hending : tag.ending.Names name := ⟨by simp [ending, sameName, hlower], by simp [ending]⟩
  rw [closeRegion, hname, if_neg Bool.false_ne_true, h.closeMarkup_openTag tag.sameName_lower,
    closeMarkup_append (silent_readBoundary hunseen _), prepend_prepend, h.seen_append_unseen,
    Nat.zero_add]
  cases endsSelfClosed tag.seen with
  | true =>
    rw [if_pos rfl, if_pos rfl, closeMarkup_close_outermost hown hending]
    simp [prepend]
  | false =>
    have hlast : closeMarkup name 0 tag.ending.chars = .ok ([], []) := by
      have hend : closeMarkup name 0 (tag.ending.chars ++ []) = .ok ([], []) :=
        closeMarkup_close_outermost hown hending
      rwa [List.append_nil] at hend
    rw [if_neg Bool.false_ne_true, if_neg Bool.false_ne_true, closeMarkup_close_inner hown hending,
      hlast]
    simp [prepend]

theorem Written.nestsAsRead_iff_of_notMem (h : tag.Written)
    (hname : isRawText (tag.name.map Char.toLower) = false) (hunseen : '<' ∉ tag.unseen) :
    tag.NestsAsRead ↔ (endsSelfClosed tag.seen = true ↔ tag.selfClosing = true) := by
  have hne : tag.ending.chars ≠ [] := by simp [ClosingTag.chars]
  rw [NestsAsRead, h.closeRegion_nested hname hunseen]
  cases endsSelfClosed tag.seen <;> cases tag.selfClosing <;> simp [hne]

/-- Without a `>` in its values a tag is seen as a whole. -/
theorem Written.seen_eq_chars (h : tag.Written) (hsign : '>' ∉ tag.attributeText) :
    tag.seen = tag.chars ∧ tag.unseen = [] := by
  have htrailing : '>' ∉ tag.trailing := fun hmem => absurd (h.trailing _ hmem) (by decide)
  have hinside : '>' ∉ tag.outline.inside := by
    cases hs : tag.selfClosing <;> simp [InnerTag.inside, outline, hs, hsign, htrailing]
  obtain ⟨hseen, hunseen⟩ := h.seen_eq hinside rfl
  exact ⟨hseen.trans tag.chars_outline, hunseen⟩

theorem Written.endsSelfClosed_chars_iff (h : tag.Written) :
    endsSelfClosed tag.chars = true ↔
      tag.selfClosing = true ∨ (tag.attributeText ++ tag.trailing).getLast? = some '/' := by
  have hname : tag.name.getLast? ≠ some '/' := fun hlast =>
    h.notMem_name (by decide) (List.mem_of_getLast? hlast)
  rw [← chars_outline, endsSelfClosed_chars, List.getLast?_append]
  cases hs : tag.selfClosing with
  | true => simp [InnerTag.inside, outline, hs]
  | false =>
    simp only [InnerTag.inside, outline, hs, Bool.false_eq_true, if_false, List.append_nil,
      false_or]
    cases (tag.attributeText ++ tag.trailing).getLast? with
    | some c => simp
    | none => simpa using hname

/-- Then it counts as it was read unless a slash of a value stands in front of its end. -/
theorem Written.nestsAsRead_iff_endsPlainly (h : tag.Written)
    (hname : isRawText (tag.name.map Char.toLower) = false) (hsign : '>' ∉ tag.attributeText) :
    tag.NestsAsRead ↔ tag.EndsPlainly := by
  obtain ⟨hseen, hunseen⟩ := h.seen_eq_chars hsign
  rw [h.nestsAsRead_iff_of_notMem hname (by simp [hunseen]), hseen, h.endsSelfClosed_chars_iff]
  constructor
  · intro hiff
    refine ⟨hsign, fun hopen hlast => ?_⟩
    rw [hiff.1 (.inr hlast)] at hopen
    cases hopen
  · intro hends
    refine ⟨?_, .inl⟩
    rintro (hself | hlast)
    · exact hself
    · exact not_imp_not.1 (by simpa using hends.slash) hlast

/-- **Which tags nest as they are read.**  Inside a region of its own name a tag is taken to end at
its first `>`, and to close itself if a slash stands in front of that; the search goes on behind it.
If no markup follows there, the tag counts as it was read exactly if this is the truth.  So of the
tags without a `>` in a value those count as read that have no slash of a value in front of their
end. -/
theorem nestsAsRead_iff {text : List Char} (hread : read text = some (tag, []))
    (hname : isRawText (tag.name.map Char.toLower) = false) :
    text = tag.seen ++ tag.unseen ∧
    (∀ rest, closeRegion (tag.name.map Char.toLower) (text ++ rest) =
      prepend tag.seen (closeMarkup (tag.name.map Char.toLower)
        (if endsSelfClosed tag.seen then 0 else 1) (tag.unseen ++ rest))) ∧
    ('<' ∉ tag.unseen →
      (tag.NestsAsRead ↔ (endsSelfClosed tag.seen = true ↔ tag.selfClosing = true))) ∧
    ('>' ∉ tag.attributeText → (tag.NestsAsRead ↔ tag.EndsPlainly)) := by
  obtain ⟨hw, -, htext⟩ := read_eq_some_iff.1 hread
  rw [List.append_nil] at htext
  refine ⟨htext.trans hw.seen_append_unseen.symm, fun rest => ?_,
    hw.nestsAsRead_iff_of_notMem hname, hw.nestsAsRead_iff_endsPlainly hname⟩
  rw [closeRegion, hname, if_neg Bool.false_ne_true, htext,
    hw.closeMarkup_openTag tag.sameName_lower, Nat.zero_add]

/-- A tag with a `>` in its first value and a slash in its last, and one that closes itself behind a
bare value. -/
theorem nestsAsRead_iff_comparison :
    (∃ tag, read "<Template v-if=\"a > b\" x='/'>".toList = some (tag, []) ∧
      isRawText (tag.name.map Char.toLower) = false ∧ '>' ∈ tag.attributeText ∧
      '<' ∉ tag.unseen ∧ tag.NestsAsRead) ∧
    ∃ tag, read "<template a=b />".toList = some (tag, []) ∧
      isRawText (tag.name.map Char.toLower) = false ∧ '>' ∉ tag.attributeText ∧
      tag.EndsPlainly ∧ tag.NestsAsRead := by
  constructor
  · let tag : OpenTag :=
      { name := "Template".toList
        items := [⟨[' '], ⟨"v-if".toList, some ⟨[], [], .double, "a > b".toList⟩⟩⟩,
          ⟨[' '], ⟨['x'], some ⟨[], [], .single, ['/']⟩⟩⟩]
        trailing := []
        selfClosing := false }
    have hw : tag.Written := by decide +kernel
    have hread : read "<Template v-if=\"a > b\" x='/'>".toList = some (tag, []) :=
      read_complete hw (by decide +kernel) []
    have hname : isRawText (tag.name.map Char.toLower) = false := by decide +kernel
    have hunseen : '<' ∉ tag.unseen := by decide +kernel
    obtain ⟨-, -, hiff, -⟩ := nestsAsRead_iff hread hname
    exact ⟨tag, hread, hname, by decide +kernel, hunseen, (hiff hunseen).2 (by decide +kernel)⟩
  · let tag : OpenTag :=
      { name := "template".toList
        items := [⟨[' '], ⟨['a'], some ⟨[], [], .bare, ['b']⟩⟩⟩]
        trailing := [' ']
        selfClosing := true }
    have hw : tag.Written := by decide +kernel
    have hread : read "<template a=b />".toList = some (tag, []) :=
      read_complete hw (by decide +kernel) []
    have hname : isRawText (tag.name.map Char.toLower) = false := by decide +kernel
    have hsign : '>' ∉ tag.attributeText := by decide +kernel
    have hends : tag.EndsPlainly := by decide +kernel
    obtain ⟨-, -, -, hiff⟩ := nestsAsRead_iff hread hname
    exact ⟨tag, hread, hname, hsign, hends, (hiff hsign).2 hends⟩

/-- The end of a tag that closes itself, in a quoted value: the tag around it counts as closed, and
the region ends at the closing tag that should be the tag's. -/
theorem not_nestsAsRead_quotedTag :
    ∃ tag, read "<template title=\"<br/>\">".toList = some (tag, []) ∧
      isRawText (tag.name.map Char.toLower) = false ∧ tag.selfClosing = false ∧
      closeRegion "template".toList
          ("<template title=\"<br/>\">".toList ++ "</template></template>".toList) =
        .ok ("<template title=\"<br/>\">".toList, "</template>".toList) ∧
      ¬ tag.NestsAsRead := by
  let tag : OpenTag :=
    { name := "template".toList
      items := [⟨[' '], ⟨"title".toList, some ⟨[], [], .double, "<br/>".toList⟩⟩⟩]
      trailing := []
      selfClosing := false }
  have hw : tag.Written := by decide +kernel
  have hread : read "<template title=\"<br/>\">".toList = some (tag, []) :=
    read_complete hw (by decide +kernel) []
  have hname : isRawText (tag.name.map Char.toLower) = false := by decide +kernel
  have hunseen : '<' ∉ tag.unseen := by decide +kernel
  have hclosed : endsSelfClosed tag.seen = true := by decide +kernel
  refine ⟨tag, hread, hname, rfl, ?_, ?_⟩
  · have hregion := hw.closeRegion_nested hname hunseen
    rw [hclosed, if_pos rfl] at hregion
    exact hregion
  · rw [hw.nestsAsRead_iff_of_notMem hname hunseen, hclosed]
    simp [tag]

end OpenTag

end ComponentFile
