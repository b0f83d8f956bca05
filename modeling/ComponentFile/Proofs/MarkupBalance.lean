import ComponentFile.Proofs.Markup
import Mathlib

/-!
# Regions end where their tags balance

The end of a markup region is searched for with a counter.  What is meant by it says nothing of
counting as one goes: of the tags of the region's own name, read from left to right and with
comments left out, as many close as open, and at no point before that had more closed than opened.

**Reading.**  `readMarkup` lists the tags of a text, each with what stands before and behind it in
the whole text, and says where a comment is never closed.

**Balance.**  `Balanced` is the condition on a list of tags, for a search that begins with some
levels open.  `balanced_cons` is its step.  `IsEnd` says that a closing tag has balanced tags before
it, and `IsEnd.unended` that it is the first such tag.

**The counter.**  `closeMarkup_of_tag` is the step of the search at a tag.  From it follow, by
induction over the reading, where the search ends (`searched_closeMarkup`) and that its counter is
exact wherever it has come (`closeMarkup_after`).  **`closeRegion_balanced`** puts them together.
-/

namespace ComponentFile

/-! ## Reading -/

/-- The tags of a text of markup from left to right, and what stands before the comment that is
never closed, if there is one. -/
structure MarkupReading where
  tags : List (Found Boundary)
  unclosedComment : Option (List Char)

/-- Reads the rest of a text of which the beginning is passed.  Comments are left out; one that is
not closed ends the reading. -/
def readMarkup (passed text : List Char) : MarkupReading :=
  match _h : findFirst? readBoundary text with
  | none => ⟨[], none⟩
  | some ⟨before, boundary, after⟩ =>
    if boundary.kind = .comment then
      match _hc : splitAtFirst? commentClose after with
      | none => ⟨[], some (passed ++ before)⟩
      | some (inside, rest) =>
        readMarkup (passed ++ (before ++ boundary.text ++ inside ++ commentClose)) rest
    else
      let later := readMarkup (passed ++ (before ++ boundary.text)) after
      { later with tags := ⟨passed ++ before, boundary, after⟩ :: later.tags }
termination_by text.length
decreasing_by
  all_goals have hlt := length_after_lt length_of_readBoundary _h
  · have := eq_of_splitAtFirst? _hc
    simp_all; omega
  · exact hlt

/-- What was read of a text stands in it, in this order, and an unclosed comment behind it all. -/
structure MarkupReading.Of (reading : MarkupReading) (passed body : List Char) : Prop where
  split : ∀ tag ∈ reading.tags, body = tag.before ++ tag.value.text ++ tag.after
  read : ∀ tag ∈ reading.tags, ∃ here, readBoundary here = some (tag.value, tag.after)
  behind : ∀ tag ∈ reading.tags, passed <+: tag.before
  ordered : reading.tags.Pairwise fun tag next => tag.before ++ tag.value.text <+: next.before
  comment : ∀ before ∈ reading.unclosedComment, passed <+: before ∧
    (∀ tag ∈ reading.tags, tag.before ++ tag.value.text <+: before) ∧
    ∃ after, body = before ++ commentOpen ++ after ∧ ¬ commentClose <:+: after

theorem text_of_comment {text : List Char} {found : Found Boundary}
    (h : findFirst? readBoundary text = some found) (hkind : found.value.kind = .comment) :
    found.value.text = commentOpen := by
  obtain ⟨before, ⟨kind, lexeme⟩, after⟩ := found
  obtain rfl : kind = .comment := hkind
  obtain ⟨here, -, hr⟩ := read_of_findFirst? h
  exact readBoundary_comment hr

theorem readMarkup_of (passed text : List Char) :
    (readMarkup passed text).Of passed (passed ++ text) := by
  fun_induction readMarkup passed text with
  | case1 => exact ⟨by simp, by simp, by simp, by simp, by simp⟩
  | case2 passed text before boundary after hf hkind hs =>
    refine ⟨by simp, by simp, by simp, by simp, ?_⟩
    rintro _ ⟨⟩
    refine ⟨List.prefix_append _ _, by simp, after, ?_, splitAtFirst?_eq_none_iff.1 hs⟩
    rw [eq_of_findFirst?_readBoundary hf, text_of_comment hf hkind]
    simp
  | case3 passed text before boundary after hf hkind inside rest hs ih =>
    have htext : passed ++ text =
        passed ++ (before ++ boundary.text ++ inside ++ commentClose) ++ rest := by
      rw [eq_of_findFirst?_readBoundary hf, eq_of_splitAtFirst? hs]
      simp
    have hpassed := List.prefix_append passed (before ++ boundary.text ++ inside ++ commentClose)
    rw [htext]
    exact ⟨ih.split, ih.read, fun tag htag => hpassed.trans (ih.behind tag htag), ih.ordered,
      fun start hstart => (ih.comment start hstart).imp hpassed.trans id⟩
  | case4 passed text before boundary after hf hkind later ih =>
    have htext : passed ++ text = passed ++ (before ++ boundary.text) ++ after := by
      rw [eq_of_findFirst?_readBoundary hf]
      simp
    have hpassed := List.prefix_append passed (before ++ boundary.text)
    obtain ⟨here, -, hr⟩ := read_of_findFirst? hf
    rw [htext]
    refine ⟨?_, ?_, ?_, ?_, ?_⟩
    · simp only [List.forall_mem_cons]
      exact ⟨by simp, ih.split⟩
    · simp only [List.forall_mem_cons]
      exact ⟨⟨here, hr⟩, ih.read⟩
    · simp only [List.forall_mem_cons]
      exact ⟨List.prefix_append _ _, fun tag htag => hpassed.trans (ih.behind tag htag)⟩
    · refine List.pairwise_cons.2 ⟨fun next hnext => ?_, ih.ordered⟩
      simpa using ih.behind next hnext
    · intro start hstart
      obtain ⟨hbefore, htags, hcomment⟩ := ih.comment start hstart
      refine ⟨hpassed.trans hbefore, ?_, hcomment⟩
      simp only [List.forall_mem_cons]
      exact ⟨by simpa using hbefore, htags⟩

/-! ## Balance -/

/-- A tag that opens a level of the region of a name: it has the name and does not end in a slash.
-/
def opensLevel (name : List Char) (tag : Found Boundary) : Bool :=
  match tag.value.kind with
  | .opening other => sameName other name && !endsSelfClosed tag.value.text
  | _ => false

/-- A tag that closes a level of the region of a name. -/
def closesLevel (name : List Char) (tag : Found Boundary) : Bool :=
  match tag.value.kind with
  | .close other => sameName other name
  | _ => false

/-- If `depth` levels are open, these tags close them and those that they open themselves, and never
more than are open. -/
structure Balanced (name : List Char) (depth : Nat) (tags : List (Found Boundary)) : Prop where
  prefixes : ∀ front, front <+: tags →
    front.countP (closesLevel name) ≤ depth + front.countP (opensLevel name)
  total : tags.countP (closesLevel name) = depth + tags.countP (opensLevel name)

/-- The closing tag behind `earlier` ends the region: the tags before it balance. -/
structure IsEnd (name : List Char) (depth : Nat) (tags earlier : List (Found Boundary))
    (tag : Found Boundary) : Prop where
  place : earlier ++ [tag] <+: tags
  closes : closesLevel name tag = true
  balanced : Balanced name depth earlier

/-- No tag of a list ends the region. -/
def Unended (name : List Char) (depth : Nat) (tags : List (Found Boundary)) : Prop :=
  ∀ earlier tag, ¬ IsEnd name depth tags earlier tag

section

variable {name : List Char} {depth : Nat} {tag : Found Boundary} {tags : List (Found Boundary)}

/-- The levels that are open behind a tag. -/
def levelsBehind (name : List Char) (depth : Nat) (tag : Found Boundary) : Nat :=
  depth + (opensLevel name tag).toNat - (closesLevel name tag).toNat

theorem opensLevel_of_closesLevel (h : closesLevel name tag = true) :
    opensLevel name tag = false := by
  unfold closesLevel at h
  unfold opensLevel
  split at h
  · next hk => simp [hk]
  · cases h

/-- A closing tag takes away one of the levels that are open. -/
theorem levelsBehind_add (hgo : closesLevel name tag = true → depth ≠ 0) :
    levelsBehind name depth tag + (closesLevel name tag).toNat =
      depth + (opensLevel name tag).toNat := by
  unfold levelsBehind
  cases hc : closesLevel name tag with
  | false => rfl
  | true =>
    have := hgo hc
    simp
    omega

theorem countP_cons_toNat (p : Found Boundary → Bool) :
    (tag :: tags).countP p = tags.countP p + (p tag).toNat := by
  rw [List.countP_cons]
  cases p tag <;> rfl

theorem balanced_nil : Balanced name depth [] ↔ depth = 0 := by
  constructor
  · intro h
    simpa [eq_comm] using h.total
  · rintro rfl
    exact ⟨by simp, rfl⟩

/-- A tag in front changes the number of levels that are open. -/
theorem balanced_cons :
    Balanced name depth (tag :: tags) ↔
      (closesLevel name tag = true → depth ≠ 0) ∧
        Balanced name (levelsBehind name depth tag) tags := by
  constructor
  · intro h
    have hgo : closesLevel name tag = true → depth ≠ 0 := by
      intro hc
      have htag := h.prefixes [tag] (by simp)
      simp [hc, opensLevel_of_closesLevel hc] at htag
      omega
    have hlevels := levelsBehind_add hgo
    refine ⟨hgo, fun front hfront => ?_, ?_⟩
    · have := h.prefixes (tag :: front) (List.cons_prefix_cons.2 ⟨rfl, hfront⟩)
      rw [countP_cons_toNat, countP_cons_toNat] at this
      omega
    · have := h.total
      rw [countP_cons_toNat, countP_cons_toNat] at this
      omega
  · rintro ⟨hgo, h⟩
    have hlevels := levelsBehind_add hgo
    refine ⟨fun front hfront => ?_, ?_⟩
    · rcases List.prefix_cons_iff.1 hfront with rfl | ⟨front, rfl, hinner⟩
      · simp
      · have := h.prefixes front hinner
        rw [countP_cons_toNat, countP_cons_toNat]
        omega
    · have := h.total
      rw [countP_cons_toNat, countP_cons_toNat]
      omega

/-- Behind a tag that does not end the region the end is that of the tags behind it. -/
theorem isEnd_cons {earlier : List (Found Boundary)} {ending : Found Boundary}
    (hgo : closesLevel name tag = true → depth ≠ 0) :
    IsEnd name depth (tag :: tags) earlier ending ↔
      ∃ inner, earlier = tag :: inner ∧
        IsEnd name (levelsBehind name depth tag) tags inner ending := by
  constructor
  · rintro ⟨hplace, hcloses, hbalanced⟩
    cases earlier with
    | nil =>
      obtain ⟨rfl, -⟩ := List.cons_prefix_cons.1 hplace
      exact absurd (balanced_nil.1 hbalanced) (hgo hcloses)
    | cons first inner =>
      obtain ⟨rfl, hinner⟩ := List.cons_prefix_cons.1 hplace
      exact ⟨inner, rfl, hinner, hcloses, (balanced_cons.1 hbalanced).2⟩
  · rintro ⟨inner, rfl, hplace, hcloses, hbalanced⟩
    exact ⟨List.cons_prefix_cons.2 ⟨rfl, hplace⟩, hcloses, balanced_cons.2 ⟨hgo, hbalanced⟩⟩

theorem unended_nil : Unended name depth [] := by
  rintro earlier ending ⟨hplace, -, -⟩
  simp at hplace

theorem unended_cons :
    Unended name depth (tag :: tags) ↔ (closesLevel name tag = true → depth ≠ 0) ∧
      Unended name (levelsBehind name depth tag) tags := by
  constructor
  · intro h
    have hgo : closesLevel name tag = true → depth ≠ 0 := fun hcloses hdepth =>
      h [] tag ⟨by simp, hcloses, balanced_nil.2 hdepth⟩
    exact ⟨hgo, fun inner ending hend => h _ ending ((isEnd_cons hgo).2 ⟨inner, rfl, hend⟩)⟩
  · rintro ⟨hgo, h⟩ earlier ending hend
    obtain ⟨inner, rfl, hinner⟩ := (isEnd_cons hgo).1 hend
    exact h inner ending hinner

/-- **The end is the first**: a closing tag with balanced tags before it leaves one level too few
for any other. -/
theorem IsEnd.unended {earlier : List (Found Boundary)} (h : IsEnd name depth tags earlier tag) :
    Unended name depth earlier := by
  rintro front other ⟨hplace, hcloses, hbalanced⟩
  have hle := h.balanced.prefixes _ hplace
  have hopens := opensLevel_of_closesLevel hcloses
  have htotal := hbalanced.total
  simp [hcloses, hopens] at hle
  omega

theorem IsEnd.unique {earlier others : List (Found Boundary)} {other : Found Boundary}
    (h : IsEnd name depth tags earlier tag) (ho : IsEnd name depth tags others other) :
    other = tag := by
  rcases List.prefix_or_prefix_of_prefix h.place ho.place with hle | hle
  · rcases List.prefix_concat_iff.1 hle with heq | hle
    · exact (List.cons.inj (List.append_inj' heq rfl).2).1.symm
    · exact absurd ⟨hle, h.closes, h.balanced⟩ (ho.unended earlier tag)
  · rcases List.prefix_concat_iff.1 hle with heq | hle
    · exact (List.cons.inj (List.append_inj' heq rfl).2).1
    · exact absurd ⟨hle, ho.closes, ho.balanced⟩ (h.unended others other)

/-! ## The search at a boundary -/

variable {text : List Char} {found : Found Boundary}

theorem closeMarkup_of_none (h : findFirst? readBoundary text = none) :
    closeMarkup name depth text = .error (.unclosed (byteLength text)) := by
  rw [closeMarkup_eq, h]

theorem closeMarkup_of_unclosed (h : findFirst? readBoundary text = some found)
    (hkind : found.value.kind = .comment) (hs : splitAtFirst? commentClose found.after = none) :
    closeMarkup name depth text = .error (.unclosedComment (byteLength found.before)) := by
  obtain ⟨before, ⟨kind, lexeme⟩, after⟩ := found
  obtain rfl : kind = .comment := hkind
  rw [closeMarkup_eq, h]
  simp only [hs]

theorem closeMarkup_of_comment {inside rest : List Char}
    (h : findFirst? readBoundary text = some found) (hkind : found.value.kind = .comment)
    (hs : splitAtFirst? commentClose found.after = some (inside, rest)) :
    closeMarkup name depth text =
      prepend (found.before ++ found.value.text ++ inside ++ commentClose)
        (closeMarkup name depth rest) := by
  obtain ⟨before, ⟨kind, lexeme⟩, after⟩ := found
  obtain rfl : kind = .comment := hkind
  rw [closeMarkup_eq, h]
  simp only [hs]

theorem closeMarkup_of_end (h : findFirst? readBoundary text = some found)
    (hcloses : closesLevel name found = true) :
    closeMarkup name 0 text = .ok (found.before, found.after) := by
  obtain ⟨before, ⟨kind, lexeme⟩, after⟩ := found
  cases kind with
  | close other =>
    have hsame : sameName other name = true := hcloses
    rw [closeMarkup_eq, h]
    simp only [hsame, if_true]
  | comment => cases hcloses
  | opening other => cases hcloses

/-- **The counter at a tag** that does not end the region. -/
theorem closeMarkup_of_tag (h : findFirst? readBoundary text = some found)
    (hkind : found.value.kind ≠ .comment) (hgo : closesLevel name found = true → depth ≠ 0) :
    closeMarkup name depth text =
      prepend (found.before ++ found.value.text)
        (closeMarkup name (levelsBehind name depth found) found.after) := by
  obtain ⟨before, ⟨kind, lexeme⟩, after⟩ := found
  rw [closeMarkup_eq, h]
  cases kind with
  | comment => exact absurd rfl hkind
  | close other =>
    cases hsame : sameName other name with
    | false => simp [levelsBehind, opensLevel, closesLevel, hsame]
    | true =>
      obtain ⟨depth, rfl⟩ := Nat.exists_eq_succ_of_ne_zero (hgo hsame)
      simp [levelsBehind, opensLevel, closesLevel, hsame]
  | opening other =>
    have hlevels : levels name other lexeme =
        (sameName other name && !endsSelfClosed lexeme).toNat := by
      unfold levels
      cases sameName other name && !endsSelfClosed lexeme <;> rfl
    simp [levelsBehind, opensLevel, closesLevel, hlevels]

/-! ## The search as a run -/

/-- What an outcome of the search says about the reading of a text behind `passed`. -/
def Searched (name : List Char) (depth : Nat) (reading : MarkupReading) (passed text : List Char) :
    Except RegionFault (List Char × List Char) → Prop
  | .ok (contents, rest) => ∃ earlier tag, IsEnd name depth reading.tags earlier tag ∧
      tag.before = passed ++ contents ∧ tag.after = rest
  | .error (.unclosedComment offset) => Unended name depth reading.tags ∧
      ∃ before, reading.unclosedComment = some (passed ++ before) ∧ byteLength before = offset
  | .error (.unclosed offset) => Unended name depth reading.tags ∧
      reading.unclosedComment = none ∧ offset = byteLength text

/-- The same outcome for a search that begins earlier and passes over more. -/
theorem Searched.prepend {reading later : MarkupReading} {behind : Nat} {passed more : List Char}
    {outcome : Except RegionFault (List Char × List Char)}
    (h : Searched name behind later (passed ++ more) text outcome)
    (hend : ∀ earlier tag, IsEnd name behind later.tags earlier tag →
      ∃ others, IsEnd name depth reading.tags others tag)
    (hunended : Unended name behind later.tags → Unended name depth reading.tags)
    (hcomment : reading.unclosedComment = later.unclosedComment) :
    Searched name depth reading passed (more ++ text) (ComponentFile.prepend more outcome) := by
  match outcome, h with
  | .ok (contents, rest), ⟨earlier, tag, htag, hbefore, hafter⟩ =>
    obtain ⟨others, hothers⟩ := hend earlier tag htag
    exact ⟨others, tag, hothers, by rw [hbefore, List.append_assoc], hafter⟩
  | .error (.unclosedComment offset), ⟨hno, before, hbefore, hoffset⟩ =>
    exact ⟨hunended hno, more ++ before, by rw [hcomment, hbefore, List.append_assoc],
      by rw [byteLength_append, hoffset]⟩
  | .error (.unclosed offset), ⟨hno, hnone, hoffset⟩ =>
    exact ⟨hunended hno, hcomment.trans hnone, by rw [byteLength_append, hoffset]⟩

/-- **Where the search ends**, at any depth: the induction is over the reading, with the step at a
tag. -/
theorem searched_closeMarkup (name : List Char) (depth : Nat) (passed text : List Char) :
    Searched name depth (readMarkup passed text) passed text (closeMarkup name depth text) := by
  fun_induction readMarkup passed text generalizing depth with
  | case1 passed text hf =>
    rw [closeMarkup_of_none hf]
    exact ⟨unended_nil, rfl, rfl⟩
  | case2 passed text before boundary after hf hkind hs =>
    rw [closeMarkup_of_unclosed hf hkind hs]
    exact ⟨unended_nil, before, rfl, rfl⟩
  | case3 passed text before boundary after hf hkind inside rest hs ih =>
    have htext : text = before ++ boundary.text ++ inside ++ commentClose ++ rest := by
      rw [eq_of_findFirst?_readBoundary hf, eq_of_splitAtFirst? hs]
      simp
    rw [closeMarkup_of_comment hf hkind hs]
    have hsearched := (ih depth).prepend (fun earlier tag h => ⟨earlier, h⟩) id rfl
    rwa [← htext] at hsearched
  | case4 passed text before boundary after hf hkind later ih =>
    have htext : text = before ++ boundary.text ++ after := eq_of_findFirst?_readBoundary hf
    by_cases hgo : closesLevel name ⟨passed ++ before, boundary, after⟩ = true → depth ≠ 0
    · let reading : MarkupReading :=
        { later with tags := ⟨passed ++ before, boundary, after⟩ :: later.tags }
      have hsearched : Searched name depth reading passed (before ++ boundary.text ++ after) _ :=
        (ih (levelsBehind name depth ⟨passed ++ before, boundary, after⟩)).prepend
          (fun earlier tag h => ⟨_, (isEnd_cons hgo).2 ⟨earlier, rfl, h⟩⟩)
          (fun h => unended_cons.2 ⟨hgo, h⟩) rfl
      rw [← htext] at hsearched
      rw [closeMarkup_of_tag hf hkind hgo]
      exact hsearched
    · -- a closing tag at the outermost level is the end
      simp only [Classical.not_imp, not_not] at hgo
      obtain ⟨hcloses, rfl⟩ := hgo
      rw [closeMarkup_of_end hf hcloses]
      exact ⟨[], _, ⟨by simp, hcloses, balanced_nil.2 rfl⟩, rfl, rfl⟩

/-- Only one outcome is in accordance with the reading. -/
theorem Searched.unique {reading : MarkupReading} {passed : List Char}
    {outcome other : Except RegionFault (List Char × List Char)}
    (h : Searched name depth reading passed text outcome)
    (ho : Searched name depth reading passed text other) : other = outcome := by
  match outcome, other, h, ho with
  | .ok (contents, rest), .ok (otherContents, otherRest), ⟨_, tag, hend, hbefore, hafter⟩,
      ⟨_, otherTag, hotherEnd, hotherBefore, hotherAfter⟩ =>
    obtain rfl := hend.unique hotherEnd
    obtain rfl := List.append_cancel_left (hotherBefore.symm.trans hbefore)
    rw [← hafter, ← hotherAfter]
  | .ok _, .error (.unclosedComment _), ⟨_, _, hend, _⟩, ⟨hno, _⟩ => exact absurd hend (hno _ _)
  | .ok _, .error (.unclosed _), ⟨_, _, hend, _⟩, ⟨hno, _⟩ => exact absurd hend (hno _ _)
  | .error (.unclosedComment _), .ok _, ⟨hno, _⟩, ⟨_, _, hend, _⟩ => exact absurd hend (hno _ _)
  | .error (.unclosed _), .ok _, ⟨hno, _⟩, ⟨_, _, hend, _⟩ => exact absurd hend (hno _ _)
  | .error (.unclosedComment _), .error (.unclosedComment _), ⟨_, before, hbefore, hoffset⟩,
      ⟨_, otherBefore, hotherBefore, hotherOffset⟩ =>
    obtain rfl := List.append_cancel_left (Option.some.inj (hotherBefore.symm.trans hbefore))
    rw [← hoffset, ← hotherOffset]
  | .error (.unclosedComment _), .error (.unclosed _), ⟨_, _, hsome, _⟩, ⟨_, hnone, _⟩ =>
    rw [hnone] at hsome
    cases hsome
  | .error (.unclosed _), .error (.unclosedComment _), ⟨_, hnone, _⟩, ⟨_, _, hsome, _⟩ =>
    rw [hnone] at hsome
    cases hsome
  | .error (.unclosed _), .error (.unclosed _), ⟨_, _, hoffset⟩, ⟨_, _, hotherOffset⟩ =>
    rw [hoffset, hotherOffset]

theorem closeMarkup_eq_iff {outcome : Except RegionFault (List Char × List Char)} :
    closeMarkup name depth text = outcome ↔
      Searched name depth (readMarkup [] text) [] text outcome := by
  constructor
  · rintro rfl
    exact searched_closeMarkup name depth [] text
  · intro h
    exact h.unique (searched_closeMarkup name depth [] text)

/-- The text up to the end of the last of some tags. -/
def textThrough (passed : List Char) : List (Found Boundary) → List Char
  | [] => passed
  | tag :: tags => textThrough (tag.before ++ tag.value.text) tags

/-- The search for the end of a region goes on behind some tags, with the levels that they leave
open. -/
structure GoesOn (name : List Char) (depth : Nat) (passed text : List Char)
    (earlier : List (Found Boundary)) (levels : Nat) (skipped rest : List Char) : Prop where
  split : text = skipped ++ rest
  place : passed ++ skipped = textThrough passed earlier
  count : earlier.countP (closesLevel name) + levels = depth + earlier.countP (opensLevel name)
  search : closeMarkup name depth text =
    ComponentFile.prepend skipped (closeMarkup name levels rest)

theorem goesOn_nil (passed : List Char) : GoesOn name depth passed text [] depth [] text :=
  ⟨rfl, List.append_nil passed, by simp, (prepend_nil _).symm⟩

/-- **The counter is exact.**  Having passed tags of which none ends the region, the search goes on
behind the last of them with as many levels as they leave open. -/
theorem closeMarkup_after {passed : List Char} {earlier : List (Found Boundary)}
    (h : earlier <+: (readMarkup passed text).tags) (hgo : Unended name depth earlier) :
    ∃ levels skipped rest, GoesOn name depth passed text earlier levels skipped rest := by
  fun_induction readMarkup passed text generalizing earlier depth with
  | case1 passed text hf =>
    obtain rfl := List.prefix_nil.1 h
    exact ⟨_, _, _, goesOn_nil passed⟩
  | case2 passed text before boundary after hf hkind hs =>
    obtain rfl := List.prefix_nil.1 h
    exact ⟨_, _, _, goesOn_nil passed⟩
  | case3 passed text before boundary after hf hkind inside rest hs ih =>
    cases earlier with
    -- behind no tag at all the search is where it began, in front of the comment
    | nil => exact ⟨_, _, _, goesOn_nil passed⟩
    | cons first inner =>
      obtain ⟨levels, skipped, behind, hsplit, hplace, hcount, hsearch⟩ := ih h hgo
      refine ⟨levels, before ++ boundary.text ++ inside ++ commentClose ++ skipped, behind, ?_, ?_,
        hcount, ?_⟩
      · rw [eq_of_findFirst?_readBoundary hf, eq_of_splitAtFirst? hs, hsplit]
        simp
      · rw [← List.append_assoc]
        exact hplace
      · rw [closeMarkup_of_comment hf hkind hs, hsearch, prepend_prepend]
  | case4 passed text before boundary after hf hkind later =>
    rename_i ih
    cases earlier with
    | nil => exact ⟨_, _, _, goesOn_nil passed⟩
    | cons first inner =>
      obtain ⟨rfl, hinner⟩ := List.cons_prefix_cons.1 h
      obtain ⟨hopen, hinnerGo⟩ := unended_cons.1 hgo
      obtain ⟨levels, skipped, behind, hsplit, hplace, hcount, hsearch⟩ := ih hinner hinnerGo
      refine ⟨levels, before ++ boundary.text ++ skipped, behind, ?_, ?_, ?_, ?_⟩
      · rw [eq_of_findFirst?_readBoundary hf, hsplit]
        simp
      · simpa [textThrough] using hplace
      · have hlevels := levelsBehind_add hopen
        rw [countP_cons_toNat, countP_cons_toNat]
        omega
      · rw [closeMarkup_of_tag hf hkind hopen, ← prepend_prepend (before ++ boundary.text)]
        exact congrArg _ hsearch

end

/-! ## Regions -/

/-- The counter of a search that has passed some tags, as an integer: one for the region itself, and
one more or less for every tag that opens or closes a level. -/
def levelCount (name : List Char) (tags : List (Found Boundary)) : Int :=
  1 + tags.countP (opensLevel name) - tags.countP (closesLevel name)

/-- A tag that ends the region is a closing tag of its name. -/
theorem MarkupReading.Of.closingTag {reading : MarkupReading} {passed body name : List Char}
    (h : reading.Of passed body) {depth : Nat} {earlier : List (Found Boundary)}
    {tag : Found Boundary} (hend : IsEnd name depth reading.tags earlier tag) :
    ∃ closing : ClosingTag,
      closing.Names name ∧ body = tag.before ++ closing.chars ++ tag.after := by
  have hmem : tag ∈ reading.tags := hend.place.subset (by simp)
  have hcloses := hend.closes
  obtain ⟨here, hread⟩ := h.read tag hmem
  have hsplit := h.split tag hmem
  obtain ⟨before, ⟨kind, lexeme⟩, after⟩ := tag
  cases kind with
  | close other =>
    obtain ⟨closing, rfl, hblanks, rfl⟩ := readBoundary_close hread
    exact ⟨closing, ⟨hcloses, hblanks⟩, hsplit⟩
  | comment => cases hcloses
  | opening other => cases hcloses

/-- **Markup regions end where their tags balance.**  The contents end at the closing tag that
leaves the tags before it balanced, of which there is only one; an unclosed comment is the fault
where no such tag stands before it, and in all other cases the region is unclosed.  On the way the
counter is exact, never below one, and the search is behind the tags that it has counted. -/
theorem closeRegion_balanced {name : List Char} (hname : isRawText name = false)
    (body : List Char) :
    let reading := readMarkup [] body
    reading.Of [] body ∧
    (∀ contents rest, closeRegion name body = .ok (contents, rest) ↔
      ∃ earlier tag, IsEnd name 0 reading.tags earlier tag ∧
        tag.before = contents ∧ tag.after = rest) ∧
    (∀ earlier tag, IsEnd name 0 reading.tags earlier tag →
      Unended name 0 earlier ∧
      ∃ closing : ClosingTag, closing.Names name ∧
        body = tag.before ++ closing.chars ++ tag.after ∧
        byteLength tag.before < byteLength (tag.before ++ closing.chars) ∧
        byteLength (tag.before ++ closing.chars) ≤ byteLength body) ∧
    (∀ offset, closeRegion name body = .error (.unclosedComment offset) ↔
      Unended name 0 reading.tags ∧
        ∃ before, reading.unclosedComment = some before ∧ byteLength before = offset) ∧
    (∀ offset, closeRegion name body = .error (.unclosed offset) ↔
      Unended name 0 reading.tags ∧ reading.unclosedComment = none ∧ offset = byteLength body) ∧
    ∀ earlier, earlier <+: reading.tags → Unended name 0 earlier →
      1 ≤ levelCount name earlier ∧
      ∃ rest, body = textThrough [] earlier ++ rest ∧
        closeRegion name body = prepend (textThrough [] earlier)
          (closeMarkup name (levelCount name earlier - 1).toNat rest) := by
  intro reading
  have hreading : reading.Of [] body := readMarkup_of [] body
  have hregion : closeRegion name body = closeMarkup name 0 body := by
    simp [closeRegion, hname]
  rw [hregion]
  refine ⟨hreading, fun contents rest => closeMarkup_eq_iff, fun earlier tag hend => ?_,
    fun offset => closeMarkup_eq_iff, fun offset => closeMarkup_eq_iff,
    fun earlier hearlier hgo => ?_⟩
  · obtain ⟨closing, hnames, hbody⟩ := hreading.closingTag hend
    refine ⟨hend.unended, closing, hnames, hbody, ?_, ?_⟩
    · have := Char.utf8Size_pos '<'
      rw [byteLength_append, ClosingTag.chars, byteLength_cons]
      omega
    · rw [hbody, byteLength_append _ tag.after]
      omega
  · obtain ⟨levels, skipped, rest, hsplit, hplace, hcount, hsearch⟩ :=
      closeMarkup_after hearlier hgo
    obtain rfl : skipped = textThrough [] earlier := hplace
    have hlevels : levelCount name earlier = levels + 1 := by
      unfold levelCount
      omega
    refine ⟨by omega, rest, hsplit, ?_⟩
    rw [hsearch, hlevels]
    simp

/-- A template with an element of its own name, which is closed in capitals, one that closes itself
and a closing tag in a comment. -/
theorem closeRegion_balanced_nested :
    isRawText "template".toList = false ∧
    ∃ earlier tag,
      IsEnd "template".toList 0
        (readMarkup [] ("<template a><template/></TEMPLATE\n><!-- </template> --><p></template>" ++
          "</template>").toList).tags earlier tag ∧
      tag.before = "<template a><template/></TEMPLATE\n><!-- </template> --><p>".toList ∧
      tag.after = "</template>".toList := by
  have hname : isRawText "template".toList = false := by decide
  obtain ⟨-, hends, -⟩ := closeRegion_balanced hname
    ("<template a><template/></TEMPLATE\n><!-- </template> --><p></template>" ++
      "</template>").toList
  exact ⟨hname, (hends _ _).1 (by decide +kernel)⟩

end ComponentFile
