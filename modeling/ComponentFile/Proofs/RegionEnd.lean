import ComponentFile.Document.Markup
import ComponentFile.Proofs.OpenTag
import Mathlib

/-!
# How regions end

The text after an opening tag is cut by `closeRegion` into the contents of the region, its closing
tag and the rest, or a fault says why it cannot be cut.  This module says what each outcome means.

* `ClosingTag` — a closing tag as it is written; `ClosingTag.Names` and `ClosingTag.Folds` are the
  two ways in which it can be that of a region, for markup and for raw text.
* `EndsAs` — what an outcome says about the text.  A fault is placed in the text: at its end, or at
  the start of a comment that is never closed.
* **`endsAs_closeRegion`** — every outcome of `closeRegion` says the truth.
* **`closeRaw_eq_ok_iff`** — raw text ends at the first closing tag of its name, so that the
  contents hold none.
* `closeMarkup_eq`, `closeMarkup_append` — the search through markup as a step, and what it passes
  over.

The search carries the text that it has passed over, so the proofs need it in one form only:
`EndsAs.prepend` moves an outcome to a text that begins earlier.
-/

namespace ComponentFile

/-! ## Closing tags -/

/-- A closing tag as it is written. -/
structure ClosingTag where
  name : List Char
  blanks : List Char
deriving DecidableEq, Repr

namespace ClosingTag

/-- The text of a closing tag. -/
def chars (tag : ClosingTag) : List Char := '<' :: '/' :: (tag.name ++ (tag.blanks ++ ['>']))

/-- A closing tag of a markup region: the names differ in ASCII case only. -/
structure Names (tag : ClosingTag) (name : List Char) : Prop where
  name : sameName tag.name name = true
  blanks : ∀ c ∈ tag.blanks, isBlank c = true

instance (tag : ClosingTag) (name : List Char) : Decidable (tag.Names name) :=
  decidable_of_iff (sameName tag.name name = true ∧ tag.blanks.all isBlank = true)
    ⟨fun h => ⟨h.1, List.all_eq_true.1 h.2⟩, fun h => ⟨h.name, List.all_eq_true.2 h.blanks⟩⟩

/-- A closing tag of a raw-text region: the names are the same under simple case folding. -/
structure Folds (tag : ClosingTag) (name : List Char) : Prop where
  name : List.Forall₂ (fun letter c => foldsTo letter c = true) name tag.name
  blanks : ∀ c ∈ tag.blanks, isBlank c = true

/-- A closing tag of the region of a name. -/
def Closes (tag : ClosingTag) (name : List Char) : Prop :=
  if isRawText name then tag.Folds name else tag.Names name

end ClosingTag

theorem sameName_iff {a b : List Char} :
    sameName a b = true ↔ a.map Char.toLower = b.map Char.toLower := by
  simp [sameName]

theorem sameName_map_toLower (a b : List Char) :
    sameName a (b.map Char.toLower) = sameName a b := by
  have hmap : (b.map Char.toLower).map Char.toLower = b.map Char.toLower := by
    simp [Function.comp_def]
  simp [sameName, hmap]

/-! ## Outcomes -/

/-- What an outcome says about the text after an opening tag, if `closes` are the closing tags of
the region. -/
def EndsAs (closes : ClosingTag → Prop) (text : List Char) :
    Except RegionFault (List Char × List Char) → Prop
  | .ok (contents, rest) => ∃ tag, closes tag ∧ text = contents ++ tag.chars ++ rest
  | .error (.unclosed offset) => offset = byteLength text
  | .error (.unclosedComment offset) =>
    ∃ before after, text = before ++ commentOpen ++ after ∧ byteLength before = offset ∧
      ¬ commentClose <:+: after

/-- The same outcome in a text that begins earlier. -/
theorem EndsAs.prepend {closes : ClosingTag → Prop} {text : List Char}
    {found : Except RegionFault (List Char × List Char)} (h : EndsAs closes text found)
    (passed : List Char) : EndsAs closes (passed ++ text) (ComponentFile.prepend passed found) := by
  match found, h with
  | .ok (contents, rest), ⟨tag, ht, he⟩ => exact ⟨tag, ht, by rw [he]; simp⟩
  | .error (.unclosed offset), he =>
    rw [show offset = byteLength text from he]
    exact (byteLength_append passed text).symm
  | .error (.unclosedComment offset), ⟨before, after, he, ho, hn⟩ =>
    exact ⟨passed ++ before, after, by rw [he]; simp, by rw [byteLength_append, ho], hn⟩

/-! ## Raw text -/

theorem afterFolded?_eq_some_iff {name text rest : List Char} :
    afterFolded? name text = some rest ↔
      ∃ written, List.Forall₂ (fun letter c => foldsTo letter c = true) name written ∧
        text = written ++ rest := by
  induction name generalizing text with
  | nil =>
    simp only [afterFolded?, List.forall₂_nil_left_iff, exists_eq_left, List.nil_append,
      Option.some.injEq]
  | cons l ls ih =>
    cases text with
    | nil => simp [afterFolded?, List.forall₂_cons_left_iff]
    | cons c cs =>
      rw [afterFolded?]
      split
      · next hl =>
        rw [ih]
        constructor
        · rintro ⟨written, hw, rfl⟩
          exact ⟨c :: written, List.Forall₂.cons hl hw, rfl⟩
        · rintro ⟨written, hw, he⟩
          obtain ⟨d, ds, -, hds, rfl⟩ := List.forall₂_cons_left_iff.1 hw
          obtain ⟨rfl, rfl⟩ := List.cons.inj he
          exact ⟨ds, hds, rfl⟩
      · next hl =>
        constructor
        · intro h
          cases h
        · rintro ⟨written, hw, he⟩
          obtain ⟨d, ds, hd, -, rfl⟩ := List.forall₂_cons_left_iff.1 hw
          obtain ⟨rfl, rfl⟩ := List.cons.inj he
          exact absurd hd hl

theorem stopsBefore_sign (rest : List Char) : StopsBefore isBlank ('>' :: rest) :=
  stopsBefore_cons.2 (by decide)

/-- The closing tag read is one of the region's name, and every such tag is read. -/
theorem readRawClose_eq_some_iff {name text rest : List Char} {u : Unit} :
    readRawClose name text = some (u, rest) ↔
      ∃ tag : ClosingTag, tag.Folds name ∧ text = tag.chars ++ rest := by
  constructor
  · intro h
    unfold readRawClose at h
    split at h
    · simp only [Option.bind_eq_bind, Option.bind_eq_some_iff] at h
      obtain ⟨afterName, hn, h⟩ := h
      split at h
      · next r hr =>
        cases h
        obtain ⟨written, hw, rfl⟩ := afterFolded?_eq_some_iff.1 hn
        refine ⟨⟨written, takeBlanks afterName⟩, ⟨hw, fun c => isBlank_of_mem_takeBlanks⟩, ?_⟩
        have hb := takeBlanks_append_dropBlanks afterName
        rw [hr] at hb
        simp [ClosingTag.chars, hb]
      · cases h
    · cases h
  · rintro ⟨⟨written, blanks⟩, ⟨hw, hb⟩, rfl⟩
    have hn : afterFolded? name (written ++ (blanks ++ '>' :: rest)) =
        some (blanks ++ '>' :: rest) :=
      afterFolded?_eq_some_iff.2 ⟨written, hw, rfl⟩
    have hd := dropBlanks_append hb (stopsBefore_sign rest)
    simp [ClosingTag.chars, readRawClose, hn, hd]

theorem notMem_of_folded {name written : List Char}
    (h : List.Forall₂ (fun letter c => foldsTo letter c = true) name written) (hname : '<' ∉ name) :
    '<' ∉ written := by
  induction h with
  | nil => exact hname
  | cons hl _ ih =>
    simp only [List.mem_cons, not_or] at hname ⊢
    refine ⟨?_, ih hname.2⟩
    rintro rfl
    simp only [foldsTo, Bool.or_eq_true, Bool.and_eq_true, beq_iff_eq] at hl
    rcases hl with (hl | hl) | hl
    · exact hname.1 hl
    · exact absurd hl.2 (by decide)
    · exact absurd hl.2 (by decide)

/-- No closing tag of raw text has a `<` behind its first character. -/
theorem ClosingTag.Folds.notMem_tail {tag : ClosingTag} {name : List Char} (h : tag.Folds name)
    (hname : '<' ∉ name) : '<' ∉ '/' :: (tag.name ++ (tag.blanks ++ ['>'])) := by
  have hb : '<' ∉ tag.blanks := by
    intro hmem
    exact absurd (h.blanks _ hmem) (by decide)
  simp [notMem_of_folded h.name hname, hb]

/-- In front of a closing tag nothing is found exactly if the text there holds no closing tag: one
that begins in the text cannot reach into the next. -/
theorem silent_readRawClose_iff {name contents rest : List Char} {tag : ClosingTag}
    (hname : '<' ∉ name) :
    Silent (readRawClose name) contents (tag.chars ++ rest) ↔
      ∀ inner : ClosingTag, inner.Folds name → ¬ inner.chars <:+: contents := by
  constructor
  · rintro h inner hi ⟨p, q, rfl⟩
    have hread : readRawClose name (inner.chars ++ q ++ (tag.chars ++ rest)) =
        some ((), q ++ (tag.chars ++ rest)) :=
      readRawClose_eq_some_iff.2 ⟨inner, hi, by simp⟩
    have hnone := h (inner.chars ++ q) (by simp [ClosingTag.chars]) ⟨p, by simp⟩
    rw [hread] at hnone
    cases hnone
  · rintro h tail hne ⟨p, rfl⟩
    rw [Option.eq_none_iff_forall_ne_some]
    rintro ⟨u, r⟩ hread
    obtain ⟨inner, hi, he⟩ := readRawClose_eq_some_iff.1 hread
    rcases List.append_eq_append_iff.1 he with ⟨more, hmore, htail⟩ | ⟨q, rfl, -⟩
    · -- the tag would begin in `contents` and go on with the `<` of the closing tag
      cases more with
      | nil => exact h inner hi ⟨p, [], by rw [hmore]; simp⟩
      | cons c more =>
        have hc : c = '<' := by
          have := (List.cons.inj (htail : '<' :: _ = c :: _)).1
          exact this.symm
        subst hc
        obtain ⟨d, tail, rfl⟩ := List.exists_cons_of_ne_nil hne
        have hin : '<' ∈ '/' :: (inner.name ++ (inner.blanks ++ ['>'])) := by
          have := (List.cons.inj (hmore : '<' :: _ = d :: (tail ++ '<' :: more))).2
          rw [this]
          simp
        exact hi.notMem_tail hname hin
    · exact h inner hi ⟨p, q, by simp⟩

/-- **Raw text ends at the first closing tag**: the contents hold none, and the rest follows the
tag. -/
theorem closeRaw_eq_ok_iff {name text contents rest : List Char} (hname : '<' ∉ name) :
    closeRaw name text = .ok (contents, rest) ↔
      ∃ tag : ClosingTag, tag.Folds name ∧ text = contents ++ tag.chars ++ rest ∧
        ∀ inner : ClosingTag, inner.Folds name → ¬ inner.chars <:+: contents := by
  unfold closeRaw
  constructor
  · intro h
    split at h
    · next found hf =>
      cases h
      obtain ⟨here, rfl, hr, hs⟩ := findFirst?_eq_some_iff.1 hf
      obtain ⟨tag, ht, rfl⟩ := readRawClose_eq_some_iff.1 hr
      exact ⟨tag, ht, by simp, (silent_readRawClose_iff hname).1 hs⟩
    · cases h
  · rintro ⟨tag, ht, rfl, hfirst⟩
    have hread : readRawClose name (tag.chars ++ rest) = some ((), rest) :=
      readRawClose_eq_some_iff.2 ⟨tag, ht, rfl⟩
    rw [List.append_assoc, findFirst?_append ((silent_readRawClose_iff hname).2 hfirst),
      findFirst?_of_read hread]
    simp

/-- Raw text that is not closed holds no closing tag. -/
theorem not_infix_of_closeRaw_error {name text : List Char} {fault : RegionFault}
    (h : closeRaw name text = .error fault) {tag : ClosingTag} (ht : tag.Folds name) :
    ¬ tag.chars <:+: text := by
  rintro ⟨p, q, rfl⟩
  unfold closeRaw at h
  split at h
  · cases h
  · next hf =>
    have hnone := findFirst?_eq_none_iff.1 hf (tag.chars ++ q) ⟨p, by simp⟩
    have hread : readRawClose name (tag.chars ++ q) = some ((), q) :=
      readRawClose_eq_some_iff.2 ⟨tag, ht, rfl⟩
    rw [hread] at hnone
    cases hnone

theorem notMem_of_isRawText {name : List Char} (h : isRawText name = true) : '<' ∉ name := by
  simp only [isRawText, Bool.or_eq_true, beq_iff_eq] at h
  rcases h with rfl | rfl
  · decide
  · decide

theorem endsAs_closeRaw (name text : List Char) :
    EndsAs (·.Folds name) text (closeRaw name text) := by
  unfold closeRaw
  split
  · next found hf =>
    obtain ⟨here, rfl, hr, -⟩ := findFirst?_eq_some_iff.1 hf
    obtain ⟨tag, ht, rfl⟩ := readRawClose_eq_some_iff.1 hr
    exact ⟨tag, ht, by simp⟩
  · rfl

/-! ## Boundaries in markup -/

/-- No tag looks like a comment. -/
theorem afterLiteral?_commentOpen_name {name : List Char} (h : IsTagName name) (rest : List Char) :
    afterLiteral? commentOpen ('<' :: (name ++ rest)) = none := by
  cases name with
  | nil => exact absurd h id
  | cons c cs =>
    have hc : '!' ≠ c := by
      rintro rfl
      exact absurd h.1 (by decide)
    simp [afterLiteral?, commentOpen, hc]

theorem readCloseTag_sound {text rest : List Char} {b : Boundary}
    (h : readCloseTag text = some (b, rest)) :
    ∃ tag : ClosingTag, IsTagName tag.name ∧ (∀ c ∈ tag.blanks, isBlank c = true) ∧
      b = ⟨.close tag.name, tag.chars⟩ := by
  unfold readCloseTag at h
  split at h
  · simp only [Option.bind_eq_bind, Option.bind_eq_some_iff] at h
    obtain ⟨⟨name, afterName⟩, hn, h⟩ := h
    split at h
    · cases h
      exact ⟨⟨name, takeBlanks afterName⟩, (readTagName_sound hn).1,
        fun c => isBlank_of_mem_takeBlanks, by simp [ClosingTag.chars]⟩
    · cases h
  · cases h

theorem kind_of_readOpening {text rest : List Char} {b : Boundary}
    (h : readOpening text = some (b, rest)) : ∃ name, b.kind = .opening name := by
  unfold readOpening at h
  split at h
  · simp only [Option.bind_eq_bind, Option.bind_eq_some_iff] at h
    obtain ⟨⟨name, afterName⟩, hn, h⟩ := h
    split at h
    · cases h; exact ⟨name, rfl⟩
    · split at h
      · obtain ⟨⟨inside, r⟩, -, he⟩ := Option.map_eq_some_iff.1 h
        cases he
        exact ⟨name, rfl⟩
      · cases h
    · cases h
  · cases h

/-- A boundary that is read as a closing tag has the text of one. -/
theorem readBoundary_close {text rest other lexeme : List Char}
    (h : readBoundary text = some (⟨.close other, lexeme⟩, rest)) :
    ∃ tag : ClosingTag, tag.name = other ∧ (∀ c ∈ tag.blanks, isBlank c = true) ∧
      lexeme = tag.chars := by
  unfold readBoundary at h
  split at h
  · cases h
  · rcases Option.or_eq_some_iff.1 h with h | ⟨-, h⟩
    · obtain ⟨tag, -, hb, he⟩ := readCloseTag_sound h
      obtain ⟨hk, rfl⟩ := Boundary.mk.inj he
      exact ⟨tag, (BoundaryKind.close.inj hk).symm, hb, rfl⟩
    · obtain ⟨name, hk⟩ := kind_of_readOpening h
      cases hk

theorem readBoundary_comment {text rest lexeme : List Char}
    (h : readBoundary text = some (⟨.comment, lexeme⟩, rest)) : lexeme = commentOpen := by
  unfold readBoundary at h
  split at h
  · cases h; rfl
  · rcases Option.or_eq_some_iff.1 h with h | ⟨-, h⟩
    · obtain ⟨tag, -, -, he⟩ := readCloseTag_sound h
      cases he
    · obtain ⟨name, hk⟩ := kind_of_readOpening h
      cases hk

/-- The text around a boundary that was searched for. -/
theorem eq_of_findFirst?_readBoundary {text : List Char} {found : Found Boundary}
    (h : findFirst? readBoundary text = some found) :
    text = found.before ++ found.value.text ++ found.after := by
  obtain ⟨here, rfl, hr⟩ := read_of_findFirst? h
  rw [(eq_of_readBoundary hr).1]
  simp

/-- Every outcome of the search through markup says the truth, at any depth. -/
theorem endsAs_closeMarkup (name : List Char) (depth : Nat) (text : List Char) :
    EndsAs (·.Names name) text (closeMarkup name depth text) := by
  fun_induction closeMarkup name depth text with
  | case1 => rfl
  | case2 depth text before lexeme after hf hs =>
    obtain ⟨here, -, hr⟩ := read_of_findFirst? hf
    have hlex := readBoundary_comment hr
    refine ⟨before, after, ?_, rfl, splitAtFirst?_eq_none_iff.1 hs⟩
    rw [eq_of_findFirst?_readBoundary hf, hlex]
  | case3 depth text before lexeme after hf inside rest hs ih =>
    have htext : text = before ++ lexeme ++ inside ++ commentClose ++ rest := by
      rw [eq_of_findFirst?_readBoundary hf, eq_of_splitAtFirst? hs]
      simp
    rw [htext]
    exact ih.prepend _
  | case4 text before other lexeme after hf hn =>
    obtain ⟨here, -, hr⟩ := read_of_findFirst? hf
    obtain ⟨tag, rfl, hb, hlex⟩ := readBoundary_close hr
    refine ⟨tag, ⟨hn, hb⟩, ?_⟩
    rw [eq_of_findFirst?_readBoundary hf, hlex]
  | case5 text before other lexeme after hf hn depth ih =>
    rw [eq_of_findFirst?_readBoundary hf]
    exact ih.prepend _
  | case6 depth text before other lexeme after hf hn ih =>
    rw [eq_of_findFirst?_readBoundary hf]
    exact ih.prepend _
  | case7 depth text before other lexeme after hf ih =>
    rw [eq_of_findFirst?_readBoundary hf]
    exact ih.prepend _

/-! ## The search as a step -/

theorem RegionFault.shift_shift (a b : Nat) (fault : RegionFault) :
    (fault.shift b).shift a = fault.shift (a + b) := by
  cases fault <;> simp [RegionFault.shift, Nat.add_assoc]

theorem prepend_prepend (a b : List Char) (found : Except RegionFault (List Char × List Char)) :
    prepend a (prepend b found) = prepend (a ++ b) found := by
  match found with
  | .ok (contents, rest) => simp [prepend]
  | .error fault => simp [prepend, RegionFault.shift_shift]

/-- The step of the search, without the proofs that it comes to an end. -/
theorem closeMarkup_eq (name : List Char) (depth : Nat) (text : List Char) :
    closeMarkup name depth text =
      match findFirst? readBoundary text with
      | none => .error (.unclosed (byteLength text))
      | some ⟨before, ⟨.comment, lexeme⟩, after⟩ =>
        match splitAtFirst? commentClose after with
        | none => .error (.unclosedComment (byteLength before))
        | some (inside, rest) =>
          prepend (before ++ lexeme ++ inside ++ commentClose) (closeMarkup name depth rest)
      | some ⟨before, ⟨.close other, lexeme⟩, after⟩ =>
        if sameName other name then
          match depth with
          | 0 => .ok (before, after)
          | depth + 1 => prepend (before ++ lexeme) (closeMarkup name depth after)
        else prepend (before ++ lexeme) (closeMarkup name depth after)
      | some ⟨before, ⟨.opening other, lexeme⟩, after⟩ =>
        prepend (before ++ lexeme) (closeMarkup name (depth + levels name other lexeme) after) := by
  rw [closeMarkup]
  split
  · next h => simp only [h]
  · next h =>
    simp only [h]
    split
    · next hs => simp only [hs]
    · next hs => simp only [hs]
  · next h =>
    rewrite [h]
    rfl
  · next h => simp only [h]

/-- Text in which there is no boundary is passed over. -/
theorem closeMarkup_append {name before here : List Char} {depth : Nat}
    (h : Silent readBoundary before here) :
    closeMarkup name depth (before ++ here) = prepend before (closeMarkup name depth here) := by
  rw [closeMarkup_eq, closeMarkup_eq name depth here, findFirst?_append h]
  match findFirst? readBoundary here with
  | none => simp [prepend, RegionFault.shift]
  | some ⟨passed, ⟨.comment, lexeme⟩, after⟩ =>
    simp only [Option.map_some]
    split
    · simp [prepend, RegionFault.shift]
    · simp [prepend_prepend]
  | some ⟨passed, ⟨.close other, lexeme⟩, after⟩ =>
    simp only [Option.map_some]
    split
    · split
      · simp [prepend]
      · simp [prepend_prepend]
    · simp [prepend_prepend]
  | some ⟨passed, ⟨.opening other, lexeme⟩, after⟩ => simp [prepend_prepend]

/-! ## Regions -/

/-- **Every outcome says the truth**: the contents are followed by a closing tag of the region, and
a fault is where it says. -/
theorem endsAs_closeRegion (name text : List Char) :
    EndsAs (·.Closes name) text (closeRegion name text) := by
  unfold closeRegion ClosingTag.Closes
  split
  · exact endsAs_closeRaw name text
  · exact endsAs_closeMarkup name 0 text

end ComponentFile
