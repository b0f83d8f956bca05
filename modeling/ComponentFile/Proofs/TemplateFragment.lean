import ComponentFile.Proofs.Markup
import ComponentFile.Proofs.TemplateInsertion
import Mathlib

/-!
# Scoping plain markup

Scoping looks for opening tags in a text, without knowing what the text is.  In plain markup it
finds them all, each as a whole, and nothing else.

**What is read.**  `InnerTag.Plain` is the form of a tag whose end nothing hides: no `>` stands in
its attributes, and no slash at their end could be taken for that of the tag.  `read_eq_some_iff`
says that the tags which scoping recognises are these, cut in front of their ends.

**What is passed over.**  `cut_append` skips text in which no tag begins, and `join_cut_innerTag`
puts the hash into the next tag, whatever follows.

**Fragments.**  `FragmentItem` is the syntax of plain markup, and `FragmentItem.withHash` puts the
hash where it belongs: into opening tags, behind their attributes.  `join_cut_item` is the step over
an item and **`scope_printFragment`** the run over a fragment.
-/

namespace ComponentFile

/-! ## Tags without disguise -/

namespace InnerTag

/-- The end of a tag. -/
def close (tag : InnerTag) : List Char := if tag.selfClosing then ['/', '>'] else ['>']

/-- A tag with one more attribute, which has no value. -/
def withFlag (tag : InnerTag) (flag : List Char) : InnerTag :=
  { tag with attributes := tag.attributes ++ ' ' :: flag }

/-- The tag, cut where one more attribute belongs. -/
def cut (tag : InnerTag) : TemplateTag := ⟨'<' :: (tag.name ++ tag.attributes), tag.close⟩

/-- The form of a tag that scoping sees as a whole.  Line feeds may stand between its name and its
attributes only. -/
structure Plain (tag : InnerTag) : Prop where
  nonempty : tag.name ≠ []
  name : ∀ c ∈ tag.name, TemplateTag.isTemplateNameChar c = true
  blank : ∀ c ∈ tag.attributes.head?, isBlank c = true
  sign : '>' ∉ tag.attributes
  lineFeed : '\n' ∉ dropBlanks tag.attributes
  slash : tag.selfClosing = false → tag.attributes.getLast? ≠ some '/'

instance (tag : InnerTag) : Decidable tag.Plain :=
  decidable_of_iff (tag.name ≠ [] ∧ tag.name.all TemplateTag.isTemplateNameChar = true ∧
      tag.attributes.head?.all isBlank = true ∧ '>' ∉ tag.attributes ∧
      '\n' ∉ dropBlanks tag.attributes ∧
      (tag.selfClosing = false → tag.attributes.getLast? ≠ some '/'))
    ⟨fun ⟨hne, hname, hblank, hsign, hline, hslash⟩ => ⟨hne, List.all_eq_true.1 hname,
        (Option.all_eq_true _ _).1 hblank, hsign, hline, hslash⟩,
      fun h => ⟨h.nonempty, List.all_eq_true.2 h.name, (Option.all_eq_true _ _).2 h.blank, h.sign,
        h.lineFeed, h.slash⟩⟩

theorem chars_eq (tag : InnerTag) : tag.chars = tag.cut.head ++ tag.cut.close := by
  obtain ⟨name, attributes, selfClosing⟩ := tag
  cases selfClosing <;> simp [chars, inside, cut, close]

theorem chars_withFlag (tag : InnerTag) (flag : List Char) :
    (tag.withFlag flag).chars = tag.cut.head ++ ' ' :: flag ++ tag.cut.close := by
  obtain ⟨name, attributes, selfClosing⟩ := tag
  cases selfClosing <;> simp [chars, inside, withFlag, cut, close]

theorem stopsBefore_close (tag : InnerTag) (rest : List Char) {kind : Char → Bool}
    (hslash : kind '/' = false) (hsign : kind '>' = false) :
    StopsBefore kind (tag.close ++ rest) := by
  unfold close
  split
  · exact stopsBefore_cons.2 hslash
  · exact stopsBefore_cons.2 hsign

end InnerTag

namespace TemplateTag

theorem not_isTemplateNameChar_of_isBlank {c : Char} (h : isBlank c = true) :
    isTemplateNameChar c = false := by
  have htag := not_isTagChar_of_isBlank h
  have hline : c ≠ '_' := by
    rintro rfl
    exact absurd h (by decide)
  simp only [isTagChar, Bool.or_eq_false_iff] at htag
  simp [isTemplateNameChar, htag.1, htag.2, hline]

/-! ## Reading a tag -/

theorem readEnd_close (tag : InnerTag) (rest : List Char) :
    readEnd (tag.close ++ rest) = some (tag.close, rest) := by
  unfold InnerTag.close
  cases tag.selfClosing <;> rfl

theorem readEnd_sound {text close rest : List Char} (h : readEnd text = some (close, rest)) :
    ∃ selfClosing : Bool, close = if selfClosing then ['/', '>'] else ['>'] := by
  unfold readEnd at h
  split at h
  · cases h; exact ⟨false, rfl⟩
  · cases h; exact ⟨true, rfl⟩
  · cases h

/-- A tag does not end at a character other than its `>` and a slash in front of that. -/
theorem readEnd_cons {c : Char} {cs : List Char} (hsign : c ≠ '>')
    (hslash : c = '/' → cs.head? ≠ some '>') : readEnd (c :: cs) = none := by
  unfold readEnd
  split
  · next heq => exact absurd (List.cons.inj heq).1 hsign
  · next heq =>
    obtain ⟨rfl, rfl⟩ := List.cons.inj heq
    exact absurd rfl (hslash rfl)
  · rfl

theorem readAttributes_complete {tag : InnerTag} {attributes : List Char}
    (hsign : '>' ∉ attributes) (hline : '\n' ∉ attributes)
    (hslash : tag.selfClosing = false → attributes.getLast? ≠ some '/') (rest : List Char) :
    readAttributes (attributes ++ (tag.close ++ rest)) = some (⟨attributes, tag.close⟩, rest) := by
  induction attributes with
  | nil =>
    obtain ⟨c, cs, hc⟩ : ∃ c cs, tag.close ++ rest = c :: cs := by
      unfold InnerTag.close
      split <;> exact ⟨_, _, rfl⟩
    have hend := readEnd_close tag rest
    rw [hc] at hend
    rw [List.nil_append, hc, readAttributes, hend]
  | cons c cs ih =>
    simp only [List.mem_cons, not_or] at hsign hline
    have hend : readEnd (c :: (cs ++ (tag.close ++ rest))) = none := by
      refine readEnd_cons (Ne.symm hsign.1) ?_
      rintro rfl
      cases cs with
      | nil =>
        -- the slash is the last character in front of the end, so the end has one of its own
        cases hs : tag.selfClosing with
        | false => simpa using hslash hs
        | true => simp [InnerTag.close, hs]
      | cons d ds =>
        simp only [List.mem_cons, not_or] at hsign
        simpa using Ne.symm hsign.2.1
    have hrest : tag.selfClosing = false → cs.getLast? ≠ some '/' := by
      intro hs hlast
      refine hslash hs ?_
      rw [List.getLast?_cons, hlast]
      rfl
    rw [List.cons_append, readAttributes, hend]
    simp [Ne.symm hline.1, ih hsign.2 hline.2 hrest]

theorem readAttributes_sound {text rest : List Char} {found : TemplateTag}
    (h : readAttributes text = some (found, rest)) :
    '>' ∉ found.head ∧ '\n' ∉ found.head ∧
      ∃ selfClosing : Bool, (found.close = if selfClosing then ['/', '>'] else ['>']) ∧
        (selfClosing = false → found.head.getLast? ≠ some '/') := by
  induction text generalizing found with
  | nil => cases h
  | cons c cs ih =>
    rw [readAttributes] at h
    split at h
    · next hend =>
      cases h
      obtain ⟨selfClosing, hclose⟩ := readEnd_sound hend
      exact ⟨by simp, by simp, selfClosing, hclose, fun _ => by simp⟩
    · next hend =>
      split at h
      · cases h
      · next hline =>
        obtain ⟨⟨inner, r⟩, hi, he⟩ := Option.map_eq_some_iff.1 h
        cases he
        obtain ⟨hsign, hlines, selfClosing, hclose, hslash⟩ := ih hi
        have hc : c ≠ '>' := by
          rintro rfl
          cases hend
        refine ⟨by simp [hsign, Ne.symm hc], by simp [hlines, Ne.symm hline], selfClosing,
          hclose, ?_⟩
        intro hs hlast
        cases hhead : inner.head with
        | nil =>
          -- a slash directly in front of the end would have been read with it
          have hcs := eq_of_readAttributes hi
          rw [hhead, hclose, hs] at hcs
          simp only [hhead, List.getLast?_singleton, Option.some.injEq] at hlast
          subst hlast hcs
          cases hend
        | cons d ds =>
          rw [hhead, List.getLast?_cons_cons, ← hhead] at hlast
          exact hslash hs hlast

/-- Where a `>` comes before the next line feed, a tag ends. -/
theorem isSome_readAttributes {text : List Char} (hsign : '>' ∈ text) (hline : '\n' ∉ text) :
    (readAttributes text).isSome = true := by
  induction text with
  | nil => cases hsign
  | cons c cs ih =>
    simp only [List.mem_cons, not_or] at hsign hline
    rw [readAttributes]
    split
    · rfl
    · next hend =>
      have hc : '>' ≠ c := by
        rintro rfl
        cases hend
      rw [if_neg (Ne.symm hline.1), Option.isSome_map]
      exact ih (hsign.resolve_left hc) hline.2

/-- Behind a name that no blanks follow a tag has to end. -/
theorem read_name_end {name behind : List Char} (hne : name ≠ [])
    (hname : ∀ c ∈ name, isTemplateNameChar c = true)
    (hstop : StopsBefore isTemplateNameChar behind) (hblank : StopsBefore isBlank behind) :
    read ('<' :: (name ++ behind)) =
      (readEnd behind).map fun (close, rest) => (⟨'<' :: name, close⟩, rest) := by
  obtain ⟨n, ns, rfl⟩ := List.exists_cons_of_ne_nil hne
  have hnone : takeBlanks behind = [] := hblank.takeWhile_eq_nil
  rw [read, takeWhile_append_of_stopsBefore hname hstop,
    dropWhile_append_of_stopsBefore hname hstop]
  simp only [hnone]

/-- Behind blanks the attributes are read. -/
theorem read_name_blanks {name blanks behind : List Char} (hne : name ≠ [])
    (hname : ∀ c ∈ name, isTemplateNameChar c = true) (hsome : blanks ≠ [])
    (hblanks : ∀ c ∈ blanks, isBlank c = true) (hstop : StopsBefore isBlank behind) :
    read ('<' :: (name ++ (blanks ++ behind))) =
      (readAttributes behind).map fun (tag, rest) =>
        ({ tag with head := '<' :: (name ++ (blanks ++ tag.head)) }, rest) := by
  obtain ⟨n, ns, rfl⟩ := List.exists_cons_of_ne_nil hne
  obtain ⟨b, bs, rfl⟩ := List.exists_cons_of_ne_nil hsome
  have hend : StopsBefore isTemplateNameChar (b :: bs ++ behind) :=
    stopsBefore_cons.2 (not_isTemplateNameChar_of_isBlank (hblanks b (by simp)))
  rw [read, takeWhile_append_of_stopsBefore hname hend, dropWhile_append_of_stopsBefore hname hend]
  simp only [takeBlanks_append hblanks hstop, dropBlanks_append hblanks hstop]
  simp

theorem read_complete {tag : InnerTag} (h : tag.Plain) (rest : List Char) :
    read (tag.chars ++ rest) = some (tag.cut, rest) := by
  have hend : StopsBefore isBlank (tag.close ++ rest) :=
    tag.stopsBefore_close rest (by decide) (by decide)
  cases ha : tag.attributes with
  | nil =>
    have htext : tag.chars ++ rest = '<' :: (tag.name ++ (tag.close ++ rest)) := by
      simp [InnerTag.chars_eq, InnerTag.cut, ha]
    have hstop : StopsBefore isTemplateNameChar (tag.close ++ rest) :=
      tag.stopsBefore_close rest (by decide) (by decide)
    rw [htext, read_name_end h.nonempty h.name hstop hend, readEnd_close]
    simp [InnerTag.cut, ha]
  | cons b bs =>
    have hwhole := takeBlanks_append_dropBlanks tag.attributes
    have hsome : takeBlanks tag.attributes ≠ [] := by
      simp [ha, takeBlanks, h.blank b (by simp [ha])]
    have hstop : StopsBefore isBlank (dropBlanks tag.attributes ++ (tag.close ++ rest)) :=
      (stopsBefore_dropWhile isBlank tag.attributes).append hend
    have hsign : '>' ∉ dropBlanks tag.attributes := fun hmem =>
      h.sign ((List.dropWhile_sublist isBlank).subset hmem)
    have hslash : tag.selfClosing = false → (dropBlanks tag.attributes).getLast? ≠ some '/' := by
      intro hs hlast
      refine h.slash hs ?_
      rw [← hwhole, List.getLast?_append, hlast]
      rfl
    have htext : tag.chars ++ rest = '<' :: (tag.name ++ (takeBlanks tag.attributes ++
        (dropBlanks tag.attributes ++ (tag.close ++ rest)))) := by
      rw [← List.append_assoc (takeBlanks _), hwhole]
      simp [InnerTag.chars_eq, InnerTag.cut]
    rw [htext, read_name_blanks h.nonempty h.name hsome (fun c => isBlank_of_mem_takeBlanks) hstop,
      readAttributes_complete hsign h.lineFeed hslash]
    simp only [Option.map_some, hwhole, InnerTag.cut]

/-- What is read as an opening tag has the form of one. -/
theorem read_sound {text rest : List Char} {found : TemplateTag}
    (h : read text = some (found, rest)) : ∃ tag : InnerTag, tag.Plain ∧ found = tag.cut := by
  unfold read at h
  split at h
  · next cs =>
    split at h
    · cases h
    · next n ns hn =>
      have hname : ∀ c ∈ n :: ns, isTemplateNameChar c = true := by
        rw [← hn]
        exact List.all_eq_true.1 List.all_takeWhile
      dsimp only at h
      split at h
      · obtain ⟨⟨close, r⟩, hr, he⟩ := Option.map_eq_some_iff.1 h
        cases he
        obtain ⟨selfClosing, rfl⟩ := readEnd_sound hr
        refine ⟨⟨n :: ns, [], selfClosing⟩, ?_, by simp [InnerTag.cut, InnerTag.close]⟩
        exact ⟨by simp, hname, by simp, by simp, by simp [dropBlanks], by simp⟩
      · next b bs hb =>
        obtain ⟨⟨⟨head, close⟩, r⟩, hr, he⟩ := Option.map_eq_some_iff.1 h
        cases he
        have hblanks : ∀ c ∈ b :: bs, isBlank c = true := by
          rw [← hb]
          exact fun c => isBlank_of_mem_takeBlanks
        obtain ⟨hsign, hline, selfClosing, hclose, hslash⟩ := readAttributes_sound hr
        dsimp only at hsign hline hclose hslash
        have hstop : StopsBefore isBlank head := by
          have hdrop := stopsBefore_dropWhile isBlank (cs.dropWhile isTemplateNameChar)
          have heq := eq_of_readAttributes hr
          cases head with
          | nil => exact StopsBefore.nil _
          | cons c more =>
            rw [← dropBlanks, heq] at hdrop
            exact stopsBefore_cons.2 (stopsBefore_cons.1 hdrop)
        refine ⟨⟨n :: ns, b :: bs ++ head, selfClosing⟩, ⟨by simp, hname, ?_, ?_, ?_, ?_⟩, ?_⟩
        · simpa using hblanks b (by simp)
        · intro hmem
          rcases List.mem_append.1 hmem with hmem | hmem
          · exact absurd (hblanks _ hmem) (by decide)
          · exact hsign hmem
        · rwa [dropBlanks_append hblanks hstop]
        · intro hs hlast
          rw [List.getLast?_append] at hlast
          cases hh : head.getLast? with
          | some c => exact hslash hs (by simpa [hh] using hlast)
          | none =>
            rw [hh, Option.none_or] at hlast
            exact absurd (hblanks _ (List.mem_of_getLast? hlast)) (by decide)
        · simp [InnerTag.cut, InnerTag.close, hclose]
  · cases h

/-- **The tags that scoping recognises**, each cut in front of its end. -/
theorem read_eq_some_iff {text rest : List Char} {found : TemplateTag} :
    read text = some (found, rest) ↔
      ∃ tag : InnerTag, tag.Plain ∧ found = tag.cut ∧ text = tag.chars ++ rest := by
  constructor
  · intro h
    obtain ⟨tag, hp, rfl⟩ := read_sound h
    exact ⟨tag, hp, rfl, by rw [tag.chars_eq, (eq_of_read h).1]⟩
  · rintro ⟨tag, hp, rfl, rfl⟩
    exact read_complete hp rest

/-! ## Text without tags -/

/-- A tag begins with `<` and a character of its name. -/
theorem read_eq_none {text : List Char} (h : ∀ c ∈ text.tail.head?, isTemplateNameChar c = false) :
    read text = none := by
  unfold read
  split
  · next cs =>
    have hnone : cs.takeWhile isTemplateNameChar = [] := StopsBefore.takeWhile_eq_nil h
    rw [hnone]
  · rfl

theorem read_cons {c : Char} (cs : List Char) (hc : c ≠ '<') : read (c :: cs) = none := by
  unfold read
  split
  · next heq => exact absurd (List.cons.inj heq).1 hc
  · rfl

theorem silent_read {text : List Char} (h : '<' ∉ text) (here : List Char) :
    Silent read text here :=
  silent_of_notMem (fun _ cs hc => read_cons cs hc) h

/-- Behind a `<` that begins no name there is nothing to be found before the next. -/
theorem silent_read_cons {c : Char} {text : List Char} (hc : isTemplateNameChar c = false)
    (h : '<' ∉ c :: text) (here : List Char) : Silent read ('<' :: c :: text) here :=
  silent_cons.2 ⟨read_eq_none (by simpa using hc), silent_read h here⟩

end TemplateTag

/-! ## Insertion, step by step -/

namespace Template

theorem Pieces.join_prepend (text insertion : List Char) (pieces : Pieces) :
    (pieces.prepend text).join insertion = text ++ pieces.join insertion := by
  simp [join, prepend]

/-- The step of cutting, without the proof that it comes to an end. -/
theorem cut_eq (text : List Char) :
    cut text =
      match findFirst? TemplateTag.read text with
      | none => ⟨text, []⟩
      | some ⟨before, tag, after⟩ =>
        let rest := (cut after).prepend tag.close
        ⟨before ++ tag.head, rest.first :: rest.others⟩ := by
  rw [cut]
  split
  · next h => rw [h]
  · next h => rw [h]

/-- Text without tags stays in front. -/
theorem cut_append {before here : List Char} (h : Silent TemplateTag.read before here) :
    cut (before ++ here) = (cut here).prepend before := by
  rw [cut_eq, cut_eq here, findFirst?_append h]
  cases findFirst? TemplateTag.read here with
  | none => rfl
  | some found => simp [Pieces.prepend]

/-- Into a tag the hash is put in front of its end, and the rest is cut by itself. -/
theorem join_cut_innerTag {tag : InnerTag} (h : tag.Plain) (flag rest : List Char) :
    (cut (tag.chars ++ rest)).join (' ' :: flag) =
      (tag.withFlag flag).chars ++ (cut rest).join (' ' :: flag) := by
  rw [cut_eq, findFirst?_of_read (TemplateTag.read_complete h rest), InnerTag.chars_withFlag]
  simp [Pieces.join, Pieces.prepend]

end Template

/-! ## Fragments -/

/-- An item of plain markup. -/
inductive FragmentItem where
  | text (chars : List Char)
  | comment (inside : List Char)
  | closing (name : List Char)
  | opening (tag : InnerTag)
deriving DecidableEq, Repr

namespace FragmentItem

/-- The text of an item. -/
def chars : FragmentItem → List Char
  | text chars => chars
  | comment inside => commentOpen ++ inside ++ commentClose
  | closing name => '<' :: '/' :: (name ++ ['>'])
  | opening tag => tag.chars

/-- The form of an item of plain markup.  A comment may hold its own end, since what follows that is
text as well. -/
def Plain : FragmentItem → Prop
  | text chars => '<' ∉ chars
  | comment inside => '<' ∉ inside
  | closing name => name ≠ [] ∧ ∀ c ∈ name, TemplateTag.isTemplateNameChar c = true
  | opening tag => tag.Plain

/-- An item with the hash: opening tags have one more attribute, and nothing else changes. -/
def withHash (hash : List Char) : FragmentItem → FragmentItem
  | opening tag => opening (tag.withFlag hash)
  | item => item

end FragmentItem

/-- The text of a fragment. -/
def printFragment (items : List FragmentItem) : String :=
  String.ofList (items.flatMap FragmentItem.chars)

namespace Template

/-- **An item is scoped as what it is**, whatever follows it. -/
theorem join_cut_item {item : FragmentItem} (h : item.Plain) (hash rest : List Char) :
    (cut (item.chars ++ rest)).join (' ' :: hash) =
      (item.withHash hash).chars ++ (cut rest).join (' ' :: hash) := by
  cases item with
  | text chars =>
    rw [FragmentItem.chars, cut_append (TemplateTag.silent_read h rest), Pieces.join_prepend]
    rfl
  | comment inside =>
    have hinside : '<' ∉ '!' :: '-' :: '-' :: (inside ++ commentClose) := by
      have hi : '<' ∉ inside := h
      simp [hi, commentClose]
    have hsilent := TemplateTag.silent_read_cons (c := '!') (by decide) hinside rest
    have hchars : (FragmentItem.comment inside).chars =
        '<' :: '!' :: '-' :: '-' :: (inside ++ commentClose) := by
      simp [FragmentItem.chars, commentOpen]
    have hsame : (FragmentItem.comment inside).withHash hash = .comment inside := rfl
    rw [hsame, hchars, cut_append hsilent, Pieces.join_prepend]
  | closing name =>
    have hname : '<' ∉ '/' :: (name ++ ['>']) := by
      have hmem : '<' ∉ name := fun hmem => absurd (h.2 _ hmem) (by decide)
      simp [hmem]
    have hsilent := TemplateTag.silent_read_cons (c := '/') (by decide) hname rest
    rw [FragmentItem.chars, cut_append hsilent, Pieces.join_prepend]
    rfl
  | opening tag => exact join_cut_innerTag h hash rest

theorem join_cut_items {items : List FragmentItem} (h : ∀ item ∈ items, item.Plain)
    (hash : List Char) :
    (cut (items.flatMap FragmentItem.chars)).join (' ' :: hash) =
      (items.map (·.withHash hash)).flatMap FragmentItem.chars := by
  induction items with
  | nil =>
    have hcut : cut [] = ⟨[], []⟩ := cut_eq []
    rw [List.flatMap_nil, hcut]
    rfl
  | cons item items ih =>
    rw [List.flatMap_cons, join_cut_item (h item (by simp)), ih fun i hi => h i (by simp [hi])]
    rfl

/-- **Every opening tag is scoped once, and nothing else is.**  Scoping the text of a fragment gives
the text of the fragment whose opening tags have the hash as their last attribute, without line
breaks and with its quotes escaped. -/
theorem scope_printFragment {items : List FragmentItem} (h : ∀ item ∈ items, item.Plain)
    (hash : String) :
    scope (printFragment items) hash =
      String.ofList (quoted (flat (printFragment (items.map (·.withHash hash.toList))).toList)) := by
  rw [scope, printFragment, printFragment, String.toList_ofList, String.toList_ofList,
    join_cut_items h, escape_eq_quoted_flat]

/-- Blanks with a line feed behind a name, `<` and quotes in attributes, a slash of an attribute in
front of that of the tag, a comment that ends early, and tags without anything between. -/
theorem scope_printFragment_adjacent :
    ∃ items, (∀ item ∈ items, item.Plain) ∧
      printFragment items = "a>b<!-- c --> d --><x_1\n a='<i'><br/></x_1><p a=b//>" ∧
      scope (printFragment items) "__v1" =
        "a>b<!-- c --> d --><x_1 a=\\'<i\\' __v1><br __v1/></x_1><p a=b/ __v1/>" := by
  let items : List FragmentItem :=
    [.text "a>b".toList, .comment " c --> d ".toList,
      .opening ⟨"x_1".toList, "\n a='<i'".toList, false⟩, .opening ⟨"br".toList, [], true⟩,
      .closing "x_1".toList, .opening ⟨['p'], " a=b/".toList, true⟩]
  have hitems : ∀ item ∈ items, item.Plain := by
    simp only [items, List.forall_mem_cons, FragmentItem.Plain]
    exact ⟨by simp, by simp, by decide +kernel, by decide +kernel,
      ⟨by simp, List.all_eq_true.1 (by decide +kernel)⟩, by decide +kernel, by simp⟩
  refine ⟨items, hitems, by decide +kernel, ?_⟩
  rw [scope_printFragment hitems]
  decide +kernel

end Template

end ComponentFile
