import ComponentFile.Proofs.AttributeTable
import ComponentFile.Proofs.TemplateFragment
import Mathlib

/-!
# Scoping a tag of the document's own grammar

A document and a template are read by two grammars.  That of documents knows quotes, and gives a
slash to the bare value in front of it.  That of templates ends a tag at its first `>`, and takes a
slash there for its own.  A tag that the first has read is scoped by the second, and the result
should be the same tag with the hash as one more attribute.

* `OpenTag.withFlag` — that tag; `OpenTag.Keeps` says that a text is read as a tag which differs
  from the original as this one does.
* `OpenTag.EndsPlainly` — the two grammars see the same end.
* `join_cut_chars_of_endsPlainly`, `endsPlainly_of_join_cut_chars` — the hash is put behind the
  attributes of such tags only.  In any other the first `>` is inside a value, or a slash changes
  hands, and the hash goes there.
* **`read_scope_iff`** — so exactly these are read again as what they should be.
* `not_keeps_quotedSign` — a `>` in a quoted value draws the hash into the value.
-/

namespace ComponentFile

/-! ## Hashes as attributes -/

theorem isNameChar_of_isTagChar {c : Char} (h : isTagChar c = true) : isNameChar c = true := by
  have hblank : isBlank c = false := by
    cases hb : isBlank c with
    | false => rfl
    | true => rw [not_isTagChar_of_isBlank hb] at h; cases h
  have hne {d : Char} (hd : isTagChar d = false) : c ≠ d := by
    rintro rfl
    rw [h] at hd
    cases hd
  have h1 : c ≠ '"' := hne (by decide)
  have h2 : c ≠ '\'' := hne (by decide)
  have h3 : c ≠ '>' := hne (by decide)
  have h4 : c ≠ '/' := hne (by decide)
  have h5 : c ≠ '=' := hne (by decide)
  simp [isNameChar, isBareChar, hblank, h1, h2, h3, h4, h5]

/-- The digits of base sixteen, in lower case. -/
def isHexDigit (c : Char) : Bool := c.isDigit || c ∈ ['a', 'b', 'c', 'd', 'e', 'f']

/-- The names of scopes: `__v` and digits. -/
def IsScopeHash (hash : List Char) : Prop :=
  ∃ digits, hash = "__v".toList ++ digits ∧ ∀ c ∈ digits, isHexDigit c = true

theorem toLower_of_isHexDigit {c : Char} (h : isHexDigit c = true) : c.toLower = c := by
  refine Char.toLower_eq_of_not_isUpper fun hupper => ?_
  simp only [isHexDigit, Bool.or_eq_true, decide_eq_true_eq] at h
  rcases h with h | h
  · simp only [Char.isDigit, Char.isUpper, Bool.and_eq_true, decide_eq_true_eq] at h hupper
    exact absurd (UInt32.le_trans hupper.1 h.2) (by decide)
  · fin_cases h <;> exact absurd hupper (by decide)

theorem isTagChar_of_isHexDigit {c : Char} (h : isHexDigit c = true) : isTagChar c = true := by
  simp only [isHexDigit, Bool.or_eq_true, decide_eq_true_eq] at h
  rcases h with h | h
  · simp [isTagChar, Char.isAlphanum, h]
  · fin_cases h <;> rfl

namespace IsScopeHash

variable {hash : List Char}

theorem ne_nil (h : IsScopeHash hash) : hash ≠ [] := by
  obtain ⟨digits, rfl, -⟩ := h
  simp

/-- A hash is the name of an attribute. -/
theorem isNameChar (h : IsScopeHash hash) : ∀ c ∈ hash, isNameChar c = true := by
  obtain ⟨digits, rfl, hdigits⟩ := h
  have hmark : ∀ c ∈ "__v".toList, ComponentFile.isNameChar c = true :=
    List.all_eq_true.1 (by decide +kernel)
  intro c hc
  rcases List.mem_append.1 hc with hc | hc
  · exact hmark c hc
  · exact isNameChar_of_isTagChar (isTagChar_of_isHexDigit (hdigits c hc))

/-- It is looked up as it is written. -/
theorem map_toLower (h : IsScopeHash hash) : hash.map Char.toLower = hash := by
  obtain ⟨digits, rfl, hdigits⟩ := h
  rw [List.map_append, List.map_congr_left fun c hc => toLower_of_isHexDigit (hdigits c hc),
    List.map_id']
  rfl

end IsScopeHash

/-! ## One more attribute -/

namespace OpenTag

/-- A tag with one more attribute, which has no value, behind the others. -/
def withFlag (tag : OpenTag) (flag : List Char) : OpenTag :=
  { tag with
    items := tag.items ++ [⟨tag.trailing ++ [' '], ⟨flag, none⟩⟩]
    trailing := [] }

/-- The tag as templates see it: a name, and what stands behind it. -/
def outline (tag : OpenTag) : InnerTag :=
  ⟨tag.name, tag.attributeText ++ tag.trailing, tag.selfClosing⟩

theorem chars_outline (tag : OpenTag) : tag.outline.chars = tag.chars := by
  obtain ⟨name, items, trailing, selfClosing⟩ := tag
  cases selfClosing <;>
    simp [outline, InnerTag.chars, InnerTag.inside, chars, attributeText, close]

theorem chars_withFlag (tag : OpenTag) (flag : List Char) :
    (tag.withFlag flag).chars = (tag.outline.withFlag flag).chars := by
  obtain ⟨name, items, trailing, selfClosing⟩ := tag
  cases selfClosing <;>
    simp [withFlag, outline, InnerTag.withFlag, InnerTag.chars, InnerTag.inside, chars,
      attributeText, close, AttrItem.chars, AttrText.chars]

theorem Written.withFlag {tag : OpenTag} (h : tag.Written) {hash : List Char}
    (hhash : IsScopeHash hash) : (tag.withFlag hash).Written := by
  refine ⟨h.name, ?_, by simp [OpenTag.withFlag]⟩
  intro item hitem
  rcases List.mem_append.1 hitem with hitem | hitem
  · exact h.items item hitem
  · obtain rfl := List.mem_singleton.1 hitem
    refine ⟨by simp, ?_, hhash.ne_nil, hhash.isNameChar, by simp⟩
    intro c hc
    rcases List.mem_append.1 hc with hc | hc
    · exact h.trailing c hc
    · obtain rfl := List.mem_singleton.1 hc
      decide

theorem slashApart_withFlag (tag : OpenTag) (flag : List Char) :
    (tag.withFlag flag).SlashApart := by
  intro _ _ item hitem
  simp only [withFlag, List.getLast?_concat, Option.mem_def, Option.some.injEq] at hitem
  rw [← hitem]
  rfl

theorem ofText_withFlag {tag : OpenTag} (h : tag.Written) {hash : String}
    (hhash : IsScopeHash hash.toList) :
    Attributes.ofText (tag.withFlag hash.toList).attributeText =
      (Attributes.ofText tag.attributeText).insert hash .flag := by
  rw [(h.withFlag hhash).consistsOf.ofText_eq, h.consistsOf.ofText_eq,
    ← Attributes.ofList_concat]
  simp [withFlag, AttrText.key, AttrText.meaning, hhash.map_toLower]

/-- A text is read as a tag that differs from another by an attribute without a value. -/
def Keeps (tag : OpenTag) (flag : String) (text : List Char) : Prop :=
  ∃ kept, read text = some (kept, []) ∧ kept.name = tag.name ∧
    kept.selfClosing = tag.selfClosing ∧
    (∀ name, (Attributes.ofText kept.attributeText).get? name =
      if name = flag then some .flag else (Attributes.ofText tag.attributeText).get? name) ∧
    (Attributes.ofText kept.attributeText).size = (Attributes.ofText tag.attributeText).size + 1

/-- A tag with the hash behind its attributes differs from the tag by the hash. -/
theorem keeps_of_read {tag : OpenTag} (h : tag.Written) {hash : String}
    (hhash : IsScopeHash hash.toList)
    (hnew : (Attributes.ofText tag.attributeText).get? hash = none) {text : List Char}
    (hread : read text = some (tag.withFlag hash.toList, [])) : tag.Keeps hash text := by
  refine ⟨_, hread, rfl, rfl, fun name => ?_, ?_⟩
  · rw [ofText_withFlag h hhash, Attributes.get?_insert]
  · rw [ofText_withFlag h hhash, Attributes.size_insert_of_get?_eq_none hnew]

/-! ## Where templates see the end -/

/-- No `>` stands in the values of a tag, and no slash that is not its own in front of its end. -/
structure EndsPlainly (tag : OpenTag) : Prop where
  sign : '>' ∉ tag.attributeText
  slash : tag.selfClosing = false → (tag.attributeText ++ tag.trailing).getLast? ≠ some '/'

instance (tag : OpenTag) : Decidable tag.EndsPlainly :=
  decidable_of_iff ('>' ∉ tag.attributeText ∧
      (tag.selfClosing = false → (tag.attributeText ++ tag.trailing).getLast? ≠ some '/'))
    ⟨fun h => ⟨h.1, h.2⟩, fun h => ⟨h.sign, h.slash⟩⟩

variable {tag : OpenTag}

theorem Written.templateName (h : tag.Written) :
    ∀ c ∈ tag.name, TemplateTag.isTemplateNameChar c = true := by
  intro c hc
  have htag := h.name.isTagChar_of_mem hc
  simp only [isTagChar, Bool.or_eq_true] at htag
  rcases htag with htag | htag
  · simp [TemplateTag.isTemplateNameChar, htag]
  · simp [TemplateTag.isTemplateNameChar, htag]

theorem Written.name_ne_nil (h : tag.Written) : tag.name ≠ [] := by
  intro hn
  have := h.name
  rw [hn] at this
  exact this

theorem Written.isBlank_head (h : tag.Written) :
    ∀ c ∈ (tag.attributeText ++ tag.trailing).head?, isBlank c = true := by
  intro c hc
  unfold attributeText at hc
  cases hi : tag.items with
  | nil =>
    rw [hi] at hc
    exact h.trailing c (List.mem_of_mem_head? hc)
  | cons item items =>
    have hitem := h.items item (by simp [hi])
    obtain ⟨b, bs, hb⟩ := List.exists_cons_of_ne_nil hitem.nonempty
    have hbc : b = c := by
      simpa [hi, AttrItem.chars, hb] using hc
    rw [← hbc]
    exact hitem.gap b (by simp [hb])

theorem plain_outline (h : tag.Written) (hline : '\n' ∉ tag.chars) (hends : tag.EndsPlainly) :
    tag.outline.Plain where
  nonempty := h.name_ne_nil
  name := h.templateName
  blank := h.isBlank_head
  sign := by
    intro hmem
    rcases List.mem_append.1 hmem with hmem | hmem
    · exact hends.sign hmem
    · exact absurd (h.trailing _ hmem) (by decide)
  lineFeed := by
    intro hmem
    have hin : '\n' ∈ tag.outline.attributes := (List.dropWhile_sublist isBlank).subset hmem
    rw [← chars_outline] at hline
    exact hline (by simp [InnerTag.chars, InnerTag.inside, hin])
  slash := hends.slash

/-- A tag on one line is recognised in a template, wherever it is thought to end. -/
theorem isSome_read_chars (h : tag.Written) (hline : '\n' ∉ tag.chars) :
    (TemplateTag.read tag.chars).isSome = true := by
  set attributes := tag.attributeText ++ tag.trailing with hattributes
  have hend : StopsBefore isBlank (tag.outline.close ++ []) :=
    tag.outline.stopsBefore_close [] (by decide) (by decide)
  have hchars : tag.chars = '<' :: (tag.name ++ (attributes ++ (tag.outline.close ++ []))) := by
    rw [← chars_outline, InnerTag.chars_eq]
    simp [InnerTag.cut, outline, attributes]
  have hwhole := takeBlanks_append_dropBlanks attributes
  by_cases hsome : takeBlanks attributes = []
  · have hnone : attributes = [] := by
      cases ha : attributes with
      | nil => rfl
      | cons b bs =>
        have hb := h.isBlank_head b (by rw [← hattributes, ha]; rfl)
        simp [ha, takeBlanks, hb] at hsome
    have hstop : StopsBefore TemplateTag.isTemplateNameChar (tag.outline.close ++ []) :=
      tag.outline.stopsBefore_close [] (by decide) (by decide)
    rw [hchars, hnone, List.nil_append,
      TemplateTag.read_name_end h.name_ne_nil h.templateName hstop hend,
      TemplateTag.readEnd_close]
    rfl
  · have hstop : StopsBefore isBlank (dropBlanks attributes ++ (tag.outline.close ++ [])) :=
      (stopsBefore_dropWhile isBlank attributes).append hend
    rw [← hwhole, List.append_assoc] at hchars
    have hsign : '>' ∈ dropBlanks attributes ++ (tag.outline.close ++ []) := by
      unfold InnerTag.close
      split <;> simp
    rw [hchars, TemplateTag.read_name_blanks h.name_ne_nil h.templateName hsome
      (fun c => isBlank_of_mem_takeBlanks) hstop, Option.isSome_map]
    refine TemplateTag.isSome_readAttributes hsign fun hmem => hline ?_
    rw [hchars]
    simp only [List.mem_cons, List.mem_append] at hmem ⊢
    tauto

end OpenTag

/-- An insertion tells where it was made, unless the text there begins with the same character. -/
theorem eq_of_insertion_eq {c : Char} {head behind front close x y : List Char}
    (htext : head ++ behind = front ++ close) (heq : head ++ c :: x = front ++ c :: y)
    (hbehind : behind.head? ≠ some c) (hclose : close.head? ≠ some c) : head = front := by
  rcases List.append_eq_append_iff.1 htext with ⟨more, rfl, rfl⟩ | ⟨more, rfl, rfl⟩
  · cases more with
    | nil => simp
    | cons d ds =>
      rw [List.append_assoc, List.append_cancel_left_eq] at heq
      exact absurd (congrArg some (List.cons.inj heq).1).symm hbehind
  · cases more with
    | nil => simp
    | cons d ds =>
      rw [List.append_assoc, List.append_cancel_left_eq] at heq
      exact absurd (congrArg some (List.cons.inj heq).1) hclose

namespace Template

theorem join_cut_chars_of_endsPlainly {tag : OpenTag} (h : tag.Written) (hline : '\n' ∉ tag.chars)
    (hends : tag.EndsPlainly) (flag : List Char) :
    (cut tag.chars).join (' ' :: flag) = (tag.withFlag flag).chars := by
  have hplain := OpenTag.plain_outline h hline hends
  have hjoin := join_cut_innerTag hplain flag []
  have hnil : cut [] = ⟨[], []⟩ := cut_eq []
  rw [List.append_nil, OpenTag.chars_outline, ← OpenTag.chars_withFlag, hnil] at hjoin
  rw [hjoin]
  exact List.append_nil _

/-- Where the hash is put in front of the end of a tag, templates have seen that end. -/
theorem endsPlainly_of_join_cut_chars {tag : OpenTag} (h : tag.Written) (hline : '\n' ∉ tag.chars)
    {flag : List Char} (heq : (cut tag.chars).join (' ' :: flag) = (tag.withFlag flag).chars) :
    tag.EndsPlainly := by
  have hclose (tag : InnerTag) (rest : List Char) : (tag.close ++ rest).head? ≠ some ' ' := by
    have hstop : StopsBefore isBlank (tag.close ++ rest) :=
      tag.stopsBefore_close rest (by decide) (by decide)
    exact fun hc => absurd (hstop ' ' hc) (by decide)
  obtain ⟨⟨found, after⟩, hread⟩ :=
    Option.isSome_iff_exists.1 (OpenTag.isSome_read_chars h hline)
  obtain ⟨inner, hplain, -, htext⟩ := TemplateTag.read_eq_some_iff.1 hread
  have hsame : inner.cut.head ++ (inner.close ++ after) =
      tag.outline.cut.head ++ (tag.outline.close ++ []) := by
    rw [← OpenTag.chars_outline, InnerTag.chars_eq, InnerTag.chars_eq] at htext
    simpa [InnerTag.cut] using htext.symm
  have hhead : inner.cut.head = tag.outline.cut.head := by
    have hjoin := join_cut_innerTag hplain flag after
    rw [← htext, heq, OpenTag.chars_withFlag, InnerTag.chars_withFlag,
      InnerTag.chars_withFlag] at hjoin
    simp only [List.append_assoc, List.cons_append] at hjoin
    exact eq_of_insertion_eq hsame hjoin.symm (hclose _ _) (hclose _ _)
  have hend : inner.close ++ after = tag.outline.close := by
    rw [hhead, List.append_cancel_left_eq, List.append_nil] at hsame
    exact hsame
  have hbody : inner.name ++ inner.attributes =
      tag.name ++ (tag.attributeText ++ tag.trailing) := (List.cons.inj hhead).2
  have hname {c : Char} (hc : TemplateTag.isTemplateNameChar c = false) : c ∉ inner.name := by
    intro hmem
    rw [hplain.name c hmem] at hc
    cases hc
  constructor
  · intro hmem
    have hin : '>' ∈ inner.name ++ inner.attributes := by
      rw [hbody]
      simp [hmem]
    exact (List.mem_append.1 hin).elim (hname (by decide)) hplain.sign
  · intro hs hlast
    have hself : inner.selfClosing = false := by
      cases hi : inner.selfClosing with
      | false => rfl
      | true => simp [InnerTag.close, OpenTag.outline, hi, hs] at hend
    have hlast' : (inner.name ++ inner.attributes).getLast? = some '/' := by
      rw [hbody, List.getLast?_append, hlast]
      rfl
    rw [List.getLast?_append] at hlast'
    cases ha : inner.attributes.getLast? with
    | some c => exact hplain.slash hself (by simpa [ha] using hlast')
    | none =>
      rw [ha, Option.none_or] at hlast'
      exact hname (by decide) (List.mem_of_getLast? hlast')

/-! ## The scoped text -/

/-- Text without quotes and line breaks is written as it is. -/
theorem escape_eq_self {text : List Char} (hquote : '\'' ∉ text) (hfeed : '\n' ∉ text)
    (hreturn : '\r' ∉ text) : escape text = text := by
  induction text with
  | nil => rfl
  | cons c cs ih =>
    simp only [List.mem_cons, not_or] at hquote hfeed hreturn
    have hbreak : ¬ (c = '\n' ∨ c = '\r') := not_or.2 ⟨Ne.symm hfeed.1, Ne.symm hreturn.1⟩
    rw [escape_plain (Ne.symm hquote.1) hbreak, ih hquote.2 hfeed.2 hreturn.2]

/-- Nor is a text with the hash, which has neither. -/
theorem toList_scope {text hash : String} (hhash : IsScopeHash hash.toList)
    (hquote : '\'' ∉ text.toList) (hfeed : '\n' ∉ text.toList) (hreturn : '\r' ∉ text.toList) :
    (scope text hash).toList = (cut text.toList).join (' ' :: hash.toList) := by
  have hjoin {c : Char} (htext : c ∉ text.toList) (hname : ComponentFile.isNameChar c = false)
      (hblank : c ≠ ' ') : c ∉ (cut text.toList).join (' ' :: hash.toList) := by
    rw [Pieces.mem_join, flatten_cut]
    rintro (hc | ⟨hc, -⟩)
    · exact htext hc
    · rcases List.mem_cons.1 hc with hc | hc
      · exact hblank hc
      · rw [hhash.isNameChar c hc] at hname
        cases hname
  rw [scope, String.toList_ofList]
  exact escape_eq_self (hjoin hquote (by decide) (by decide)) (hjoin hfeed (by decide) (by decide))
    (hjoin hreturn (by decide) (by decide))

/-- **Which tags are scoped as tags.**  Of the texts without single quotes and line breaks that are
read as an opening tag, those are read again as this tag with the hash behind its attributes which
hold no `>` in a value and no slash of a value in front of their end.  So their name and whether
they close themselves stay the same, and their table has the hash as a flag and no other new entry.
-/
theorem read_scope_iff {text hash : String} {tag : OpenTag}
    (hread : OpenTag.read text.toList = some (tag, [])) (hquote : '\'' ∉ text.toList)
    (hreturn : '\r' ∉ text.toList) (hfeed : '\n' ∉ text.toList) (hhash : IsScopeHash hash.toList)
    (hnew : (Attributes.ofText tag.attributeText).get? hash = none) :
    (OpenTag.read (scope text hash).toList = some (tag.withFlag hash.toList, []) ↔
      tag.EndsPlainly) ∧
    (tag.EndsPlainly → tag.Keeps hash (scope text hash).toList) := by
  obtain ⟨hw, -, htext⟩ := OpenTag.read_eq_some_iff.1 hread
  rw [List.append_nil] at htext
  have hline : '\n' ∉ tag.chars := htext ▸ hfeed
  have hscope := toList_scope hhash hquote hfeed hreturn
  rw [htext] at hscope
  have hiff : OpenTag.read (scope text hash).toList = some (tag.withFlag hash.toList, []) ↔
      tag.EndsPlainly := by
    rw [OpenTag.read_eq_some_iff, hscope, List.append_nil]
    constructor
    · rintro ⟨-, -, heq⟩
      exact endsPlainly_of_join_cut_chars hw hline heq
    · intro hends
      exact ⟨hw.withFlag hhash, tag.slashApart_withFlag _,
        join_cut_chars_of_endsPlainly hw hline hends _⟩
  exact ⟨hiff, fun hends => OpenTag.keeps_of_read hw hhash hnew (hiff.2 hends)⟩

/-- Slashes in a quoted value and in a bare one, which a blank sets off from the end of the tag. -/
theorem read_scope_iff_slashes :
    ∃ tag, OpenTag.read "<a b=\"c/\" D =e/ >".toList = some (tag, []) ∧
      IsScopeHash "__v0a".toList ∧ (Attributes.ofText tag.attributeText).get? "__v0a" = none ∧
      tag.EndsPlainly ∧
      OpenTag.read (scope "<a b=\"c/\" D =e/ >" "__v0a").toList =
        some (tag.withFlag "__v0a".toList, []) ∧
      tag.Keeps "__v0a" (scope "<a b=\"c/\" D =e/ >" "__v0a").toList := by
  let tag : OpenTag :=
    { name := ['a']
      items := [⟨[' '], ⟨['b'], some ⟨[], [], .double, "c/".toList⟩⟩⟩,
        ⟨[' '], ⟨['D'], some ⟨[' '], [], .bare, "e/".toList⟩⟩⟩]
      trailing := [' ']
      selfClosing := false }
  have hw : tag.Written := by decide +kernel
  have hread : OpenTag.read "<a b=\"c/\" D =e/ >".toList = some (tag, []) :=
    OpenTag.read_complete hw (by decide +kernel) []
  have hhash : IsScopeHash "__v0a".toList :=
    ⟨['0', 'a'], by decide +kernel, List.all_eq_true.1 (by decide +kernel)⟩
  have hnew : (Attributes.ofText tag.attributeText).get? "__v0a" = none := by
    rw [hw.consistsOf.get?_ofText]
    decide +kernel
  have hends : tag.EndsPlainly := by decide +kernel
  obtain ⟨hiff, hkeeps⟩ :=
    read_scope_iff hread (by simp) (by simp) (by simp) hhash hnew
  exact ⟨tag, hread, hhash, hnew, hends, hiff.2 hends, hkeeps hends⟩

/-- A `>` in a value ends the tag for a template: the hash becomes a part of the value, and the tag
does not get it as an attribute. -/
theorem not_keeps_quotedSign :
    ∃ tag, OpenTag.read "<p v-if=\"a>b\">".toList = some (tag, []) ∧
      (Attributes.ofText tag.attributeText).get? "__v1" = none ∧
      scope "<p v-if=\"a>b\">" "__v1" = "<p v-if=\"a __v1>b\">" ∧
      ¬ tag.Keeps "__v1" (scope "<p v-if=\"a>b\">" "__v1").toList := by
  let condition (value : String) : OpenTag :=
    ⟨['p'], [⟨[' '], ⟨"v-if".toList, some ⟨[], [], .double, value.toList⟩⟩⟩], [], false⟩
  let front : InnerTag := ⟨['p'], " v-if=\"a".toList, false⟩
  have hw : (condition "a>b").Written := by decide +kernel
  have hw' : (condition "a __v1>b").Written := by decide +kernel
  have hscope : scope "<p v-if=\"a>b\">" "__v1" = "<p v-if=\"a __v1>b\">" := by
    have htext : "<p v-if=\"a>b\">".toList = front.chars ++ "b\">".toList := by decide +kernel
    have hcut : cut "b\">".toList = ⟨"b\">".toList, []⟩ := cut_of_notMem (by simp)
    rw [scope, htext, join_cut_innerTag (by decide +kernel), hcut]
    decide +kernel
  refine ⟨condition "a>b", ?_, ?_, hscope, ?_⟩
  · exact OpenTag.read_complete hw (by decide +kernel) []
  · rw [hw.consistsOf.get?_ofText]
    decide +kernel
  · rintro ⟨kept, hread, -, -, hget, -⟩
    have hread' : OpenTag.read ((condition "a __v1>b").chars ++ []) =
        some (condition "a __v1>b", []) := OpenTag.read_complete hw' (by decide +kernel) []
    have htext : (scope "<p v-if=\"a>b\">" "__v1").toList = (condition "a __v1>b").chars ++ [] := by
      rw [hscope]
      decide +kernel
    rw [htext, hread'] at hread
    obtain ⟨rfl, -⟩ := Prod.mk.inj (Option.some.inj hread)
    have hvalue := hget "v-if"
    rw [hw.consistsOf.get?_ofText, hw'.consistsOf.get?_ofText] at hvalue
    revert hvalue
    decide +kernel

end Template

end ComponentFile
