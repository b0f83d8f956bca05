import ComponentFile.Proofs.OpenTag
import Mathlib

/-!
# The attributes of a tag, read twice

The attributes of an opening tag are read once to find the end of the tag and once more, by search,
to enter them in its table.  Both readings see the same attributes, because there is only one way to
see them.

* `get?_ofList`, `size_ofList` — a table by the settings it was made from: of settings of one name
  the last counts.
* `ConsistsOf` — a text is a list of attributes with their blanks, as they are written.
* `ConsistsOf.unique` — no text is that in two ways: reading the items of a text from the left gives
  back any list that it consists of.
* **`attributes_of_read`** — the attributes of a tag that was read are such a list, and its table is
  the table of the list.
-/

namespace ComponentFile

/-! ## Tables -/

namespace Attributes

theorem ofList_concat (settings : List (String × AttrValue)) (name : String) (value : AttrValue) :
    ofList (settings ++ [(name, value)]) = (ofList settings).insert name value := by
  simp [ofList]

/-- The last setting of a name counts. -/
theorem get?_ofList (settings : List (String × AttrValue)) (name : String) :
    (ofList settings).get? name =
      ((settings.filter fun setting => setting.1 = name).getLast?).map Prod.snd := by
  induction settings using List.reverseRecOn with
  | nil => rfl
  | append_singleton settings last ih =>
    obtain ⟨other, value⟩ := last
    rw [ofList_concat, get?_insert, List.filter_append]
    by_cases h : other = name
    · simp [h]
    · simp [h, Ne.symm h, ih]

theorem mem_names_insert {table : Attributes} {name other : String} {value : AttrValue} :
    other ∈ (table.insert name value).entries.map Prod.fst ↔
      other = name ∨ other ∈ table.entries.map Prod.fst := by
  by_cases h : other = name
  · simp [insert, h]
  · simp [insert, h]

theorem mem_names_ofList {settings : List (String × AttrValue)} {name : String} :
    name ∈ (ofList settings).entries.map Prod.fst ↔ name ∈ settings.map Prod.fst := by
  induction settings using List.reverseRecOn with
  | nil => rfl
  | append_singleton settings last ih =>
    obtain ⟨other, value⟩ := last
    rw [ofList_concat, mem_names_insert, ih, List.map_append, List.mem_append, or_comm]
    simp

/-- A table has an entry for each name that was set. -/
theorem size_ofList (settings : List (String × AttrValue)) :
    (ofList settings).size = (settings.map Prod.fst).dedup.length := by
  have hperm : ((ofList settings).entries.map Prod.fst).Perm (settings.map Prod.fst).dedup := by
    refine (List.perm_ext_iff_of_nodup (ofList settings).nodup_names (List.nodup_dedup _)).2 ?_
    intro name
    rw [mem_names_ofList, List.mem_dedup]
  rw [size, ← hperm.length_eq, List.length_map]

/-- A new name makes a table larger by one. -/
theorem size_insert_of_get?_eq_none {table : Attributes} {name : String}
    (h : table.get? name = none) (value : AttrValue) :
    (table.insert name value).size = table.size + 1 := by
  have hkeep : table.entries.filter (fun entry => entry.1 ≠ name) = table.entries := by
    refine List.filter_eq_self.2 fun entry hentry => ?_
    have hne := List.lookup_eq_none_iff.1 h entry hentry
    exact decide_eq_true (Ne.symm (bne_iff_ne.1 hne))
  change (table.entries.filter fun entry => entry.1 ≠ name).length + 1 = table.entries.length + 1
  rw [hkeep]

end Attributes

/-! ## One way to read -/

/-- A text is a list of attributes with their blanks, one behind the other. -/
structure ConsistsOf (text : List Char) (items : List AttrItem) : Prop where
  written : ∀ item ∈ items, item.Written
  chars : items.flatMap AttrItem.chars = text

/-- At the end of a text every attribute ends. -/
theorem AttrText.endsBefore_nil (a : AttrText) : a.EndsBefore [] := by
  unfold EndsBefore
  split
  · exact ⟨StopsBefore.nil _, by simp [dropBlanks]⟩
  · exact fun _ => StopsBefore.nil _

theorem ConsistsOf.readItems_eq {text : List Char} {items : List AttrItem}
    (h : ConsistsOf text items) : readItems text = (items, []) := by
  have hend : ItemsEndBefore items [] := fun item _ => item.written.endsBefore_nil
  have hread := readItems_complete h.written hend rfl
  rwa [List.append_nil, h.chars] at hread

/-- **A text consists of one list of attributes at most.** -/
theorem ConsistsOf.unique {text : List Char} {items others : List AttrItem}
    (h : ConsistsOf text items) (ho : ConsistsOf text others) : others = items := by
  have heq : (others, []) = (items, []) := ho.readItems_eq.symm.trans h.readItems_eq
  exact congrArg Prod.fst heq

theorem ConsistsOf.ofText_eq {text : List Char} {items : List AttrItem}
    (h : ConsistsOf text items) :
    Attributes.ofText text =
      .ofList (items.map fun item => (item.written.key, item.written.meaning)) := by
  rw [Attributes.ofText, ← h.chars, attributesIn_items h.written, List.map_map]
  rfl

/-- The table of a text, by the attributes that the text consists of. -/
theorem ConsistsOf.get?_ofText {text : List Char} {items : List AttrItem}
    (h : ConsistsOf text items) (name : String) :
    (Attributes.ofText text).get? name =
      ((items.filter fun item => item.written.key = name).getLast?).map (·.written.meaning) := by
  rw [h.ofText_eq, Attributes.get?_ofList, List.filter_map, List.getLast?_map, Option.map_map]
  rfl

theorem ConsistsOf.size_ofText {text : List Char} {items : List AttrItem}
    (h : ConsistsOf text items) :
    (Attributes.ofText text).size = (items.map (·.written.key)).dedup.length := by
  rw [h.ofText_eq, Attributes.size_ofList, List.map_map]
  rfl

theorem OpenTag.Written.consistsOf {tag : OpenTag} (h : tag.Written) :
    ConsistsOf tag.attributeText tag.items :=
  ⟨h.items, rfl⟩

/-- **The table of a tag is that of its attributes.**  Between the name of a tag that was read and
the blanks at its end there is a text that consists of attributes in exactly one way, whatever their
values look like.  Searched for attributes, it gives the table in which the last attribute of a name
counts, and which has no other names. -/
theorem OpenTag.attributes_of_read {text rest : List Char} {tag : OpenTag}
    (h : OpenTag.read text = some (tag, rest)) :
    text = '<' :: (tag.name ++ (tag.attributeText ++ (tag.trailing ++ (tag.close ++ rest)))) ∧
    (∃! items, ConsistsOf tag.attributeText items) ∧
    ∀ items, ConsistsOf tag.attributeText items →
      (∀ name, (Attributes.ofText tag.attributeText).get? name =
        ((items.filter fun item => item.written.key = name).getLast?).map (·.written.meaning)) ∧
      (Attributes.ofText tag.attributeText).size = (items.map (·.written.key)).dedup.length := by
  obtain ⟨hw, -, htext⟩ := OpenTag.read_eq_some_iff.1 h
  refine ⟨by rw [htext, OpenTag.chars_append_eq], ?_, ?_⟩
  · exact ⟨tag.items, hw.consistsOf, fun others ho => hw.consistsOf.unique ho⟩
  · exact fun items hi => ⟨hi.get?_ofText, hi.size_ofText⟩

/-- A quoted value that looks like attributes and the end of a tag, a name that comes twice, a flag,
and a bare value that takes the slash. -/
theorem OpenTag.attributes_of_read_quoted :
    ∃ tag : OpenTag, tag.chars = "<t a=\"b='c' d/>\" A = '\"=' s n=1/>".toList ∧
      OpenTag.read tag.chars = some (tag, []) ∧
      (∃! items, ConsistsOf tag.attributeText items) ∧
      (Attributes.ofText tag.attributeText).get? "a" = some (.text "\"=") ∧
      (Attributes.ofText tag.attributeText).get? "s" = some .flag ∧
      (Attributes.ofText tag.attributeText).get? "n" = some (.text "1/") ∧
      (Attributes.ofText tag.attributeText).get? "d" = none ∧
      (Attributes.ofText tag.attributeText).size = 3 := by
  let tag : OpenTag :=
    { name := ['t']
      items := [⟨[' '], ⟨['a'], some ⟨[], [], .double, "b='c' d/>".toList⟩⟩⟩,
        ⟨[' '], ⟨['A'], some ⟨[' '], [' '], .single, "\"=".toList⟩⟩⟩,
        ⟨[' '], ⟨['s'], none⟩⟩, ⟨[' '], ⟨['n'], some ⟨[], [], .bare, "1/".toList⟩⟩⟩]
      trailing := []
      selfClosing := false }
  have hw : tag.Written := by decide +kernel
  have hread : OpenTag.read (tag.chars ++ []) = some (tag, []) :=
    OpenTag.read_complete hw (by decide +kernel) []
  rw [List.append_nil] at hread
  obtain ⟨-, hunique, htable⟩ := OpenTag.attributes_of_read hread
  obtain ⟨hget, hsize⟩ := htable tag.items hw.consistsOf
  refine ⟨tag, by decide +kernel, hread, hunique, ?_, ?_, ?_, ?_, ?_⟩
  · rw [hget]; decide +kernel
  · rw [hget]; decide +kernel
  · rw [hget]; decide +kernel
  · rw [hget]; decide +kernel
  · rw [hsize]; decide +kernel

end ComponentFile
