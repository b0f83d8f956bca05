import ComponentFile.Proofs.Markup
import ComponentFile.Proofs.Scan
import Mathlib

/-!
# Scanning undoes printing

A document in abstract form is a list of items: blanks, comments and regions.  Printed and scanned
again, it gives back exactly its regions, with the names, attributes, contents and offsets that the
items have.  So no well-formed document is refused, cut short or run into its neighbour.

* `Item`, `Item.chars` — the items of a document and their text.
* `Item.WellFormed` — what an item must be like.  Each condition is about the item alone, so
  well-formed items can follow each other in any order.
* `regionsFrom` — the regions that the items are, with their offsets.
* `scanFrom_item` — the step: an item is scanned as what it is, whatever follows.
* **`scan_print`** — the run over a whole document.
-/

namespace ComponentFile

/-! ## Documents -/

/-- An item of a document. -/
inductive Item where
  | blanks (text : List Char)
  | comment (inside : List Char)
  /-- A region whose tag closes itself. -/
  | selfClosed (tag : OpenTag)
  /-- A script or style region. -/
  | raw (tag : OpenTag) (contents : List Char) (ending : ClosingTag)
  /-- A region of any other name. -/
  | markup (tag : OpenTag) (contents : Markup) (ending : ClosingTag)
deriving DecidableEq, Repr

/-- The region that begins with a tag at byte `start` and has the given contents. -/
def OpenTag.region (tag : OpenTag) (start : Nat) (contents : List Char) : Region where
  name := String.ofList (tag.name.map Char.toLower)
  attributes := .ofList (tag.items.map fun item => (item.written.key, item.written.meaning))
  tagStart := start
  contentsStart := start + byteLength tag.chars
  contents := .ok (String.ofList contents)

namespace Item

/-- The text of an item. -/
def chars : Item → List Char
  | blanks text => text
  | comment inside => commentOpen ++ inside ++ commentClose
  | selfClosed tag => tag.chars
  | raw tag contents ending => tag.chars ++ contents ++ ending.chars
  | markup tag contents ending => tag.chars ++ contents.chars ++ ending.chars

/-- The form of an item.  A comment's text must not close it, neither by itself nor together with
the dashes in front. -/
def WellFormed : Item → Prop
  | blanks text => ∀ c ∈ text, isBlank c = true
  | comment inside =>
    ¬ commentClose <:+: inside ∧ ¬ ['>'] <+: inside ∧ ¬ ['-', '>'] <+: inside
  | selfClosed tag => tag.Written ∧ tag.SlashApart ∧ tag.selfClosing = true
  | raw tag contents ending =>
    tag.Written ∧ tag.selfClosing = false ∧ isRawText (tag.name.map Char.toLower) = true ∧
      ending.Names tag.name ∧
      ∀ inner : ClosingTag, inner.Folds (tag.name.map Char.toLower) → ¬ inner.chars <:+: contents
  | markup tag contents ending =>
    tag.Written ∧ tag.selfClosing = false ∧ isRawText (tag.name.map Char.toLower) = false ∧
      ending.Names tag.name ∧ contents.WellNested (tag.name.map Char.toLower)

/-- The regions that an item at byte `start` is: one, or none. -/
def regions (start : Nat) : Item → List Region
  | blanks _ => []
  | comment _ => []
  | selfClosed tag => [tag.region start []]
  | raw tag contents _ => [tag.region start contents]
  | markup tag contents _ => [tag.region start contents.chars]

end Item

/-- The regions of items that begin at byte `start`. -/
def regionsFrom (start : Nat) : List Item → List Region
  | [] => []
  | item :: items => item.regions start ++ regionsFrom (start + byteLength item.chars) items

/-- The text of a document. -/
def printItems (items : List Item) : String := String.ofList (items.flatMap Item.chars)

/-! ## Closing tags -/

theorem ClosingTag.Names.lower {tag : ClosingTag} {name : List Char} (h : tag.Names name) :
    tag.Names (name.map Char.toLower) :=
  ⟨by rw [sameName_map_toLower]; exact h.name, h.blanks⟩

/-- A closing tag of a name in any ASCII case is one under case folding. -/
theorem ClosingTag.Names.folds {tag : ClosingTag} {name : List Char} (h : tag.Names name) :
    tag.Folds (name.map Char.toLower) := by
  refine ⟨?_, h.blanks⟩
  rw [← sameName_iff.1 h.name, List.forall₂_map_left_iff]
  exact List.forall₂_same.2 fun c _ => by simp [foldsTo]

/-! ## Comments -/

theorem not_infix_commentOpen_append {inside : List Char} (h : ¬ commentClose <:+: inside)
    (hsign : ¬ ['>'] <+: inside) (hdash : ¬ ['-', '>'] <+: inside) :
    ¬ commentClose <:+: commentOpen ++ inside := by
  simp only [commentOpen, List.cons_append, List.nil_append, List.infix_cons_iff, not_or]
  refine ⟨?_, ?_, ?_, ?_, h⟩
  · simp [commentClose]
  · simp [commentClose]
  · simpa [commentClose] using hsign
  · simpa [commentClose] using hdash

/-! ## The step -/

theorem Attributes.ofText_attributeText {tag : OpenTag} (h : tag.Written) :
    Attributes.ofText tag.attributeText =
      .ofList (tag.items.map fun item => (item.written.key, item.written.meaning)) := by
  rw [Attributes.ofText, OpenTag.attributeText, attributesIn_items h.items, List.map_map]
  rfl

/-- A region is scanned as the region that it is. -/
theorem scanFrom_region {tag : OpenTag} {start : Nat} {contents ending rest : List Char}
    (hw : tag.Written) (hs : tag.SlashApart)
    (ho : Region.ofTag tag start (contents ++ ending ++ rest) = (tag.region start contents, rest)) :
    scanFrom start (tag.chars ++ contents ++ ending ++ rest) =
      (scanFrom (start + byteLength (tag.chars ++ contents ++ ending)) rest).map
        ([tag.region start contents] ++ ·) := by
  have htext : tag.chars ++ contents ++ ending ++ rest =
      tag.chars ++ (contents ++ ending ++ rest) := by
    simp
  have hnext : byteLength (tag.chars ++ (contents ++ ending ++ rest)) - byteLength rest =
      byteLength (tag.chars ++ contents ++ ending) := by
    simp only [byteLength_append]
    omega
  rw [htext, scanFrom_tag hw hs ho, hnext]
  rfl

theorem ofTag_region {tag : OpenTag} {start : Nat} {body contents rest : List Char}
    (hw : tag.Written) (hs : tag.selfClosing = false)
    (h : closeRegion (tag.name.map Char.toLower) body = .ok (contents, rest)) :
    Region.ofTag tag start body = (tag.region start contents, rest) := by
  rw [ofTag_of_closeRegion hs start h, OpenTag.region, Attributes.ofText_attributeText hw]

/-- **An item is scanned as what it is**, whatever follows it. -/
theorem scanFrom_item {item : Item} (h : item.WellFormed) (start : Nat) (rest : List Char) :
    scanFrom start (item.chars ++ rest) =
      (scanFrom (start + byteLength item.chars) rest).map (item.regions start ++ ·) := by
  have hapart {tag : OpenTag} (hs : tag.selfClosing = false) : tag.SlashApart := by
    intro hself
    rw [hs] at hself
    cases hself
  cases item with
  | blanks text =>
    rw [Item.chars, scanFrom_blanks h]
    exact (map_nil_append _).symm
  | comment inside =>
    obtain ⟨hclose, hsign, hdash⟩ := h
    have hsplit := splitAtFirst?_commentClose
      (not_infix_commentOpen_append hclose hsign hdash) rest
    have hopen : (afterLiteral? commentOpen (commentOpen ++ inside ++ commentClose ++ rest)).isSome
        = true := by
      rw [List.append_assoc, List.append_assoc, afterLiteral?_eq_some_iff.2 rfl]
      rfl
    rw [Item.chars, scanFrom_comment hopen hsplit]
    exact (map_nil_append _).symm
  | selfClosed tag =>
    obtain ⟨hw, hs, hself⟩ := h
    have ho : Region.ofTag tag start ([] ++ [] ++ rest) = (tag.region start [], rest) := by
      rw [ofTag_selfClosing hself, OpenTag.region, Attributes.ofText_attributeText hw]
      rfl
    simpa [Item.chars, Item.regions] using scanFrom_region hw hs ho
  | raw tag contents ending =>
    obtain ⟨hw, hs, hraw, hending, hfirst⟩ := h
    refine scanFrom_region hw (hapart hs) (ofTag_region hw hs ?_)
    rw [closeRegion, if_pos hraw]
    exact (closeRaw_eq_ok_iff (notMem_of_isRawText hraw)).2 ⟨ending, hending.folds, rfl, hfirst⟩
  | markup tag contents ending =>
    obtain ⟨hw, hs, hraw, hending, hnested⟩ := h
    refine scanFrom_region hw (hapart hs) (ofTag_region hw hs ?_)
    rw [closeRegion, if_neg (by simp [hraw]), List.append_assoc]
    exact closeMarkup_eq_ok ((isTagName_map_toLower _).2 hw.name) hnested hending.lower rest

/-! ## The run -/

theorem scanFrom_items {items : List Item} (h : ∀ item ∈ items, item.WellFormed) (start : Nat) :
    scanFrom start (items.flatMap Item.chars) = .ok (regionsFrom start items) := by
  induction items generalizing start with
  | nil => exact scanFrom_nil start
  | cons item items ih =>
    rw [List.flatMap_cons, scanFrom_item (h item (by simp)), ih fun i hi => h i (by simp [hi])]
    rfl

/-- **Scanning undoes printing.**  The regions of a printed document are those that were printed:
each with its name in lower case, its attributes of which the last of a name counts, its contents to
the letter, and the byte offsets of its opening tag and of what follows the tag. -/
theorem scan_print {items : List Item} (h : ∀ item ∈ items, item.WellFormed) :
    scan (printItems items) = .ok (regionsFrom 0 items) := by
  rw [scan, printItems, String.toList_ofList]
  exact scanFrom_items h 0

/-- A comment, a template that holds an element of its own name and unpaired tags of others, a
script that is closed in capitals, and a region that closes itself. -/
theorem scan_print_nested :
    ∃ items, (∀ item ∈ items, item.WellFormed) ∧
      printItems items = "<!-- é -->\n<Template lang=\"a>b\">x<template><br></p></TEMPLATE >" ++
        "</template><script>a&b</SCRIPT><i18n/>" ∧
      scan (printItems items) = .ok (regionsFrom 0 items) := by
  let lang : AttrItem := ⟨[' '], ⟨"lang".toList, some ⟨[], [], .double, "a>b".toList⟩⟩⟩
  let contents : Markup := .text ['x'] (.element ⟨"template".toList, [], false⟩
    (.opening ⟨"br".toList, [], false⟩ (.closing ⟨['p'], []⟩ .nil)) ⟨"TEMPLATE".toList, [' ']⟩ .nil)
  let items : List Item :=
    [.comment " é ".toList, .blanks ['\n'],
      .markup ⟨"Template".toList, [lang], [], false⟩ contents ⟨"template".toList, []⟩,
      .raw ⟨"script".toList, [], [], false⟩ "a&b".toList ⟨"SCRIPT".toList, []⟩,
      .selfClosed ⟨"i18n".toList, [], [], true⟩]
  have hcomment : (Item.comment " é ".toList).WellFormed :=
    ⟨by decide +kernel, by decide +kernel, by decide +kernel⟩
  have hblanks : (Item.blanks ['\n']).WellFormed := by simp [Item.WellFormed, isBlank]
  have htemplate : (Item.markup ⟨"Template".toList, [lang], [], false⟩ contents
      ⟨"template".toList, []⟩).WellFormed :=
    ⟨by decide +kernel, rfl, by decide +kernel, by decide +kernel, by decide +kernel⟩
  have hscript : (Item.raw ⟨"script".toList, [], [], false⟩ "a&b".toList
      ⟨"SCRIPT".toList, []⟩).WellFormed := by
    refine ⟨by decide +kernel, rfl, by decide +kernel, by decide +kernel, ?_⟩
    intro inner _ hinner
    have hmem : '<' ∈ "a&b".toList := hinner.subset (by simp [ClosingTag.chars])
    simp at hmem
  have hself : (Item.selfClosed ⟨"i18n".toList, [], [], true⟩).WellFormed :=
    ⟨by decide +kernel, by decide +kernel, rfl⟩
  have hitems : ∀ item ∈ items, item.WellFormed := by
    simp only [items, List.forall_mem_cons]
    exact ⟨hcomment, hblanks, htemplate, hscript, hself, by simp⟩
  exact ⟨items, hitems, by decide +kernel, scan_print hitems⟩

end ComponentFile
