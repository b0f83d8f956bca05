import ComponentFile.Document.Attribute

/-!
# Opening tags

The opening tag of a region: `<`, a name, attributes each set off by blanks, and `>` or `/>`.
The grammar is deterministic from left to right — after a name the next character decides what
may follow — so reading it needs no second attempt.

* `OpenTag` — a tag as it was written; `OpenTag.chars` gives its text back.
* `OpenTag.read` — reads one from the front of a text.

`eq_of_read` says that reading consumes exactly the text of the tag.
-/

namespace ComponentFile

/-- Characters of a tag's name after its first letter. -/
def isTagChar (c : Char) : Bool := c.isAlphanum || c == '-'

/-- Reads a tag's name: an ASCII letter, then ASCII letters, digits and hyphens. -/
def readTagName : List Char → Option (List Char × List Char)
  | [] => none
  | c :: cs =>
    if c.isAlpha then some (c :: cs.takeWhile isTagChar, cs.dropWhile isTagChar) else none

theorem eq_of_readTagName {text name rest : List Char} (h : readTagName text = some (name, rest)) :
    text = name ++ rest := by
  cases text with
  | nil => cases h
  | cons c cs =>
    rw [readTagName] at h
    split at h
    · cases h; simp [List.takeWhile_append_dropWhile]
    · cases h

/-- One attribute of an opening tag with the blanks that set it off. -/
structure AttrItem where
  gap : List Char
  written : AttrText
deriving DecidableEq, Repr

/-- The text of an item. -/
def AttrItem.chars (item : AttrItem) : List Char := item.gap ++ item.written.chars

/-- Reads one or more blanks and an attribute. -/
def readItem (text : List Char) : Option (AttrItem × List Char) :=
  match takeBlanks text with
  | [] => none
  | b :: bs =>
    (readAttribute (dropBlanks text)).map fun (written, rest) => (⟨b :: bs, written⟩, rest)

theorem eq_of_readItem {text rest : List Char} {item : AttrItem}
    (h : readItem text = some (item, rest)) : text = item.chars ++ rest := by
  unfold readItem at h
  split at h
  · cases h
  · next b bs hb =>
    obtain ⟨⟨a, r⟩, ha, he⟩ := Option.map_eq_some_iff.1 h
    cases he
    have := (eq_of_readAttribute ha).1
    calc text = takeBlanks text ++ dropBlanks text := (takeBlanks_append_dropBlanks text).symm
      _ = _ := by rw [hb, this]; simp [AttrItem.chars]

theorem length_of_readItem {text rest : List Char} {item : AttrItem}
    (h : readItem text = some (item, rest)) : rest.length < text.length := by
  unfold readItem at h
  split at h
  · cases h
  · obtain ⟨⟨a, r⟩, ha, he⟩ := Option.map_eq_some_iff.1 h
    cases he
    have := length_of_readAttribute ha
    have := length_dropBlanks_le text
    omega

/-- Reads as many items as follow each other. -/
def readItems (text : List Char) : List AttrItem × List Char :=
  match _h : readItem text with
  | none => ([], text)
  | some (item, rest) =>
    let (items, rest') := readItems rest
    (item :: items, rest')
termination_by text.length
decreasing_by exact length_of_readItem _h

theorem eq_of_readItems (text : List Char) :
    text = (readItems text).1.flatMap AttrItem.chars ++ (readItems text).2 := by
  fun_induction readItems text with
  | case1 => simp
  | case2 text item rest h items rest' hr ih =>
    rw [hr] at ih
    rw [eq_of_readItem h]
    simp only [List.flatMap_cons, List.append_assoc]
    rw [← ih]

/-- An opening tag as it was written. -/
structure OpenTag where
  name : List Char
  items : List AttrItem
  trailing : List Char
  selfClosing : Bool
deriving DecidableEq, Repr

namespace OpenTag

/-- The text between the name and the trailing blanks. -/
def attributeText (tag : OpenTag) : List Char := tag.items.flatMap AttrItem.chars

/-- The end of the tag. -/
def close (tag : OpenTag) : List Char := if tag.selfClosing then ['/', '>'] else ['>']

/-- The text of the tag. -/
def chars (tag : OpenTag) : List Char :=
  '<' :: (tag.name ++ (tag.attributeText ++ (tag.trailing ++ tag.close)))

/-- Reads the end of a tag and tells whether it closes itself. -/
def readClose : List Char → Option (Bool × List Char)
  | '>' :: rest => some (false, rest)
  | '/' :: '>' :: rest => some (true, rest)
  | _ => none

/-- Reads an opening tag from the front of a text. -/
def read : List Char → Option (OpenTag × List Char)
  | '<' :: text => do
    let (name, afterName) ← readTagName text
    let (items, afterItems) := readItems afterName
    let (selfClosing, rest) ← readClose (dropBlanks afterItems)
    return (⟨name, items, takeBlanks afterItems, selfClosing⟩, rest)
  | _ => none

theorem eq_of_readClose {text rest : List Char} {selfClosing : Bool}
    (h : readClose text = some (selfClosing, rest)) :
    text = (if selfClosing then ['/', '>'] else ['>']) ++ rest := by
  unfold readClose at h
  split at h <;> cases h <;> rfl

/-- Reading an opening tag consumes exactly its text. -/
theorem eq_of_read {text rest : List Char} {tag : OpenTag} (h : read text = some (tag, rest)) :
    text = tag.chars ++ rest := by
  unfold read at h
  split at h
  · next cs =>
    simp only [Option.bind_eq_bind, Option.bind_eq_some_iff, Option.pure_def,
      Option.some.injEq] at h
    obtain ⟨⟨name, afterName⟩, hn, ⟨selfClosing, r⟩, hc, he⟩ := h
    cases he
    have hr := eq_of_readItems afterName
    generalize readItems afterName = read at hc hr ⊢
    have hb := takeBlanks_append_dropBlanks read.2
    calc '<' :: cs = '<' :: (name ++ (read.1.flatMap AttrItem.chars ++ read.2)) := by
          rw [eq_of_readTagName hn, hr]
      _ = '<' :: (name ++ (read.1.flatMap AttrItem.chars ++
            (takeBlanks read.2 ++ dropBlanks read.2))) := by rw [hb]
      _ = _ := by rw [eq_of_readClose hc]; simp [chars, attributeText, close]
  · cases h

theorem length_of_read {text rest : List Char} {tag : OpenTag} (h : read text = some (tag, rest)) :
    rest.length < text.length := by
  rw [eq_of_read h]; simp [chars]; omega

end OpenTag

end ComponentFile
