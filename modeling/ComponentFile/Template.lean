import ComponentFile.Text.Blank
import ComponentFile.Text.Search

/-!
# Scoping a template

Every opening tag of a template receives the scope hash as an attribute without a value, and the
result is written as the inside of a single-quoted string literal on one line.  The pass works on
text: markup that is not well formed goes through it unchanged in kind.

* `TemplateTag.read` — recognises an opening tag and splits it where the hash belongs.
* `Template.cut` — the pieces of a template between the places where the hash belongs.
* `Template.escape` — quotes are escaped and line breaks dropped, character by character.
* `Template.scope` — the escaped text of the pieces joined by the hash.
-/

namespace ComponentFile

/-- An opening tag in a template, cut at the place for one more attribute. -/
structure TemplateTag where
  head : List Char
  close : List Char
deriving DecidableEq, Repr

namespace TemplateTag

/-- Characters of a tag's name in a template. -/
def isTemplateNameChar (c : Char) : Bool := c.isAlphanum || c == '_' || c == '-'

/-- Reads the end of a tag. -/
def readEnd : List Char → Option (List Char × List Char)
  | '>' :: rest => some (['>'], rest)
  | '/' :: '>' :: rest => some (['/', '>'], rest)
  | _ => none

/-- Reads attributes up to the end of the tag, which has to come before the next line feed. -/
def readAttributes : List Char → Option (TemplateTag × List Char)
  | [] => none
  | c :: cs =>
    match readEnd (c :: cs) with
    | some (close, rest) => some (⟨[], close⟩, rest)
    | none =>
      if c = '\n' then none
      else (readAttributes cs).map fun (tag, rest) => ({ tag with head := c :: tag.head }, rest)

/-- Reads an opening tag.  The blanks after the name may hold line breaks. -/
def read : List Char → Option (TemplateTag × List Char)
  | '<' :: text =>
    match text.takeWhile isTemplateNameChar with
    | [] => none
    | n :: ns =>
      let afterName := text.dropWhile isTemplateNameChar
      let name := '<' :: n :: ns
      match takeBlanks afterName with
      | [] => (readEnd afterName).map fun (close, rest) => (⟨name, close⟩, rest)
      | b :: bs =>
        (readAttributes (dropBlanks afterName)).map fun (tag, rest) =>
          ({ tag with head := name ++ b :: bs ++ tag.head }, rest)
  | _ => none

theorem eq_of_readEnd {text close rest : List Char} (h : readEnd text = some (close, rest)) :
    text = close ++ rest := by
  unfold readEnd at h
  split at h <;> cases h <;> rfl

theorem eq_of_readAttributes {text rest : List Char} {tag : TemplateTag}
    (h : readAttributes text = some (tag, rest)) : text = tag.head ++ tag.close ++ rest := by
  induction text generalizing tag with
  | nil => cases h
  | cons c cs ih =>
    rw [readAttributes] at h
    split at h
    · next close r hr => cases h; exact eq_of_readEnd hr
    · split at h
      · cases h
      · obtain ⟨⟨t, r⟩, ht, he⟩ := Option.map_eq_some_iff.1 h
        cases he
        rw [ih ht]; simp

/-- Reading a tag consumes exactly its two parts. -/
theorem eq_of_read {text rest : List Char} {tag : TemplateTag} (h : read text = some (tag, rest)) :
    text = tag.head ++ tag.close ++ rest ∧ tag.head ≠ [] := by
  unfold read at h
  split at h
  · next cs =>
    split at h
    · cases h
    · next n ns hn =>
      have hs : cs = n :: ns ++ cs.dropWhile isTemplateNameChar := by
        rw [← hn, List.takeWhile_append_dropWhile]
      generalize cs.dropWhile isTemplateNameChar = afterName at hs h
      subst hs
      dsimp only at h
      split at h
      · obtain ⟨⟨close, r⟩, hr, he⟩ := Option.map_eq_some_iff.1 h
        cases he
        simp [eq_of_readEnd hr]
      · next b bs hb =>
        obtain ⟨⟨t, r⟩, hr, he⟩ := Option.map_eq_some_iff.1 h
        cases he
        have := takeBlanks_append_dropBlanks afterName
        rw [hb, eq_of_readAttributes hr] at this
        rw [← this]; simp
  · cases h

theorem length_of_read {text rest : List Char} {tag : TemplateTag}
    (h : read text = some (tag, rest)) : rest.length < text.length := by
  obtain ⟨rfl, hh⟩ := eq_of_read h
  have := List.length_pos_iff.2 hh
  simp; omega

end TemplateTag

namespace Template

/-- A template cut where the hash belongs: the text before the first place, and the texts that
begin at each place. -/
structure Pieces where
  first : List Char
  others : List (List Char)
deriving DecidableEq, Repr

/-- The pieces with a text put in front. -/
def Pieces.prepend (text : List Char) (pieces : Pieces) : Pieces :=
  { pieces with first := text ++ pieces.first }

/-- The pieces joined by an insertion. -/
def Pieces.join (insertion : List Char) (pieces : Pieces) : List Char :=
  pieces.first ++ pieces.others.flatMap (insertion ++ ·)

/-- Cuts a template at every opening tag, behind its attributes. -/
def cut (text : List Char) : Pieces :=
  match _h : findFirst? TemplateTag.read text with
  | none => ⟨text, []⟩
  | some ⟨before, tag, after⟩ =>
    let rest := (cut after).prepend tag.close
    ⟨before ++ tag.head, rest.first :: rest.others⟩
termination_by text.length
decreasing_by exact length_after_lt TemplateTag.length_of_read _h

/-- How a character is written inside the literal: quotes with a backslash, line breaks not at
all. -/
def escapeChar (c : Char) : List Char :=
  if c = '\'' then ['\\', '\''] else if c = '\n' ∨ c = '\r' then [] else [c]

/-- How a text is written inside the literal. -/
def escape (text : List Char) : List Char := text.flatMap escapeChar

/-- A template with `hash` as an attribute of every opening tag, written as the inside of a
single-quoted string literal. -/
def scope (template hash : String) : String :=
  String.ofList (escape ((cut template.toList).join (' ' :: hash.toList)))

end Template

end ComponentFile
