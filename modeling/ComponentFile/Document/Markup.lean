import ComponentFile.Document.OpenTag

/-!
# Where a region ends

Script and style regions hold raw text: they end at the first closing tag of their name.  Any
other region holds markup, in which tags of the region's own name nest and comments hide what
they contain.

* `readRawClose` — the closing tag of a raw-text region.
* `Boundary` — what counts in markup: the start of a comment, a closing tag, an opening tag.
* `closeRaw`, `closeMarkup`, `closeRegion` — split the text after an opening tag into the contents
  of the region and what follows its closing tag.
-/

namespace ComponentFile

/-! ## Comments -/

/-- The start of a comment. -/
def commentOpen : List Char := ['<', '!', '-', '-']

/-- The end of a comment. -/
def commentClose : List Char := ['-', '-', '>']

/-! ## Raw text -/

/-- Whether a character is the given ASCII letter under simple case folding.  Outside ASCII only
the long s and the Kelvin sign fold to letters. -/
def foldsTo (letter c : Char) : Bool :=
  c.toLower == letter || (letter == 's' && c == '\u017f') || (letter == 'k' && c == '\u212a')

/-- The rest of a text after a name, compared under simple case folding. -/
def afterFolded? : (name text : List Char) → Option (List Char)
  | [], text => some text
  | _ :: _, [] => none
  | l :: ls, c :: cs => if foldsTo l c then afterFolded? ls cs else none

theorem length_of_afterFolded? {name text rest : List Char}
    (h : afterFolded? name text = some rest) : rest.length + name.length = text.length := by
  induction name generalizing text with
  | nil => cases h; rfl
  | cons l ls ih =>
    cases text with
    | nil => cases h
    | cons c cs =>
      rw [afterFolded?] at h
      split at h
      · have := ih h; simp; omega
      · cases h

/-- Reads the closing tag of a raw-text region; the result is the rest. -/
def readRawClose (name : List Char) : List Char → Option (Unit × List Char)
  | '<' :: '/' :: text => do
    let afterName ← afterFolded? name text
    match dropBlanks afterName with
    | '>' :: rest => some ((), rest)
    | _ => none
  | _ => none

/-- What stops the contents of a region from being read, with its byte offset in the contents. -/
inductive RegionFault where
  | unclosed (offset : Nat)
  | unclosedComment (offset : Nat)
deriving DecidableEq, Repr

/-- The same fault in a text that begins `bytes` bytes earlier. -/
def RegionFault.shift (bytes : Nat) : RegionFault → RegionFault
  | unclosed offset => unclosed (bytes + offset)
  | unclosedComment offset => unclosedComment (bytes + offset)

/-- The contents of a raw-text region and the text after its closing tag. -/
def closeRaw (name text : List Char) : Except RegionFault (List Char × List Char) :=
  match findFirst? (readRawClose name) text with
  | some found => .ok (found.before, found.after)
  | none => .error (.unclosed (byteLength text))

/-! ## Markup -/

/-- What counts when the end of a markup region is looked for. -/
inductive BoundaryKind where
  | comment
  | close (name : List Char)
  | opening (name : List Char)
deriving DecidableEq, Repr

/-- A boundary with its text. -/
structure Boundary where
  kind : BoundaryKind
  text : List Char
deriving DecidableEq, Repr

/-- Reads the closing tag `</name >`. -/
def readCloseTag : List Char → Option (Boundary × List Char)
  | '<' :: '/' :: text => do
    let (name, afterName) ← readTagName text
    match dropBlanks afterName with
    | '>' :: rest =>
      some (⟨.close name, '<' :: '/' :: (name ++ takeBlanks afterName ++ ['>'])⟩, rest)
    | _ => none
  | _ => none

/-- Reads an opening tag in markup: a name, then `>`, or a blank and everything up to the next
`>`, whatever quotes it is in. -/
def readOpening : List Char → Option (Boundary × List Char)
  | '<' :: text => do
    let (name, afterName) ← readTagName text
    match afterName with
    | '>' :: rest => some (⟨.opening name, '<' :: (name ++ ['>'])⟩, rest)
    | c :: _ =>
      if isBlank c then
        (splitAtFirst? ['>'] afterName).map fun (inside, rest) =>
          (⟨.opening name, '<' :: (name ++ inside ++ ['>'])⟩, rest)
      else none
    | [] => none
  | _ => none

/-- Reads a boundary. -/
def readBoundary (text : List Char) : Option (Boundary × List Char) :=
  match afterLiteral? commentOpen text with
  | some rest => some (⟨.comment, commentOpen⟩, rest)
  | none => (readCloseTag text).or (readOpening text)

theorem eq_of_readCloseTag {text rest : List Char} {b : Boundary}
    (h : readCloseTag text = some (b, rest)) : text = b.text ++ rest ∧ b.text ≠ [] := by
  unfold readCloseTag at h
  split at h
  · next cs =>
    simp only [Option.bind_eq_bind, Option.bind_eq_some_iff] at h
    obtain ⟨⟨name, afterName⟩, hn, h⟩ := h
    dsimp only at h
    split at h
    · next r hr =>
      cases h
      have hb := takeBlanks_append_dropBlanks afterName
      rw [hr] at hb
      refine ⟨?_, by simp⟩
      rw [eq_of_readTagName hn]
      simp [hb]
    · cases h
  · cases h

theorem eq_of_readOpening {text rest : List Char} {b : Boundary}
    (h : readOpening text = some (b, rest)) : text = b.text ++ rest ∧ b.text ≠ [] := by
  unfold readOpening at h
  split at h
  · next cs =>
    simp only [Option.bind_eq_bind, Option.bind_eq_some_iff] at h
    obtain ⟨⟨name, afterName⟩, hn, h⟩ := h
    dsimp only at h
    rw [eq_of_readTagName hn]
    split at h
    · cases h; simp
    · split at h
      · obtain ⟨⟨inside, r⟩, hs, he⟩ := Option.map_eq_some_iff.1 h
        cases he
        rw [eq_of_splitAtFirst? hs]; simp
      · cases h
    · cases h
  · cases h

/-- Reading a boundary consumes exactly its text. -/
theorem eq_of_readBoundary {text rest : List Char} {b : Boundary}
    (h : readBoundary text = some (b, rest)) : text = b.text ++ rest ∧ b.text ≠ [] := by
  unfold readBoundary at h
  split at h
  · next r hr =>
    cases h
    exact ⟨afterLiteral?_eq_some_iff.1 hr, by simp [commentOpen]⟩
  · rcases Option.or_eq_some_iff.1 h with h | ⟨_, h⟩
    · exact eq_of_readCloseTag h
    · exact eq_of_readOpening h

theorem length_of_readBoundary {text rest : List Char} {b : Boundary}
    (h : readBoundary text = some (b, rest)) : rest.length < text.length := by
  obtain ⟨rfl, hb⟩ := eq_of_readBoundary h
  have := List.length_pos_iff.2 hb
  simp; omega

/-- Two tag names are the same when they differ only in ASCII case. -/
def sameName (a b : List Char) : Bool := a.map Char.toLower == b.map Char.toLower

/-- Whether a tag's text ends in `/>`. -/
def endsSelfClosed (text : List Char) : Bool := text.reverse.take 2 == ['>', '/']

/-- The number of levels that an opening tag of the name `other` adds to a region: one if it has
the region's own name and is not closed at once. -/
def levels (name other lexeme : List Char) : Nat :=
  if sameName other name && !endsSelfClosed lexeme then 1 else 0

/-- Puts text that was passed over in front of the contents found after it. -/
def prepend (passed : List Char) :
    Except RegionFault (List Char × List Char) → Except RegionFault (List Char × List Char)
  | .ok (contents, rest) => .ok (passed ++ contents, rest)
  | .error fault => .error (fault.shift (byteLength passed))

/-- The contents of a markup region and the text after its closing tag.  `depth` counts the open
tags of the region's own name inside it. -/
def closeMarkup (name : List Char) (depth : Nat) (text : List Char) :
    Except RegionFault (List Char × List Char) :=
  match _h : findFirst? readBoundary text with
  | none => .error (.unclosed (byteLength text))
  | some ⟨before, ⟨.comment, lexeme⟩, after⟩ =>
    match _hc : splitAtFirst? commentClose after with
    | none => .error (.unclosedComment (byteLength before))
    | some (inside, rest) =>
      prepend (before ++ lexeme ++ inside ++ commentClose) (closeMarkup name depth rest)
  | some ⟨before, ⟨.close other, lexeme⟩, after⟩ =>
    if sameName other name then
      match depth with
      | 0 => .ok (before, after)
      | depth + 1 => prepend (before ++ lexeme) (closeMarkup name depth after)
    else prepend (before ++ lexeme) (closeMarkup name depth after)
  | some ⟨before, ⟨.opening other, lexeme⟩, after⟩ =>
    prepend (before ++ lexeme) (closeMarkup name (depth + levels name other lexeme) after)
termination_by text.length
decreasing_by
  all_goals have hlt := length_after_lt length_of_readBoundary _h
  · have := eq_of_splitAtFirst? _hc
    simp_all; omega
  all_goals exact hlt

/-- The contents found are a beginning of the text, and the rest is an end of it. -/
theorem eq_of_closeMarkup {name text contents rest : List Char} {depth : Nat}
    (h : closeMarkup name depth text = .ok (contents, rest)) :
    ∃ closing, text = contents ++ closing ++ rest := by
  have step {passed contents rest : List Char} {found}
      (h : prepend passed found = .ok (contents, rest)) :
      ∃ inner, found = .ok (inner, rest) ∧ contents = passed ++ inner := by
    cases found with
    | error => cases h
    | ok pair => cases h; exact ⟨pair.1, rfl, rfl⟩
  have split {text : List Char} {found : Found Boundary}
      (h : findFirst? readBoundary text = some found) :
      text = found.before ++ found.value.text ++ found.after := by
    obtain ⟨here, rfl, hr⟩ := read_of_findFirst? h
    rw [(eq_of_readBoundary hr).1]; simp
  fun_induction closeMarkup name depth text generalizing contents with
  | case1 => cases h
  | case2 => cases h
  | case3 depth text before lexeme after hf inside rest' hs ih =>
    obtain ⟨inner, hi, rfl⟩ := step h
    obtain ⟨closing, hc⟩ := ih hi
    exact ⟨closing, by rw [split hf, eq_of_splitAtFirst? hs, hc]; simp⟩
  | case4 text before other lexeme after hf hn =>
    cases h
    exact ⟨lexeme, split hf⟩
  | case5 text before other lexeme after hf hn depth ih =>
    obtain ⟨inner, hi, rfl⟩ := step h
    obtain ⟨closing, hc⟩ := ih hi
    exact ⟨closing, by rw [split hf, hc]; simp⟩
  | case6 depth text before other lexeme after hf hn ih =>
    obtain ⟨inner, hi, rfl⟩ := step h
    obtain ⟨closing, hc⟩ := ih hi
    exact ⟨closing, by rw [split hf, hc]; simp⟩
  | case7 depth text before other lexeme after hf ih =>
    obtain ⟨inner, hi, rfl⟩ := step h
    obtain ⟨closing, hc⟩ := ih hi
    exact ⟨closing, by rw [split hf, hc]; simp⟩

/-- Regions of these names hold raw text. -/
def isRawText (name : List Char) : Bool := name == "script".toList || name == "style".toList

/-- Splits the text after an opening tag into the contents of the region and the text after its
closing tag. -/
def closeRegion (name text : List Char) : Except RegionFault (List Char × List Char) :=
  if isRawText name then closeRaw name text else closeMarkup name 0 text

theorem length_of_readRawClose {name text rest : List Char} {u : Unit}
    (h : readRawClose name text = some (u, rest)) : rest.length < text.length := by
  unfold readRawClose at h
  split at h
  · next cs =>
    simp only [Option.bind_eq_bind, Option.bind_eq_some_iff] at h
    obtain ⟨afterName, hn, h⟩ := h
    split at h
    · next r hr =>
      cases h
      have := length_of_afterFolded? hn
      have := length_dropBlanks_le afterName
      simp_all; omega
    · cases h
  · cases h

/-- What follows a region is no longer than the text its opening tag left. -/
theorem length_of_closeRegion {name text contents rest : List Char}
    (h : closeRegion name text = .ok (contents, rest)) : rest.length ≤ text.length := by
  unfold closeRegion at h
  split at h
  · unfold closeRaw at h
    split at h
    · next found hf =>
      cases h
      exact Nat.le_of_lt (length_after_lt length_of_readRawClose hf)
    · cases h
  · obtain ⟨closing, rfl⟩ := eq_of_closeMarkup h
    simp; omega

end ComponentFile
