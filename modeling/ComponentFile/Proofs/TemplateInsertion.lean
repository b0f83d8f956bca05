import ComponentFile.Proofs.TemplateLiteral
import Mathlib

/-!
# The hash is only inserted

Scoping a template changes it in two ways: the hash is put into its opening tags, and what comes out
is escaped.  The two do not get in each other's way.  Where the hash goes depends on the template
alone, and the escapes of the template and of the hash can be written one by one.

* `quoted`, `flat` — the two things that escaping does, one after the other.
* `Pieces.join_eq_intercalate` — a template with the hash is its pieces with the hash between them.
* `escape_intercalate` — so escaping it escapes every piece, and the hash at every place.
* **`scope_eq_intercalate`** — the same of the literal, which is one line whose quotes are escaped,
  whatever the template and the hash hold.
-/

namespace ComponentFile.Template

/-! ## Escaping -/

/-- A text with a backslash in front of every quote. -/
def quoted (text : List Char) : List Char :=
  text.flatMap fun c => if c = '\'' then ['\\', '\''] else [c]

theorem escape_eq_quoted_flat (text : List Char) : escape text = quoted (flat text) := by
  induction text with
  | nil => rfl
  | cons c cs ih =>
    by_cases hbreak : c = '\n' ∨ c = '\r'
    · rw [escape_lineBreak hbreak, flat_lineBreak hbreak, ih]
    · rw [flat_plain hbreak, quoted, List.flatMap_cons, ← quoted, ← ih, escape, List.flatMap_cons,
        ← escape, escapeChar, if_neg hbreak]

theorem escape_append (a b : List Char) : escape (a ++ b) = escape a ++ escape b :=
  List.flatMap_append

theorem escape_flatten (texts : List (List Char)) :
    escape texts.flatten = (texts.map escape).flatten := by
  induction texts with
  | nil => rfl
  | cons text texts ih =>
    rw [List.flatten_cons, escape_append, ih, List.map_cons, List.flatten_cons]

theorem escape_intercalate (separator : List Char) (texts : List (List Char)) :
    escape (separator.intercalate texts) = (escape separator).intercalate (texts.map escape) := by
  match texts with
  | [] => rfl
  | [text] => rw [List.intercalate_singleton, List.map_singleton, List.intercalate_singleton]
  | text :: next :: rest =>
    rw [List.intercalate_cons_cons, escape_append, escape_append,
      escape_intercalate separator (next :: rest)]
    simp only [List.map_cons, List.intercalate_cons_cons]

theorem notMem_escape_of_lineBreak {c : Char} (hbreak : c = '\n' ∨ c = '\r') (text : List Char) :
    c ∉ escape text := by
  rw [escape_eq_quoted_flat]
  intro hmem
  obtain ⟨d, hd, hc⟩ := List.mem_flatMap.1 hmem
  have hflat : d ≠ '\n' ∧ d ≠ '\r' := by simpa [flat] using (List.mem_filter.1 hd).2
  split at hc
  · rcases hbreak with rfl | rfl <;> simp at hc
  · obtain rfl := List.mem_singleton.1 hc
    exact hbreak.elim hflat.1 hflat.2

/-- In what is written every quote has a backslash directly in front. -/
theorem getLast?_of_escape_eq {text before after : List Char}
    (h : escape text = before ++ '\'' :: after) : before.getLast? = some '\\' := by
  induction text generalizing before with
  | nil => simp [escape] at h
  | cons c cs ih =>
    by_cases hquote : c = '\''
    · subst hquote
      rw [escape_quote] at h
      cases before with
      | nil => cases h
      | cons mark before =>
        obtain ⟨rfl, htail⟩ := List.cons.inj h
        cases before with
        | nil => rfl
        | cons quote before =>
          have hlast := ih (List.cons.inj htail).2
          rw [List.getLast?_cons_cons, List.getLast?_cons, hlast]
          rfl
    · by_cases hbreak : c = '\n' ∨ c = '\r'
      · rw [escape_lineBreak hbreak] at h
        exact ih h
      · rw [escape_plain hquote hbreak] at h
        cases before with
        | nil => exact absurd (List.cons.inj h).1 hquote
        | cons mark before =>
          have hlast := ih (List.cons.inj h).2
          rw [List.getLast?_cons, hlast]
          rfl

/-! ## Joining -/

theorem Pieces.join_eq_intercalate (insertion : List Char) (pieces : Pieces) :
    pieces.join insertion = insertion.intercalate (pieces.first :: pieces.others) := by
  obtain ⟨first, others⟩ := pieces
  rw [join]
  induction others generalizing first with
  | nil => rw [List.flatMap_nil, List.append_nil, List.intercalate_singleton]
  | cons piece others ih =>
    rw [List.flatMap_cons, List.append_assoc insertion piece, ih piece,
      List.intercalate_cons_cons, List.append_assoc]

/-- **The hash is only inserted.**  A template is cut into pieces that do not depend on the hash,
and the literal is these pieces with the escaped hash between them.  The pieces together are the
template without its line breaks and with its quotes escaped, so nothing of it is lost, doubled or
moved.  The literal holds no line break, and no quote without a backslash in front of it. -/
theorem scope_eq_intercalate (template : String) :
    ∃ pieces : List (List Char), pieces ≠ [] ∧
      pieces.flatten = quoted (flat template.toList) ∧
      ∀ hash : String,
        (scope template hash).toList =
          (quoted (flat (' ' :: hash.toList))).intercalate pieces ∧
        (∀ before after, (scope template hash).toList = before ++ '\'' :: after →
          before.getLast? = some '\\') ∧
        '\n' ∉ (scope template hash).toList ∧ '\r' ∉ (scope template hash).toList := by
  let parts := (cut template.toList).first :: (cut template.toList).others
  refine ⟨parts.map escape, List.cons_ne_nil _ _, ?_, fun hash => ?_⟩
  · rw [← escape_flatten, ← escape_eq_quoted_flat]
    exact congrArg escape (flatten_cut template.toList)
  · rw [scope, String.toList_ofList]
    refine ⟨?_, fun before after h => getLast?_of_escape_eq h, ?_, ?_⟩
    · rw [Pieces.join_eq_intercalate, escape_intercalate, escape_eq_quoted_flat (' ' :: _)]
    · exact notMem_escape_of_lineBreak (.inl rfl) _
    · exact notMem_escape_of_lineBreak (.inr rfl) _

end ComponentFile.Template
