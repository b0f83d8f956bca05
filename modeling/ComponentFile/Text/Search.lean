/-!
# Reading and searching text

A *recogniser* looks at a text from its first character on and either fails or returns what it
read together with the rest.  Everything the scanner does is a recogniser applied here, or the
leftmost place where one succeeds.

* `byteLength` — the UTF-8 length of a text; every offset in the library is such a length.
* `afterLiteral?` — recognises one fixed text.
* `findFirst?` — the leftmost success of a recogniser, with the text before it.
* `splitAtFirst?` — the two sides of the first occurrence of a fixed text.

The main facts are `afterLiteral?_eq_some_iff` and the length lemmas of `findFirst?`, by which
loops over the remaining text terminate.
-/

namespace ComponentFile

/-- The number of bytes of a text in UTF-8. -/
def byteLength (text : List Char) : Nat := text.foldr (fun c size => c.utf8Size + size) 0

@[simp] theorem byteLength_nil : byteLength [] = 0 := rfl

@[simp] theorem byteLength_cons (c : Char) (text : List Char) :
    byteLength (c :: text) = c.utf8Size + byteLength text := rfl

@[simp] theorem byteLength_append (a b : List Char) :
    byteLength (a ++ b) = byteLength a + byteLength b := by
  induction a with
  | nil => simp
  | cons c a ih => rw [List.cons_append, byteLength_cons, byteLength_cons, ih, Nat.add_assoc]

/-! ## Fixed texts -/

/-- The rest of `text` after the fixed text `literal`, if `text` begins with it. -/
def afterLiteral? : (literal text : List Char) → Option (List Char)
  | [], text => some text
  | _ :: _, [] => none
  | l :: ls, c :: cs => if l = c then afterLiteral? ls cs else none

theorem afterLiteral?_eq_some_iff {literal text rest : List Char} :
    afterLiteral? literal text = some rest ↔ text = literal ++ rest := by
  induction literal generalizing text with
  | nil => simp [afterLiteral?, eq_comm]
  | cons l ls ih =>
    cases text with
    | nil => simp [afterLiteral?]
    | cons c cs =>
      by_cases h : l = c
      · subst h; simp [afterLiteral?, ih]
      · simp [afterLiteral?, h, Ne.symm h]

/-! ## Leftmost search -/

/-- What a search found: the text before the place, what was read there, and the text after. -/
structure Found (α : Type) where
  before : List Char
  value : α
  after : List Char

/-- The leftmost place of `text` at which `read` succeeds.  The end of the text is a place too. -/
def findFirst? {α : Type} (read : List Char → Option (α × List Char)) :
    List Char → Option (Found α)
  | [] => (read []).map fun (value, after) => ⟨[], value, after⟩
  | c :: cs =>
    match read (c :: cs) with
    | some (value, after) => some ⟨[], value, after⟩
    | none => (findFirst? read cs).map fun found => { found with before := c :: found.before }

/-- A search ends in a place where its recogniser succeeds. -/
theorem read_of_findFirst? {α : Type} {read : List Char → Option (α × List Char)}
    {text : List Char} {found : Found α} (h : findFirst? read text = some found) :
    ∃ here, text = found.before ++ here ∧ read here = some (found.value, found.after) := by
  induction text generalizing found with
  | nil =>
    obtain ⟨⟨v, r⟩, hr, rfl⟩ := Option.map_eq_some_iff.1 h
    exact ⟨[], rfl, hr⟩
  | cons c cs ih =>
    rw [findFirst?] at h
    split at h
    · next v r hr => cases h; exact ⟨c :: cs, rfl, hr⟩
    · obtain ⟨f, hf, rfl⟩ := Option.map_eq_some_iff.1 h
      obtain ⟨here, rfl, hh⟩ := ih hf
      exact ⟨here, rfl, hh⟩

/-- If a recogniser always consumes something, the text after the place found is shorter. -/
theorem length_after_lt {α : Type} {read : List Char → Option (α × List Char)}
    (shrinks : ∀ {s v r}, read s = some (v, r) → r.length < s.length)
    {text : List Char} {found : Found α} (h : findFirst? read text = some found) :
    found.after.length < text.length := by
  obtain ⟨here, rfl, hr⟩ := read_of_findFirst? h
  have := shrinks hr
  simp; omega

/-- The recogniser of one fixed text. -/
def literal (lit : List Char) (text : List Char) : Option (Unit × List Char) :=
  (afterLiteral? lit text).map fun rest => ((), rest)

theorem literal_eq_some_iff {lit text : List Char} {u : Unit} {rest : List Char} :
    literal lit text = some (u, rest) ↔ text = lit ++ rest := by
  simp [literal, afterLiteral?_eq_some_iff]

/-- The text before and the text after the first occurrence of a fixed text. -/
def splitAtFirst? (lit text : List Char) : Option (List Char × List Char) :=
  (findFirst? (literal lit) text).map fun found => (found.before, found.after)

theorem eq_of_splitAtFirst? {lit text before after : List Char}
    (h : splitAtFirst? lit text = some (before, after)) : text = before ++ lit ++ after := by
  obtain ⟨found, hf, he⟩ := Option.map_eq_some_iff.1 h
  obtain ⟨here, rfl, hr⟩ := read_of_findFirst? hf
  cases he
  simp [literal_eq_some_iff.1 hr]

end ComponentFile
