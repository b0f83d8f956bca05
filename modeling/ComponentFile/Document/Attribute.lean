import ComponentFile.Text.Blank
import ComponentFile.Text.Search

/-!
# Attributes of a tag

An attribute is a name, optionally followed by `=` and a value in double quotes, in single quotes
or bare.  The text of an attribute list is read by leftmost search: whatever does not begin an
attribute is passed over, so every text has a table of attributes.

* `AttrValue` — what an attribute says: a flag, or a value.
* `Attributes` — the table of a tag, one entry per name.
* `AttrText` — one attribute as it was written, with `AttrText.chars` giving its text back.
* `Attributes.ofText` — the table of an attribute list; names are compared without regard to
  ASCII case and a later attribute wins over an earlier one of the same name.
-/

namespace ComponentFile

/-! ## The table -/

/-- What an attribute says: `scoped` is a flag, `lang="ts"` has a value. -/
inductive AttrValue where
  | flag
  | text (value : String)
deriving DecidableEq, Repr

namespace AttrValue

/-- The value, if one was written. -/
def text? : AttrValue → Option String
  | flag => none
  | text value => some value

/-- An attribute is in force when it is a flag or has a non-empty value. -/
def isTruthy : AttrValue → Bool
  | flag => true
  | text value => value ≠ ""

end AttrValue

/-- The attributes of a tag, one entry per name. -/
structure Attributes where
  entries : List (String × AttrValue)
  nodup_names : (entries.map Prod.fst).Nodup

namespace Attributes

/-- The table without entries. -/
def empty : Attributes := ⟨[], List.nodup_nil⟩

instance : Inhabited Attributes := ⟨empty⟩

/-- Sets the value of a name, replacing an earlier one. -/
def insert (table : Attributes) (name : String) (value : AttrValue) : Attributes where
  entries := (name, value) :: table.entries.filter (fun entry => entry.1 ≠ name)
  nodup_names := by
    rw [List.map_cons, List.nodup_cons]
    refine ⟨by simp, ?_⟩
    exact (List.filter_sublist.map Prod.fst).nodup table.nodup_names

/-- The table that a list of settings builds up from left to right. -/
def ofList (settings : List (String × AttrValue)) : Attributes :=
  settings.foldl (fun table (name, value) => table.insert name value) empty

/-- The entry of a name. -/
def get? (table : Attributes) (name : String) : Option AttrValue :=
  table.entries.lookup name

/-- The value of a name; a flag has none. -/
def value? (table : Attributes) (name : String) : Option String :=
  (table.get? name).bind AttrValue.text?

/-- Whether a name is present and in force. -/
def isTruthy (table : Attributes) (name : String) : Bool :=
  (table.get? name).any AttrValue.isTruthy

/-- The number of distinct names. -/
def size (table : Attributes) : Nat := table.entries.length

/-- Looking up a name that was just set gives its value, and other names are untouched. -/
theorem get?_insert (table : Attributes) (name : String) (value : AttrValue) (other : String) :
    (table.insert name value).get? other =
      if other = name then some value else table.get? other := by
  by_cases h : other = name
  · simp [get?, insert, h]
  · have hb : (other == name) = false := by simpa using h
    simp only [get?, insert, List.lookup_cons, hb, h, if_false]
    generalize table.entries = entries
    induction entries with
    | nil => rfl
    | cons entry rest ih =>
      obtain ⟨n, v⟩ := entry
      by_cases hn : n = name
      · subst hn
        rw [List.filter_cons_of_neg (by simp), ih, List.lookup_cons, hb]
      · rw [List.filter_cons_of_pos (by simpa using hn), List.lookup_cons, List.lookup_cons, ih]

end Attributes

/-! ## The written form -/

/-- Characters that a bare value consists of. -/
def isBareChar (c : Char) : Bool := !isBlank c && c ≠ '"' && c ≠ '\'' && c ≠ '>'

/-- Characters that an attribute's name consists of. -/
def isNameChar (c : Char) : Bool := isBareChar c && c ≠ '/' && c ≠ '='

/-- How a value is delimited. -/
inductive Quote where
  | double
  | single
  | bare
deriving DecidableEq, Repr

/-- The text of a value in its delimiters. -/
def Quote.wrap : Quote → List Char → List Char
  | double, value => '"' :: value ++ ['"']
  | single, value => '\'' :: value ++ ['\'']
  | bare, value => value

/-- The part of an attribute from its `=` sign on, with the blanks around the sign. -/
structure Assignment where
  before : List Char
  after : List Char
  quote : Quote
  value : List Char
deriving DecidableEq, Repr

/-- The text of an assignment. -/
def Assignment.chars (a : Assignment) : List Char :=
  a.before ++ '=' :: (a.after ++ a.quote.wrap a.value)

/-- One attribute as it was written. -/
structure AttrText where
  name : List Char
  assignment : Option Assignment
deriving DecidableEq, Repr

namespace AttrText

/-- The text of an attribute. -/
def chars (a : AttrText) : List Char :=
  a.name ++ (a.assignment.map Assignment.chars).getD []

/-- The name under which the attribute is entered: ASCII letters in lower case. -/
def key (a : AttrText) : String := String.ofList (a.name.map Char.toLower)

/-- What the attribute says. -/
def meaning (a : AttrText) : AttrValue :=
  match a.assignment with
  | none => .flag
  | some assignment => .text (String.ofList assignment.value)

end AttrText

/-! ## Reading -/

/-- Reads a value: up to the matching quote, or a non-empty run of bare characters. -/
def readValue : List Char → Option ((Quote × List Char) × List Char)
  | '"' :: text => (splitAtFirst? ['"'] text).map fun (value, rest) => ((.double, value), rest)
  | '\'' :: text => (splitAtFirst? ['\''] text).map fun (value, rest) => ((.single, value), rest)
  | text =>
    match text.takeWhile isBareChar with
    | [] => none
    | c :: cs => some ((.bare, c :: cs), text.dropWhile isBareChar)

/-- Reads `=` and a value, with blanks around the sign. -/
def readAssignment (text : List Char) : Option (Assignment × List Char) :=
  match dropBlanks text with
  | '=' :: afterSign =>
    (readValue (dropBlanks afterSign)).map fun ((quote, value), rest) =>
      (⟨takeBlanks text, takeBlanks afterSign, quote, value⟩, rest)
  | _ => none

/-- Reads one attribute: the longest name, and an assignment if one follows. -/
def readAttribute (text : List Char) : Option (AttrText × List Char) :=
  match text.takeWhile isNameChar with
  | [] => none
  | c :: cs =>
    let afterName := text.dropWhile isNameChar
    match readAssignment afterName with
    | some (assignment, rest) => some (⟨c :: cs, some assignment⟩, rest)
    | none => some (⟨c :: cs, none⟩, afterName)

/-! Reading consumes exactly the text of what was read. -/

theorem eq_of_readValue {text rest : List Char} {quote : Quote} {value : List Char}
    (h : readValue text = some ((quote, value), rest)) : text = quote.wrap value ++ rest := by
  unfold readValue at h
  split at h
  · next cs =>
    obtain ⟨⟨v, r⟩, hs, he⟩ := Option.map_eq_some_iff.1 h
    cases he
    simp [Quote.wrap, eq_of_splitAtFirst? hs]
  · next cs =>
    obtain ⟨⟨v, r⟩, hs, he⟩ := Option.map_eq_some_iff.1 h
    cases he
    simp [Quote.wrap, eq_of_splitAtFirst? hs]
  · split at h
    · cases h
    · next c cs hc =>
      cases h
      rw [Quote.wrap, ← hc, List.takeWhile_append_dropWhile]

theorem eq_of_readAssignment {text rest : List Char} {a : Assignment}
    (h : readAssignment text = some (a, rest)) : text = a.chars ++ rest := by
  unfold readAssignment at h
  split at h
  · next afterSign hd =>
    obtain ⟨⟨⟨q, v⟩, r⟩, hv, he⟩ := Option.map_eq_some_iff.1 h
    cases he
    have hv := eq_of_readValue hv
    calc text = takeBlanks text ++ dropBlanks text := (takeBlanks_append_dropBlanks text).symm
      _ = takeBlanks text ++ '=' :: (takeBlanks afterSign ++ dropBlanks afterSign) := by
          rw [hd, takeBlanks_append_dropBlanks]
      _ = _ := by rw [hv]; simp [Assignment.chars]
  · cases h

theorem eq_of_readAttribute {text rest : List Char} {a : AttrText}
    (h : readAttribute text = some (a, rest)) : text = a.chars ++ rest ∧ a.name ≠ [] := by
  unfold readAttribute at h
  split at h
  · cases h
  · next c cs hc =>
    have ht : text = c :: cs ++ text.dropWhile isNameChar := by
      rw [← hc, List.takeWhile_append_dropWhile]
    dsimp only at h
    split at h
    · next assignment r hr =>
      cases h
      refine ⟨?_, by simp⟩
      rw [ht, eq_of_readAssignment hr]
      simp [AttrText.chars]
    · cases h
      exact ⟨by simpa [AttrText.chars] using ht, by simp⟩

theorem length_of_readAttribute {text rest : List Char} {a : AttrText}
    (h : readAttribute text = some (a, rest)) : rest.length < text.length := by
  obtain ⟨rfl, hn⟩ := eq_of_readAttribute h
  have := List.length_pos_iff.2 hn
  simp [AttrText.chars]; omega

/-! ## Attribute lists -/

/-- The attributes found in a text, left to right. -/
def attributesIn (text : List Char) : List AttrText :=
  match _h : findFirst? readAttribute text with
  | none => []
  | some found => found.value :: attributesIn found.after
termination_by text.length
decreasing_by exact length_after_lt length_of_readAttribute _h

/-- The table of an attribute list. -/
def Attributes.ofText (text : List Char) : Attributes :=
  Attributes.ofList ((attributesIn text).map fun a => (a.key, a.meaning))

end ComponentFile
