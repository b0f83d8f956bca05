import ComponentFile.Text.Blank
import ComponentFile.Text.Search

/-!
# What a leftmost search finds

`findFirst?` walks over a text and stops at the first place where its recogniser succeeds.  The
scanner never looks at that walk; it relies on three facts about it, which are proved here once.

* `Silent` — a recogniser succeeds nowhere in a beginning of a text.
* **`findFirst?_eq_some_iff`**, **`findFirst?_eq_none_iff`** — the place found is the leftmost, and
  a failed search means that there is none.
* `findFirst?_append` — text in which a recogniser is silent is passed over.
* **`splitAtFirst?_eq_some_iff`**, `splitAtFirst?_eq_none_iff` — the same for a fixed text: it is
  cut at its first occurrence, and `splitAtFirst?_append` that it is whatever follows.
* `At` — what stands at a byte offset of a text, if a character begins there.

Silence is always said together with the text that follows, because a recogniser that starts in the
part passed over may read on into it.
-/

namespace ComponentFile

/-! ## Results

What is read in several steps is read if each of them succeeds.
-/

theorem Except.bind_eq_ok_iff {ε α β : Type} {x : Except ε α} {f : α → Except ε β} {b : β} :
    (x >>= f) = .ok b ↔ ∃ a, x = .ok a ∧ f a = .ok b := by
  cases x with
  | error e => exact ⟨nofun, nofun⟩
  | ok a => simp [bind, Except.bind]

theorem Except.map_eq_ok_iff {ε α β : Type} {x : Except ε α} {f : α → β} {b : β} :
    x.map f = .ok b ↔ ∃ a, x = .ok a ∧ f a = b := by
  cases x with
  | error e => exact ⟨nofun, nofun⟩
  | ok a => simp [Except.map]

/-! ## Runs of characters

A run is read by `takeWhile`.  What has to be known is only that it stops where the text after it
stops being of the kind.
-/

/-- A text does not begin with a character of a kind. -/
def StopsBefore (kind : Char → Bool) (text : List Char) : Prop := ∀ c ∈ text.head?, kind c = false

theorem StopsBefore.nil (kind : Char → Bool) : StopsBefore kind [] := by
  intro c hc
  cases hc

theorem stopsBefore_cons {kind : Char → Bool} {c : Char} {text : List Char} :
    StopsBefore kind (c :: text) ↔ kind c = false := by
  simp [StopsBefore]

theorem StopsBefore.append {kind : Char → Bool} {text rest : List Char}
    (h : StopsBefore kind text) (hrest : StopsBefore kind rest) :
    StopsBefore kind (text ++ rest) := by
  cases text with
  | nil => exact hrest
  | cons c cs => exact stopsBefore_cons.2 (stopsBefore_cons.1 h)

theorem StopsBefore.takeWhile_eq_nil {kind : Char → Bool} {text : List Char}
    (h : StopsBefore kind text) : text.takeWhile kind = [] := by
  cases text with
  | nil => rfl
  | cons c cs => simp [stopsBefore_cons.1 h]

theorem StopsBefore.dropWhile_eq_self {kind : Char → Bool} {text : List Char}
    (h : StopsBefore kind text) : text.dropWhile kind = text := by
  cases text with
  | nil => rfl
  | cons c cs => simp [stopsBefore_cons.1 h]

theorem stopsBefore_dropWhile (kind : Char → Bool) (text : List Char) :
    StopsBefore kind (text.dropWhile kind) := by
  intro c hc
  have h := List.head?_dropWhile_not kind text
  rw [hc] at h
  simpa using h

theorem takeWhile_append_of_stopsBefore {kind : Char → Bool} {run rest : List Char}
    (hrun : ∀ c ∈ run, kind c = true) (hrest : StopsBefore kind rest) :
    (run ++ rest).takeWhile kind = run := by
  rw [List.takeWhile_append_of_pos hrun, hrest.takeWhile_eq_nil, List.append_nil]

theorem dropWhile_append_of_stopsBefore {kind : Char → Bool} {run rest : List Char}
    (hrun : ∀ c ∈ run, kind c = true) (hrest : StopsBefore kind rest) :
    (run ++ rest).dropWhile kind = rest := by
  rw [List.dropWhile_append_of_pos hrun, hrest.dropWhile_eq_self]

/-- The two sides of a text at the end of its leading blanks. -/
theorem takeBlanks_append {run rest : List Char} (hrun : ∀ c ∈ run, isBlank c = true)
    (hrest : StopsBefore isBlank rest) : takeBlanks (run ++ rest) = run :=
  takeWhile_append_of_stopsBefore hrun hrest

theorem dropBlanks_append {run rest : List Char} (hrun : ∀ c ∈ run, isBlank c = true)
    (hrest : StopsBefore isBlank rest) : dropBlanks (run ++ rest) = rest :=
  dropWhile_append_of_stopsBefore hrun hrest

theorem isBlank_of_mem_takeBlanks {text : List Char} {c : Char} (h : c ∈ takeBlanks text) :
    isBlank c = true :=
  List.all_eq_true.1 List.all_takeWhile c h

/-! ## Places -/

/-- Byte `offset` of a text is the start of a character, or the end of the text, and `here` is what
stands there. -/
def At (text : List Char) (offset : Nat) (here : List Char) : Prop :=
  ∃ before, text = before ++ here ∧ byteLength before = offset

theorem At.zero (text : List Char) : At text 0 text := ⟨[], rfl, rfl⟩

theorem At.append (before here : List Char) : At (before ++ here) (byteLength before) here :=
  ⟨before, rfl, rfl⟩

/-- A place in what stands at a place. -/
theorem At.trans {text here there : List Char} {offset further : Nat} (h : At text offset here)
    (h' : At here further there) : At text (offset + further) there := by
  obtain ⟨before, rfl, rfl⟩ := h
  obtain ⟨passed, rfl, rfl⟩ := h'
  exact ⟨before ++ passed, by simp, by simp⟩

theorem At.add_byteLength {text here : List Char} {offset : Nat} (h : At text offset here) :
    offset + byteLength here = byteLength text := by
  obtain ⟨before, rfl, rfl⟩ := h
  exact (byteLength_append before here).symm

/-! The core library has its own notions of the size of a string and of a position in it, and they
are the same. -/

theorem utf8ByteSize_ofList (text : List Char) :
    (String.ofList text).utf8ByteSize = byteLength text := by
  induction text with
  | nil => rfl
  | cons c cs ih =>
    rw [byteLength_cons, ← ih, ← List.singleton_append, String.ofList_append,
      String.utf8ByteSize_append]
    simp

theorem byteLength_toList (s : String) : byteLength s.toList = s.utf8ByteSize := by
  rw [← utf8ByteSize_ofList, String.ofList_toList]

theorem At.isValid {s : String} {offset : Nat} {here : List Char} (h : At s.toList offset here) :
    (⟨offset⟩ : String.Pos.Raw).IsValid s := by
  obtain ⟨before, hs, rfl⟩ := h
  refine String.Pos.Raw.isValid_iff_exists_append.2
    ⟨String.ofList before, String.ofList here, ?_, ?_⟩
  · rw [← String.ofList_append, ← hs, String.ofList_toList]
  · rw [← utf8ByteSize_ofList]
    rfl

/-! ## The leftmost place -/

section

variable {α : Type} {read : List Char → Option (α × List Char)}

/-- A recogniser succeeds nowhere in `before`, when `here` follows it. -/
def Silent (read : List Char → Option (α × List Char)) (before here : List Char) : Prop :=
  ∀ tail, tail ≠ [] → tail <:+ before → read (tail ++ here) = none

theorem Silent.nil (here : List Char) : Silent read [] here := by
  intro tail hne htail
  exact absurd (List.suffix_nil.1 htail) hne

theorem silent_cons {c : Char} {before here : List Char} :
    Silent read (c :: before) here ↔
      read (c :: (before ++ here)) = none ∧ Silent read before here := by
  constructor
  · intro h
    refine ⟨h (c :: before) (by simp) (List.suffix_refl _), ?_⟩
    intro tail hne htail
    exact h tail hne (htail.trans (List.suffix_cons c before))
  · rintro ⟨hc, h⟩ tail hne htail
    rcases List.suffix_cons_iff.1 htail with rfl | htail
    · exact hc
    · exact h tail hne htail

theorem silent_append {before middle here : List Char} :
    Silent read (before ++ middle) here ↔
      Silent read before (middle ++ here) ∧ Silent read middle here := by
  induction before with
  | nil => simp [Silent.nil]
  | cons c before ih =>
    rw [List.cons_append, silent_cons, silent_cons, ih, List.append_assoc, and_assoc]

/-- A recogniser that only ever starts at one character is silent in a text without it. -/
theorem silent_of_notMem {start : Char} {before here : List Char}
    (only : ∀ c cs, c ≠ start → read (c :: cs) = none) (h : start ∉ before) :
    Silent read before here := by
  induction before with
  | nil => exact Silent.nil here
  | cons c cs ih =>
    simp only [List.mem_cons, not_or] at h
    exact silent_cons.2 ⟨only c _ (Ne.symm h.1), ih h.2⟩

theorem findFirst?_of_read {here after : List Char} {value : α}
    (h : read here = some (value, after)) : findFirst? read here = some ⟨[], value, after⟩ := by
  cases here with
  | nil => simp [findFirst?, h]
  | cons c cs => simp [findFirst?, h]

/-- Text in which the recogniser is silent is passed over. -/
theorem findFirst?_append {before here : List Char} (h : Silent read before here) :
    findFirst? read (before ++ here) =
      (findFirst? read here).map fun found => { found with before := before ++ found.before } := by
  induction before with
  | nil => simp
  | cons c before ih =>
    obtain ⟨hc, h⟩ := silent_cons.1 h
    rw [List.cons_append, findFirst?, hc]
    simp only [ih h, Option.map_map]
    rfl

/-- **A failed search means that there is no place.** -/
theorem findFirst?_eq_none_iff {text : List Char} :
    findFirst? read text = none ↔ ∀ here, here <:+ text → read here = none := by
  induction text with
  | nil => simp [findFirst?]
  | cons c cs ih =>
    rw [findFirst?]
    constructor
    · intro h here hh
      split at h
      · cases h
      · next hc =>
        rcases List.suffix_cons_iff.1 hh with rfl | hh
        · exact hc
        · exact ih.1 (Option.map_eq_none_iff.1 h) here hh
    · intro h
      rw [h (c :: cs) (List.suffix_refl _)]
      exact Option.map_eq_none_iff.2 (ih.2 fun here hh => h here (hh.trans (List.suffix_cons c cs)))

theorem silent_of_findFirst? {text : List Char} {found : Found α}
    (h : findFirst? read text = some found) {here : List Char}
    (ht : text = found.before ++ here) : Silent read found.before here := by
  induction text generalizing found with
  | nil =>
    have hb : found.before = [] := (List.append_eq_nil_iff.1 ht.symm).1
    rw [hb]
    exact Silent.nil here
  | cons c cs ih =>
    rw [findFirst?] at h
    split at h
    · cases h; exact Silent.nil here
    · next hc =>
      obtain ⟨inner, hi, rfl⟩ := Option.map_eq_some_iff.1 h
      obtain ⟨-, rfl⟩ := List.cons.inj ht
      exact silent_cons.2 ⟨hc, ih hi rfl⟩

/-- **The place found is the leftmost**: the recogniser succeeds there and nowhere before. -/
theorem findFirst?_eq_some_iff {text : List Char} {found : Found α} :
    findFirst? read text = some found ↔
      ∃ here, text = found.before ++ here ∧ read here = some (found.value, found.after) ∧
        Silent read found.before here := by
  constructor
  · intro h
    obtain ⟨here, ht, hr⟩ := read_of_findFirst? h
    exact ⟨here, ht, hr, silent_of_findFirst? h ht⟩
  · rintro ⟨here, rfl, hr, hs⟩
    rw [findFirst?_append hs, findFirst?_of_read hr]
    simp

end

/-! ## Fixed texts -/

theorem literal_eq_none_iff {lit text : List Char} : literal lit text = none ↔ ¬ lit <+: text := by
  rw [Option.eq_none_iff_forall_ne_some]
  constructor
  · rintro h ⟨rest, rfl⟩
    exact h ((), rest) (literal_eq_some_iff.2 rfl)
  · rintro h ⟨u, rest⟩ hl
    exact h ⟨rest, (literal_eq_some_iff.1 hl).symm⟩

theorem silent_literal_iff {lit before here : List Char} :
    Silent (literal lit) before (lit ++ here) ↔
      ∀ p q, before ++ lit ++ here = p ++ lit ++ q → before.length ≤ p.length := by
  constructor
  · intro h p q he
    refine Nat.le_of_not_lt fun hlt => ?_
    -- an earlier occurrence would begin in `before`, at some non-empty tail of it
    have hp : p <+: before ++ lit ++ here := ⟨lit ++ q, by rw [he]; simp⟩
    have hbefore : before <+: before ++ lit ++ here := ⟨lit ++ here, by simp⟩
    obtain ⟨tail, rfl⟩ := List.prefix_of_prefix_length_le hp hbefore (by omega)
    have hne : tail ≠ [] := by
      rintro rfl
      simp at hlt
    have hn := literal_eq_none_iff.1 (h tail hne ⟨p, rfl⟩)
    have he' : tail ++ (lit ++ here) = lit ++ q := by
      simpa only [List.append_assoc, List.append_cancel_left_eq] using he
    exact hn ⟨q, he'.symm⟩
  · rintro h tail hne ⟨p, rfl⟩
    rw [literal_eq_none_iff]
    rintro ⟨q, hq⟩
    have hle := h p q (by simp only [List.append_assoc, hq])
    have hpos := List.length_pos_iff.2 hne
    rw [List.length_append] at hle
    omega

/-- **A text is cut at the first occurrence** of a fixed text. -/
theorem splitAtFirst?_eq_some_iff {lit text before after : List Char} :
    splitAtFirst? lit text = some (before, after) ↔
      text = before ++ lit ++ after ∧
        ∀ p q, text = p ++ lit ++ q → before.length ≤ p.length := by
  constructor
  · intro h
    obtain ⟨⟨b, u, a⟩, hf, he⟩ := Option.map_eq_some_iff.1 h
    cases he
    obtain ⟨here, rfl, hr, hs⟩ := findFirst?_eq_some_iff.1 hf
    obtain rfl := literal_eq_some_iff.1 hr
    refine ⟨by simp, fun p q he => silent_literal_iff.1 hs p q (by simpa using he)⟩
  · rintro ⟨rfl, h⟩
    have hs : Silent (literal lit) before (lit ++ after) := silent_literal_iff.2 h
    have hr : literal lit (lit ++ after) = some ((), after) := literal_eq_some_iff.2 rfl
    rw [splitAtFirst?, List.append_assoc, findFirst?_append hs, findFirst?_of_read hr]
    simp

theorem splitAtFirst?_eq_none_iff {lit text : List Char} :
    splitAtFirst? lit text = none ↔ ¬ lit <:+: text := by
  rw [splitAtFirst?, Option.map_eq_none_iff, findFirst?_eq_none_iff]
  simp only [literal_eq_none_iff, List.infix_iff_prefix_suffix, not_exists, not_and]
  exact ⟨fun h here hp hs => h here hs hp, fun h here hs hp => h here hp hs⟩

/-- The first occurrence of a fixed text stays the first, whatever follows. -/
theorem splitAtFirst?_append {lit text before after : List Char}
    (h : splitAtFirst? lit text = some (before, after)) (more : List Char) :
    splitAtFirst? lit (text ++ more) = some (before, after ++ more) := by
  obtain ⟨rfl, hfirst⟩ := splitAtFirst?_eq_some_iff.1 h
  refine splitAtFirst?_eq_some_iff.2 ⟨by simp, ?_⟩
  intro p q hp
  refine Nat.le_of_not_lt fun hlt => ?_
  -- an earlier occurrence would lie within the text itself
  have hlonger : p ++ lit <+: before ++ lit ++ after ++ more := ⟨q, hp.symm⟩
  have hle : (p ++ lit).length ≤ (before ++ lit ++ after).length := by
    simp only [List.length_append]
    omega
  obtain ⟨r, hr⟩ := List.prefix_of_prefix_length_le hlonger (List.prefix_append _ more) hle
  have := hfirst p r hr.symm
  omega

/-- A text is cut at the first occurrence of a character by reading up to it. -/
theorem splitAtFirst?_singleton {c : Char} {before after : List Char} (h : c ∉ before) :
    splitAtFirst? [c] (before ++ c :: after) = some (before, after) := by
  have hs : Silent (literal [c]) before (c :: after) := by
    refine silent_of_notMem (fun d ds hd => ?_) h
    exact literal_eq_none_iff.2 fun hp => hd (List.cons_prefix_cons.1 hp).1.symm
  have hr : literal [c] (c :: after) = some ((), after) := literal_eq_some_iff.2 rfl
  rw [splitAtFirst?, findFirst?_append hs, findFirst?_of_read hr]
  simp

theorem notMem_of_splitAtFirst?_singleton {c : Char} {text before after : List Char}
    (h : splitAtFirst? [c] text = some (before, after)) : c ∉ before := by
  intro hc
  obtain ⟨rfl, hmin⟩ := splitAtFirst?_eq_some_iff.1 h
  obtain ⟨p, q, rfl⟩ := List.append_of_mem hc
  have hle := hmin p (q ++ [c] ++ after) (by simp)
  rw [List.length_append, List.length_cons] at hle
  omega

end ComponentFile
