import ComponentFile.Json.Reader
import ComponentFile.Proofs.JsonMembers
import ComponentFile.Proofs.Search

/-!
# Reading JSON

What readers of JSON do is told here without their loops.

**Rows.**  The items of an array and the members of an object are rows of entries.  One step of
reading a row either finds the sign that closes it or reads one more entry
(`items_succ_eq_ok_iff`, `members_succ_eq_ok_iff`), and all that is shown of rows is shown by these.
Two readers of the members of an object are compared in `Follows.members_eq_ok_iff`: one collects
the members, and what the other does with each is said by a step on the collected one.  Then what it
does with all of them is the fold of the steps.

**Passing over.**  A value that nobody needs is passed over, which asks less of it: its numbers may
be too large and its surrogates alone.  But where a value can be read, it is passed over up to the
same place (`skipValue_eq_ok`).  `PassesOver` compares two readers on texts of at most so many
characters, because a value may be passed over that nests as deep as its text is long.  Strings
differ most: two escapes that are read as one character are passed over one by one
(`escape_passesOver`).
-/

namespace ComponentFile

namespace Reader

theorem length_skipBlanks_le (text : List Char) : (skipBlanks text).length ≤ text.length :=
  List.length_dropWhile_le _ _

/-! ## Rows -/

/-- Where the next entry of a row begins: at the next sign before the first entry, unless that one
closes the row, and behind a comma before any other entry. -/
def NextEntry (close : Char) (text : List Char) : (first : Bool) → (here : List Char) → Prop
  | true, here => skipBlanks text = here ∧ here ≠ [] ∧ ∀ rest, here ≠ close :: rest
  | false, here => skipBlanks text = ',' :: here

theorem NextEntry.length_le {close : Char} {text here : List Char} {first : Bool}
    (h : NextEntry close text first here) : here.length ≤ text.length := by
  have hle := length_skipBlanks_le text
  cases first with
  | true =>
    rw [h.1] at hle
    exact hle
  | false =>
    have hcomma : skipBlanks text = ',' :: here := h
    rw [hcomma, List.length_cons] at hle
    omega

section

variable {α σ : Type} {mode : Mode} {limit : Nat} {first : Bool} {text rest : List Char}

theorem items_of_close {item : Reader α} (h : skipBlanks text = ']' :: rest) :
    items item first (limit + 1) text = .ok ([], rest) := by
  unfold items
  rw [h]
  cases first <;> rfl

theorem items_of_nextEntry {item : Reader α} {here : List Char}
    (h : NextEntry ']' text first here) :
    items item first (limit + 1) text = (item here >>= fun (head, rest) =>
      items item false limit rest >>= fun (tail, rest) => .ok (head :: tail, rest)) := by
  conv_lhs => unfold items
  cases first with
  | true =>
    obtain ⟨rfl, hempty, hclose⟩ := h
    split
    case h_1 htext => exact absurd htext hempty
    case h_2 htext => exact absurd htext (hclose _)
    case h_3 => rfl
    all_goals contradiction
  | false =>
    have htext : skipBlanks text = ',' :: here := h
    rw [htext]
    rfl

/-- One step of reading the items of an array. -/
theorem items_succ_eq_ok_iff {item : Reader α} {values : List α} :
    items item first (limit + 1) text = .ok (values, rest) ↔
      skipBlanks text = ']' :: rest ∧ values = [] ∨
        ∃ here, NextEntry ']' text first here ∧ ∃ head afterHead tail,
          item here = .ok (head, afterHead) ∧
          items item false limit afterHead = .ok (tail, rest) ∧ values = head :: tail := by
  constructor
  · intro h
    unfold items at h
    split at h
    case h_2 htext =>
      cases h
      exact .inl ⟨htext, rfl⟩
    case h_3 hempty hclose =>
      obtain ⟨⟨head, afterHead⟩, hhead, h⟩ := Except.bind_eq_ok_iff.1 h
      obtain ⟨⟨tail, afterTail⟩, htail, h⟩ := Except.bind_eq_ok_iff.1 h
      cases h
      exact .inr ⟨_, ⟨rfl, hempty, hclose⟩, head, afterHead, tail, hhead, htail, rfl⟩
    case h_4 here htext =>
      obtain ⟨⟨head, afterHead⟩, hhead, h⟩ := Except.bind_eq_ok_iff.1 h
      obtain ⟨⟨tail, afterTail⟩, htail, h⟩ := Except.bind_eq_ok_iff.1 h
      cases h
      exact .inr ⟨here, htext, head, afterHead, tail, hhead, htail, rfl⟩
    all_goals cases h
  · rintro (⟨htext, rfl⟩ | ⟨here, hentry, head, afterHead, tail, hhead, htail, rfl⟩)
    · exact items_of_close htext
    · simp only [items_of_nextEntry hentry, hhead, htail, bind, Except.bind]

theorem members_of_close {member : σ → String → Reader σ} {state : σ}
    (h : skipBlanks text = '\x7d' :: rest) :
    members mode member first (limit + 1) state text = .ok (state, rest) := by
  unfold members
  rw [h]
  cases first <;> rfl

theorem members_of_nextEntry {member : σ → String → Reader σ} {state : σ} {here : List Char}
    (h : NextEntry '\x7d' text first here) :
    members mode member first (limit + 1) state text =
      (string mode (skipBlanks here) >>= fun (name, rest) =>
        member state name rest >>= fun (next, rest) =>
        members mode member false limit next rest) := by
  conv_lhs => unfold members
  cases first with
  | true =>
    obtain ⟨rfl, hempty, hclose⟩ := h
    split
    case h_1 htext => exact absurd htext hempty
    case h_2 htext => exact absurd htext (hclose _)
    case h_3 => rfl
    all_goals contradiction
  | false =>
    have htext : skipBlanks text = ',' :: here := h
    rw [htext]
    rfl

/-- One step of reading the members of an object. -/
theorem members_succ_eq_ok_iff {member : σ → String → Reader σ} {state last : σ} :
    members mode member first (limit + 1) state text = .ok (last, rest) ↔
      skipBlanks text = '\x7d' :: rest ∧ last = state ∨
        ∃ here, NextEntry '\x7d' text first here ∧ ∃ name afterName next afterMember,
          string mode (skipBlanks here) = .ok (name, afterName) ∧
          member state name afterName = .ok (next, afterMember) ∧
          members mode member false limit next afterMember = .ok (last, rest) := by
  constructor
  · intro h
    unfold members at h
    split at h
    case h_2 htext =>
      cases h
      exact .inl ⟨htext, rfl⟩
    case h_3 hempty hclose =>
      obtain ⟨⟨name, afterName⟩, hname, h⟩ := Except.bind_eq_ok_iff.1 h
      obtain ⟨⟨next, afterMember⟩, hmember, h⟩ := Except.bind_eq_ok_iff.1 h
      exact .inr ⟨_, ⟨rfl, hempty, hclose⟩, name, afterName, next, afterMember, hname, hmember, h⟩
    case h_4 here htext =>
      obtain ⟨⟨name, afterName⟩, hname, h⟩ := Except.bind_eq_ok_iff.1 h
      obtain ⟨⟨next, afterMember⟩, hmember, h⟩ := Except.bind_eq_ok_iff.1 h
      exact .inr ⟨here, htext, name, afterName, next, afterMember, hname, hmember, h⟩
    all_goals cases h
  · rintro (⟨htext, rfl⟩ |
      ⟨here, hentry, name, afterName, next, afterMember, hname, hmember, hrest⟩)
    · exact members_of_close htext
    · simp only [members_of_nextEntry hentry, hname, hmember, hrest, bind, Except.bind]

/-- What reading one member preserves, reading all members of an object preserves. -/
theorem invariant_members {member : σ → String → Reader σ} {P : σ → Prop}
    (step : ∀ {state name text next rest},
      P state → member state name text = .ok (next, rest) → P next)
    {state last : σ} (hstate : P state)
    (h : members mode member first limit state text = .ok (last, rest)) : P last := by
  induction limit generalizing first state text with
  | zero => cases h
  | succ limit ih =>
    rcases members_succ_eq_ok_iff.1 h with ⟨-, rfl⟩ | ⟨here, -, name, _, next, _, -, hmember, hrest⟩
    · exact hstate
    · exact ih (step hstate hmember) hrest

/-- A member that is collected is a colon and a value. -/
theorem collect_eq_ok_iff {value : Reader Json} {done found : List (String × Json)}
    {name : String} :
    collect value done name text = .ok (found, rest) ↔
      ∃ afterSign json, sign ':' text = .ok ((), afterSign) ∧
        value afterSign = .ok (json, rest) ∧ found = done ++ [(name, json)] := by
  simp only [collect, Except.bind_eq_ok_iff, Prod.exists, pure, Except.pure, Except.ok.injEq,
    Prod.mk.injEq]
  constructor
  · rintro ⟨⟨⟩, afterSign, hsign, json, rest, hvalue, rfl, rfl⟩
    exact ⟨afterSign, json, hsign, hvalue, rfl⟩
  · rintro ⟨afterSign, json, hsign, hvalue, rfl⟩
    exact ⟨(), afterSign, hsign, json, rest, hvalue, rfl, rfl⟩

/-- Where a member can be collected, the reader does with it what the step does with the collected
one. -/
def Follows (value : Reader Json) (member : σ → String → Reader σ)
    (step : σ → String × Json → Option σ) : Prop :=
  ∀ ⦃state name text afterSign json rest next after⦄, sign ':' text = .ok ((), afterSign) →
    value afterSign = .ok (json, rest) →
    (member state name text = .ok (next, after) ↔
      step state (name, json) = some next ∧ after = rest)

/-- A reader that follows a step does with all members what the steps do in turn. -/
theorem Follows.members_eq_ok_iff {value : Reader Json} {member : σ → String → Reader σ}
    {step : σ → String × Json → Option σ} (hstep : Follows value member step)
    {done found : List (String × Json)}
    (h : members .keep (collect value) first limit done text = .ok (found, rest)) :
    ∃ more, found = done ++ more ∧ ∀ {state last after},
      members .keep member first limit state text = .ok (last, after) ↔
        more.foldlM step state = some last ∧ after = rest := by
  induction limit generalizing first done text with
  | zero => cases h
  | succ limit ih =>
    rcases members_succ_eq_ok_iff.1 h with
      ⟨hclose, rfl⟩ | ⟨here, hentry, name, afterName, next, afterMember, hname, hmember, hrest⟩
    · refine ⟨[], (List.append_nil _).symm, fun {state last after} => ?_⟩
      rw [members_of_close hclose, List.foldlM_nil]
      simp [eq_comm]
    · obtain ⟨afterSign, json, hsign, hvalue, rfl⟩ := collect_eq_ok_iff.1 hmember
      obtain ⟨more, rfl, hmore⟩ := ih hrest
      refine ⟨(name, json) :: more, List.append_assoc _ _ _, fun {state last after} => ?_⟩
      simp only [members_of_nextEntry hentry, hname, Except.bind_eq_ok_iff, Prod.exists,
        Except.ok.injEq, Prod.mk.injEq, List.foldlM_cons, Option.bind_eq_bind,
        Option.bind_eq_some_iff]
      constructor
      · rintro ⟨_, _, ⟨rfl, rfl⟩, next, _, hnext, hlast⟩
        obtain ⟨hnext, rfl⟩ := (hstep hsign hvalue).1 hnext
        obtain ⟨hlast, rfl⟩ := hmore.1 hlast
        exact ⟨⟨next, hnext, hlast⟩, rfl⟩
      · rintro ⟨⟨next, hnext, hlast⟩, rfl⟩
        exact ⟨_, _, ⟨rfl, rfl⟩, next, _, (hstep hsign hvalue).2 ⟨hnext, rfl⟩,
          hmore.2 ⟨hlast, rfl⟩⟩

end

/-! ## Passing over -/

/-- Whatever the first reader reads of a text of at most so many characters, the second one reads
too, up to the same place. -/
def PassesOver {α β : Type} (size : Nat) (reader : Reader α) (other : Reader β) : Prop :=
  ∀ ⦃text value rest⦄, text.length ≤ size → reader text = .ok (value, rest) →
    rest.length ≤ text.length ∧ ∃ value', other text = .ok (value', rest)

section

variable {α β : Type} {text rest : List Char}

theorem eq_of_word {value found : α} {w : List Char} (h : word value w text = .ok (found, rest)) :
    found = value ∧ text = w ++ rest := by
  induction w generalizing text with
  | nil =>
    cases h
    exact ⟨rfl, rfl⟩
  | cons l ls ih =>
    cases text with
    | nil => cases h
    | cons c cs =>
      rw [word] at h
      split at h
      · next heq =>
        obtain ⟨hfound, htext⟩ := ih h
        rw [heq, htext]
        exact ⟨hfound, rfl⟩
      · cases h

theorem length_of_sign {c : Char} (h : sign c text = .ok ((), rest)) :
    rest.length < text.length := by
  have hle := length_skipBlanks_le text
  rw [(eq_of_word h).2, List.length_append, List.length_singleton] at hle
  omega

theorem length_of_hexUnit {unit : Nat} (h : hexUnit text = .ok (unit, rest)) :
    rest.length < text.length := by
  unfold hexUnit at h
  split_ifs at h with hbytes hlength
  split at h
  · cases h
    rw [List.length_drop]
    omega
  · cases h

theorem escape_skip_of_hexUnit {unit : Nat} (h : hexUnit text = .ok (unit, rest)) :
    escape .skip ('u' :: text) = .ok (Char.ofNat 0xFFFD, rest) := by
  simp only [escape, unicodeEscape, h, bind, Except.bind, pure, Except.pure]

/-- A code unit by itself, or the two halves of a surrogate pair. -/
theorem exists_of_unicodeEscape {c : Char} (h : unicodeEscape .keep text = .ok (c, rest)) :
    ∃ first afterFirst, hexUnit text = .ok (first, afterFirst) ∧
      (afterFirst = rest ∨ ∃ middle second, afterFirst = '\\' :: 'u' :: middle ∧
        hexUnit middle = .ok (second, rest)) := by
  simp only [unicodeEscape, Except.bind_eq_ok_iff, Prod.exists] at h
  obtain ⟨first, afterFirst, hfirst, h⟩ := h
  refine ⟨first, afterFirst, hfirst, ?_⟩
  split_ifs at h with htrail hlead
  · simp only [Except.bind_eq_ok_iff, Prod.exists] at h
    obtain ⟨⟨⟩, middle, hsign, second, afterSecond, hsecond, h⟩ := h
    split_ifs at h with hsecondTrail
    obtain ⟨-, rfl⟩ := Prod.mk.inj (Except.ok.inj h)
    exact .inr ⟨middle, second, (eq_of_word hsign).2, hsecond⟩
  · cases h
    exact .inl rfl

/-- An escape is passed over, or the two of a surrogate pair are, one after the other. -/
theorem escape_passesOver {c : Char} (h : escape .keep text = .ok (c, rest)) :
    rest.length < text.length ∧
      ((∃ c', escape .skip text = .ok (c', rest)) ∨
        ∃ c' middle c'', escape .skip text = .ok (c', '\\' :: middle) ∧
          middle.length < text.length ∧ escape .skip middle = .ok (c'', rest)) := by
  unfold escape at h
  split at h
  case h_1 => cases h
  case h_2 text =>
    obtain ⟨first, afterFirst, hfirst, rfl | ⟨middle, second, rfl, hsecond⟩⟩ :=
      exists_of_unicodeEscape h
    · have hshort := length_of_hexUnit hfirst
      exact ⟨Nat.lt_succ_of_lt hshort, .inl ⟨_, escape_skip_of_hexUnit hfirst⟩⟩
    · have hshort := length_of_hexUnit hfirst
      have hshort' := length_of_hexUnit hsecond
      simp only [List.length_cons] at hshort ⊢
      refine ⟨by omega, .inr ⟨_, 'u' :: middle, _, escape_skip_of_hexUnit hfirst, ?_,
        escape_skip_of_hexUnit hsecond⟩⟩
      rw [List.length_cons]
      omega
  case h_11 => cases h
  -- the other escapes are one character each
  all_goals
    cases h
    exact ⟨Nat.lt_succ_self _, .inl ⟨_, rfl⟩⟩

theorem stringTail_escape_eq_ok_iff {mode : Mode} {limit : Nat} {cs : List Char} :
    stringTail mode (limit + 1) ('\\' :: text) = .ok (cs, rest) ↔
      ∃ c afterEscape tail, escape mode text = .ok (c, afterEscape) ∧
        stringTail mode limit afterEscape = .ok (tail, rest) ∧ cs = c :: tail := by
  simp only [stringTail, Except.bind_eq_ok_iff, Prod.exists, pure, Except.pure, Except.ok.injEq,
    Prod.mk.injEq]
  constructor
  · rintro ⟨c, afterEscape, hescape, tail, rest, htail, rfl, rfl⟩
    exact ⟨c, afterEscape, tail, hescape, htail, rfl⟩
  · rintro ⟨c, afterEscape, tail, hescape, htail, rfl⟩
    exact ⟨c, afterEscape, hescape, tail, rest, htail, rfl, rfl⟩

theorem stringTail_plain_eq_ok_iff {mode : Mode} {limit : Nat} {c : Char} {cs : List Char}
    (hquote : c ≠ '"') (hescape : c ≠ '\\') :
    stringTail mode (limit + 1) (c :: text) = .ok (cs, rest) ↔
      ¬ c.toNat < 0x20 ∧
        ∃ tail, stringTail mode limit text = .ok (tail, rest) ∧ cs = c :: tail := by
  simp only [stringTail]
  split_ifs with hcontrol
  · simp [hcontrol]
  · simp only [Except.bind_eq_ok_iff, Prod.exists, pure, Except.pure, Except.ok.injEq,
      Prod.mk.injEq, hcontrol, not_false_eq_true, true_and]
    constructor
    · rintro ⟨tail, rest, htail, rfl, rfl⟩
      exact ⟨tail, htail, rfl⟩
    · rintro ⟨tail, htail, rfl⟩
      exact ⟨tail, rest, htail, rfl, rfl⟩

theorem stringTail_passesOver {limit limit' : Nat} {cs : List Char}
    (h : stringTail .keep limit text = .ok (cs, rest)) (hlimit : text.length < limit') :
    rest.length ≤ text.length ∧ ∃ cs', stringTail .skip limit' text = .ok (cs', rest) := by
  induction limit generalizing text cs limit' with
  | zero => cases h
  | succ limit ih =>
    obtain ⟨limit', rfl⟩ : ∃ n, limit' = n + 1 := Nat.exists_eq_succ_of_ne_zero (by omega)
    cases text with
    | nil => cases h
    | cons c text =>
      rw [List.length_cons] at hlimit ⊢
      by_cases hquote : c = '"'
      · subst hquote
        cases h
        exact ⟨Nat.le_succ _, [], rfl⟩
      by_cases hescape : c = '\\'
      · subst hescape
        obtain ⟨c, afterEscape, tail, hescape, htail, rfl⟩ := stringTail_escape_eq_ok_iff.1 h
        obtain ⟨hshort, ⟨c', hc'⟩ | ⟨c', middle, c'', hc', hmiddle, hc''⟩⟩ :=
          escape_passesOver hescape
        · have hlimit' : afterEscape.length < limit' := by omega
          obtain ⟨hle, cs', hcs'⟩ := ih htail hlimit'
          exact ⟨by omega, _, stringTail_escape_eq_ok_iff.2 ⟨_, _, _, hc', hcs', rfl⟩⟩
        · -- the second escape of a pair takes one more step
          obtain ⟨limit', rfl⟩ : ∃ n, limit' = n + 1 := Nat.exists_eq_succ_of_ne_zero (by omega)
          have hlimit' : afterEscape.length < limit' := by omega
          obtain ⟨hle, cs', hcs'⟩ := ih htail hlimit'
          have hsecond := stringTail_escape_eq_ok_iff.2 ⟨_, _, _, hc'', hcs', rfl⟩
          exact ⟨by omega, _, stringTail_escape_eq_ok_iff.2 ⟨_, _, _, hc', hsecond, rfl⟩⟩
      · obtain ⟨hplain, tail, htail, rfl⟩ := (stringTail_plain_eq_ok_iff hquote hescape).1 h
        obtain ⟨hle, cs', hcs'⟩ := ih htail (Nat.lt_of_succ_lt_succ hlimit)
        exact ⟨by omega, _,
          (stringTail_plain_eq_ok_iff hquote hescape).2 ⟨hplain, cs', hcs', rfl⟩⟩

theorem string_passesOver (size : Nat) : PassesOver size (string .keep) (string .skip) := by
  intro text value rest _ h
  unfold string at h
  split at h
  · cases h
  · next text =>
    simp only [Except.bind_eq_ok_iff, Prod.exists, pure, Except.pure] at h
    obtain ⟨cs, afterTail, htail, h⟩ := h
    cases h
    obtain ⟨hle, cs', hcs'⟩ := stringTail_passesOver htail (Nat.lt_succ_self _)
    refine ⟨Nat.le_succ_of_le hle, String.ofList cs', ?_⟩
    simp only [string, hcs', bind, Except.bind, pure, Except.pure]
  · cases h

/-! Numbers are read in the same way, up to what they are worth. -/

theorem digits_skip {ds : List Char} (h : digits .keep text = .ok (ds, rest)) :
    digits .skip text = .ok (ds, rest) ∧ rest.length ≤ text.length := by
  unfold digits at h ⊢
  split at h
  · cases h
  · next d tail htake =>
    cases h
    exact ⟨rfl, List.length_dropWhile_le _ _⟩

theorem exponent_skip {power : Int} (h : exponent .keep text = .ok (power, rest)) :
    exponent .skip text = .ok (power, rest) ∧ rest.length ≤ text.length := by
  unfold exponent at h ⊢
  split at h
  all_goals
    simp only [Except.bind_eq_ok_iff, Prod.exists, pure, Except.pure] at h
    obtain ⟨ds, afterDigits, hdigits, h⟩ := h
    cases h
    obtain ⟨hskip, hle⟩ := digits_skip hdigits
    simp only [hskip, bind, Except.bind, pure, Except.pure, true_and]
    first | exact Nat.le_succ_of_le hle | exact hle

theorem exponent?_skip {power : Option Int} (h : exponent? .keep text = .ok (power, rest)) :
    exponent? .skip text = .ok (power, rest) ∧ rest.length ≤ text.length := by
  unfold exponent? at h ⊢
  split at h
  case h_3 =>
    cases h
    exact ⟨rfl, le_rfl⟩
  all_goals
    obtain ⟨⟨found, afterExponent⟩, hexponent, h⟩ := Except.map_eq_ok_iff.1 h
    cases h
    obtain ⟨hskip, hle⟩ := exponent_skip hexponent
    exact ⟨Except.map_eq_ok_iff.2 ⟨_, hskip, rfl⟩, Nat.le_succ_of_le hle⟩

theorem fraction_skip {ds : List Char} (h : fraction .keep text = .ok (ds, rest)) :
    fraction .skip text = .ok (ds, rest) ∧ rest.length ≤ text.length := by
  unfold fraction at h ⊢
  split at h
  · obtain ⟨hskip, hle⟩ := digits_skip h
    exact ⟨hskip, Nat.le_succ_of_le hle⟩
  · cases h
    exact ⟨rfl, le_rfl⟩

theorem number_passesOver (size : Nat) (negative : Bool) :
    PassesOver size (number .keep negative) (number .skip negative) := by
  intro text value rest _ h
  simp only [number, Except.bind_eq_ok_iff, Prod.exists] at h
  obtain ⟨whole, afterWhole, hwhole, h⟩ := h
  split_ifs at h with hzero
  · cases h
  · simp only [Except.bind_eq_ok_iff, Prod.exists, pure, Except.pure] at h
    obtain ⟨ds, afterFraction, hfraction, power, afterPower, hpower, json, hjson, h⟩ := h
    cases h
    obtain ⟨hwhole, hle⟩ := digits_skip hwhole
    obtain ⟨hfraction, hle'⟩ := fraction_skip hfraction
    obtain ⟨hpower, hle''⟩ := exponent?_skip hpower
    refine ⟨by omega, .null, ?_⟩
    simp only [number, hwhole, hfraction, hpower, if_neg hzero, numberValue, bind, Except.bind,
      pure, Except.pure]

/-- What is neither an array nor an object. -/
theorem scalar_passesOver (size : Nat) : PassesOver size (scalar .keep) (scalar .skip) := by
  intro text value rest hsize h
  have hword {found : Json} {w text rest : List Char} {c : Char} {value : Json}
      (h : word value w text = .ok (found, rest)) : rest.length ≤ (c :: text).length := by
    rw [(eq_of_word h).2, List.length_cons, List.length_append]
    omega
  unfold scalar at h ⊢
  split at h
  case h_1 => cases h
  case h_2 | h_3 | h_4 => exact ⟨hword h, _, h⟩
  case h_5 =>
    obtain ⟨⟨found, afterString⟩, hstring, h⟩ := Except.map_eq_ok_iff.1 h
    cases h
    obtain ⟨hle, other, hother⟩ := string_passesOver size hsize hstring
    exact ⟨hle, _, Except.map_eq_ok_iff.2 ⟨_, hother, rfl⟩⟩
  case h_6 =>
    obtain ⟨hle, other, hother⟩ := number_passesOver _ true le_rfl h
    exact ⟨Nat.le_succ_of_le hle, other, hother⟩
  case h_7 =>
    split_ifs at h with hdigit
    obtain ⟨hle, other, hother⟩ := number_passesOver size false hsize h
    exact ⟨hle, other, by rw [if_pos hdigit, hother]⟩

/-- A row of items is passed over if each of them is. -/
theorem items_passesOver {size : Nat} {item : Reader α} {other : Reader β}
    (h : PassesOver size item other) (first : Bool) (limit : Nat) :
    PassesOver size (items item first limit) (items other first limit) := by
  intro text values rest hsize hitems
  induction limit generalizing first text values with
  | zero => cases hitems
  | succ limit ih =>
    have hblanks := length_skipBlanks_le text
    rcases items_succ_eq_ok_iff.1 hitems with
      ⟨hclose, -⟩ | ⟨here, hentry, head, afterHead, tail, hhead, htail, -⟩
    · rw [hclose, List.length_cons] at hblanks
      exact ⟨by omega, [], items_succ_eq_ok_iff.2 (.inl ⟨hclose, rfl⟩)⟩
    · have hhere := hentry.length_le
      obtain ⟨hle, head', hhead'⟩ := h (by omega) hhead
      obtain ⟨hle', tail', htail'⟩ := ih false (by omega) htail
      exact ⟨by omega, _, items_succ_eq_ok_iff.2
        (.inr ⟨here, hentry, head', afterHead, tail', hhead', htail', rfl⟩)⟩

/-- So are the members of an object. -/
theorem members_passesOver {size : Nat} {value other : Reader Json}
    (h : PassesOver size value other) (first : Bool) (limit : Nat)
    (done done' : List (String × Json)) :
    PassesOver size (members .keep (collect value) first limit done)
      (members .skip (collect other) first limit done') := by
  intro text found rest hsize hmembers
  induction limit generalizing first text done done' with
  | zero => cases hmembers
  | succ limit ih =>
    have hblanks := length_skipBlanks_le text
    rcases members_succ_eq_ok_iff.1 hmembers with
      ⟨hclose, -⟩ | ⟨here, hentry, name, afterName, next, afterMember, hname, hmember, hrest⟩
    · rw [hclose, List.length_cons] at hblanks
      exact ⟨by omega, done', members_succ_eq_ok_iff.2 (.inl ⟨hclose, rfl⟩)⟩
    · obtain ⟨afterSign, json, hsign, hvalue, rfl⟩ := collect_eq_ok_iff.1 hmember
      have hhere := hentry.length_le
      have hblanks' := length_skipBlanks_le here
      have hshort := length_of_sign hsign
      obtain ⟨hle, name', hname'⟩ := string_passesOver size (by omega) hname
      obtain ⟨hle', json', hjson'⟩ := h (by omega) hvalue
      obtain ⟨hle'', found', hfound'⟩ := ih false _ (done' ++ [(name', json')]) (by omega) hrest
      have hmember' : collect other done' name' afterName =
          .ok (done' ++ [(name', json')], afterMember) :=
        collect_eq_ok_iff.2 ⟨afterSign, json', hsign, hjson', rfl⟩
      exact ⟨by omega, found', members_succ_eq_ok_iff.2
        (.inr ⟨here, hentry, name', afterName, _, afterMember, hname', hmember', hfound'⟩)⟩

end

/-! ## Values -/

section

variable {mode : Mode} {limit : Nat} {text rest : List Char} {json : Json}

theorem isScalar_of_decimalValue {negative : Bool} {whole fraction : List Char} {power : Int}
    {json : Json} (h : decimalValue negative whole fraction power = .ok json) :
    json.IsScalar := by
  unfold decimalValue at h
  dsimp only at h
  split at h
  · cases h
    trivial
  · cases h

theorem isScalar_of_numberValue {mode : Mode} {negative : Bool} {whole fraction : List Char}
    {power : Option Int} {json : Json}
    (h : numberValue mode negative whole fraction power = .ok json) : json.IsScalar := by
  unfold numberValue at h
  dsimp only at h
  split at h
  · cases h
    trivial
  · split_ifs at h
    · cases h
      trivial
    · cases h
      trivial
    · exact isScalar_of_decimalValue h
  · exact isScalar_of_decimalValue h

theorem isScalar_of_number {mode : Mode} {negative : Bool} {json : Json}
    (h : number mode negative text = .ok (json, rest)) : json.IsScalar := by
  simp only [number, Except.bind_eq_ok_iff, Prod.exists] at h
  obtain ⟨whole, afterWhole, -, h⟩ := h
  split_ifs at h with hzero
  · cases h
  · simp only [Except.bind_eq_ok_iff, Prod.exists, pure, Except.pure] at h
    obtain ⟨ds, afterFraction, -, power, afterPower, -, value, hvalue, h⟩ := h
    cases h
    exact isScalar_of_numberValue hvalue

theorem isScalar_of_scalar {mode : Mode} {json : Json}
    (h : scalar mode text = .ok (json, rest)) : json.IsScalar := by
  unfold scalar at h
  split at h
  case h_1 => cases h
  case h_2 | h_3 | h_4 =>
    obtain rfl := (eq_of_word h).1
    trivial
  case h_5 =>
    obtain ⟨found, -, h⟩ := Except.map_eq_ok_iff.1 h
    cases h
    trivial
  case h_6 => exact isScalar_of_number h
  case h_7 =>
    split_ifs at h
    exact isScalar_of_number h

/-- A value is an array, an object or a scalar, and the sign in front of it tells which. -/
theorem value_eq_ok_iff :
    value mode limit text = .ok (json, rest) ↔
      (∃ depth behind items, limit = depth + 1 ∧ skipBlanks text = '[' :: behind ∧
        Reader.items (value mode depth) true (behind.length + 1) behind = .ok (items, rest) ∧
        json = .arr items) ∨
      (∃ depth behind members, limit = depth + 1 ∧ skipBlanks text = '\x7b' :: behind ∧
        Reader.members mode (collect (value mode depth)) true (behind.length + 1) [] behind =
          .ok (members, rest) ∧ json = .obj members) ∨
      ((∀ behind, skipBlanks text ≠ '[' :: behind) ∧
        (∀ behind, skipBlanks text ≠ '\x7b' :: behind) ∧
        scalar mode (skipBlanks text) = .ok (json, rest)) := by
  constructor
  · intro h
    unfold value at h
    split at h
    case h_1 | h_2 => cases h
    case h_3 behind depth htext =>
      obtain ⟨⟨items, afterItems⟩, hitems, h⟩ := Except.map_eq_ok_iff.1 h
      cases h
      exact .inl ⟨depth, behind, items, rfl, htext, hitems, rfl⟩
    case h_4 behind depth htext =>
      obtain ⟨⟨members, afterMembers⟩, hmembers, h⟩ := Except.map_eq_ok_iff.1 h
      cases h
      exact .inr (.inl ⟨depth, behind, members, rfl, htext, hmembers, rfl⟩)
    case h_5 level _ _ harr hobj harr' hobj' =>
      refine .inr (.inr ⟨fun behind htext => ?_, fun behind htext => ?_, h⟩)
      · cases level with
        | zero => exact harr _ htext rfl
        | succ depth => exact harr' _ _ htext rfl
      · cases level with
        | zero => exact hobj _ htext rfl
        | succ depth => exact hobj' _ _ htext rfl
  · rintro (⟨depth, behind, items, rfl, htext, hitems, rfl⟩ |
      ⟨depth, behind, members, rfl, htext, hmembers, rfl⟩ | ⟨harr, hobj, hscalar⟩)
    · unfold value
      rw [htext]
      exact Except.map_eq_ok_iff.2 ⟨_, hitems, rfl⟩
    · unfold value
      rw [htext]
      exact Except.map_eq_ok_iff.2 ⟨_, hmembers, rfl⟩
    · unfold value
      split
      case h_1 htext => exact absurd htext (harr _)
      case h_2 htext => exact absurd htext (hobj _)
      case h_3 htext => exact absurd htext (harr _)
      case h_4 htext => exact absurd htext (hobj _)
      case h_5 => exact hscalar

/-- A value is passed over that may nest as deep as its text is long. -/
theorem value_passesOver (depth : Nat) {size levels : Nat} (hsize : size ≤ levels) :
    PassesOver size (value .keep depth) (value .skip levels) := by
  induction depth using Nat.strong_induction_on generalizing size levels with
  | _ depth ih =>
    intro text json rest htext h
    have hblanks := length_skipBlanks_le text
    rcases value_eq_ok_iff.1 h with ⟨inner, behind, items, rfl, hhere, hitems, -⟩ |
      ⟨inner, behind, members, rfl, hhere, hmembers, -⟩ | ⟨harr, hobj, hscalar⟩
    · rw [hhere, List.length_cons] at hblanks
      obtain ⟨levels, rfl⟩ : ∃ n, levels = n + 1 := Nat.exists_eq_succ_of_ne_zero (by omega)
      have hinner : PassesOver behind.length (value .keep inner) (value .skip levels) :=
        ih inner (Nat.lt_succ_self _) (by omega)
      obtain ⟨hle, items', hitems'⟩ := items_passesOver hinner true _ le_rfl hitems
      exact ⟨by omega, _,
        value_eq_ok_iff.2 (.inl ⟨levels, behind, items', rfl, hhere, hitems', rfl⟩)⟩
    · rw [hhere, List.length_cons] at hblanks
      obtain ⟨levels, rfl⟩ : ∃ n, levels = n + 1 := Nat.exists_eq_succ_of_ne_zero (by omega)
      have hinner : PassesOver behind.length (value .keep inner) (value .skip levels) :=
        ih inner (Nat.lt_succ_self _) (by omega)
      obtain ⟨hle, members', hmembers'⟩ := members_passesOver hinner true _ [] [] le_rfl hmembers
      exact ⟨by omega, _,
        value_eq_ok_iff.2 (.inr (.inl ⟨levels, behind, members', rfl, hhere, hmembers', rfl⟩))⟩
    · obtain ⟨hle, other, hother⟩ := scalar_passesOver _ le_rfl hscalar
      exact ⟨by omega, other, value_eq_ok_iff.2 (.inr (.inr ⟨harr, hobj, hother⟩))⟩

/-- **What can be read can be passed over.** -/
theorem skipValue_eq_ok (h : value .keep limit text = .ok (json, rest)) :
    skipValue text = .ok ((), rest) := by
  obtain ⟨-, other, hother⟩ := value_passesOver limit le_rfl le_rfl h
  exact Except.map_eq_ok_iff.2 ⟨_, hother, rfl⟩

end

end Reader

end ComponentFile
