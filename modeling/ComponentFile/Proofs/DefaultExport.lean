import ComponentFile.Module
import ComponentFile.Proofs.Search
import Mathlib

/-!
# Default exports of a script

The first default export of a script becomes a `return`.  Text is put next to text that the author
wrote, so it has to be shown that nothing new comes out of it: not one more default export, and none
of the others lost.

**What is meant.**  `IsDefaultExport` is the text of a default export, `ExportIn` one that stands
somewhere in a text, and `DefaultExports` are all of them from left to right.

**No overlaps.**  The reader of default exports is silent in all of a default export but its first
character (`IsDefaultExport.silent`): only an `e` begins one, and the only other `e` is followed by
`f`.  So a text has one list of default exports (`exists_defaultExports`, `DefaultExports.unique`).

**No new ones.**  Nor does one begin in front of the `return` and end in it or behind it, because an
`r` would have to be followed by `t` (`IsDefaultExport.exists_append_eq`); and in the `return` none
begins.  Hence the reader is silent up to the end of it (`silent_append_return`), and the default
exports of the new text are those behind it.

**`defaultExports_rewriteDefaultExport`** says this of one rewriting and of any number of them.
-/

namespace ComponentFile

/-! ## What is meant -/

/-- The text of a default export. -/
def IsDefaultExport (text : List Char) : Prop :=
  ∃ blanks, blanks ≠ [] ∧ (∀ c ∈ blanks, isBlank c = true) ∧
    text = "export".toList ++ blanks ++ "default".toList

/-- A place in what stands behind some text, as a place in the whole. -/
def Found.behind {α : Type} (front : List Char) (place : Found α) : Found α :=
  { place with before := front ++ place.before }

theorem Found.behind_behind {α : Type} (front middle : List Char) (place : Found α) :
    (place.behind middle).behind front = place.behind (front ++ middle) := by
  rw [behind, behind, behind, List.append_assoc]

/-- A place ends where a later one begins, or in front of it. -/
def Found.EndsBefore (place later : Found (List Char)) : Prop :=
  (place.before ++ place.value).length ≤ later.before.length

theorem Found.EndsBefore.behind {place later : Found (List Char)} (h : place.EndsBefore later)
    (front : List Char) : (place.behind front).EndsBefore (later.behind front) := by
  rw [EndsBefore, List.length_append] at h
  simp only [EndsBefore, Found.behind, List.length_append]
  omega

/-- A default export that stands in a text. -/
structure ExportIn (text : List Char) (place : Found (List Char)) : Prop where
  text_eq : text = place.before ++ (place.value ++ place.after)
  isDefaultExport : IsDefaultExport place.value

/-- All default exports of a text, from left to right and none over another. -/
structure DefaultExports (text : List Char) (places : List (Found (List Char))) : Prop where
  apart : places.Pairwise Found.EndsBefore
  mem_iff : ∀ place, place ∈ places ↔ ExportIn text place

/-! ## Reading -/

theorem readDefaultExport_eq_some_iff {text after : List Char} :
    readDefaultExport text = some ((), after) ↔
      ∃ value, IsDefaultExport value ∧ text = value ++ after := by
  constructor
  · intro h
    obtain ⟨behind, hbehind, hread⟩ := Option.bind_eq_some_iff.1 h
    split at hread
    · cases hread
    · next c blanks hblanks =>
      obtain ⟨rest, hrest, heq⟩ := Option.map_eq_some_iff.1 hread
      cases heq
      refine ⟨_, ⟨takeBlanks behind, ?_, fun c => isBlank_of_mem_takeBlanks, rfl⟩, ?_⟩
      · rw [hblanks]
        exact List.cons_ne_nil _ _
      · rw [afterLiteral?_eq_some_iff.1 hbehind, List.append_assoc, List.append_assoc,
          ← afterLiteral?_eq_some_iff.1 hrest, takeBlanks_append_dropBlanks]
  · rintro ⟨-, ⟨blanks, hne, hblanks, rfl⟩, rfl⟩
    have hstops : StopsBefore isBlank ("default".toList ++ after) := stopsBefore_cons.2 (by decide)
    have hbehind : afterLiteral? "export".toList
        ("export".toList ++ blanks ++ "default".toList ++ after) =
          some (blanks ++ ("default".toList ++ after)) :=
      afterLiteral?_eq_some_iff.2 (by simp only [List.append_assoc])
    obtain ⟨c, rest, rfl⟩ := List.exists_cons_of_ne_nil hne
    rw [readDefaultExport, hbehind]
    simp only [Option.bind_eq_bind, Option.bind_some, takeBlanks_append hblanks hstops,
      dropBlanks_append hblanks hstops, afterLiteral?_eq_some_iff.2 rfl, Option.map_some]

/-- A default export begins with an `e`. -/
theorem readDefaultExport_cons_of_ne {c : Char} (h : c ≠ 'e') (rest : List Char) :
    readDefaultExport (c :: rest) = none := by
  have hnone : afterLiteral? "export".toList (c :: rest) = none := if_neg (Ne.symm h)
  rw [readDefaultExport, hnone]
  rfl

theorem silent_of_e_notMem {before here : List Char} (h : 'e' ∉ before) :
    Silent readDefaultExport before here :=
  silent_of_notMem (fun _ rest hc => readDefaultExport_cons_of_ne hc rest) h

theorem notMem_of_isBlank {blanks : List Char} (hblanks : ∀ c ∈ blanks, isBlank c = true) {c : Char}
    (hc : isBlank c = false) : c ∉ blanks := by
  intro hmem
  rw [hblanks c hmem] at hc
  cases hc

/-- Within a default export none begins but at its first character. -/
theorem IsDefaultExport.silent {value : List Char} (h : IsDefaultExport value) :
    ∃ rest, value = 'e' :: rest ∧ ∀ after, Silent readDefaultExport rest after := by
  obtain ⟨blanks, -, hblanks, rfl⟩ := h
  have hblank : 'e' ∉ blanks := notMem_of_isBlank hblanks (by decide)
  refine ⟨("xport".toList ++ blanks ++ ['d']) ++ 'e' :: "fault".toList, by simp, fun after => ?_⟩
  rw [silent_append, silent_cons]
  refine ⟨silent_of_e_notMem ?_, rfl, silent_of_e_notMem (by decide)⟩
  simp [hblank]

/-! ## No new ones -/

/-- A default export does not reach into a text that begins with `re`. -/
theorem IsDefaultExport.exists_append_eq {value before rest after : List Char}
    (h : IsDefaultExport value) (heq : before ++ 'r' :: 'e' :: rest = value ++ after) :
    ∃ more, before = value ++ more := by
  rcases List.append_eq_append_iff.1 heq with ⟨inside, rfl, hinside⟩ | ⟨more, hmore, -⟩
  · cases inside with
    | nil => exact ⟨[], by simp⟩
    | cons c inside =>
      obtain ⟨rfl, hinside⟩ := List.cons.inj hinside
      obtain ⟨blanks, -, hblanks, hvalue⟩ := h
      have hblank : 'r' ∉ "t".toList ++ blanks ++ "default".toList := by
        simpa using notMem_of_isBlank hblanks (by decide)
      -- the only `r` of a default export is followed by `t`
      have hparts : before ++ 'r' :: inside =
          "expo".toList ++ 'r' :: ("t".toList ++ blanks ++ "default".toList) := by
        simpa using hvalue
      have hexpo : 'r' ∉ "expo".toList := by decide
      obtain ⟨-, -, rfl⟩ := (List.append_cons_inj_of_notMem hexpo hblank).1 hparts.symm
      cases hinside
  · exact ⟨more, hmore⟩

/-- If the reader is silent in front of some text, then also in front of a `return` in place of that
text, and in the `return`. -/
theorem silent_append_return {before value after : List Char}
    (h : Silent readDefaultExport before (value ++ after)) :
    Silent readDefaultExport (before ++ "return".toList) after := by
  refine silent_append.2 ⟨fun tail hne htail => ?_, ?_⟩
  · rw [Option.eq_none_iff_forall_ne_some]
    rintro ⟨⟨⟩, rest⟩ hread
    obtain ⟨other, hother, heq⟩ := readDefaultExport_eq_some_iff.1 hread
    obtain ⟨more, rfl⟩ := hother.exists_append_eq heq
    have hnone := h _ hne htail
    rw [readDefaultExport_eq_some_iff.2 ⟨other, hother, List.append_assoc _ _ _⟩] at hnone
    cases hnone
  · have hreturn : "return".toList = 'r' :: 'e' :: "turn".toList := by simp
    rw [hreturn, silent_cons, silent_cons]
    exact ⟨rfl, rfl, silent_of_e_notMem (by decide)⟩

/-! ## All default exports of a text -/

section

variable {text front here : List Char} {place : Found (List Char)}

theorem ExportIn.read_eq (h : ExportIn text place) :
    readDefaultExport (place.value ++ place.after) = some ((), place.after) :=
  readDefaultExport_eq_some_iff.2 ⟨place.value, h.isDefaultExport, rfl⟩

/-- Behind text in which the reader is silent there are the same default exports. -/
theorem exportIn_append_iff (h : Silent readDefaultExport front here) :
    ExportIn (front ++ here) place ↔ ∃ inner, ExportIn here inner ∧ place = inner.behind front := by
  constructor
  · intro hplace
    rcases List.append_eq_append_iff.1 hplace.text_eq with
      ⟨before, hbefore, hhere⟩ | ⟨tail, hfront, htail⟩
    · refine ⟨{ place with before }, ⟨hhere, hplace.isDefaultExport⟩, ?_⟩
      rw [Found.behind, ← hbefore]
    · cases tail with
      | nil =>
        refine ⟨{ place with before := [] }, ⟨htail.symm, hplace.isDefaultExport⟩, ?_⟩
        rw [Found.behind, List.append_nil, hfront, List.append_nil]
      | cons c tail =>
        -- here the reader would not be silent
        have hnone := h (c :: tail) (List.cons_ne_nil _ _) ⟨place.before, hfront.symm⟩
        rw [← htail, hplace.read_eq] at hnone
        cases hnone
  · rintro ⟨inner, hinner, rfl⟩
    refine ⟨?_, hinner.isDefaultExport⟩
    rw [hinner.text_eq, Found.behind, List.append_assoc]

/-- A text that begins with a default export has that one and those behind it. -/
theorem exportIn_value_append_iff {value after : List Char} (hvalue : IsDefaultExport value) :
    ExportIn (value ++ after) place ↔
      place = ⟨[], value, after⟩ ∨ ∃ inner, ExportIn after inner ∧ place = inner.behind value := by
  constructor
  · intro hplace
    obtain ⟨before, other, behind⟩ := place
    have htext : value ++ after = before ++ (other ++ behind) := hplace.text_eq
    have hother : readDefaultExport (other ++ behind) = some ((), behind) := hplace.read_eq
    obtain ⟨rest, rfl, hsilent⟩ := hvalue.silent
    cases before with
    | nil =>
      -- both are what is read at the start of the text
      rw [List.nil_append] at htext
      rw [← htext, readDefaultExport_eq_some_iff.2 ⟨_, hvalue, rfl⟩] at hother
      cases hother
      obtain rfl := List.append_cancel_right htext
      exact .inl rfl
    | cons c before =>
      obtain ⟨rfl, hrest⟩ := List.cons.inj htext
      have hplace' : ExportIn (rest ++ after) ⟨before, other, behind⟩ :=
        ⟨hrest, hplace.isDefaultExport⟩
      obtain ⟨inner, hinner, heq⟩ := (exportIn_append_iff (hsilent after)).1 hplace'
      cases heq
      exact .inr ⟨inner, hinner, rfl⟩
  · rintro (rfl | ⟨inner, hinner, rfl⟩)
    · exact ⟨rfl, hvalue⟩
    · refine ⟨?_, hinner.isDefaultExport⟩
      rw [hinner.text_eq, Found.behind, List.append_assoc]

namespace DefaultExports

variable {places others : List (Found (List Char))}

theorem nil (h : ∀ place, ¬ ExportIn text place) : DefaultExports text [] :=
  ⟨List.Pairwise.nil, fun place => by simp [h place]⟩

theorem behind (h : DefaultExports here places) (hfront : Silent readDefaultExport front here) :
    DefaultExports (front ++ here) (places.map (.behind front)) where
  apart := List.pairwise_map.2 (h.apart.imp fun hlater => hlater.behind front)
  mem_iff place := by
    rw [exportIn_append_iff hfront, List.mem_map]
    simp only [h.mem_iff, eq_comm]

/-- The default exports of a text that has one behind some text in which the reader is silent. -/
theorem cons {value after : List Char} (h : DefaultExports after places)
    (hvalue : IsDefaultExport value) (hfront : Silent readDefaultExport front (value ++ after)) :
    DefaultExports (front ++ (value ++ after))
      (⟨front, value, after⟩ :: places.map (.behind (front ++ value))) where
  apart := by
    refine List.pairwise_cons.2 ⟨fun later hlater => ?_,
      List.pairwise_map.2 (h.apart.imp fun hlater => hlater.behind (front ++ value))⟩
    obtain ⟨inner, -, rfl⟩ := List.mem_map.1 hlater
    simp [Found.EndsBefore, Found.behind]
  mem_iff place := by
    simp only [List.mem_cons, List.mem_map, h.mem_iff, exportIn_append_iff hfront,
      exportIn_value_append_iff hvalue]
    constructor
    · rintro (rfl | ⟨inner, hinner, rfl⟩)
      · exact ⟨⟨[], value, after⟩, .inl rfl, by rw [Found.behind, List.append_nil]⟩
      · exact ⟨inner.behind value, .inr ⟨inner, hinner, rfl⟩, (inner.behind_behind _ _).symm⟩
    · rintro ⟨-, rfl | ⟨inner, hinner, rfl⟩, rfl⟩
      · exact .inl (by rw [Found.behind, List.append_nil])
      · exact .inr ⟨inner, hinner, (inner.behind_behind _ _).symm⟩

/-- A text has one list of default exports. -/
theorem unique (h : DefaultExports text places) (h' : DefaultExports text others) :
    places = others := by
  have hsorted {places : List (Found (List Char))} (h : DefaultExports text places) :
      places.Pairwise (InvImage (· < ·) fun place => place.before.length) := by
    refine h.apart.imp_of_mem fun {place later} hplace _ hlater => ?_
    obtain ⟨rest, hvalue, -⟩ := ((h.mem_iff place).1 hplace).isDefaultExport.silent
    rw [Found.EndsBefore, hvalue, List.length_append, List.length_cons] at hlater
    show place.before.length < later.before.length
    omega
  refine (hsorted h).eq_of_mem_iff (hsorted h') fun place => ?_
  rw [h.mem_iff, h'.mem_iff]

end DefaultExports

/-- A text has no default export, or a first one. -/
theorem exists_first (text : List Char) :
    (findFirst? readDefaultExport text = none ∧ ∀ place, ¬ ExportIn text place) ∨
      ∃ before value after, findFirst? readDefaultExport text = some ⟨before, (), after⟩ ∧
        text = before ++ (value ++ after) ∧ IsDefaultExport value ∧
        Silent readDefaultExport before (value ++ after) := by
  cases hfirst : findFirst? readDefaultExport text with
  | none =>
    refine .inl ⟨rfl, fun place hplace => ?_⟩
    have hnone := findFirst?_eq_none_iff.1 hfirst _ ⟨place.before, hplace.text_eq.symm⟩
    rw [hplace.read_eq] at hnone
    cases hnone
  | some found =>
    obtain ⟨before, ⟨⟩, after⟩ := found
    obtain ⟨here, rfl, hread, hsilent⟩ := findFirst?_eq_some_iff.1 hfirst
    obtain ⟨value, hvalue, rfl⟩ := readDefaultExport_eq_some_iff.1 hread
    exact .inr ⟨before, value, after, rfl, rfl, hvalue, hsilent⟩

theorem exists_defaultExports (text : List Char) : ∃ places, DefaultExports text places := by
  induction hsize : text.length using Nat.strong_induction_on generalizing text with
  | _ size ih =>
    rcases exists_first text with ⟨-, hnone⟩ | ⟨before, value, after, -, rfl, hvalue, hsilent⟩
    · exact ⟨[], .nil hnone⟩
    · have hshorter : after.length < size := by
        obtain ⟨rest, rfl, -⟩ := hvalue.silent
        rw [← hsize]
        simp only [List.length_append, List.length_cons]
        omega
      obtain ⟨places, hplaces⟩ := ih _ hshorter after rfl
      exact ⟨_, hplaces.cons hvalue hsilent⟩

end

/-! ## Rewriting -/

/-- What a rewriting does to the default exports of a script: there are none, or the first one is
taken away and those behind it are left. -/
theorem rewriteDefaultExport_cases (script : String) :
    (DefaultExports script.toList [] ∧ rewriteDefaultExport script = script) ∨
      ∃ first later,
        DefaultExports script.toList (first :: later.map (.behind (first.before ++ first.value))) ∧
        DefaultExports first.after later ∧
        rewriteDefaultExport script =
          String.ofList (first.before ++ "return".toList ++ first.after) ∧
        DefaultExports (rewriteDefaultExport script).toList
          (later.map (.behind (first.before ++ "return".toList))) := by
  rcases exists_first script.toList with
    ⟨hfirst, hnone⟩ | ⟨before, value, after, hfirst, htext, hvalue, hsilent⟩
  · exact .inl ⟨.nil hnone, by rw [rewriteDefaultExport, hfirst]⟩
  · have hrewrite : rewriteDefaultExport script =
        String.ofList (before ++ "return".toList ++ after) := by
      rw [rewriteDefaultExport, hfirst]
    obtain ⟨later, hlater⟩ := exists_defaultExports after
    refine .inr ⟨⟨before, value, after⟩, later, ?_, hlater, hrewrite, ?_⟩
    · rw [htext]
      exact hlater.cons hvalue hsilent
    · rw [hrewrite, String.toList_ofList]
      exact hlater.behind (silent_append_return hsilent)

/-- Each rewriting leaves one default export less. -/
theorem exists_defaultExports_iterate (n : Nat) (script : String)
    {places : List (Found (List Char))} (h : DefaultExports script.toList places) :
    ∃ left, DefaultExports (rewriteDefaultExport^[n] script).toList left ∧
      left.length = places.length - n := by
  induction n generalizing script places with
  | zero => exact ⟨places, h, rfl⟩
  | succ n ih =>
    rw [Function.iterate_succ_apply]
    rcases rewriteDefaultExport_cases script with ⟨hnone, hsame⟩ | ⟨first, later, hall, -, -, hleft⟩
    · obtain rfl := h.unique hnone
      obtain ⟨left, hleft, hcount⟩ := ih _ (hsame.symm ▸ hnone)
      exact ⟨left, hleft, by simpa using hcount⟩
    · obtain rfl := h.unique hall
      obtain ⟨left, hleft, hcount⟩ := ih _ hleft
      refine ⟨left, hleft, ?_⟩
      rw [hcount, List.length_map, List.length_cons, List.length_map]
      omega

/-- **Rewriting takes one default export away and makes none.**  The default exports of a script are
one list.  If there are none the script stays as it is.  Otherwise the first of them becomes a
`return`, and the default exports of the result are those of the text behind it.  So each rewriting
leaves one less; after as many as there were, none is left and nothing changes any more. -/
theorem defaultExports_rewriteDefaultExport (script : String) :
    ∃ places, (∀ others, DefaultExports script.toList others ↔ others = places) ∧
      (places = [] ∧ rewriteDefaultExport script = script ∨
        ∃ first later,
          script.toList = first.before ++ (first.value ++ first.after) ∧
          places = first :: later.map (.behind (first.before ++ first.value)) ∧
          DefaultExports first.after later ∧
          rewriteDefaultExport script =
            String.ofList (first.before ++ "return".toList ++ first.after) ∧
          DefaultExports (rewriteDefaultExport script).toList
            (later.map (.behind (first.before ++ "return".toList)))) ∧
      (∀ n, ∃ left, DefaultExports (rewriteDefaultExport^[n] script).toList left ∧
        left.length = places.length - n) ∧
      DefaultExports (rewriteDefaultExport^[places.length] script).toList [] ∧
      rewriteDefaultExport (rewriteDefaultExport^[places.length] script) =
        rewriteDefaultExport^[places.length] script := by
  obtain ⟨places, hplaces⟩ := exists_defaultExports script.toList
  have hunique (others : List (Found (List Char))) :
      DefaultExports script.toList others ↔ others = places :=
    ⟨fun h => h.unique hplaces, fun h => h ▸ hplaces⟩
  have hlast : DefaultExports (rewriteDefaultExport^[places.length] script).toList [] := by
    obtain ⟨left, hleft, hcount⟩ := exists_defaultExports_iterate places.length script hplaces
    rw [Nat.sub_self, List.length_eq_zero_iff] at hcount
    exact hcount ▸ hleft
  refine ⟨places, hunique, ?_, fun n => exists_defaultExports_iterate n script hplaces, hlast, ?_⟩
  · rcases rewriteDefaultExport_cases script with ⟨hnone, hsame⟩ | ⟨first, later, hall, hrest⟩
    · exact .inl ⟨hplaces.unique hnone, hsame⟩
    · have hfirst : ExportIn script.toList first := (hall.mem_iff first).1 List.mem_cons_self
      exact .inr ⟨first, later, hfirst.text_eq, hplaces.unique hall, hrest⟩
  · rcases rewriteDefaultExport_cases (rewriteDefaultExport^[places.length] script) with
      ⟨-, hsame⟩ | ⟨first, later, hall, -⟩
    · exact hsame
    · cases hlast.unique hall

/-- The second of two default exports is left, and the text in between is not touched. -/
example : rewriteDefaultExport "export default a; export\n default b" =
    "return a; export\n default b" := rfl

end ComponentFile
