import ComponentFile.Document.Region
import ComponentFile.Proofs.RegionEnd

/-!
# Scanning, one piece at a time

`scanFrom` passes over blanks and then looks at one piece of the document.  These are its steps as
equations, one for each kind of piece, so that the text of a document can be scanned without
unfolding the scanner.

* `scanFrom_eq` — the scanner as a step.
* `scanFrom_nil`, `scanFrom_blanks`, `scanFrom_comment`, `scanFrom_tag` — the step at each.
* `ofTag_selfClosing`, `ofTag_of_closeRegion`, `ofTag_of_fault` — the region that an opening tag
  begins.
-/

namespace ComponentFile

/-- The step of the scanner, without the proofs that it comes to an end. -/
theorem scanFrom_eq (start : Nat) (text : List Char) :
    scanFrom start text =
      let here := start + byteLength (takeBlanks text)
      match dropBlanks text with
      | [] => .ok []
      | c :: cs =>
        if (afterLiteral? commentOpen (c :: cs)).isSome then
          match splitAtFirst? commentClose (c :: cs) with
          | none => .error (.region none .unclosedComment here)
          | some (inside, rest) => scanFrom (here + byteLength (inside ++ commentClose)) rest
        else
          match OpenTag.read (c :: cs) with
          | none => .error (.region none .strayText here)
          | some (tag, body) =>
            let (region, rest) := Region.ofTag tag here body
            let next := here + (byteLength (c :: cs) - byteLength rest)
            (scanFrom next rest).map (region :: ·) := by
  rw [scanFrom]
  dsimp only
  split
  · next h => simp only [h]
  · next c cs h =>
    simp only [h]
    split
    · split
      · next hs => simp only [hs]
      · next hs => simp only [hs]
    · split
      · next hr => simp only [hr]
      · next hr => simp only [hr]

theorem scanFrom_nil (start : Nat) : scanFrom start [] = .ok [] := by
  rw [scanFrom]
  rfl

/-- Blanks are passed over. -/
theorem scanFrom_blanks {blanks : List Char} (h : ∀ c ∈ blanks, isBlank c = true) (start : Nat)
    (rest : List Char) :
    scanFrom start (blanks ++ rest) = scanFrom (start + byteLength blanks) rest := by
  have htake : byteLength (takeBlanks (blanks ++ rest)) =
      byteLength blanks + byteLength (takeBlanks rest) := by
    rw [takeBlanks, List.takeWhile_append_of_pos h, byteLength_append]
    rfl
  have hdrop : dropBlanks (blanks ++ rest) = dropBlanks rest :=
    List.dropWhile_append_of_pos h
  rw [scanFrom, scanFrom, hdrop, htake, ← Nat.add_assoc]

/-- At the start of a comment the search goes on behind its end. -/
theorem scanFrom_comment {text inside rest : List Char} {start : Nat}
    (hopen : (afterLiteral? commentOpen text).isSome = true)
    (h : splitAtFirst? commentClose text = some (inside, rest)) :
    scanFrom start text = scanFrom (start + byteLength (inside ++ commentClose)) rest := by
  obtain ⟨after, ha⟩ := Option.isSome_iff_exists.1 hopen
  have hstop : StopsBefore isBlank text := by
    rw [afterLiteral?_eq_some_iff.1 ha]
    exact stopsBefore_cons.2 (by decide)
  have hdrop : dropBlanks text = text := hstop.dropWhile_eq_self
  have htake : takeBlanks text = [] := hstop.takeWhile_eq_nil
  obtain ⟨c, cs, rfl⟩ : ∃ c cs, text = c :: cs := ⟨_, _, afterLiteral?_eq_some_iff.1 ha⟩
  rw [scanFrom_eq, hdrop, htake]
  simp only [byteLength_nil, Nat.add_zero, if_pos hopen, h]

/-- The shortest comment, whose end has its dashes in common with the start. -/
theorem scanFrom_shortestComment (start : Nat) (rest : List Char) :
    scanFrom start ("<!-->".toList ++ rest) = scanFrom (start + 5) rest := by
  have hsplit : splitAtFirst? commentClose ("<!-->".toList ++ rest) = some (['<', '!'], rest) := by
    rfl
  exact scanFrom_comment rfl hsplit

/-- At an opening tag a region begins, and the search goes on behind it. -/
theorem scanFrom_tag {tag : OpenTag} {start : Nat} {body rest : List Char} {region : Region}
    (hw : tag.Written) (hs : tag.SlashApart) (ho : Region.ofTag tag start body = (region, rest)) :
    scanFrom start (tag.chars ++ body) =
      (scanFrom (start + (byteLength (tag.chars ++ body) - byteLength rest)) rest).map
        (region :: ·) := by
  have hstop : StopsBefore isBlank (tag.chars ++ body) := by
    rw [OpenTag.chars_append_eq]
    exact stopsBefore_cons.2 (by decide)
  have hdrop : dropBlanks (tag.chars ++ body) = tag.chars ++ body := hstop.dropWhile_eq_self
  have htake : takeBlanks (tag.chars ++ body) = [] := hstop.takeWhile_eq_nil
  have hread := OpenTag.read_complete hw hs body
  have hopen : afterLiteral? commentOpen (tag.chars ++ body) = none := by
    rw [OpenTag.chars_append_eq]
    exact afterLiteral?_commentOpen_name hw.name _
  obtain ⟨c, cs, htext⟩ : ∃ c cs, tag.chars ++ body = c :: cs :=
    ⟨_, _, OpenTag.chars_append_eq tag body⟩
  rw [htext] at hdrop htake hread hopen ⊢
  rw [scanFrom_eq, hdrop, htake]
  simp only [byteLength_nil, Nat.add_zero, hopen, Option.isSome_none, Bool.false_eq_true, if_false,
    hread, ho]

/-! Regions found are put in front of those found later. -/

theorem map_nil_append (found : Except CompileError (List Region)) :
    found.map ([] ++ ·) = found := by
  cases found <;> rfl

theorem map_cons_map_append (region : Region) (others : List Region)
    (found : Except CompileError (List Region)) :
    (found.map (others ++ ·)).map (region :: ·) = found.map (region :: others ++ ·) := by
  cases found <;> rfl

/-! ## The region of a tag -/

theorem ofTag_selfClosing {tag : OpenTag} (h : tag.selfClosing = true) (start : Nat)
    (body : List Char) :
    Region.ofTag tag start body =
      ({ name := String.ofList (tag.name.map Char.toLower)
         attributes := Attributes.ofText tag.attributeText
         tagStart := start
         contentsStart := start + byteLength tag.chars
         contents := .ok "" }, body) := by
  simp [Region.ofTag, h]

theorem ofTag_of_closeRegion {tag : OpenTag} (h : tag.selfClosing = false) (start : Nat)
    {body contents rest : List Char}
    (hclose : closeRegion (tag.name.map Char.toLower) body = .ok (contents, rest)) :
    Region.ofTag tag start body =
      ({ name := String.ofList (tag.name.map Char.toLower)
         attributes := Attributes.ofText tag.attributeText
         tagStart := start
         contentsStart := start + byteLength tag.chars
         contents := .ok (String.ofList contents) }, rest) := by
  simp [Region.ofTag, h, hclose]

theorem ofTag_of_fault {tag : OpenTag} (h : tag.selfClosing = false) (start : Nat)
    {body : List Char} {fault : RegionFault}
    (hclose : closeRegion (tag.name.map Char.toLower) body = .error fault) :
    Region.ofTag tag start body =
      ({ name := String.ofList (tag.name.map Char.toLower)
         attributes := Attributes.ofText tag.attributeText
         tagStart := start
         contentsStart := start + byteLength tag.chars
         contents := .error (fault.error (String.ofList (tag.name.map Char.toLower))) }, []) := by
  simp [Region.ofTag, h, hclose]

end ComponentFile
