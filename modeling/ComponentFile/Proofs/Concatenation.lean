import ComponentFile.Proofs.Markup
import ComponentFile.Proofs.Tiling
import Mathlib

/-!
# Documents behind each other

A document that is complete is cut in the same way whatever follows it, and what follows is scanned
as if it stood alone.  So documents can be put together, and the regions of the whole are those of
the parts with their offsets moved.

**Nothing looks past its own end.**  A search is settled once the text that it has seen holds what
the search waits for.  `splitAtFirst?_append` says so of comments, `closeRaw_append_right` of raw
text.  In markup an opening tag that is never closed could swallow what follows, and does not
because the closing tag of the region brings a `>`: `readBoundary_append_eq_none`, from which
`closeMarkup_append_right` follows by the recursion of the search.

**Nothing depends on where it begins.**  `scanFrom_shift` moves a scan to another offset.

**`scan_append`** puts the two together.
-/

namespace ComponentFile

/-! ## Boundaries -/

/-- A tag has no `>` but the one at its end, and what starts a comment has none. -/
theorem Boundary.Written.notMem_dropLast {b : Boundary} (h : b.Written) :
    '>' ∉ b.text.dropLast := by
  cases h with
  | comment => decide
  | @close tag hname hblanks =>
    have hn : '>' ∉ tag.name := fun hc => absurd (hname.isTagChar_of_mem hc) (by decide)
    have hb : '>' ∉ tag.blanks := fun hc => absurd (hblanks _ hc) (by decide)
    have hchars : tag.chars = ('<' :: '/' :: (tag.name ++ tag.blanks)) ++ ['>'] := by
      simp [ClosingTag.chars]
    show '>' ∉ tag.chars.dropLast
    rw [hchars, List.dropLast_concat]
    simp [hn, hb]
  | @opening tag hw hs =>
    have hn : '>' ∉ tag.name := fun hc => absurd (hw.name.isTagChar_of_mem hc) (by decide)
    have hchars : tag.chars = ('<' :: (tag.name ++ tag.inside)) ++ ['>'] := by
      simp [InnerTag.chars]
    show '>' ∉ tag.chars.dropLast
    rw [hchars, List.dropLast_concat]
    simp [hn, hw.notMem_inside]

/-- Every boundary but the start of a comment ends with `>`. -/
theorem Boundary.Written.mem_text {b : Boundary} (h : b.Written) (hkind : b.kind ≠ .comment) :
    '>' ∈ b.text := by
  cases h with
  | comment => exact absurd rfl hkind
  | close _ _ => simp [ClosingTag.chars]
  | opening _ _ => simp [InnerTag.chars]

/-- Where no boundary begins, none begins when more text follows either, if there was a `>` that
could have ended it. -/
theorem readBoundary_append_eq_none {text : List Char} (h : readBoundary text = none)
    (hsign : '>' ∈ text) (more : List Char) : readBoundary (text ++ more) = none := by
  rw [Option.eq_none_iff_forall_ne_some]
  rintro ⟨b, rest⟩ hread
  obtain ⟨hw, he⟩ := readBoundary_eq_some_iff.1 hread
  have hnone (r : List Char) (ht : text = b.text ++ r) : False := by
    rw [readBoundary_eq_some_iff.2 ⟨hw, ht⟩] at h
    cases h
  rcases List.append_eq_append_iff.1 he with ⟨tail, hb, -⟩ | ⟨r, ht, -⟩
  · -- the boundary would go on behind the text, and have a `>` before its end
    rcases List.eq_nil_or_concat tail with rfl | ⟨front, c, rfl⟩
    · exact hnone [] (by simpa using hb.symm)
    · refine hw.notMem_dropLast ?_
      rw [hb, List.concat_eq_append, ← List.append_assoc, List.dropLast_concat]
      exact List.mem_append_left front hsign
  · exact hnone r ht

/-! ## Ends of regions -/

section

variable {name text contents rest : List Char}

/-- A boundary that is found stays the first one when more text follows, if there is a `>` to end
every earlier one with. -/
theorem findFirst?_readBoundary_append {found : Found Boundary}
    (h : findFirst? readBoundary text = some found)
    (hsign : '>' ∈ found.value.text ++ found.after) (more : List Char) :
    findFirst? readBoundary (text ++ more) = some { found with after := found.after ++ more } := by
  obtain ⟨here, rfl, hread, hsilent⟩ := findFirst?_eq_some_iff.1 h
  obtain ⟨hw, rfl⟩ := readBoundary_eq_some_iff.1 hread
  refine findFirst?_eq_some_iff.2 ⟨found.value.text ++ found.after ++ more, by simp, ?_, ?_⟩
  · exact readBoundary_eq_some_iff.2 ⟨hw, List.append_assoc _ _ _⟩
  · intro tail hne htail
    rw [← List.append_assoc]
    have hmem := List.mem_append_right tail hsign
    exact readBoundary_append_eq_none (hsilent tail hne htail) hmem more

theorem prepend_eq_ok {passed : List Char} {found : Except RegionFault (List Char × List Char)}
    (h : prepend passed found = .ok (contents, rest)) :
    ∃ inner, found = .ok (inner, rest) ∧ contents = passed ++ inner := by
  match found, h with
  | .ok (inner, _), rfl => exact ⟨inner, rfl, rfl⟩

/-- Markup that is closed stays closed at the same place, whatever follows. -/
theorem closeMarkup_append_right {depth : Nat}
    (h : closeMarkup name depth text = .ok (contents, rest)) (more : List Char) :
    closeMarkup name depth (text ++ more) = .ok (contents, rest ++ more) := by
  -- a tag brings the `>` that the search needs, and a comment that is passed over ends with one
  have htag {text before after lexeme : List Char} {kind : BoundaryKind}
      (hf : findFirst? readBoundary text = some ⟨before, ⟨kind, lexeme⟩, after⟩)
      (hkind : kind ≠ .comment) :
      findFirst? readBoundary (text ++ more) = some ⟨before, ⟨kind, lexeme⟩, after ++ more⟩ := by
    obtain ⟨here, -, hread⟩ := read_of_findFirst? hf
    have hsign := (readBoundary_eq_some_iff.1 hread).1.mem_text hkind
    exact findFirst?_readBoundary_append hf (List.mem_append_left after hsign) more
  fun_induction closeMarkup name depth text generalizing contents with
  | case1 => cases h
  | case2 => cases h
  | case3 depth text before lexeme after hf inside rest' hs ih =>
    obtain ⟨inner, hinner, rfl⟩ := prepend_eq_ok h
    have hsign : '>' ∈ lexeme ++ after := by
      rw [eq_of_splitAtFirst? hs]
      simp [commentClose]
    rw [closeMarkup_eq, findFirst?_readBoundary_append hf hsign more]
    simp only [splitAtFirst?_append hs more, ih hinner]
    rfl
  | case4 text before other lexeme after hf hn =>
    cases h
    rw [closeMarkup_eq, htag hf (by simp)]
    simp [hn]
  | case5 text before other lexeme after hf hn depth ih =>
    obtain ⟨inner, hinner, rfl⟩ := prepend_eq_ok h
    rw [closeMarkup_eq, htag hf (by simp)]
    simp [hn, ih hinner, prepend]
  | case6 depth text before other lexeme after hf hn ih =>
    obtain ⟨inner, hinner, rfl⟩ := prepend_eq_ok h
    rw [closeMarkup_eq, htag hf (by simp)]
    simp [hn, ih hinner, prepend]
  | case7 depth text before other lexeme after hf ih =>
    obtain ⟨inner, hinner, rfl⟩ := prepend_eq_ok h
    rw [closeMarkup_eq, htag hf (by simp)]
    simp [ih hinner, prepend]

theorem closeRaw_append_right (hname : '<' ∉ name) (h : closeRaw name text = .ok (contents, rest))
    (more : List Char) : closeRaw name (text ++ more) = .ok (contents, rest ++ more) := by
  obtain ⟨tag, htag, rfl, hfirst⟩ := (closeRaw_eq_ok_iff hname).1 h
  exact (closeRaw_eq_ok_iff hname).2 ⟨tag, htag, by simp, hfirst⟩

/-- A region that is closed ends at the same place, whatever follows. -/
theorem closeRegion_append_right (h : closeRegion name text = .ok (contents, rest))
    (more : List Char) : closeRegion name (text ++ more) = .ok (contents, rest ++ more) := by
  unfold closeRegion at h ⊢
  split at h
  · next hraw =>
    rw [if_pos hraw]
    exact closeRaw_append_right (notMem_of_isRawText hraw) h more
  · next hraw =>
    rw [if_neg hraw]
    exact closeMarkup_append_right h more

end

/-! ## Offsets -/

/-- The same region in a document that begins `bytes` bytes earlier.  What is wrong with its
contents is in the coordinates of the contents, and stays. -/
def Region.shift (bytes : Nat) (region : Region) : Region :=
  { region with
    tagStart := bytes + region.tagStart
    contentsStart := bytes + region.contentsStart }

/-- The same outcome of a scan in a document that begins `bytes` bytes earlier. -/
def shiftScan (bytes : Nat) :
    Except CompileError (List Region) → Except CompileError (List Region)
  | .ok regions => .ok (regions.map (Region.shift bytes))
  | .error error => .error (error.shift bytes)

theorem shiftScan_map_cons (bytes : Nat) (region : Region)
    (found : Except CompileError (List Region)) :
    shiftScan bytes (found.map (region :: ·)) =
      (shiftScan bytes found).map (region.shift bytes :: ·) := by
  cases found <;> rfl

theorem ofTag_shift (tag : OpenTag) (bytes start : Nat) (body : List Char) :
    Region.ofTag tag (bytes + start) body =
      ((Region.ofTag tag start body).1.shift bytes, (Region.ofTag tag start body).2) := by
  unfold Region.ofTag
  dsimp only
  split
  · simp [Region.shift, Nat.add_assoc]
  · split
    · simp [Region.shift, Nat.add_assoc]
    · simp [Region.shift, Nat.add_assoc]

/-- Scanning looks at the text only: where it begins is added to every offset. -/
theorem scanFrom_shift (bytes start : Nat) (text : List Char) :
    scanFrom (bytes + start) text = shiftScan bytes (scanFrom start text) := by
  fun_induction scanFrom start text with
  | case1 start text ht =>
    rw [scanFrom_eq, ht]
    rfl
  | case2 start text here c cs ht hopen hc =>
    rw [scanFrom_eq, ht]
    simp only [if_pos hopen, hc, Nat.add_assoc]
    rfl
  | case3 start text here c cs ht hopen inside rest hc =>
    rename_i ih
    rw [scanFrom_eq, ht]
    simp only [if_pos hopen, hc, Nat.add_assoc]
    rw [← ih]
    simp only [here, Nat.add_assoc]
  | case4 start text here c cs ht hopen hr =>
    rw [scanFrom_eq, ht]
    simp only [if_neg hopen, hr, Nat.add_assoc]
    rfl
  | case5 start text here c cs ht hopen tag body hr region rest ho next =>
    rename_i ih
    have hshift := ofTag_shift tag bytes here body
    rw [ho] at hshift
    rw [scanFrom_eq, ht]
    simp only [if_neg hopen, hr, Nat.add_assoc]
    rw [show bytes + (start + byteLength (takeBlanks text)) = bytes + here from rfl, hshift,
      shiftScan_map_cons, ← ih]
    simp only [next, here, Nat.add_assoc]

/-! ## Documents behind each other -/

/-- A region whose contents can be read ends at the same place, whatever follows. -/
theorem ofTag_append {tag : OpenTag} {start : Nat} {body rest : List Char} {region : Region}
    (h : Region.ofTag tag start body = (region, rest))
    (hread : ∃ contents, region.contents = .ok contents) (more : List Char) :
    Region.ofTag tag start (body ++ more) = (region, rest ++ more) := by
  unfold Region.ofTag at h
  dsimp only at h
  split at h
  · next hself =>
    obtain ⟨rfl, rfl⟩ := Prod.mk.inj h
    exact ofTag_selfClosing hself start (body ++ more)
  · next hself =>
    have hself : tag.selfClosing = false := by simpa using hself
    split at h
    · next contents rest hclose =>
      obtain ⟨rfl, rfl⟩ := Prod.mk.inj h
      exact ofTag_of_closeRegion hself start (closeRegion_append_right hclose more)
    · next fault hclose =>
      obtain ⟨rfl, rfl⟩ := Prod.mk.inj h
      obtain ⟨contents, hc⟩ := hread
      cases hc

/-- **A document that is complete stays as it is cut** when more text follows, and the scan goes on
behind it. -/
theorem scanFrom_append {start : Nat} {text : List Char} {regions : List Region}
    (h : scanFrom start text = .ok regions)
    (hread : ∀ region ∈ regions, ∃ contents, region.contents = .ok contents) (more : List Char) :
    scanFrom start (text ++ more) =
      (scanFrom (start + byteLength text) more).map (regions ++ ·) := by
  have hblanks (text : List Char) : ∀ c ∈ takeBlanks text, isBlank c = true :=
    fun c => isBlank_of_mem_takeBlanks
  fun_induction scanFrom start text generalizing regions with
  | case1 start text ht =>
    cases h
    have htext : takeBlanks text = text := by
      have := takeBlanks_append_dropBlanks text
      rwa [ht, List.append_nil] at this
    rw [scanFrom_blanks (htext ▸ hblanks text)]
    exact (map_nil_append _).symm
  | case2 => cases h
  | case3 start text here c cs ht hopen inside rest hc =>
    rename_i ih
    have htext : text = takeBlanks text ++ (c :: cs) := by
      rw [← ht, takeBlanks_append_dropBlanks]
    have hopenMore : (afterLiteral? commentOpen (c :: cs ++ more)).isSome = true := by
      obtain ⟨after, ha⟩ := Option.isSome_iff_exists.1 hopen
      rw [afterLiteral?_eq_some_iff.1 ha, List.append_assoc, afterLiteral?_eq_some_iff.2 rfl]
      rfl
    have hlength : byteLength text =
        byteLength (takeBlanks text) + byteLength (inside ++ commentClose) + byteLength rest := by
      conv_lhs => rw [htext, eq_of_splitAtFirst? hc]
      simp only [byteLength_append, Nat.add_assoc]
    have hmore : text ++ more = takeBlanks text ++ (c :: cs ++ more) := by
      conv_lhs => rw [htext, List.append_assoc]
    rw [hmore, scanFrom_blanks (hblanks text),
      scanFrom_comment hopenMore (splitAtFirst?_append hc more), ih h hread, hlength]
    simp only [here, Nat.add_assoc]
  | case4 => cases h
  | case5 start text here c cs ht hopen tag body hr region rest ho next =>
    rename_i ih
    obtain ⟨others, hothers, rfl⟩ := Except.map_eq_ok_iff.1 h
    obtain ⟨hw, hs, heq⟩ := OpenTag.read_eq_some_iff.1 hr
    obtain ⟨span, hspan, -, -⟩ := span_ofTag hw hs ho
    have htext : text = takeBlanks text ++ (tag.chars ++ body) := by
      rw [← heq, ← ht, takeBlanks_append_dropBlanks]
    have hlength : byteLength text =
        byteLength (takeBlanks text) + byteLength span + byteLength rest := by
      conv_lhs => rw [htext, hspan]
      simp only [byteLength_append, Nat.add_assoc]
    have hmore : text ++ more = takeBlanks text ++ (tag.chars ++ (body ++ more)) := by
      conv_lhs => rw [htext, List.append_assoc, List.append_assoc]
    have hnext : next = here + byteLength span := by
      simp only [next, heq, hspan, byteLength_append]
      omega
    have hspanMore : byteLength (tag.chars ++ (body ++ more)) - byteLength (rest ++ more) =
        byteLength span := by
      rw [← List.append_assoc, hspan]
      simp only [byteLength_append]
      omega
    have hrest := ih hothers fun r hr => hread r (by simp [hr])
    rw [hmore, scanFrom_blanks (hblanks text),
      scanFrom_tag hw hs (ofTag_append ho (hread region (by simp)) more), hspanMore, ← hnext, hrest,
      hlength, hnext]
    simp only [here, Nat.add_assoc]
    exact map_cons_map_append region others _

/-- Whatever stops the scanner is a problem with a place in the document. -/
theorem exists_region_of_scanFrom {start : Nat} {text : List Char} {error : CompileError}
    (h : scanFrom start text = .error error) :
    ∃ tag problem offset, error = .region tag problem offset := by
  fun_induction scanFrom start text with
  | case1 => cases h
  | case2 => cases h; exact ⟨_, _, _, rfl⟩
  | case3 => rename_i ih; exact ih h
  | case4 => cases h; exact ⟨_, _, _, rfl⟩
  | case5 start text here c cs ht hopen tag body hr region rest ho next =>
    rename_i ih
    cases hrest : scanFrom next rest with
    | ok regions => rw [hrest] at h; cases h
    | error e => rw [hrest] at h; cases h; exact ih hrest

/-- **Scanning is compositional.**  Behind a document whose regions can all be read, another one is
scanned as if it stood alone: its regions follow with both their offsets moved by the length of the
first, or its error is reported at a place that is moved as far. -/
theorem scan_append {source : String} {regions : List Region} (h : scan source = .ok regions)
    (hread : ∀ region ∈ regions, ∃ contents, region.contents = .ok contents) (more : String) :
    match scan more with
    | .ok others =>
      scan (source ++ more) = .ok (regions ++ others.map (Region.shift source.utf8ByteSize))
    | .error error =>
      ∃ tag problem offset, error = .region tag problem offset ∧
        scan (source ++ more) =
          .error (.region tag problem (source.utf8ByteSize + offset)) := by
  have hmore : scan (source ++ more) =
      (shiftScan source.utf8ByteSize (scan more)).map (regions ++ ·) := by
    rw [scan, String.toList_append, scanFrom_append h hread, Nat.zero_add, byteLength_toList, scan]
    exact congrArg _ (scanFrom_shift source.utf8ByteSize 0 more.toList)
  cases hscan : scan more with
  | ok others =>
    rw [hmore, hscan]
    rfl
  | error error =>
    obtain ⟨tag, problem, offset, rfl⟩ := exists_region_of_scanFrom hscan
    rw [hscan] at hmore
    exact ⟨tag, problem, offset, rfl, hmore⟩

/-- An opening tag inside a template runs on to the next `>`, over what looks like the end of the
template; behind the document stands a script that is not closed, with its fault at the same place
in its contents. -/
theorem scan_append_unclosed :
    ∃ regions others,
      scan "<!-->\n<Template>é<p </template></template >" = .ok regions ∧
      (∀ region ∈ regions, ∃ contents, region.contents = .ok contents) ∧
      scan " <script>--></p>" = .ok others ∧
      others.map (fun region => (region.tagStart, region.contents.toOption)) = [(1, none)] ∧
      scan ("<!-->\n<Template>é<p </template></template >" ++ " <script>--></p>") =
        .ok (regions ++ others.map (Region.shift 44)) := by
  let template : OpenTag := ⟨"Template".toList, [], [], false⟩
  let contents : Markup := .text ['é'] (.opening ⟨['p'], " </template".toList, false⟩ .nil)
  let ending : ClosingTag := ⟨"template".toList, [' ']⟩
  let script : OpenTag := ⟨"script".toList, [], [], false⟩
  have htemplate : template.Written := by decide +kernel
  have hscript : script.Written := by decide +kernel
  have hclosed : closeRegion (template.name.map Char.toLower)
      (contents.chars ++ (ending.chars ++ [])) = .ok (contents.chars, []) := by
    rw [closeRegion, if_neg (by decide +kernel)]
    exact closeMarkup_eq_ok (by decide +kernel) (by decide +kernel) (by decide +kernel) []
  have hunclosed : closeRegion (script.name.map Char.toLower) "--></p>".toList =
      .error (.unclosed 7) := by
    decide +kernel
  have hblank (c : Char) (hc : c = '\n' ∨ c = ' ') : ∀ d ∈ [c], isBlank d = true := by
    rcases hc with rfl | rfl <;> simp [isBlank]
  have hsource : "<!-->\n<Template>é<p </template></template >".toList =
      "<!-->".toList ++ (['\n'] ++
        (template.chars ++ (contents.chars ++ (ending.chars ++ [])))) := by
    decide +kernel
  have hmore : " <script>--></p>".toList = [' '] ++ (script.chars ++ "--></p>".toList) := by
    decide +kernel
  obtain ⟨regions, hscan, hread⟩ : ∃ regions,
      scan "<!-->\n<Template>é<p </template></template >" = .ok regions ∧
        ∀ region ∈ regions, ∃ contents, region.contents = .ok contents := by
    rw [scan, hsource, scanFrom_shortestComment, scanFrom_blanks (hblank _ (Or.inl rfl)),
      scanFrom_tag htemplate (by decide) (ofTag_of_closeRegion rfl _ hclosed), scanFrom_nil]
    exact ⟨_, rfl, by simp⟩
  obtain ⟨others, hothers, hstarts⟩ : ∃ others, scan " <script>--></p>" = .ok others ∧
      others.map (fun region => (region.tagStart, region.contents.toOption)) = [(1, none)] := by
    rw [scan, hmore, scanFrom_blanks (hblank _ (Or.inr rfl)),
      scanFrom_tag hscript (by decide) (ofTag_of_fault rfl _ hunclosed), scanFrom_nil]
    exact ⟨_, rfl, by decide +kernel⟩
  have hsize : "<!-->\n<Template>é<p </template></template >".utf8ByteSize = 44 := by decide +kernel
  have happend := scan_append hscan hread " <script>--></p>"
  rw [hothers, hsize] at happend
  exact ⟨regions, others, hscan, hread, hothers, hstarts, happend⟩

end ComponentFile
