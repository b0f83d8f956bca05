import ComponentFile.Proofs.Scan

/-!
# Regions tile their document

A document that is scanned without an error is cut into regions with gaps between them, and nothing
of it is lost or used twice.  `Tiling` says so as one relation between a text, the byte at which it
begins, and its regions.

**The pieces.**  `IsComment` and `Gap` describe what may stand between regions, `Begins` how the
opening tag of a region stands in the document, and `Span` the whole text of a region.  A region
that cannot be read is the exception that `Tiling` names: it takes all the rest, so nothing follows
it.

**The cut.**  `span_ofTag` is the step, one region from its opening tag on, and `tiling_scanFrom`
the run.  What follows from a tiling alone — increasing offsets, offsets between characters, only
the last region unreadable — is proved from the relation, without looking at the scanner again.
-/

namespace ComponentFile

/-! ## Gaps -/

/-- A comment between regions: it begins with `<!--` and ends with the first `-->` in it, which may
share its dashes with the beginning. -/
structure IsComment (text : List Char) : Prop where
  opens : commentOpen <+: text
  closes : ∃ inside, text = inside ++ commentClose ∧
    ∀ p q, text = p ++ commentClose ++ q → inside.length ≤ p.length

/-- What may stand between regions: blanks and comments. -/
inductive Gap : List Char → Prop
  | nil : Gap []
  | blank {c : Char} {rest : List Char} : isBlank c = true → Gap rest → Gap (c :: rest)
  | comment {text rest : List Char} : IsComment text → Gap rest → Gap (text ++ rest)

theorem Gap.append {a b : List Char} (ha : Gap a) (hb : Gap b) : Gap (a ++ b) := by
  induction ha with
  | nil => exact hb
  | blank hc _ ih => exact Gap.blank hc ih
  | comment ht _ ih =>
    rw [List.append_assoc]
    exact Gap.comment ht ih

theorem Gap.ofBlanks {blanks : List Char} (h : ∀ c ∈ blanks, isBlank c = true) : Gap blanks := by
  induction blanks with
  | nil => exact Gap.nil
  | cons c cs ih => exact Gap.blank (h c (by simp)) (ih fun d hd => h d (by simp [hd]))

/-- The comment that ends where a search for the end of comments stops. -/
theorem isComment_of_splitAtFirst? {text inside rest : List Char}
    (hopen : (afterLiteral? commentOpen text).isSome = true)
    (h : splitAtFirst? commentClose text = some (inside, rest)) :
    IsComment (inside ++ commentClose) := by
  obtain ⟨rfl, hfirst⟩ := splitAtFirst?_eq_some_iff.1 h
  refine ⟨?_, inside, rfl, fun p q he => hfirst p (q ++ rest) (by rw [he]; simp)⟩
  obtain ⟨after, ha⟩ := Option.isSome_iff_exists.1 hopen
  have hp : commentOpen <+: inside ++ commentClose ++ rest :=
    ⟨after, (afterLiteral?_eq_some_iff.1 ha).symm⟩
  -- the shortest comment, `<!-->`, is still longer than its beginning
  have hlen : commentOpen.length ≤ (inside ++ commentClose).length := by
    match inside, hp with
    | [], hp => exact absurd hp (by simp [commentOpen, commentClose])
    | _ :: inside, _ => simp [commentOpen, commentClose]
  exact List.prefix_of_prefix_length_le hp (List.prefix_append _ rest) hlen

/-! ## Regions in their document -/

/-- A region begins at byte `start` with an opening tag. -/
structure Begins (tag : OpenTag) (start : Nat) (region : Region) : Prop where
  written : tag.Written
  slashApart : tag.SlashApart
  name : region.name = String.ofList (tag.name.map Char.toLower)
  attributes : region.attributes = Attributes.ofText tag.attributeText
  tagStart : region.tagStart = start
  contentsStart : region.contentsStart = start + byteLength tag.chars

/-- The text of a region that begins at byte `start`. -/
inductive Span (start : Nat) (region : Region) : List Char → Prop
  /-- The tag closes itself. -/
  | selfClosed {tag : OpenTag} : Begins tag start region → tag.selfClosing = true →
      region.contents = .ok "" → Span start region tag.chars
  /-- The contents and a closing tag follow.  Raw text goes up to its first closing tag. -/
  | closed {tag : OpenTag} {contents : List Char} {closing : ClosingTag} :
      Begins tag start region → tag.selfClosing = false →
      region.contents = .ok (String.ofList contents) →
      closing.Closes (tag.name.map Char.toLower) →
      (isRawText (tag.name.map Char.toLower) = true → ∀ inner : ClosingTag,
        inner.Folds (tag.name.map Char.toLower) → ¬ inner.chars <:+: contents) →
      Span start region (tag.chars ++ contents ++ closing.chars)
  /-- No end of the region is found, and the fault says the truth about what follows the tag.  Raw
  text that is not closed holds no closing tag. -/
  | unreadable {tag : OpenTag} {body : List Char} {fault : RegionFault} :
      Begins tag start region → tag.selfClosing = false →
      region.contents = .error (fault.error region.name) →
      EndsAs (·.Closes (tag.name.map Char.toLower)) body (.error fault) →
      (isRawText (tag.name.map Char.toLower) = true → ∀ inner : ClosingTag,
        inner.Folds (tag.name.map Char.toLower) → ¬ inner.chars <:+: body) →
      Span start region (tag.chars ++ body)

/-- A text that begins at byte `start` consists of regions with gaps around them; behind a region
that cannot be read there is nothing. -/
inductive Tiling : Nat → List Char → List Region → Prop
  | gap {start : Nat} {gap : List Char} : Gap gap → Tiling start gap []
  | region {start : Nat} {gap span rest : List Char} {region : Region} {regions : List Region} :
      Gap gap → Span (start + byteLength gap) region span →
      (∀ error, region.contents = .error error → rest = []) →
      Tiling (start + byteLength gap + byteLength span) rest regions →
      Tiling start (gap ++ span ++ rest) (region :: regions)

theorem Span.exists_begins {start : Nat} {region : Region} {span : List Char}
    (h : Span start region span) :
    ∃ tag body, Begins tag start region ∧ span = tag.chars ++ body := by
  cases h with
  | selfClosed hb _ _ => exact ⟨_, [], hb, by simp⟩
  | closed hb _ _ _ _ => exact ⟨_, _, hb, List.append_assoc _ _ _⟩
  | unreadable hb _ _ _ _ => exact ⟨_, _, hb, rfl⟩

theorem Span.byteLength_pos {start : Nat} {region : Region} {span : List Char}
    (h : Span start region span) : 0 < byteLength span := by
  obtain ⟨tag, body, -, rfl⟩ := h.exists_begins
  simp only [OpenTag.chars, List.cons_append, byteLength_cons]
  have := Char.utf8Size_pos '<'
  omega

/-! ## The cut -/

/-- One region: the text from its opening tag on is cut into the region and the rest, which is empty
if the region cannot be read. -/
theorem span_ofTag {tag : OpenTag} {start : Nat} {body rest : List Char} {region : Region}
    (hw : tag.Written) (hs : tag.SlashApart) (h : Region.ofTag tag start body = (region, rest)) :
    ∃ span, tag.chars ++ body = span ++ rest ∧ Span start region span ∧
      ∀ error, region.contents = .error error → rest = [] := by
  unfold Region.ofTag at h
  dsimp only at h
  split at h
  · next hself =>
    obtain ⟨rfl, rfl⟩ := Prod.mk.inj h
    refine ⟨tag.chars, rfl, ?_, fun _ he => by cases he⟩
    exact Span.selfClosed ⟨hw, hs, rfl, rfl, rfl, rfl⟩ hself rfl
  · next hself =>
    have hself : tag.selfClosing = false := by simpa using hself
    have hends := endsAs_closeRegion (tag.name.map Char.toLower) body
    split at h
    · next contents after hc =>
      obtain ⟨rfl, rfl⟩ := Prod.mk.inj h
      rw [hc] at hends
      obtain ⟨closing, hcloses, hbody⟩ := hends
      refine ⟨tag.chars ++ contents ++ closing.chars, by rw [hbody]; simp, ?_,
        fun _ he => by cases he⟩
      refine Span.closed ⟨hw, hs, rfl, rfl, rfl, rfl⟩ hself rfl hcloses ?_
      intro hraw
      rw [closeRegion, if_pos hraw] at hc
      obtain ⟨_, _, _, hfirst⟩ := (closeRaw_eq_ok_iff (notMem_of_isRawText hraw)).1 hc
      exact hfirst
    · next fault hc =>
      obtain ⟨rfl, rfl⟩ := Prod.mk.inj h
      rw [hc] at hends
      refine ⟨tag.chars ++ body, by simp, ?_, fun _ _ => rfl⟩
      refine Span.unreadable ⟨hw, hs, rfl, rfl, rfl, rfl⟩ hself rfl hends ?_
      intro hraw inner hi
      rw [closeRegion, if_pos hraw] at hc
      exact not_infix_of_closeRaw_error hc hi

theorem Tiling.prepend_gap {start : Nat} {gap text : List Char} {regions : List Region}
    (hgap : Gap gap) (h : Tiling (start + byteLength gap) text regions) :
    Tiling start (gap ++ text) regions := by
  cases h with
  | gap h => exact Tiling.gap (hgap.append h)
  | region h hspan hlast hrest =>
    rw [← List.append_assoc, ← List.append_assoc]
    refine Tiling.region (hgap.append h) ?_ hlast ?_
    · rw [byteLength_append, ← Nat.add_assoc]
      exact hspan
    · rw [byteLength_append, ← Nat.add_assoc]
      exact hrest

/-- The regions found in the rest of a document tile it. -/
theorem tiling_scanFrom {start : Nat} {text : List Char} {regions : List Region}
    (h : scanFrom start text = .ok regions) : Tiling start text regions := by
  fun_induction scanFrom start text generalizing regions with
  | case1 start text ht =>
    cases h
    refine Tiling.gap ?_
    rw [← takeBlanks_append_dropBlanks text, ht, List.append_nil]
    exact Gap.ofBlanks fun c => isBlank_of_mem_takeBlanks
  | case2 => cases h
  | case3 start text here c cs ht hopen inside rest hc =>
    rename_i ih
    have hgap : Gap (takeBlanks text ++ (inside ++ commentClose)) := by
      refine (Gap.ofBlanks fun c => isBlank_of_mem_takeBlanks).append ?_
      rw [← List.append_nil (inside ++ commentClose)]
      exact Gap.comment (isComment_of_splitAtFirst? hopen hc) Gap.nil
    have htext : text = takeBlanks text ++ (inside ++ commentClose) ++ rest := by
      rw [List.append_assoc, ← eq_of_splitAtFirst? hc, ← ht, takeBlanks_append_dropBlanks]
    rw [htext]
    refine Tiling.prepend_gap hgap ?_
    rw [byteLength_append, ← Nat.add_assoc]
    exact ih h
  | case4 => cases h
  | case5 start text here c cs ht hopen tag body hr region rest ho next =>
    rename_i ih
    obtain ⟨others, hothers, rfl⟩ := Except.map_eq_ok_iff.1 h
    obtain ⟨hw, hs, heq⟩ := OpenTag.read_eq_some_iff.1 hr
    obtain ⟨span, hspan, hregion, hlast⟩ := span_ofTag hw hs ho
    have htext : text = takeBlanks text ++ span ++ rest := by
      rw [List.append_assoc, ← hspan, ← heq, ← ht, takeBlanks_append_dropBlanks]
    have hnext : next = start + byteLength (takeBlanks text) + byteLength span := by
      simp only [next, here, heq, hspan, byteLength_append]
      omega
    have htiling := ih hothers
    rw [hnext] at htiling
    rw [htext]
    exact Tiling.region (Gap.ofBlanks fun c => isBlank_of_mem_takeBlanks) hregion hlast htiling

/-! ## What a tiling says -/

/-- The regions of a tiling begin inside its text, one behind the other. -/
theorem Tiling.pairwise {start : Nat} {text : List Char} {regions : List Region}
    (h : Tiling start text regions) :
    (∀ region ∈ regions, start ≤ region.tagStart) ∧
      (regions.map Region.tagStart).Pairwise (· < ·) := by
  induction h with
  | gap => simp
  | @region start gap span rest region regions _ hspan _ _ ih =>
    obtain ⟨hle, hpair⟩ := ih
    obtain ⟨tag, body, hb, -⟩ := hspan.exists_begins
    have hstart := hb.tagStart
    have hpos := hspan.byteLength_pos
    refine ⟨?_, ?_⟩
    · intro r hr
      rcases List.mem_cons.1 hr with rfl | hr
      · omega
      · have := hle r hr
        omega
    · rw [List.map_cons, List.pairwise_cons]
      refine ⟨?_, hpair⟩
      intro offset ho
      obtain ⟨r, hr, rfl⟩ := List.mem_map.1 ho
      have := hle r hr
      omega

/-- The opening tag of each region stands at its place, and the contents begin right behind it. -/
theorem Tiling.at {start : Nat} {text : List Char} {regions : List Region}
    (h : Tiling start text regions) {region : Region} (hr : region ∈ regions) :
    ∃ tag offset body, region.tagStart = start + offset ∧ Begins tag region.tagStart region ∧
      At text offset (tag.chars ++ body) := by
  induction h with
  | gap => cases hr
  | @region start gap span rest first regions _ hspan _ _ ih =>
    rcases List.mem_cons.1 hr with rfl | hr
    · obtain ⟨tag, body, hb, rfl⟩ := hspan.exists_begins
      refine ⟨tag, byteLength gap, body ++ rest, hb.tagStart, hb.tagStart ▸ hb, ?_⟩
      exact ⟨gap, by simp, rfl⟩
    · obtain ⟨tag, offset, body, hstart, hb, hat⟩ := ih hr
      refine ⟨tag, byteLength (gap ++ span) + offset, body, ?_, hb, (At.append _ _).trans hat⟩
      rw [hstart, byteLength_append]
      omega

/-- What a fault says is true of the text behind the opening tag of its region. -/
theorem Tiling.fault_at {start : Nat} {text : List Char} {regions : List Region}
    (h : Tiling start text regions) {region : Region} (hr : region ∈ regions) {error : CompileError}
    (he : region.contents = .error error) :
    ∃ fault closes offset body, error = RegionFault.error region.name fault ∧
      region.contentsStart = start + offset ∧ At text offset body ∧
      EndsAs closes body (.error fault) := by
  induction h with
  | gap => cases hr
  | @region start gap span rest first regions _ hspan hlast _ ih =>
    rcases List.mem_cons.1 hr with rfl | hr
    · obtain rfl := hlast error he
      cases hspan with
      | selfClosed _ _ hc => rw [hc] at he; cases he
      | closed _ _ hc _ _ => rw [hc] at he; cases he
      | @unreadable tag body fault hb _ hc hends _ =>
        rw [hc] at he
        refine ⟨fault, _, byteLength gap + byteLength tag.chars, body, (Except.error.inj he).symm,
          by rw [hb.contentsStart, Nat.add_assoc], ⟨gap ++ tag.chars, by simp, by simp⟩, hends⟩
    · obtain ⟨fault, closes, offset, body, herr, hstart, hat, hends⟩ := ih hr
      refine ⟨fault, closes, byteLength (gap ++ span) + offset, body, herr, ?_,
        (At.append _ _).trans hat, hends⟩
      rw [hstart, byteLength_append]
      omega

/-- Only the last region can be unreadable. -/
theorem Tiling.readable {start : Nat} {text : List Char} {regions : List Region}
    (h : Tiling start text regions) :
    ∀ region ∈ regions.dropLast, ∃ contents, region.contents = .ok contents := by
  induction h with
  | gap => simp
  | @region start gap span rest first regions _ _ hlast hrest ih =>
    cases hrest with
    | gap => simp
    | @region _ gap' span' rest' second others _ hspan' _ _ =>
      intro region hr
      rw [List.dropLast_cons_of_ne_nil (by simp)] at hr
      rcases List.mem_cons.1 hr with rfl | hr
      · match hc : region.contents with
        | .ok contents => exact ⟨contents, rfl⟩
        | .error error =>
          have hpos := hspan'.byteLength_pos
          have hnil := hlast error hc
          have : byteLength span' = 0 := by
            rw [(List.append_eq_nil_iff.1 (List.append_eq_nil_iff.1 hnil).1).2]
            rfl
          omega
      · exact ih region hr

/-- **Regions tile their document.**  The text of a document that is scanned is the text of its
regions with gaps around them.  Regions begin one behind the other, all their offsets lie between
characters of the document, and only the last of them can be unreadable. -/
theorem scan_tiles {source : String} {regions : List Region} (h : scan source = .ok regions) :
    Tiling 0 source.toList regions ∧
      (regions.map Region.tagStart).Pairwise (· < ·) ∧
      (∀ region ∈ regions,
        (⟨region.tagStart⟩ : String.Pos.Raw).IsValid source ∧
          (⟨region.contentsStart⟩ : String.Pos.Raw).IsValid source) ∧
      ∀ region ∈ regions.dropLast, ∃ contents, region.contents = .ok contents := by
  have htiling := tiling_scanFrom h
  refine ⟨htiling, htiling.pairwise.2, ?_, htiling.readable⟩
  intro region hr
  obtain ⟨tag, offset, body, hstart, hb, hat⟩ := htiling.at hr
  rw [Nat.zero_add] at hstart
  rw [hb.contentsStart, hstart]
  exact ⟨hat.isValid, (hat.trans (At.append _ _)).isValid⟩

/-- A script that is closed by a name of other letters, and a tag that is not closed because its
slash belongs to the value in front. -/
theorem scan_tiles_unclosed :
    ∃ regions, scan "<!-->\n<Script>é</ſcript ><a b=c/>" = .ok regions ∧
      regions.map Region.tagStart = [6, 27] ∧
      Tiling 0 "<!-->\n<Script>é</ſcript ><a b=c/>".toList regions ∧
      ∀ region ∈ regions.dropLast, ∃ contents, region.contents = .ok contents := by
  let script : OpenTag := ⟨"Script".toList, [], [], false⟩
  let link : OpenTag := ⟨['a'], [⟨[' '], ⟨['b'], some ⟨[], [], .bare, ['c', '/']⟩⟩⟩], [], false⟩
  have hscript : script.Written := by decide +kernel
  have hlink : link.Written := by decide +kernel
  have hscriptEnd : closeRegion (script.name.map Char.toLower)
      ("é</ſcript >".toList ++ link.chars) = .ok (['é'], link.chars) := by
    decide +kernel
  have hlinkEnd : closeRegion (link.name.map Char.toLower) [] = .error (.unclosed 0) := by
    rw [closeRegion, closeMarkup_eq]
    rfl
  have hblank : ∀ c ∈ ['\n'], isBlank c = true := by simp [isBlank]
  have htext : "<!-->\n<Script>é</ſcript ><a b=c/>".toList = "<!-->".toList ++ (['\n'] ++
      (script.chars ++ ("é</ſcript >".toList ++ link.chars))) := by
    decide +kernel
  obtain ⟨regions, hscan, hstarts⟩ : ∃ regions,
      scan "<!-->\n<Script>é</ſcript ><a b=c/>" = .ok regions ∧
        regions.map Region.tagStart = [6, 27] := by
    rw [scan, htext, scanFrom_shortestComment, scanFrom_blanks hblank,
      scanFrom_tag hscript (by decide) (ofTag_of_closeRegion rfl _ hscriptEnd),
      ← List.append_nil link.chars,
      scanFrom_tag hlink (by decide) (ofTag_of_fault rfl _ hlinkEnd), scanFrom_nil]
    exact ⟨_, rfl, by decide +kernel⟩
  exact ⟨regions, hscan, hstarts, (scan_tiles hscan).1, (scan_tiles hscan).2.2.2⟩

end ComponentFile
