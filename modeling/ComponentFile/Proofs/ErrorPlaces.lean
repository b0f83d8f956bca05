import ComponentFile.Compilation
import ComponentFile.Proofs.Classification
import ComponentFile.Proofs.Tiling

/-!
# Errors point at what they blame

Offsets are found in two coordinate systems: the scanner counts from the start of the document, the
search for the end of a region from the start of its contents.  An error that leaves the compiler is
always in document coordinates, and at its offset stands the very thing that it complains about.

**The promise.**  `CompileError.Blames` says for each error what stands at its offset.

**Where errors come from.**  There are four sources, and each has its lemma.

* `blames_scanFrom` — text at the top level that is no region, and comments there.
* `blames_fault` — a region that cannot be read; this is where offsets are moved, once.
* `blames_addRegion` — a region that is refused.  That the place of a duplicate is taken needs to be
  known of the component: `Component.FilledFrom` says that what it holds came from regions already
  seen.
* `exists_transform_of_compile` — everything later is an engine's error and points nowhere.

**`blames_compileSource`** puts them together, with one induction over the regions in between.
-/

namespace ComponentFile

/-! ## The promise -/

/-- At byte `offset` of a text stands `<` with a name behind it, in any ASCII case. -/
def TagAt (text : List Char) (offset : Nat) (name : String) : Prop :=
  ∃ written rest, At text offset ('<' :: (written ++ rest)) ∧ sameName written name.toList = true

namespace CompileError

/-- What an error blames stands in the document where the error points to.  An engine's error points
into the text that the engine was given, and no host has reported anything here. -/
def Blames (source : String) : CompileError → Prop
  | duplicateTag name offset =>
    (name = "template" ∨ name = "script") ∧ TagAt source.toList offset name ∧
      ∃ regions, scan source = .ok regions ∧
        ∃ region ∈ regions, region.name = name ∧ region.tagStart < offset
  | unrecognizedTag name offset =>
    name ∉ ["template", "script", "style"] ∧ TagAt source.toList offset name
  | region tag (.unclosed name) offset => tag = some name ∧ offset = source.utf8ByteSize
  | region _ .unclosedComment offset =>
    ∃ after, At source.toList offset (commentOpen ++ after) ∧ ¬ commentClose <:+: after
  | region tag .strayText offset =>
    tag = none ∧ ∃ c cs, At source.toList offset (c :: cs) ∧ isBlank c = false ∧
      ¬ commentOpen <+: c :: cs ∧ ∀ opening : OpenTag, opening.Written → ¬ opening.chars <+: c :: cs
  | region _ (.reported _) _ => False
  | transform _ => True

/-- Whether an error is about the structure of the document, and not an engine's. -/
def IsStructural : CompileError → Prop
  | transform _ => False
  | _ => True

/-- What is blamed stands in the document, so its offset is one of the document. -/
theorem Blames.isValid {source : String} {error : CompileError} (h : error.Blames source)
    (hs : error.IsStructural) {offset : Nat} (ho : error.offset? = some offset) :
    (⟨offset⟩ : String.Pos.Raw).IsValid source := by
  match error, h, ho with
  | duplicateTag name _, ⟨_, ⟨written, rest, hat, _⟩, _⟩, rfl => exact hat.isValid
  | unrecognizedTag name _, ⟨_, written, rest, hat, _⟩, rfl => exact hat.isValid
  | region tag (.unclosed name) _, ⟨_, he⟩, rfl =>
    have hat : At source.toList source.utf8ByteSize [] :=
      ⟨source.toList, by simp, byteLength_toList _⟩
    exact he ▸ hat.isValid
  | region tag .unclosedComment _, ⟨after, hat, _⟩, rfl => exact hat.isValid
  | region tag .strayText _, ⟨_, c, cs, hat, _⟩, rfl => exact hat.isValid
  | transform error, _, _ => exact absurd hs id

end CompileError

/-! ## The top level -/

/-- What the scanner stops at is no region, and it says where. -/
theorem blames_scanFrom {source : String} {start : Nat} {text : List Char} {error : CompileError}
    (hat : At source.toList start text) (h : scanFrom start text = .error error) :
    error.Blames source := by
  have hblanks {start : Nat} {text : List Char} (hat : At source.toList start text) :
      At source.toList (start + byteLength (takeBlanks text)) (dropBlanks text) :=
    hat.trans ⟨takeBlanks text, (takeBlanks_append_dropBlanks text).symm, rfl⟩
  fun_induction scanFrom start text with
  | case1 => cases h
  | case2 start text here c cs ht hopen hc =>
    cases h
    have hat := hblanks hat
    rw [ht] at hat
    obtain ⟨after, ha⟩ := Option.isSome_iff_exists.1 hopen
    rw [afterLiteral?_eq_some_iff.1 ha] at hat hc
    refine ⟨after, hat, fun hinfix => splitAtFirst?_eq_none_iff.1 hc ?_⟩
    exact hinfix.trans (List.suffix_append commentOpen after).isInfix
  | case3 start text here c cs ht hopen inside rest hc =>
    rename_i ih
    have hat := hblanks hat
    rw [ht, eq_of_splitAtFirst? hc] at hat
    exact ih (hat.trans (At.append _ _)) h
  | case4 start text here c cs ht hopen hr =>
    cases h
    have hat := hblanks hat
    rw [ht] at hat
    refine ⟨rfl, c, cs, hat, ?_, ?_, ?_⟩
    · have hstop := stopsBefore_dropWhile isBlank text
      rw [show text.dropWhile isBlank = c :: cs from ht] at hstop
      exact stopsBefore_cons.1 hstop
    · rintro ⟨after, ha⟩
      exact hopen (by rw [← ha, afterLiteral?_eq_some_iff.2 rfl]; rfl)
    · rintro opening hw ⟨rest, hrest⟩
      obtain ⟨other, hother, -⟩ := OpenTag.exists_read hw rest
      rw [hrest, hr] at hother
      cases hother
  | case5 start text here c cs ht hopen tag body hr region rest ho next =>
    rename_i ih
    have hat := hblanks hat
    obtain ⟨hw, hs, heq⟩ := OpenTag.read_eq_some_iff.1 hr
    obtain ⟨span, hspan, -, -⟩ := span_ofTag hw hs ho
    have hnext : next = here + byteLength span := by
      simp only [next, heq, hspan, byteLength_append]
      omega
    rw [ht, heq, hspan] at hat
    refine ih (hnext ▸ hat.trans (At.append _ _)) ?_
    cases hrest : scanFrom next rest with
    | ok regions => rw [hrest] at h; cases h
    | error e => rw [hrest] at h; exact h

/-! ## Regions that cannot be read -/

/-- The fault of a region, moved to the document, says the truth about the document. -/
theorem blames_fault {source : String} {regions : List Region} (hscan : scan source = .ok regions)
    {region : Region} (hr : region ∈ regions) {error : CompileError}
    (he : region.contents = .error error) :
    ((error.shift region.contentsStart).inRegion region.name).Blames source := by
  obtain ⟨fault, closes, offset, body, rfl, hstart, hat, hends⟩ :=
    (tiling_scanFrom hscan).fault_at hr he
  rw [Nat.zero_add] at hstart
  rw [← hstart] at hat
  cases fault with
  | unclosed o =>
    refine ⟨rfl, ?_⟩
    rw [show o = byteLength body from hends, hat.add_byteLength, byteLength_toList]
  | unclosedComment o =>
    obtain ⟨before, after, rfl, rfl, hn⟩ := hends
    rw [List.append_assoc] at hat
    exact ⟨after, hat.trans (At.append _ _), hn⟩

/-! ## Regions that are refused -/

/-- What a component holds came from the given regions. -/
def Component.FilledFrom (component : Component) (regions : List Region) : Prop :=
  (component.template.isSome = true → ∃ region ∈ regions, region.name = "template") ∧
    (component.script.isSome = true → ∃ region ∈ regions, region.name = "script")

/-- A region that is accepted accounts for what it fills. -/
theorem Component.FilledFrom.addRegion {component next : Component} {regions : List Region}
    {region : Region} (h : component.FilledFrom regions)
    (hadd : component.addRegion region = .ok next) : next.FilledFrom (regions ++ [region]) := by
  have hmono {name : String} : (∃ r ∈ regions, r.name = name) →
      ∃ r ∈ regions ++ [region], r.name = name := by
    rintro ⟨r, hr, hname⟩
    exact ⟨r, by simp [hr], hname⟩
  have hself {name : String} (hname : region.name = name) :
      ∃ r ∈ regions ++ [region], r.name = name := ⟨region, by simp, hname⟩
  unfold Component.addRegion at hadd
  split at hadd
  · cases hadd
  · next contents hc =>
    have hadded := component.added_add ⟨region.name, contents, region.attributes,
      region.tagStart, region.contentsStart⟩
    rw [hadd] at hadded
    cases hadded with
    | template hname _ => exact ⟨fun _ => hself hname, fun hs => hmono (h.2 hs)⟩
    | script hname _ => exact ⟨fun ht => hmono (h.1 ht), fun _ => hself hname⟩
    | style hname => exact ⟨fun ht => hmono (h.1 ht), fun hs => hmono (h.2 hs)⟩

/-- The opening tag of every region stands where the region says. -/
theorem tagAt_of_scan {source : String} {regions : List Region} (hscan : scan source = .ok regions)
    {region : Region} (hr : region ∈ regions) :
    TagAt source.toList region.tagStart region.name := by
  obtain ⟨tag, offset, body, hstart, hb, hat⟩ := (tiling_scanFrom hscan).at hr
  rw [Nat.zero_add] at hstart
  rw [OpenTag.chars_append_eq] at hat
  refine ⟨tag.name, _, hstart ▸ hat, ?_⟩
  rw [hb.name, String.toList_ofList, sameName_map_toLower]
  exact sameName_iff.2 rfl

/-- A region that is refused is blamed for what it is. -/
theorem blames_addRegion {source : String} {done rest : List Region} {region : Region}
    (hscan : scan source = .ok (done ++ region :: rest)) {component : Component}
    (hfilled : component.FilledFrom done) {error : CompileError}
    (h : component.addRegion region = .error error) : error.Blames source := by
  have hmem : region ∈ done ++ region :: rest := by simp
  have htag := tagAt_of_scan hscan hmem
  have hbefore {name : String} (hname : region.name = name) :
      (∃ r ∈ done, r.name = name) →
        ∃ r ∈ done ++ region :: rest, r.name = region.name ∧ r.tagStart < region.tagStart := by
    rintro ⟨r, hr, hrname⟩
    have hpair := (tiling_scanFrom hscan).pairwise.2
    rw [List.map_append, List.pairwise_append] at hpair
    refine ⟨r, by simp [hr], by rw [hrname, hname], ?_⟩
    exact hpair.2.2 _ (List.mem_map_of_mem hr) _ (by simp)
  unfold Component.addRegion at h
  split at h
  · next e hc =>
    cases h
    exact blames_fault hscan hmem hc
  · next contents hc =>
    have hadded := component.added_add ⟨region.name, contents, region.attributes,
      region.tagStart, region.contentsStart⟩
    rw [h] at hadded
    cases hadded with
    | secondTemplate hname hfirst =>
      have hseen := hfilled.1 (by rw [hfirst]; rfl)
      exact ⟨Or.inl hname, htag, _, hscan, hbefore hname hseen⟩
    | secondScript hname hfirst =>
      have hseen := hfilled.2 (by rw [hfirst]; rfl)
      exact ⟨Or.inr hname, htag, _, hscan, hbefore hname hseen⟩
    | unrecognized hname => exact ⟨hname, htag⟩

/-- The first region that is refused is blamed, however many were accepted before. -/
theorem blames_addRegions {source : String} {done regions : List Region}
    (hscan : scan source = .ok (done ++ regions)) {component : Component}
    (hfilled : component.FilledFrom done) {error : CompileError}
    (h : component.addRegions regions = .error error) : error.Blames source := by
  induction regions generalizing done component with
  | nil => cases h
  | cons region regions ih =>
    rw [Component.addRegions, List.foldlM_cons] at h
    cases hadd : component.addRegion region with
    | error e =>
      rw [hadd] at h
      cases h
      exact blames_addRegion hscan hfilled hadd
    | ok next =>
      rw [hadd] at h
      exact ih (by simpa using hscan) (hfilled.addRegion hadd) h

theorem blames_readComponent {source : String} {error : CompileError}
    (h : readComponent source = .error error) : error.Blames source := by
  unfold readComponent at h
  cases hscan : scan source with
  | error e =>
    rw [hscan] at h
    cases h
    exact blames_scanFrom (At.zero source.toList) hscan
  | ok regions =>
    rw [hscan] at h
    have hempty : Component.FilledFrom { } [] := ⟨fun ht => (nomatch ht), fun hs => (nomatch hs)⟩
    exact blames_addRegions hscan hempty h

/-! ## Engine errors -/

/-- An error of a sequence is one of its parts. -/
theorem Traced.error_of_bind {α β : Type} {x : Traced α} {f : α → Traced β} {error : CompileError}
    (h : (x >>= f).outcome = .error error) :
    x.outcome = .error error ∨ ∃ a, x.outcome = .ok a ∧ (f a).outcome = .error error := by
  change (Traced.bind x f).outcome = .error error at h
  unfold Traced.bind at h
  split at h
  · next a ha => exact Or.inr ⟨a, ha, h⟩
  · next e he =>
    cases h
    exact Or.inl he

theorem Traced.exists_transform_of_lift {α : Type} {x : Except TransformError α}
    {error : CompileError} (h : Traced.lift x = .error error) : ∃ e, error = .transform e := by
  cases x with
  | ok a => cases h
  | error e => cases h; exact ⟨e, rfl⟩

theorem exists_transform_of_compileStyles {context : Context} {styles : List Tag}
    {error : CompileError} (h : (Component.compileStyles context styles).outcome = .error error) :
    ∃ e, error = .transform e := by
  induction styles with
  | nil => cases h
  | cons tag styles ih =>
    rw [Component.compileStyles] at h
    rcases Traced.error_of_bind h with h | ⟨style, -, h⟩
    · exact Traced.exists_transform_of_lift h
    · rcases Traced.error_of_bind h with h | ⟨others, -, h⟩
      · exact ih h
      · cases h

/-- Once the component is read, only engines fail. -/
theorem exists_transform_of_compile {component : Component} {context : Context}
    {error : CompileError} (h : (component.compile context).outcome = .error error) :
    ∃ e, error = .transform e := by
  rw [Component.compile] at h
  rcases Traced.error_of_bind h with h | ⟨output, -, h⟩
  · unfold assembleModule at h
    split at h
    · cases h
    · rcases Traced.error_of_bind h with h | ⟨output, -, h⟩
      · exact Traced.exists_transform_of_lift h
      · cases h
  · rcases Traced.error_of_bind h with h | ⟨styles, -, h⟩
    · exact exists_transform_of_compileStyles h
    · cases h

/-! ## The whole compilation -/

/-- **Errors point at what they blame.**  Whatever a document, its metadata, settings and engines
are: an error about the structure of the document carries an offset of the document, and there
stands what the error complains about. -/
theorem blames_compileSource {source : String} {context : Context} {error : CompileError}
    (h : (compileSource source context).outcome = .error error) :
    error.Blames source ∧
      (error.IsStructural → ∀ offset, error.offset? = some offset →
        offset ≤ source.utf8ByteSize ∧ (⟨offset⟩ : String.Pos.Raw).IsValid source) := by
  have hblames : error.Blames source := by
    rw [compileSource] at h
    rcases Traced.error_of_bind h with h | ⟨component, -, h⟩
    · exact blames_readComponent h
    · obtain ⟨e, rfl⟩ := exists_transform_of_compile h
      trivial
  refine ⟨hblames, fun hs offset ho => ?_⟩
  have hvalid := hblames.isValid hs ho
  exact ⟨hvalid.le_rawEndPos, hvalid⟩

/-- A comment that is opened inside a region, two bytes into its contents, which begin at byte 16 of
the document. -/
theorem blames_compileSource_comment :
    ∃ context, (compileSource "<!-->\n<Template>é<!-- </template>" context).outcome =
        .error (.region (some "template") .unclosedComment 18) ∧
      (CompileError.region (some "template") .unclosedComment 18).Blames
        "<!-->\n<Template>é<!-- </template>" ∧
      18 ≤ "<!-->\n<Template>é<!-- </template>".utf8ByteSize ∧
      (⟨18⟩ : String.Pos.Raw).IsValid "<!-->\n<Template>é<!-- </template>" := by
  let tag : OpenTag := ⟨"Template".toList, [], [], false⟩
  let body : List Char := "é<!-- </template>".toList
  let context : Context :=
    ⟨⟨"a.vue", none, "1"⟩, {}, fun source _ => .ok ⟨source, none⟩, fun _ css _ => .ok ⟨css, none⟩⟩
  have htext : "<!-->\n<Template>é<!-- </template>".toList =
      "<!-->".toList ++ (['\n'] ++ (tag.chars ++ body)) := by
    decide +kernel
  have hblank : ∀ c ∈ ['\n'], isBlank c = true := by simp [isBlank]
  have htag : tag.Written := by decide +kernel
  have hname : String.ofList (tag.name.map Char.toLower) = "template" := by decide +kernel
  have hend : closeRegion (tag.name.map Char.toLower) body = .error (.unclosedComment 2) := by
    rw [closeRegion, closeMarkup_eq]
    decide +kernel
  have herror : (compileSource "<!-->\n<Template>é<!-- </template>" context).outcome =
      .error (.region (some "template") .unclosedComment 18) := by
    rw [compileSource, readComponent, scan, htext, scanFrom_shortestComment,
      scanFrom_blanks hblank, scanFrom_tag htag (by decide) (ofTag_of_fault rfl _ hend),
      scanFrom_nil, hname]
    rfl
  obtain ⟨hblames, hplace⟩ := blames_compileSource herror
  obtain ⟨hle, hvalid⟩ := hplace trivial 18 rfl
  exact ⟨context, herror, hblames, hle, hvalid⟩

end ComponentFile
