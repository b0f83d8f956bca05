import ComponentFile.Proofs.ErrorPlaces
import Mathlib

/-!
# Lines and columns as coordinates

A place is given to people as a line and a column, and found in a document as a byte offset.  The
two say the same.  An offset inside a character stands for the beginning of the character, and an
offset past the end for the end; apart from that no two offsets have the same line and column.

**Boundaries.**  `takeBytes` takes whole characters, as many as fit, so what it takes ends at the
last boundary up to an offset (`isGreatest_takeBytes`).  `backUp?` looks for that boundary byte by
byte, and it always finds it (`isGreatest_backUp?`), since a text begins at one.

**Places.**  What is read up to a place is some lines and a beginning of the next one
(`exists_lines`).  `LeadsTo` reads a line and a column as directions to an offset, and those of a
boundary lead there (`leadsTo_ofOffset`).

**Order.**  Reading on leads to a later line, or in the same line to a later column
(`key_lt_key_append`).  So the coordinates of boundaries are ordered as the boundaries are.

**`ofOffset_faithful`** puts these together, and adds that the line and the column that a diagnostic
gives are those of the offset that it gives.
-/

namespace ComponentFile

/-! ## Boundaries -/

/-- A byte offset of a text where a character begins, or the text ends. -/
def CharBoundary (source : String) (offset : Nat) : Prop :=
  (⟨offset⟩ : String.Pos.Raw).IsValid source

instance (source : String) (offset : Nat) : Decidable (CharBoundary source offset) :=
  decidable_of_iff _ String.Pos.Raw.isValid_eq_true_iff

section

variable {source : String} {offset : Nat}

theorem charBoundary_iff : CharBoundary source offset ↔ ∃ here, At source.toList offset here := by
  constructor
  · intro h
    obtain ⟨before, here, rfl, hoffset⟩ := String.Pos.Raw.isValid_iff_exists_append.1 h
    refine ⟨here.toList, before.toList, String.toList_append, ?_⟩
    rw [byteLength_toList]
    exact (congrArg String.Pos.Raw.byteIdx hoffset).symm
  · rintro ⟨here, hat⟩
    exact hat.isValid

theorem charBoundary_zero (source : String) : CharBoundary source 0 :=
  charBoundary_iff.2 ⟨source.toList, At.zero source.toList⟩

theorem CharBoundary.le (h : CharBoundary source offset) : offset ≤ source.utf8ByteSize :=
  h.le_rawEndPos

end

theorem takeBytes_prefix_self (bytes : Nat) (text : List Char) : takeBytes bytes text <+: text := by
  induction text generalizing bytes with
  | nil => exact List.nil_prefix
  | cons c cs ih =>
    rw [takeBytes]
    split
    · exact (List.prefix_cons_inj c).2 (ih _)
    · exact List.nil_prefix

/-- Nothing longer than what is taken would fit. -/
theorem prefix_takeBytes {bytes : Nat} {before here : List Char} (h : byteLength before ≤ bytes) :
    before <+: takeBytes bytes (before ++ here) := by
  induction before generalizing bytes with
  | nil => exact List.nil_prefix
  | cons c cs ih =>
    rw [byteLength_cons] at h
    rw [List.cons_append, takeBytes, if_pos (by omega)]
    exact (List.prefix_cons_inj c).2 (ih (by omega))

/-- A shorter beginning of a text has fewer bytes. -/
theorem byteLength_mono {before text : List Char} (h : before <+: text) :
    byteLength before ≤ byteLength text := by
  obtain ⟨rest, rfl⟩ := h
  rw [byteLength_append]
  omega

/-- Up to a boundary, all is taken. -/
theorem takeBytes_byteLength (before here : List Char) :
    takeBytes (byteLength before) (before ++ here) = before := by
  induction before with
  | nil =>
    cases here with
    | nil => rfl
    | cons c cs =>
      have := c.utf8Size_pos
      rw [byteLength_nil, List.nil_append, takeBytes, if_neg (by omega)]
  | cons c cs ih =>
    rw [byteLength_cons, List.cons_append, takeBytes, if_pos (by omega), Nat.add_sub_cancel_left,
      ih]

/-- What is taken ends at the last boundary that is not behind the offset. -/
theorem isGreatest_takeBytes (source : String) (offset : Nat) :
    IsGreatest {boundary | CharBoundary source boundary ∧ boundary ≤ min offset source.utf8ByteSize}
      (byteLength (takeBytes offset source.toList)) := by
  obtain ⟨rest, hrest⟩ := takeBytes_prefix_self offset source.toList
  constructor
  · have hboundary : CharBoundary source (byteLength (takeBytes offset source.toList)) :=
      charBoundary_iff.2 ⟨rest, _, hrest.symm, rfl⟩
    exact ⟨hboundary, le_min (byteLength_takeBytes_le offset source.toList) hboundary.le⟩
  · rintro boundary ⟨hboundary, hle⟩
    obtain ⟨here, before, hsource, rfl⟩ := charBoundary_iff.1 hboundary
    rw [hsource]
    exact byteLength_mono (prefix_takeBytes (hle.trans (min_le_left _ _)))

/-- Looks for a boundary at an offset and then before it, one byte after the other.  There is no
result if there is none down to the start. -/
def backUp? (source : String) : (offset : Nat) → Option Nat
  | 0 => if CharBoundary source 0 then some 0 else none
  | offset + 1 =>
    if CharBoundary source (offset + 1) then some (offset + 1) else backUp? source offset

/-- **Backing up finds the last boundary**, and there always is one. -/
theorem isGreatest_backUp? (source : String) (offset : Nat) :
    ∃ found, backUp? source offset = some found ∧
      IsGreatest {boundary | CharBoundary source boundary ∧ boundary ≤ offset} found := by
  induction offset with
  | zero =>
    exact ⟨0, if_pos (charBoundary_zero source), ⟨charBoundary_zero source, le_rfl⟩, fun _ h => h.2⟩
  | succ offset ih =>
    rw [backUp?]
    by_cases h : CharBoundary source (offset + 1)
    · exact ⟨offset + 1, if_pos h, ⟨h, le_rfl⟩, fun _ h => h.2⟩
    · rw [if_neg h]
      obtain ⟨found, hfound, ⟨hboundary, hle⟩, hgreatest⟩ := ih
      refine ⟨found, hfound, ⟨hboundary, by omega⟩, fun boundary hb => hgreatest ⟨hb.1, ?_⟩⟩
      have hne : boundary ≠ offset + 1 := fun he => h (he ▸ hb.1)
      have := hb.2
      omega

namespace Location

/-! ## Places -/

/-- Walking through a text from the start of the line, as many characters as the column says and no
line feed, arrives at a byte offset; the line is the one that comes after all line feeds before. -/
def LeadsTo (source : String) (place : Location) (offset : Nat) : Prop :=
  ∃ lines walked rest : List Char, source.toList = lines ++ walked ++ rest ∧
    (lines = [] ∨ ∃ earlier, lines = earlier ++ ['\n']) ∧ '\n' ∉ walked ∧
    (lines ++ walked).count '\n' + 1 = place.line ∧ walked.length + 1 = place.column ∧
    byteLength (lines ++ walked) = offset

/-- Neither number is too large for 32 bits, so counting there never starts over. -/
def Fits (place : Location) : Prop := place.line < UInt32.size ∧ place.column < UInt32.size

/-- Places are ordered by line, and in a line by column. -/
def key (place : Location) : Nat ×ₗ Nat := toLex (place.line, place.column)

/-- What is read is some whole lines, and then a beginning of a line. -/
theorem exists_lines (read : List Char) : ∃ lines walked, read = lines ++ walked ∧
    (lines = [] ∨ ∃ earlier, lines = earlier ++ ['\n']) ∧ '\n' ∉ walked ∧
    walked.length + 1 = (after read).column := by
  refine ⟨(read.reverse.dropWhile (· ≠ '\n')).reverse, (read.reverse.takeWhile (· ≠ '\n')).reverse,
    ?_, ?_, ?_, ?_⟩
  · rw [← List.reverse_append, List.takeWhile_append_dropWhile, List.reverse_reverse]
  · cases h : read.reverse.dropWhile (· ≠ '\n') with
    | nil => exact .inl rfl
    | cons c cs =>
      have hc := List.head?_dropWhile_not (· ≠ '\n') read.reverse
      rw [h] at hc
      have hc : c = '\n' := by simpa using hc
      exact .inr ⟨cs.reverse, by rw [List.reverse_cons, hc]⟩
  · intro hmem
    have := List.all_eq_true.1 List.all_takeWhile _ (List.mem_reverse.1 hmem)
    simp at this
  · rw [List.length_reverse, after]

theorem ofOffset_of_at {source : String} {before here : List Char}
    (h : source.toList = before ++ here) : ofOffset source (byteLength before) = after before := by
  rw [ofOffset, h, takeBytes_byteLength]

/-- The line and the column of a boundary lead there. -/
theorem leadsTo_ofOffset {source : String} {offset : Nat} (h : CharBoundary source offset) :
    (ofOffset source offset).LeadsTo source offset := by
  obtain ⟨here, before, hsource, rfl⟩ := charBoundary_iff.1 h
  obtain ⟨lines, walked, rfl, hlines, hwalked, hcolumn⟩ := exists_lines before
  rw [ofOffset_of_at hsource]
  exact ⟨lines, walked, here, hsource, hlines, hwalked, rfl, hcolumn, rfl⟩

/-- An offset inside a character, or past the end, has the place of the last boundary before it. -/
theorem ofOffset_eq_of_isGreatest {source : String} {offset boundary : Nat}
    (h : IsGreatest {b | CharBoundary source b ∧ b ≤ min offset source.utf8ByteSize} boundary) :
    ofOffset source offset = ofOffset source boundary := by
  obtain rfl := h.unique (isGreatest_takeBytes source offset)
  obtain ⟨rest, hrest⟩ := takeBytes_prefix_self offset source.toList
  rw [ofOffset_of_at hrest.symm, ofOffset]

theorem fits_ofOffset {source : String} (h : source.length < 2 ^ 32 - 1) (offset : Nat) :
    (ofOffset source offset).Fits := by
  have hread : (takeBytes offset source.toList).length ≤ source.length := by
    rw [← String.length_toList]
    exact (takeBytes_prefix_self offset source.toList).length_le
  generalize hgen : takeBytes offset source.toList = read at hread
  have hline : read.count '\n' ≤ read.length := List.count_le_length
  have hcolumn : (read.reverse.takeWhile (· ≠ '\n')).length ≤ read.length := by
    have hprefix := List.takeWhile_prefix (l := read.reverse) (· ≠ '\n')
    exact hprefix.length_le.trans_eq List.length_reverse
  rw [Fits, ofOffset, hgen, after, UInt32.size]
  dsimp only
  omega

/-! ## Order -/

/-- Reading on leads to a later place. -/
theorem key_lt_key_append (before : List Char) {more : List Char} (h : more ≠ []) :
    (after before).key < (after (before ++ more)).key := by
  rw [key, key, Prod.Lex.toLex_lt_toLex]
  by_cases hline : '\n' ∈ more
  · left
    have := List.count_pos_iff.2 hline
    simp only [after, List.count_append]
    omega
  · right
    have hwalked : ∀ c ∈ more.reverse, decide (c ≠ '\n') = true := by
      intro c hc
      rw [decide_eq_true_iff]
      rintro rfl
      exact hline (List.mem_reverse.1 hc)
    have := List.length_pos_iff.2 h
    constructor
    · simp only [after, List.count_append, List.count_eq_zero.2 hline, Nat.add_zero]
    · simp only [after, List.reverse_append, List.takeWhile_append_of_pos hwalked,
        List.length_append, List.length_reverse]
      omega

/-- The coordinates of boundaries are ordered as the boundaries are. -/
theorem strictMonoOn_ofOffset (source : String) :
    StrictMonoOn (fun offset => (ofOffset source offset).key)
      {offset | CharBoundary source offset} := by
  intro offset h offset' h' hlt
  obtain ⟨here, before, hsource, rfl⟩ := charBoundary_iff.1 h
  obtain ⟨here', before', hsource', rfl⟩ := charBoundary_iff.1 h'
  have hprefix : before <+: before' := by
    rcases List.prefix_or_prefix_of_prefix ⟨here, hsource.symm⟩ ⟨here', hsource'.symm⟩ with hp | hp
    · exact hp
    · have := byteLength_mono hp
      omega
  obtain ⟨more, rfl⟩ := hprefix
  dsimp only
  rw [ofOffset_of_at hsource, ofOffset_of_at hsource']
  refine key_lt_key_append before ?_
  rintro rfl
  simp at hlt

theorem injOn_ofOffset (source : String) :
    Set.InjOn (ofOffset source) {offset | CharBoundary source offset} := by
  intro offset h offset' h' heq
  exact (strictMonoOn_ofOffset source).injOn h h' (congrArg key heq)

end Location

/-! ## Diagnostics -/

/-- The place that a diagnostic gives. -/
def Diagnostic.location (diagnostic : Diagnostic) : Location :=
  ⟨diagnostic.line, diagnostic.column⟩

theorem CompileError.location_diagnostic (error : CompileError) (source file : String) :
    (error.diagnostic source file).location = error.location source := rfl

/-- An error about the structure of a document carries an offset of the document. -/
theorem exists_charBoundary_of_compileSource {source : String} {context : Context}
    {error : CompileError} (h : (compileSource source context).outcome = .error error)
    (hs : error.IsStructural) :
    ∃ offset, error.offset? = some offset ∧ CharBoundary source offset ∧
      error.location source = .ofOffset source offset := by
  have hblames : error.Blames source := by
    rw [compileSource] at h
    rcases Traced.error_of_bind h with h | ⟨component, -, h⟩
    · exact blames_readComponent h
    · obtain ⟨e, rfl⟩ := exists_transform_of_compile h
      exact absurd hs id
  cases error with
  | duplicateTag name offset => exact ⟨offset, rfl, hblames.isValid hs rfl, rfl⟩
  | unrecognizedTag name offset => exact ⟨offset, rfl, hblames.isValid hs rfl, rfl⟩
  | region tag problem offset => exact ⟨offset, rfl, hblames.isValid hs rfl, rfl⟩
  | transform error => exact absurd hs id

open Location

/-- **Lines and columns are coordinates of a text.**  Where they can be counted with 32 bits, an
offset has those of the last boundary up to it, which backing up finds; those of a boundary lead to
it, and are ordered as the boundaries are, so that no two boundaries share them.  The ones in the
diagnostic of an error about the structure of a document are those of the offset that stands there
too, if only that offset fits into 32 bits. -/
theorem ofOffset_faithful (source : String) :
    (source.length < 2 ^ 32 - 1 →
      (∀ offset, (ofOffset source offset).Fits ∧
        ∃ boundary, backUp? source (min offset source.utf8ByteSize) = some boundary ∧
          IsGreatest {b | CharBoundary source b ∧ b ≤ min offset source.utf8ByteSize} boundary ∧
          ofOffset source offset = ofOffset source boundary) ∧
      (∀ offset, CharBoundary source offset → (ofOffset source offset).LeadsTo source offset) ∧
      StrictMonoOn (fun offset => (ofOffset source offset).key)
        {offset | CharBoundary source offset} ∧
      Set.InjOn (ofOffset source) {offset | CharBoundary source offset}) ∧
    (source.utf8ByteSize < 2 ^ 32 →
      ∀ context error file, (compileSource source context).outcome = .error error →
        error.IsStructural →
        ∃ offset : UInt32, (error.diagnostic source file).offset = some offset ∧
          error.offset? = some offset.toNat ∧
          (error.diagnostic source file).location = ofOffset source offset.toNat) := by
  constructor
  · intro hlength
    refine ⟨fun offset => ⟨fits_ofOffset hlength offset, ?_⟩, fun offset => leadsTo_ofOffset,
      strictMonoOn_ofOffset source, injOn_ofOffset source⟩
    obtain ⟨boundary, hfound, hgreatest⟩ :=
      isGreatest_backUp? source (min offset source.utf8ByteSize)
    exact ⟨boundary, hfound, hgreatest, ofOffset_eq_of_isGreatest hgreatest⟩
  · intro hsize context error file h hs
    obtain ⟨offset, hoffset, hboundary, hlocation⟩ := exists_charBoundary_of_compileSource h hs
    -- the offset survives as a 32-bit number
    have hword : (UInt32.ofNat offset).toNat = offset := by
      have := hboundary.le
      rw [UInt32.toNat_ofNat', Nat.mod_eq_of_lt (by omega)]
    refine ⟨UInt32.ofNat offset, ?_, ?_, ?_⟩
    · rw [CompileError.diagnostic, hoffset, Option.map_some]
    · rw [hword, hoffset]
    · rw [hword, CompileError.location_diagnostic, hlocation]

/-- A document with a character of two bytes on its second line, where nothing but a tag may
stand. -/
theorem ofOffset_faithful_strayText :
    let source := "\n é"
    source.length < 2 ^ 32 - 1 ∧ source.utf8ByteSize < 2 ^ 32 ∧
      CharBoundary source 2 ∧ ¬ CharBoundary source 3 ∧
      ofOffset source 3 = ofOffset source 2 ∧ (ofOffset source 2).LeadsTo source 2 ∧
      ∃ context error, (compileSource source context).outcome = .error error ∧
        error.IsStructural ∧
        ∃ offset : UInt32, (error.diagnostic source "a.vue").offset = some offset ∧
          (error.diagnostic source "a.vue").location = ofOffset source offset.toNat := by
  intro source
  have hlength : source.length < 2 ^ 32 - 1 := by decide
  have hsize : source.utf8ByteSize < 2 ^ 32 := by decide
  have hboundary : CharBoundary source 2 := by decide
  have hinside : ¬ CharBoundary source 3 := by decide
  let context : Context :=
    ⟨⟨"a.vue", none, "1"⟩, {}, fun source _ => .ok ⟨source, none⟩, fun _ css _ => .ok ⟨css, none⟩⟩
  have htext : source.toList = ['\n', ' ', 'é'] := by decide
  have herror : (compileSource source context).outcome = .error (.region none .strayText 2) := by
    rw [compileSource, readComponent, scan, htext, scanFrom]
    rfl
  obtain ⟨hplaces, hdiagnostics⟩ := ofOffset_faithful source
  obtain ⟨hoffsets, hleads, -, -⟩ := hplaces hlength
  have hplace : ofOffset source 3 = ofOffset source 2 := by
    obtain ⟨-, boundary, hfound, -, heq⟩ := hoffsets 3
    have htwo : backUp? source (min 3 source.utf8ByteSize) = some 2 := by decide
    obtain rfl := Option.some.inj (htwo.symm.trans hfound)
    exact heq
  obtain ⟨offset, hoffset, -, hlocation⟩ := hdiagnostics hsize context _ "a.vue" herror trivial
  exact ⟨hlength, hsize, hboundary, hinside, hplace, hleads 2 hboundary, context, _, herror,
    trivial, offset, hoffset, hlocation⟩

end ComponentFile
