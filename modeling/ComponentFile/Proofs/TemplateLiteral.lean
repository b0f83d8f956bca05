import ComponentFile.Module
import ComponentFile.Proofs.Search
import ComponentFile.Script.Token
import ComponentFile.Template
import Mathlib

/-!
# The template as a string literal

A module holds its template between single quotes.  This module reads the literal with the lexer of
scripts and says exactly when the string that comes out is the template that went in.

**What is meant.**  `Template.tagged` is the template with the hash in its opening tags, and
`Template.flat` drops the line breaks from it: that is the value the literal should have.

**What is read.**

* `readString_escape` — without backslashes the literal is read as it is meant, and ends at its
  quote.
* `length_le_of_readString` — an escape takes two characters at least and gives one at most.  So the
  more backslashes and quotes a string is written with, the shorter it is.
* **`scope_reads_back_iff`** — the two together: the literal is read back exactly if no backslash is
  in it but those in front of quotes.  One that was in the template is not escaped, and
  `scope_not_reads_back` is a template that swallows the closing quote.
-/

namespace ComponentFile

namespace Template

/-! ## The value of a literal -/

/-- A template with the hash as an attribute of every opening tag. -/
def tagged (template hash : String) : List Char :=
  (cut template.toList).join (' ' :: hash.toList)

/-- A text without its line breaks. -/
def flat (text : List Char) : List Char := text.filter fun c => c != '\n' && c != '\r'

/-- No backslash gets into the literal, neither with the template nor with a hash that is put in. -/
def BackslashFree (template hash : String) : Prop :=
  '\\' ∉ template.toList ∧ ('\\' ∉ hash.toList ∨ (cut template.toList).others = [])

/-- The pieces of a template are all of it. -/
theorem flatten_cut (text : List Char) :
    (cut text).first ++ (cut text).others.flatten = text := by
  fun_induction cut text with
  | case1 => simp
  | case2 text before tag after h rest ih =>
    obtain ⟨here, rfl, hr⟩ := read_of_findFirst? h
    simp only [rest, Pieces.prepend, List.flatten_cons, List.append_assoc, ih]
    rw [(TemplateTag.eq_of_read hr).1]
    simp

theorem Pieces.mem_join {pieces : Pieces} {insertion : List Char} {c : Char} :
    c ∈ pieces.join insertion ↔
      c ∈ pieces.first ++ pieces.others.flatten ∨ (c ∈ insertion ∧ pieces.others ≠ []) := by
  simp only [Pieces.join, List.mem_append, List.mem_flatMap, List.mem_flatten]
  constructor
  · rintro (h | ⟨piece, hp, h | h⟩)
    · exact Or.inl (Or.inl h)
    · exact Or.inr ⟨h, List.ne_nil_of_mem hp⟩
    · exact Or.inl (Or.inr ⟨piece, hp, h⟩)
  · rintro ((h | ⟨piece, hp, h⟩) | ⟨h, hne⟩)
    · exact Or.inl h
    · exact Or.inr ⟨piece, hp, Or.inr h⟩
    · obtain ⟨piece, hp⟩ := List.exists_mem_of_ne_nil _ hne
      exact Or.inr ⟨piece, hp, Or.inl h⟩

theorem notMem_tagged_iff {template hash : String} :
    '\\' ∉ tagged template hash ↔ BackslashFree template hash := by
  rw [tagged, Pieces.mem_join, flatten_cut, BackslashFree]
  simp only [List.mem_cons, not_or, not_and_or, not_not]
  simp

/-! ## How a character is written -/

theorem escape_quote (cs : List Char) : escape ('\'' :: cs) = '\\' :: '\'' :: escape cs := rfl

theorem flat_quote (cs : List Char) : flat ('\'' :: cs) = '\'' :: flat cs := rfl

theorem escape_lineBreak {c : Char} (h : c = '\n' ∨ c = '\r') (cs : List Char) :
    escape (c :: cs) = escape cs := by
  rcases h with rfl | rfl
  · rfl
  · rfl

theorem flat_lineBreak {c : Char} (h : c = '\n' ∨ c = '\r') (cs : List Char) :
    flat (c :: cs) = flat cs := by
  rcases h with rfl | rfl
  · rfl
  · rfl

theorem escape_plain {c : Char} (hq : c ≠ '\'') (hb : ¬ (c = '\n' ∨ c = '\r')) (cs : List Char) :
    escape (c :: cs) = c :: escape cs := by
  simp [escape, escapeChar, hq, hb]

theorem flat_plain {c : Char} (hb : ¬ (c = '\n' ∨ c = '\r')) (cs : List Char) :
    flat (c :: cs) = c :: flat cs := by
  rw [not_or] at hb
  simp [flat, hb]

/-- Backslashes and quotes. -/
def isMark (c : Char) : Bool := c == '\\' || c == '\''

/-- The marks in what is written: a quote and the backslash in front of it make up for their length,
so that only the backslashes of the text itself are left over. -/
theorem countP_isMark_escape (text : List Char) :
    2 * (flat text).length + (escape text).countP isMark =
      2 * (escape text).length + text.count '\\' := by
  induction text with
  | nil => rfl
  | cons c cs ih =>
    by_cases hq : c = '\''
    · subst hq
      rw [escape_quote, flat_quote]
      simp [isMark]
      omega
    · by_cases hb : c = '\n' ∨ c = '\r'
      · have hc : c ≠ '\\' := by
          rintro rfl
          simp at hb
        rw [escape_lineBreak hb, flat_lineBreak hb, List.count_cons_of_ne hc]
        exact ih
      · have hmark : isMark c = (c == '\\') := by simp [isMark, hq]
        rw [escape_plain hq hb, flat_plain hb, List.countP_cons, List.count_cons, hmark,
          List.length_cons, List.length_cons]
        omega

end Template

namespace Script

/-! ## Reading what is meant -/

theorem readString_quote (limit : Nat) (behind : List Char) :
    readString '\'' (limit + 1) ('\'' :: behind) = ⟨[], none, some behind⟩ := by
  simp [readString]

theorem readString_escapedQuote (limit : Nat) (rest : List Char) :
    readString '\'' (limit + 1) ('\\' :: '\'' :: rest) =
      { readString '\'' limit rest with
        value := .char '\'' :: (readString '\'' limit rest).value } := by
  simp [readString, readEscape, isOctalDigit, isLineEnd]

theorem readString_plain {c : Char} (hc : c ∉ ['\\', '\'', '\n', '\r']) (limit : Nat)
    (rest : List Char) :
    readString '\'' (limit + 1) (c :: rest) =
      { readString '\'' limit rest with
        value := .char c :: (readString '\'' limit rest).value } := by
  simp only [List.mem_cons, List.not_mem_nil, or_false, not_or] at hc
  simp [readString, hc]

/-- Text without backslashes is read as it is meant, up to the quote behind it. -/
theorem readString_escape {text : List Char} (h : '\\' ∉ text) {limit : Nat}
    (hlimit : (Template.escape text).length < limit) (behind : List Char) :
    readString '\'' limit (Template.escape text ++ '\'' :: behind) =
      ⟨(Template.flat text).map .char, none, some behind⟩ := by
  induction text generalizing limit with
  | nil =>
    obtain ⟨limit, rfl⟩ := Nat.exists_eq_succ_of_ne_zero (Nat.ne_of_gt hlimit)
    exact readString_quote limit behind
  | cons c cs ih =>
    rw [List.mem_cons, not_or] at h
    obtain ⟨hc, hcs⟩ := h
    obtain ⟨limit, rfl⟩ := Nat.exists_eq_succ_of_ne_zero (Nat.ne_zero_of_lt hlimit)
    by_cases hq : c = '\''
    · subst hq
      rw [Template.escape_quote, List.length_cons, List.length_cons] at hlimit
      rw [Template.escape_quote, Template.flat_quote, List.cons_append, List.cons_append,
        readString_escapedQuote, ih hcs (by omega)]
      rfl
    · by_cases hb : c = '\n' ∨ c = '\r'
      · rw [Template.escape_lineBreak hb] at hlimit
        rw [Template.escape_lineBreak hb, Template.flat_lineBreak hb]
        exact ih hcs hlimit
      · rw [Template.escape_plain hq hb, List.length_cons] at hlimit
        have hplain : c ∉ ['\\', '\'', '\n', '\r'] := by
          rw [not_or] at hb
          simp [hq, hb, Ne.symm hc]
        rw [Template.escape_plain hq hb, Template.flat_plain hb, List.cons_append,
          readString_plain hplain, ih hcs (by omega)]
        rfl

/-! ## Reading anything -/

theorem readUnit_suffix (text : List Char) : (readUnit text).2 <:+ text := by
  unfold readUnit
  dsimp only
  split
  · exact List.suffix_rfl
  · have hdrop : text.drop 4 <:+ text := List.drop_suffix 4 text
    split
    · next a b c d others heq =>
      rw [heq] at hdrop
      split
      · split
        · refine List.IsSuffix.trans ?_ hdrop
          exact ⟨['\\', 'u', a, b, c, d], rfl⟩
        · exact List.drop_suffix 4 text
      · exact List.drop_suffix 4 text
    · exact hdrop

/-- A number in base eight takes its first digit at least. -/
theorem readOctal_suffix {c : Char} (hc : isOctalDigit c = true) (cs : List Char) :
    (readOctal (c :: cs)).2 <:+ cs := by
  obtain ⟨n, hn⟩ : ∃ n, (if (c :: cs).head?.any fun c => c ≤ '3' then 3 else 2) = n + 1 := by
    split
    · exact ⟨2, rfl⟩
    · exact ⟨1, rfl⟩
  have hdigits : (((c :: cs).take (n + 1)).takeWhile isOctalDigit).length =
      ((cs.take n).takeWhile isOctalDigit).length + 1 := by
    simp [hc]
  simp only [readOctal, hn, hdigits, List.drop_succ_cons]
  exact List.drop_suffix _ cs

/-- An escape that means something takes a character at least. -/
theorem readEscape_suffix {text rest : List Char} {letter : Option Letter}
    (h : readEscape text = (some letter, rest)) : ∃ c cs, text = c :: cs ∧ rest <:+ cs := by
  unfold readEscape at h
  dsimp only at h
  split at h
  case h_7 afterMark =>
    split at h
    · cases h
      exact ⟨'x', afterMark, rfl, List.drop_suffix 2 afterMark⟩
    · cases h
  case h_8 afterMark =>
    split at h
    · next n d others hn hd =>
      obtain ⟨-, rfl⟩ := Prod.mk.inj h
      refine ⟨'u', '\x7b' :: afterMark, rfl, ?_⟩
      have hsuffix : d :: others <:+ afterMark := hd ▸ List.dropWhile_suffix _
      exact ((List.suffix_cons d others).trans hsuffix).trans (List.suffix_cons _ afterMark)
    · cases h
  case h_9 afterMark _ =>
    obtain ⟨-, rfl⟩ := Prod.mk.inj h
    exact ⟨'u', afterMark, rfl, readUnit_suffix afterMark⟩
  case h_10 =>
    cases h
    exact ⟨'\r', '\n' :: _, rfl, List.suffix_cons '\n' _⟩
  case h_11 c cs _ _ _ _ _ _ _ _ _ _ =>
    split at h
    · next hc =>
      obtain ⟨-, rfl⟩ := Prod.mk.inj h
      exact ⟨c, cs, rfl, readOctal_suffix hc cs⟩
    · split at h
      · cases h
        exact ⟨c, _, rfl, List.suffix_rfl⟩
      · cases h
        exact ⟨c, _, rfl, List.suffix_rfl⟩
  case h_12 => cases h
  all_goals
    cases h
    exact ⟨_, _, rfl, List.suffix_rfl⟩

/-- **A string is shorter than it is written.**  Every escape gives one letter at most for its
backslash and what follows, so whatever is read, backslashes and quotes count against its length. -/
theorem length_le_of_readString {limit : Nat} {text behind : List Char}
    (hwrong : (readString '\'' limit text).wrongEscape = none)
    (hrest : (readString '\'' limit text).rest = some behind) :
    ∃ written, text = written ++ '\'' :: behind ∧
      2 * (readString '\'' limit text).value.length + written.countP Template.isMark ≤
        2 * written.length := by
  fun_induction readString '\'' limit text with
  | case1 => cases hrest
  | case2 => cases hrest
  | case3 limit taken letter rest he reading ih =>
    obtain ⟨written, rfl, hle⟩ := ih hwrong hrest
    obtain ⟨c, cs, rfl, passed, rfl⟩ := readEscape_suffix he
    refine ⟨'\\' :: c :: (passed ++ written), by simp, ?_⟩
    have hletter : letter.toList.length ≤ 1 := by cases letter <;> simp
    have hmarks : (c :: passed).countP Template.isMark ≤ (c :: passed).length :=
      List.countP_le_length
    rw [List.countP_cons_of_pos (show Template.isMark '\\' = true from rfl), ← List.cons_append,
      List.countP_append]
    simp only [List.length_cons, List.length_append, reading] at hle hmarks ⊢
    omega
  | case4 => cases hwrong
  | case5 limit c rest hc hquote =>
    obtain rfl : c = '\'' := by simpa using hquote
    cases hrest
    exact ⟨[], rfl, by simp⟩
  | case6 => cases hrest
  | case7 limit c rest hc hquote hline reading ih =>
    obtain ⟨written, rfl, hle⟩ := ih hwrong hrest
    have hmark : ¬ Template.isMark c = true := by
      simpa [Template.isMark, hquote] using hc
    refine ⟨c :: written, rfl, ?_⟩
    rw [List.countP_cons_of_neg hmark]
    simp only [List.length_cons, reading] at hle ⊢
    omega

/-- A quote begins the string with the given inside exactly if that is read up to its end. -/
theorem readToken_quote_iff {place : List Char → Nat} {inside : String} {value : List Letter}
    {behind : List Char} :
    readToken place '\'' (inside.toList ++ '\'' :: behind) = (.string value inside, behind) ↔
      readString '\'' (inside.toList.length + behind.length + 2) (inside.toList ++ '\'' :: behind) =
        ⟨value, none, some behind⟩ := by
  have hlimit : (inside.toList ++ '\'' :: behind).length + 1 =
      inside.toList.length + behind.length + 2 := by
    simp
    omega
  have hraw : (inside.toList ++ '\'' :: behind).take
      ((inside.toList ++ '\'' :: behind).length - behind.length - 1) = inside.toList := by
    have hlength : (inside.toList ++ '\'' :: behind).length - behind.length - 1 =
        inside.toList.length := by
      omega
    rw [hlength, List.take_left]
  have hstart : (Text.isVariableStart '\'' || '\'' == '\\') = false := by decide
  have hdigit : ('\''.isDigit || '\'' == '.' &&
      Option.any Char.isDigit (inside.toList ++ '\'' :: behind).head?) = false := by
    rfl
  have hquote : ('\'' == '"' || '\'' == '\'') = true := by decide
  have htick : ¬ ('\'' == '\x60') = true := by decide
  simp only [readToken, hstart, hlimit, hdigit, hquote, if_neg htick, if_true,
    Bool.false_eq_true, if_false]
  match readString '\'' _ (inside.toList ++ '\'' :: behind) with
  | ⟨letters, some here, rest⟩ => simp
  | ⟨letters, none, none⟩ => simp
  | ⟨letters, none, some after⟩ =>
    constructor
    · intro h
      obtain ⟨htoken, rfl⟩ := Prod.mk.inj h
      obtain ⟨rfl, -⟩ := Token.string.inj htoken
      rfl
    · rintro ⟨⟩
      simp only [hraw, String.ofList_toList]

end Script

/-! ## Reading a module -/

/-- Where the literal stands in a module. -/
theorem moduleText_eq (code : Option String) (literal : String) :
    moduleText code (some literal) =
      moduleHeader ++ (code.map scriptPart).getD "" ++ "__vue_template__ = " ++ "'" ++ literal ++
        "'" ++ (";" ++ moduleTail) := by
  have hopen : "__vue_template__ = '" = "__vue_template__ = " ++ "'" := by simp
  have hclose : "';" = "'" ++ ";" := by simp
  have hparts (header script tail : String) :
      header ++ script ++ ("__vue_template__ = '" ++ literal ++ "';") ++ tail =
        header ++ script ++ "__vue_template__ = " ++ "'" ++ literal ++ "'" ++ (";" ++ tail) := by
    rw [hopen, hclose]
    simp only [String.append_assoc, -String.reduceAppend]
  exact hparts moduleHeader _ moduleTail

/-- **When the literal means the template.**  A module holds the literal of its template between
single quotes, and read as a script it is one string that ends at the closing quote, of the tagged
template without its line breaks — exactly if no backslash got into it. -/
theorem scope_reads_back_iff (template hash : String) :
    (∀ code, ∃ before, moduleText code (some (Template.scope template hash)) =
      before ++ "'" ++ Template.scope template hash ++ "'" ++ (";" ++ moduleTail)) ∧
    ∀ place behind,
      Script.readToken place '\'' ((Template.scope template hash).toList ++ '\'' :: behind) =
          (.string ((Template.flat (Template.tagged template hash)).map .char)
            (Template.scope template hash), behind) ↔
        Template.BackslashFree template hash := by
  refine ⟨fun code => ?_, fun place behind => ?_⟩
  · exact ⟨_, moduleText_eq code _⟩
  · rw [Script.readToken_quote_iff, ← Template.notMem_tagged_iff]
    have hscope : (Template.scope template hash).toList =
        Template.escape (Template.tagged template hash) := String.toList_ofList
    rw [hscope]
    constructor
    · intro h
      obtain ⟨written, hwritten, hle⟩ := Script.length_le_of_readString
        (by rw [h]) (congrArg Script.StringReading.rest h)
      obtain rfl := List.append_cancel_right hwritten
      have hmarks := Template.countP_isMark_escape (Template.tagged template hash)
      rw [h, List.length_map] at hle
      exact List.count_eq_zero.1 (by omega)
    · intro h
      exact Script.readString_escape h (by omega) behind

theorem Template.cut_of_notMem {text : List Char} (h : '<' ∉ text) : cut text = ⟨text, []⟩ := by
  have hnone : findFirst? TemplateTag.read text = none := by
    refine findFirst?_eq_none_iff.2 fun here hs => ?_
    unfold TemplateTag.read
    split
    · exact absurd (hs.mem (by simp)) h
    · rfl
  rw [cut]
  split
  · rfl
  · next hsome =>
    rw [hnone] at hsome
    cases hsome

/-- A template that is a backslash takes the closing quote for its own, and its string goes on. -/
theorem scope_not_reads_back :
    Script.readToken (fun _ => 0) '\'' ((Template.scope "\\" "__v1").toList ++ ['\'', ';']) ≠
      (.string ((Template.flat (Template.tagged "\\" "__v1")).map .char)
        (Template.scope "\\" "__v1"), [';']) := by
  have hcut : Template.cut "\\".toList = ⟨['\\'], []⟩ := Template.cut_of_notMem (by decide)
  rw [Template.scope, Template.tagged, hcut]
  decide +kernel

end ComponentFile
