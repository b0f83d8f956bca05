import ComponentFile.Module
import ComponentFile.Proofs.TemplateInsertion
import Mathlib

/-!
# The parts of a module

A module is written without the lengths of its parts, and the code in it may hold anything, also
what looks like the end of the code or like a template.  The two parts can be told apart all the
same.

**Reading.**  `readModule?` takes the fixed start and end of a module away, and looks whether what
is left begins with a script.  If so, the last line break in it belongs to the end of the script,
since the literal of a template has none (`Template.notMem_escape_of_lineBreak`): in front of it is
the code, whatever that holds, and behind it at most one literal.

**`readModule?_assembleModule`**: of every module that is assembled the parts can be read, so
modules with different parts are different.  `moduleText_lineBreak` shows what the line break is
needed for.
-/

namespace ComponentFile

/-! ## Reading -/

/-- The text before and the text after the last occurrence of a character. -/
def splitAtLast? (c : Char) (text : List Char) : Option (List Char × List Char) :=
  (splitAtFirst? [c] text.reverse).map fun (after, before) => (before.reverse, after.reverse)

theorem splitAtLast?_append {c : Char} {after : List Char} (h : c ∉ after) (before : List Char) :
    splitAtLast? c (before ++ c :: after) = some (before, after) := by
  have hreverse : (before ++ c :: after).reverse = after.reverse ++ c :: before.reverse := by simp
  rw [splitAtLast?, hreverse, splitAtFirst?_singleton (by simpa using h)]
  simp

/-- Reads the part of a module that holds the template, which may be missing. -/
def readTemplatePart? (text : List Char) : Option (Option String) :=
  if text = [] then some none
  else do
    let inside ← afterLiteral? "__vue_template__ = '".toList text
    let literal ← inside.dropSuffix? "';".toList
    return some (String.ofList literal)

/-- Reads the two parts of a module, each of which may be missing. -/
def readParts? (text : List Char) : Option (Option String × Option String) :=
  match afterLiteral? "__vue_script__ = (function()\x7b".toList text with
  | none => (readTemplatePart? text).map fun literal => (none, literal)
  | some inside => do
    let (code, behind) ← splitAtLast? '\n' inside
    let template ← afterLiteral? "\x7d)();".toList behind
    let literal ← readTemplatePart? template
    return (some (String.ofList code), literal)

/-- Reads the compiled code and the template literal that a module was made of. -/
def readModule? (text : String) : Option (Option String × Option String) := do
  let behind ← afterLiteral? moduleHeader.toList text.toList
  let parts ← behind.dropSuffix? moduleTail.toList
  readParts? parts

/-! ## Reading what was written -/

theorem afterLiteral?_append (literal rest : List Char) :
    afterLiteral? literal (literal ++ rest) = some rest :=
  afterLiteral?_eq_some_iff.2 rfl

theorem dropSuffix?_append (text literal : List Char) :
    (text ++ literal).dropSuffix? literal = some text :=
  List.dropSuffix?_eq_some_iff.2 ⟨literal, rfl, beq_self_eq_true literal⟩

/-- For any three texts: rewriting next to a fixed one would first take that apart. -/
theorem toList_between (front inside behind : String) :
    (front ++ inside ++ behind).toList = front.toList ++ (inside.toList ++ behind.toList) := by
  simp only [String.toList_append, List.append_assoc]

/-- The characters of the part that holds the template. -/
def templateChars (literal : Option String) : List Char :=
  ((literal.map templatePart).getD "").toList

theorem templateChars_some (literal : String) :
    templateChars (some literal) =
      "__vue_template__ = '".toList ++ (literal.toList ++ "';".toList) :=
  toList_between _ literal _

theorem readTemplatePart?_templateChars (literal : Option String) :
    readTemplatePart? (templateChars literal) = some literal := by
  cases literal with
  | none => rfl
  | some literal =>
    have hne : templateChars (some literal) ≠ [] := by
      rw [templateChars_some]
      simp
    rw [readTemplatePart?, if_neg hne, templateChars_some, afterLiteral?_append]
    simp only [Option.bind_eq_bind, Option.bind_some, dropSuffix?_append, String.ofList_toList,
      Option.pure_def]

theorem lineBreak_notMem_templateChars {literal : Option String}
    (h : ∀ text ∈ literal, '\n' ∉ text.toList) : '\n' ∉ templateChars literal := by
  cases literal with
  | none => exact List.not_mem_nil
  | some literal =>
    have hliteral : '\n' ∉ literal.toList := h literal rfl
    rw [templateChars_some]
    simp [hliteral]

theorem readParts?_templateChars (literal : Option String) :
    readParts? (templateChars literal) = some (none, literal) := by
  -- the names of the two holders differ behind `__vue_`
  have hscript : afterLiteral? "__vue_script__ = (function()\x7b".toList (templateChars literal) =
      none := by
    cases literal with
    | none => rfl
    | some literal =>
      rw [templateChars_some]
      rfl
  rw [readParts?, hscript]
  simp only [readTemplatePart?_templateChars, Option.map_some]

theorem readParts?_scriptPart {literal : Option String}
    (h : ∀ text ∈ literal, '\n' ∉ text.toList) (code : String) :
    readParts? ((scriptPart code).toList ++ templateChars literal) = some (some code, literal) := by
  -- so the line break that the script part writes is the last one
  have hbehind : '\n' ∉ "\x7d)();".toList ++ templateChars literal := by
    rw [List.mem_append, not_or]
    exact ⟨by decide, lineBreak_notMem_templateChars h⟩
  have hchars : (scriptPart code).toList ++ templateChars literal =
      "__vue_script__ = (function()\x7b".toList ++
        (code.toList ++ '\n' :: ("\x7d)();".toList ++ templateChars literal)) := by
    have hpart : (scriptPart code).toList = "__vue_script__ = (function()\x7b".toList ++
        (code.toList ++ "\n\x7d)();".toList) := toList_between _ code _
    have hclose : "\n\x7d)();".toList = '\n' :: "\x7d)();".toList := by simp
    rw [hpart, hclose, List.append_assoc, List.append_assoc, List.cons_append]
  rw [readParts?, hchars, afterLiteral?_append]
  simp only [splitAtLast?_append hbehind, afterLiteral?_append, readTemplatePart?_templateChars,
    Option.bind_eq_bind, Option.bind_some, String.ofList_toList, Option.pure_def]

/-- **A module can be read** if there is no line break in the literal of its template. -/
theorem readModule?_moduleText {literal : Option String}
    (h : ∀ text ∈ literal, '\n' ∉ text.toList) (code : Option String) :
    readModule? (moduleText code literal) = some (code, literal) := by
  have hchars : (moduleText code literal).toList = moduleHeader.toList ++
      (((code.map scriptPart).getD "").toList ++ templateChars literal ++ moduleTail.toList) := by
    simp only [moduleText, String.toList_append, templateChars, List.append_assoc]
  rw [readModule?, hchars, afterLiteral?_append]
  simp only [Option.bind_eq_bind, Option.bind_some, dropSuffix?_append]
  cases code with
  | none => exact readParts?_templateChars literal
  | some code => exact readParts?_scriptPart h code

/-! ## Modules of components -/

/-- The literal that is made of a template and a hash. -/
def literalOf (template : Option (String × String)) : Option String :=
  template.map fun (text, hash) => Template.scope text hash

theorem lineBreak_notMem_literalOf {template : Option (String × String)} {text : String}
    (h : text ∈ literalOf template) : '\n' ∉ text.toList := by
  obtain ⟨⟨template, hash⟩, -, rfl⟩ := Option.map_eq_some_iff.1 h
  show '\n' ∉ (Template.scope template hash).toList
  rw [Template.scope, String.toList_ofList]
  exact Template.notMem_escape_of_lineBreak (.inl rfl) _

/-- What the script engine makes of a script, if there is one. -/
def compiledCode (script : Option Tag) (caller : ScriptSettings) (metadata : Metadata)
    (engine : ScriptEngine) : Except CompileError (Option String) :=
  match script with
  | none => .ok none
  | some tag =>
    (Traced.lift (engine (rewriteDefaultExport tag.contents)
      (scriptSettings caller metadata tag))).map fun output => some output.code

/-- What is made of an assembled module is made of the text of the code and the literal.  There is
none if the engine fails. -/
theorem map_assembleModule {α : Type} (f : String → α) (script : Option Tag)
    (literal : Option String) (caller : ScriptSettings) (metadata : Metadata)
    (engine : ScriptEngine) :
    (assembleModule script literal caller metadata engine).outcome.map
        (fun output => f output.code) =
      (compiledCode script caller metadata engine).map fun code => f (moduleText code literal) := by
  cases script with
  | none => rfl
  | some tag =>
    simp only [assembleModule, compiledCode, Traced.callScript]
    cases engine (rewriteDefaultExport tag.contents) (scriptSettings caller metadata tag) with
    | error error => rfl
    | ok output => rfl

/-- **A module loses nothing.**  Whatever the code of the script and the text of the template hold,
the module tells whether there is a script and whether there is a template, and what the code and
the literal are: so modules are equal only if their parts are.  What is read of an assembled module
is the code that the engine returned, with the literal. -/
theorem readModule?_assembleModule :
    (∀ code template, readModule? (moduleText code (literalOf template)) =
      some (code, literalOf template)) ∧
    (∀ code template code' template',
      moduleText code (literalOf template) = moduleText code' (literalOf template') ↔
        code = code' ∧ literalOf template = literalOf template') ∧
    ∀ script template caller metadata engine,
      (assembleModule script (literalOf template) caller metadata engine).outcome.map
          (fun output => readModule? output.code) =
        (compiledCode script caller metadata engine).map fun code =>
          some (code, literalOf template) := by
  have hread (code : Option String) (template : Option (String × String)) :
      readModule? (moduleText code (literalOf template)) = some (code, literalOf template) :=
    readModule?_moduleText (fun _ => lineBreak_notMem_literalOf) code
  refine ⟨hread, fun code template code' template' => ⟨fun h => ?_, ?_⟩, ?_⟩
  · have hparts := congrArg readModule? h
    rw [hread, hread] at hparts
    exact Prod.mk.inj (Option.some.inj hparts)
  · rintro ⟨rfl, hliteral⟩
    rw [hliteral]
  · intro script template caller metadata engine
    rw [map_assembleModule readModule?]
    simp only [hread]

/-- With a line break in its literal, a module can have come from two pairs of parts. -/
theorem moduleText_lineBreak (first second third : String) :
    moduleText (some first) (some (second ++ "\n\x7d)();__vue_template__ = '" ++ third)) =
      moduleText (some (first ++ "\n\x7d)();__vue_template__ = '" ++ second)) (some third) := by
  have hclose : "\n\x7d)();__vue_template__ = '" = "\n\x7d)();" ++ "__vue_template__ = '" := by simp
  have hparts (start opening finish mark quote tail : String) :
      start ++ (opening ++ first ++ finish) ++
          (mark ++ (second ++ (finish ++ mark) ++ third) ++ quote) ++ tail =
        start ++ (opening ++ (first ++ (finish ++ mark) ++ second) ++ finish) ++
          (mark ++ third ++ quote) ++ tail := by
    simp only [String.append_assoc]
  rw [hclose]
  exact hparts moduleHeader _ _ _ _ moduleTail

end ComponentFile
