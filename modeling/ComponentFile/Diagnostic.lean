import ComponentFile.Text.Location

/-!
# Errors and diagnostics

Every way in which compiling a document can fail, as causes; their wording is in one place.  All
of them end the compilation of their document.

* `RegionProblem`, `CompileError` — the causes found in the document itself, and
  `CompileError.transform` for what a script or style engine reports.
* `CompileError.message`, `CompileError.code` — wording and stable code.
* `CompileError.shift` — moves a problem inside a region to document coordinates.
* `CompileError.diagnostic`, `CompileError.report` — the two forms in which a host learns of it.
-/

namespace ComponentFile

/-! ## Engine errors -/

/-- The engine that failed. -/
inductive Stage where
  | script
  | style
deriving DecidableEq, Repr

/-- The region kind that a stage works on. -/
def Stage.name : Stage → String
  | script => "script"
  | style => "style"

/-- A failure reported by an engine.  Its position refers to the text that the engine was given. -/
structure TransformError where
  stage : Stage
  message : String
  offset : Option Nat := none
  location : Option Location := none
deriving DecidableEq, Repr

/-! ## Document errors -/

/-- What can be wrong with the text of a document. -/
inductive RegionProblem where
  /-- A region has no closing tag. -/
  | unclosed (tag : String)
  /-- A comment has no end. -/
  | unclosedComment
  /-- Something other than a region stands at the top level. -/
  | strayText
  /-- A host's own reader found something else. -/
  | reported (message : String)
deriving DecidableEq, Repr

/-- The wording of a problem. -/
def RegionProblem.message : RegionProblem → String
  | unclosed tag => "Unclosed <" ++ tag ++ ">"
  | unclosedComment => "Unclosed HTML comment"
  | strayText => "Expected one of: <template>, <script>, <style>"
  | reported message => message

/-- Every way in which compiling a document can fail. -/
inductive CompileError where
  /-- A second region of a kind that a document has at most once. -/
  | duplicateTag (tag : String) (offset : Nat)
  /-- A region of no known kind. -/
  | unrecognizedTag (tag : String) (offset : Nat)
  /-- A problem in the text of the document or of one of its regions. -/
  | region (tag : Option String) (problem : RegionProblem) (offset : Nat)
  /-- An engine failed. -/
  | transform (error : TransformError)
deriving DecidableEq, Repr

namespace CompileError

/-- The wording of an error. -/
def message : CompileError → String
  | duplicateTag tag _ => "Only one <" ++ tag ++ "> allowed in component file"
  | unrecognizedTag _ _ => "Expected <template>, <script>, or <style> tag in template file"
  | region _ problem _ => problem.message
  | transform error => error.message

/-- The stable code of an error. -/
def code : CompileError → String
  | duplicateTag _ _ => "V-ERR-DUPLICATE-TAG"
  | unrecognizedTag _ _ => "V-ERR-UNRECOGNIZED-TAG"
  | region _ _ _ => "V-ERR-REGION-PARSE"
  | transform ⟨.script, _, _, _⟩ => "V-ERR-SCRIPT-TRANSFORM"
  | transform ⟨.style, _, _, _⟩ => "V-ERR-STYLE-TRANSFORM"

/-- The promise about accepted documents that the error says is broken. -/
def guarantee : CompileError → String
  | duplicateTag _ _ => "A component file holds at most one <template> and one <script>."
  | unrecognizedTag _ _ => "Only <template>, <script> and <style> regions appear at the top level."
  | region _ _ _ => "Every region is closed and positions refer to the whole document."
  | transform ⟨.script, _, _, _⟩ => "The script region is valid input for the script engine."
  | transform ⟨.style, _, _, _⟩ => "Every style region is valid input for the stylesheet engine."

/-- The tag that an error is about. -/
def tag? : CompileError → Option String
  | duplicateTag tag _ => some tag
  | unrecognizedTag tag _ => some tag
  | region tag _ _ => tag
  | transform error => some error.stage.name

/-- The byte offset of an error. -/
def offset? : CompileError → Option Nat
  | duplicateTag _ offset => some offset
  | unrecognizedTag _ offset => some offset
  | region _ _ offset => some offset
  | transform error => error.offset

/-! ## Coordinates -/

/-- Moves a problem found inside a text to the coordinates of the document, in which the text
begins at byte `base`.  The other errors are in document coordinates already, or stay in those of
their engine. -/
def shift (base : Nat) : CompileError → CompileError
  | region tag problem offset => region tag problem (base + offset)
  | error => error

/-- Gives a problem that names no tag the name of the region it was found in. -/
def inRegion (name : String) : CompileError → CompileError
  | region none problem offset => region (some name) problem offset
  | error => error

/-- Where an error is in the document.  Engine positions refer to the engine's text, so an engine
error is only placed by the location it brings along. -/
def location (source : String) : CompileError → Location
  | duplicateTag _ offset => .ofOffset source offset
  | unrecognizedTag _ offset => .ofOffset source offset
  | region _ _ offset => .ofOffset source offset
  | transform error => error.location.getD .unknown

end CompileError

/-! ## What a host sees -/

/-- An error as a flat record.  Offsets are 32-bit numbers in this format. -/
structure Diagnostic where
  code : String
  message : String
  guarantee : String
  file : String
  offset : Option UInt32
  line : Nat
  column : Nat
deriving DecidableEq, Repr

/-- An error as the three facts given to a host's error reporter. -/
structure Report where
  tag : Option String
  message : String
  offset : Option Nat
deriving DecidableEq, Repr

namespace CompileError

/-- The diagnostic of an error in the document `source` of the given file name. -/
def diagnostic (error : CompileError) (source file : String) : Diagnostic where
  code := error.code
  message := error.message
  guarantee := error.guarantee
  file := file
  offset := error.offset?.map UInt32.ofNat
  line := (error.location source).line
  column := (error.location source).column

/-- What an error reporter is told. -/
def report (error : CompileError) : Report := ⟨error.tag?, error.message, error.offset?⟩

end CompileError

end ComponentFile
