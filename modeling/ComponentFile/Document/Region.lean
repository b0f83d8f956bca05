import ComponentFile.Diagnostic
import ComponentFile.Document.Markup

/-!
# Regions of a document

A document is a sequence of regions with blanks and comments between them.  A region whose closing
tag is missing takes the rest of the document and says so when its contents are asked for, so that
the regions before it are still found.

* `Region` — a region with its attributes and byte offsets.
* `scan` — the regions of a document in order, or the first thing at the top level that is none.
-/

namespace ComponentFile

/-- A region of a document.  Offsets are in bytes: of the `<` of its opening tag, and of the first
byte of its contents.  An error in place of the contents is in the coordinates of the contents. -/
structure Region where
  name : String
  attributes : Attributes
  tagStart : Nat
  contentsStart : Nat
  contents : Except CompileError String

/-- The error that a fault in the region of the given name is. -/
def RegionFault.error (name : String) : RegionFault → CompileError
  | unclosed offset => .region (some name) (.unclosed name) offset
  | unclosedComment offset => .region (some name) .unclosedComment offset

/-- The region that an opening tag begins, and the text after it.  `start` is the offset of the
tag, and `body` the text after the tag. -/
def Region.ofTag (tag : OpenTag) (start : Nat) (body : List Char) : Region × List Char :=
  let name := tag.name.map Char.toLower
  let region (contents : Except CompileError String) : Region :=
    { name := String.ofList name
      attributes := Attributes.ofText tag.attributeText
      tagStart := start
      contentsStart := start + byteLength tag.chars
      contents }
  if tag.selfClosing then (region (.ok ""), body)
  else
    match closeRegion name body with
    | .ok (contents, rest) => (region (.ok (String.ofList contents)), rest)
    | .error fault => (region (.error (fault.error (String.ofList name))), [])

theorem length_ofTag_le (tag : OpenTag) (start : Nat) (body : List Char) :
    (Region.ofTag tag start body).2.length ≤ body.length := by
  unfold Region.ofTag
  dsimp only
  split
  · exact Nat.le_refl _
  · split
    · next h => exact length_of_closeRegion h
    · simp

/-- The regions of the rest of a document that begins at byte `start`. -/
def scanFrom (start : Nat) (text : List Char) : Except CompileError (List Region) :=
  let here := start + byteLength (takeBlanks text)
  match _ht : dropBlanks text with
  | [] => .ok []
  | c :: cs =>
    if (afterLiteral? commentOpen (c :: cs)).isSome then
      match _hc : splitAtFirst? commentClose (c :: cs) with
      | none => .error (.region none .unclosedComment here)
      | some (inside, rest) => scanFrom (here + byteLength (inside ++ commentClose)) rest
    else
      match _hr : OpenTag.read (c :: cs) with
      | none => .error (.region none .strayText here)
      | some (tag, body) =>
        match _ho : Region.ofTag tag here body with
        | (region, rest) =>
          let next := here + (byteLength (c :: cs) - byteLength rest)
          (scanFrom next rest).map (region :: ·)
termination_by text.length
decreasing_by
  all_goals have hle := length_dropBlanks_le text
  · have := eq_of_splitAtFirst? _hc
    have := congrArg List.length this
    simp_all [commentClose]; omega
  · have hlt := OpenTag.length_of_read _hr
    have := _ho ▸ length_ofTag_le tag here body
    simp_all; omega

/-- The regions of a document, in order.  Blanks and comments between regions are passed over;
anything else at the top level is an error at its offset. -/
def scan (source : String) : Except CompileError (List Region) := scanFrom 0 source.toList

end ComponentFile
