import ComponentFile.Text.Search

/-!
# Lines and columns

Errors carry byte offsets; people read lines and columns.  An offset inside a character stands
for the place before that character, and an offset past the end stands for the end.

* `takeBytes` — the longest beginning of a text, in whole characters, that fits in so many bytes.
* `Location.ofOffset` — the line and column of a byte offset, both counted from 1.
-/

namespace ComponentFile

/-- A line and a column.  Lines and columns of a text count from 1; `Location.unknown` is the
place that no text has. -/
structure Location where
  line : Nat
  column : Nat
deriving DecidableEq, Repr

/-- The place given when none is known. -/
def Location.unknown : Location := ⟨0, 0⟩

/-- The longest beginning of a text that consists of whole characters and has at most `bytes`
bytes. -/
def takeBytes : (bytes : Nat) → List Char → List Char
  | _, [] => []
  | bytes, c :: cs => if c.utf8Size ≤ bytes then c :: takeBytes (bytes - c.utf8Size) cs else []

theorem byteLength_takeBytes_le (bytes : Nat) (text : List Char) :
    byteLength (takeBytes bytes text) ≤ bytes := by
  induction text generalizing bytes with
  | nil => simp [takeBytes]
  | cons c cs ih =>
    rw [takeBytes]
    split
    · have := ih (bytes - c.utf8Size)
      simp; omega
    · simp

namespace Location

/-- The place reached after reading a text from its start: the line is one more than the number of
line feeds read, the column one more than the number of characters since the last of them. -/
def after (read : List Char) : Location where
  line := read.count '\n' + 1
  column := (read.reverse.takeWhile (· ≠ '\n')).length + 1

/-- The line and column of a byte offset. -/
def ofOffset (source : String) (offset : Nat) : Location :=
  after (takeBytes offset source.toList)

end Location

end ComponentFile
