/-!
# Blank characters

Component files may be indented with any Unicode white space, so every place where the grammar
says "blank" means the `White_Space` property and not just the ASCII blanks.

* `isBlank` — the property, as a table of ranges.
* `dropBlanks`, `takeBlanks` — the leading run of blanks and what follows it.
-/

namespace ComponentFile

/-- Unicode white space: the ASCII blanks, next line, the no-break space, and the spaces and
separators of the general punctuation and ideographic blocks. -/
def isBlank (c : Char) : Bool :=
  let n := c.toNat
  (0x09 ≤ n && n ≤ 0x0D) || n == 0x20 || n == 0x85 || n == 0xA0 || n == 0x1680 ||
    (0x2000 ≤ n && n ≤ 0x200A) || n == 0x2028 || n == 0x2029 || n == 0x202F || n == 0x205F ||
    n == 0x3000

/-- The leading run of blanks. -/
def takeBlanks (text : List Char) : List Char := text.takeWhile isBlank

/-- What follows the leading run of blanks. -/
def dropBlanks (text : List Char) : List Char := text.dropWhile isBlank

theorem takeBlanks_append_dropBlanks (text : List Char) :
    takeBlanks text ++ dropBlanks text = text :=
  List.takeWhile_append_dropWhile

theorem length_dropBlanks_le (text : List Char) : (dropBlanks text).length ≤ text.length :=
  (List.dropWhile_sublist isBlank).length_le

end ComponentFile
