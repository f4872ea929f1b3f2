/-!
# Blank characters

The characters that separate tokens and pad texts: the controls U+0009-000D and U+001C-001F, the
space, and the space and separator characters of Unicode. The zero-width space U+200B and the byte
order mark U+FEFF are not blank.
-/

namespace Scaffold.Text

/-- The blank characters beyond U+0020, as ranges of code points. -/
def blankRanges : List (Nat × Nat) :=
  [(0x85, 0x85), (0xA0, 0xA0), (0x1680, 0x1680), (0x2000, 0x200A), (0x2028, 0x2029),
    (0x202F, 0x202F), (0x205F, 0x205F), (0x3000, 0x3000)]

/-- Is `c` a blank? -/
def isBlank (c : Char) : Bool :=
  let n := c.toNat
  (0x09 ≤ n && n ≤ 0x0D) || (0x1C ≤ n && n ≤ 0x20) ||
    blankRanges.any fun (lo, hi) => lo ≤ n && n ≤ hi

/-- `cs` without its leading blanks. -/
def trimStart (cs : List Char) : List Char := cs.dropWhile isBlank

/-- `cs` without its trailing blanks. -/
def trimEnd (cs : List Char) : List Char := (cs.reverse.dropWhile isBlank).reverse

/-- `cs` without the blanks at both ends. -/
def trim (cs : List Char) : List Char := trimEnd (trimStart cs)

/-- A text without the blanks at both ends. -/
def trimmed (s : String) : String := String.ofList (trim s.toList)

end Scaffold.Text
