import Concordance.Text.Basic
import Concordance.Text.CodeRange

/-!
# White space

The characters with the Unicode property White_Space, and what they separate: a text without the
white space around it, and the fields between white space.

Model of `trim` and `split_whitespace`.
-/

namespace Concordance.Text

/-- The white-space characters. -/
def spaceRanges : CodeRanges :=
  [(0x9, 0xD), (0x20, 0x20), (0x85, 0x85), (0xA0, 0xA0), (0x1680, 0x1680), (0x2000, 0x200A),
    (0x2028, 0x2029), (0x202F, 0x202F), (0x205F, 0x205F), (0x3000, 0x3000)]

/-- Whether a character is white space. -/
def isSpace (c : Char) : Bool := spaceRanges.contains c.toNat

/-- The text without the white space at its start. -/
def trimStart (t : Text) : Text := t.dropWhile isSpace

/-- The text without the white space at its end. -/
def trimEnd (t : Text) : Text := (t.reverse.dropWhile isSpace).reverse

/-- The text without the white space at both ends. -/
def trim (t : Text) : Text := trimEnd (trimStart t)

/-- Whether a text has no other characters than white space. -/
def isBlank (t : Text) : Bool := t.all isSpace

/-- The non-empty parts of a text between white space. -/
def fields (t : Text) : List Text := (pieces isSpace t).filter fun w => !w.isEmpty

end Concordance.Text
