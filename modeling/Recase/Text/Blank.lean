import Recase.Text.Ranges

namespace Recase
namespace Text

/-!
# Blanks

The characters with the property `White_Space`.  Lines are trimmed of them,
and they separate the words of a table header.  The information separators
U+001C to U+001F, the zero width space and the byte order mark are not among
them.
-/

/-- The ranges of `White_Space`. -/
def blankRanges : Ranges where
  list :=
    [(0x9, 0xD), (0x20, 0x20), (0x85, 0x85), (0xA0, 0xA0), (0x1680, 0x1680), (0x2000, 0x200A),
     (0x2028, 0x2029), (0x202F, 0x202F), (0x205F, 0x205F), (0x3000, 0x3000)]
  increasing := by decide +kernel

def isBlank (char : Char) : Bool :=
  blankRanges.covers char.toNat

def trimLeft (chars : List Char) : List Char :=
  chars.dropWhile isBlank

def trimRight (chars : List Char) : List Char :=
  (trimLeft chars.reverse).reverse

/-- A text without the blanks at its two ends. -/
def trim (chars : List Char) : List Char :=
  trimRight (trimLeft chars)

end Text
end Recase
