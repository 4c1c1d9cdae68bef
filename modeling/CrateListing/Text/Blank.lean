import CrateListing.Text.Range
import CrateListing.Text.CodePoint

/-!
# Blank characters

The characters with the Unicode property `White_Space`: those that may
surround an integer literal.  The separators U+001C to U+001F and the
zero-width space are not among them.
-/

namespace CrateListing
namespace Text

/-- Code points with the property `White_Space`. -/
def blankRanges : Ranges :=
  [(0x09, 0x0d), (0x20, 0x20), (0x85, 0x85), (0xa0, 0xa0), (0x1680, 0x1680),
   (0x2000, 0x200a), (0x2028, 0x2029), (0x202f, 0x202f), (0x205f, 0x205f),
   (0x3000, 0x3000)]

/-- A blank character. -/
def isBlank (c : CodePoint) : Bool :=
  blankRanges.holds c.toNat

/-- The text without the blanks at its front. -/
def dropBlanks (text : List CodePoint) : List CodePoint :=
  text.dropWhile isBlank

end Text
end CrateListing
