import CrateListing.Text.Basic

/-!
# Source spans and names

Where a piece of a program was written, and the qualified names of
declarations.
-/

namespace CrateListing

/-- A stretch of source text. -/
structure Span where
  startLine : Int
  startColumn : Int
  endLine : Int
  endColumn : Int
  file : Option Text
deriving DecidableEq, Repr

/-- A qualified name, from the crate inwards. -/
abbrev Name := List Text

/-- The segments of a name joined by double colons. -/
def Name.joined (name : Name) : Text :=
  Text.intercalate "::" name

end CrateListing
