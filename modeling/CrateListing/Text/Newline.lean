import CrateListing.Text.CodePoint

/-!
# Line ends

Text files end their lines with a line feed, a carriage return or both; inside
the program a line ends with a line feed.
-/

namespace CrateListing
namespace Text

/-- Every carriage return, together with a line feed that follows it, becomes one line feed. -/
def normalizeNewlines : List CodePoint → List CodePoint
  | [] => []
  | .char '\r' :: .char '\n' :: rest => '\n' :: normalizeNewlines rest
  | c :: rest => (if c = '\r' then '\n' else c) :: normalizeNewlines rest

/-- The one-based line and column of a place, given the text before it. -/
def lineColumn (before : List CodePoint) : Nat × Nat :=
  (before.count (.char '\n') + 1, (before.reverse.takeWhile (· ≠ .char '\n')).length + 1)

end Text
end CrateListing
